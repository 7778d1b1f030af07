import Abacus.Expression
import Abacus.Proofs.Classification
import Abacus.Proofs.Conservation
import Mathlib.Data.List.Chain

/-! Operands side by side. Of terms that have roles, brackets that match and a program of depth one,
nothing but two operands without an operator between them can keep the terms from being infix. -/

namespace Abacus

namespace Role

/-- An operand ends with a term of this role. -/
def ends : Role → Bool
  | number | letter | closing => true
  | _ => false

/-- An operand begins with a term of this role. -/
def begins : Role → Bool
  | number | letter | function | unary | opening => true
  | _ => false

end Role

/-- No operand begins right behind the end of another. -/
def Separated (terms : List Term) : Prop :=
  terms.IsChain fun left right => left.role.ends = true → right.role.begins = false

theorem Phrase.separated {category : Category} (phrase : Phrase category) :
    Separated phrase.terms := by
  unfold Separated
  induction phrase with
  | operand term role => exact .singleton term
  | call function role argument ih =>
    exact List.isChain_cons.mpr ⟨by simp [role, Role.ends], ih⟩
  | group opening opens body closing closes ih =>
    refine List.isChain_cons.mpr ⟨by simp [opens, Role.ends], ?_⟩
    exact List.isChain_append.mpr ⟨ih, .singleton closing, by simp [closes, Role.begins]⟩
  | bare primary ih => exact ih
  | signed sign role argument ih =>
    exact List.isChain_cons.mpr ⟨by simp [role, Role.ends], ih⟩
  | first head ih => exact ih
  | link chain operator role next chainSeparated nextSeparated =>
    refine List.isChain_append.mpr ⟨chainSeparated, ?_, by simp [role, Role.begins]⟩
    exact List.isChain_cons.mpr ⟨by simp [role, Role.ends], nextSeparated⟩

/-- The terms become an expression with any phrase of the category behind them. -/
def Awaits (terms : List Term) (category : Category) : Prop :=
  ∀ phrase : Phrase category, Infix (terms ++ phrase.terms)

namespace Awaits
variable {terms : List Term}

theorem nil : Awaits [] .unary := by
  intro phrase
  exact ⟨.first phrase, rfl⟩

theorem primary (awaits : Awaits terms .unary) : Awaits terms .primary := by
  intro phrase
  exact awaits (.bare phrase)

theorem operand (awaits : Awaits terms .primary) {term : Term}
    (role : term.role.isOperand = true) : Infix (terms ++ [term]) :=
  awaits (.operand term role)

theorem function (awaits : Awaits terms .primary) {function : Term}
    (role : function.role = .function) : Awaits (terms ++ [function]) .primary := by
  intro phrase
  simpa [Phrase.terms] using awaits (.call function role phrase)

theorem sign (awaits : Awaits terms .unary) {sign : Term} (role : sign.role = .unary) :
    Awaits (terms ++ [sign]) .unary := by
  intro phrase
  simpa [Phrase.terms] using awaits (.signed sign role phrase)

theorem group (awaits : Awaits terms .primary) {body : List Term} (expression : Infix body)
    {opening closing : Term} (opens : opening.role = .opening) (closes : closing.role = .closing) :
    Infix (terms ++ [opening] ++ body ++ [closing]) := by
  obtain ⟨phrase, rfl⟩ := expression
  simpa [Phrase.terms] using awaits (.group opening opens phrase closing closes)

end Awaits

theorem Infix.operator {terms : List Term} (expression : Infix terms) {operator : Term}
    (role : operator.role = .binary) : Awaits (terms ++ [operator]) .unary := by
  obtain ⟨chain, rfl⟩ := expression
  intro phrase
  exact ⟨.link chain operator role phrase, by simp [Phrase.terms]⟩

/-- The terms end with opening brackets of groups within each other, each group awaited by what
stands between its bracket and the one before. -/
inductive Opens : Nat → List Term → Prop where
  | nil : Opens 0 []
  | group {depth : Nat} {outer before : List Term} {opening : Term} (around : Opens depth outer)
    (awaits : Awaits before .primary) (opens : opening.role = .opening) :
    Opens (depth + 1) (outer ++ (before ++ [opening]))

/-- What the terms of the innermost group amount to, up to a term of the given role. -/
def Reached (previous : Option Role) (terms : List Term) : Prop :=
  if previous.any Role.ends then Infix terms
  else if Registry.operandDue previous then Awaits terms .unary
  else Awaits terms .primary

/-- The terms can be read on to an infix expression. -/
def Viable (previous : Option Role) (depth : Nat) (before : List Term) : Prop :=
  ∃ outer inner, before = outer ++ inner ∧ Opens depth outer ∧ Reached previous inner

/-- A role has a place behind a term of another role. -/
def Fits (previous : Option Role) : Role → Prop
  | .number | .letter | .function | .opening => previous.any Role.ends = false
  | .unary => Registry.operandDue previous = true
  | .binary | .closing => previous.any Role.ends = true
  | .unassigned => False

/-- Every term has a place, and so has the end. -/
def Placed (previous : Option Role) : List Term → Prop
  | [] => previous.any Role.ends = true
  | term :: rest => Fits previous term.role ∧ Placed (some term.role) rest

theorem Reached.primary {previous : Option Role} {terms : List Term}
    (reached : Reached previous terms) (due : previous.any Role.ends = false) :
    Awaits terms .primary := by
  unfold Reached at reached
  rw [due] at reached
  split at reached
  · contradiction
  · split at reached
    · exact reached.primary
    · exact reached

theorem not_ends_of_operandDue {previous : Option Role}
    (due : Registry.operandDue previous = true) : previous.any Role.ends = false := by
  cases previous with
  | none => rfl
  | some role => cases role <;> simp_all [Registry.operandDue, Role.ends]

theorem Reached.unary {previous : Option Role} {terms : List Term}
    (reached : Reached previous terms) (due : Registry.operandDue previous = true) :
    Awaits terms .unary := by
  simpa [Reached, due, not_ends_of_operandDue due] using reached

theorem Reached.expression {previous : Option Role} {terms : List Term}
    (reached : Reached previous terms) (ends : previous.any Role.ends = true) : Infix terms := by
  simpa [Reached, ends] using reached

/-- A term that has a place is read, and its bracket counted. -/
theorem Viable.read {previous : Option Role} {depth : Nat} {before rest : List Term} {term : Term}
    (viable : Viable previous depth before) (fits : Fits previous term.role)
    (balanced : Program.openAfter depth (term :: rest) = some 0) :
    ∃ next, Viable (some term.role) next (before ++ [term]) ∧
      Program.openAfter next rest = some 0 := by
  obtain ⟨outer, inner, rfl, opens, reached⟩ := viable
  have within (result : Reached (some term.role) (inner ++ [term])) :
      Viable (some term.role) depth (outer ++ inner ++ [term]) :=
    ⟨outer, inner ++ [term], by simp, opens, result⟩
  unfold Program.openAfter at balanced
  cases role : term.role with
  | number | letter =>
    rw [role] at fits within balanced
    refine ⟨depth, within ?_, balanced⟩
    exact (reached.primary fits).operand (by simp [role, Role.isOperand])
  | function =>
    rw [role] at fits within balanced
    exact ⟨depth, within ((reached.primary fits).function role), balanced⟩
  | unary =>
    rw [role] at fits within balanced
    exact ⟨depth, within ((reached.unary fits).sign role), balanced⟩
  | binary =>
    rw [role] at fits within balanced
    exact ⟨depth, within ((reached.expression fits).operator role), balanced⟩
  | opening =>
    rw [role] at fits balanced
    refine ⟨depth + 1, ⟨outer ++ (inner ++ [term]), [], by simp, ?_, Awaits.nil⟩, balanced⟩
    exact .group opens (reached.primary fits) role
  | closing =>
    rw [role] at fits balanced
    cases opens with
    | nil => cases balanced
    | group around awaits starts =>
      rename_i depth outer waiting opening
      refine ⟨depth, ⟨outer, waiting ++ [opening] ++ inner ++ [term], by simp, around, ?_⟩,
        balanced⟩
      exact awaits.group (reached.expression fits) starts role
  | unassigned =>
    rw [role] at fits
    exact fits.elim

/-- Terms that have a place and brackets that match are infix. -/
theorem infix_of_placed {previous : Option Role} {depth : Nat} {before terms : List Term}
    (viable : Viable previous depth before) (placed : Placed previous terms)
    (balanced : Program.openAfter depth terms = some 0) : Infix (before ++ terms) := by
  induction terms generalizing previous depth before with
  | nil =>
    obtain ⟨outer, inner, rfl, opens, reached⟩ := viable
    obtain rfl := Option.some.inj balanced
    cases opens
    simpa using reached.expression placed
  | cons term rest ih =>
    obtain ⟨fits, later⟩ := placed
    obtain ⟨next, read, remains⟩ := viable.read fits balanced
    simpa using ih read later remains

/-- Operands, each of which adds a value. -/
def operands (terms : List Term) : Nat :=
  terms.countP (·.role.isOperand)

/-- Binary operators, each of which takes one value more than it gives. -/
def operators (terms : List Term) : Nat :=
  terms.countP (·.role = .binary)

theorem operands_cons (term : Term) (terms : List Term) :
    operands (term :: terms) = operands terms + if term.role.isOperand then 1 else 0 :=
  List.countP_cons ..

theorem operators_cons (term : Term) (terms : List Term) :
    operators (term :: terms) = operators terms + if term.role = .binary then 1 else 0 := by
  simp [operators, List.countP_cons]

/-- The depth of a program is the number of its operands less that of its binary operators. -/
theorem depthFrom_balance {depth final : Nat} {program : List Term}
    (found : Program.depthFrom depth program = some final) :
    final + operators program = depth + operands program := by
  induction program generalizing depth with
  | nil =>
    obtain rfl := Option.some.inj found
    rfl
  | cons term rest ih =>
    obtain ⟨next, after, later⟩ := Option.bind_eq_some_iff.mp found
    have balance := ih later
    rw [operators_cons, operands_cons]
    unfold Program.depthAfter at after
    cases role : term.role <;>
      simp only [role, Option.some.injEq, Option.ite_none_left_eq_some] at after <;>
      simp [Role.isOperand] <;> omega

/-- Brackets do not count. -/
theorem operands_unbracketed (terms : List Term) :
    operands (unbracketed terms) = operands terms := by
  simp only [operands, unbracketed, List.countP_filter]
  apply List.countP_congr
  intro term _
  cases term.role <;> simp [Role.isOperand, Role.isBracket]

theorem operators_unbracketed (terms : List Term) :
    operators (unbracketed terms) = operators terms := by
  simp only [operators, unbracketed, List.countP_filter]
  apply List.countP_congr
  intro term _
  cases term.role <;> simp [Role.isBracket]

/-- The operands that are due: one, unless one has just ended. -/
def due (previous : Option Role) : Nat :=
  if previous.any Role.ends then 0 else 1

theorem due_le_one (previous : Option Role) : due previous ≤ 1 := by
  unfold due
  split
  · exact Nat.zero_le 1
  · exact Nat.le_refl 1

theorem due_eq_one {previous : Option Role} (begins : previous.any Role.ends = false) :
    due previous = 1 := by
  simp [due, begins]

theorem ends_of_due_eq_zero {previous : Option Role} (none : due previous = 0) :
    previous.any Role.ends = true := by
  simpa [due] using none

/-- Separated terms have too few operands for their binary operators, unless each has a place. -/
theorem operands_le {registry : Registry} {previous : Option Role} {terms : List Term}
    (assigned : registry.Assigned previous terms) (separated : Separated terms)
    (start : ∀ next ∈ terms.head?, previous.any Role.ends = true → next.role.begins = false) :
    operands terms ≤ operators terms + due previous ∧
      (operands terms = operators terms + due previous → Placed previous terms) := by
  induction assigned with
  | @nil previous =>
    constructor
    · exact Nat.zero_le _
    · intro none
      cases ends : previous.any Role.ends
      · simp [due, ends, operands, operators] at none
      · exact ends
  | @cons previous term terms plays rest ih =>
    obtain ⟨next, others⟩ := List.isChain_cons.mp separated
    obtain ⟨bound, places⟩ := ih others next
    rw [operands_cons, operators_cons]
    obtain ⟨text, role⟩ := term
    have begun (begins : role.begins = true) : previous.any Role.ends = false := by
      rw [Bool.eq_false_iff]
      intro ends
      rw [start _ rfl ends] at begins
      cases begins
    have atMost := due_le_one previous
    cases plays with
    | number | letter =>
      have fits := begun rfl
      simp only [due, Option.any_some, Role.ends, ↓reduceIte] at bound places
      rw [due_eq_one fits]
      simp only [Role.isOperand, reduceCtorEq, ↓reduceIte]
      constructor
      · omega
      · intro same
        exact ⟨fits, places (by omega)⟩
    | function | opening =>
      have fits := begun rfl
      rw [due_eq_one fits]
      exact ⟨bound, fun same => ⟨fits, places same⟩⟩
    | unary operandDue =>
      rw [due_eq_one (not_ends_of_operandDue operandDue)]
      exact ⟨bound, fun same => ⟨operandDue, places same⟩⟩
    | closing =>
      -- Without an operand before it a bracket leaves one out for good.
      have closed : operands terms ≤ operators terms := bound
      simp only [Role.isOperand, reduceCtorEq, Bool.false_eq_true, ↓reduceIte, Nat.add_zero]
      constructor
      · omega
      · intro same
        have none : due previous = 0 := by omega
        rw [none] at same
        exact ⟨ends_of_due_eq_zero none, places same⟩
    | binary =>
      have begins : operands terms ≤ operators terms + 1 := bound
      simp only [Role.isOperand, Bool.false_eq_true, ↓reduceIte, Nat.add_zero]
      constructor
      · omega
      · intro same
        have none : due previous = 0 := by omega
        rw [none] at same
        exact ⟨ends_of_due_eq_zero none, places same⟩

/-- Separated terms with a program are infix. -/
theorem infix_of_arranged {registry : Registry} {terms program : List Term}
    (assigned : registry.Assigned none terms) (above : Program.Above registry terms)
    (separated : Separated terms) (found : Program.arranged registry terms = .ok program) :
    Infix terms := by
  obtain ⟨perm, balanced, depth⟩ := Program.conserves_of_arranged above found
  have sameOperands : operands program = operands terms :=
    (perm.countP_eq _).trans (operands_unbracketed terms)
  have sameOperators : operators program = operators terms :=
    (perm.countP_eq _).trans (operators_unbracketed terms)
  have balance := depthFrom_balance depth
  obtain ⟨-, places⟩ := operands_le assigned separated (by simp)
  have one : due none = 1 := rfl
  have placed : Placed none terms := places (by omega)
  have start : Viable none 0 [] := ⟨[], [], rfl, .nil, Awaits.nil⟩
  simpa using infix_of_placed start placed balanced

theorem Registry.priority_standard (symbol : Text) :
    Priority.bracket < Registry.standard.priority symbol ∧
      Registry.standard.priority symbol ≤ Priority.unary := by
  have lookup : Registry.standard.priority symbol =
      (Priority.configured.get? symbol).getD Priority.common := rfl
  rw [lookup]
  cases found : Priority.configured.get? symbol with
  | none => decide
  | some value =>
    have bounded : ∀ entry ∈ Priority.configured.entries,
        Priority.bracket < entry.2 ∧ entry.2 ≤ Priority.unary := by decide
    exact bounded _ (Table.mem_of_get? found)

/-- What is read in the standard registry is infix exactly if it is accepted and has no two operands
side by side. -/
theorem Registry.infix_iff_separated {source : Text} {lexemes : List Text} {terms : List Term}
    (lexed : Registry.standard.lexemes source = .ok lexemes)
    (classified : Registry.standard.terms lexemes = .ok terms) :
    (Infix terms ↔ Separated terms ∧
      ∃ program, Expression.compile Registry.standard source = .ok program) ∧
    (Separated terms → ¬ Infix terms →
      ∃ error, Expression.compile Registry.standard source = .error (.grammatical error)) := by
  have read (separated : Separated terms) {program : List Term}
      (found : Program.arranged Registry.standard terms = .ok program) : Infix terms :=
    infix_of_arranged (assigned_of_terms classified).1
      (fun term _ _ => (priority_standard term.text).1) separated found
  rw [Expression.compile_eq lexed classified]
  refine ⟨⟨?_, ?_⟩, ?_⟩
  · rintro ⟨phrase, rfl⟩
    have arranged := Program.arranged_of_tree (phrase.wellFormed_tree Registry.standard)
      (phrase.arrangedFrom_terms fun term _ _ => priority_standard term.text)
    exact ⟨phrase.separated, _, congrArg _ arranged⟩
  · rintro ⟨separated, program, accepted⟩
    cases found : Program.arranged Registry.standard terms with
    | error => simp [found, Except.mapError] at accepted
    | ok => exact read separated found
  · intro separated outside
    cases found : Program.arranged Registry.standard terms with
    | error error => exact ⟨error, rfl⟩
    | ok => exact (outside (read separated found)).elim

/-- A function in front of a variable is read as a call. -/
theorem Registry.infix_call :
    let lexemes : List Text := [['S', 'I', 'N'], ['X']]
    let terms : List Term := [⟨['S', 'I', 'N'], .function⟩, ⟨['X'], .letter⟩]
    Registry.standard.lexemes ['S', 'i', 'n', ' ', 'x'] = .ok lexemes ∧
    Registry.standard.terms lexemes = .ok terms ∧ Infix terms := by
  intro lexemes terms
  have lexed : Registry.standard.lexemes ['S', 'i', 'n', ' ', 'x'] = .ok lexemes := by
    decide +kernel
  have classified : Registry.standard.terms lexemes = .ok terms := by decide +kernel
  have separated : Separated terms := by simp [Separated, terms, Role.ends]
  have accepted : ∃ program,
      Expression.compile Registry.standard ['S', 'i', 'n', ' ', 'x'] = .ok program :=
    ⟨[⟨['X'], .letter⟩, ⟨['S', 'I', 'N'], .function⟩], by decide +kernel⟩
  exact ⟨lexed, classified, (infix_iff_separated lexed classified).1.mpr ⟨separated, accepted⟩⟩

/-- An operator behind both of its operands is accepted, though it is not infix. -/
theorem Registry.compile_operator_last :
    let terms : List Term := [⟨['1'], .number⟩, ⟨['X'], .letter⟩, ⟨['+'], .binary⟩]
    Registry.standard.lexemes ['1', 'X', '+'] = .ok (terms.map Term.text) ∧
    Registry.standard.terms (terms.map Term.text) = .ok terms ∧
    Expression.compile Registry.standard ['1', 'X', '+'] = .ok terms ∧ ¬ Infix terms := by
  intro terms
  refine ⟨by decide +kernel, by decide +kernel, by decide +kernel, ?_⟩
  rintro ⟨phrase, same⟩
  have separated := phrase.separated
  rw [same] at separated
  simp [Separated, terms, Role.ends, Role.begins] at separated

end Abacus
