import Abacus.Proofs.Congruence
import Abacus.Proofs.Derivation
import Abacus.Proofs.Substitution

/-! Alike registries. Registries that say the same about all pieces of a text read the text in the
same way. What a step of a derivation gives is no piece of a text that does not show the symbol, or
the first two characters of the name, and so the step makes no difference to the text. -/

namespace Abacus

namespace Registry

/-- Two registries have the same for each piece of a text. Names that start with a single character
of it may differ, since such a start is read on only to be given back. -/
structure Alike (first second : Registry) (text : Text) : Prop where
  functions : ∀ piece, piece <:+: text → first.functions.get? piece = second.functions.get? piece
  binary : ∀ piece, piece <:+: text → first.binary.get? piece = second.binary.get? piece
  unary : ∀ piece, piece <:+: text → first.unary.get? piece = second.unary.get? piece
  priority : ∀ piece, piece <:+: text → first.priority piece = second.priority piece
  starts : ∀ piece, piece <:+: text → 2 ≤ piece.length →
    first.startsFunction piece = second.startsFunction piece

namespace Alike
variable {first second third : Registry} {text : Text}

theorem refl (registry : Registry) (text : Text) : registry.Alike registry text :=
  ⟨fun _ _ => rfl, fun _ _ => rfl, fun _ _ => rfl, fun _ _ => rfl, fun _ _ _ => rfl⟩

theorem symm (alike : first.Alike second text) : second.Alike first text where
  functions piece within := (alike.functions piece within).symm
  binary piece within := (alike.binary piece within).symm
  unary piece within := (alike.unary piece within).symm
  priority piece within := (alike.priority piece within).symm
  starts piece within long := (alike.starts piece within long).symm

theorem trans (alike : first.Alike second text) (others : second.Alike third text) :
    first.Alike third text where
  functions piece within := (alike.functions piece within).trans (others.functions piece within)
  binary piece within := (alike.binary piece within).trans (others.binary piece within)
  unary piece within := (alike.unary piece within).trans (others.unary piece within)
  priority piece within := (alike.priority piece within).trans (others.priority piece within)
  starts piece within long :=
    (alike.starts piece within long).trans (others.starts piece within long)

theorem isFunction (alike : first.Alike second text) {piece : Text} (within : piece <:+: text) :
    first.isFunction piece = second.isFunction piece := by
  rw [Registry.isFunction, ← Table.isSome_get?, alike.functions piece within, Table.isSome_get?]
  rfl

theorem isBinary (alike : first.Alike second text) {piece : Text} (within : piece <:+: text) :
    first.isBinary piece = second.isBinary piece := by
  rw [Registry.isBinary, ← Table.isSome_get?, alike.binary piece within, Table.isSome_get?]
  rfl

theorem isUnary (alike : first.Alike second text) {piece : Text} (within : piece <:+: text) :
    first.isUnary piece = second.isUnary piece := by
  rw [Registry.isUnary, ← Table.isSome_get?, alike.unary piece within, Table.isSome_get?]
  rfl

/-- The first lexeme is the same. A longer candidate would be a piece of the text, and a single
character that starts a name in one of the registries only is no candidate for a name. -/
theorem leads (alike : first.Alike second text) {rest lexeme : Text} (within : rest <:+: text)
    (leads : first.Leads rest lexeme) : second.Leads rest lexeme := by
  cases leads with
  | symbol begins symbol =>
    have inside := begins.isInfix.trans within
    rw [isSymbol, alike.isBinary inside, alike.isUnary inside] at symbol
    exact .symbol begins symbol
  | number longest => exact .number longest
  | word longest named =>
    have inside := longest.begins.isInfix.trans within
    rw [isName, alike.isFunction inside] at named
    have viable : second.isViable lexeme = true := isViable_of_isName named
    refine .word ⟨longest.begins, viable, ?_⟩ named
    intro other begins otherViable
    by_cases long : 2 ≤ other.length
    · rw [isViable, ← alike.starts other (begins.isInfix.trans within) long] at otherViable
      exact longest.longest other begins otherViable
    · have nonempty : lexeme ≠ [] := by
        rintro rfl
        have none : second.isName [] = false := isName_nil
        rw [isName, named] at none
        cases none
      have least := List.length_pos_iff.mpr nonempty
      omega

theorem cut (alike : first.Alike second text) {lexemes : List Text} {rest : Text}
    (within : lexemes.flatten ++ rest <:+: text) (cut : first.Cut lexemes rest) :
    second.Cut lexemes rest := by
  induction lexemes with
  | nil => trivial
  | cons lexeme lexemes ih =>
    rw [List.flatten_cons, List.append_assoc] at within
    exact ⟨alike.leads within cut.1,
      ih ((List.suffix_append lexeme _).isInfix.trans within) cut.2⟩

theorem lexemes {source : Text} (alike : first.Alike second source.normalized)
    {lexemes : List Text} (lexed : first.lexemes source = .ok lexemes) :
    second.lexemes source = .ok lexemes := by
  obtain ⟨whole, cut⟩ := lexemes_eq_ok_iff.mp lexed
  have within : lexemes.flatten ++ [] <:+: source.normalized := by simp [whole]
  exact lexemes_eq_ok_iff.mpr ⟨whole, alike.cut within cut⟩

theorem role (alike : first.Alike second text) {lexeme : Text} (within : lexeme <:+: text)
    (previous : Option Role) : first.role previous lexeme = second.role previous lexeme := by
  simp only [Registry.role, operatorRole, alike.isFunction within, alike.isBinary within,
    alike.isUnary within]

theorem termsAfter (alike : first.Alike second text) {lexemes : List Text}
    (within : ∀ lexeme ∈ lexemes, lexeme <:+: text) (previous : Option Role) :
    first.termsAfter previous lexemes = second.termsAfter previous lexemes :=
  termsAfter_eq (fun lexeme member => alike.role (within lexeme member)) previous

end Alike
end Registry

namespace Program
variable {first second : Registry} {text : Text}

theorem goesFirst_alike (alike : first.Alike second text) {operator top : Term}
    (within : operator.text <:+: text) (topWithin : top.text <:+: text) :
    goesFirst first operator top = goesFirst second operator top := by
  have priority (term : Term) (within : term.text <:+: text) :
      term.priority first = term.priority second := by
    simp only [Term.priority, alike.priority term.text within]
  simp only [goesFirst, priority operator within, priority top topWithin]

theorem arranged_alike (alike : first.Alike second text) {terms : List Term}
    (within : ∀ term ∈ terms, term.text <:+: text) : arranged first terms = arranged second terms :=
  arranged_congr fun operator member top other =>
    goesFirst_alike alike (within operator member) (within top other)

end Program

namespace Machine
variable {first second : Registry} {text : Text} {Value : Type} (machine : Machine Value)

theorem steps_alike (alike : first.Alike second text) {program : List Term}
    (within : ∀ term ∈ program, term.text <:+: text) (stack : List Value) :
    machine.steps first stack program = machine.steps second stack program := by
  apply machine.steps_congr
  · intro term member
    simp only [unaryOf, found, alike.functions term.text (within term member),
      alike.unary term.text (within term member)]
  · intro term member
    simp only [binaryOf, found, alike.binary term.text (within term member)]

end Machine

namespace Extension

/-- What a text has to show for a step to make a difference to it: the symbol of an operator, or the
first two characters of the name of a function, or its only one. -/
def mark : Extension → Text
  | function name _ => name.take 2
  | binary symbol _ _ | unary symbol _ => symbol

variable {step : Extension}

theorem mark_of_function {entry : Text × Unary} (given : entry ∈ step.function?) :
    step.mark = entry.1.take 2 := by
  cases step with
  | function name operation =>
    obtain ⟨action, -, rfl⟩ := Option.map_eq_some_iff.mp given
    rfl
  | binary | unary => cases given

theorem mark_of_binary {entry : Text × Binary} (given : entry ∈ step.binary?) :
    step.mark = entry.1 := by
  cases step with
  | binary symbol operation priority =>
    obtain ⟨action, -, rfl⟩ := Option.map_eq_some_iff.mp given
    rfl
  | function | unary => cases given

theorem mark_of_unary {entry : Text × Unary} (given : entry ∈ step.unary?) :
    step.mark = entry.1 := by
  cases step with
  | unary symbol operation =>
    obtain ⟨action, -, rfl⟩ := Option.map_eq_some_iff.mp given
    rfl
  | function | binary => cases given

theorem mark_of_priority {entry : Text × Int} (given : entry ∈ step.priority?) :
    step.mark = entry.1 := by
  cases step with
  | binary symbol operation priority =>
    obtain ⟨value, -, rfl⟩ := Option.map_eq_some_iff.mp given
    rfl
  | function | unary => cases given

end Extension

namespace Registry

/-- What is given for other keys makes no difference. -/
private theorem get?_update_of_apart {Value : Type} {table : Table Text Value}
    {given : Option (Text × Value)} {key : Text} (apart : ∀ entry ∈ given, entry.1 ≠ key) :
    (table.update given.toList).get? key = table.get? key := by
  have absent : key ∉ given.toList.map Prod.fst := by
    intro member
    obtain ⟨entry, inside, same⟩ := List.mem_map.mp member
    exact apart entry (Option.mem_toList.mp inside) same
  rw [Table.get?_update, Table.last?_eq_none_iff.mpr absent, Option.none_or]

theorem Follows.alike {registry next : Registry} {step : Extension} {text : Text}
    (follows : registry.Follows step next) (unmentioned : ¬ step.mark <:+: text) :
    registry.Alike next text where
  functions piece within := by
    rw [follows.functions, get?_update_of_apart]
    rintro entry given rfl
    rw [Extension.mark_of_function given] at unmentioned
    exact unmentioned ((List.take_prefix 2 entry.1).isInfix.trans within)
  binary piece within := by
    rw [follows.binary, get?_update_of_apart]
    rintro entry given rfl
    exact unmentioned (Extension.mark_of_binary given ▸ within)
  unary piece within := by
    rw [follows.unary, get?_update_of_apart]
    rintro entry given rfl
    exact unmentioned (Extension.mark_of_unary given ▸ within)
  priority piece within := by
    have apart : piece ∉ step.priority?.toList.map Prod.fst := by
      intro member
      obtain ⟨entry, inside, rfl⟩ := List.mem_map.mp member
      exact unmentioned (Extension.mark_of_priority (Option.mem_toList.mp inside) ▸ within)
    rw [Registry.priority, Registry.priority, follows.get?_priorities,
      Table.last?_eq_none_iff.mpr apart, Option.none_or]
  starts piece within long := by
    rw [Bool.eq_iff_iff]
    simp only [startsFunction, List.any_eq_true, List.isPrefixOf_iff_prefix, follows.functions,
      Table.mem_keys_update]
    constructor
    · rintro ⟨name, known, begins⟩
      exact ⟨name, .inl known, begins⟩
    · rintro ⟨name, known | given, begins⟩
      · exact ⟨name, known, begins⟩
      · obtain ⟨entry, inside, rfl⟩ := List.mem_map.mp given
        -- A piece of two characters or more that starts the name shows the first two of them.
        have shown : entry.1.take 2 <+: piece :=
          List.prefix_of_prefix_length_le (List.take_prefix 2 entry.1) begins
            (Nat.le_trans (List.length_take_le 2 entry.1) long)
        rw [Extension.mark_of_function (Option.mem_toList.mp inside)] at unmentioned
        exact absurd (shown.isInfix.trans within) unmentioned

theorem alike_derived (registry : Registry) {steps : List Extension} {text : Text}
    (unmentioned : ∀ step ∈ steps, ¬ step.mark <:+: text) :
    registry.Alike (registry.derived steps) text := by
  induction steps generalizing registry with
  | nil => exact .refl registry text
  | cons step rest ih =>
    have later := fun next : Registry =>
      ih next fun other member => unmentioned other (by simp [member])
    rw [derived]
    cases made : registry.extended step with
    | error => exact later registry
    | ok next =>
      exact ((follows_of_extended made).alike (unmentioned step (by simp))).trans (later next)

end Registry

namespace Expression
variable {first second : Registry}

/-- Alike registries have the same lexemes, terms and program for a text, and the machine does the
same with the program. -/
theorem exists_of_compile_alike {source : Text} (alike : first.Alike second source.normalized)
    {program : List Term} (found : compile first source = .ok program) :
    ∃ lexemes terms, first.lexemes source = .ok lexemes ∧ second.lexemes source = .ok lexemes ∧
      first.terms lexemes = .ok terms ∧ second.terms lexemes = .ok terms ∧
      compile second source = .ok program ∧
      ∀ store, Program.value second program store = Program.value first program store := by
  obtain ⟨lexemes, terms, lexed, classified, arranged⟩ := exists_of_compile found
  have otherLexed := alike.lexemes lexed
  have pieces : ∀ lexeme ∈ lexemes, lexeme <:+: source.normalized := by
    intro lexeme member
    rw [← Registry.flatten_of_lexemes lexed]
    exact List.infix_of_mem_flatten member
  have otherClassified : second.terms lexemes = .ok terms :=
    (alike.termsAfter pieces none).symm.trans classified
  have within : ∀ term ∈ terms, term.text <:+: source.normalized := by
    obtain ⟨-, rfl⟩ := Registry.assigned_of_terms classified
    exact fun term member => pieces term.text (List.mem_map_of_mem member)
  have otherArranged := (Program.arranged_alike alike within).symm.trans arranged
  refine ⟨lexemes, terms, lexed, otherLexed, classified, otherClassified, ?_, ?_⟩
  · rw [compile_eq otherLexed otherClassified, otherArranged]
    rfl
  · intro store
    have inside : ∀ term ∈ program, term.text <:+: source.normalized := by
      intro term member
      obtain ⟨arrangement, -⟩ := Program.arranged_eq_ok_iff.mp arranged
      rcases Program.mem_of_arrangedFrom arrangement member with waits | comes
      · cases waits
      · exact within term comes
    simp only [Program.value, Machine.run, store.machine.steps_alike alike inside]

/-- Steps of a derivation make no difference to a text that shows the mark of none of them, whether
they add a key or replace an operation. The text is an expression in both registries or in neither,
with the same lexemes, terms and program, and with the same value under every store. -/
theorem parse_derived_unmentioned (registry : Registry) {steps : List Extension} {source : Text}
    (unmentioned : ∀ step ∈ steps, ¬ step.mark <:+: source.normalized) :
    ((∃ expression, parse registry source = .ok expression) ↔
      ∃ expression, parse (registry.derived steps) source = .ok expression) ∧
    ∀ expression derived, parse registry source = .ok expression →
      parse (registry.derived steps) source = .ok derived →
      (∃ lexemes terms, registry.lexemes source = .ok lexemes ∧
        (registry.derived steps).lexemes source = .ok lexemes ∧
        registry.terms lexemes = .ok terms ∧
        (registry.derived steps).terms lexemes = .ok terms) ∧
      derived.program = expression.program ∧
      ∀ store, derived.value store = expression.value store := by
  have alike := registry.alike_derived unmentioned
  refine ⟨⟨?_, ?_⟩, ?_⟩
  · rintro ⟨expression, accepted⟩
    obtain ⟨program, compiled, rfl⟩ := exists_of_parse accepted
    obtain ⟨-, -, -, -, -, -, found, -⟩ := exists_of_compile_alike alike compiled
    exact ⟨_, parse_of_compile found⟩
  · rintro ⟨derived, accepted⟩
    obtain ⟨program, compiled, rfl⟩ := exists_of_parse accepted
    obtain ⟨-, -, -, -, -, -, found, -⟩ := exists_of_compile_alike alike.symm compiled
    exact ⟨_, parse_of_compile found⟩
  · intro expression derived accepted otherAccepted
    obtain ⟨program, compiled, rfl⟩ := exists_of_parse accepted
    obtain ⟨lexemes, terms, lexed, otherLexed, classified, otherClassified, found, values⟩ :=
      exists_of_compile_alike alike compiled
    rw [parse_of_compile found, Except.ok.injEq] at otherAccepted
    subst otherAccepted
    exact ⟨⟨lexemes, terms, lexed, otherLexed, classified, otherClassified⟩, rfl, values⟩

/-- A square root and a remainder make no difference to `2*X-SIN(1)`, although `SIN` starts as
`SQRT` does. -/
theorem parse_derived_root_remainder :
    let source : Text := "2*x - sin(1)".toList
    let steps : List Extension := [.function "SQRT".toList (some Unary.squareRoot),
      .binary ['%'] (some Binary.modulo) (some 60)]
    (∀ step ∈ steps, ¬ step.mark <:+: source.normalized) ∧
    ∃ expression derived, parse Registry.standard source = .ok expression ∧
      parse (Registry.standard.derived steps) source = .ok derived ∧
      derived.program = expression.program ∧
      ∀ store, derived.value store = expression.value store := by
  intro source steps
  have unmentioned : ∀ step ∈ steps, ¬ step.mark <:+: source.normalized := by decide +kernel
  have compiled : compile Registry.standard source = .ok [⟨['2'], .number⟩, ⟨['X'], .letter⟩,
      ⟨['*'], .binary⟩, ⟨['1'], .number⟩, ⟨['S', 'I', 'N'], .function⟩, ⟨['-'], .binary⟩] := by
    decide +kernel
  obtain ⟨both, same⟩ := parse_derived_unmentioned Registry.standard unmentioned
  have accepted := parse_of_compile compiled
  obtain ⟨derived, otherAccepted⟩ := both.mp ⟨_, accepted⟩
  obtain ⟨-, program, values⟩ := same _ derived accepted otherAccepted
  exact ⟨unmentioned, _, derived, accepted, otherAccepted, program, values⟩

end Expression
end Abacus
