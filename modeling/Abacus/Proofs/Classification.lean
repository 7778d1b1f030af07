import Abacus.Outcome
import Abacus.Term.Classified

/-! What the role of a term says about its text and about the term before it. -/

namespace Abacus.Registry

/-- The roles that a lexeme can play behind a term of the given role, or at the start. -/
inductive Plays (registry : Registry) (previous : Option Role) (lexeme : Text) : Role → Prop where
  | function (known : registry.isFunction lexeme = true) : Plays registry previous lexeme .function
  | number (numeral : lexeme.isNumeral = true) : Plays registry previous lexeme .number
  | letter (named : lexeme.isVariable = true) : Plays registry previous lexeme .letter
  | opening (bracket : lexeme = Text.openingBracket) : Plays registry previous lexeme .opening
  | closing (bracket : lexeme = Text.closingBracket) : Plays registry previous lexeme .closing
  | unary (due : operandDue previous = true) (known : registry.isUnary lexeme = true) :
    Plays registry previous lexeme .unary
  | binary (due : operandDue previous = false) (known : registry.isBinary lexeme = true) :
    Plays registry previous lexeme .binary

theorem plays_of_role {registry : Registry} {previous : Option Role} {lexeme : Text} {role : Role}
    (found : registry.role previous lexeme = .ok role) : registry.Plays previous lexeme role := by
  unfold Registry.role at found
  split at found
  · rename_i known
    cases found
    exact .function known
  split at found
  · rename_i numeral
    cases found
    exact .number numeral
  split at found
  · rename_i named
    cases found
    exact .letter named
  split at found
  · rename_i bracket
    cases found
    exact .opening bracket
  split at found
  · rename_i bracket
    cases found
    exact .closing bracket
  split at found
  · unfold operatorRole at found
    split at found
    · rename_i due
      split at found <;> cases found
      rename_i known
      exact .unary due known
    · rename_i due
      split at found <;> cases found
      rename_i known
      exact .binary (Bool.eq_false_iff.mpr due) known
  · cases found

theorem termsAfter_cons {registry : Registry} {previous : Option Role} {lexeme : Text}
    {role : Role} (plays : registry.role previous lexeme = .ok role) (lexemes : List Text) :
    registry.termsAfter previous (lexeme :: lexemes) =
      (registry.termsAfter (some role) lexemes).map (⟨lexeme, role⟩ :: ·) := by
  simp only [termsAfter, plays, bind, Except.bind]
  cases registry.termsAfter (some role) lexemes <;> rfl

/-- What has terms at all has the terms of its first lexeme and of the others. -/
theorem exists_of_termsAfter_cons {registry : Registry} {previous : Option Role} {lexeme : Text}
    {lexemes : List Text} {terms : List Term}
    (found : registry.termsAfter previous (lexeme :: lexemes) = .ok terms) :
    ∃ role later, registry.role previous lexeme = .ok role ∧
      registry.termsAfter (some role) lexemes = .ok later ∧ terms = ⟨lexeme, role⟩ :: later := by
  obtain ⟨role, plays, rest⟩ := Outcome.bind_eq_ok_iff.mp found
  obtain ⟨later, others, same⟩ := Outcome.bind_eq_ok_iff.mp rest
  exact ⟨role, later, plays, others, (Except.ok.inj same).symm⟩

/-- Every term plays the role that its text has behind the term before it. -/
inductive Assigned (registry : Registry) : Option Role → List Term → Prop where
  | nil {previous : Option Role} : Assigned registry previous []
  | cons {previous : Option Role} {term : Term} {terms : List Term}
    (plays : registry.Plays previous term.text term.role)
    (rest : Assigned registry (some term.role) terms) : Assigned registry previous (term :: terms)

theorem Assigned.exists_plays {registry : Registry} {previous : Option Role} {terms : List Term}
    (assigned : registry.Assigned previous terms) {term : Term} (member : term ∈ terms) :
    ∃ before, registry.Plays before term.text term.role := by
  induction assigned with
  | nil => cases member
  | cons plays rest ih =>
    rcases List.mem_cons.mp member with rfl | later
    · exact ⟨_, plays⟩
    · exact ih later

/-- The binary operators among terms are registered. -/
theorem Assigned.mem_binary {registry : Registry} {previous : Option Role} {terms : List Term}
    (assigned : registry.Assigned previous terms) {term : Term} (member : term ∈ terms)
    (role : term.role = .binary) : term.text ∈ registry.binary.keys := by
  obtain ⟨before, plays⟩ := assigned.exists_plays member
  rw [role] at plays
  cases plays with
  | binary _ known => exact Table.contains_iff.mp known

theorem assigned_of_termsAfter {registry : Registry} {previous : Option Role} {lexemes : List Text}
    {terms : List Term} (found : registry.termsAfter previous lexemes = .ok terms) :
    registry.Assigned previous terms ∧ terms.map Term.text = lexemes := by
  induction lexemes generalizing previous terms with
  | nil =>
    cases found
    exact ⟨.nil, rfl⟩
  | cons lexeme lexemes ih =>
    obtain ⟨role, later, plays, others, rfl⟩ := exists_of_termsAfter_cons found
    obtain ⟨assigned, texts⟩ := ih others
    exact ⟨.cons (plays_of_role plays) assigned, by simp [texts]⟩

theorem assigned_of_terms {registry : Registry} {lexemes : List Text} {terms : List Term}
    (found : registry.terms lexemes = .ok terms) :
    registry.Assigned none terms ∧ terms.map Term.text = lexemes :=
  assigned_of_termsAfter found

end Abacus.Registry
