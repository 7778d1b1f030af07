import Abacus.Proofs.Nesting

/-! Registries that answer alike. What a step asks of a registry is the role of a lexeme, whether
the top of the stack goes first, and the operation of a term. Two registries that give the same
answers about the texts at hand have the same terms, the same program and the same run. -/

namespace Abacus

variable {first second : Registry}

namespace Registry

theorem termsAfter_eq {lexemes : List Text}
    (same : ∀ lexeme ∈ lexemes, ∀ previous,
      first.role previous lexeme = second.role previous lexeme) (previous : Option Role) :
    first.termsAfter previous lexemes = second.termsAfter previous lexemes := by
  induction lexemes generalizing previous with
  | nil => rfl
  | cons lexeme lexemes ih =>
    obtain ⟨here, others⟩ := List.forall_mem_cons.mp same
    simp only [termsAfter, here, ih others]

end Registry

namespace Program

private theorem span_congr {Item : Type} {first second : Item → Bool} {items : List Item}
    (same : ∀ item ∈ items, first item = second item) :
    items.takeWhile first = items.takeWhile second ∧
      items.dropWhile first = items.dropWhile second := by
  induction items with
  | nil => exact ⟨rfl, rfl⟩
  | cons item items ih =>
    obtain ⟨taken, dropped⟩ := ih fun other member => same other (by simp [member])
    simp only [List.takeWhile_cons, List.dropWhile_cons, same item (by simp), taken, dropped,
      and_self]

theorem Moves.congr {stack sent left : List Term} {term : Term}
    (same : ∀ top ∈ stack, goesFirst first term top = goesFirst second term top)
    (moves : Moves first stack term sent left) : Moves second stack term sent left := by
  cases moves with
  | operand role => exact .operand role
  | pushed role => exact .pushed role
  | closed role found => exact .closed role found
  | operator role =>
    obtain ⟨taken, dropped⟩ := span_congr same
    rw [taken, dropped]
    exact .operator role

/-- The programs are the same, or the errors, if of the terms at hand the same ones go first. -/
theorem arrangedFrom_congr {stack terms : List Term}
    (same : ∀ operator ∈ terms, ∀ top ∈ stack ++ terms,
      goesFirst first operator top = goesFirst second operator top) :
    arrangedFrom first stack terms = arrangedFrom second stack terms := by
  induction terms generalizing stack with
  | nil => rfl
  | cons term terms ih =>
    rcases moves_or_stuck first stack term with ⟨sent, left, moves⟩ | ⟨role, closing⟩ | role
    · have here := moves.congr fun top waits =>
        same term (by simp) top (List.mem_append_left _ waits)
      -- What the term leaves on the stack was waiting there, or is the term.
      have next : ∀ operator ∈ terms, ∀ top ∈ left ++ terms,
          goesFirst first operator top = goesFirst second operator top := by
        intro operator member top inside
        apply same operator (by simp [member]) top
        rcases List.mem_append.mp inside with waits | comes
        · rcases moves.eq_or_mem (List.mem_append_right _ waits) with rfl | before
          · simp
          · simp [before]
        · simp [comes]
      rw [moves.arrangedFrom_cons, here.arrangedFrom_cons, ih next]
    · simp [arrangedFrom, role, closing]
    · simp [arrangedFrom, role]

theorem arranged_congr {terms : List Term}
    (same : ∀ operator ∈ terms, ∀ top ∈ terms,
      goesFirst first operator top = goesFirst second operator top) :
    arranged first terms = arranged second terms := by
  have arrangement : arrangedFrom first [] terms = arrangedFrom second [] terms :=
    arrangedFrom_congr same
  rw [arranged, arranged, arrangement]

end Program

namespace Machine
variable {Value : Type} (machine : Machine Value)

/-- The machine does the same with terms whose operations are the same. -/
theorem steps_congr {program : List Term}
    (unary : ∀ term ∈ program, unaryOf first term = unaryOf second term)
    (binary : ∀ term ∈ program, binaryOf first term = binaryOf second term)
    (stack : List Value) :
    machine.steps first stack program = machine.steps second stack program := by
  induction program generalizing stack with
  | nil => rfl
  | cons term rest ih =>
    obtain ⟨unaryHere, unaryLater⟩ := List.forall_mem_cons.mp unary
    obtain ⟨binaryHere, binaryLater⟩ := List.forall_mem_cons.mp binary
    have step : machine.step first stack term = machine.step second stack term := by
      simp only [Machine.step, unaryHere, binaryHere]
    simp only [steps, step, ih unaryLater binaryLater]

end Machine
end Abacus
