import Abacus.Proofs.Conservation
import Abacus.Proofs.Splicing

/-! Nesting. Behind an open bracket, terms are arranged as they are by themselves, whatever waits
below it, and the closing bracket sends out the rest of their program. So terms in brackets send
out their program where they stand, as a single operand does. -/

namespace Abacus.Program

variable {registry : Registry}

/-- A term moves above an open bracket as it does without it. -/
theorem Moves.nested {stack sent left : List Term} {term opening : Term}
    (moves : Moves registry stack term sent left) (opens : opening.role = .opening)
    (above : term.role = .binary → Priority.bracket < registry.priority term.text)
    (below : List Term) :
    Moves registry (stack ++ opening :: below) term sent (left ++ opening :: below) := by
  cases moves with
  | operand role => exact .operand role
  | pushed role => exact .pushed role
  | closed role found =>
    obtain ⟨matching, matchingOpens, rfl, plain⟩ := exists_opening_of_closed? found
    refine .closed role ?_
    rw [List.append_assoc, List.cons_append, closed?_append matchingOpens plain]
  | operator role =>
    have stays : goesFirst registry term opening = false := by
      rw [Bool.eq_false_iff]
      intro first
      exact ne_opening_of_goesFirst above role first opens
    have moves : Moves registry (stack ++ opening :: below) term _ _ := .operator role
    rwa [takeWhile_append_stop stays, dropWhile_append_stop stays] at moves

/-- An operand is sent out at once. -/
theorem Moves.eq_of_isOperand {stack sent left : List Term} {term : Term}
    (moves : Moves registry stack term sent left) (role : term.role.isOperand = true) :
    sent = [term] ∧ left = stack := by
  cases moves with
  | operand => exact ⟨rfl, rfl⟩
  | pushed other | operator other => rcases other with other | other <;> cases other ▸ role
  | closed other => cases other ▸ role

/-- What a term sends out or leaves is that term, or was waiting already. -/
theorem Moves.eq_or_mem {stack sent left : List Term} {term other : Term}
    (moves : Moves registry stack term sent left) (member : other ∈ sent ++ left) :
    other = term ∨ other ∈ stack := by
  cases moves with
  | operand | pushed => simpa using member
  | closed role found =>
    obtain ⟨opening, -, rfl, -⟩ := exists_opening_of_closed? found
    rcases List.mem_append.mp member with out | waits
    · exact .inr (by simp [out])
    · exact .inr (by simp [waits])
  | operator =>
    rcases List.mem_append.mp member with out | waits
    · exact .inr (List.takeWhile_subset _ out)
    · rcases List.mem_cons.mp waits with same | waits
      · exact .inl same
      · exact .inr (List.dropWhile_subset _ waits)

/-- A program holds nothing but the terms that it is arranged from. -/
theorem mem_of_arrangedFrom {stack terms program : List Term}
    (found : arrangedFrom registry stack terms = .ok program) {term : Term}
    (member : term ∈ program) : term ∈ stack ∨ term ∈ terms := by
  induction terms generalizing stack program with
  | nil =>
    obtain ⟨rfl, -⟩ := eq_of_drained found
    exact .inl member
  | cons first terms ih =>
    obtain ⟨sent, left, later, moves, others, rfl⟩ := exists_moves found
    have moved (inside : term ∈ sent ++ left) : term ∈ stack ∨ term ∈ first :: terms := by
      rcases moves.eq_or_mem inside with rfl | waits
      · exact .inr (by simp)
      · exact .inl waits
    rcases List.mem_append.mp member with out | later
    · exact moved (List.mem_append_left _ out)
    · rcases ih others later with waits | inside
      · exact moved (List.mem_append_right _ waits)
      · exact .inr (List.mem_cons_of_mem _ inside)

/-- A closing bracket behind terms sends out what is left of their program. -/
theorem arrangedFrom_nested {stack terms program : List Term} {opening closing : Term}
    (opens : opening.role = .opening) (closes : closing.role = .closing)
    (above : Above registry terms) (found : arrangedFrom registry stack terms = .ok program)
    (below rest : List Term) :
    arrangedFrom registry (stack ++ opening :: below) (terms ++ closing :: rest) =
      (arrangedFrom registry below rest).map (program ++ ·) := by
  induction terms generalizing stack program with
  | nil =>
    -- What the end of the terms would drain is what the closing bracket finds above the open one.
    obtain ⟨rfl, plain⟩ := eq_of_drained found
    exact (Moves.closed closes (closed?_append opens plain)).arrangedFrom_cons rest
  | cons term terms ih =>
    obtain ⟨sent, left, later, moves, others, rfl⟩ := exists_moves found
    have nested := moves.nested opens (above term (by simp)) below
    rw [List.cons_append, nested.arrangedFrom_cons, ih above.tail others]
    cases arrangedFrom registry below rest <;> simp [Except.map]

/-- Terms in brackets send out their program and leave the stack alone. -/
theorem arrangedFrom_bracketed {terms program : List Term} (above : Above registry terms)
    (found : arrangedFrom registry [] terms = .ok program) (stack rest : List Term) :
    arrangedFrom registry stack (Term.bracketed terms ++ rest) =
      (arrangedFrom registry stack rest).map (program ++ ·) := by
  have pushed : Moves registry stack ⟨Text.openingBracket, .opening⟩ [] _ := .pushed (.inr rfl)
  have closed := @arrangedFrom_nested registry [] terms program ⟨Text.openingBracket, .opening⟩
    ⟨Text.closingBracket, .closing⟩ rfl rfl above found stack rest
  have parts : Term.bracketed terms ++ rest = ⟨Text.openingBracket, .opening⟩ ::
      (terms ++ ⟨Text.closingBracket, .closing⟩ :: rest) := by simp [Term.bracketed]
  rw [parts, pushed.arrangedFrom_cons]
  rw [List.nil_append] at closed
  rw [closed]
  cases arrangedFrom registry stack rest <;> rfl

/-- In the place of an operand that never waits, terms in brackets put their program. -/
theorem arrangedFrom_spliced {operand : Term} (role : operand.role.isOperand = true)
    {inner innerProgram : List Term} (above : Above registry inner)
    (innerFound : arrangedFrom registry [] inner = .ok innerProgram)
    {stack terms program : List Term} (absent : operand ∉ stack)
    (found : arrangedFrom registry stack terms = .ok program) :
    arrangedFrom registry stack (spliced operand (Term.bracketed inner) terms) =
      .ok (spliced operand innerProgram program) := by
  induction terms generalizing stack program with
  | nil =>
    obtain ⟨rfl, -⟩ := eq_of_drained found
    rw [spliced_eq_self absent]
    exact found
  | cons term terms ih =>
    obtain ⟨sent, left, later, moves, others, rfl⟩ := exists_moves found
    by_cases same : term = operand
    · subst same
      obtain ⟨rfl, rfl⟩ := moves.eq_of_isOperand role
      rw [spliced_cons_self, arrangedFrom_bracketed above innerFound, ih absent others,
        spliced_append, spliced_cons_self]
      simp [Except.map]
    · -- The operand is sent out where it is read, so that it never waits on the stack.
      have apart : ∀ other ∈ sent ++ left, other ≠ operand := by
        rintro other member rfl
        rcases moves.eq_or_mem member with here | waits
        · exact same here.symm
        · exact absent waits
      have replaced := ih (fun waits => apart operand (by simp [waits]) rfl) others
      have kept : spliced operand innerProgram sent = sent :=
        spliced_eq_self fun out => apart operand (by simp [out]) rfl
      rw [spliced_cons_of_ne same, moves.arrangedFrom_cons, replaced, spliced_append, kept]
      rfl

end Abacus.Program
