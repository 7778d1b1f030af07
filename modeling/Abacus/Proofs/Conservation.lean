import Abacus.Proofs.Arrangement

/-! Conservation. Where every binary operator is stronger than a bracket, a program holds each term
of its expression once and no bracket, and brackets are matched exactly as they are nested. -/

namespace Abacus

theorem isBracket_of_mem_unbracketed {terms : List Term} {term : Term}
    (member : term ∈ unbracketed terms) : term.role.isBracket = false := by
  simpa using (List.mem_filter.mp member).2

namespace Program

/-- Every binary operator among the terms is stronger than a bracket. -/
def Above (registry : Registry) (terms : List Term) : Prop :=
  ∀ term ∈ terms, term.role = .binary → Priority.bracket < registry.priority term.text

theorem Above.tail {registry : Registry} {term : Term} {terms : List Term}
    (above : Above registry (term :: terms)) : Above registry terms := by
  intro other member
  exact above other (by simp [member])

/-- A closing bracket takes what waits above the last opening bracket. -/
theorem exists_opening_of_closed? {stack sent left : List Term}
    (found : closed? stack = some (sent, left)) : ∃ opening, opening.role = .opening ∧
      stack = sent ++ opening :: left ∧ ∀ term ∈ sent, term.role ≠ .opening := by
  induction stack generalizing sent with
  | nil => cases found
  | cons top stack ih =>
    by_cases opens : top.role = .opening
    · simp only [closed?, opens, ↓reduceIte, Option.some.injEq, Prod.mk.injEq] at found
      obtain ⟨rfl, rfl⟩ := found
      exact ⟨top, opens, rfl, by simp⟩
    · simp only [closed?, opens, ↓reduceIte, Option.map_eq_some_iff] at found
      obtain ⟨⟨above, below⟩, within, same⟩ := found
      obtain ⟨rfl, rfl⟩ := Prod.mk.inj same
      obtain ⟨opening, role, rfl, plain⟩ := ih within
      exact ⟨opening, role, rfl, by simpa [opens] using plain⟩

/-- At the end the whole stack is sent out, without an opening bracket in it. -/
theorem eq_of_drained {stack program : List Term} (found : drained stack = .ok program) :
    program = stack ∧ ∀ term ∈ stack, term.role ≠ .opening := by
  induction stack generalizing program with
  | nil => cases found; simp
  | cons top stack ih =>
    by_cases opens : top.role = .opening
    · simp [drained, opens] at found
    · rw [drained, if_neg opens] at found
      obtain ⟨others, rest, rfl⟩ := Outcome.map_eq_ok_iff.mp found
      obtain ⟨rfl, plain⟩ := ih rest
      exact ⟨rfl, by simpa [opens] using plain⟩

/-- No opening bracket acts before an operator. -/
theorem ne_opening_of_goesFirst {registry : Registry} {operator top : Term}
    (above : operator.role = .binary → Priority.bracket < registry.priority operator.text)
    (role : operator.role = .unary ∨ operator.role = .binary)
    (first : goesFirst registry operator top = true) : top.role ≠ .opening := by
  intro opens
  rcases role with role | role
  · simp [goesFirst, role, Term.priority, opens, Priority.unary, Priority.bracket] at first
  · have bound := above role
    simp only [goesFirst, role, Term.priority, opens, decide_eq_true_eq] at first
    omega

/-- Closing brackets never wait on the stack. -/
def Waits (stack : List Term) : Prop :=
  ∀ term ∈ stack, term.role ≠ .closing

/-- The opening brackets that wait on the stack. -/
def opened (stack : List Term) : Nat :=
  stack.countP (·.role = .opening)

/-- How many brackets stay open behind the terms, unless one is closed that was never opened. -/
def openAfter (depth : Nat) : List Term → Option Nat
  | [] => some depth
  | term :: rest =>
    match term.role, depth with
    | .opening, _ => openAfter (depth + 1) rest
    | .closing, 0 => none
    | .closing, depth + 1 => openAfter depth rest
    | _, _ => openAfter depth rest

theorem opened_eq_zero {stack : List Term} (plain : ∀ term ∈ stack, term.role ≠ .opening) :
    opened stack = 0 :=
  List.countP_eq_zero.mpr (by simpa using plain)

section Shifting
variable {Item : Type} {role : Item → Role}

theorem withoutBrackets_eq_self {items : List Item} (opens : ∀ item ∈ items, role item ≠ .opening)
    (closes : ∀ item ∈ items, role item ≠ .closing) : withoutBrackets role items = items := by
  apply List.filter_eq_self.mpr
  intro item member
  rw [Bool.not_eq_true', Bool.eq_false_iff, ne_eq, Role.isBracket_iff]
  rintro (opening | closing)
  · exact opens item member opening
  · exact closes item member closing

/-- What an item does in the role of a term, whatever the priorities: an operator may send out any
part of the stack that ends above the last opening bracket. -/
inductive Shifts (role : Item → Role) (stack : List Item) (item : Item) :
    List Item → List Item → Prop where
  | operand (operand : (role item).isOperand = true) : Shifts role stack item [item] stack
  | pushed (waits : role item = .function ∨ role item = .opening) :
    Shifts role stack item [] (item :: stack)
  | closed {sent left : List Item} {opening : Item} (closes : role item = .closing)
    (opens : role opening = .opening) (parts : stack = sent ++ opening :: left)
    (plain : ∀ other ∈ sent, role other ≠ .opening) : Shifts role stack item sent left
  | operator {sent left : List Item} (acts : role item = .unary ∨ role item = .binary)
    (parts : stack = sent ++ left) (plain : ∀ other ∈ sent, role other ≠ .opening) :
    Shifts role stack item sent (item :: left)

/-- What items do one after the other: what they send out, and the stack that they leave. -/
inductive Passes (role : Item → Role) :
    List Item → List Item → List Item → List Item → Prop where
  | done {stack : List Item} : Passes role stack [] [] stack
  | step {stack sent left rest later final : List Item} {item : Item}
    (shifts : Shifts role stack item sent left) (passes : Passes role left rest later final) :
    Passes role stack (item :: rest) (sent ++ later) final

variable {stack items sent left : List Item} {item : Item}

/-- What is left was waiting, or it is the item itself, which is then no operand and closes
nothing. -/
theorem Shifts.mem_left (shifts : Shifts role stack item sent left) {other : Item}
    (member : other ∈ left) : other ∈ stack ∨
      other = item ∧ (role item).isOperand = false ∧ role item ≠ .closing := by
  cases shifts with
  | operand => exact .inl member
  | pushed waits =>
    rcases List.mem_cons.mp member with same | below
    · exact .inr ⟨same, by rcases waits with role | role <;> simp [role, Role.isOperand]⟩
    · exact .inl below
  | closed _ _ parts => exact .inl (by simp [parts, member])
  | operator acts parts =>
    rcases List.mem_cons.mp member with same | below
    · exact .inr ⟨same, by rcases acts with role | role <;> simp [role, Role.isOperand]⟩
    · exact .inl (by simp [parts, below])

theorem Shifts.waits (shifts : Shifts role stack item sent left)
    (waits : ∀ item ∈ stack, role item ≠ .closing) : ∀ item ∈ left, role item ≠ .closing := by
  intro other member
  rcases shifts.mem_left member with below | ⟨rfl, -, ends⟩
  · exact waits other below
  · exact ends

/-- Nothing is lost but brackets. -/
theorem Shifts.perm (shifts : Shifts role stack item sent left)
    (waits : ∀ item ∈ stack, role item ≠ .closing) :
    (sent ++ withoutBrackets role left).Perm (withoutBrackets role (item :: stack)) := by
  cases shifts with
  | operand operand =>
    have inner : (role item).isBracket = false := by
      rcases Role.isOperand_iff.mp operand with role | role <;> simp [role, Role.isBracket]
    rw [withoutBrackets_cons, inner]
    exact .refl _
  | pushed => exact .refl _
  | closed closes opens parts plain =>
    subst parts
    have whole := withoutBrackets_eq_self plain fun other member => waits other (by simp [member])
    have closing : (role item).isBracket = true := by simp [closes, Role.isBracket]
    have opening := Role.isBracket_iff.mpr (.inl opens)
    rw [withoutBrackets_cons, closing, if_pos rfl, withoutBrackets_append, whole,
      withoutBrackets_cons, opening, if_pos rfl]
  | operator acts parts plain =>
    subst parts
    have whole := withoutBrackets_eq_self plain fun other member => waits other (by simp [member])
    have inner : (role item).isBracket = false := by
      rcases acts with role | role <;> simp [role, Role.isBracket]
    rw [withoutBrackets_cons, withoutBrackets_cons, inner, withoutBrackets_append, whole]
    exact List.perm_middle

theorem Passes.perm (passes : Passes role stack items sent left)
    (waits : ∀ item ∈ stack, role item ≠ .closing) :
    (sent ++ withoutBrackets role left).Perm
        (withoutBrackets role stack ++ withoutBrackets role items) ∧
      ∀ item ∈ left, role item ≠ .closing := by
  induction passes with
  | done => exact ⟨by simp [withoutBrackets], waits⟩
  | @step stack sent left rest later final item shifts passes ih =>
    obtain ⟨perm, finalWaits⟩ := ih (shifts.waits waits)
    refine ⟨?_, finalWaits⟩
    calc
      (sent ++ later ++ withoutBrackets role final).Perm
          (sent ++ (withoutBrackets role left ++ withoutBrackets role rest)) := by
        rw [List.append_assoc]
        exact perm.append_left sent
      _ = (sent ++ withoutBrackets role left) ++ withoutBrackets role rest :=
        (List.append_assoc ..).symm
      (sent ++ withoutBrackets role left ++ withoutBrackets role rest).Perm
          (withoutBrackets role (item :: stack) ++ withoutBrackets role rest) :=
        (shifts.perm waits).append_right _
      (withoutBrackets role (item :: stack) ++ withoutBrackets role rest).Perm
          (withoutBrackets role stack ++ withoutBrackets role (item :: rest)) := by
        rw [withoutBrackets_cons, withoutBrackets_cons]
        cases (role item).isBracket
        · exact List.perm_middle.symm
        · exact .refl _

end Shifting

/-- Where operators are stronger than brackets, no move sends an opening bracket out. -/
theorem Moves.shifts {registry : Registry} {stack sent left : List Term} {term : Term}
    (moves : Moves registry stack term sent left)
    (above : term.role = .binary → Priority.bracket < registry.priority term.text) :
    Shifts Term.role stack term sent left := by
  cases moves with
  | operand role => exact .operand role
  | pushed role => exact .pushed role
  | closed role found =>
    obtain ⟨opening, opens, parts, plain⟩ := exists_opening_of_closed? found
    exact .closed role opens parts plain
  | operator role =>
    refine .operator role List.takeWhile_append_dropWhile.symm ?_
    intro top member
    exact ne_opening_of_goesFirst above role (List.mem_takeWhile_imp member)

/-- What a term preserves: nothing is lost but brackets, and the stack keeps count of those that
are open. -/
structure Conserves (term : Term) (stack sent left : List Term) : Prop where
  waits : Waits left
  perm : (sent ++ unbracketed left).Perm (unbracketed (term :: stack))
  opens : ∀ rest, openAfter (opened stack) (term :: rest) = openAfter (opened left) rest

/-- The stack keeps count of the brackets that are open. -/
theorem Shifts.opens {stack sent left : List Term} {term : Term}
    (shifts : Shifts Term.role stack term sent left) (rest : List Term) :
    openAfter (opened stack) (term :: rest) = openAfter (opened left) rest := by
  cases shifts with
  | operand operand =>
    rcases Role.isOperand_iff.mp operand with role | role <;> simp [openAfter, role]
  | pushed waits => rcases waits with role | role <;> simp [openAfter, opened, role]
  | closed closes opens parts plain =>
    have none := opened_eq_zero plain
    simp only [opened] at none
    simp [openAfter, opened, closes, parts, opens, none]
  | operator acts parts plain =>
    have none := opened_eq_zero plain
    simp only [opened] at none
    rcases acts with role | role <;> simp [openAfter, opened, role, parts, none]

theorem Moves.conserves {registry : Registry} {stack sent left : List Term} {term : Term}
    (moves : Moves registry stack term sent left) (waits : Waits stack)
    (above : term.role = .binary → Priority.bracket < registry.priority term.text) :
    Conserves term stack sent left := by
  have shifts := moves.shifts above
  exact ⟨shifts.waits waits, shifts.perm waits, shifts.opens⟩

theorem Passes.opens {stack terms sent left : List Term}
    (passes : Passes Term.role stack terms sent left) (rest : List Term) :
    openAfter (opened stack) (terms ++ rest) = openAfter (opened left) rest := by
  induction passes with
  | done => rfl
  | step shifts passes ih => exact (shifts.opens _).trans ih

/-- A program is what its terms send out, and then the stack that they leave. -/
theorem exists_passes {registry : Registry} {stack terms program : List Term}
    (above : Above registry terms) (found : arrangedFrom registry stack terms = .ok program) :
    ∃ sent left, Passes Term.role stack terms sent left ∧ program = sent ++ left ∧
      ∀ term ∈ left, term.role ≠ .opening := by
  induction terms generalizing stack program with
  | nil =>
    obtain ⟨rfl, plain⟩ := eq_of_drained found
    exact ⟨[], _, .done, rfl, plain⟩
  | cons term rest ih =>
    obtain ⟨sent, left, later, moves, others, rfl⟩ := exists_moves found
    obtain ⟨more, final, passes, rfl, plain⟩ := ih above.tail others
    exact ⟨sent ++ more, final, .step (moves.shifts (above term (by simp))) passes, by simp, plain⟩

/-- What is preserved from a stack and the terms to come up to the whole program. -/
theorem conserves_of_arrangedFrom {registry : Registry} {stack terms program : List Term}
    (waits : Waits stack) (above : Above registry terms)
    (found : arrangedFrom registry stack terms = .ok program) :
    program.Perm (unbracketed stack ++ unbracketed terms) ∧
      openAfter (opened stack) terms = some 0 := by
  obtain ⟨sent, left, passes, rfl, plain⟩ := exists_passes above found
  obtain ⟨perm, leftWaits⟩ := passes.perm waits
  have opens := passes.opens []
  rw [List.append_nil, opened_eq_zero plain] at opens
  rw [withoutBrackets_eq_self plain leftWaits] at perm
  exact ⟨perm, opens⟩

/-- A program that is accepted holds the terms of its expression without the brackets, leaves one
value, and comes from brackets that match. -/
theorem conserves_of_arranged {registry : Registry} {terms program : List Term}
    (above : Above registry terms) (found : arranged registry terms = .ok program) :
    program.Perm (unbracketed terms) ∧ openAfter 0 terms = some 0 ∧ depth? program = some 1 := by
  obtain ⟨arrangement, depth⟩ := arranged_eq_ok_iff.mp found
  obtain ⟨perm, balanced⟩ := @conserves_of_arrangedFrom registry [] terms program
    (by simp [Waits]) above arrangement
  exact ⟨perm, balanced, depth⟩

end Program

/-- The standard registry with a percent sign for the remainder. -/
def Registry.withRemainder (priority : Int) : Registry where
  functions := Registry.standard.functions
  binary := Registry.standard.binary.put ['%'] Binary.modulo
  unary := Registry.standard.unary
  overrides := Table.empty.put ['%'] priority
  names_valid := Registry.standard.names_valid
  symbols_valid := by
    intro symbol member
    rcases List.mem_append.mp member with binary | unary
    · rcases Table.mem_keys_put.mp binary with rfl | standard
      · decide +kernel
      · exact Registry.standard.symbols_valid symbol (List.mem_append_left _ standard)
    · exact Registry.standard.symbols_valid symbol (List.mem_append_right _ unary)
  overrides_known := by
    intro symbol member
    rcases Table.mem_keys_put.mp member with rfl | absent
    · exact .inl (Table.mem_keys_put.mpr (.inl rfl))
    · cases absent

end Abacus
