import Abacus.Outcome
import Abacus.Proofs.Rowwise
import Abacus.Registry.Standard

/-! What a value depends on. A run asks for the operands of its program and for nothing else: of a
store it reads the variables that occur in the program, and of a frame the columns of these. It
fails at the first operand in the program that has no value. -/

namespace Abacus

/-- The variable stands somewhere in the program. -/
def Program.Occurs (program : List Term) (letter : Variable) : Prop :=
  ⟨letter.name, .letter⟩ ∈ program

namespace Machine
variable {Value : Type} {registry : Registry} {program : List Term}

/-- Two machines with the same operations, and the same outcomes for the operands of a program. -/
structure AgreeOn (first second : Machine Value) (program : List Term) : Prop where
  unary : first.unary = second.unary
  binary : first.binary = second.binary
  operand : ∀ term ∈ program, term.role.isOperand = true →
    first.operand term = second.operand term

theorem AgreeOn.step {first second : Machine Value} (agree : AgreeOn first second program)
    {term : Term} (member : term ∈ program) (stack : List Value) :
    first.step registry stack term = second.step registry stack term := by
  have operand := agree.operand term member
  cases role : term.role with
  | number | letter => simp only [Machine.step, role, operand (by simp [role, Role.isOperand])]
  | unary | function => simp only [Machine.step, role, agree.unary]
  | binary => simp only [Machine.step, role, agree.binary]
  | opening | closing | unassigned => simp only [Machine.step, role]

/-- Machines that agree on a program run it to the same outcome. -/
theorem AgreeOn.run {first second : Machine Value} (agree : AgreeOn first second program) :
    first.run registry program = second.run registry program := by
  have steps (rest : List Term) (part : rest ⊆ program) (stack : List Value) :
      first.steps registry stack rest = second.steps registry stack rest := by
    induction rest generalizing stack with
    | nil => rfl
    | cons term rest ih =>
      obtain ⟨here, later⟩ := List.cons_subset.mp part
      simp only [Machine.steps, agree.step here, ih later]
  rw [Machine.run, Machine.run, steps program (List.Subset.refl program)]

/-- The error of an operand that has no value. -/
def fault? (machine : Machine Value) (term : Term) : Option RunError :=
  if term.role.isOperand then Outcome.error? (machine.operand term) else none

variable {machine : Machine Value}

theorem step_of_fault? {term : Term} {error : RunError} (fault : machine.fault? term = some error)
    (stack : List Value) : machine.step registry stack term = .error error := by
  unfold fault? at fault
  split at fault
  · rename_i isOperand
    have failed := Outcome.error?_eq_some_iff.mp fault
    rcases Role.isOperand_iff.mp isOperand with role | role <;>
      simp [Machine.step, role, failed, bind, Except.bind]
  · cases fault

/-- A term that is not at fault means something, if the registry has its operation. -/
theorem resolves_of_fault? {term : Term} (acts : term.role.acts = true)
    (known : term.role.isOperand = false → registry.defines term = true)
    (clear : machine.fault? term = none) : machine.Resolves registry term := by
  obtain ⟨text, role⟩ := term
  cases role with
  | number | letter => exact Outcome.error?_eq_none_iff.mp clear
  | unary | function | binary =>
    obtain ⟨operation, found⟩ := Table.exists_get? (known rfl)
    exact ⟨operation, found_eq_ok found⟩
  | opening | closing | unassigned => cases acts

/-- A checked program fails exactly if one of its operands has no value, and then with the error of
the first of them. -/
theorem run_eq_error_iff (acts : ∀ term ∈ program, term.role.acts = true)
    (known : ∀ term ∈ program, term.role.isOperand = false → registry.defines term = true)
    (depth : Program.depth? program = some 1) {error : RunError} :
    machine.run registry program = .error error ↔
      program.findSome? machine.fault? = some error := by
  have resolves (term : Term) (member : term ∈ program) :
      machine.fault? term = none → machine.Resolves registry term :=
    resolves_of_fault? (acts term member) (known term member)
  cases found : program.findSome? machine.fault? with
  | none =>
    have clear := List.findSome?_eq_none_iff.mp found
    obtain ⟨value, run⟩ := exists_run (fun term member => resolves term member (clear term member))
      depth
    simp [run]
  | some first =>
    obtain ⟨before, term, after, parts, fault, clear⟩ := List.findSome?_eq_some_iff.mp found
    -- The terms in front keep to the depth, so that none of them fails before the operand does.
    have comes : Comes (machine.steps registry [] before) (Program.depthFrom 0 before) :=
      steps_comes (fun other member => resolves other (by simp [parts, member])
        (clear other member)) []
    rw [Program.depth?, parts, Program.depthFrom_append] at depth
    obtain ⟨reached, start, -⟩ := Option.bind_eq_some_iff.mp depth
    rw [start] at comes
    obtain ⟨values, run, -⟩ := comes
    have failed : machine.run registry program = .error first := by
      rw [Machine.run, parts, steps_append, run]
      simp only [Except.bind, steps, step_of_fault? fault, bind]
    rw [failed, Except.error.injEq, Option.some.injEq]

end Machine

variable {program : List Term}

/-- Stores that have the same numbers for the variables of a program. -/
theorem Store.agreeOn {first second : Store}
    (named : ∀ term ∈ program, term.role = .letter → term.text.isVariable = true)
    (same : ∀ letter, Program.Occurs program letter → first.read letter = second.read letter) :
    first.machine.AgreeOn second.machine program where
  unary := rfl
  binary := rfl
  operand := by
    intro term member isOperand
    obtain ⟨text, role⟩ := term
    rcases Role.isOperand_iff.mp isOperand with number | letter
    · subst number
      rfl
    · subst letter
      obtain ⟨letter, rfl⟩ := Text.exists_variable (named _ member rfl)
      simp only [Machine.operand, Store.machine, Store.get_name, same letter member]

namespace Frame

/-- What keeps a term from being read on a frame: its text is no number, or the column of its
variable has a cell that holds none. -/
def fault? (frame : Frame) (term : Term) : Option ConversionError :=
  match term.role with
  | .number => Outcome.error? (Datum.readNumber term.text)
  | .letter => (frame.column? term.text).bind (·.findSome? fun datum => Outcome.error? datum.cell)
  | _ => none

/-- Frames that have the same columns for the variables of a program, and stores with the same
numbers for those that have none. -/
theorem agreeOn {first second : Frame} {store other : Option Store}
    (named : ∀ term ∈ program, term.role = .letter → term.text.isVariable = true)
    (rows : first.rows = second.rows)
    (columns : ∀ letter, Program.Occurs program letter →
      first.column? letter.name = second.column? letter.name)
    (same : ∀ letter, Program.Occurs program letter → first.column? letter.name = none →
      (store.getD .empty).read letter = (other.getD .empty).read letter) :
    (first.machine store).AgreeOn (second.machine other) program where
  unary := rfl
  binary := rfl
  operand := by
    intro term member isOperand
    obtain ⟨text, role⟩ := term
    rcases Role.isOperand_iff.mp isOperand with number | letter
    · subst number
      rfl
    · subst letter
      obtain ⟨letter, rfl⟩ := Text.exists_variable (named _ member rfl)
      change first.lookup store letter.name = second.lookup other letter.name
      have column := columns letter member
      cases found : first.column? letter.name with
      | some cells => rw [lookup_of_some found, lookup_of_some (column.symm.trans found)]
      | none =>
        rw [lookup_of_none found, lookup_of_none (column.symm.trans found), rows,
          same letter member found]

/-- The operands that the machine of a frame has no value for are the terms at fault. -/
theorem machine_fault? (frame : Frame) (store : Option Store) {term : Term}
    (named : term.role = .letter → term.text.isVariable = true) :
    (frame.machine store).fault? term = (frame.fault? term).map RunError.conversion := by
  obtain ⟨text, role⟩ := term
  cases role with
  | number =>
    simp only [Machine.fault?, Role.isOperand, Machine.operand, fault?, if_true]
    cases Datum.readNumber text <;> rfl
  | letter =>
    obtain ⟨letter, rfl⟩ := Text.exists_variable (named rfl)
    change Outcome.error? (frame.lookup store letter.name) = _
    cases column : frame.column? letter.name with
    | some cells =>
      rw [lookup_of_some column, Outcome.error?_map, Outcome.error?_mapError, Outcome.error?_mapM]
      simp [fault?, column]
    | none =>
      rw [lookup_of_none column]
      simp [fault?, column, Outcome.error?]
  | function | unary | binary | opening | closing | unassigned => rfl

end Frame

/-- A checked program, whose numbers may be written in any way, has the same outcome on all stores
with the same numbers for its variables. On frames it has the same outcome if they have the same
index, the same columns for its variables, and the stores the same numbers for variables without a
column. On a frame it fails exactly if one of its terms is at fault, and then with the error of the
first of them. -/
theorem Program.reads_occurring {registry : Registry} (valid : checked program = .ok ())
    (acts : ∀ term ∈ program, term.role.acts = true)
    (defined : ∀ term ∈ program, term.role ≠ .number → registry.defines term = true) :
    (∀ first second : Store,
      (∀ letter, Occurs program letter → first.read letter = second.read letter) →
      value registry program first = value registry program second) ∧
    (∀ (first second : Frame) (store other : Option Store), first.index = second.index →
      (∀ letter, Occurs program letter →
        first.column? letter.name = second.column? letter.name) →
      (∀ letter, Occurs program letter → first.column? letter.name = none →
        (store.getD .empty).read letter = (other.getD .empty).read letter) →
      first.values registry program store = second.values registry program other) ∧
    ∀ (frame : Frame) (store : Option Store) (failure : RunError),
      frame.values registry program store = .error failure ↔
        ∃ error, program.findSome? frame.fault? = some error ∧ .conversion error = failure := by
  have named : ∀ term ∈ program, term.role = .letter → term.text.isVariable = true := by
    intro term member letter
    have known := defined term member (by simp [letter])
    simpa only [Registry.defines, letter] using known
  refine ⟨?_, ?_, ?_⟩
  · intro first second same
    exact (Store.agreeOn named same).run
  · intro first second store other index columns same
    have rows : first.rows = second.rows := congrArg List.length index
    rw [Frame.values, Frame.values, (Frame.agreeOn named rows columns same).run, index, rows]
  · intro frame store failure
    have known : ∀ term ∈ program, term.role.isOperand = false → registry.defines term = true := by
      intro term member operator
      apply defined term member
      intro number
      rw [number] at operator
      cases operator
    have faults : program.findSome? (frame.machine store).fault? =
        (program.findSome? frame.fault?).map RunError.conversion := by
      rw [List.map_findSome?, ← List.head?_filterMap, ← List.head?_filterMap]
      apply congrArg List.head?
      apply List.filterMap_congr
      intro term member
      exact frame.machine_fault? store (named term member)
    rw [Frame.values, Outcome.map_eq_error_iff,
      Machine.run_eq_error_iff acts known (checked_eq_ok_iff.mp valid), faults,
      Option.map_eq_some_iff]

/-- Behind a column of the variable `X`, no other column of it is read, nor is a column of `Z`; and
of two columns that cannot be read, the error of the one that is read first is reported. -/
theorem Program.reads_occurring_difference :
    let program : List Term := [⟨['Y'], .letter⟩, ⟨['X'], .letter⟩, ⟨['-'], .binary⟩]
    let plain : Frame := ⟨⟨[(.text ['X'], [.truth true])], by decide⟩, [.integer 0]⟩
    let noisy : Frame := ⟨⟨[(.text ['x'], [.text ['!']]), (.text ['X'], [.truth true]),
      (.text ['Z'], [.sequence])], by decide⟩, [.integer 0]⟩
    let faulty : Frame :=
      ⟨⟨[(.text ['X'], [.text ['!']]), (.text ['y'], [.sequence])], by decide⟩, [.integer 0]⟩
    checked program = .ok () ∧ (∀ term ∈ program, term.role.acts = true) ∧
      (∀ term ∈ program, term.role ≠ .number → Registry.standard.defines term = true) ∧
      (∀ (store : Store) (number : Float),
        value Registry.standard program (store.bound ⟨'Z', by decide⟩ number) =
          value Registry.standard program store) ∧
      plain.values Registry.standard program none = noisy.values Registry.standard program none ∧
      faulty.values Registry.standard program none =
        .error (.conversion (.malformed .element)) := by
  intro program plain noisy faulty
  have valid : checked program = .ok () := by decide
  have acts : ∀ term ∈ program, term.role.acts = true := by decide
  have defined : ∀ term ∈ program, term.role ≠ .number → Registry.standard.defines term = true := by
    decide +kernel
  have occurs {letter : Variable} (member : Occurs program letter) :
      letter.name = ['Y'] ∨ letter.name = ['X'] := by
    simpa [Occurs, program] using member
  obtain ⟨stores, frames, faults⟩ := reads_occurring valid acts defined
  refine ⟨valid, acts, defined, ?_, ?_, ?_⟩
  · intro store number
    apply stores
    intro letter member
    rw [Store.read_bound, if_neg]
    intro same
    subst same
    rcases occurs member with name | name <;> cases name
  · apply frames plain noisy none none rfl
    · intro letter member
      rcases occurs member with name | name <;> rw [name] <;> rfl
    · intro letter member missing
      rfl
  · exact (faults faulty none _).mpr ⟨.malformed .element, by decide +kernel, rfl⟩

/-- A number may be written as what is no number, and then no variable is needed to fail. -/
theorem Program.values_malformed_number :
    let program : List Term := [⟨"abc".toList, .number⟩]
    let frame : Frame := ⟨⟨[(.text ['X'], [])], by decide⟩, []⟩
    checked program = .ok () ∧ (∀ term ∈ program, term.role.acts = true) ∧
      (∀ term ∈ program, term.role ≠ .number → Registry.standard.defines term = true) ∧
      (∀ letter, ¬ Occurs program letter) ∧
      frame.values Registry.standard program none =
        .error (.conversion (.malformed (.text "abc".toList))) := by
  refine ⟨by decide, by decide, by simp, by simp [Occurs], ?_⟩
  exact Outcome.error?_eq_some_iff.mp (by decide +kernel)

end Abacus
