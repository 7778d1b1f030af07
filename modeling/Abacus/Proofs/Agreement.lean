import Abacus.Program.Depth
import Abacus.Program.Machine

/-! The check of depth and the machine agree. Where every term has a meaning, the machine comes to
as many values as the depth says, and to an underflow where there is no depth; a run ends with a
value exactly if there is one. -/

namespace Abacus.Machine
variable {Value : Type} {machine : Machine Value} {registry : Registry}

/-- The machine has the value or the operation that a term stands for. -/
def Resolves (machine : Machine Value) (registry : Registry) (term : Term) : Prop :=
  match term.role with
  | .number | .letter => ∃ value, machine.operand term = .ok value
  | .function | .unary => ∃ operation, unaryOf registry term = .ok operation
  | .binary => ∃ operation, binaryOf registry term = .ok operation
  | .opening | .closing | .unassigned => False

/-- The machine comes to as many values as the depth, or to an underflow if there is none. -/
def Comes (outcome : Except RunError (List Value)) : Option Nat → Prop
  | some depth => ∃ values, outcome = .ok values ∧ values.length = depth
  | none => outcome = .error (.machine .underflow)

/-- A function or unary operator needs one value. -/
private theorem comes_unary {term : Term} (role : term.role = .unary ∨ term.role = .function)
    {operation : Unary} (known : unaryOf registry term = .ok operation) (stack : List Value) :
    Comes (machine.step registry stack term) (Program.depthAfter stack.length term) := by
  cases stack with
  | nil => rcases role with role | role <;>
      simp [Comes, step, pop, Program.depthAfter, role, bind, Except.bind]
  | cons top below => rcases role with role | role <;>
      simp [Comes, step, pop, Program.depthAfter, role, known, bind, Except.bind, pure, Except.pure]

/-- A binary operator needs two values and leaves one. -/
private theorem comes_binary {term : Term} (role : term.role = .binary) {operation : Binary}
    (known : binaryOf registry term = .ok operation) (stack : List Value) :
    Comes (machine.step registry stack term) (Program.depthAfter stack.length term) := by
  match stack with
  | [] => simp [Comes, step, pop, Program.depthAfter, role, bind, Except.bind]
  | [top] => simp [Comes, step, pop, Program.depthAfter, role, bind, Except.bind]
  | right :: left :: below =>
    have enough : ¬ below.length + 1 + 1 < 2 := by omega
    simp [Comes, step, pop, Program.depthAfter, role, known, enough, bind, Except.bind, pure,
      Except.pure]

theorem step_comes {term : Term} (resolves : machine.Resolves registry term)
    (stack : List Value) :
    Comes (machine.step registry stack term) (Program.depthAfter stack.length term) := by
  unfold Resolves at resolves
  cases role : term.role with
  | number | letter =>
    rw [role] at resolves
    obtain ⟨value, known⟩ := resolves
    simp [Comes, step, Program.depthAfter, role, known, bind, Except.bind, pure, Except.pure]
  | function =>
    rw [role] at resolves
    obtain ⟨operation, known⟩ := resolves
    exact comes_unary (.inr role) known stack
  | unary =>
    rw [role] at resolves
    obtain ⟨operation, known⟩ := resolves
    exact comes_unary (.inl role) known stack
  | binary =>
    rw [role] at resolves
    obtain ⟨operation, known⟩ := resolves
    exact comes_binary role known stack
  | opening | closing | unassigned =>
    rw [role] at resolves
    exact resolves.elim

/-- The machine keeps to the depth over a whole program. -/
theorem steps_comes {program : List Term}
    (resolves : ∀ term ∈ program, machine.Resolves registry term) (stack : List Value) :
    Comes (machine.steps registry stack program)
      (Program.depthFrom stack.length program) := by
  induction program generalizing stack with
  | nil => exact ⟨stack, rfl, rfl⟩
  | cons term rest ih =>
    have first := step_comes (resolves term (by simp)) stack
    rw [Program.depthFrom, steps]
    cases after : Program.depthAfter stack.length term with
    | none =>
      rw [after] at first
      have failed : machine.step registry stack term = .error (.machine .underflow) := first
      rw [failed]
      rfl
    | some depth =>
      rw [after] at first
      obtain ⟨values, stepped, rfl⟩ := first
      rw [stepped]
      exact ih (fun other member => resolves other (by simp [member])) values

/-- How a run ends at a depth: with the only value, or with a failure if there is none or if there
are several. -/
def Ends (outcome : Except RunError Value) : Option Nat → Prop
  | none | some 0 => outcome = .error (.machine .underflow)
  | some 1 => ∃ value, outcome = .ok value
  | some (_ + 2) => outcome = .error (.machine .imbalance)

theorem single_ends (values : List Value) : Ends (single values) (some values.length) := by
  match values with
  | [] => rfl
  | [value] => exact ⟨value, rfl⟩
  | _ :: _ :: _ => rfl

/-- The depth of a program says how its run ends. -/
theorem run_ends {program : List Term}
    (resolves : ∀ term ∈ program, machine.Resolves registry term) :
    Ends (machine.run registry program) (Program.depth? program) := by
  have comes : Comes (machine.steps registry [] program) (Program.depth? program) :=
    steps_comes resolves []
  rw [run]
  cases depth : Program.depth? program with
  | none =>
    rw [depth] at comes
    have failed : machine.steps registry [] program = .error (.machine .underflow) := comes
    rw [failed]
    rfl
  | some depth =>
    rw [depth] at comes
    obtain ⟨values, reached, rfl⟩ := comes
    rw [reached]
    exact single_ends values

/-- A program of depth one comes to a value. -/
theorem exists_run {program : List Term}
    (resolves : ∀ term ∈ program, machine.Resolves registry term)
    (depth : Program.depth? program = some 1) :
    ∃ value, machine.run registry program = .ok value := by
  have ends := run_ends resolves
  rw [depth] at ends
  exact ends

end Abacus.Machine
