import Abacus.Program.Depth
import Abacus.Program.Machine

/-! Expression trees: operands at the leaves, functions and operators above what they take. A tree
is read in two orders: as it is written, with an operator between its operands, and as it is run,
with an operator after them. The program of a tree leaves one value on the stack, and that is the
value of the tree. -/

namespace Abacus

inductive Tree where
  | leaf (operand : Term)
  | unary (operator : Term) (argument : Tree)
  | binary (operator : Term) (left right : Tree)

namespace Tree

/-- Every term stands where its role belongs. -/
def WellFormed : Tree → Prop
  | leaf operand => operand.role.isOperand = true
  | unary operator argument =>
    (operator.role = .unary ∨ operator.role = .function) ∧ argument.WellFormed
  | binary operator left right => operator.role = .binary ∧ left.WellFormed ∧ right.WellFormed

/-- The terms in the order in which they are run. -/
def program : Tree → List Term
  | leaf operand => [operand]
  | unary operator argument => argument.program ++ [operator]
  | binary operator left right => left.program ++ right.program ++ [operator]

/-- The terms in the order in which they are written, without brackets. -/
def written : Tree → List Term
  | leaf operand => [operand]
  | unary operator argument => operator :: argument.written
  | binary operator left right => left.written ++ operator :: right.written

/-- The value of a tree: that of each argument, the left one first, and then the operation. -/
def value {Value : Type} (machine : Machine Value) (registry : Registry) :
    Tree → Except RunError Value
  | leaf operand => machine.operand operand
  | unary operator argument => do
    let argument ← argument.value machine registry
    return machine.unary (← Machine.unaryOf registry operator) argument
  | binary operator left right => do
    let left ← left.value machine registry
    let right ← right.value machine registry
    return machine.binary (← Machine.binaryOf registry operator) left right

/-- A tree adds one to the depth, whatever lies below. -/
theorem depthFrom_program {tree : Tree} (valid : tree.WellFormed) (depth : Nat) :
    Program.depthFrom depth tree.program = some (depth + 1) := by
  induction tree generalizing depth with
  | leaf operand =>
    obtain ⟨text, role⟩ := operand
    cases role <;> simp_all [WellFormed, Role.isOperand, program, Program.depthFrom,
      Program.depthAfter]
  | unary operator argument ih =>
    obtain ⟨role, argumentValid⟩ := valid
    rw [program, Program.depthFrom_append, ih argumentValid]
    rcases role with role | role <;> simp [Program.depthFrom, Program.depthAfter, role]
  | binary operator left right leftDepth rightDepth =>
    obtain ⟨role, leftValid, rightValid⟩ := valid
    rw [program, Program.depthFrom_append, Program.depthFrom_append, leftDepth leftValid]
    simp [rightDepth rightValid, Program.depthFrom, Program.depthAfter, role]

/-- The program of a tree puts the value of the tree on the stack and leaves the rest alone. -/
theorem steps_program {Value : Type} (machine : Machine Value) (registry : Registry) {tree : Tree}
    (valid : tree.WellFormed) (stack : List Value) :
    machine.steps registry stack tree.program =
      (tree.value machine registry).map (· :: stack) := by
  induction tree generalizing stack with
  | leaf operand =>
    have operandStep : machine.step registry stack operand =
        (machine.operand operand).map (· :: stack) := by
      obtain ⟨text, role⟩ := operand
      cases role <;> simp_all [WellFormed, Role.isOperand] <;> rfl
    rw [program, Machine.steps, operandStep, value]
    cases machine.operand operand <;> rfl
  | unary operator argument ih =>
    obtain ⟨role, argumentValid⟩ := valid
    rw [program, Machine.steps_append, ih argumentValid, value]
    cases argument.value machine registry with
    | error => rfl
    | ok operand =>
      have unaryStep : machine.step registry (operand :: stack) operator =
          (Machine.unaryOf registry operator).map (machine.unary · operand :: stack) := by
        rcases role with role | role <;> simp only [Machine.step, role] <;>
          cases Machine.unaryOf registry operator <;> rfl
      simp only [Except.map, Except.bind, Machine.steps, unaryStep]
      cases Machine.unaryOf registry operator <;> rfl
  | binary operator left right leftSteps rightSteps =>
    obtain ⟨role, leftValid, rightValid⟩ := valid
    rw [program, Machine.steps_append, Machine.steps_append, leftSteps leftValid, value]
    cases left.value machine registry with
    | error => rfl
    | ok first =>
      simp only [Except.map, Except.bind, rightSteps rightValid]
      cases right.value machine registry with
      | error => rfl
      | ok second =>
        have binaryStep : machine.step registry (second :: first :: stack) operator =
            (Machine.binaryOf registry operator).map
              (machine.binary · first second :: stack) := by
          simp only [Machine.step, role]
          cases Machine.binaryOf registry operator <;> rfl
        simp only [Machine.steps, binaryStep]
        cases Machine.binaryOf registry operator <;> rfl

end Tree
end Abacus
