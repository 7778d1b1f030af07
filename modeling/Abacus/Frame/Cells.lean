import Abacus.Operation

/-! Values for all rows of a frame at once: one number that goes for every row, or a column with a
number for each. An operation acts row by row. -/

namespace Abacus

inductive Cells where
  | scalar (value : Float)
  | column (values : List Float)

namespace Cells

/-- The numbers of the given number of rows. -/
def filled (rows : Nat) : Cells → List Float
  | scalar value => List.replicate rows value
  | column values => values

/-- A rule for one number, row by row. -/
def map (rule : Float → Float) : Cells → Cells
  | scalar value => scalar (rule value)
  | column values => column (values.map rule)

/-- A rule for two numbers, row by row; a single number goes with every row of the other side. -/
def zip (rule : Float → Float → Float) : Cells → Cells → Cells
  | scalar left, scalar right => scalar (rule left right)
  | scalar left, column rights => column (rights.map (rule left))
  | column lefts, scalar right => column (lefts.map (rule · right))
  | column [left], column rights => column (rights.map (rule left))
  | column lefts, column [right] => column (lefts.map (rule · right))
  | column lefts, column rights => column (lefts.zipWith rule rights)

/-- The right operand is a single number for all rows: a scalar, or the one number of a column
beside a column of another length. -/
def isSingleFor (left : Cells) : Cells → Bool
  | scalar _ => true
  | column values => match left with
    | scalar _ => false
    | column lefts => values.length == 1 && lefts.length != 1

end Cells

/-- An operation on one number, row by row; a constant stays a single number. -/
def Unary.applyCells (operation : Unary) (operand : Cells) : Cells :=
  match operation.action with
  | .pointwise rule => operand.map rule
  | .constant value => .scalar value
  | .byOperand single rowwise => match operand with
    | .scalar value => .scalar (single value)
    | .column values => .column (values.map rowwise)

/-- An operation on two numbers, row by row; a constant stays a single number. -/
def Binary.applyCells (operation : Binary) (left right : Cells) : Cells :=
  match operation.action with
  | .pointwise rule => left.zip rule right
  | .constant value => .scalar value
  | .byOperand single rowwise =>
    left.zip (if left.isSingleFor right then single else rowwise) right

end Abacus
