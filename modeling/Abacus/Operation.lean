import Abacus.Text

/-! Operations: the named rules that functions and operators stand for. -/

namespace Abacus

/-- What an operation does: it follows a rule on numbers, or gives one number whatever it gets. When
it acts on many rows at once, it may follow one rule if its last operand is a single number for all
rows, and another if that operand has a number for each row. -/
inductive Action (Rule : Type) where
  | pointwise (rule : Rule)
  | constant (value : Float)
  | byOperand (single : Rule) (rowwise : Rule)

structure Operation (Rule : Type) where
  name : Text
  action : Action Rule

/-- Operations on one number. -/
abbrev Unary := Operation (Float → Float)

/-- Operations on two numbers, the left one first. -/
abbrev Binary := Operation (Float → Float → Float)

def Unary.apply (operation : Unary) (operand : Float) : Float :=
  match operation.action with
  | .pointwise rule | .byOperand rule _ => rule operand
  | .constant value => value

def Binary.apply (operation : Binary) (left right : Float) : Float :=
  match operation.action with
  | .pointwise rule | .byOperand rule _ => rule left right
  | .constant value => value

end Abacus
