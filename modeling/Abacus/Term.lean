import Abacus.Registry

/-! Terms: lexemes with the part that they play in an expression. -/

namespace Abacus

/-- The parts that a term can play. -/
inductive Role where
  | number
  /-- A variable. -/
  | letter
  | function
  | unary
  | binary
  | opening
  | closing
  /-- None of the parts that an expression has. -/
  | unassigned
  deriving DecidableEq

namespace Role

/-- Numbers and variables. -/
def isOperand : Role → Bool
  | number | letter => true
  | _ => false

theorem isOperand_iff {role : Role} :
    role.isOperand = true ↔ role = .number ∨ role = .letter := by
  cases role <;> simp [isOperand]

end Role

structure Term where
  text : Text
  role : Role
  deriving DecidableEq

namespace Term

/-- The priority of a term; brackets, and whatever is no operator, have the lowest of those that
are fixed. -/
def priority (registry : Registry) (term : Term) : Int :=
  match term.role with
  | .function => Priority.function
  | .unary => Priority.unary
  | .binary => registry.priority term.text
  | _ => Priority.bracket

/-- The mark that tells a unary operator from a binary one. -/
def unaryMark : Char := '\''

/-- A term as a trace shows it. -/
def shown (term : Term) : Text :=
  if term.role = .unary then unaryMark :: term.text else term.text

/-- Terms one after the other, a space between each two. -/
def trace (terms : List Term) : Text :=
  Text.joined [' '] (terms.map shown)

end Term
end Abacus
