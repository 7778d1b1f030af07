import Abacus.Table
import Abacus.Text

/-! Priorities: of two operators around an operand the one of the higher priority takes it. -/

namespace Abacus.Priority

def function : Int := 100

def unary : Int := 90

/-- The priorities of the binary operators that have one of their own. -/
def configured : Table Text Int where
  entries := [(['^'], 70), (['*'], 60), (['/'], 60)]
  distinct := by decide

/-- The priority of all other binary operators. -/
def common : Int := 50

def bracket : Int := 0

end Abacus.Priority
