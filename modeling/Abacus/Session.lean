import Abacus.Expression
import Abacus.Frame

/-! A session keeps an expression together with the numbers of its variables. -/

namespace Abacus

structure Session where
  expression : Expression
  store : Store

namespace Session

/-- A session on a source text, with no variable set. -/
def start (registry : Registry) (source : Text) : Except ParseError Session :=
  (Expression.parse registry source).map fun expression => ⟨expression, .empty⟩

def set (session : Session) (name : Label) (value : Datum) : Except StoreError Session :=
  (session.store.set name value).map fun store => { session with store }

/-- The value of the expression with the variables as they are. -/
def value (session : Session) : Except RunError Float :=
  session.expression.value session.store

/-- The values of the expression on the rows of a frame; the store has the other variables. -/
def values (session : Session) (frame : Frame) : Except RunError Series :=
  frame.values session.expression.registry session.expression.program (some session.store)

end Session
end Abacus
