import Abacus.Expression

/-! All the ways in which the evaluation of a source text can fail. -/

namespace Abacus

inductive Failure where
  | parse (error : ParseError)
  | store (error : StoreError)
  | run (error : RunError)
  deriving DecidableEq

namespace Failure

def message : Failure → Text
  | parse error => error.message
  | store error => error.message
  | run error => error.message

/-- The fault lies in the expression, not in what was given along with it. -/
def isExpression : Failure → Bool
  | parse _ | run (.machine _) => true
  | _ => false

end Failure

/-- The value of a source text, with assignments made after it was read. -/
def evaluate (registry : Registry) (source : Text) (assignments : List (Label × Datum)) :
    Except Failure Float := do
  let expression ← (Expression.parse registry source).mapError Failure.parse
  let store ← (Store.ofList assignments).mapError Failure.store
  (expression.value store).mapError Failure.run

end Abacus
