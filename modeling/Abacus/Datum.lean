import Abacus.Decimal.Reading
import Abacus.Text.Quoted

/-! Data: what a caller hands over as a value, and the double that it stands for. -/

namespace Abacus

inductive Datum where
  | number (value : Float)
  | integer (value : Int)
  | truth (value : Bool)
  | text (value : Text)
  | nothing
  | sequence

/-- What does not have the form of a number: a text, or a list in the place of one element. -/
inductive Malformed where
  | text (value : Text)
  | element
  deriving DecidableEq

/-- Why a datum stands for no number. -/
inductive ConversionError where
  | malformed (value : Malformed)
  | tooLarge
  | missing
  | sequence
  deriving DecidableEq

namespace ConversionError

private def unsuitable (kind : String) : Text :=
  "float() argument must be a string or a real number, not ".toList ++ Text.quoted kind.toList

def message : ConversionError → Text
  | .malformed (.text value) => "could not convert string to float: ".toList ++ value.quoted
  | .malformed .element => "setting an array element with a sequence.".toList
  | .tooLarge => "int too large to convert to float".toList
  | .missing => unsuitable "NoneType"
  | .sequence => unsuitable "list"

end ConversionError

namespace Datum

/-- The least magnitude of an integer that rounds beyond every double: half a step above the
greatest double. -/
def leastTooLarge : Nat :=
  Nat.pow 2 1024 - Nat.pow 2 970

/-- The number that a text denotes. -/
def readNumber (text : Text) : Except ConversionError Float :=
  match Decimal.read? text with
  | some value => .ok value
  | none => .error (.malformed (.text text))

/-- The double nearest to a datum. -/
def toFloat : Datum → Except ConversionError Float
  | .number value => .ok value
  | .integer value =>
    if value.natAbs < leastTooLarge then .ok (Float.ofInt value) else .error .tooLarge
  | .truth value => .ok (if value then 1 else 0)
  | .text value => readNumber value
  | .nothing => .error .missing
  | .sequence => .error .sequence

/-- The double in a cell of a column. An empty cell holds no number, and a list, which has no place
in one cell, is refused as such and not for its type. -/
def cell : Datum → Except ConversionError Float
  | .nothing => .ok Double.undefined
  | .sequence => .error (.malformed .element)
  | datum => datum.toFloat

end Datum
end Abacus
