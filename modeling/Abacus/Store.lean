import Abacus.Datum
import Abacus.Decimal.Printed
import Abacus.Label
import Abacus.Table
import Abacus.Unicode.Upper
import Abacus.Variable

/-! The store of variables: a number for each letter that was set. Names count without regard to
case, and a variable that was never set reads as no number. -/

namespace Abacus

/-- Why a step on a store is refused. -/
inductive StoreError where
  | unknownName (name : Label)
  | value (error : ConversionError)
  deriving DecidableEq

def StoreError.message : StoreError → Text
  | .unknownName name =>
    "Unknown variable name: ".toList ++ name.shown ++ " (expected a single letter A-Z)".toList
  | .value error => error.message

/-- The variable of a label whose spelling, in capitals, is a single letter from A to Z. -/
def Variable.ofLabel? (label : Label) : Option Variable :=
  ofText? (Unicode.upper label.spelling)

/-- The variable of a label. -/
def Variable.ofLabel (label : Label) : Except StoreError Variable :=
  match ofLabel? label with
  | some letter => .ok letter
  | none => .error (.unknownName label)

/-- The numbers of the variables that are set. -/
structure Store where
  numbers : Table Variable Float

namespace Store

def empty : Store := ⟨.empty⟩

/-- The number of a variable, which is no number while none is set. -/
def read (store : Store) (letter : Variable) : Float :=
  (store.numbers.get? letter).getD Double.undefined

/-- The value is looked at before the name. -/
def set (store : Store) (name : Label) (value : Datum) : Except StoreError Store := do
  let number ← value.toFloat.mapError StoreError.value
  let letter ← Variable.ofLabel name
  return ⟨store.numbers.put letter number⟩

def get (store : Store) (name : Label) : Except StoreError Float :=
  (Variable.ofLabel name).map store.read

def unset (store : Store) (name : Label) : Except StoreError Store :=
  (Variable.ofLabel name).map fun letter => ⟨store.numbers.erase letter⟩

/-- The variable of a name is set; a name of no variable is not. -/
def contains (store : Store) (name : Label) : Bool :=
  (Variable.ofLabel? name).any store.numbers.contains

def size (store : Store) : Nat :=
  store.numbers.size

/-- The names and numbers of the variables that are set, in the order of the table. -/
def items (store : Store) : List (Text × Float) :=
  store.numbers.entries.map fun entry => (entry.1.name, entry.2)

/-- Assignments made one after the other, up to the first that is refused. -/
def setAll (store : Store) : List (Label × Datum) → Except StoreError Store
  | [] => .ok store
  | (name, value) :: rest => do (← store.set name value).setAll rest

/-- A store of assignments. -/
def ofList (assignments : List (Label × Datum)) : Except StoreError Store :=
  empty.setAll assignments

/-- A store as it is printed. -/
def shown (store : Store) : Text :=
  let item (entry : Text × Float) := entry.1.quoted ++ ':' :: ' ' :: Decimal.ofFloat entry.2
  "VariableStore(\x7b".toList ++ Text.joined [',', ' '] (store.items.map item) ++ ['}', ')']

end Store
end Abacus
