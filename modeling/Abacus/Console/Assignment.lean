import Abacus.Store

/-! Assignments as they are written on the command line: a name, an equals sign and a number, in
which a comma may stand for the point. Blanks around the name and the number do not count. -/

namespace Abacus.Console

/-- Why an assignment is refused. -/
inductive AssignmentError where
  | form (text : Text)
  | value (text : Text)
  | name (error : StoreError)
  deriving DecidableEq

def AssignmentError.message : AssignmentError → Text
  | form text =>
    "Invalid variable assignment ".toList ++ text.quoted ++ ", expected NAME=VALUE".toList
  | value text => "Invalid value in variable assignment ".toList ++ text.quoted
  | name error => error.message

/-- The name, in capitals, and the number of an assignment. -/
def readAssignment (text : Text) : Except AssignmentError (Text × Float) :=
  match text.cut? '=' with
  | none => .error (.form text)
  | some (left, right) =>
    let name := left.trim Unicode.isBlank
    let number := (right.trim Unicode.isBlank).map fun char => if char = ',' then '.' else char
    if name.isEmpty then .error (.form text)
    else match Decimal.read? number with
      | none => .error (.value text)
      | some number => .ok (Unicode.upper name, number)

/-- The store of a list of assignments. All of them are read before any name is looked at, and of
several for one name the last counts. -/
def bindings (texts : List Text) : Except AssignmentError Store := do
  let read ← texts.mapM readAssignment
  let distinct := (Table.ofList read).entries
  (Store.ofList (distinct.map fun entry =>
    (.text entry.1, .number entry.2))).mapError AssignmentError.name

end Abacus.Console
