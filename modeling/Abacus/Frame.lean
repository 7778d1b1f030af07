import Abacus.Frame.Cells
import Abacus.Program.Machine

/-! Frames: columns of data under labels, with a label for each row. A program is run on all rows
at once, with each variable that has a column standing for the numbers of that column. -/

namespace Abacus

/-- Columns, each under a label of its own and with one datum for each row of the index. -/
structure Frame where
  columns : Table Label (List Datum)
  index : List Label

/-- A number for each row of an index. -/
structure Series where
  index : List Label
  values : List Float

namespace Frame

/-- The frame of some columns, with the rows numbered from 0 if they have no labels. Of columns
under one label the first place and the last cells count. -/
def ofColumns (columns : List (Label × List Datum)) (index : Option (List Label)) : Frame where
  columns := .ofList columns
  index := index.getD <| match columns with
    | [] => []
    | (_, cells) :: _ => (List.range cells.length).map fun (row : Nat) => .integer row

def rows (frame : Frame) : Nat :=
  frame.index.length

/-- The cells of the last column whose label is the variable of that name, in any case. -/
def column? (frame : Frame) (name : Text) : Option (List Datum) :=
  (frame.columns.entries.reverse.find? fun column =>
    (Variable.ofLabel? column.1).any (·.name == name)).map Prod.snd

/-- The numbers of a variable, row by row: those of its column, or else its number in the store for
each row. Without a store every other variable is no number, under whatever name. -/
def lookup (frame : Frame) (store : Option Store) (name : Text) : Except RunError Cells :=
  match frame.column? name with
  | some cells => ((cells.mapM Datum.cell).mapError RunError.conversion).map Cells.column
  | none =>
    let number := match store with
      | some store => (store.get (.text name)).mapError RunError.store
      | none => .ok Double.undefined
    number.map fun value => .column (List.replicate frame.rows value)

/-- The machine on the rows of a frame. -/
def machine (frame : Frame) (store : Option Store) : Machine Cells where
  constant := .scalar
  lookup := frame.lookup store
  unary := Unary.applyCells
  binary := Binary.applyCells

/-- The values of a program on the rows of a frame. -/
def values (frame : Frame) (registry : Registry) (program : List Term) (store : Option Store) :
    Except RunError Series :=
  ((frame.machine store).run registry program).map fun cells =>
    ⟨frame.index, cells.filled frame.rows⟩

end Frame
end Abacus
