import Abacus.Frame
import Abacus.Proofs.Meaning
import Abacus.Proofs.Simulation
import Abacus.Registry.Standard
import Mathlib.Data.List.Induction

/-! Row by row. The values of a program on a frame are its values on the single rows, with the
variables that have a column bound to the cells of the row; and where it fails on numbers, it fails
on the frame in the same way. -/

namespace Abacus

/-- The action does not depend on whether an operand is a single number or one of many rows: of two
rules, as a power has them, it has to be the same one. -/
def Action.Uniform {Rule : Type} : Action Rule → Prop
  | .pointwise _ | .constant _ => True
  | .byOperand single rowwise => single = rowwise

/-- The operation of a term acts row by row, or gives one number for all rows. -/
def Registry.ActsByRow (registry : Registry) (term : Term) : Prop :=
  match term.role with
  | .unary | .function => ∀ operation, Machine.unaryOf registry term = .ok operation →
    operation.action.Uniform
  | .binary => ∀ operation, Machine.binaryOf registry term = .ok operation →
    operation.action.Uniform
  | .number | .letter | .opening | .closing | .unassigned => True

namespace Cells

/-- A column has a number for each row. -/
def Fits (rows : Nat) : Cells → Prop
  | scalar _ => True
  | column values => values.length = rows

/-- The number is what a value has in a row, if there is such a row. -/
structure Shows (rows row : Nat) (cells : Cells) (number : Float) : Prop where
  fits : cells.Fits rows
  shown : row < rows → (cells.filled rows)[row]? = some number

variable {rows row : Nat}

theorem fits_iff {cells : Cells} : cells.Fits rows ↔ (cells.filled rows).length = rows := by
  cases cells <;> simp [Fits, filled]

theorem filled_map (rule : Float → Float) (cells : Cells) :
    (cells.map rule).filled rows = (cells.filled rows).map rule := by
  cases cells <;> simp [map, filled]

private theorem zipWith_replicate_left (value : Float) (values : List Float)
    (rule : Float → Float → Float) :
    (List.replicate values.length value).zipWith rule values = values.map (rule value) := by
  induction values with
  | nil => rfl
  | cons head values ih => simpa [List.replicate_succ] using ih

private theorem zipWith_replicate_right (value : Float) (values : List Float)
    (rule : Float → Float → Float) :
    values.zipWith rule (List.replicate values.length value) = values.map (rule · value) := by
  induction values with
  | nil => rfl
  | cons head values ih => simpa [List.replicate_succ] using ih

/-- Whichever side is a single number, the rows of the result come of the rows of both sides. -/
theorem filled_zip {left right : Cells} (leftFits : left.Fits rows) (rightFits : right.Fits rows)
    (rule : Float → Float → Float) : (left.zip rule right).filled rows =
      (left.filled rows).zipWith rule (right.filled rows) := by
  fun_cases zip rule left right with
  | case1 left right => simp [filled]
  | case2 left rights =>
    obtain rfl := rightFits
    exact (zipWith_replicate_left left rights rule).symm
  | case3 lefts right =>
    obtain rfl := leftFits
    exact (zipWith_replicate_right right lefts rule).symm
  | case4 left rights =>
    -- A column of one number among columns of the same length: there is one row.
    obtain rfl := leftFits
    obtain ⟨right, rfl⟩ := List.length_eq_one_iff.mp rightFits
    rfl
  | case5 lefts right several =>
    obtain rfl := rightFits
    obtain ⟨left, rfl⟩ := List.length_eq_one_iff.mp leftFits
    exact (several left rfl).elim
  | case6 lefts rights => rfl

theorem shows_scalar (number : Float) : Shows rows row (scalar number) number where
  fits := trivial
  shown := fun inside => by simp [filled, inside]

theorem Shows.map {cells : Cells} {number : Float} (same : cells.Shows rows row number)
    (rule : Float → Float) : (cells.map rule).Shows rows row (rule number) where
  fits := by
    rw [fits_iff, filled_map, List.length_map]
    exact fits_iff.mp same.fits
  shown := fun inside => by rw [filled_map, List.getElem?_map, same.shown inside, Option.map_some]

theorem Shows.zip {left right : Cells} {first second : Float}
    (leftSame : left.Shows rows row first) (rightSame : right.Shows rows row second)
    (rule : Float → Float → Float) : (left.zip rule right).Shows rows row (rule first second) where
  fits := by
    rw [fits_iff, filled_zip leftSame.fits rightSame.fits, List.length_zipWith,
      fits_iff.mp leftSame.fits, fits_iff.mp rightSame.fits, Nat.min_self]
  shown := fun inside => by
    rw [filled_zip leftSame.fits rightSame.fits, List.getElem?_zipWith, leftSame.shown inside,
      rightSame.shown inside]

end Cells

open Cells

theorem Unary.shows_applyCells {operation : Unary} (uniform : operation.action.Uniform)
    {rows row : Nat} {cells : Cells} {number : Float} (same : cells.Shows rows row number) :
    (operation.applyCells cells).Shows rows row (operation.apply number) := by
  obtain ⟨name, action⟩ := operation
  cases action with
  | pointwise rule => exact same.map rule
  | constant value => exact shows_scalar value
  | byOperand single rowwise =>
    obtain rfl := uniform
    cases cells <;> exact same.map single

theorem Binary.shows_applyCells {operation : Binary} (uniform : operation.action.Uniform)
    {rows row : Nat} {left right : Cells} {first second : Float}
    (leftSame : left.Shows rows row first) (rightSame : right.Shows rows row second) :
    (operation.applyCells left right).Shows rows row (operation.apply first second) := by
  obtain ⟨name, action⟩ := operation
  cases action with
  | pointwise rule => exact leftSame.zip rightSame rule
  | constant value => exact shows_scalar value
  | byOperand single rowwise =>
    obtain rfl := uniform
    simp only [Binary.applyCells, ite_self]
    exact leftSame.zip rightSame single

namespace Frame

/-- Columns of numbers, with a number for each row. -/
structure Numeric (frame : Frame) : Prop where
  complete : ∀ column ∈ frame.columns.entries, column.2.length = frame.rows
  numbers : ∀ column ∈ frame.columns.entries, ∀ datum ∈ column.2,
    ∃ number, datum.cell = .ok number

/-- The store with the number that a column has in a row put in for the variable of the column. -/
def boundColumn (row : Nat) (store : Store) (column : Label × List Datum) : Store :=
  match Variable.ofLabel? column.1, column.2[row]?.map Datum.cell with
  | some letter, some (.ok number) => store.bound letter number
  | _, _ => store

/-- The store of a row: its cells are put in column by column, so that of several columns of a
variable the last one counts. -/
def bound (frame : Frame) (store : Store) (row : Nat) : Store :=
  frame.columns.entries.foldl (boundColumn row) store

/-- A column counts for the variable that its label names. -/
private theorem any_name_iff {named : Option Variable} {letter : Variable} :
    named.any (·.name == letter.name) = true ↔ named = some letter := by
  cases named with
  | none => simp
  | some other =>
    simp only [Option.any_some, beq_iff_eq, Option.some.injEq]
    constructor
    · exact fun same => Variable.name_injective same
    · rintro rfl
      rfl

variable {row : Nat} {store : Store} {letter : Variable} {column : Label × List Datum}

theorem read_boundColumn {datum : Datum} {number : Float}
    (named : Variable.ofLabel? column.1 = some letter) (present : column.2[row]? = some datum)
    (converted : datum.cell = .ok number) :
    (boundColumn row store column).read letter = number := by
  simp [boundColumn, named, present, converted, Store.read_bound]

theorem read_boundColumn_other (other : Variable.ofLabel? column.1 ≠ some letter) :
    (boundColumn row store column).read letter = store.read letter := by
  unfold boundColumn
  split
  · rename_i named _
    rw [Store.read_bound, if_neg]
    rintro rfl
    exact other named
  · rfl

/-- The variable of a column reads as what the last of its columns has in the row. -/
theorem read_bound_of_column {frame : Frame} {cells : List Datum} {datum : Datum} {number : Float}
    (found : frame.column? letter.name = some cells) (present : cells[row]? = some datum)
    (converted : datum.cell = .ok number) : (frame.bound store row).read letter = number := by
  unfold column? at found
  unfold bound
  generalize frame.columns.entries = columns at found
  induction columns using List.reverseRecOn with
  | nil => cases found
  | append_singleton columns last ih =>
    rw [List.foldl_append]
    simp only [List.reverse_append, List.reverse_singleton, List.singleton_append,
      List.find?_cons] at found
    split at found
    · rename_i named
      cases found
      exact read_boundColumn (any_name_iff.mp named) present converted
    · rename_i unnamed
      refine (read_boundColumn_other ?_).trans (ih found)
      intro named
      rw [any_name_iff.mpr named] at unnamed
      cases unnamed

/-- A variable without a column reads as it did. -/
theorem read_bound_of_none {frame : Frame} (missing : frame.column? letter.name = none) :
    (frame.bound store row).read letter = store.read letter := by
  have others : ∀ column ∈ frame.columns.entries, Variable.ofLabel? column.1 ≠ some letter := by
    intro column member named
    have searched := List.find?_eq_none.mp (Option.map_eq_none_iff.mp missing) column
    exact searched (List.mem_reverse.mpr member) (any_name_iff.mpr named)
  unfold bound
  generalize frame.columns.entries = columns at others
  induction columns generalizing store with
  | nil => rfl
  | cons column columns ih =>
    have first : (boundColumn row store column).read letter = store.read letter :=
      read_boundColumn_other (others column (by simp))
    exact (ih fun other member => others other (by simp [member])).trans first

/-- No row is there to be bound behind the last one. -/
theorem bound_rows {frame : Frame} (numeric : frame.Numeric) (store : Store) :
    frame.bound store frame.rows = store := by
  have unchanged : ∀ column ∈ frame.columns.entries,
      boundColumn frame.rows store column = store := by
    intro column member
    have absent : column.2[frame.rows]? = none := by
      rw [← numeric.complete column member, List.getElem?_eq_none_iff]
    simp [boundColumn, absent]
  unfold bound
  generalize frame.columns.entries = columns at unchanged
  induction columns with
  | nil => rfl
  | cons column columns ih =>
    rw [List.foldl_cons, unchanged column (by simp)]
    exact ih fun other member => unchanged other (by simp [member])

/-- A column of numbers is read as the numbers of its cells. -/
theorem exists_mapM_cell {cells : List Datum}
    (numbers : ∀ datum ∈ cells, ∃ number, datum.cell = .ok number) :
    ∃ values, cells.mapM Datum.cell = .ok values ∧ cells.map Datum.cell = values.map .ok := by
  induction cells with
  | nil => exact ⟨[], rfl, rfl⟩
  | cons datum cells ih =>
    obtain ⟨number, converted⟩ := numbers datum (by simp)
    obtain ⟨values, read, same⟩ := ih fun other member => numbers other (by simp [member])
    refine ⟨number :: values, ?_, by simp [converted, same]⟩
    simp only [List.mapM_cons, converted, read]
    rfl

theorem column_of_column? {frame : Frame} {name : Text} {cells : List Datum}
    (found : frame.column? name = some cells) :
    ∃ label, (label, cells) ∈ frame.columns.entries := by
  obtain ⟨⟨label, _⟩, present, rfl⟩ := Option.map_eq_some_iff.mp found
  exact ⟨label, List.mem_reverse.mp (List.mem_of_find?_eq_some present)⟩

theorem lookup_of_some {frame : Frame} {name : Text} {cells : List Datum}
    (found : frame.column? name = some cells) (store : Option Store) :
    frame.lookup store name =
      ((cells.mapM Datum.cell).mapError RunError.conversion).map Cells.column := by
  simp only [lookup, found]

/-- A variable without a column has its number in the store for all rows. -/
theorem lookup_of_none {frame : Frame} {letter : Variable}
    (missing : frame.column? letter.name = none) (store : Option Store) :
    frame.lookup store letter.name =
      .ok (.column (List.replicate frame.rows ((store.getD .empty).read letter))) := by
  cases store with
  | none => simp [lookup, missing, Except.map, Store.read, Store.empty, Table.get?, Table.empty]
  | some store => simp [lookup, missing, store.get_name, Except.map, Except.mapError]

/-- What a frame gives for a variable shows in each row what the store of the row has. -/
theorem exists_lookup {frame : Frame} (numeric : frame.Numeric) (store : Option Store)
    (letter : Variable) (row : Nat) : ∃ cells, frame.lookup store letter.name = .ok cells ∧
      cells.Shows frame.rows row ((frame.bound (store.getD .empty) row).read letter) := by
  cases found : frame.column? letter.name with
  | some cells =>
    obtain ⟨label, member⟩ := column_of_column? found
    obtain ⟨values, read, same⟩ := exists_mapM_cell (numeric.numbers _ member)
    have length : values.length = frame.rows := by
      have lengths := congrArg List.length same
      rw [List.length_map, List.length_map] at lengths
      exact lengths.symm.trans (numeric.complete _ member)
    refine ⟨.column values, by rw [lookup_of_some found, read]; rfl, length, ?_⟩
    intro inside
    have cell := congrArg (·[row]?) same
    obtain ⟨number, value⟩ : ∃ number, values[row]? = some number :=
      ⟨_, List.getElem?_eq_getElem (length ▸ inside)⟩
    simp only [List.getElem?_map, value, Option.map_some, Option.map_eq_some_iff] at cell
    obtain ⟨datum, present, converted⟩ := cell
    rw [filled, value, read_bound_of_column found present converted]
  | none =>
    refine ⟨_, lookup_of_none found store, ?_, ?_⟩
    · simp [Fits]
    · intro inside
      simp [filled, inside, read_bound_of_none found]

/-- Every defined term keeps what the rows show, if its operation acts row by row. -/
theorem keeps_shows {frame : Frame} (numeric : frame.Numeric) {registry : Registry} {term : Term}
    (defined : registry.defines term = true) (uniform : registry.ActsByRow term)
    (store : Option Store) (row : Nat) :
    Machine.Keeps (Cells.Shows frame.rows row) (frame.machine store)
      (frame.bound (store.getD .empty) row).machine registry term := by
  obtain ⟨text, role⟩ := term
  cases role with
  | number =>
    obtain ⟨number, read⟩ := Datum.exists_readNumber defined
    exact ⟨.scalar number, number, by simp [Machine.operand, read, machine],
      by simp [Machine.operand, read, Store.machine], shows_scalar number⟩
  | letter =>
    obtain ⟨letter, rfl⟩ := Text.exists_variable defined
    obtain ⟨cells, found, same⟩ := exists_lookup numeric store letter row
    exact ⟨cells, _, found,
      by simp [Machine.operand, Store.machine, Store.get_name, Except.mapError], same⟩
  | function | unary =>
    obtain ⟨operation, known⟩ := Table.exists_get? defined
    have found := Machine.found_eq_ok known
    exact ⟨operation, found, fun _ _ same => Unary.shows_applyCells (uniform _ found) same⟩
  | binary =>
    obtain ⟨operation, known⟩ := Table.exists_get? defined
    have found := Machine.found_eq_ok known
    exact ⟨operation, found, fun _ _ left _ _ right =>
      Binary.shows_applyCells (uniform _ found) left right⟩
  | opening | closing | unassigned => trivial

/-- On a frame of numbers a program of defined terms, each of which acts row by row, either fails in
the way in which it fails on numbers, or it comes to a value for each row, which is its number in
the store of that row. -/
theorem values_rowwise {frame : Frame} (numeric : frame.Numeric) {registry : Registry}
    {program : List Term} (defined : ∀ term ∈ program, registry.defines term = true)
    (uniform : ∀ term ∈ program, registry.ActsByRow term) (store : Option Store) :
    (∃ error : MachineError, frame.values registry program store = .error (.machine error) ∧
      Program.value registry program (store.getD .empty) = .error (.machine error)) ∨
    ∃ values : List Float, frame.values registry program store = .ok ⟨frame.index, values⟩ ∧
      values.length = frame.rows ∧
      (∃ number, Program.value registry program (store.getD .empty) = .ok number) ∧
      ∀ row number, values[row]? = some number →
        Program.value registry program (frame.bound (store.getD .empty) row) = .ok number := by
  have agree (row : Nat) := Machine.run_agree fun term member =>
    keeps_shows numeric (defined term member) (uniform term member) store row
  have alone := agree frame.rows
  rw [bound_rows numeric] at alone
  unfold values Program.value
  cases outcome : (frame.machine store).run registry program with
  | error failure =>
    rw [outcome] at alone
    obtain ⟨error, rfl, failed⟩ := alone.exists_of_error
    exact .inl ⟨error, rfl, failed⟩
  | ok cells =>
    rw [outcome] at alone
    obtain ⟨number, value, same⟩ := alone.exists_of_ok
    have length := fits_iff.mp same.fits
    refine .inr ⟨cells.filled frame.rows, rfl, length, ⟨number, value⟩, ?_⟩
    intro row shown present
    have there := agree row
    rw [outcome] at there
    obtain ⟨image, imageValue, imageSame⟩ := there.exists_of_ok
    have inside : row < frame.rows := length ▸ (List.getElem?_eq_some_iff.mp present).1
    have here := (imageSame.shown inside).symm.trans present
    rw [imageValue, Option.some.inj here]

/-- `X - Y` on two rows: the column named `x` gives way to the one named `X` behind it. -/
theorem values_difference :
    let one : Datum := .number 1
    let two : Datum := .number 2
    let frame : Frame := ⟨⟨[(.text ['x'], [one, one]), (.text ['X'], [two, one]),
      (.text ['y'], [one, two])], by decide⟩, [.integer 0, .integer 1]⟩
    let program : List Term := [⟨['X'], .letter⟩, ⟨['Y'], .letter⟩, ⟨['-'], .binary⟩]
    frame.Numeric ∧ (∀ term ∈ program, Registry.standard.defines term = true) ∧
      (∀ term ∈ program, Registry.standard.ActsByRow term) ∧
      ∃ values : List Float, frame.values Registry.standard program none =
        .ok ⟨frame.index, values⟩ ∧ values.length = 2 ∧
        ∀ row number, values[row]? = some number →
          Program.value Registry.standard program (frame.bound .empty row) = .ok number := by
  intro one two frame program
  have numeric : frame.Numeric := by
    refine ⟨by simp [frame, rows], ?_⟩
    intro column member datum present
    simp only [frame, List.mem_cons, List.not_mem_nil, or_false] at member
    rcases member with rfl | rfl | rfl <;>
      simp only [List.mem_cons, List.not_mem_nil, or_false] at present <;>
      rcases present with rfl | rfl <;> exact ⟨_, rfl⟩
  have defined : ∀ term ∈ program, Registry.standard.defines term = true := by decide +kernel
  have uniform : ∀ term ∈ program, Registry.standard.ActsByRow term := by
    intro term member
    simp only [program, List.mem_cons, List.not_mem_nil, or_false] at member
    rcases member with rfl | rfl | rfl
    · trivial
    · trivial
    · rintro operation known
      cases known
      trivial
  refine ⟨numeric, defined, uniform, ?_⟩
  rcases values_rowwise numeric defined uniform none with
    ⟨error, failed, -⟩ | ⟨values, run, length, -, same⟩
  · cases failed
  · exact ⟨values, run, length, same⟩

end Frame
end Abacus
