import LabeledSeries.Value
import LabeledSeries.Time

/-!
# Tables of samples

The samples of a metric are the rows of a table.  Its columns of text hold the labels, an integer
column the times and a column of doubles the values; any other column is ignored.  A cell without
content and an empty text are both no label.

Columns are stored as arrays, and a number that is missing is only marked as missing: its place in
the array holds one all the same.  Conditions respect the mark, but samples are read from the
places.
-/

namespace LabeledSeries

/-- The column of times. -/
def timeColumn : String := "_timestamp"

/-- The column of values. -/
def valueColumn : String := "value"

/-- What the cells of a column hold. -/
inductive ColumnKind where
  | text
  | integer
  | double
  deriving Repr, DecidableEq

/-- A column of a table. -/
structure Column where
  name : String
  kind : ColumnKind
  deriving Repr, DecidableEq

/-- The content of a row in a column. -/
inductive Cell where
  | null
  | text (s : String)
  | integer (n : Int)
  | double (x : Float)
  /-- No integer; its place holds this one. -/
  | hiddenInteger (n : Int)
  /-- No double; its place holds this one. -/
  | hiddenDouble (x : Float)

/-- Whether a cell can stand in a column of a kind: without content, or with content of the kind. -/
def Cell.fits : Cell → ColumnKind → Bool
  | .null, _ => true
  | .text _, .text => true
  | .integer _, .integer | .hiddenInteger _, .integer => true
  | .double _, .double | .hiddenDouble _, .double => true
  | _, _ => false

/-- What the place of an integer holds, whether it is missing or not. -/
def Cell.storedInteger : Cell → Int
  | .integer n | .hiddenInteger n => n
  | _ => 0

/-- What the place of a double holds, whether it is missing or not. -/
def Cell.storedDouble : Cell → Float
  | .double x | .hiddenDouble x => x
  | _ => 0

/-- A table: its columns, and rows with one cell for each of them. -/
structure Table where
  columns : List Column
  rows : List (List Cell)

/-- The columns of every metric's table after those of its labels. -/
def sampleColumns : List Column := [⟨timeColumn, .integer⟩, ⟨valueColumn, .double⟩]

/-- The cells of a sample, in the order of these columns. -/
def Sample.cells (sample : Sample) : List Cell := [.integer sample.time, .double sample.value]

/-- The text that a cell is compared by. -/
def Cell.content? : Cell → Option String
  | text s => some s
  | integer n => some (toString n)
  | double x => some (valueText x)
  | null | hiddenInteger _ | hiddenDouble _ => none

/-- Whether a cell's time lies in a window.  Texts are compared as texts. -/
def Cell.isWithin (window : Time.Window) : Cell → Bool
  | integer n => window.holds n
  | text s => decide (toString window.start < s) && decide (s ≤ toString window.stop)
  | _ => false

namespace Table

/-- The cell of a row in the first column of a name. -/
def cell (table : Table) (name : String) (row : List Cell) : Cell :=
  match (table.columns.zip row).find? (fun (column, _) => column.name = name) with
  | some (_, cell) => cell
  | none => .null

/-- The first column of a name. -/
def column? (table : Table) (name : String) : Option Column :=
  table.columns.find? (fun column => column.name = name)

/-- A name that occurs in the rest of a list, too. -/
def repeatedName? : List String → Option String
  | [] => none
  | name :: names => if names.contains name then some name else repeatedName? names

/-- A name that two columns have. -/
def repeatedColumn? (table : Table) : Option String :=
  repeatedName? (table.columns.map Column.name)

/-- Whether a column holds labels. -/
def isLabelColumn (column : Column) : Bool :=
  column.kind = .text && column.name != timeColumn && column.name != valueColumn

/-- The labels of a row with their names, in the order of the columns. -/
def labelPairs (table : Table) (row : List Cell) : List (String × String) :=
  (table.columns.zip row).filterMap fun (column, cell) =>
    match cell with
    | .text s => if isLabelColumn column && s != "" then some (column.name, s) else none
    | _ => none

/-- What the places of a row's time and value hold. -/
def sample (table : Table) (row : List Cell) : Sample where
  time := (table.cell timeColumn row).storedInteger
  value := (table.cell valueColumn row).storedDouble

end Table

end LabeledSeries
