import LabeledSeries.Store.Basic

/-!
# Selecting series

The series of a metric that satisfy conditions on their labels, with their samples in a window of
time.

A condition that a label equals a text which is not empty is checked on the rows already, before
they are grouped into series, if the table has a column for the label.  The column is then looked up
by its name in lower case, so a column with a capital letter is not found.  All conditions are
checked on the labels of the grouped series.

Rows are grouped under digests of the signatures of their labels, batch by batch.  A store takes the
signatures themselves for digests.
-/

namespace LabeledSeries

/-- A condition on a label; a missing label counts as empty. -/
inductive Condition where
  | equals (label value : String)
  | satisfies (label : String) (test : String → Bool)

/-- Whether labels satisfy a condition. -/
def Condition.holds : Condition → Labels → Bool
  | equals label value, labels => labels.value label == value
  | satisfies label test, labels => test (labels.value label)

/-- A text with the capital letters of ASCII in lower case. -/
def lowered (name : String) : String := name.map Char.toLower

/-- A series with its samples in order of time, samples of one time in their old order. -/
def Series.sorted (series : Series) : Series :=
  { series with samples := series.samples.mergeSort (fun a b => decide (a.time ≤ b.time)) }

namespace Table

/-- The name of the column by which a condition is checked on the rows, with its value. -/
def rowCondition? (table : Table) : Condition → Option (String × String)
  | .equals label value =>
    if value != "" && (table.column? label).isSome then some (lowered label, value) else none
  | .satisfies _ _ => none

/-- Whether a row lies in a window and satisfies the conditions that are checked on rows. -/
def admits (table : Table) (window : Time.Window) (conditions : List (String × String))
    (row : List Cell) : Bool :=
  (table.cell timeColumn row).isWithin window &&
    conditions.all fun (name, value) => (table.cell name row).content? == some value

/-- Fault a column that is missing. -/
def requireColumn (table : Table) (name : String) : Except Fault Unit :=
  if (table.column? name).isSome then .ok () else .error (.store (.noColumn name))

/-- Fault a column that is missing, of another kind, or with a cell of another kind. -/
def requireKind (table : Table) (name : String) (kind : ColumnKind) : Except Fault Unit :=
  if (table.column? name).any (·.kind = kind) &&
      table.rows.all (fun row => (table.cell name row).fits kind) then .ok ()
  else .error (.store (.mistypedColumn name))

end Table

section Index

variable {δ : Type} [DecidableEq δ]

/-- Put a sample to the series under a digest, or behind all series if there is none yet. -/
def addUnder (key : δ) (labels : Labels) (sample : Sample) : List (δ × Series) → List (δ × Series)
  | [] => [(key, { labels, samples := [sample], range := none })]
  | (other, series) :: rest =>
    if other = key then (other, { series with samples := series.samples ++ [sample] }) :: rest
    else (other, series) :: addUnder key labels sample rest

/-- Add a row of a batch to an index of series. -/
def Table.addRow (digest : List UInt8 → δ) (batch : Table) (index : List (δ × Series))
    (row : List Cell) : Except Fault (List (δ × Series)) :=
  match Labels.ofPairs? (batch.labelPairs row) with
  | none => .error .repeatedLabel
  | some labels => .ok (addUnder (digest labels.signature) labels (batch.sample row) index)

/-- Add the rows of a batch to an index of series. -/
def Table.addBatch (digest : List UInt8 → δ) (index : List (δ × Series)) (batch : Table) :
    Except Fault (List (δ × Series)) := do
  batch.requireKind timeColumn .integer
  batch.requireKind valueColumn .double
  batch.rows.foldlM (batch.addRow digest) index

/-- The series of some batches under the digests of their labels. -/
def collectSeries (digest : List UInt8 → δ) (batches : List Table) :
    Except Fault (List (δ × Series)) :=
  batches.foldlM (Table.addBatch digest) []

end Index

namespace Table

/-- The rows of a table that are admitted, as a batch; without rows there is none. -/
def batches (table : Table) (window : Time.Window) (conditions : List (String × String)) :
    List Table :=
  let rows := table.rows.filter (table.admits window conditions)
  if rows.isEmpty then [] else [{ table with rows }]

/-- The series of a table that satisfy the conditions, with their samples in a window. -/
def select (table : Table) (conditions : List Condition) (window : Time.Window) :
    Except Fault (List Series) := do
  if let some name := table.repeatedColumn? then throw (.store (.repeatedColumn name))
  table.requireColumn timeColumn
  let rowConditions := conditions.filterMap table.rowCondition?
  rowConditions.forM fun (name, _) => table.requireColumn name
  let index ← collectSeries id (table.batches window rowConditions)
  return ((index.map Prod.snd).filter fun series =>
    conditions.all (·.holds series.labels)).map Series.sorted

end Table

/-- The series of a metric that satisfy the conditions, with their samples in a window; a metric
    without a table has none. -/
def Store.select (store : Store) (metric : String) (conditions : List Condition)
    (window : Time.Window) : Except Fault (List Series) :=
  match store.table? metric with
  | none => .ok []
  | some table => table.select conditions window

end LabeledSeries
