import LabeledSeries.Instant.Parameters

/-!
# Projections

Functions that choose labels of rows, or rows by their labels.  A projection builds each row's
labels afresh from what it lists and drops the rows that nothing is left of.  A selection of names
does so without renaming (`NameSelection.select`), and its complement keeps the rows that have none
of the listed labels (`NameSelection.without`).
-/

namespace LabeledSeries

/-! ## §1 Labels under new names -/

/-- Labels to take over, each with the name it gets. -/
structure Projection where
  copies : List (String × String)
  deriving Repr, DecidableEq

namespace Projection

/-- The projection onto a list of `old:new` texts. -/
def ofSpecs (function : String) (specs : List String) : Except Fault Projection := do
  let copies ← Parameters.copySpecs function specs
  return { copies }

/-- What a row gives for one source: its label, unless that is missing or empty; failing that, the
    row's value where the source means it. -/
def source? (row : Row) (name : String) : Option String :=
  match row.labels.present? name with
  | some value => some value
  | none => if name = ownValue then some row.valueText else none

/-- The labels of a row under their new names, a later one over an earlier one. -/
def labels (plan : Projection) (row : Row) : Labels :=
  plan.copies.foldl (fun labels copy =>
    match source? row copy.1 with
    | some value => NameMap.insert labels copy.2 value
    | none => labels) NameMap.empty

/-- Project every row and drop those without labels. -/
def run (plan : Projection) (rows : InstantVector) : InstantVector :=
  rows.filterMap fun row =>
    let labels := plan.labels row
    if labels.isEmpty then none else some (row.withLabels labels)

end Projection

/-! ## §2 Labels under their names -/

/-- A list of label names, to select or to exclude. -/
structure NameSelection where
  names : List String
  deriving Repr, DecidableEq

namespace NameSelection

/-- The selection of a list of names. -/
def ofNames (function : String) (names : List String) : Except Fault NameSelection := do
  Parameters.checkNames function names
  return { names }

/-- The listed labels that a row has, with their values. -/
def chosen (plan : NameSelection) (labels : Labels) : List (String × String) :=
  plan.names.filterMap fun name => (labels.present? name).map fun value => (name, value)

/-- Keep the listed labels of every row and drop the rows that have none of them. -/
def select (plan : NameSelection) (rows : InstantVector) : InstantVector :=
  rows.filterMap fun row =>
    let chosen := plan.chosen row.labels
    if chosen.isEmpty then none else some (row.withLabels (NameMap.ofList chosen))

/-- Keep the rows that have none of the listed labels. -/
def without (plan : NameSelection) (rows : InstantVector) : InstantVector :=
  rows.filter fun row => plan.names.all fun name => row.labels.value name = ""

end NameSelection

end LabeledSeries
