import LabeledSeries.Instant.Parameters
import LabeledSeries.Ternary
import LabeledSeries.Decimal.Reading

/-!
# Relabelling rows

Functions that change labels of every row in place.

## §1 Renaming

All renames of a row happen at once: the old labels are taken out first, then they come back under
their new names, so that a chain of renames moves each label one step.

## §2 Tags

## §3 Conditional labels

## §4 A single row with given labels
-/

namespace LabeledSeries

/-! ## §1 Renaming -/

/-- Pairs of an old and a new label name. -/
structure Renaming where
  renames : List (String × String)
  deriving Repr, DecidableEq

namespace Renaming

/-- The renaming of a list of alternating old and new names. -/
def ofNames (function : String) (names : List String) : Except Fault Renaming := do
  Parameters.checkNames function names
  let renames ← Parameters.pairs function names
  return { renames }

/-- Take the old labels out of a label set: what is left, and the values that were there under their
    new names. -/
def takeOut : List (String × String) → Labels → Labels × List (String × String)
  | [], labels => (labels, [])
  | (old, new) :: renames, labels =>
    -- A label that two pairs rename is gone when the second pair looks for it.
    match labels.get? old with
    | none => takeOut renames labels
    | some value =>
      let (rest, moved) := takeOut renames (labels.erase old)
      (rest, (new, value) :: moved)

/-- Rename the labels of a label set. -/
def apply (plan : Renaming) (labels : Labels) : Labels :=
  let (rest, moved) := takeOut plan.renames labels
  rest.insertAll moved

/-- Rename the labels of every row. -/
def run (plan : Renaming) (rows : InstantVector) : InstantVector :=
  rows.map fun row => row.withLabels (plan.apply row.labels)

end Renaming

/-! ## §2 Tags -/

/-- Fault the first key of a list of pairs that is not a label name. -/
def Parameters.checkKeys (function : String) : List (String × String) → Except Fault Unit
  | [] => .ok ()
  | (key, _) :: pairs => do
    Parameters.checkName function key
    Parameters.checkKeys function pairs

/-- Labels for the rows that lack them. -/
structure Tagging where
  tags : List (String × String)
  deriving Repr, DecidableEq

namespace Tagging

/-- The tagging of a list of alternating keys and values. -/
def ofPairs (function : String) (arguments : List String) : Except Fault Tagging := do
  let tags ← Parameters.pairs function arguments
  Parameters.checkKeys function tags
  return { tags }

/-- Set a label that is missing or empty; an empty value sets nothing. -/
def tag (labels : Labels) (entry : String × String) : Labels :=
  if labels.value entry.1 = "" ∧ entry.2 ≠ "" then labels.insert entry.1 entry.2 else labels

/-- Tag every row, the pairs in order. -/
def run (plan : Tagging) (rows : InstantVector) : InstantVector :=
  rows.map fun row => row.withLabels (plan.tags.foldl tag row.labels)

end Tagging

/-! ## §3 Conditional labels -/

/-- Labels to set, each to the outcome of an expression. -/
structure Conditional where
  assignments : List (String × Ternary)
  deriving Repr, DecidableEq

namespace Conditional

/-- The assignments of a list of pairs of a key and an expression. -/
def readAll (function : String) :
    List (String × String) → Except Fault (List (String × Ternary))
  | [] => .ok []
  | (key, text) :: pairs => do
    Parameters.checkName function key
    let ternary ← Ternary.read text
    let assignments ← readAll function pairs
    return (key, ternary) :: assignments

/-- The assignments of a list of alternating keys and expressions. -/
def ofPairs (function : String) (arguments : List String) : Except Fault Conditional := do
  let pairs ← Parameters.pairs function arguments
  let assignments ← readAll function pairs
  return { assignments }

/-- Set a label of a row to an outcome: the empty outcome removes it.  Under the value name the
    row's value is set instead, where the outcome reads as a number. -/
def assign (row : Row) (assignment : String × Ternary) : Row :=
  let outcome := assignment.2.eval row
  if assignment.1 = ownValue then
    match Decimal.read? outcome with
    | some x => { row with sample := { row.sample with value := x } }
    | none => row
  else row.withLabels (row.labels.assign assignment.1 outcome)

/-- Make the assignments on every row, in order, so that later ones see what earlier ones set. -/
def run (plan : Conditional) (rows : InstantVector) : InstantVector :=
  rows.map fun row => plan.assignments.foldl assign row

end Conditional

/-! ## §4 A single row with given labels -/

/-- A label set to give to a value. -/
structure Labelling where
  labels : Labels
  deriving Repr, DecidableEq

namespace Labelling

/-- The label set of a list of alternating names and values. -/
def ofPairs (function : String) (arguments : List String) : Except Fault Labelling := do
  let pairs ← Parameters.pairs function arguments
  Parameters.checkKeys function pairs
  return { labels := NameMap.ofList pairs }

/-- The value of the first row, at a given time and with the given labels; nothing for no rows. -/
def run (plan : Labelling) (time : Int) (rows : InstantVector) : InstantVector :=
  match rows with
  | [] => []
  | row :: _ => [{ labels := plan.labels, sample := { time, value := row.sample.value } }]

end Labelling

end LabeledSeries
