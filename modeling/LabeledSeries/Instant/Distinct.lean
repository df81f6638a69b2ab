import LabeledSeries.Instant.Parameters

/-!
# One row per value of a label

The rows are sorted by the label, and of the rows with an equal value the newest is kept; of several
newest ones, the first.
-/

namespace LabeledSeries

/-- Keep the newest row for each value of a label. -/
structure Distinct where
  key : String
  deriving Repr, DecidableEq

namespace Distinct

/-- The reduction to one row per value of a name. -/
def ofName (function key : String) : Except Fault Distinct := do
  Parameters.checkName function key
  return { key }

/-- Go through sorted rows with the newest row so far of the value at hand. -/
def compress (plan : Distinct) (newest : Row) : InstantVector → InstantVector
  | [] => [newest]
  | row :: rows =>
    if newest.labels.value plan.key = row.labels.value plan.key then
      compress plan (if newest.sample.time < row.sample.time then row else newest) rows
    else newest :: compress plan row rows

/-- The newest row for each value of the label, in the order of these values. -/
def run (plan : Distinct) (rows : InstantVector) : InstantVector :=
  match sortByLabel plan.key rows with
  | [] => []
  | row :: rows => plan.compress row rows

end Distinct

end LabeledSeries
