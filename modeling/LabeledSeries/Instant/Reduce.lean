import LabeledSeries.Value

/-!
# Reducing series to single samples

Each series of a matrix gives one row: its largest or its smallest sample, or the sum of its values
at the time of its latest sample.  Series without samples give none.
-/

namespace LabeledSeries

/-- Which end of a series is looked for. -/
inductive Extreme where
  | largest
  | smallest
  deriving Repr, DecidableEq

namespace Extreme

/-- Whether a value lies further toward the end looked for than another one. -/
def beats : Extreme → Float → Float → Bool
  | .largest, x, y => decide (y < x)
  | .smallest, x, y => decide (x < y)

/-- The better of the best sample so far and the next one.  Equal values go to the earlier time; a
    number is better than what is no number, and nothing else is better than or equal to that. -/
def better (extreme : Extreme) (best next : Sample) : Sample :=
  if next.value.isNaN then best
  else if best.value.isNaN then next
  else if extreme.beats next.value best.value then next
  else if extreme.beats best.value next.value then best
  else if next.time < best.time then next
  else best

/-- The sample at one end of a series. -/
def pick (extreme : Extreme) : List Sample → Option Sample
  | [] => none
  | sample :: samples => some (samples.foldl extreme.better sample)

end Extreme

/-- The sum of the values at the time of the latest sample. -/
def total : List Sample → Option Sample
  | [] => none
  | sample :: samples =>
    let time := samples.foldl (fun latest sample => max latest sample.time) sample.time
    let value := (sample :: samples).foldl (fun sum sample => sum + sample.value) (-0.0)
    some { time, value }

/-- Reduce every series to a row with its labels. -/
def reduce (choose : List Sample → Option Sample) (matrix : RangeMatrix) : InstantVector :=
  matrix.filterMap fun series =>
    (choose series.samples).map fun sample => { labels := series.labels, sample }

end LabeledSeries
