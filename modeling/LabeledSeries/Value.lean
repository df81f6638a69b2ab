import LabeledSeries.Labels
import LabeledSeries.Decimal.Layout

/-!
# Samples, rows, series and values

A *sample* is a double at a time.  An instant vector is a list of *rows*, each a sample of the
series that its labels identify; a range matrix is a list of *series*, each with its samples in some
range.  Expressions and functions deal in *values*: vectors, matrices, scalars, texts, or nothing.

The value of a sample can stand in a label.  `valueText` is that text, and the two value names mark
where a call means it: the row's own value, and that of the row it was joined to.
-/

namespace LabeledSeries

/-- A double at a time. -/
structure Sample where
  time : Int
  value : Float

/-- One sample of the series with these labels. -/
structure Row where
  labels : Labels
  sample : Sample

/-- The samples of the series with these labels, and the range they were asked for. -/
structure Series where
  labels : Labels
  samples : List Sample
  range : Option (Int × Int)

/-- The rows of several series at one time. -/
abbrev InstantVector := List Row

/-- The samples of several series over a range. -/
abbrev RangeMatrix := List Series

/-- What expressions evaluate to and functions take. -/
inductive Value where
  | vector (rows : InstantVector)
  | matrix (series : RangeMatrix)
  | scalar (x : Float)
  | text (s : String)
  | none

/-- The kinds that functions declare for their arguments. -/
inductive Kind where
  | vector
  | matrix
  | scalar
  | text
  deriving Repr, DecidableEq

/-- The name of a kind. -/
def Kind.name : Kind → String
  | .vector => "vector"
  | .matrix => "matrix"
  | .scalar => "scalar"
  | .text => "string"

/-- All kinds. -/
def Kind.all : List Kind := [.vector, .matrix, .scalar, .text]

/-- The kind of a name. -/
def Kind.ofName? (name : String) : Option Kind := Kind.all.find? (fun kind => kind.name = name)

/-- The kind that diagnostics give a value; nothing counts as a scalar there. -/
def Value.kind : Value → Kind
  | .vector _ => .vector
  | .matrix _ => .matrix
  | .scalar _ => .scalar
  | .text _ => .text
  | .none => .scalar

/-- Whether a value may be passed where a kind is declared.  Nothing stands for an empty vector or
    matrix. -/
def Value.isA : Value → Kind → Bool
  | .vector _, .vector => true
  | .matrix _, .matrix => true
  | .scalar _, .scalar => true
  | .text _, .text => true
  | .none, .vector => true
  | .none, .matrix => true
  | _, _ => false

/-- The text of a double in a label. -/
def valueText (x : Float) : String := Decimal.valueLayout.write (Decimal.Binary.ofFloat x)

/-- The name that means the value of the row at hand. -/
def ownValue : String := "__v__0"

/-- The name that means the value of the row joined to the one at hand. -/
def partnerValue : String := "__v__1"

/-- A row with other labels. -/
def Row.withLabels (row : Row) (labels : Labels) : Row := { row with labels := labels }

/-- A row with a label set to a value. -/
def Row.setLabel (row : Row) (name value : String) : Row :=
  row.withLabels (row.labels.insert name value)

/-- The text of a row's own value. -/
def Row.valueText (row : Row) : String := LabeledSeries.valueText row.sample.value

/-- The rows in ascending order of a label, rows of equal value in their old order; a missing label
    counts as empty. -/
def sortByLabel (key : String) (rows : InstantVector) : InstantVector :=
  rows.mergeSort (fun a b => decide (a.labels.value key ≤ b.labels.value key))

/-- The first row with a given value of a label. -/
def firstWith (key value : String) (rows : InstantVector) : Option Row :=
  rows.find? (fun row => row.labels.value key = value)

end LabeledSeries
