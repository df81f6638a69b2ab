import LabeledSeries.Call.Signature
import LabeledSeries.Instant.Join
import LabeledSeries.Instant.Correlate
import LabeledSeries.Instant.Project
import LabeledSeries.Instant.Relabel
import LabeledSeries.Instant.Distinct
import LabeledSeries.Instant.Reduce

/-!
# The functions on labels

The functions that come with the library, under the names by which expressions call them.  Each
takes its arguments in declared order, reads its parameters, and only then turns to its rows.
-/

namespace LabeledSeries

/-- The functions that come with the library. -/
inductive Builtin where
  | labelsAppendTernary
  | labelsAppendTags
  | labelsRename
  | labelsSelect
  | select1
  | select2
  | labelsAppend
  | select2Join
  | distinct
  | aggregateMatrixMax
  | aggregateMatrixMin
  | aggregateMatrixSum
  | labelsAppendValue
  | labelsAppendValues
  | selectn
  | labelsInvert
  | vectorWithLabels
  | vectorJoin
  deriving Repr, DecidableEq

namespace Builtin

/-- All functions that come with the library. -/
def all : List Builtin :=
  [.labelsAppendTernary, .labelsAppendTags, .labelsRename, .labelsSelect, .select1, .select2,
    .labelsAppend, .select2Join, .distinct, .aggregateMatrixMax, .aggregateMatrixMin,
    .aggregateMatrixSum, .labelsAppendValue, .labelsAppendValues, .selectn, .labelsInvert,
    .vectorWithLabels, .vectorJoin]

/-- The name by which a function is called. -/
def name : Builtin → String
  | .labelsAppendTernary => "labels_append_ternary"
  | .labelsAppendTags => "labels_append_tags"
  | .labelsRename => "labels_rename"
  | .labelsSelect => "labels_select"
  | .select1 => "select1"
  | .select2 => "select2"
  | .labelsAppend => "labels_append"
  | .select2Join => "select2_join"
  | .distinct => "distinct"
  | .aggregateMatrixMax => "aggregate_matrix_max"
  | .aggregateMatrixMin => "aggregate_matrix_min"
  | .aggregateMatrixSum => "aggregate_matrix_sum"
  | .labelsAppendValue => "labels_append_value"
  | .labelsAppendValues => "labels_append_values"
  | .selectn => "selectn"
  | .labelsInvert => "labels_invert"
  | .vectorWithLabels => "vector_with_labels"
  | .vectorJoin => "vector_join"

/-- The function of a name. -/
def ofName? (name : String) : Option Builtin := all.find? (fun function => function.name = name)

/-- The kinds of arguments that a function declares, and whether the last may be repeated. -/
def declared : Builtin → List Kind × Bool
  | .labelsAppendTernary | .labelsAppendTags | .labelsRename | .labelsInvert | .vectorWithLabels =>
    ([.vector, .text, .text], true)
  | .labelsSelect | .select1 => ([.vector, .text], true)
  | .select2 | .select2Join => ([.text, .vector, .vector, .text], true)
  | .labelsAppend => ([.vector, .vector, .text, .text, .text], true)
  | .distinct => ([.vector, .text], false)
  | .aggregateMatrixMax | .aggregateMatrixMin | .aggregateMatrixSum => ([.matrix], false)
  | .labelsAppendValue => ([.vector, .vector, .text, .text], false)
  | .labelsAppendValues | .selectn => ([.text, .text, .vector, .vector], true)
  | .vectorJoin => ([.vector, .vector], true)

/-- The signature of a function. -/
def signature (function : Builtin) : Signature where
  arguments := function.declared.1
  variadic := function.declared.2
  returns := .vector

/-- The vector and the texts of a function that takes one vector and parameters. -/
def vectorAndTexts (function : Builtin) : Taking (InstantVector × List String) := do
  let rows ← Taking.vector function.name
  let texts ← Taking.rest (Taking.text function.name)
  return (rows, texts)

/-- The rows that a function makes at a time. -/
def rows (function : Builtin) (time : Int) (values : List Value) : Except Fault InstantVector :=
  let called := function.name
  match function with
  | .labelsAppendTernary => do
    let (rows, texts) ← Taking.of values function.vectorAndTexts
    return (← Conditional.ofPairs called texts).run rows
  | .labelsAppendTags => do
    let (rows, texts) ← Taking.of values function.vectorAndTexts
    return (← Tagging.ofPairs called texts).run rows
  | .labelsRename => do
    let (rows, texts) ← Taking.of values function.vectorAndTexts
    return (← Renaming.ofNames called texts).run rows
  | .labelsSelect => do
    let (rows, texts) ← Taking.of values function.vectorAndTexts
    return (← NameSelection.ofNames called texts).select rows
  | .labelsInvert => do
    let (rows, texts) ← Taking.of values function.vectorAndTexts
    return (← NameSelection.ofNames called texts).without rows
  | .select1 => do
    let (rows, texts) ← Taking.of values function.vectorAndTexts
    return (← Projection.ofSpecs called texts).run rows
  | .vectorWithLabels => do
    let (rows, texts) ← Taking.of values function.vectorAndTexts
    return (← Labelling.ofPairs called texts).run time rows
  | .select2 | .select2Join => do
    let unmatched := if function = .select2 then Unmatched.drop else Unmatched.keep
    let (matchKey, left, right, specs) ← Taking.of values do
      return (← Taking.text called, ← Taking.vector called, ← Taking.vector called,
        ← Taking.rest (Taking.text called))
    return (← Join.ofSpecs called unmatched matchKey specs).run left right
  | .labelsAppend => do
    let (left, right, matchKey, texts) ← Taking.of values do
      return (← Taking.vector called, ← Taking.vector called, ← Taking.text called,
        ← Taking.rest (Taking.text called))
    return (← Join.ofPairs called matchKey texts).run left right
  | .distinct => do
    let (rows, key) ← Taking.of values do
      return (← Taking.vector called, ← Taking.text called)
    return (← Distinct.ofName called key).run rows
  | .aggregateMatrixMax => do
    return reduce Extreme.largest.pick (← Taking.of values (Taking.matrix called))
  | .aggregateMatrixMin => do
    return reduce Extreme.smallest.pick (← Taking.of values (Taking.matrix called))
  | .aggregateMatrixSum => do
    return reduce total (← Taking.of values (Taking.matrix called))
  | .labelsAppendValue => do
    let (left, right, key, target) ← Taking.of values do
      return (← Taking.vector called, ← Taking.vector called, ← Taking.text called,
        ← Taking.text called)
    return (← PartnerValue.ofNames called key target).run left right
  | .labelsAppendValues => do
    let (keys, targets, vectors) ← Taking.of values do
      return (← Taking.text called, ← Taking.text called, ← Taking.rest (Taking.vector called))
    return (← SharedKeys.ofTexts called keys targets vectors.length).run vectors
  | .selectn => do
    let (keys, targets, vectors) ← Taking.of values do
      return (← Taking.text called, ← Taking.text called, ← Taking.rest (Taking.vector called))
    return (← KeyPerVector.ofTexts called keys targets vectors.length).run vectors
  | .vectorJoin => do
    let vectors ← Taking.of values (Taking.rest (Taking.vector called))
    return vectors.flatten

/-- Call a function at a time. -/
def call (function : Builtin) (time : Int) (values : List Value) : Except Fault Value := do
  return .vector (← function.rows time values)

end Builtin

end LabeledSeries
