import LabeledSeries.Rule.Decode
import LabeledSeries.Rule.Pod

/-!
# Evaluating recording rules

The rows of a rule's expression pass through its filters in order, each row on its own.  A row that
no filter rejects is recorded: it gets the record's name, then the labels of the rule, an empty one
of which removes the label.
-/

namespace LabeledSeries

/-- The filters that come with the library. -/
def FilterRegistry.builtin : FilterRegistry :=
  NameMap.ofList
    [("app_label_2_ch", Decode.filter), ("app_append_labels", Pod.enrich),
      ("app_define_metric", Pod.derive)]

namespace RecordingRule

/-- The labels under which a rule records. -/
def stamp (rule : RecordingRule) (labels : Labels) : Labels :=
  (labels.assign metricLabel rule.rule.record).assignAll rule.rule.labels.entries

/-- What a rule makes of one row, and what its filters asked. -/
def evalRow (rule : RecordingRule) (registry : FilterRegistry) (query : SubQuery) (time : Int)
    (row : Row) : Option Row × List (String × Int) :=
  let outcome := registry.applyAll query time rule.rule.filters row.labels
  (if outcome.keep then some (row.withLabels (rule.stamp outcome.labels)) else none, outcome.asked)

/-- The rows that a rule records of a vector. -/
def eval (rule : RecordingRule) (registry : FilterRegistry) (query : SubQuery) (time : Int)
    (rows : InstantVector) : InstantVector :=
  rows.filterMap fun row => (rule.evalRow registry query time row).1

/-- What the filters of a rule ask in the course of its evaluation, in order. -/
def asked (rule : RecordingRule) (registry : FilterRegistry) (query : SubQuery) (time : Int)
    (rows : InstantVector) : List (String × Int) :=
  rows.flatMap fun row => (rule.evalRow registry query time row).2

end RecordingRule

end LabeledSeries
