import LabeledSeries.Json.Document
import LabeledSeries.Value
import LabeledSeries.Time

/-!
# Values as documents

Rows and series are objects with their labels under `metric`; a sample is a pair of its time in
whole seconds and the text of its value.  The range of a series is not written.
-/

namespace LabeledSeries

/-- A sample: the second it falls in, toward zero, and the text of its value. -/
def Sample.document (sample : Sample) : Document :=
  .array [.int (sample.time.tdiv Time.second), .text (valueText sample.value)]

/-- A row. -/
def Row.document (row : Row) : Document :=
  .object [("metric", .ofTexts row.labels), ("value", row.sample.document)]

/-- A series. -/
def Series.document (series : Series) : Document :=
  .object [("metric", .ofTexts series.labels),
    ("values", .array (series.samples.map Sample.document))]

/-- A value. -/
def Value.document : Value → Document
  | .vector rows => .array (rows.map Row.document)
  | .matrix series => .array (series.map Series.document)
  | .scalar x => .number (Decimal.scalarLayout.write (Decimal.Binary.ofFloat x))
  | .text s => .text s
  | .none => .null

end LabeledSeries
