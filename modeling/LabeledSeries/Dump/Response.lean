import LabeledSeries.Json.Double
import LabeledSeries.Labels

/-!
# Dumped responses

A dump is the response of a metrics server to a range query, stored as a document: a status, and
series with their labels and samples.  A sample is a pair of its time in seconds and the text of its
value.
-/

namespace LabeledSeries

/-- A sample as it is dumped. -/
structure DumpedSample where
  seconds : Float
  value : String

/-- A series as it is dumped. -/
structure DumpedSeries where
  labels : Labels
  samples : List DumpedSample

/-- A dumped response. -/
structure Response where
  status : String
  series : List DumpedSeries

/-- The status of a response that holds what was asked for. -/
def Response.success : String := "success"

/-- The sample of a document. -/
def DumpedSample.ofDocument? (document : Document) : Option DumpedSample := do
  match ← document.record? ["timestamp", "value"] with
  | [seconds, value] =>
    return {
      seconds := ← Document.required? Document.double? seconds
      value := ← Document.required? Document.text? value }
  | _ => none

/-- The series of a document. -/
def DumpedSeries.ofDocument? (document : Document) : Option DumpedSeries := do
  match ← document.record? ["metric", "values"] with
  | [labels, samples] =>
    return {
      labels := ← Document.required? Document.texts? labels
      samples := ← Document.required? (Document.list? DumpedSample.ofDocument?) samples }
  | _ => none

/-- The series of the data of a response, which also name their kind. -/
def Response.seriesOfDocument? (document : Document) : Option (List DumpedSeries) := do
  match ← document.record? ["resultType", "result"] with
  | [kind, series] =>
    let _ ← Document.required? Document.text? kind
    Document.required? (Document.list? DumpedSeries.ofDocument?) series
  | _ => none

/-- The response of a document. -/
def Response.ofDocument? (document : Document) : Option Response := do
  match ← document.record? ["status", "data"] with
  | [status, data] =>
    return {
      status := ← Document.required? Document.text? status
      series := ← Document.required? Response.seriesOfDocument? data }
  | _ => none

end LabeledSeries
