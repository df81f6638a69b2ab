import LabeledSeries.Dump.Response
import LabeledSeries.Files
import LabeledSeries.Json.Rules
import LabeledSeries.Store.Basic
import LabeledSeries.Text.Blank

/-!
# Loading dumps, times and rules

A folder holds dumps, each in a file with the extension `json`, and the time at which they were
taken.  Loading it makes one table for each metric of all dumps.  Rules are loaded from a file of
their own.

## §1 Faults

## §2 Dumps

The table of a metric has a column for each label that one of its series has, in the order in which
the labels are met; a series leaves the cells of other labels empty.

## §3 Times

## §4 Rules
-/

namespace LabeledSeries

/-! ## §1 Faults -/

/-- What can go wrong when files are loaded. -/
inductive LoadFault where
  | unreadable (path : String)
  /-- A file that holds no document of the expected form. -/
  | malformed (path : String)
  /-- A dumped response that is not a success. -/
  | unsuccessful (path status : String)
  | badValue (value : String)
  /-- A file that holds no time. -/
  | badTime (path : String)
  | timeOutOfRange (seconds : Int)
  /-- A subtraction that leaves the integers of 64 bits.  It ends the program. -/
  | overflow
  /-- A rule that is not valid. -/
  | badRule (path record : String) (fault : Fault)
  /-- A table that cannot be made. -/
  | table (fault : Fault)
  deriving Repr, DecidableEq

/-- The wording of a fault in loading. -/
def LoadFault.message : LoadFault → String
  | .unreadable path => path
  | .malformed path => "Failed to parse JSON file " ++ path
  | .unsuccessful path status => path ++ ": response status is " ++ Text.quoted status
  | .badValue value => "invalid sample value " ++ Text.quoted value
  | .badTime path => "failed to read Unix time (epoch) from " ++ path
  | .timeOutOfRange seconds => s!"time {seconds} is out of range"
  | .overflow => "attempt to subtract with overflow"
  | .badRule _ _ fault => fault.message
  | .table fault => fault.message

/-- Where a fault was found, for those that do not say it themselves. -/
def LoadFault.context? : LoadFault → Option String
  | .badRule path record _ => some (path ++ ": rule " ++ Text.quoted record)
  | _ => none

/-! ## §2 Dumps -/

/-- The text of a file. -/
def Files.load (files : Files) (path : String) : Except LoadFault String :=
  match files.read? path with
  | some text => .ok text
  | none => .error (.unreadable path)

/-- What a file holds, given how it is decoded. -/
def Files.loadDocument {α : Type} (files : Files) (path : String) (decode? : Document → Option α) :
    Except LoadFault α := do
  match (Document.read? (← files.load path)).bind decode? with
  | some a => return a
  | none => throw (.malformed path)

/-- The series of a dump. -/
def loadSeries (files : Files) (path : String) : Except LoadFault (List DumpedSeries) := do
  let response ← files.loadDocument path Response.ofDocument?
  if response.status = Response.success then return response.series
  else throw (.unsuccessful path response.status)

/-- The paths of the dumps in a folder. -/
def dumpPaths (files : Files) (folder : String) : Except LoadFault (List String) :=
  match files.names? folder with
  | none => .error (.unreadable folder)
  | some names =>
    .ok ((names.filter fun name => Files.extension? name = some "json").map (Files.join folder))

/-- Series by their metrics; one without a metric is left out. -/
def byMetric (series : List DumpedSeries) : NameMap (List DumpedSeries) :=
  series.foldl (fun metrics dumped =>
    match dumped.labels.get? metricLabel with
    | none => metrics
    | some metric => metrics.insert metric ((metrics.get? metric).getD [] ++ [dumped]))
    NameMap.empty

/-- The time of a sample: its microseconds without their fraction, moved into the range of times. -/
def DumpedSample.time (sample : DumpedSample) : Int :=
  match Decimal.Binary.ofFloat (sample.seconds * 1000000) with
  -- A time that is not a number is truncated to zero.
  | .infinite negative => if negative then Time.earliest else Time.latest
  | x => Time.clamp (x.truncate.getD 0)

/-- The sample that a dumped one stands for. -/
def DumpedSample.sample (sample : DumpedSample) : Except LoadFault Sample :=
  match Decimal.read? sample.value with
  | some value => .ok { time := sample.time, value }
  | none => .error (.badValue sample.value)

/-- The names of the labels of some series in the order in which they are met. -/
def labelNames (series : List DumpedSeries) : List String :=
  (series.flatMap fun series => series.labels.names).eraseDups

/-- The cell of a label. -/
def labelCell (labels : Labels) (name : String) : Cell :=
  match labels.get? name with
  | some value => .text value
  | none => .null

/-- The rows of a series in a table with columns for these labels. -/
def DumpedSeries.rows (names : List String) (series : DumpedSeries) :
    Except LoadFault (List (List Cell)) :=
  series.samples.mapM fun dumped => do
    let sample ← dumped.sample
    return names.map (labelCell series.labels) ++ sample.cells

/-- The table of the series of one metric.  No label may have the name of a column of samples. -/
def tableOf (series : List DumpedSeries) : Except LoadFault Table := do
  let names := labelNames series
  let rows ← series.mapM (DumpedSeries.rows names)
  match names.find? (fun name => name = timeColumn ∨ name = valueColumn) with
  | some name => throw (.table (.store (.repeatedColumn name)))
  | none =>
    return { columns := names.map (⟨·, .text⟩) ++ sampleColumns, rows := rows.flatten }

/-- Register the table of a metric. -/
def registerMetric (store : Store) (metric : String) (series : List DumpedSeries) :
    Except LoadFault Store := do
  match store.register metric (← tableOf series) with
  | .ok store => return store
  | .error fault => throw (.table fault)

/-- The tables of all metrics in the dumps of a folder. -/
def loadStore (files : Files) (folder : String) : Except LoadFault Store := do
  let series ← (← dumpPaths files folder).mapM (loadSeries files)
  (byMetric series.flatten).entries.foldlM
    (fun store (metric, series) => registerMetric store metric series) Store.empty

/-! ## §3 Times -/

/-- An integer of 64 bits, with an optional sign. -/
def readInteger? (text : String) : Option Int := do
  let (negative, digits) := match text.toList with
    | '-' :: digits => (true, digits)
    | '+' :: digits => (false, digits)
    | digits => (false, digits)
  if digits.isEmpty || !digits.all Char.isDigit then none
  else
    let magnitude : Int := Decimal.digitsValue digits
    Time.check (if negative then -magnitude else magnitude)

/-- The file with the time at which the dumps of a folder were taken. -/
def timeFile : String := "timestamp.log"

/-- How long before that time the dumps begin, in seconds. -/
def dumpLength : Int := 1800

/-- The seconds at which dumps begin and end, given the end. -/
def timesUpTo (stop : Int) : Except LoadFault (Int × Int) :=
  match Time.check (stop - dumpLength) with
  | some start => .ok (start, stop)
  | none => .error .overflow

/-- The seconds at which the dumps of a folder begin and end.  Without the file the end is the time
    given as the present. -/
def loadTimes (files : Files) (present : Int) (folder : String) : Except LoadFault (Int × Int) :=
  let path := Files.join folder timeFile
  match files.read? path with
  | none => timesUpTo present
  | some text =>
    match readInteger? (Text.trim text) with
    | some stop => timesUpTo stop
    | none => .error (.badTime path)

/-- Seconds as a time. -/
def timeOfSeconds (seconds : Int) : Except LoadFault Int :=
  match Time.check (seconds * Time.second) with
  | some time => .ok time
  | none => .error (.timeOutOfRange seconds)

/-! ## §4 Rules -/

/-- Fault a rule that is not valid. -/
def checkRule (path : String) (rule : RecordRule) : Except LoadFault RecordingRule :=
  match rule.check with
  | .ok checked => .ok checked
  | .error fault => .error (.badRule path rule.record fault)

/-- The rules of a file, all of them valid. -/
def loadRules (files : Files) (path : String) : Except LoadFault (List RecordingRule) := do
  (← files.loadDocument path (Document.list? RecordRule.ofDocument?)).mapM (checkRule path)

end LabeledSeries
