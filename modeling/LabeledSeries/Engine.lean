import LabeledSeries.Query.Parser
import LabeledSeries.Store.Selection
import LabeledSeries.Call.Table
import LabeledSeries.Rule.Evaluation
import LabeledSeries.Text.Blank

/-!
# The query engine

An engine answers expressions over the tables of a store at a time, calls functions on the answers,
and evaluates recording rules.

## §1 Selectors

The latest samples of series are searched in a window that reaches back by the engine's lookback.  A
range is a window that an expression gives itself.  Shifts of a selector are not applied.

## §2 Queries

## §3 Calls and rules
-/

namespace LabeledSeries

/-- Where queries are answered. -/
structure Engine where
  store : Store
  functions : FunctionTable
  /-- How far back the latest samples are searched, in microseconds. -/
  lookback : Int

namespace Engine

/-- The lookback of an engine that is given none. -/
def defaultLookback : Int := 300 * Time.second

/-- A length of time in microseconds, if it is not longer than the latest time. -/
def micros? (span : Time.Span) : Option Int :=
  if (span.microseconds : Int) ≤ Time.latest then some span.microseconds else none

/-- An engine with another lookback; one that is too long reaches back to the earliest time. -/
def withLookback (engine : Engine) (span : Time.Span) : Engine :=
  { engine with lookback := (micros? span).getD Time.latest }

/-- An engine as diagnostics show it. -/
def text (engine : Engine) : String :=
  "QueryEngine \x7b functions: " ++ engine.functions.text ++ ", lookback_delta: " ++
    toString engine.lookback ++ ", .. \x7d"

/-! ## §1 Selectors -/

/-- The condition of a matcher; its pattern must be one also between the marks of a whole match. -/
def condition (matcher : Query.Matcher) : Except Fault Condition :=
  match matcher.rule with
  | .equal => .ok (.equals matcher.label matcher.value)
  | .differs => .ok (.satisfies matcher.label (· != matcher.value))
  | .matching =>
    match Pattern.readWhole? matcher.value with
    | some pattern => .ok (.satisfies matcher.label pattern.occursIn)
    | none => .error (.badPattern matcher.value)
  | .notMatching =>
    match Pattern.readWhole? matcher.value with
    | some pattern => .ok (.satisfies matcher.label (fun value => !pattern.occursIn value))
    | none => .error (.badPattern matcher.value)

/-- The metric of a selector: its name, or what a matcher says that the name equals. -/
def metricName (selector : Query.Selector) : Except Fault String :=
  match selector.name with
  | some name => .ok name
  | none =>
    -- Only equality names a metric: a pattern that one name matches does not.
    match selector.matchers.find? (fun m => m.label = metricLabel ∧ m.rule = .equal) with
    | some matcher => .ok matcher.value
    | none => .error (.unsupported .nameless)

/-- The series that a selector selects in a window. -/
def select (engine : Engine) (selector : Query.Selector) (window : Time.Window) :
    Except Fault (List Series) := do
  let metric ← metricName selector
  let conditions ← selector.matchers.mapM condition
  engine.store.select metric conditions window

/-- The latest sample of a series as a row. -/
def latestRow? (series : Series) : Option Row :=
  series.samples.getLast?.map fun sample => { labels := series.labels, sample }

/-- The latest samples of the selected series. -/
def selectInstant (engine : Engine) (selector : Query.Selector) (time : Int) :
    Except Fault InstantVector := do
  -- The window begins no earlier than time does; a range that would begin so is refused.
  let window : Time.Window := { start := Time.clamp (time - engine.lookback), stop := time }
  return (← engine.select selector window).filterMap latestRow?

/-- The window of a range that ends at a time. -/
def rangeWindow (span : Time.Span) (time : Int) : Except Fault Time.Window :=
  match (micros? span).bind (fun length => Time.check (time - length)) with
  | some start => .ok { start, stop := time }
  | none => .error (.unsupported (.range span))

/-- The samples of the selected series in a range. -/
def selectRange (engine : Engine) (selector : Query.Selector) (span : Time.Span) (time : Int) :
    Except Fault RangeMatrix := do
  let window ← rangeWindow span time
  return (← engine.select selector window).map fun series =>
    { series with range := some (window.start, window.stop) }

/-! ## §2 Queries -/

/-- A vector, or nothing if it has no rows. -/
def ofRows (rows : InstantVector) : Value := if rows.isEmpty then .none else .vector rows

/-- A matrix, or nothing if it has no series. -/
def ofSeries (series : RangeMatrix) : Value := if series.isEmpty then .none else .matrix series

/-- The value of an expression at a time, given the text that wrote it. -/
def evaluate (engine : Engine) (text : String) (time : Int) : Query.Expr → Except Fault Value
  | .instant selector => return ofRows (← engine.selectInstant selector time)
  | .range selector span => return ofSeries (← engine.selectRange selector span time)
  | .number x => .ok (.scalar x)
  | .text s => .ok (.text s)
  | _ => .error (.unsupported (.expression text))

/-- The value of an expression at a time. -/
def query (engine : Engine) (text : String) (time : Int) : Except Fault Value :=
  match Query.Expr.read? text with
  | none => .error (.notAnExpression text)
  | some e => engine.evaluate text time e.bare

/-- The vector of an expression at a time. -/
def queryRows (engine : Engine) (text : String) (time : Int) : Except Fault InstantVector :=
  match engine.query text time with
  | .ok (.vector rows) => .ok rows
  | .ok .none => .ok []
  | .ok other => .error (.unsupported (.notVector text other.kind))
  | .error fault => .error fault

/-! ## §3 Calls and rules -/

/-- A text without the pair of quotes around it, blanks around that aside. -/
def unquoted (text : String) : String :=
  let chars := Text.trimChars text.toList
  let inner (quote : Char) : Option (List Char) :=
    match chars with
    | c :: rest => if c = quote ∧ rest.getLast? = some quote then some rest.dropLast else none
    | [] => none
  String.ofList ((inner '"' <|> inner '\'').getD chars)

/-- The value of an argument written for a kind: an expression for a vector or a matrix, a number
    for a scalar, a text that may be quoted for a text. -/
def argument (engine : Engine) (text : String) (time : Int) : Kind → Except Fault Value
  | .vector | .matrix => engine.query text time
  | .scalar =>
    match Decimal.read? (Text.trim text) with
    | some x => .ok (.scalar x)
    | none => .error (.notANumber text)
  | .text => .ok (.text (unquoted text))

/-- The values of arguments from a position on. -/
def arguments (engine : Engine) (name : String) (signature : Signature) (count : Nat) (time : Int) :
    Nat → List String → Except Fault (List Value)
  | _, [] => .ok []
  | index, text :: texts =>
    match signature.kindAt? index with
    | none => .error (.argumentCount name (.exactly signature.arguments.length) count)
    | some kind => do
      let value ← engine.argument text time kind
      return value :: (← engine.arguments name signature count time (index + 1) texts)

/-- Call a function with arguments as they are written. -/
def call (engine : Engine) (name : String) (texts : List String) (time : Int) :
    Except Fault Value :=
  match engine.functions.signature? name with
  | none => .error (.unknownFunction name)
  | some signature => do
    let values ← engine.arguments name signature texts.length time 0 texts
    engine.functions.checkArguments name values
    engine.functions.call name values time

/-- The rows that a rule records at a time; its filters ask this engine. -/
def evalRule (engine : Engine) (rule : RecordingRule) (registry : FilterRegistry) (time : Int) :
    Except Fault InstantVector := do
  return rule.eval registry engine.queryRows time (← engine.queryRows rule.rule.expr time)

end Engine

end LabeledSeries
