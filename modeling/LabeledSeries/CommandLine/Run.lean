import LabeledSeries.CommandLine.Help
import LabeledSeries.Engine
import LabeledSeries.Json.Values

/-!
# Running commands

What the program prints and how it ends, given the present time, the files that it sees and the
words on its command line.  The time of evaluation and the dumps are needed by every command, so a
fault in them comes first.  Most faults are reported; two are not expected and end the program where
they occur.
-/

namespace LabeledSeries.CommandLine

/-- How the program ends. -/
inductive Ending where
  /-- It did what it was asked for. -/
  | done (output : String)
  | failed (message : String)
  /-- It was ended by a fault that it does not handle. -/
  | aborted (message : String)
  /-- It did not understand its words. -/
  | misuse
  deriving Repr, DecidableEq

/-- The exit code of an ending. -/
def Ending.code : Ending → Nat
  | done _ => 0
  | failed _ => 1
  | misuse => 2
  | aborted _ => 101

/-- What an ending prints. -/
def Ending.output : Ending → String
  | done output => output
  | _ => ""

/-- A document as the program prints it. -/
def printed (document : Document) : String := document.indentedText ++ "\n"

/-- The outcome of loading, with how its fault ends the program. -/
def loaded {α : Type} : Except LoadFault α → Except Ending α
  | .ok a => .ok a
  | .error .overflow => .error (.aborted LoadFault.overflow.message)
  | .error fault => .error (.failed fault.message)

/-- The outcome of evaluating, with how its fault ends the program. -/
def evaluated {α : Type} : Except Fault α → Except Ending α
  | .ok a => .ok a
  | .error .repeatedLabel => .error (.aborted Fault.repeatedLabel.message)
  | .error fault => .error (.failed fault.message)

/-- The lines that name the functions of an engine and the filters of rules. -/
def listing (engine : Engine) (registry : FilterRegistry) : String :=
  lines (engine.functions.names.map ("function\t" ++ ·) ++ registry.names.map ("filter\t" ++ ·))

/-- What a command prints. -/
def Command.execute (files : Files) (engine : Engine) (time : Int) :
    Command → Except Ending String
  | query expr => do return printed (← evaluated (engine.query expr time)).document
  | call name args => do return printed (← evaluated (engine.call name args time)).document
  | rules path shards => do
    let rules ← loaded (loadRules files path)
    match shards with
    | some shards =>
      let groups ← evaluated (shardRules (rules.map (·.rule)) shards)
      return printed (.array (groups.map RuleGroup.document))
    | none =>
      let rows ← rules.mapM fun rule =>
        evaluated (engine.evalRule rule FilterRegistry.builtin time)
      return printed (Value.vector rows.flatten).document
  | list => .ok (listing engine FilterRegistry.builtin)

/-- What a command prints under the options of the program. -/
def execute (present : Int) (files : Files) (options : Options) (command : Command) :
    Except Ending String := do
  let folder := options.samples.getD defaultSamples
  let seconds ← match options.time with
    | some seconds => pure seconds
    | none => (loaded (loadTimes files present folder)).map Prod.snd
  let time ← loaded (timeOfSeconds seconds)
  let store ← loaded (loadStore files folder)
  let engine : Engine :=
    { store, functions := FunctionTable.builtin, lookback := Engine.defaultLookback }
  let span := Time.Span.ofSeconds (options.lookback.getD defaultLookback)
  command.execute files (engine.withLookback span) time

/-- How the program ends. -/
def run (present : Int) (files : Files) (words : List String) : Ending :=
  match Request.read words with
  | .run options command =>
    match execute present files options command with
    | .ok output => .done output
    | .error ending => ending
  | .help topic => .done topic.text
  | .version => .done versionText
  | .misuse => .misuse

end LabeledSeries.CommandLine
