import LabeledSeries.Value
import LabeledSeries.Time
import LabeledSeries.Text.Quoted

/-!
# Faults

Everything that can go wrong in a call, a rule or a query is a value of `Fault`, by its cause; the
wording is in `Fault.message` alone.
-/

namespace LabeledSeries

/-- Parameters that a function cannot work with. -/
inductive ParameterFault where
  /-- A list of keys and values of odd length. -/
  | unpaired (count : Nat)
  /-- Not one target label for each vector. -/
  | targetCount (targets vectors : Nat)
  /-- Neither one match key nor one for each vector. -/
  | keyCount (keys vectors : Nat)
  /-- Rules cannot be spread over no groups. -/
  | noShards
  deriving Repr, DecidableEq

/-- The wording of a parameter fault. -/
def ParameterFault.message : ParameterFault → String
  | .unpaired count => s!"expected key/value pairs, got {count} arguments"
  | .targetCount targets vectors => s!"{targets} target labels for {vectors} vectors"
  | .keyCount keys vectors => s!"{keys} match keys for {vectors} vectors"
  | .noShards => "shard count must be positive"

/-- What makes a recording rule unusable. -/
inductive RuleFault where
  | emptyRecord
  | badRecord (record : String)
  | emptyExpression (record : String)
  deriving Repr, DecidableEq

/-- The wording of a rule fault. -/
def RuleFault.message : RuleFault → String
  | .emptyRecord => "empty record name"
  | .badRecord record => "invalid record name " ++ Text.quoted record
  | .emptyExpression record => "empty expression for " ++ record

/-- How many arguments a function takes. -/
inductive Arity where
  | exactly (count : Nat)
  | atLeast (count : Nat)
  deriving Repr, DecidableEq

/-- The wording of an arity. -/
def Arity.text : Arity → String
  | .exactly count => toString count
  | .atLeast count => s!"at least {count}"

/-- Whether a number of arguments fits an arity. -/
def Arity.admits : Arity → Nat → Bool
  | .exactly count, n => n == count
  | .atLeast count, n => decide (count ≤ n)

/-- Expressions that are understood but not evaluated. -/
inductive Refusal where
  /-- An expression beyond selectors and literals. -/
  | expression (text : String)
  /-- A selector that names no metric. -/
  | nameless
  /-- A range that reaches back beyond the earliest time. -/
  | range (span : Time.Span)
  /-- A matrix or a literal where a vector was asked for. -/
  | notVector (text : String) (kind : Kind)
  deriving Repr, DecidableEq

/-- The wording of a refusal. -/
def Refusal.message : Refusal → String
  | .expression text => text
  | .nameless => "selector without a metric name"
  | .range span => "range " ++ span.text ++ " is too large"
  | .notVector text kind => text ++ " evaluates to a " ++ kind.name ++ ", not a vector"

/-- What can go wrong in the store of tables. -/
inductive StoreFault where
  /-- A table of that name exists already. -/
  | nameTaken (name : String)
  /-- The name lies in a schema that does not exist. -/
  | noSchema (name : String)
  /-- Two columns of a table have one name. -/
  | repeatedColumn (column : String)
  /-- A query needs a column that the table lacks. -/
  | noColumn (column : String)
  /-- A column does not hold what its role needs. -/
  | mistypedColumn (column : String)
  deriving Repr, DecidableEq

/-- The wording of a store fault. -/
def StoreFault.message : StoreFault → String
  | .nameTaken name => "the table " ++ Text.quoted name ++ " already exists"
  | .noSchema name => "no schema for the table " ++ Text.quoted name
  | .repeatedColumn column => "repeated column " ++ Text.quoted column
  | .noColumn column => "no column " ++ Text.quoted column
  | .mistypedColumn column => "mistyped column " ++ Text.quoted column

/-- What can go wrong. -/
inductive Fault where
  | invalidLabelName (function name : String)
  | invalidParameters (function : String) (fault : ParameterFault)
  | notTernary (text : String)
  /-- An argument of the wrong kind; no kind is expected beyond the last declared one. -/
  | argumentKind (function : String) (index : Nat) (expected : Option Kind) (actual : Kind)
  | argumentCount (function : String) (expected : Arity) (actual : Nat)
  | invalidRule (fault : RuleFault)
  | unknownFunction (name : String)
  | unsupported (refusal : Refusal)
  /-- A scalar argument that does not read as a number. -/
  | notANumber (text : String)
  /-- A text that is no expression. -/
  | notAnExpression (text : String)
  /-- A pattern that cannot be used. -/
  | badPattern (pattern : String)
  | store (fault : StoreFault)
  /-- A label set given with a repeated name. -/
  | repeatedLabel
  deriving Repr, DecidableEq

/-- The wording of a fault. -/
def Fault.message : Fault → String
  | .invalidLabelName function name =>
    "invalid label name in " ++ function ++ "(): " ++ Text.quoted name
  | .invalidParameters function fault => "invalid params in " ++ function ++ "(): " ++ fault.message
  | .notTernary text => "not a ternary operator: " ++ Text.quoted text
  | .argumentKind function index expected actual =>
    let wanted := (expected.map Kind.name).getD "no"
    s!"{function}: expected {wanted} argument #{index}, got {actual.name}"
  | .argumentCount function expected actual =>
    s!"{function}: expected {expected.text} arguments, got {actual}"
  | .invalidRule fault => "invalid recording rule: " ++ fault.message
  | .unknownFunction name => "unknown function: " ++ name
  | .unsupported refusal => "unsupported expression: " ++ refusal.message
  | .notANumber text => "failed to parse " ++ Text.quoted text ++ ": not a number"
  | .notAnExpression text => "failed to parse " ++ Text.quoted text ++ ": not an expression"
  | .badPattern pattern => "failed to parse " ++ Text.quoted pattern ++ ": not a pattern"
  | .store fault => fault.message
  | .repeatedLabel => "label names are not unique"

end LabeledSeries
