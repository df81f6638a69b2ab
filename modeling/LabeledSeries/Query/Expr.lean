import LabeledSeries.Call.Signature
import LabeledSeries.Pattern.Reader

/-!
# Expressions

The language of queries: selectors of series, literals, and what arithmetic, aggregation and
functions make of them.  Only selectors and literals are ever evaluated; the rest is described as
far as it takes to tell a well-formed expression from a text that is none.

## §1 Selectors

## §2 Operators

## §3 Expressions and their kinds
-/

namespace LabeledSeries.Query

/-! ## §1 Selectors -/

/-- What a matcher asks of the value of its label. -/
inductive MatchRule where
  | equal
  | differs
  /-- The whole value matches a pattern. -/
  | matching
  | notMatching
  deriving Repr, DecidableEq

/-- A condition on one label; a missing label counts as empty. -/
structure Matcher where
  label : String
  rule : MatchRule
  /-- The text or the pattern to compare with. -/
  value : String
  deriving Repr, DecidableEq

/-- Whether a matcher lets the empty value pass.  A pattern need only occur somewhere in it. -/
def Matcher.passesEmpty (matcher : Matcher) : Bool :=
  let occurs := (Pattern.read? matcher.value).any (·.occursIn "")
  match matcher.rule with
  | .equal => matcher.value == ""
  | .differs => matcher.value != ""
  | .matching => occurs
  | .notMatching => !occurs

/-- Whether the value of a matcher is a pattern, if its rule needs one. -/
def Matcher.hasPattern (matcher : Matcher) : Bool :=
  match matcher.rule with
  | .equal | .differs => true
  | .matching | .notMatching => (Pattern.read? matcher.value).isSome

/-- The time at which a selector is pinned. -/
inductive Pin where
  | seconds (x : Float)
  | queryStart
  | queryEnd

/-- How an expression moves the time it is evaluated at. -/
structure Shift where
  /-- How far back, and whether forward instead. -/
  offset : Option (Bool × Time.Span) := none
  pin : Option Pin := none

/-- Whether the time stays. -/
def Shift.isNone (shift : Shift) : Bool := shift.offset.isNone && shift.pin.isNone

/-- A selection of series by the name of their metric and by conditions on their labels. -/
structure Selector where
  name : Option String
  matchers : List Matcher
  shift : Shift := {}

/-! ## §2 Operators -/

/-- The operators between two expressions. -/
inductive BinaryOp where
  | union
  | intersection
  | complement
  | equal
  | notEqual
  | less
  | lessEqual
  | greater
  | greaterEqual
  | add
  | sub
  | mul
  | div
  | mod
  | atan2
  | pow
  deriving Repr, DecidableEq

namespace BinaryOp

/-- How tight an operator binds. -/
def level : BinaryOp → Nat
  | union => 1
  | intersection | complement => 2
  | equal | notEqual | less | lessEqual | greater | greaterEqual => 3
  | add | sub => 4
  | mul | div | mod | atan2 => 5
  | pow => 6

/-- The level of the operand to the right of an operator; powers group to the right and all others
    to the left. -/
def rightLevel (op : BinaryOp) : Nat := if op = pow then op.level else op.level + 1

/-- Whether an operator compares. -/
def isComparison (op : BinaryOp) : Bool := op.level == 3

/-- Whether an operator works on sets of series. -/
def isSet (op : BinaryOp) : Bool := op.level ≤ 2

end BinaryOp

/-- How the series of two vectors are paired. -/
structure Pairing where
  /-- A comparison gives numbers instead of selecting. -/
  returnsBool : Bool := false
  /-- The labels that pairs share, or those that they need not share. -/
  labels : Option (Bool × List String) := none
  /-- One side may have several series to a pair, and takes further labels from the other. -/
  group : Option (List String) := none

/-- The operators over the series of a vector. -/
inductive Aggregator where
  | sum
  | avg
  | count
  | min
  | max
  | group
  | stddev
  | stdvar
  | topk
  | bottomk
  | countValues
  | quantile
  deriving Repr, DecidableEq

/-- The kind of the parameter that an aggregation has before its vector. -/
def Aggregator.parameter? : Aggregator → Option Kind
  | topk | bottomk | quantile => some .scalar
  | countValues => some .text
  | _ => none

/-- The labels by which an aggregation groups, or those that it ignores. -/
structure Grouping where
  without : Bool
  labels : List String
  deriving Repr, DecidableEq

/-- A function of the language. -/
structure KnownFunction where
  name : String
  signature : Signature
  deriving Repr, DecidableEq

/-! ## §3 Expressions and their kinds -/

/-- An expression. -/
inductive Expr where
  | number (x : Float)
  | text (s : String)
  /-- The latest samples of the selected series. -/
  | instant (selector : Selector)
  /-- All samples of the selected series in a range of time. -/
  | range (selector : Selector) (span : Time.Span)
  /-- The values of an expression at regular times. -/
  | subquery (inner : Expr) (span : Time.Span) (step : Option Time.Span) (shift : Shift)
  | paren (inner : Expr)
  | negate (inner : Expr)
  | binary (op : BinaryOp) (pairing : Pairing) (left right : Expr)
  | aggregate (op : Aggregator) (grouping : Option Grouping) (args : List Expr)
  | call (function : KnownFunction) (args : List Expr)

namespace Expr

/-- The kind of an expression's value. -/
def kind : Expr → Kind
  | number _ => .scalar
  | text _ => .text
  | instant _ => .vector
  | range _ _ => .matrix
  | subquery _ _ _ _ => .matrix
  | paren inner => inner.kind
  | negate inner => inner.kind
  | binary _ _ left right => if left.kind = .scalar ∧ right.kind = .scalar then .scalar else .vector
  | aggregate _ _ _ => .vector
  | call function _ => function.signature.returns

/-- An expression without the parentheses around it. -/
def bare : Expr → Expr
  | paren inner => inner.bare
  | other => other

end Expr

end LabeledSeries.Query
