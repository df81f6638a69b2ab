import LabeledSeries.Query.Functions
import LabeledSeries.Text.Name

/-!
# Formation rules

Which expressions are well-formed, apart from their notation: the kinds of operands, the numbers and
kinds of arguments, and what selectors need.  `Expr.formed` judges the outermost construct of an
expression, so an expression is well-formed if it holds of all its parts.
-/

namespace LabeledSeries.Query

/-- Whether a selector can stand.  Its metric has one name, and without a name in front some matcher
    must refuse the empty value. -/
def Selector.formed (selector : Selector) : Bool :=
  selector.matchers.all Matcher.hasPattern &&
    match selector.name with
    | some _ => !selector.matchers.any (·.label == metricLabel)
    | none => !selector.matchers.all Matcher.passesEmpty

/-- Whether an operator can join expressions of these kinds. -/
def Pairing.formed (pairing : Pairing) (op : BinaryOp) (left right : Kind) : Bool :=
  let scalars := left == .scalar && right == .scalar
  let vectors := left == .vector && right == .vector
  let numeric (kind : Kind) : Bool := kind == .scalar || kind == .vector
  let shared := (pairing.labels.map Prod.snd).getD []
  let clash := match pairing.labels with
    | some (true, labels) => (pairing.group.getD []).any labels.contains
    | _ => false
  numeric left && numeric right &&
    (!pairing.returnsBool || op.isComparison) &&
    (!(op.isComparison && scalars) || pairing.returnsBool) &&
    !clash &&
    (!op.isSet || (vectors && pairing.group.isNone)) &&
    (vectors || shared.isEmpty)

namespace Expr

/-- The number that an expression writes, parentheses not looked into. -/
def literal? : Expr → Option Float
  | number x => some x
  | _ => none

/-- Whether the outermost construct of an expression follows the rules. -/
def formed : Expr → Bool
  | number _ | text _ | paren _ => true
  | instant selector | range selector _ => selector.formed
  | subquery inner _ _ _ => inner.kind == .vector
  | negate inner => inner.kind == .scalar || inner.kind == .vector
  | binary op pairing left right => pairing.formed op left.kind right.kind
  | aggregate op _ args =>
    match op.parameter?, args with
    | none, [arg] => arg.kind == .vector
    | some kind, [parameter, arg] => parameter.kind == kind && arg.kind == .vector
    | _, _ => false
  | call function args =>
    function.takes args.length &&
      ((args.head?.bind literal?).any function.definedAt || function.takesKinds (args.map kind))

/-- An expression, if its outermost construct follows the rules. -/
def check? (e : Expr) : Option Expr := if e.formed then some e else none

/-- The negation of an expression; that of a number is a number. -/
def negate? : Expr → Option Expr
  | number x => some (number (-x))
  | e => (negate e).check?

/-- The samples of a selector in a range.  The selector may not be shifted; the range may. -/
def range? (span : Time.Span) : Expr → Option Expr
  | instant selector => if selector.shift.isNone then some (range selector span) else none
  | _ => none

/-- An expression with its shift changed; only selectors and subqueries have one. -/
def reshift? (change : Shift → Option Shift) : Expr → Option Expr
  | instant selector => do
    return instant { selector with shift := ← change selector.shift }
  | range selector span => do
    return range { selector with shift := ← change selector.shift } span
  | subquery inner span step shift => do
    return subquery inner span step (← change shift)
  | _ => none

/-- An expression moved by a length of time, unless it is moved already. -/
def moved? (forward : Bool) (span : Time.Span) (e : Expr) : Option Expr :=
  e.reshift? fun shift =>
    if shift.offset.isSome then none else some { shift with offset := some (forward, span) }

/-- An expression pinned to a time, unless it is pinned already. -/
def pinned? (pin : Pin) (e : Expr) : Option Expr :=
  e.reshift? fun shift => if shift.pin.isSome then none else some { shift with pin := some pin }

end Expr

end LabeledSeries.Query
