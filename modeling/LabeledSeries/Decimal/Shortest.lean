import LabeledSeries.Decimal.Binary

/-!
# The shortest decimal of a double

Among the decimals that round to a given double, the shortest ones are the multiples of the coarsest
power of ten that has a multiple there; of these the nearest to the double is chosen.  Where two are
equally near, a *tie* decides between them.

The reals that round to `mantissa · 2 ^ exponent` reach half a step up and half a step down, or a
quarter of a step down where the mantissa is the least of its binade.  The ends belong to them
exactly when the mantissa is even, because ties go to the even pattern.

All numbers are scaled to a common denominator, so every comparison is one of natural numbers.
-/

namespace LabeledSeries.Decimal

/-- A non-negative decimal `coefficient · 10 ^ exponent`. -/
structure Scientific where
  coefficient : Nat
  exponent : Int
  deriving Repr, DecidableEq

/-- The reals that round to a double, in quarters of its step: from `low` to `high` around `centre`,
    each times `2 ^ (exponent - 2)`. -/
structure Interval where
  low : Nat
  centre : Nat
  high : Nat
  ends : Bool
  deriving Repr, DecidableEq

/-- The reals that round to `mantissa · 2 ^ exponent`. -/
def roundingInterval (mantissa : Nat) (exponent : Int) : Interval where
  low :=
    if mantissa = Nat.pow 2 52 ∧ exponent ≠ minExponent then 4 * mantissa - 1 else 4 * mantissa - 2
  centre := 4 * mantissa
  high := 4 * mantissa + 2
  ends := mantissa % 2 == 0

/-- Which of two multiples that are equally near to a double is chosen. -/
inductive Tie where
  | upper
  | even
  deriving Repr, DecidableEq

/-- The choice between a multiple and the one above it. -/
def Tie.choose (tie : Tie) (below : Nat) : Nat :=
  match tie with
  | upper => below + 1
  | even => below + below % 2

/-- Whether the scaled number `x` lies between the scaled ends. -/
def Interval.holds (ends : Bool) (low high x : Nat) : Bool :=
  if ends then decide (low ≤ x ∧ x ≤ high) else decide (low < x ∧ x < high)

/-- The multiple of `10 ^ power` that rounds to the double and is nearest to it, if any does.  Both
    sides are scaled by `2 ^ max (2 - exponent) 0` and by `10 ^ max (-power) 0`. -/
def nearestMultiple (tie : Tie) (interval : Interval) (exponent power : Int) : Option Nat :=
  let number (quarters : Nat) : Nat :=
    quarters * Nat.pow 2 (exponent - 2).toNat * Nat.pow 10 (-power).toNat
  let unit : Nat := Nat.pow 2 (2 - exponent).toNat * Nat.pow 10 power.toNat
  let centre := number interval.centre
  let low := number interval.low
  let high := number interval.high
  let below := centre / unit
  let above := below + 1
  let fits (d : Nat) : Bool := Interval.holds interval.ends low high (d * unit)
  match fits below, fits above with
  | false, false => none
  | true, false => some below
  | false, true => some above
  | true, true =>
    if centre - below * unit < above * unit - centre then some below
    else if above * unit - centre < centre - below * unit then some above
    else some (tie.choose below)

/-- Look for the coarsest power of ten from `power` downward. -/
def coarsest (tie : Tie) (interval : Interval) (exponent : Int) : Nat → Int → Scientific
  | 0, power => ⟨interval.centre, power⟩
  | fuel + 1, power =>
    match nearestMultiple tie interval exponent power with
    | some coefficient => ⟨coefficient, power⟩
    | none => coarsest tie interval exponent fuel (power - 1)

/-- The powers of ten between that of the largest double and one finer than the smallest double. -/
def powerSpan : Nat := 650

/-- The shortest decimal that rounds to `mantissa · 2 ^ exponent`, and zero for zero. -/
def shortest (tie : Tie) (mantissa : Nat) (exponent : Int) : Scientific :=
  if mantissa = 0 then ⟨0, 0⟩
  else coarsest tie (roundingInterval mantissa exponent) exponent powerSpan 309

end LabeledSeries.Decimal
