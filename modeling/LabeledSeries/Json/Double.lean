import LabeledSeries.Json.Decoding
import LabeledSeries.Decimal.Reading

/-!
# Numbers of documents as doubles

A number of a document is read as a double in two steps: its digits make an integer of 64 bits,
which is rounded to a double, and that is multiplied or divided by a power of ten.  Digits that do
not fit the integer any more are dropped.  The result is off the nearest double by a little where
both steps round, and a number beyond all doubles has none.
-/

namespace LabeledSeries.Document

/-- The parts of a number: whether it is negative, the digits before and after the point, and the
    exponent with its sign. -/
structure Numeral where
  negative : Bool
  whole : List Char
  fraction : List Char
  negativeExponent : Bool
  exponent : List Char
  deriving Repr, DecidableEq

/-- The parts of a well-formed number. -/
def Numeral.ofChars (chars : List Char) : Numeral :=
  let (negative, rest) := match chars with
    | '-' :: rest => (true, rest)
    | rest => (false, rest)
  let whole := rest.takeWhile Char.isDigit
  let (fraction, rest) := match rest.dropWhile Char.isDigit with
    | '.' :: rest => (rest.takeWhile Char.isDigit, rest.dropWhile Char.isDigit)
    | rest => ([], rest)
  let (negativeExponent, exponent) := match rest.drop 1 with
    | '-' :: digits => (true, digits)
    | '+' :: digits => (false, digits)
    | digits => (false, digits)
  { negative, whole, fraction, negativeExponent, exponent }

/-- The largest integer that digits are gathered in. -/
def significandLimit : Nat := 18446744073709551615

/-- Gather digits in an integer as long as it fits.  The result is the integer, how many digits went
    into it, and how many were dropped. -/
def gather : Nat → List Char → Nat × Nat × Nat
  | significand, [] => (significand, 0, 0)
  | significand, c :: digits =>
    let next := significand * 10 + Decimal.digitValue c
    if significandLimit < next then (significand, 0, digits.length + 1)
    else
      let (significand, used, dropped) := gather next digits
      (significand, used + 1, dropped)

/-- The largest exponent of a power of ten among the doubles. -/
def powerLimit : Nat := 308

/-- A double divided by a power of ten, in steps of the largest power.  Three steps take every
    double of an integer to zero. -/
def lower : Nat → Float → Nat → Float
  | 0, x, _ => x
  | steps + 1, x, power =>
    if power ≤ powerLimit then x / Decimal.ofDecimal 1 power
    else lower steps (x / Decimal.ofDecimal 1 powerLimit) (power - powerLimit)

/-- An integer times a power of ten; none if it is not finite. -/
def scaled? (significand : Nat) (exponent : Int) : Option Float :=
  let x := Decimal.ofDecimal significand 0
  if exponent < 0 then some (lower 4 x exponent.natAbs)
  else if significand = 0 then some x
  else if exponent.toNat ≤ powerLimit then
    let product := x * Decimal.ofDecimal 1 exponent
    if product.isInf then none else some product
  else none

/-- The double of a number. -/
def Numeral.double? (numeral : Numeral) : Option Float :=
  let (significand, _, dropped) := gather 0 numeral.whole
  let (significand, used, _) := gather significand numeral.fraction
  let written : Int := Decimal.digitsValue numeral.exponent
  let exponent := (dropped : Int) - used + if numeral.negativeExponent then -written else written
  (scaled? significand exponent).map fun x => if numeral.negative then -x else x

/-- The double of a document that is a number. -/
def double? : Document → Option Float
  | .number literal => (Numeral.ofChars literal.toList).double?
  | _ => none

end LabeledSeries.Document
