/-!
# Doubles as exact numbers

A double is not a number, an infinity, or a signed integer multiple of a power of two.  This module
takes a double apart into that form and rounds a fraction of natural numbers back to the nearest
double, so that reading and writing decimals can be said in exact arithmetic.

## §1 Taking a double apart

## §2 Rounding a fraction

`nearestBits num den` is the bit pattern of the non-negative double nearest to `num / den`, a tie
going to the even pattern.  Patterns of non-negative doubles ascend with the numbers they stand for,
each binade following the one below it, so the pattern is the exponent's place plus the rounded
quotient, and a carry out of the quotient lands in the next binade by itself.
-/

namespace LabeledSeries.Decimal

/-! ## §1 Taking a double apart -/

/-- A double: no number, an infinity, or `± mantissa · 2 ^ exponent`. -/
inductive Binary where
  | notANumber
  | infinite (negative : Bool)
  | finite (negative : Bool) (mantissa : Nat) (exponent : Int)
  deriving Repr, DecidableEq

/-- The exponent of the smallest doubles. -/
def minExponent : Int := -1074

/-- The number a bit pattern of 64 bits stands for. -/
def Binary.ofBits (bits : Nat) : Binary :=
  let negative := bits / Nat.pow 2 63 % 2 == 1
  let biased : Nat := bits / Nat.pow 2 52 % 2048
  let fraction : Nat := bits % Nat.pow 2 52
  if biased = 2047 then
    if fraction = 0 then .infinite negative else .notANumber
  else if biased = 0 then .finite negative fraction minExponent
  else .finite negative (Nat.pow 2 52 + fraction) ((biased : Int) - 1075)

/-- The number a double stands for. -/
def Binary.ofFloat (x : Float) : Binary := .ofBits x.toBits.toNat

/-! ## §2 Rounding a fraction -/

/-- A quotient rounded to the nearest natural number, a tie to the even one. -/
def roundHalfEven (num den : Nat) : Nat :=
  let quotient := num / den
  let twice := 2 * (num % den)
  if twice < den then quotient
  else if den < twice then quotient + 1
  else quotient + quotient % 2

/-- The largest `k` with `2 ^ k ≤ num / den`, for positive `num` and `den`. -/
def fractionLog2 (num den : Nat) : Int :=
  let k : Int := (num.log2 : Int) - den.log2
  if den * Nat.pow 2 k.toNat ≤ num * Nat.pow 2 (-k).toNat then k else k - 1

/-- The bit pattern of positive infinity. -/
def infinityBits : Nat := 2047 * Nat.pow 2 52

/-- The bit pattern of the double nearest to `num / den`; from half a step above the largest double
    on it is the pattern of infinity. -/
def nearestBits (num den : Nat) : Nat :=
  if num = 0 then 0
  else
    let exponent := max (fractionLog2 num den - 52) minExponent
    let quotient :=
      roundHalfEven (num * Nat.pow 2 (-exponent).toNat) (den * Nat.pow 2 exponent.toNat)
    min ((exponent - minExponent).toNat * Nat.pow 2 52 + quotient) infinityBits

/-- The double of a sign and the bit pattern of a non-negative double. -/
def signedFloat (negative : Bool) (bits : Nat) : Float :=
  Float.ofBits (UInt64.ofNat (if negative then Nat.pow 2 63 + bits else bits))

/-- The integer part of a double, toward zero; `none` where there is no number. -/
def Binary.truncate : Binary → Option Int
  | .finite negative mantissa exponent =>
    let magnitude : Int := mantissa * Nat.pow 2 exponent.toNat / Nat.pow 2 (-exponent).toNat
    some (if negative then -magnitude else magnitude)
  | _ => none

end LabeledSeries.Decimal
