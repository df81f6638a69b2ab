import LabeledSeries.Decimal.Binary

/-!
# Reading decimals

The grammar of a double's text: an optional sign, then `inf`, `infinity` or `nan` in any case, or
digits with an optional point, at least one digit on one of its sides, and an optional exponent.
The result is the double nearest to the number as written; it overflows to infinity and underflows
to zero.
-/

namespace LabeledSeries.Decimal

/-- The value of a digit. -/
def digitValue (c : Char) : Nat := c.toNat - '0'.toNat

/-- The number that a list of digits writes. -/
def digitsValue (digits : List Char) : Nat :=
  digits.foldl (fun n c => 10 * n + digitValue c) 0

/-- The bit pattern of the double nearest to `coefficient · 10 ^ exponent`.  Numbers beyond
    `10 ^ ± 400` are far outside the range of doubles, and are settled without their powers. -/
def nearestBitsOfDecimal (coefficient : Nat) (exponent : Int) : Nat :=
  let size : Int := (Nat.toDigits 10 coefficient).length + exponent
  if coefficient = 0 then 0
  else if 400 < size then infinityBits
  else if size < -400 then 0
  else nearestBits (coefficient * Nat.pow 10 exponent.toNat) (Nat.pow 10 (-exponent).toNat)

/-- An exponent up to the end, or nothing: a letter `e`, an optional sign and at least one
    digit. -/
def exponentValue? : List Char → Option Int
  | [] => some 0
  | 'e' :: rest | 'E' :: rest =>
    let (negative, digits) := match rest with
      | '-' :: digits => (true, digits)
      | '+' :: digits => (false, digits)
      | digits => (false, digits)
    if digits.isEmpty || !digits.all Char.isDigit then none
    else if negative then some (-(digitsValue digits : Int)) else some (digitsValue digits)
  | _ => none

/-- The digits before the point, the digits after it, and the rest of the text. -/
def splitNumeral (text : List Char) : List Char × List Char × List Char :=
  let whole := text.takeWhile Char.isDigit
  match text.dropWhile Char.isDigit with
  | '.' :: rest => (whole, rest.takeWhile Char.isDigit, rest.dropWhile Char.isDigit)
  | rest => (whole, [], rest)

/-- The bit pattern of an unsigned number. -/
def unsignedBits? (text : List Char) : Option Nat :=
  let (whole, fraction, rest) := splitNumeral text
  if whole.isEmpty && fraction.isEmpty then none
  else (exponentValue? rest).map fun exponent =>
    nearestBitsOfDecimal (digitsValue (whole ++ fraction)) (exponent - fraction.length)

/-- The bit pattern of not-a-number. -/
def notANumberBits : Nat := 2047 * Nat.pow 2 52 + Nat.pow 2 51

/-- The bit pattern of an unsigned text. -/
def magnitudeBits? (text : List Char) : Option Nat :=
  let lower := String.ofList (text.map Char.toLower)
  if lower = "inf" ∨ lower = "infinity" then some infinityBits
  else if lower = "nan" then some notANumberBits
  else unsignedBits? text

/-- The double that a text writes, if it writes one. -/
def read? (text : String) : Option Float :=
  match text.toList with
  | '-' :: rest => (magnitudeBits? rest).map (signedFloat true)
  | '+' :: rest => (magnitudeBits? rest).map (signedFloat false)
  | rest => (magnitudeBits? rest).map (signedFloat false)

/-- The double nearest to a natural number times a power of ten. -/
def ofDecimal (coefficient : Nat) (exponent : Int) : Float :=
  signedFloat false (nearestBitsOfDecimal coefficient exponent)

end LabeledSeries.Decimal
