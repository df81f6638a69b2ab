import LabeledSeries.Decimal.Shortest

/-!
# Writing decimals

Two ways to lay out the digits of a decimal.  *Positional* text has every place from the units to
the last digit and no exponent, however long that gets.  *Scalar* text, which a document can hold,
always has a fraction and turns to an exponent for numbers far from one.

What a layout decides beyond its digits stands in a record, so that the two texts of this library
are two values of one type of convention.
-/

namespace LabeledSeries.Decimal

/-- The decimal digits of a natural number. -/
def digitsOf (n : Nat) : List Char := Nat.toDigits 10 n

/-- Every place of a decimal: digits, and a point where there is a fraction. -/
def positional (d : Scientific) : List Char :=
  let digits := digitsOf d.coefficient
  if 0 ≤ d.exponent then digits ++ List.replicate d.exponent.toNat '0'
  else
    let places := (-d.exponent).toNat
    if places < digits.length then
      digits.take (digits.length - places) ++ '.' :: digits.drop (digits.length - places)
    else '0' :: '.' :: List.replicate (places - digits.length) '0' ++ digits

/-- The power of ten of a decimal's first digit. -/
def leadingPower (d : Scientific) : Int := (digitsOf d.coefficient).length - 1 + d.exponent

/-- A first digit, the others as a fraction, and the exponent with its sign. -/
def exponential (d : Scientific) : List Char :=
  let power := leadingPower d
  let sign := if power < 0 then '-' else '+'
  let fraction := match digitsOf d.coefficient with
    | [] => []
    | [digit] => [digit]
    | digit :: digits => digit :: '.' :: digits
  fraction ++ 'e' :: sign :: digitsOf power.natAbs

/-- What a text of a double decides besides its digits. -/
structure Layout where
  /-- The leading powers of ten that are written in full; `none` means all of them. -/
  inFull : Option (Int × Int)
  /-- Whether a number without a fraction gets one, a single zero. -/
  fraction : Bool
  /-- Which of two shortest decimals that are equally near is written. -/
  tie : Tie
  notANumber : String
  positive : String
  negative : String

/-- The digits of a decimal under a layout. -/
def Layout.digits (layout : Layout) (d : Scientific) : List Char :=
  let power := leadingPower d
  let full := match layout.inFull with
    | none => true
    | some (least, most) => decide (least ≤ power ∧ power ≤ most)
  if full then
    let text := positional d
    if layout.fraction && !text.contains '.' then text ++ ['.', '0'] else text
  else exponential d

/-- The text of a double under a layout, by its shortest decimal. -/
def Layout.write (layout : Layout) : Binary → String
  | .notANumber => layout.notANumber
  | .infinite negative => if negative then layout.negative else layout.positive
  | .finite negative mantissa exponent =>
    let digits := layout.digits (shortest layout.tie mantissa exponent)
    String.ofList (if negative then '-' :: digits else digits)

/-- The text of a double as a label holds it: never an exponent, no fraction on a whole number,
    signs on the infinities. -/
def valueLayout : Layout where
  inFull := none
  fraction := false
  tie := .upper
  notANumber := "NaN"
  positive := "+Inf"
  negative := "-Inf"

/-- The text of a double as a document holds it: a fraction always, written in full from `10⁻⁵` to
    below `10¹⁶`; what is not finite is the null of the document. -/
def scalarLayout : Layout where
  inFull := some (-5, 15)
  fraction := true
  tie := .even
  notANumber := "null"
  positive := "null"
  negative := "null"

end LabeledSeries.Decimal
