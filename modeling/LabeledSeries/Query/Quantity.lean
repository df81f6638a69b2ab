import LabeledSeries.Decimal.Reading
import LabeledSeries.Text.Digit
import LabeledSeries.Time

/-!
# Numbers and durations

The values of the numbers and the durations that expressions write.  A whole number may be
hexadecimal or octal, in the range of 64 bits.  A duration is a sum of counts of units, from years
to milliseconds in this order, each at most once, and is never zero.
-/

namespace LabeledSeries.Query

/-- The value of digits in some base, if there are any and it is at most the latest time, the
    largest integer of 64 bits. -/
def integerIn? (base : Nat) (digits : List Char) : Option Nat := do
  if digits.isEmpty then none
  else
    let value ← digits.foldlM (fun value c => do
      let digit ← Text.hexValue? c
      if digit < base then some (value * base + digit) else none) 0
    if (value : Int) ≤ Time.latest then return value else none

/-- The value of a number. -/
def number? (text : String) : Option Float :=
  let chars := text.toList.map Char.toLower
  if chars.contains 'x' then (integerIn? 16 (chars.drop 2)).map (Decimal.ofDecimal · 0)
  else if chars.head? = some '0' ∧ chars ≠ ['0'] ∧
      !chars.any (fun c => c == '.' || c == '8' || c == '9') then
    (integerIn? 8 chars).map (Decimal.ofDecimal · 0)
  else Decimal.read? (String.ofList chars)

/-- The units of durations in their order, with their lengths in milliseconds. -/
def units : List (List Char × Nat) :=
  [(['y'], 365 * 24 * 3600000), (['w'], 7 * 24 * 3600000), (['d'], 24 * 3600000), (['h'], 3600000),
    (['m'], 60000), (['s'], 1000), (['m', 's'], 1)]

/-- The largest count of a unit; a larger one counts as none. -/
def unitCountLimit : Nat := 4294967295

/-- The milliseconds of counts of units, each of the units given or a later one. -/
def milliseconds? : List (List Char × Nat) → List Char → Option Nat
  | _, [] => some 0
  | [], _ :: _ => none
  | (unit, length) :: later, text =>
    let digits := text.takeWhile Char.isDigit
    let rest := text.dropWhile Char.isDigit
    let name := rest.takeWhile Char.isAlpha
    if digits.isEmpty then none
    else if name = unit then do
      let count := Decimal.digitsValue digits
      let more ← milliseconds? later (rest.dropWhile Char.isAlpha)
      return (if count ≤ unitCountLimit then count * length else 0) + more
    else milliseconds? later text

/-- The length of a duration. -/
def span? (text : String) : Option Time.Span := do
  let length ← milliseconds? units text.toList
  if length = 0 then none else return Time.Span.ofMilliseconds length

end LabeledSeries.Query
