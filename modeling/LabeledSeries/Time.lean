/-!
# Times

Times are whole microseconds since the epoch, held as integers and bounded to 64 bits.  A window of
time is open at its start and closed at its end.
-/

namespace LabeledSeries.Time

/-- The earliest time. -/
def earliest : Int := -9223372036854775808

/-- The latest time. -/
def latest : Int := 9223372036854775807

/-- Whether an integer is a time. -/
def inRange (t : Int) : Bool := decide (earliest ≤ t ∧ t ≤ latest)

/-- The time closest to an integer. -/
def clamp (t : Int) : Int := max earliest (min latest t)

/-- An integer, if it is a time. -/
def check (t : Int) : Option Int := if inRange t then some t else none

/-- Microseconds in a second. -/
def second : Int := 1000000

/-- The times after `start` and up to `stop`. -/
structure Window where
  start : Int
  stop : Int
  deriving Repr, DecidableEq

/-- Whether a window holds a time. -/
def Window.holds (window : Window) (t : Int) : Bool := decide (window.start < t ∧ t ≤ window.stop)

/-- A length of time in nanoseconds, as ranges and lookbacks are given. -/
structure Span where
  nanoseconds : Nat
  deriving Repr, DecidableEq

namespace Span

/-- A length of whole milliseconds. -/
def ofMilliseconds (n : Nat) : Span := ⟨n * 1000000⟩

/-- A length of whole seconds. -/
def ofSeconds (n : Nat) : Span := ⟨n * 1000000000⟩

/-- The whole microseconds of a length. -/
def microseconds (span : Span) : Nat := span.nanoseconds / 1000

/-- A fraction of a unit as digits after the point, without trailing zeros. -/
def fractionDigits (width rest : Nat) : List Char :=
  let digits := Nat.toDigits 10 rest
  let padded := List.replicate (width - digits.length) '0' ++ digits
  match ((padded.reverse.dropWhile (· == '0')).reverse) with
  | [] => []
  | digits => '.' :: digits

/-- A length as diagnostics show it: in the largest unit that it fills among seconds, milliseconds,
    microseconds and nanoseconds, with as many decimals as needed. -/
def text (span : Span) : String :=
  let n := span.nanoseconds
  let (unit, width, suffix) :=
    if 1000000000 ≤ n then (1000000000, 9, "s")
    else if 1000000 ≤ n then (1000000, 6, "ms")
    else if 1000 ≤ n then (1000, 3, "µs")
    else (1, 0, "ns")
  let fraction := if n % unit = 0 then [] else fractionDigits width (n % unit)
  String.ofList (Nat.toDigits 10 (n / unit) ++ fraction) ++ suffix

end Span

end LabeledSeries.Time
