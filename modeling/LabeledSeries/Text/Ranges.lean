/-!
# Sets of code points as ranges

A property of characters is tabulated as an array of inclusive ranges of code points, ascending and
apart from each other.  Membership is a binary search.
-/

namespace LabeledSeries.Text

/-- Search for a code point among the ranges with an index in `[low, high)`.  `fuel` bounds the
    number of halvings; the number of ranges is enough of it. -/
def searchRanges (ranges : Array (Nat × Nat)) (code : Nat) : Nat → Nat → Nat → Bool
  | 0, _, _ => false
  | fuel + 1, low, high =>
    if low < high then
      let middle := (low + high) / 2
      match ranges[middle]? with
      | none => false
      | some (first, last) =>
        if code < first then searchRanges ranges code fuel low middle
        else if last < code then searchRanges ranges code fuel (middle + 1) high
        else true
    else false

/-- Whether a character lies in one of the ranges. -/
def inRanges (ranges : Array (Nat × Nat)) (c : Char) : Bool :=
  searchRanges ranges c.toNat ranges.size 0 ranges.size

end LabeledSeries.Text
