import LabeledSeries.Pattern.CharSet
import LabeledSeries.Text.Letter

/-!
# Patterns of text

A pattern describes pieces of a text: single characters of a set, places between characters, and
sequences, choices and repetitions of patterns.  `Pattern.reach` follows a pattern through a text
from a set of positions at once and gives the positions where a match can end, so its cost does not
depend on how many ways there are to match.

## Positions

Positions are indices between characters: `0` is before the first one and the size of the text after
the last.  Sets of positions are ascending lists.
-/

namespace LabeledSeries

/-- Where a word begins or ends. -/
inductive WordEdge where
  /-- Between a word and its surroundings. -/
  | either
  | start
  | stop
  /-- No word before. -/
  | startHalf
  /-- No word after. -/
  | stopHalf
  deriving Repr, DecidableEq

/-- Places between characters, told apart by the two characters beside them. -/
inductive Place where
  | textStart
  | textEnd
  | lineStart
  | lineEnd
  /-- Line ends may also be carriage returns, alone or before a line feed. -/
  | returnLineStart
  | returnLineEnd
  /-- Word characters are those of every script or of ASCII alone. -/
  | word (edge : WordEdge) (ascii : Bool)
  deriving Repr, DecidableEq

namespace WordEdge

/-- Whether an edge lies between two characters, given which of them belong to words. -/
def holds : WordEdge → (before after : Bool) → Bool
  | either, before, after => before != after
  | start, before, after => !before && after
  | stop, before, after => before && !after
  | startHalf, before, _ => !before
  | stopHalf, _, after => !after

end WordEdge

/-- Whether a character is a letter, a digit or an underscore of ASCII. -/
def isAsciiWordChar (c : Char) : Bool := c.isAlphanum || c == '_'

namespace Place

/-- Whether a place lies between two characters, of which one is missing at an end of the text. -/
def holds : Place → (before after : Option Char) → Bool
  | textStart, before, _ => before.isNone
  | textEnd, _, after => after.isNone
  | lineStart, before, _ => before.isNone || before == some '\n'
  | lineEnd, _, after => after.isNone || after == some '\n'
  | returnLineStart, before, after =>
    before.isNone || before == some '\n' || (before == some '\r' && after != some '\n')
  | returnLineEnd, before, after =>
    after.isNone || after == some '\r' || (after == some '\n' && before != some '\r')
  | word edge ascii, before, after =>
    let inWord := if ascii then isAsciiWordChar else Text.isWordChar
    edge.holds (before.any inWord) (after.any inWord)

end Place

/-- A pattern of text. -/
inductive Pattern where
  | empty
  /-- One character of a set. -/
  | one (set : CharSet)
  | place (place : Place)
  | both (first second : Pattern)
  | either (left right : Pattern)
  /-- A pattern at least so many times in a row, and at most so many if there is a bound. -/
  | times (pattern : Pattern) (least : Nat) (most : Option Nat)
  deriving Repr, DecidableEq

/-- The union of two ascending lists of positions. -/
def mergePositions : List Nat → List Nat → List Nat
  | [], right => right
  | left, [] => left
  | a :: left, b :: right =>
    if a < b then a :: mergePositions left (b :: right)
    else if b < a then b :: mergePositions (a :: left) right
    else a :: mergePositions left right
  termination_by left right => left.length + right.length

/-- Positions after exactly so many steps. -/
def stepPositions (step : List Nat → List Nat) : Nat → List Nat → List Nat
  | 0, positions => positions
  | _ + 1, [] => []
  | count + 1, positions => stepPositions step count (step positions)

/-- Positions after at most so many steps from the newest of the positions seen. -/
def spreadPositions (step : List Nat → List Nat) : Nat → (newest seen : List Nat) → List Nat
  | 0, _, seen => seen
  | count + 1, newest, seen =>
    match (step newest).filter (!seen.contains ·) with
    | [] => seen
    | found => spreadPositions step count found (mergePositions seen found)

namespace Pattern

/-- Where a match that starts at one of the positions can end.  A repetition without a bound stops
    growing after as many rounds as the text has positions. -/
def reach (text : Array Char) : Pattern → List Nat → List Nat
  | empty, positions => positions
  | one set, positions =>
    positions.filterMap fun i => if (text[i]?).any set.contains then some (i + 1) else none
  | place spot, positions =>
    positions.filter fun i => spot.holds (if i = 0 then none else text[i - 1]?) text[i]?
  | both first second, positions => second.reach text (first.reach text positions)
  | either left right, positions =>
    mergePositions (left.reach text positions) (right.reach text positions)
  | times pattern least most, positions =>
    let start := stepPositions (pattern.reach text) least positions
    let rounds := match most with
      | some most => most - least
      | none => text.size + 1
    spreadPositions (pattern.reach text) rounds start start

/-- Whether some piece of the text matches. -/
def occursIn (pattern : Pattern) (text : String) : Bool :=
  let chars := text.toList.toArray
  !(pattern.reach chars (List.range (chars.size + 1))).isEmpty

/-- The memory that an automaton for the pattern would take, in bytes: a state for each byte of a
    character and for each repetition or choice. -/
def weight : Pattern → Nat
  | empty | place _ => 32
  | one (.range first last) => if first = last then 32 * first.utf8Size else 40
  | one set => 32 + 8 * set.rangeCount
  | both first second => first.weight + second.weight
  | either left right => left.weight + right.weight + 48
  | times pattern least none => pattern.weight * max least 1 + 40
  | times pattern least (some most) => pattern.weight * max least most + 40 * (most - least)

/-- The most memory that a pattern may take. -/
def weightLimit : Nat := 10 * 1024 * 1024

end Pattern

end LabeledSeries
