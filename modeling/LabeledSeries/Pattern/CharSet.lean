import LabeledSeries.Text.CaseFold

/-!
# Sets of characters

A set of characters is an expression over single ranges: union, intersection, difference, symmetric
difference, complement and closure under letter case.  `CharSet.contains` says which characters it
holds; nothing else is ever asked of a set.
-/

namespace LabeledSeries

/-- A set of characters, as an expression. -/
inductive CharSet where
  | nothing
  /-- The characters between two characters, both included. -/
  | range (first last : Char)
  | union (left right : CharSet)
  | inter (left right : CharSet)
  | diff (left right : CharSet)
  | symmDiff (left right : CharSet)
  | compl (set : CharSet)
  /-- All letters that differ in case alone from a member. -/
  | anyCase (set : CharSet)
  /-- The same for the letters of the ASCII alphabet. -/
  | anyAsciiCase (set : CharSet)
  deriving Repr, DecidableEq

namespace CharSet

/-- The forms of an ASCII letter; any other character has one form. -/
def asciiForms (c : Char) : List Char := [c.toLower, c.toUpper]

/-- The forms of a character in all cases. -/
def forms (c : Char) : List Char := c :: (Text.caseVariants c.toNat).map Char.ofNat

/-- Whether a character belongs to a set. -/
def contains : CharSet → Char → Bool
  | nothing, _ => false
  | range first last, c => first ≤ c && c ≤ last
  | union left right, c => left.contains c || right.contains c
  | inter left right, c => left.contains c && right.contains c
  | diff left right, c => left.contains c && !right.contains c
  | symmDiff left right, c => left.contains c != right.contains c
  | compl set, c => !set.contains c
  | anyCase set, c => (forms c).any set.contains
  | anyAsciiCase set, c => (asciiForms c).any set.contains

/-- The set of one character. -/
def single (c : Char) : CharSet := range c c

/-- The union of several sets. -/
def unions (sets : List CharSet) : CharSet := sets.foldl union nothing

/-- The set of some single characters and ranges, given by their ends. -/
def ofRanges (ends : List (Char × Char)) : CharSet :=
  unions (ends.map fun (first, last) => range first last)

/-- The named classes of ASCII characters. -/
def named? : String → Option CharSet
  | "alnum" => some (ofRanges [('0', '9'), ('A', 'Z'), ('a', 'z')])
  | "alpha" => some (ofRanges [('A', 'Z'), ('a', 'z')])
  | "ascii" => some (ofRanges [('\x00', '\x7f')])
  | "blank" => some (ofRanges [('\t', '\t'), (' ', ' ')])
  | "cntrl" => some (ofRanges [('\x00', '\x1f'), ('\x7f', '\x7f')])
  | "digit" => some (ofRanges [('0', '9')])
  | "graph" => some (ofRanges [('!', '~')])
  | "lower" => some (ofRanges [('a', 'z')])
  | "print" => some (ofRanges [(' ', '~')])
  | "punct" => some (ofRanges [('!', '/'), (':', '@'), ('[', '\x60'), ('\x7b', '~')])
  | "space" => some (ofRanges [('\t', '\r'), (' ', ' ')])
  | "upper" => some (ofRanges [('A', 'Z')])
  | "word" => some (ofRanges [('0', '9'), ('A', 'Z'), ('_', '_'), ('a', 'z')])
  | "xdigit" => some (ofRanges [('0', '9'), ('A', 'F'), ('a', 'f')])
  | _ => none

/-- How many ranges a set is written with. -/
def rangeCount : CharSet → Nat
  | nothing => 0
  | range _ _ => 1
  | union left right | inter left right | diff left right | symmDiff left right =>
    left.rangeCount + right.rangeCount
  | compl set | anyCase set | anyAsciiCase set => set.rangeCount + 1

@[simp] theorem contains_single {c d : Char} : (single c).contains d = true ↔ d = c := by
  simp only [single, contains, Bool.and_eq_true, decide_eq_true_eq]
  constructor
  · rintro ⟨h, h'⟩
    exact Char.le_antisymm h' h
  · rintro rfl
    exact ⟨Char.le_refl _, Char.le_refl _⟩

end CharSet

end LabeledSeries
