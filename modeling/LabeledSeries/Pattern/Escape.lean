import LabeledSeries.Pattern.Basic
import LabeledSeries.Text.Blank
import LabeledSeries.Text.Digit

/-!
# Characters written in patterns

Every function here takes the rest of a pattern and returns what it has read with the rest after it,
or nothing if the text is not well-formed.  The modes of a pattern say what its characters mean; in
the spaced mode blanks and comments may stand between them.
-/

namespace LabeledSeries.Pattern

/-- What the characters of a pattern mean. -/
structure Modes where
  /-- Letters match in any case. -/
  anyCase : Bool := false
  /-- The ends of lines count as ends of the text. -/
  lines : Bool := false
  /-- A full stop matches line ends too. -/
  dotAll : Bool := false
  /-- Carriage returns end lines. -/
  returns : Bool := false
  /-- Repetitions prefer few rounds, which never changes what matches. -/
  brief : Bool := false
  /-- Characters are those of every script, not of ASCII. -/
  unicode : Bool := true
  /-- Blanks and comments are skipped. -/
  spaced : Bool := false
  deriving Repr, DecidableEq

/-- A text without the blanks and the comments in front of it, where a comment runs from a hash to
    the end of its line.  The flag says whether the text starts inside a comment. -/
def skipComments : Bool → List Char → List Char
  | _, [] => []
  | true, c :: rest => skipComments (c != '\n') rest
  | false, c :: rest =>
    if Text.isBlank c then skipComments false rest
    else if c = '#' then skipComments true rest
    else c :: rest

/-- The text from the next character that counts. -/
def Modes.skip (modes : Modes) (rest : List Char) : List Char :=
  if modes.spaced then skipComments false rest else rest

/-- The character after the next one, for telling whether a hyphen makes a range.  In the spaced
    mode blanks do not count, and the first hash does not. -/
def Modes.peek (modes : Modes) (rest : List Char) : Option Char :=
  let rest := rest.tail
  if modes.spaced then
    match rest.dropWhile Text.isBlank with
    | '#' :: after => ((after.dropWhile Text.isBlank).head? <|> rest.head?)
    | c :: _ => some c
    | [] => rest.head?
  else rest.head?

/-- A code point as a character, if it is one. -/
def charOfCode? (code : Nat) : Option Char :=
  if code.isValidChar then some (Char.ofNat code) else none

/-- Exactly so many hexadecimal digits. -/
def hexDigits (modes : Modes) : Nat → Nat → List Char → Option (Nat × List Char)
  | 0, value, rest => some (value, rest)
  | _ + 1, _, [] => none
  | count + 1, value, c :: rest => do
    hexDigits modes count (value * 16 + (← Text.hexValue? c)) (modes.skip rest)

/-- Hexadecimal digits up to a closing brace, which must follow at least one of them.  `fuel` is at
    least the length of the text. -/
def bracedHex (modes : Modes) : Nat → (value : Nat) → (any : Bool) → List Char →
    Option (Nat × List Char)
  | 0, _, _, _ => none
  | fuel + 1, value, any, rest =>
    match modes.skip rest with
    | '\x7d' :: rest => if any then some (value, modes.skip rest) else none
    | c :: rest => do bracedHex modes fuel (value * 16 + (← Text.hexValue? c)) true rest
    | [] => none

/-- A character that a backslash introduces. -/
inductive Escape where
  | char (c : Char)
  /-- A character given by the two digits of its code, which stands for a single byte where
      characters are those of ASCII. -/
  | byte (c : Char)
  | edge (edge : WordEdge)
  deriving Repr, DecidableEq

/-- The edges of words that have a name. -/
def namedEdge? : String → Option WordEdge
  | "start" => some .start
  | "end" => some .stop
  | "start-half" => some .startHalf
  | "end-half" => some .stopHalf
  | _ => none

/-- Whether a character can stand in the name of an edge. -/
def isEdgeChar (c : Char) : Bool := c.isAlpha || c == '-'

/-- The name of an edge up to the closing brace.  `fuel` is at least the length of the text. -/
def edgeName (modes : Modes) : Nat → (name : String) → List Char → Option (String × List Char)
  | 0, _, _ => none
  | fuel + 1, name, rest =>
    match rest with
    | '\x7d' :: rest => some (name, rest)
    | c :: rest =>
      if isEdgeChar c then edgeName modes fuel (name.push c) (modes.skip rest) else none
    | [] => none

/-- The edge of a word, after its letter.  A brace belongs to it if a name can begin there, and is
    the start of a repetition otherwise. -/
def wordEdge (modes : Modes) (rest : List Char) : Option (WordEdge × List Char) :=
  match rest with
  | '\x7b' :: inner =>
    match modes.skip inner with
    | [] => none
    | c :: more =>
      if isEdgeChar c then do
        let (name, rest) ← edgeName modes (more.length + 2) "" (c :: more)
        return (← namedEdge? name, rest)
      else some (.either, rest)
  | _ => some (.either, rest)

/-- A character by its hexadecimal code: in braces, or with the given number of digits. -/
def hexEscape (modes : Modes) (digits : Nat) (rest : List Char) : Option (Escape × List Char) := do
  match modes.skip rest with
  | '\x7b' :: inner =>
    let (code, rest) ← bracedHex modes (inner.length + 1) 0 false inner
    return (.char (← charOfCode? code), rest)
  | rest =>
    let (code, rest) ← hexDigits modes digits 0 rest
    let c ← charOfCode? code
    return (if digits = 2 then .byte c else .char c, rest)

/-- The character that a letter after a backslash stands for. -/
def control? : Char → Option Char
  | 'a' => some '\x07'
  | 'f' => some '\x0c'
  | 't' => some '\t'
  | 'n' => some '\n'
  | 'r' => some '\r'
  | 'v' => some '\x0b'
  | _ => none

/-- Whether a backslash before the character makes it stand for itself: any mark of ASCII, angle
    brackets apart. -/
def isMark (c : Char) : Bool :=
  c.toNat < 128 && !c.isAlphanum && c != '<' && c != '>'

/-- What follows a backslash.  A digit would refer to a group and is refused. -/
def escape (modes : Modes) : List Char → Option (Escape × List Char)
  | [] => none
  | 'x' :: rest => hexEscape modes 2 rest
  | 'u' :: rest => hexEscape modes 4 rest
  | 'U' :: rest => hexEscape modes 8 rest
  | 'b' :: rest => (wordEdge modes rest).map fun (edge, rest) => (.edge edge, rest)
  | c :: rest =>
    if isMark c then some (.char c, rest) else (control? c).map fun c => (.char c, rest)

end LabeledSeries.Pattern
