import LabeledSeries.Json.Document
import LabeledSeries.Text.Digit

/-!
# Reading documents

The grammar of JSON over a list of characters.  Every reader takes a text and gives what it read
with the rest of the text; `Document.read?` reads a whole text, blanks around it aside.

## §1 Texts

The characters between the quotes are read as units, a unit being a character or the number of a
`\u` escape; a leading and a trailing half of a surrogate pair then make one character.

## §2 Numbers

## §3 Documents

Arrays and objects nest, so their readers call each other.  Every second
call takes a character, so twice the length of the text is fuel enough.
-/

namespace LabeledSeries

namespace Document

/-! ## §1 Texts -/

/-- What stands for a character between quotes: itself, or an escape that gives a code unit. -/
inductive TextUnit where
  | char (c : Char)
  | code (n : Nat)
  deriving Repr, DecidableEq

/-- The number that four hexadecimal digits write. -/
def hexUnit? (a b c d : Char) : Option Nat := do
  let w ← Text.hexValue? a
  let x ← Text.hexValue? b
  let y ← Text.hexValue? c
  let z ← Text.hexValue? d
  return ((w * 16 + x) * 16 + y) * 16 + z

/-- The character of a one-letter escape. -/
def shortEscape? (c : Char) : Option Char :=
  if c = '"' ∨ c = '\\' ∨ c = '/' then some c
  else if c = 'b' then some '\x08'
  else if c = 'f' then some '\x0c'
  else if c = 'n' then some '\n'
  else if c = 'r' then some '\r'
  else if c = 't' then some '\t'
  else none

/-- The units up to the closing quote, and the rest after it. -/
def readUnits : List Char → Option (List TextUnit × List Char)
  | [] => none
  | '"' :: rest => some ([], rest)
  | '\\' :: 'u' :: a :: b :: c :: d :: rest => do
    let n ← hexUnit? a b c d
    let (units, rest) ← readUnits rest
    return (.code n :: units, rest)
  | '\\' :: c :: rest => do
    let c ← shortEscape? c
    let (units, rest) ← readUnits rest
    return (.char c :: units, rest)
  | c :: rest =>
    -- Characters below the blank stand between quotes only as escapes.
    if c.toNat < 0x20 ∨ c = '\\' then none
    else do
      let (units, rest) ← readUnits rest
      return (.char c :: units, rest)

/-- The characters of a list of units, if every half of a surrogate pair has the other half. -/
def joinUnits? : List TextUnit → Option (List Char)
  | [] => some []
  | .char c :: units => (joinUnits? units).map (c :: ·)
  | .code high :: .code low :: units =>
    if 0xD800 ≤ high ∧ high < 0xDC00 then
      if 0xDC00 ≤ low ∧ low < 0xE000 then
        (joinUnits? units).map
          (Char.ofNat (0x10000 + (high - 0xD800) * 0x400 + (low - 0xDC00)) :: ·)
      else none
    -- The first half of a pair stands before the second, so a second half here is alone.
    else if 0xDC00 ≤ high ∧ high < 0xE000 then none
    else (joinUnits? (.code low :: units)).map (Char.ofNat high :: ·)
  | .code n :: units =>
    if 0xD800 ≤ n ∧ n < 0xE000 then none else (joinUnits? units).map (Char.ofNat n :: ·)

/-- The text up to the closing quote, `none` where it has no value, and the rest after it. -/
def readText (text : List Char) : Option (Option String × List Char) :=
  (readUnits text).map fun (units, rest) => ((joinUnits? units).map String.ofList, rest)

/-! ## §2 Numbers -/

/-- The digits at the start of a text, at least one, and the rest. -/
def readDigits (text : List Char) : Option (List Char × List Char) :=
  let digits := text.takeWhile Char.isDigit
  if digits.isEmpty then none else some (digits, text.dropWhile Char.isDigit)

/-- A point and the digits after it, or nothing. -/
def readFraction : List Char → Option (List Char × List Char)
  | '.' :: rest => (readDigits rest).map fun (digits, rest) => ('.' :: digits, rest)
  | rest => some ([], rest)

/-- An exponent: a letter `e`, an optional sign and digits; or nothing. -/
def readExponent : List Char → Option (List Char × List Char)
  | [] => some ([], [])
  | c :: rest =>
    if c = 'e' ∨ c = 'E' then
      match rest with
      | [] => none
      | sign :: digits =>
        if sign = '+' ∨ sign = '-' then
          (readDigits digits).map fun (digits, rest) => (c :: sign :: digits, rest)
        else (readDigits rest).map fun (digits, rest) => (c :: digits, rest)
    else some ([], c :: rest)

/-- A number without its sign: no zero before another digit, and digits on both sides of a point. -/
def readMagnitude (text : List Char) : Option (List Char × List Char) := do
  let (whole, rest) ← readDigits text
  -- A zero in front stands for itself and begins no number.
  if whole.length ≠ 1 ∧ whole.head? = some '0' then none
  else
    let (fraction, rest) ← readFraction rest
    let (exponent, rest) ← readExponent rest
    return (whole ++ fraction ++ exponent, rest)

/-- A number. -/
def readNumber : List Char → Option (Document × List Char)
  | '-' :: rest => (readMagnitude rest).map fun (digits, rest) =>
    (.number (String.ofList ('-' :: digits)), rest)
  | rest => (readMagnitude rest).map fun (digits, rest) => (.number (String.ofList digits), rest)

/-! ## §3 Documents -/

/-- Whether a character is a blank between the parts of a document. -/
def isSpace (c : Char) : Bool := c == ' ' || c == '\n' || c == '\t' || c == '\r'

/-- A text without the blanks at its start. -/
def skipSpace (text : List Char) : List Char := text.dropWhile isSpace

/-- The object of a list of fields, unless a name has no value. -/
def ofFields (fields : List (Option String × Document)) : Document :=
  match fields.mapM (fun (name, value) => name.map (fun name => (name, value))) with
  | some fields => .object fields
  | none => .illFormed

/-- The rest of a text after a word, if the text starts with it. -/
def afterWord (word : String) (text : List Char) : Option (List Char) :=
  if word.toList.isPrefixOf text then some (text.drop word.length) else none

mutual

/-- The document at the start of a text. -/
def readValue : Nat → List Char → Option (Document × List Char)
  | 0, _ => none
  | fuel + 1, input =>
    match skipSpace input with
    | [] => none
    | '"' :: rest => (readText rest).map fun (s, rest) =>
      -- A text whose escapes are half of a pair can be read, and has no value.
      (match s with
        | some s => .text s
        | none => .illFormed, rest)
    | '[' :: rest =>
      match skipSpace rest with
      | ']' :: rest => some (.array [], rest)
      | rest => (readItems fuel rest).map fun (items, rest) => (.array items, rest)
    | '\x7b' :: rest =>
      match skipSpace rest with
      | '\x7d' :: rest => some (.object [], rest)
      | rest => (readFields fuel rest).map fun (fields, rest) => (ofFields fields, rest)
    | 'n' :: rest => (afterWord "ull" rest).map fun rest => (.null, rest)
    | 't' :: rest => (afterWord "rue" rest).map fun rest => (.bool true, rest)
    | 'f' :: rest => (afterWord "alse" rest).map fun rest => (.bool false, rest)
    | rest => readNumber rest

/-- The items of an array up to its closing bracket, at least one. -/
def readItems : Nat → List Char → Option (List Document × List Char)
  | 0, _ => none
  | fuel + 1, input => do
    let (item, rest) ← readValue fuel input
    match skipSpace rest with
    | ']' :: rest => return ([item], rest)
    | ',' :: rest =>
      let (items, rest) ← readItems fuel rest
      return (item :: items, rest)
    | _ => none

/-- The fields of an object up to its closing brace, at least one. -/
def readFields : Nat → List Char → Option (List (Option String × Document) × List Char)
  | 0, _ => none
  | fuel + 1, input =>
    match skipSpace input with
    | '"' :: rest => do
      let (name, rest) ← readText rest
      match skipSpace rest with
      | ':' :: rest =>
        let (value, rest) ← readValue fuel rest
        match skipSpace rest with
        | '\x7d' :: rest => return ([(name, value)], rest)
        | ',' :: rest =>
          let (fields, rest) ← readFields fuel rest
          return ((name, value) :: fields, rest)
        | _ => none
      | _ => none
    | _ => none

end

/-- The document that a text writes. -/
def read? (input : String) : Option Document := do
  let chars := input.toList
  let (document, rest) ← readValue (2 * chars.length + 2) chars
  if (skipSpace rest).isEmpty then some document else none

end Document

end LabeledSeries
