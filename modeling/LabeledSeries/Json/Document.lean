import LabeledSeries.NameMap

/-!
# Documents

The JSON data model as far as this library reads and writes it, and the text of a document, compact
or indented.

A number is kept as it is written, since how it reads depends on who asks for it.  A text whose
escapes name one half of a surrogate pair without the other follows the notation but has no value;
it is read as `illFormed`, and so is an object with such a name.

## §1 Documents

## §2 Texts

Between the quotes, quotes and backslashes are escaped, the common controls by their letters and the
other controls by their code point; all other characters stand for themselves.

## §3 Documents as text
-/

namespace LabeledSeries

/-! ## §1 Documents -/

/-- A document. -/
inductive Document where
  | null
  | bool (b : Bool)
  | number (literal : String)
  | text (s : String)
  | array (items : List Document)
  | object (fields : List (String × Document))
  /-- A text, or an object one of whose names is a text, that has no value. -/
  | illFormed

namespace Document

/-- The document of a whole number. -/
def int (n : Int) : Document := .number (toString n)

/-- The document of a map from names to texts, in name order. -/
def ofTexts (texts : NameMap String) : Document :=
  .object (texts.entries.map (fun (name, value) => (name, .text value)))

/-! ## §2 Texts -/

/-- A hexadecimal digit in lower case. -/
def hexDigit (n : Nat) : Char := Nat.digitChar n

/-- How one character of a text is written. -/
def escapeChar (c : Char) : List Char :=
  if c = '"' then ['\\', '"']
  else if c = '\\' then ['\\', '\\']
  else if c.toNat = 0x08 then ['\\', 'b']
  else if c.toNat = 0x0C then ['\\', 'f']
  else if c = '\n' then ['\\', 'n']
  else if c = '\r' then ['\\', 'r']
  else if c = '\t' then ['\\', 't']
  else if c.toNat < 0x20 then
    ['\\', 'u', '0', '0', hexDigit (c.toNat / 16), hexDigit (c.toNat % 16)]
  else [c]

/-- A text between quotes. -/
def writeText (s : String) : List Char := '"' :: s.toList.flatMap escapeChar ++ ['"']

/-! ## §3 Documents as text -/

mutual

/-- A document without blanks. -/
def compact : Document → List Char
  | .null => "null".toList
  | .bool b => if b then "true".toList else "false".toList
  | .number literal => literal.toList
  | .text s => writeText s
  | .array items => '[' :: compactItems items ++ [']']
  | .object fields => '\x7b' :: compactFields fields ++ ['\x7d']
  | .illFormed => "null".toList

/-- Items with commas between them. -/
def compactItems : List Document → List Char
  | [] => []
  | [item] => compact item
  | item :: next :: items => compact item ++ ',' :: compactItems (next :: items)

/-- Fields with commas between them. -/
def compactFields : List (String × Document) → List Char
  | [] => []
  | [(name, value)] => writeText name ++ ':' :: compact value
  | (name, value) :: next :: fields =>
    writeText name ++ ':' :: compact value ++ ',' :: compactFields (next :: fields)

end

/-- A new line, indented by two blanks for each level. -/
def newLine (level : Nat) : List Char := '\n' :: List.replicate (2 * level) ' '

mutual

/-- A document with each item and field on a line of its own, inside a number of levels. -/
def indented (level : Nat) : Document → List Char
  | .array [] => ['[', ']']
  | .array (item :: items) =>
    '[' :: indentedItems (level + 1) (item :: items) ++ newLine level ++ [']']
  | .object [] => ['\x7b', '\x7d']
  | .object (field :: fields) =>
    '\x7b' :: indentedFields (level + 1) (field :: fields) ++ newLine level ++ ['\x7d']
  | other => compact other

/-- Items, each after a new line, with commas between them. -/
def indentedItems (level : Nat) : List Document → List Char
  | [] => []
  | [item] => newLine level ++ indented level item
  | item :: next :: items =>
    newLine level ++ indented level item ++ ',' :: indentedItems level (next :: items)

/-- Fields, each after a new line, with commas between them. -/
def indentedFields (level : Nat) : List (String × Document) → List Char
  | [] => []
  | [(name, value)] => newLine level ++ writeText name ++ ':' :: ' ' :: indented level value
  | (name, value) :: next :: fields =>
    newLine level ++ writeText name ++ ':' :: ' ' :: indented level value ++
      ',' :: indentedFields level (next :: fields)

end

/-- A document as compact text. -/
def compactText (document : Document) : String := String.ofList document.compact

/-- A document as indented text. -/
def indentedText (document : Document) : String := String.ofList (document.indented 0)

end Document

end LabeledSeries
