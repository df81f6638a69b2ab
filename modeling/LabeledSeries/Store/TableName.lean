import LabeledSeries.Text.Blank
import LabeledSeries.Text.Letter

/-!
# Names of tables

A table is registered and looked up by a name in the notation of SQL: words or quoted texts,
separated by periods, of which the last names the table and those before it its schema and its
catalog.  The case of an unquoted word does not matter.  A text that does not follow the notation is
the name of a table as it stands.
-/

namespace LabeledSeries

/-- A table by its schema and its name there. -/
structure TableName where
  catalog : String
  schema : String
  name : String
  deriving Repr, DecidableEq

namespace TableName

/-- The catalog that is meant where none is named. -/
def homeCatalog : String := "datafusion"

/-- The schema that is meant where none is named. -/
def homeSchema : String := "public"

/-- Whether a character can begin an unquoted word. -/
def startsWord (c : Char) : Bool := Text.isLetter c || c == '_' || c == '#' || c == '@'

/-- Whether a character can continue an unquoted word. -/
def continuesWord (c : Char) : Bool := startsWord c || c.isDigit || c == '$'

/-- A quoted word up to its closing quote; a quote inside is written twice. -/
def quotedWord (quote : Char) : List Char → Option (List Char × List Char)
  | [] => none
  | [c] => if c = quote then some ([], []) else none
  | c :: d :: rest =>
    if c ≠ quote then (quotedWord quote (d :: rest)).map fun (word, rest) => (c :: word, rest)
    else if d = quote then (quotedWord quote rest).map fun (word, rest) => (quote :: word, rest)
    else some ([], d :: rest)

/-- One word in the case that counts. -/
def word : List Char → Option (String × List Char)
  | [] => none
  | c :: rest =>
    if c = '"' ∨ c = '\x60' then
      (quotedWord c rest).map fun (word, rest) => (String.ofList word, rest)
    else if startsWord c then
      let tail := rest.takeWhile continuesWord
      some (String.ofList ((c :: tail).map Char.toLower), rest.drop tail.length)
    else none

/-- Words with periods between them, and blanks anywhere between the two.  `fuel` is more than the
    length of the text. -/
def words : Nat → List Char → Option (List String)
  | 0, _ => none
  | fuel + 1, text => do
    let (first, rest) ← word (text.dropWhile Text.isBlank)
    match rest.dropWhile Text.isBlank with
    | [] => return [first]
    | '.' :: rest => return first :: (← words fuel rest)
    | _ => none

/-- The table that a text names. -/
def ofText (text : String) : TableName :=
  match words (text.toList.length + 1) text.toList with
  | some [name] => ⟨homeCatalog, homeSchema, name⟩
  | some [schema, name] => ⟨homeCatalog, schema, name⟩
  | some [catalog, schema, name] => ⟨catalog, schema, name⟩
  | _ => ⟨homeCatalog, homeSchema, text⟩

/-- Whether a table lies in the schema that exists. -/
def isHome (name : TableName) : Bool := name.catalog == homeCatalog && name.schema == homeSchema

end TableName

end LabeledSeries
