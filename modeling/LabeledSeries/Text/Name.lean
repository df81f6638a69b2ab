/-!
# Names

Label names are ASCII identifiers; the names that rules record under may also hold colons.  Besides
the two checks this module cuts a text at a separator, which is how several names are written in one
argument.
-/

namespace LabeledSeries.Text

/-- Whether a character may start a label name: an ASCII letter or the underscore. -/
def isNameStart (c : Char) : Bool := c.isAlpha || c == '_'

/-- Whether a character may continue a label name: an ASCII letter, a digit or the underscore. -/
def isNamePart (c : Char) : Bool := isNameStart c || c.isDigit

/-- Whether a list of characters is a label name. -/
def isLabelNameChars : List Char → Bool
  | [] => false
  | c :: rest => isNameStart c && rest.all isNamePart

/-- Whether a text is a label name: a letter or underscore, then letters, digits and underscores. -/
def isLabelName (name : String) : Bool := isLabelNameChars name.toList

/-- Whether a text can name a recorded series: a label name in which colons count as letters. -/
def isRecordName (name : String) : Bool :=
  match name.toList with
  | [] => false
  | c :: rest => (isNameStart c || c == ':') && rest.all (fun c => isNamePart c || c == ':')

/-- The pieces of a text between the occurrences of a separator; there is one more piece than there
    are separators. -/
def piecesOfChars (separator : Char) : List Char → List (List Char)
  | [] => [[]]
  | c :: rest =>
    if c = separator then [] :: piecesOfChars separator rest
    else match piecesOfChars separator rest with
      | [] => [[c]]
      | piece :: pieces => (c :: piece) :: pieces

/-- The pieces of a text between the occurrences of a separator. -/
def pieces (separator : Char) (text : String) : List String :=
  (piecesOfChars separator text.toList).map String.ofList

/-- The rest of a text after a leading part, if the text starts with it. -/
def afterLeading (leading text : String) : Option String :=
  if leading.toList.isPrefixOf text.toList then
    some (String.ofList (text.toList.drop leading.toList.length))
  else none

/-- The start of a text before a trailing part, if the text ends with it. -/
def beforeTrailing (trailing text : String) : Option String :=
  if trailing.toList.isSuffixOf text.toList then
    some (String.ofList (text.toList.take (text.toList.length - trailing.toList.length)))
  else none

/-- Whether a text ends with another one. -/
def endsIn (text trailing : String) : Bool := trailing.toList.isSuffixOf text.toList

/-- The bytes of a text in UTF-8. -/
def utf8Bytes (text : String) : List UInt8 := text.toList.flatMap String.utf8EncodeChar

end LabeledSeries.Text
