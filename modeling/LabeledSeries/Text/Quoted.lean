import LabeledSeries.Text.Printable

/-!
# Quoted text in diagnostics

Messages show a text between double quotes.  The quote and the backslash are escaped, as are tab,
line feed, carriage return and the null character by their short names; every other character that
is not printable, or that would be drawn onto its neighbour, is written as `\u` and its code point
in braces, in lower-case hexadecimal without leading zeros.  All else stands for itself.
-/

namespace LabeledSeries.Text

/-- The code point of a character in braces, after `\u`. -/
def codePointEscape (c : Char) : List Char :=
  '\\' :: 'u' :: '\x7b' :: Nat.toDigits 16 c.toNat ++ ['\x7d']

/-- How one character is shown between the quotes. -/
def quoteChar (c : Char) : List Char :=
  if c = '"' then ['\\', '"']
  else if c = '\\' then ['\\', '\\']
  else if c = '\t' then ['\\', 't']
  else if c = '\n' then ['\\', 'n']
  else if c = '\r' then ['\\', 'r']
  else if c.toNat = 0 then ['\\', '0']
  else if extendsGrapheme c || !isPrintable c then codePointEscape c
  else [c]

/-- A text between double quotes, with what cannot be shown escaped. -/
def quoted (text : String) : String :=
  String.ofList ('"' :: text.toList.flatMap quoteChar ++ ['"'])

/-- A list of texts in braces, each quoted and separated by a comma and a blank. -/
def quotedSet (texts : List String) : String :=
  "\x7b" ++ ", ".intercalate (texts.map quoted) ++ "\x7d"

end LabeledSeries.Text
