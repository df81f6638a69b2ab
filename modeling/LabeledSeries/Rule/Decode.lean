import LabeledSeries.Rule.Filter
import LabeledSeries.Encoding.Base64

/-!
# Decoding labels

Label values can be shipped in a label-safe base64 under names that end in `_b64`: optionally with
`b64` in front and one `0` behind, and with `-`, `_` and `.` for the digits that labels cannot hold,
a blank being another way to write the first.  The filter puts the decoded text under the plain name
in place of the encoded one, and leaves what does not decode.
-/

namespace LabeledSeries.Decode

/-- The ending of the names of encoded labels. -/
def ending : String := "_b64"

/-- The standard digit of a label-safe one. -/
def standardDigit (c : Char) : Char :=
  if c = '-' ∨ c = ' ' then '+'
  else if c = '_' then '/'
  else if c = '.' then '='
  else c

/-- A text without `b64` in front and without one `0` behind. -/
def bare (text : List Char) : List Char :=
  let text := match text with
    | 'b' :: '6' :: '4' :: rest => rest
    | other => other
  if text.getLast? = some '0' then text.dropLast else text

/-- The text that a value encodes, if it encodes any. -/
def decode (value : String) : Option String := do
  let bytes ← Encoding.base64Decode ((bare value.toList).map standardDigit)
  Encoding.utf8Text? bytes

/-- The plain name of an encoded label. -/
def plainName? (name : String) : Option String :=
  match Text.beforeTrailing ending name with
  | some plain => if plain = "" then none else some plain
  | none => none

/-- The encoded labels of a label set under their plain names. -/
def encoded (labels : Labels) : List (String × String × String) :=
  labels.entries.filterMap fun (name, value) =>
    (plainName? name).map fun plain => (name, plain, value)

/-- Replace one encoded label by the plain one. -/
def replace (labels : Labels) (name plain value : String) : Labels :=
  match decode value with
  | some text => Labels.assign (labels.erase name) plain text
  | none => labels

/-- Replace every label that was encoded at the start. -/
def decodeAll (labels : Labels) : Labels :=
  (encoded labels).foldl (fun result (name, plain, value) => replace result name plain value) labels

/-- The filter that decodes labels. -/
def filter : Filter := .asking fun _ labels => return (decodeAll labels, true)

end LabeledSeries.Decode
