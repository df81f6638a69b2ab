import LabeledSeries.Json.Reader

/-!
# Decoding documents

Readers of typed records from documents.  A record with named fields may be written as an object or
as an array of its fields in order.  In an object unknown fields are ignored and known ones may not
be repeated; an array may leave out fields at its end.  A field that is left out has to have a
default, and `null` is never one.
-/

namespace LabeledSeries.Document

/-- The text of a document. -/
def text? : Document → Option String
  | .text s => some s
  | _ => none

/-- The items of a document. -/
def items? : Document → Option (List Document)
  | .array items => some items
  | _ => none

/-- The items of a document, each decoded. -/
def list? {α : Type} (item? : Document → Option α) (document : Document) : Option (List α) := do
  (← document.items?).mapM item?

/-- The texts of a document by name; a later field replaces an earlier one. -/
def texts? : Document → Option (NameMap String)
  | .object fields => do
    let entries ← fields.mapM (fun (name, value) => (text? value).map (fun s => (name, s)))
    return NameMap.ofList entries
  | _ => none

/-- The document of a name among fields in which it may occur once: an outer `none` where it occurs
    more often, an inner one where it does not occur. -/
def onlyField? (name : String) (fields : List (String × Document)) : Option (Option Document) :=
  match fields.filter (fun field => field.1 = name) with
  | [] => some none
  | [field] => some (some field.2)
  | _ => none

/-- The documents of the fields of a record, in the order of their names. -/
def record? (names : List String) : Document → Option (List (Option Document))
  | .object fields => names.mapM (fun name => onlyField? name fields)
  | .array items =>
    if items.length ≤ names.length then
      some (items.map some ++ List.replicate (names.length - items.length) none)
    else none
  | _ => none

/-- A field that has to be there. -/
def required? {α : Type} (decode? : Document → Option α) (field : Option Document) : Option α :=
  field.bind decode?

/-- A field that may be left out. -/
def withDefault? {α : Type} (default : α) (decode? : Document → Option α) :
    Option Document → Option α
  | none => some default
  | some document => decode? document

end LabeledSeries.Document
