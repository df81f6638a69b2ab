import LabeledSeries.Json.Decoding
import LabeledSeries.Rule.Record

/-!
# Rules as documents

Rules, groups and named groups are objects with their fields in declared order.  Empty filters,
labels, tags and identifiers are left out, and are the defaults when a document is read; the rules
of a group and the groups of a collection default to none, but are always written.
-/

namespace LabeledSeries

/-- A field, left out where it has nothing to say. -/
def Document.fieldUnless (isDefault : Bool) (name : String) (value : Document) :
    List (String × Document) :=
  if isDefault then [] else [(name, value)]

/-- The document of a rule. -/
def RecordRule.document (rule : RecordRule) : Document :=
  .object ([("record", .text rule.record), ("expr", .text rule.expr)] ++
    Document.fieldUnless rule.filters.isEmpty "filters" (.array (rule.filters.map .text)) ++
    Document.fieldUnless rule.labels.isEmpty "labels" (.ofTexts rule.labels))

/-- The document of a group. -/
def RuleGroup.document (group : RuleGroup) : Document :=
  .object [("name", .text group.name), ("rules", .array (group.rules.map RecordRule.document))]

/-- The document of named groups. -/
def NamedGroups.document (named : NamedGroups) : Document :=
  .object (Document.fieldUnless (named.id = "") "id" (.text named.id) ++
    Document.fieldUnless named.tags.isEmpty "tags" (.ofTexts named.tags) ++
    [("groups", .array (named.groups.map RuleGroup.document))])

/-- The rule of a document. -/
def RecordRule.ofDocument? (document : Document) : Option RecordRule := do
  match ← document.record? ["record", "expr", "filters", "labels"] with
  | [record, expr, filters, labels] =>
    return {
      record := ← Document.required? Document.text? record
      expr := ← Document.required? Document.text? expr
      filters := ← Document.withDefault? [] (Document.list? Document.text?) filters
      labels := ← Document.withDefault? NameMap.empty Document.texts? labels }
  | _ => none

/-- The group of a document. -/
def RuleGroup.ofDocument? (document : Document) : Option RuleGroup := do
  match ← document.record? ["name", "rules"] with
  | [name, rules] =>
    return {
      name := ← Document.required? Document.text? name
      rules := ← Document.withDefault? [] (Document.list? RecordRule.ofDocument?) rules }
  | _ => none

/-- The named groups of a document. -/
def NamedGroups.ofDocument? (document : Document) : Option NamedGroups := do
  match ← document.record? ["id", "tags", "groups"] with
  | [id, tags, groups] =>
    return {
      id := ← Document.withDefault? "" Document.text? id
      tags := ← Document.withDefault? NameMap.empty Document.texts? tags
      groups := ← Document.withDefault? [] (Document.list? RuleGroup.ofDocument?) groups }
  | _ => none

end LabeledSeries
