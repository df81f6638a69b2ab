import LabeledSeries.Json.Rules
import LabeledSeries.Proofs.Json.RoundTrip
import LabeledSeries.Proofs.Rule.DerivedMark

/-!
# Stored rules

Rules and named groups are stored as documents and read back from them.  A field without content is
not written, and where a field is missing its default is read.

§1 A record is read back field by field, if no two fields have one name
(`Document.record?_written`).  A field may be left out where its default is what it holds
(`Document.withDefault?_omitIf`).

§2 The documents of rules, groups and named groups.  Tags have no order of their own, so they may be
written in any.

§3 Rules that were marked, which differ in one label from what they were.

§4 Reading rules and groups from text (`NamedGroups.read?_stored`).
-/

namespace LabeledSeries

namespace Document

/-! ## §1 Records -/

private theorem mapM_map_eq_some {α β γ : Type} {decode? : β → Option γ} {encode : α → β}
    {value : α → γ} {list : List α} (h : ∀ a ∈ list, decode? (encode a) = some (value a)) :
    (list.map encode).mapM decode? = some (list.map value) := by
  induction list with
  | nil => rfl
  | cons a list ih =>
    obtain ⟨ha, hrest⟩ := List.forall_mem_cons.mp h
    rw [List.map_cons, List.mapM_cons, ha, ih hrest]
    rfl

/-- A list is read back where its items are. -/
theorem list?_array {α : Type} {decode? : Document → Option α} {encode : α → Document}
    {list : List α} (h : ∀ a ∈ list, decode? (encode a) = some a) :
    Document.list? decode? (.array (list.map encode)) = some list := by
  have hitems : (list.map encode).mapM decode? = some (list.map id) := mapM_map_eq_some h
  rw [List.map_id] at hitems
  exact hitems

/-- The object of texts by name, in some order. -/
def ofEntries (entries : List (String × String)) : Document :=
  .object (entries.map fun entry => (entry.1, .text entry.2))

theorem texts?_ofEntries (entries : List (String × String)) :
    texts? (ofEntries entries) = some (NameMap.ofList entries) := by
  have hentries : (entries.map fun entry => (entry.1, Document.text entry.2)).mapM
      (fun field => (text? field.2).map fun s => (field.1, s)) = some (entries.map id) :=
    mapM_map_eq_some fun _ _ => rfl
  rw [List.map_id] at hentries
  exact congrArg (Option.bind · fun entries => some (NameMap.ofList entries)) hentries

/-- The fields of a record that are written, in order. -/
def written (fields : List (String × Option Document)) : List (String × Document) :=
  fields.filterMap fun (name, value) => value.map fun value => (name, value)

/-- What stands for a field that is left out where it has its default. -/
def omitIf (isDefault : Bool) (value : Document) : Option Document :=
  if isDefault then none else some value

theorem fieldUnless_eq_written (isDefault : Bool) (name : String) (value : Document) :
    fieldUnless isDefault name value = written [(name, omitIf isDefault value)] := by
  cases isDefault <;> rfl

theorem written_append (fields fields' : List (String × Option Document)) :
    written fields ++ written fields' = written (fields ++ fields') :=
  (List.filterMap_append ..).symm

private theorem filter_written_of_not_mem {fields : List (String × Option Document)}
    {name : String} (h : name ∉ fields.map Prod.fst) :
    (written fields).filter (fun field => field.1 = name) = [] := by
  rw [List.filter_eq_nil_iff]
  intro field hfield
  -- A field that is written has the name that it has in the list.
  obtain ⟨⟨other, value⟩, hmem, hvalue⟩ := List.mem_filterMap.mp hfield
  obtain ⟨document, -, rfl⟩ := Option.map_eq_some_iff.mp hvalue
  simpa using fun heq : other = name => h (heq ▸ List.mem_map_of_mem hmem)

/-- Among fields of different names each is found under its own, or found to be left out. -/
theorem onlyField?_written {fields : List (String × Option Document)}
    (hnames : (fields.map Prod.fst).Nodup) :
    ∀ field ∈ fields, onlyField? field.1 (written fields) = some field.2 := by
  induction fields with
  | nil => simp
  | cons first fields ih =>
    obtain ⟨hnew, hrest⟩ := List.nodup_cons.mp hnames
    intro field hfield
    -- Looking for a field goes through the first one and then through the others.
    have hsplit : written (first :: fields) = written [first] ++ written fields :=
      (written_append [first] fields).symm
    rw [onlyField?, hsplit, List.filter_append]
    rcases List.mem_cons.mp hfield with rfl | hmem
    · -- No later field has the name of the first one.
      rw [filter_written_of_not_mem hnew, List.append_nil]
      obtain ⟨name, value⟩ := field
      cases value <;> simp [written]
    · have hne : field.1 ∉ [first].map Prod.fst := by
        simpa using fun heq : field.1 = first.1 => hnew (heq ▸ List.mem_map_of_mem hmem)
      rw [filter_written_of_not_mem hne, List.nil_append]
      exact ih hrest field hmem

/-- **Records are read back**: from the object of a record its fields are read in their order, those
    that are left out as such. -/
theorem record?_written {fields : List (String × Option Document)}
    (hnames : (fields.map Prod.fst).Nodup) :
    record? (fields.map Prod.fst) (.object (written fields)) = some (fields.map Prod.snd) :=
  mapM_map_eq_some (onlyField?_written hnames)

/-- A field is read back, whether it is written or not, where it is left out for its default
    only. -/
theorem withDefault?_omitIf {α : Type} {decode? : Document → Option α} {value default : α}
    {document : Document} {isDefault : Bool} (hdefault : isDefault = true → value = default)
    (hdecode : decode? document = some value) :
    withDefault? default decode? (omitIf isDefault document) = some value := by
  cases isDefault with
  | false => exact hdecode
  -- A field with its default is left out and read as the default.
  | true => rw [hdefault rfl]; rfl

/-! ### What is written -/

theorem Textual.written {fields : List (String × Option Document)}
    (h : ∀ field ∈ fields, ∀ document ∈ field.2, document.Textual) :
    (Document.object (written fields)).Textual := by
  refine .object fun field hfield => ?_
  -- Only what is written has to be text, which leaves the fields that have a value.
  obtain ⟨⟨name, value⟩, hmem, hvalue⟩ := List.mem_filterMap.mp hfield
  obtain ⟨document, hdocument, rfl⟩ := Option.map_eq_some_iff.mp hvalue
  exact h _ hmem document hdocument

theorem Textual.of_mem_omitIf {isDefault : Bool} {value : Document} (h : value.Textual) :
    ∀ document ∈ omitIf isDefault value, document.Textual := by
  cases isDefault with
  | false => rintro _ ⟨⟩; exact h
  | true => rintro _ ⟨⟩

theorem Textual.arrayOf {α : Type} {encode : α → Document} {list : List α}
    (h : ∀ a ∈ list, (encode a).Textual) : (Document.array (list.map encode)).Textual := by
  refine .array fun item hitem => ?_
  obtain ⟨a, ha, rfl⟩ := List.mem_map.mp hitem
  exact h a ha

theorem Textual.ofEntries (entries : List (String × String)) :
    (Document.ofEntries entries).Textual := by
  refine .object fun field hfield => ?_
  obtain ⟨entry, -, rfl⟩ := List.mem_map.mp hfield
  exact .text entry.2

end Document

/-! ## §2 Rules and groups -/

section Documents

open Document

/-- The fields of a rule. -/
def RecordRule.fields (rule : RecordRule) : List (String × Option Document) := [
  ("record", some (.text rule.record)),
  ("expr", some (.text rule.expr)),
  ("filters", omitIf rule.filters.isEmpty (.array (rule.filters.map .text))),
  ("labels", omitIf rule.labels.isEmpty (.ofTexts rule.labels))]

theorem RecordRule.document_eq (rule : RecordRule) :
    rule.document = .object (written rule.fields) := by
  rw [document, fieldUnless_eq_written, fieldUnless_eq_written]
  exact congrArg Document.object (by rw [List.append_assoc, written_append]; rfl)

theorem RecordRule.textual_document (rule : RecordRule) : rule.document.Textual := by
  rw [document_eq]
  refine .written ?_
  -- The first two fields are texts; the other two are lists and objects of texts, or left out.
  simp only [fields, List.forall_mem_cons, Option.mem_some_iff, forall_eq']
  exact ⟨.text _, .text _, .of_mem_omitIf (.arrayOf fun _ _ => .text _),
    .of_mem_omitIf (.ofEntries _), by simp⟩

/-- A rule is read back from its document. -/
theorem RecordRule.ofDocument?_document (rule : RecordRule) :
    RecordRule.ofDocument? rule.document = some rule := by
  have hfilters : withDefault? [] (Document.list? text?)
      (omitIf rule.filters.isEmpty (.array (rule.filters.map .text))) = some rule.filters :=
    withDefault?_omitIf List.isEmpty_iff.mp (list?_array fun _ _ => rfl)
  have hlabels : withDefault? NameMap.empty texts?
      (omitIf rule.labels.isEmpty (.ofTexts rule.labels)) = some rule.labels := by
    -- Labels are left out if there are none, and otherwise read back in any order.
    refine withDefault?_omitIf (fun hempty => ?_) ?_
    · exact NameMap.ext (List.isEmpty_iff.mp hempty)
    · rw [ofTexts, ← ofEntries, texts?_ofEntries, NameMap.ofList_of_perm (List.Perm.refl _)]
  -- The fields have different names, so each is read from what was written for it.
  have hnames : (rule.fields.map Prod.fst).Nodup := by simp [fields]
  have hrecord := record?_written hnames
  simp only [fields, List.map_cons, List.map_nil] at hrecord
  rw [document_eq, ofDocument?, fields]
  simp [hrecord, hfilters, hlabels, required?, text?]

/-- The fields of a group. -/
def RuleGroup.fields (group : RuleGroup) : List (String × Option Document) := [
  ("name", some (.text group.name)),
  ("rules", some (.array (group.rules.map RecordRule.document)))]

theorem RuleGroup.document_eq (group : RuleGroup) :
    group.document = .object (written group.fields) :=
  rfl

theorem RuleGroup.textual_document (group : RuleGroup) : group.document.Textual := by
  rw [document_eq]
  refine .written ?_
  simp only [fields, List.forall_mem_cons, Option.mem_some_iff, forall_eq']
  exact ⟨.text _, .arrayOf fun rule _ => rule.textual_document, by simp⟩

/-- A group is read back from its document. -/
theorem RuleGroup.ofDocument?_document (group : RuleGroup) :
    RuleGroup.ofDocument? group.document = some group := by
  have hrules : withDefault? [] (Document.list? RecordRule.ofDocument?)
      (some (.array (group.rules.map RecordRule.document))) = some group.rules :=
    list?_array fun rule _ => RecordRule.ofDocument?_document rule
  have hnames : (group.fields.map Prod.fst).Nodup := by simp [fields]
  have hrecord := record?_written hnames
  simp only [fields, List.map_cons, List.map_nil] at hrecord
  rw [document_eq, ofDocument?, fields]
  simp [hrecord, hrules, required?, text?]

/-- The fields of named groups, with their tags in some order. -/
def NamedGroups.fieldsWith (named : NamedGroups) (tags : List (String × String)) :
    List (String × Option Document) := [
  ("id", omitIf (named.id = "") (.text named.id)),
  ("tags", omitIf tags.isEmpty (.ofEntries tags)),
  ("groups", some (.array (named.groups.map RuleGroup.document)))]

/-- The document of named groups with their tags in some order. -/
def NamedGroups.documentWith (named : NamedGroups) (tags : List (String × String)) : Document :=
  .object (written (named.fieldsWith tags))

/-- In the document of named groups the tags are in the order of their names. -/
theorem NamedGroups.document_eq (named : NamedGroups) :
    named.document = named.documentWith named.tags.entries := by
  rw [document, fieldUnless_eq_written, fieldUnless_eq_written, written_append]
  exact congrArg Document.object (written_append _ [("groups", some _)])

theorem NamedGroups.textual_documentWith (named : NamedGroups) (tags : List (String × String)) :
    (named.documentWith tags).Textual := by
  refine .written ?_
  simp only [fieldsWith, List.forall_mem_cons, Option.mem_some_iff, forall_eq']
  exact ⟨.of_mem_omitIf (.text _), .of_mem_omitIf (.ofEntries _),
    .arrayOf fun group _ => group.textual_document, by simp⟩

/-- Named groups are read back from their document, in whatever order their tags are written. -/
theorem NamedGroups.ofDocument?_documentWith {named : NamedGroups} {tags : List (String × String)}
    (hperm : tags.Perm named.tags.entries) :
    NamedGroups.ofDocument? (named.documentWith tags) = some named := by
  -- The text without characters is the one that is left out.
  have hid : withDefault? "" text? (omitIf (named.id = "") (.text named.id)) = some named.id :=
    withDefault?_omitIf (fun hempty => of_decide_eq_true hempty) rfl
  have htexts : withDefault? NameMap.empty texts? (omitIf tags.isEmpty (.ofEntries tags)) =
      some named.tags := by
    refine withDefault?_omitIf (fun hempty => ?_) ?_
    · -- No tags are written just if there are none.
      rw [List.isEmpty_iff.mp hempty] at hperm
      exact NameMap.ext (List.nil_perm.mp hperm)
    · rw [texts?_ofEntries, NameMap.ofList_of_perm hperm]
  have hgroups : withDefault? [] (Document.list? RuleGroup.ofDocument?)
      (some (.array (named.groups.map RuleGroup.document))) = some named.groups :=
    list?_array fun group _ => RuleGroup.ofDocument?_document group
  have hnames : ((named.fieldsWith tags).map Prod.fst).Nodup := by simp [fieldsWith]
  have hrecord := record?_written hnames
  simp only [fieldsWith, List.map_cons, List.map_nil] at hrecord
  rw [documentWith, ofDocument?, fieldsWith]
  simp [hrecord, hid, htexts, hgroups]

end Documents

/-! ## §3 Marked rules -/

/-- Nothing but the label of the mark tells a marked rule from the rule that it was. -/
structure RecordRule.DiffersInMark (rule marked : RecordRule) : Prop where
  record_eq : marked.record = rule.record
  expr_eq : marked.expr = rule.expr
  filters_eq : marked.filters = rule.filters
  get?_labels : ∀ name, marked.labels.get? name =
    if name = derivedLabel then some derivedValue else rule.labels.get? name

/-- Nothing but the labels of marks tells marked groups from the groups that they were. -/
structure NamedGroups.DiffersInMarks (named marked : NamedGroups) : Prop where
  id_eq : marked.id = named.id
  tags_eq : marked.tags = named.tags
  groups_eq : List.Forall₂ (fun group marked => marked.name = group.name ∧
    List.Forall₂ RecordRule.DiffersInMark group.rules marked.rules) named.groups marked.groups

theorem RecordRule.differsInMark_markDerived (rule : RecordRule) :
    rule.DiffersInMark rule.markDerived where
  record_eq := rfl
  expr_eq := rfl
  filters_eq := rfl
  get?_labels name := by simp [markDerived, eq_comm]

theorem NamedGroups.differsInMarks_markDerived (named : NamedGroups) :
    named.DiffersInMarks named.markDerived where
  id_eq := rfl
  tags_eq := rfl
  groups_eq := by
    rw [markDerived, List.forall₂_map_right_iff, List.forall₂_same]
    -- Groups are marked one by one, and in each of them its rules.
    refine fun group _ => ⟨rfl, ?_⟩
    rw [List.forall₂_map_right_iff, List.forall₂_same]
    exact fun rule _ => rule.differsInMark_markDerived

/-- A marked rule is marked already. -/
theorem RecordRule.markDerived_markDerived (rule : RecordRule) :
    rule.markDerived.markDerived = rule.markDerived := by
  simp [markDerived, NameMap.insert_insert]

theorem NamedGroups.markDerived_markDerived (named : NamedGroups) :
    named.markDerived.markDerived = named.markDerived := by
  simp [markDerived, RecordRule.markDerived_markDerived]

/-! ## §4 Reading what was stored -/

/-- Named groups are read back from their compact text, also where their tags are written in another
    order. -/
def NamedGroups.IsReadBack (named : NamedGroups) : Prop :=
  (Document.read? named.document.compactText).bind NamedGroups.ofDocument? = some named ∧
    ∀ tags, tags.Perm named.tags.entries →
      (Document.read? (named.documentWith tags).compactText).bind NamedGroups.ofDocument? =
        some named

theorem RecordRule.read?_compactText (rule : RecordRule) :
    (Document.read? rule.document.compactText).bind RecordRule.ofDocument? = some rule := by
  rw [Document.read?_compactText rule.textual_document, Option.bind_some,
    RecordRule.ofDocument?_document rule]

theorem NamedGroups.isReadBack (named : NamedGroups) : named.IsReadBack := by
  have hwritten : ∀ tags, tags.Perm named.tags.entries →
      (Document.read? (named.documentWith tags).compactText).bind NamedGroups.ofDocument? =
        some named := by
    intro tags hperm
    rw [Document.read?_compactText (named.textual_documentWith tags), Option.bind_some,
      NamedGroups.ofDocument?_documentWith hperm]
  -- The document itself is the one with the tags in the order of their names.
  exact ⟨named.document_eq ▸ hwritten _ (List.Perm.refl _), hwritten⟩

/-- **Stored rules are read back**: a rule from its compact text, and named groups from theirs,
    before and after all their rules are marked.  Marking them again changes nothing, and marking
    them at all nothing but the label of the mark. -/
theorem NamedGroups.read?_stored :
    (∀ rule : RecordRule,
      (Document.read? rule.document.compactText).bind RecordRule.ofDocument? = some rule) ∧
    ∀ named : NamedGroups,
      named.IsReadBack ∧ named.markDerived.IsReadBack ∧
        named.markDerived.markDerived = named.markDerived ∧
        named.DiffersInMarks named.markDerived := by
  exact ⟨fun rule => rule.read?_compactText, fun named => ⟨named.isReadBack,
    named.markDerived.isReadBack, named.markDerived_markDerived, named.differsInMarks_markDerived⟩⟩

/-- A rule with a label of the empty name, whose value needs escapes, and a filter without a
    name. -/
def escapedRule : RecordRule where
  record := "pod:cpu"
  expr := "cpu\x7bhost=\"a\"\x7d"
  filters := ["app_label_2_ch", ""]
  labels := { entries := [("", "\\\x01\n"), ("zone", "é😀")] }

/-- Groups with that rule and with a group that has none. -/
def escapedGroups : NamedGroups where
  id := ""
  tags := { entries := [("a", "\t"), ("b", "")] }
  groups := [⟨"g", [escapedRule]⟩, ⟨"", []⟩]

/-- The rule is read back, and the groups are when the rule is marked and the tags are written the
    other way around. -/
theorem NamedGroups.read?_stored_with_escapes :
    (Document.read? escapedRule.document.compactText).bind RecordRule.ofDocument? =
        some escapedRule ∧
      (Document.read? (escapedGroups.markDerived.documentWith
        [("b", ""), ("a", "\t")]).compactText).bind NamedGroups.ofDocument? =
          some escapedGroups.markDerived := by
  have horder : [("b", ""), ("a", "\t")].Perm escapedGroups.markDerived.tags.entries :=
    List.Perm.swap ..
  exact ⟨NamedGroups.read?_stored.1 _, (NamedGroups.read?_stored.2 _).2.1.2 _ horder⟩

end LabeledSeries
