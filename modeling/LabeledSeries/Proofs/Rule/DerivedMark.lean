import LabeledSeries.Proofs.Rule.RecordedLabels

/-!
# The mark of derived series

Groups mark what their rules record, so that the filter for user-defined metrics can tell series
that were derived already and reject them.  The mark is a label like any other, and between its
recording and the check other filters may run.

§1 Marked rules record marked rows, whatever their own filters do.

§2 Of the filters of the library only the decoding of labels can remove the mark, since a label that
was shipped in place of the mark may decode to the empty text.  So the check is sure to reject
a marked row where no decoding has run since the row was recorded or checked
(`FilterRegistry.not_allKeep_of_seesMark`).

§3 Where a decoding comes between, one row passes every such list of filters.  So the lists of
filters that reject all marked rows are known exactly (`RecordingRule.drops_marked_iff`).
-/

namespace LabeledSeries

/-! ## §1 Marked rows -/

/-- The rows that some rule of some group records of some vector, at any time, with any filters and
    any answers to their questions. -/
def NamedGroups.Records (named : NamedGroups) (rows : InstantVector) : Prop :=
  ∃ group ∈ named.groups, ∃ stored ∈ group.rules, ∃ rule, stored.check = .ok rule ∧
    ∃ registry query time input, rows = rule.eval registry query time input

theorem RecordRule.rule_of_check {stored : RecordRule} {rule : RecordingRule}
    (h : stored.check = .ok rule) : rule.rule = stored := by
  unfold check at h
  split at h
  · cases h
    rfl
  · cases h

theorem RecordRule.get?_markDerived (stored : RecordRule) :
    stored.markDerived.labels.get? derivedLabel = some derivedValue := by
  simp [markDerived]

/-- The label of a marked rule is stored last, so no filter can do without it. -/
theorem NamedGroups.marked_of_records {named : NamedGroups} {rows : InstantVector}
    (h : named.markDerived.Records rows) :
    ∀ row ∈ rows, row.labels.get? derivedLabel = some derivedValue := by
  obtain ⟨group, hgroup, stored, hstored, rule, hcheck, registry, query, time, input, rfl⟩ := h
  obtain ⟨plain, hplain, rfl⟩ := List.mem_map.mp hgroup
  obtain ⟨unmarked, hunmarked, rfl⟩ := List.mem_map.mp hstored
  have hrule := RecordRule.rule_of_check hcheck
  intro row hrow
  obtain ⟨source, -, rfl⟩ := RecordingRule.exists_of_mem_eval hrow
  -- The mark is one of the rule's own labels, which are stored after the filters have run.
  show (rule.stamp _).get? derivedLabel = _
  rw [RecordingRule.get?_stamp, hrule, RecordRule.get?_markDerived]
  simp [derivedValue]

/-! ## §2 What the filters do to the mark -/

/-- Answers in which no label is empty. -/
def SubQuery.Filled (query : SubQuery) : Prop :=
  ∀ expr time rows, query expr time = .ok rows →
    ∀ row ∈ rows, ∀ entry ∈ row.labels.entries, entry.2 ≠ ""

theorem SubQuery.Filled.of_row? {query : SubQuery} (h : query.Filled) {time : Int} {expr : String}
    {row : Row} (hrow : Pod.row? (query expr time) = some row) :
    ∀ entry ∈ row.labels.entries, entry.2 ≠ "" := by
  unfold Pod.row? at hrow
  split at hrow
  · rename_i rows hrows
    exact h expr time rows hrows row (List.mem_of_mem_head? hrow)
  · cases hrow

namespace Labels

variable {labels : Labels} {name : String}

/-- Only the empty text stored under a name takes a label of that name out. -/
theorem contains_assign (h : labels.contains name) {other text : String}
    (hkept : other = name → text ≠ "") : (labels.assign other text).contains name := by
  rw [NameMap.contains_eq] at h ⊢
  rw [get?_assign]
  split_ifs with hname htext
  · exact absurd htext (hkept hname)
  · rfl
  · exact h

theorem contains_assignAll (h : labels.contains name) {entries : List (String × String)}
    (hfilled : ∀ entry ∈ entries, entry.2 ≠ "") : (labels.assignAll entries).contains name := by
  induction entries generalizing labels with
  | nil => exact h
  | cons entry entries ih =>
    obtain ⟨hfirst, hrest⟩ := List.forall_mem_cons.mp hfilled
    exact ih (contains_assign h fun _ => hfirst) hrest

end Labels

namespace Pod

variable {query : SubQuery} {time : Int} {labels : Labels} {name : String}

theorem contains_copyLabels (h : labels.contains name) (excluded : List String) {pod : Labels}
    (hpod : ∀ entry ∈ pod.entries, entry.2 ≠ "") :
    (copyLabels excluded pod labels).contains name := by
  refine Labels.contains_assignAll h fun entry hentry => ?_
  -- A label is copied with the value that it has in the row of the pod.
  obtain ⟨source, hsource, hcopied⟩ := List.mem_filterMap.mp hentry
  obtain ⟨copied, -, rfl⟩ := Option.map_eq_some_iff.mp hcopied
  exact hpod source hsource

theorem contains_identify (h : labels.contains name) (hname : name ≠ "appid") (pod : Labels) :
    (identify pod labels).contains name := by
  -- An identifier may be empty, but it is stored under a name of its own.
  have hassign : ∀ text, (labels.assign "appid" text).contains name := fun _ =>
    Labels.contains_assign h fun heq => absurd heq.symm hname
  unfold identify
  dsimp only
  split_ifs
  · exact h
  · exact hassign _
  · exact hassign _
  · exact h

/-- A row that is enriched keeps its labels, up to their values. -/
theorem contains_enrich (h : labels.contains name) (hname : name ≠ "appid")
    (hquery : query.Filled) : (enrich query time labels).labels.contains name := by
  rw [enrich_eq]
  split
  · exact h
  · cases hrow : row? _ with
    | none => exact h
    | some row =>
      exact contains_identify (contains_copyLabels h _ (hquery.of_row? hrow)) hname _

theorem derive_rejects (h : labels.contains derivedLabel) :
    (derive query time labels).keep = false := by
  rw [derive_eq, if_pos h]

/-- The check rejects a row or marks it. -/
theorem contains_derive (h : (derive query time labels).keep = true) :
    (derive query time labels).labels.contains derivedLabel := by
  by_cases hmark : labels.contains derivedLabel
  · rw [derive_rejects hmark] at h
    cases h
  · rw [derive_eq, if_neg hmark] at h ⊢
    cases hname : name? labels with
    | none => simp [hname] at h
    | some pod => simp [NameMap.contains_eq, Labels.get?_assign, derivedValue]

end Pod

namespace FilterRegistry

/-- Some check in a list of filters of the library is sure to see the mark of a row: no decoding
    runs between it and the last time the mark was put on the row, by a check before it or, if
    `marked`, before all of the filters. -/
def seesMark (marked : Bool) : List String → Bool
  | [] => false
  | name :: names =>
    if name = "app_define_metric" then marked || seesMark true names
    else if name = "app_label_2_ch" then seesMark false names
    else seesMark marked names

/-- Without decodings a check is enough. -/
theorem seesMark_of_mem {names : List String} (hcheck : "app_define_metric" ∈ names)
    (hdecode : "app_label_2_ch" ∉ names) : seesMark true names = true := by
  induction names with
  | nil => cases hcheck
  | cons name names ih =>
    rw [List.mem_cons, not_or] at hdecode
    rw [seesMark, if_neg (Ne.symm hdecode.1)]
    split_ifs with hname
    · rfl
    · exact ih ((List.mem_cons.mp hcheck).resolve_left (Ne.symm hname)) hdecode.2

section Builtin

variable (query : SubQuery) (time : Int) (labels : Labels)

theorem apply_decode : builtin.apply "app_label_2_ch" query time labels =
    Decode.filter query time labels := by
  rw [apply_builtin, if_pos rfl]

theorem apply_derive : builtin.apply "app_define_metric" query time labels =
    Pod.derive query time labels := by
  rw [apply_builtin, if_neg (by simp), if_neg (by simp), if_pos rfl]

/-- The filters that neither decode labels nor check for the mark. -/
theorem apply_of_ne {name : String} (hderive : name ≠ "app_define_metric")
    (hdecode : name ≠ "app_label_2_ch") : builtin.apply name query time labels =
      if name = "app_append_labels" then Pod.enrich query time labels
      else { labels, keep := true, asked := [] } := by
  rw [apply_builtin, if_neg hdecode]
  split_ifs
  · rfl
  · rfl

end Builtin

variable {query : SubQuery} {time : Int}

/-- No list of filters in which a check is sure to see the mark keeps a row that has it. -/
theorem not_allKeep_of_seesMark (hquery : query.Filled) {names : List String} {marked : Bool}
    {labels : Labels} (hsees : seesMark marked names)
    (hmarked : marked = true → labels.contains derivedLabel) :
    ¬ builtin.AllKeep query time names labels := by
  -- Along the list, `marked` says at least as much as the labels do about the mark.
  induction names generalizing marked labels with
  | nil => cases hsees
  | cons name names ih =>
    rw [allKeep_cons, rejects_iff, Bool.not_eq_false]
    rintro ⟨hkeep, hrest⟩
    unfold seesMark at hsees
    split_ifs at hsees with hderive hdecode
    · -- A row that passes the check had no mark, and has one now.
      subst hderive
      rw [apply_derive] at hkeep hrest
      rcases (Bool.or_eq_true_iff.mp hsees) with hsees | hsees
      · rw [Pod.derive_rejects (hmarked hsees)] at hkeep
        cases hkeep
      · exact ih hsees (fun _ => Pod.contains_derive hkeep) hrest
    · -- A decoding may have removed the mark.
      exact ih hsees (fun h => by cases h) hrest
    · refine ih hsees (fun h => ?_) hrest
      rw [apply_of_ne query time labels hderive hdecode]
      split_ifs
      · exact Pod.contains_enrich (hmarked h) (by simp [derivedLabel]) hquery
      · exact hmarked h

/-! ## §3 A row that passes -/

/-- A row of a pod that was recorded with the mark.  What it has in place of the mark decodes to the
    empty text. -/
def markedPod : Labels :=
  { entries := [("__name__", "a"), ("mtype", "sys"), ("mtype_b64", "b64"), ("pod_name", "p")] }

/-- The row of that pod before the mark, and after its labels were decoded and looked up again. -/
def encodedPod : Labels :=
  { entries := [("__name__", "a"), ("mtype_b64", "b64"), ("pod_name", "p")] }

/-- The row of that pod after its labels were decoded. -/
def plainPod : Labels := { entries := [("__name__", "a"), ("pod_name", "p")] }

/-- Whatever pod is looked up, its label is the one that decodes to the empty text. -/
def encodedMark : SubQuery := fun _ _ => .ok [⟨.singleton "label_mtype_b64" "b64", ⟨1, 1⟩⟩]

theorem filled_encodedMark : encodedMark.Filled := by
  intro expr time rows h
  cases h
  simp [NameMap.singleton]

/-- The row of the pod where the mark has been put on it, and where it has been decoded since. -/
inductive PodRow : Bool → Labels → Prop
  | marked : PodRow true markedPod
  | encoded : PodRow false encodedPod
  | plain : PodRow false plainPod

namespace PodRow

variable {marked : Bool} {labels : Labels}

theorem decode (h : PodRow marked labels) : PodRow false (Decode.decodeAll labels) := by
  have hdecoded : Decode.decodeAll markedPod = plainPod ∧
      Decode.decodeAll encodedPod = plainPod := by decide +kernel
  have hplain : Decode.decodeAll labels = plainPod := by
    cases h with
    | marked => exact hdecoded.1
    | encoded => exact hdecoded.2
    | plain => rfl
  rw [hplain]
  exact .plain

theorem enrich (h : PodRow marked labels) :
    PodRow marked (Pod.enrich encodedMark time labels).labels := by
  cases h with
  | marked => exact PodRow.marked
  | encoded => exact PodRow.encoded
  | plain => exact PodRow.encoded

/-- The row passes the check where it has been decoded, and is marked again. -/
theorem derive (h : PodRow false labels) :
    (Pod.derive encodedMark time labels).keep = true ∧
      PodRow true (Pod.derive encodedMark time labels).labels := by
  have hcopied : ∀ labels ∈ [encodedPod, plainPod],
      labels.contains derivedLabel = false ∧ Pod.name? labels = some "p" ∧
        (Pod.copyLabels ["pod_template_hash"] (.singleton "label_mtype_b64" "b64") labels).assign
          derivedLabel derivedValue = markedPod := by decide +kernel
  obtain ⟨hmark, hname, hlabels⟩ := hcopied labels (by cases h <;> simp)
  rw [Pod.derive_eq, hmark, hname]
  refine ⟨rfl, ?_⟩
  show PodRow true ((Pod.copyLabels ["pod_template_hash"] (.singleton "label_mtype_b64" "b64")
    labels).assign derivedLabel derivedValue)
  rw [hlabels]
  exact .marked

end PodRow

/-- A list of filters in which no check is sure to see the mark keeps the row. -/
theorem allKeep_of_not_seesMark {names : List String} {marked : Bool} {labels : Labels}
    (hsees : seesMark marked names = false) (hrow : PodRow marked labels) :
    builtin.AllKeep encodedMark time names labels := by
  induction names generalizing marked labels with
  | nil => exact fun before name after heq => by simp at heq
  | cons name names ih =>
    rw [allKeep_cons, rejects_iff, Bool.not_eq_false]
    unfold seesMark at hsees
    split_ifs at hsees with hderive hdecode
    · -- No check is sure to see the mark, so the row has none here.
      subst hderive
      obtain ⟨rfl, hsees⟩ := Bool.or_eq_false_iff.mp hsees
      rw [apply_derive]
      exact ⟨hrow.derive.1, ih hsees hrow.derive.2⟩
    · subst hdecode
      rw [apply_decode]
      exact ⟨rfl, ih hsees hrow.decode⟩
    · rw [apply_of_ne encodedMark time labels hderive hdecode]
      split_ifs
      · refine ⟨?_, ih hsees hrow.enrich⟩
        cases hrow <;> rfl
      · exact ⟨rfl, ih hsees hrow⟩

end FilterRegistry

namespace RecordingRule

/-- The rule that records the row of the pod before groups mark it. -/
def podRecord : RecordRule :=
  { record := "a", expr := "x", filters := [], labels := NameMap.empty }

/-- Groups with that rule alone. -/
def podGroups : NamedGroups :=
  { id := "pods", tags := NameMap.empty, groups := [{ name := "all", rules := [podRecord] }] }

/-- The marked row of the pod. -/
def markedRow : Row := ⟨FilterRegistry.markedPod, ⟨1, 1⟩⟩

/-- The rule as the groups have it once they are marked. -/
def markedRule : RecordingRule where
  rule := podRecord.markDerived
  valid := by decide

/-- The marked row is recorded of the row that the pod itself sends. -/
theorem podGroups_records : podGroups.markDerived.Records [markedRow] := by
  refine ⟨⟨"all", [podRecord.markDerived]⟩, List.mem_singleton_self _, podRecord.markDerived,
    List.mem_singleton_self _, markedRule, rfl, FilterRegistry.builtin, fun _ _ => .ok [], 1,
    [⟨FilterRegistry.encodedPod, ⟨1, 1⟩⟩], ?_⟩
  rw [eval_singleton]
  rfl

/-- **Derived series are derived once**: a rule of the library's filters records none of the rows
    that the rules of marked groups record, at any time and whatever filled rows its sub-queries
    bring, just if some check in its filters is sure to see the mark.  So it is for a rule that
    checks for the mark and does not decode labels, and it is not for one that decodes labels before
    every check. -/
theorem drops_marked_iff (rule : RecordingRule) :
    ((∀ (named : NamedGroups) rows, named.markDerived.Records rows →
        ∀ query time, SubQuery.Filled query →
          rule.eval FilterRegistry.builtin query time rows = []) ↔
      FilterRegistry.seesMark true rule.rule.filters = true) ∧
    ("app_define_metric" ∈ rule.rule.filters → "app_label_2_ch" ∉ rule.rule.filters →
      FilterRegistry.seesMark true rule.rule.filters = true) := by
  refine ⟨⟨?_, ?_⟩, FilterRegistry.seesMark_of_mem⟩
  · intro h
    -- Otherwise the marked row of the pod passes all filters, and is recorded again.
    by_contra hsees
    have hkeep : FilterRegistry.builtin.AllKeep FilterRegistry.encodedMark 1 rule.rule.filters
        markedRow.labels :=
      FilterRegistry.allKeep_of_not_seesMark (Bool.not_eq_true _ ▸ hsees) .marked
    have hnone := h podGroups [markedRow] podGroups_records
      FilterRegistry.encodedMark 1 FilterRegistry.filled_encodedMark
    rw [eval_singleton, evalRow_of_allKeep hkeep] at hnone
    cases hnone
  · intro hsees named rows hrows query time hquery
    refine List.filterMap_eq_nil_iff.mpr fun row hrow => evalRow_eq_none_iff.mpr ?_
    have hmark : row.labels.contains derivedLabel := by
      rw [NameMap.contains_eq, NamedGroups.marked_of_records hrows row hrow]
      rfl
    exact FilterRegistry.not_allKeep_of_seesMark hquery hsees fun _ => hmark

/-- A rule that decodes labels before it checks for the mark. -/
def decodingRule : RecordingRule where
  rule := { record := "b", expr := "a", filters := ["app_label_2_ch", "app_define_metric"],
            labels := NameMap.empty }
  valid := by decide

/-- Its sub-queries bring nothing, and it records the marked row once more. -/
theorem not_drops_marked_of_decoding :
    podGroups.markDerived.Records [markedRow] ∧
      SubQuery.Filled (fun _ _ => .ok []) ∧
      (∀ name ∈ decodingRule.rule.filters, FilterRegistry.builtin.contains name) ∧
      "app_define_metric" ∈ decodingRule.rule.filters ∧
      decodingRule.eval FilterRegistry.builtin (fun _ _ => .ok []) 1 [markedRow] =
        [⟨{ entries := [("__name__", "b"), ("mtype", "sys"), ("pod_name", "p")] }, ⟨1, 1⟩⟩] := by
  refine ⟨podGroups_records, ?_, ?_, by simp [decodingRule], ?_⟩
  · intro expr time rows h
    cases h
    simp
  · decide
  · rw [eval_singleton]
    rfl

end RecordingRule

end LabeledSeries
