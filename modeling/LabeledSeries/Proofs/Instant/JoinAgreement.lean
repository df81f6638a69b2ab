import LabeledSeries.Call.Builtin
import LabeledSeries.Proofs.Instant.NestedLoop
import LabeledSeries.Proofs.Instant.ParameterTexts

/-!
# Joins by look-up and joins by sorting agree

The value of a partner can be had in three ways: by a join, which sorts and walks; by a correlation
with one partner, which looks rows up by their key; and by a correlation of two vectors with a key
each.  They choose the same partner and write in the same order, also where a target is the key or
another target, so they differ only in the order and the rows that they keep.  On left rows that are
sorted and all have a key they are the same function.

- `PartnerValue.run_eq_join` — the correlation with one partner is an inner join
- `KeyPerVector.run_eq_join` — the correlation of two vectors is an outer join
- `partner_functions_agree` — so the functions by which they are called agree
-/

namespace LabeledSeries

/-- The rows in which a label is there and not empty. -/
def keyed (key : String) (rows : InstantVector) : InstantVector :=
  rows.filter fun row => row.labels.value key ≠ ""

theorem sortByBytes_keyed (key : String) (rows : InstantVector) :
    sortByBytes key (keyed key rows) = keyed key (sortByLabel key rows) := by
  rw [← sortByLabel_eq_sortByBytes, keyed, sortByLabel_eq_sortOn, sortOn_filter]
  rfl

theorem mem_sortByLabel {key : String} {rows : InstantVector} {row : Row} :
    row ∈ sortByLabel key rows ↔ row ∈ rows :=
  mem_sortOn _

/-! ## §1 Look-ups -/

/-- A look-up finds the value of the first row with the key. -/
theorem lookupFind_lookupOf {κ : Type} [DecidableEq κ] (keyOf : Labels → Option κ) (key : κ)
    (rows : InstantVector) :
    lookupFind key (lookupOf keyOf rows) =
      (rows.find? (fun row => keyOf row.labels = some key)).map (fun row => row.sample.value) := by
  unfold lookupFind lookupOf
  -- Rows with another key, or with none, are passed over on both sides.
  induction rows with
  | nil => rfl
  | cons row rows ih =>
    cases hrow : keyOf row.labels with
    | none => simpa [hrow] using ih
    | some other =>
      by_cases heq : other = key
      · simp [hrow, heq]
      · simpa [hrow, heq] using ih

theorem Labels.present?_eq_some_iff {labels : Labels} {name text : String} :
    labels.present? name = some text ↔ labels.value name = text ∧ text ≠ "" := by
  rw [Labels.present?_eq_if]
  split
  · rename_i hempty
    simp only [reduceCtorEq, hempty, false_iff, not_and, not_not]
    exact fun h => h.symm
  · rename_i hvalue
    simp only [Option.some.injEq, iff_self_and]
    rintro rfl
    exact hvalue

/-- The look-up of a text that is not empty among the rows by one label. -/
theorem lookupFind_present? {text : String} (h : text ≠ "") (name : String)
    (rows : InstantVector) :
    lookupFind text (lookupOf (fun labels => labels.present? name) rows) =
      (firstWith name text rows).map (fun row => row.sample.value) := by
  rw [lookupFind_lookupOf, firstWith]
  simp only [Labels.present?_eq_some_iff, h, ne_eq, not_false_eq_true, and_true]

/-! ## §2 Plans -/

/-- On sorted left rows with a key, copying the value of the first partner is an inner join. -/
theorem PartnerValue.run_eq_join (key target : String) (left right : InstantVector) :
    PartnerValue.run { key, target } (sortByBytes key (keyed key left)) right =
      Join.run { leftKey := key, rightKey := key, copies := [(partnerValue, target)],
                 unmatched := .drop } left right := by
  rw [Join.run_eq_filterMap, sortByBytes_keyed, keyed, PartnerValue.run, List.filterMap_filter]
  refine List.filterMap_congr fun row _ => ?_
  by_cases hkey : row.labels.value key = ""
  · -- A row without a key is not among those on the left, and an inner join drops it.
    simp [Join.nestedRow, Join.partner?, hkey]
  · cases hpartner : firstWith key (row.labels.value key) right with
    -- The row is dropped on both sides.
    | none => simp [Join.nestedRow, Join.partner?, hkey, hpartner]
    | some partner =>
      simp [Join.nestedRow, Join.partner?, Join.ownWrites, Join.partnerWrites, Join.partnerText?,
        hkey, hpartner, show partnerValue ≠ ownValue by decide, Row.writeAll_cons, Row.writeAll_nil]

/-- On sorted left rows with a key, the correlation of two vectors is an outer join that copies the
    row's own value and then its partner's. -/
theorem KeyPerVector.run_eq_join (leftKey rightKey ownTarget partnerTarget : String)
    (left right : InstantVector) :
    KeyPerVector.run { keys := [leftKey, rightKey], targets := [ownTarget, partnerTarget] }
        [sortByBytes leftKey (keyed leftKey left), right] =
      Join.run { leftKey, rightKey,
                 copies := [(ownValue, ownTarget), (partnerValue, partnerTarget)],
                 unmatched := .keep } (keyed leftKey left) right := by
  rw [Join.run_eq_filterMap, ← sortByLabel_eq_sortByBytes]
  simp only [KeyPerVector.run, KeyPerVector.keyAt, correlate]
  refine List.filterMap_congr fun row hrow => ?_
  have hkey : row.labels.value leftKey ≠ "" := by
    have hmem := mem_sortByLabel.mp hrow
    simpa [keyed] using (List.mem_filter.mp hmem).2
  have hpresent : row.labels.present? leftKey = some (row.labels.value leftKey) :=
    Labels.present?_eq_some_iff.mpr ⟨rfl, hkey⟩
  -- Both write the row's own value first, so a partner's value may overwrite it.
  cases hpartner : firstWith rightKey (row.labels.value leftKey) right with
  | none =>
    simp [hpresent, labelFrom, lookupFind_present? hkey, Join.nestedRow, Join.partner?,
      Join.ownWrites, hkey, hpartner, show partnerValue ≠ ownValue by decide, Row.writeAll_cons,
      Row.writeAll_nil]
  | some partner =>
    simp [hpresent, labelFrom, lookupFind_present? hkey, Join.nestedRow, Join.partner?,
      Join.ownWrites, Join.partnerWrites, Join.partnerText?, hkey, hpartner,
      show partnerValue ≠ ownValue by decide, Row.writeAll_cons, Row.writeAll_nil, Row.valueText]

/-! ## §3 Calls -/

private theorem toList_colon (first second : String) :
    (first ++ ":" ++ second).toList = first.toList ++ ':' :: second.toList := by
  simp

private theorem toList_bar (first second : String) :
    (first ++ "|" ++ second).toList = first.toList ++ '|' :: second.toList := by
  simp

section Parameters

open Parameters

variable {key leftKey rightKey ownTarget target : String}

theorem Join.ofSpecs_partner (hkey : Text.isLabelName key = true)
    (htarget : Text.isLabelName target = true) (function : String) (unmatched : Unmatched) :
    Join.ofSpecs function unmatched key [partnerValue ++ ":" ++ target] =
      .ok { leftKey := key, rightKey := key, copies := [(partnerValue, target)], unmatched } := by
  have hkeys := namePair_name (show Text.isNamePart '|' = false from rfl) function hkey
  have hspec := namePair_two (show Text.isNamePart ':' = false from rfl) function
    (toList_colon partnerValue target) (by decide) htarget
  simp only [Join.ofSpecs, copySpecs, hkeys, hspec]
  rfl

theorem Join.ofSpecs_own_partner (hleft : Text.isLabelName leftKey = true)
    (hright : Text.isLabelName rightKey = true) (hown : Text.isLabelName ownTarget = true)
    (htarget : Text.isLabelName target = true) (function : String) (unmatched : Unmatched) :
    Join.ofSpecs function unmatched (leftKey ++ "|" ++ rightKey)
        [ownValue ++ ":" ++ ownTarget, partnerValue ++ ":" ++ target] =
      .ok { leftKey, rightKey, copies := [(ownValue, ownTarget), (partnerValue, target)],
            unmatched } := by
  have hkeys := namePair_two (show Text.isNamePart '|' = false from rfl) function
    (toList_bar leftKey rightKey) hleft hright
  have hownSpec := namePair_two (show Text.isNamePart ':' = false from rfl) function
    (toList_colon ownValue ownTarget) (by decide) hown
  have hspec := namePair_two (show Text.isNamePart ':' = false from rfl) function
    (toList_colon partnerValue target) (by decide) htarget
  simp only [Join.ofSpecs, copySpecs, hkeys, hownSpec, hspec]
  rfl

theorem PartnerValue.ofNames_ok (hkey : Text.isLabelName key = true)
    (htarget : Text.isLabelName target = true) (function : String) :
    PartnerValue.ofNames function key target = .ok { key, target } := by
  simp only [PartnerValue.ofNames, checkName_of_isLabelName function hkey,
    checkName_of_isLabelName function htarget]
  rfl

theorem KeyPerVector.ofTexts_two (hleft : Text.isLabelName leftKey = true)
    (hright : Text.isLabelName rightKey = true) (hown : Text.isLabelName ownTarget = true)
    (htarget : Text.isLabelName target = true) (function : String) :
    KeyPerVector.ofTexts function (leftKey ++ "|" ++ rightKey) (ownTarget ++ "|" ++ target) 2 =
      .ok { keys := [leftKey, rightKey], targets := [ownTarget, target] } := by
  have hkeys := nameList_two (show Text.isNamePart '|' = false from rfl) function
    (toList_bar leftKey rightKey) hleft hright
  have htargets := nameList_two (show Text.isNamePart '|' = false from rfl) function
    (toList_bar ownTarget target) hown htarget
  simp only [KeyPerVector.ofTexts, hkeys, htargets]
  rfl

end Parameters

section Calls

variable (time : Int) (left right : InstantVector)

theorem Builtin.call_select2 {matchKey spec : String} {join : Join}
    (h : Join.ofSpecs "select2" .drop matchKey [spec] = .ok join) :
    Builtin.select2.call time [.text matchKey, .vector left, .vector right, .text spec] =
      .ok (.vector (join.run left right)) := by
  have hrows : Builtin.select2.rows time
      [.text matchKey, .vector left, .vector right, .text spec] =
      (do return (← Join.ofSpecs "select2" .drop matchKey [spec]).run left right) := rfl
  rw [Builtin.call, hrows, h]
  rfl

theorem Builtin.call_select2Join {matchKey spec spec' : String} {join : Join}
    (h : Join.ofSpecs "select2_join" .keep matchKey [spec, spec'] = .ok join) :
    Builtin.select2Join.call time
        [.text matchKey, .vector left, .vector right, .text spec, .text spec'] =
      .ok (.vector (join.run left right)) := by
  have hrows : Builtin.select2Join.rows time
      [.text matchKey, .vector left, .vector right, .text spec, .text spec'] =
      (do return (← Join.ofSpecs "select2_join" .keep matchKey [spec, spec']).run left right) := rfl
  rw [Builtin.call, hrows, h]
  rfl

theorem Builtin.call_labelsAppendValue {key target : String} {plan : PartnerValue}
    (h : PartnerValue.ofNames "labels_append_value" key target = .ok plan) :
    Builtin.labelsAppendValue.call time [.vector left, .vector right, .text key, .text target] =
      .ok (.vector (plan.run left right)) := by
  have hrows : Builtin.labelsAppendValue.rows time
      [.vector left, .vector right, .text key, .text target] =
      (do return (← PartnerValue.ofNames "labels_append_value" key target).run left right) := rfl
  rw [Builtin.call, hrows, h]
  rfl

theorem Builtin.call_selectn {keys targets : String} {plan : KeyPerVector}
    (h : KeyPerVector.ofTexts "selectn" keys targets 2 = .ok plan) :
    Builtin.selectn.call time [.text keys, .text targets, .vector left, .vector right] =
      .ok (.vector (plan.run [left, right])) := by
  have hrows : Builtin.selectn.rows time
      [.text keys, .text targets, .vector left, .vector right] =
      (do return (← KeyPerVector.ofTexts "selectn" keys targets 2).run [left, right]) := rfl
  rw [Builtin.call, hrows, h]
  rfl

end Calls

/-- **The joins agree**: copying the value of a partner by an inner join is copying it by look-up on
    the sorted left rows that have a key, and copying own and partner's value by an outer join of
    left rows that have a key is correlating them, sorted, with the right rows. -/
theorem partner_functions_agree (time : Int) (left right : InstantVector)
    {k k0 k1 n n0 n1 : String} (hk : Text.isLabelName k = true) (hk0 : Text.isLabelName k0 = true)
    (hk1 : Text.isLabelName k1 = true) (hn : Text.isLabelName n = true)
    (hn0 : Text.isLabelName n0 = true) (hn1 : Text.isLabelName n1 = true) :
    (∃ rows,
      Builtin.select2.call time
          [.text k, .vector left, .vector right, .text ("__v__1:" ++ n)] = .ok (.vector rows) ∧
      Builtin.labelsAppendValue.call time
          [.vector (sortByBytes k (keyed k left)), .vector right, .text k, .text n] =
        .ok (.vector rows)) ∧
    (∃ rows,
      Builtin.select2Join.call time
          [.text (k0 ++ "|" ++ k1), .vector (keyed k0 left), .vector right,
            .text ("__v__0:" ++ n0), .text ("__v__1:" ++ n1)] = .ok (.vector rows) ∧
      Builtin.selectn.call time
          [.text (k0 ++ "|" ++ k1), .text (n0 ++ "|" ++ n1),
            .vector (sortByBytes k0 (keyed k0 left)), .vector right] = .ok (.vector rows)) := by
  have hinner := Join.ofSpecs_partner hk hn "select2" .drop
  have hvalue := PartnerValue.ofNames_ok hk hn "labels_append_value"
  have houter := Join.ofSpecs_own_partner hk0 hk1 hn0 hn1 "select2_join" .keep
  have hcorrelated := KeyPerVector.ofTexts_two hk0 hk1 hn0 hn1 "selectn"
  -- Once the texts are read, the two calls of a pair differ only in their plans.
  refine ⟨⟨_, Builtin.call_select2 time left right hinner, ?_⟩,
    ⟨_, Builtin.call_select2Join time (keyed k0 left) right houter, ?_⟩⟩
  · rw [Builtin.call_labelsAppendValue time _ right hvalue, PartnerValue.run_eq_join]
  · rw [Builtin.call_selectn time _ right hcorrelated, KeyPerVector.run_eq_join]

/-- Targets may be match keys and equal to each other; here partner values overwrite the key. -/
theorem partner_functions_agree_on_overwritten_keys :
    let left : InstantVector := [⟨.singleton "pod" "b", ⟨1, 0.5⟩⟩, ⟨.singleton "pod" "a", ⟨2, 1.5⟩⟩]
    let right : InstantVector :=
      [⟨.singleton "pod" "b", ⟨3, 2.5⟩⟩, ⟨.singleton "pod" "b", ⟨4, 3.5⟩⟩]
    (Text.isLabelName "pod" = true ∧ Text.isLabelName "node" = true) ∧
    (∃ rows,
      Builtin.select2.call 0
          [.text "pod", .vector left, .vector right, .text ("__v__1:" ++ "pod")] =
        .ok (.vector rows) ∧
      Builtin.labelsAppendValue.call 0
          [.vector (sortByBytes "pod" (keyed "pod" left)), .vector right, .text "pod",
            .text "pod"] = .ok (.vector rows)) ∧
    (∃ rows,
      Builtin.select2Join.call 0
          [.text ("pod" ++ "|" ++ "node"), .vector (keyed "pod" left), .vector right,
            .text ("__v__0:" ++ "pod"), .text ("__v__1:" ++ "pod")] = .ok (.vector rows) ∧
      Builtin.selectn.call 0
          [.text ("pod" ++ "|" ++ "node"), .text ("pod" ++ "|" ++ "pod"),
            .vector (sortByBytes "pod" (keyed "pod" left)), .vector right] =
        .ok (.vector rows)) := by
  intro left right
  exact ⟨⟨by decide, by decide⟩, partner_functions_agree 0 left right (by decide) (by decide)
    (by decide) (by decide) (by decide) (by decide)⟩

end LabeledSeries
