import LabeledSeries.Proofs.Rule.DecodedLabels
import LabeledSeries.Proofs.Rule.PodLabels

/-!
# The form of label names

Two filters make new label names by cutting off a part of old ones.  The decoding cuts off an
ending, and what is left of a name in front of it is a name again, unless it is empty, which the
decoding leaves alone.  The labels of a pod lose one prefix or two, and what is left behind a prefix
may be empty or begin with a digit.

§1 says which parts of a name are names.  §2 is about single filters: the decoding keeps label names
in form, and the other two do just if the row of the pod gives nothing to a text that is no name
(`Pod.named_copyFound_iff`).

§3 puts filters one after the other.  They keep label names in form for all samples just if no row
that is looked up gives something to a text that is no name
(`FilterRegistry.names_stay_valid_iff`).
-/

namespace LabeledSeries

/-! ## §1 Parts of names -/

namespace Text

variable {start rest : String}

theorem isLabelName_append (hstart : start ≠ "") :
    isLabelName (start ++ rest) = (isLabelName start && rest.toList.all isNamePart) := by
  unfold isLabelName
  rw [String.toList_append]
  cases hchars : start.toList with
  | nil => exact absurd (String.toList_eq_nil_iff.mp hchars) hstart
  -- The first character is that of the start, so the rest only has to be made of parts of a name.
  | cons c chars => simp [isLabelNameChars, List.all_append, Bool.and_assoc]

theorem isDigit_of_isNameStart {c : Char} (h : isNameStart c = true) : c.isDigit = false := by
  change (decide (c.val ≥ 'A'.val ∧ c.val ≤ 'Z'.val) ||
    (decide (c.val ≥ 'a'.val) && decide (c.val ≤ 'z'.val)) || c == '_') = true at h
  change (decide (c.val ≥ '0'.val) && decide (c.val ≤ '9'.val)) = false
  simp only [Bool.or_eq_true, Bool.and_eq_true, decide_eq_true_eq, beq_iff_eq, ge_iff_le,
    Bool.and_eq_false_iff, decide_eq_false_iff_not, UInt32.le_iff_toNat_le, Char.toNat_val,
    Char.reduceToNat] at h ⊢
  rcases h with hletter | rfl
  · omega
  · decide

/-- Behind the start of a name stands a name, unless that is empty or begins with a digit. -/
theorem isLabelName_rest_iff (h : isLabelName (start ++ rest) = true) (hstart : start ≠ "") :
    isLabelName rest = true ↔ rest ≠ "" ∧ ∀ c ∈ rest.toList.head?, c.isDigit = false := by
  -- The rest is made of parts of a name already, and of these only a digit cannot begin one.
  rw [isLabelName_append hstart, Bool.and_eq_true] at h
  have hparts := h.2
  rw [ne_eq, ← String.toList_eq_nil_iff]
  unfold isLabelName
  cases hchars : rest.toList with
  | nil => simp [isLabelNameChars]
  | cons c chars =>
    rw [hchars, List.all_cons, Bool.and_eq_true, isNamePart, Bool.or_eq_true] at hparts
    simp only [isLabelNameChars, hparts.2, Bool.and_true, reduceCtorEq, not_false_eq_true, true_and,
      List.head?_cons, Option.mem_some_iff, forall_eq']
    refine ⟨isDigit_of_isNameStart, fun hdigit => ?_⟩
    rw [hdigit] at hparts
    simpa using hparts.1

end Text

/-- Labels all of whose names have the form of label names. -/
def Labels.Named (labels : Labels) : Prop := ∀ name ∈ labels.names, Text.isLabelName name = true

instance (labels : Labels) : Decidable labels.Named :=
  inferInstanceAs (Decidable (∀ name ∈ labels.names, _))

/-- Answers in which all label names have the form of label names. -/
def SubQuery.Named (query : SubQuery) : Prop :=
  ∀ expr time rows, query expr time = .ok rows → ∀ row ∈ rows, row.labels.Named

theorem SubQuery.named_const {rows : InstantVector} (h : ∀ row ∈ rows, row.labels.Named) :
    SubQuery.Named fun _ _ => .ok rows := by
  intro expr time answer hanswer
  cases hanswer
  exact h

namespace Labels

variable {labels other : Labels}

theorem named_iff : labels.Named ↔
    ∀ name value, labels.get? name = some value → Text.isLabelName name = true := by
  constructor
  · intro h name value hvalue
    exact h name (List.mem_map_of_mem (NameMap.mem_entries_iff.mpr hvalue))
  · -- A name of the list is held, so it has a value.
    intro h name hname
    cases hvalue : labels.get? name with
    | none =>
      rw [NameMap.get?_eq_lookup] at hvalue
      exact absurd hname (NameMap.lookup_eq_none_iff.mp hvalue)
    | some value => exact h name value hvalue

/-- A label with a proper name does not matter to the form of the others. -/
theorem named_congr {special : String} (hspecial : Text.isLabelName special = true)
    (h : ∀ name, name ≠ special → labels.get? name = other.get? name) :
    labels.Named ↔ other.Named := by
  rw [named_iff, named_iff]
  refine forall_congr' fun name => ?_
  by_cases hname : name = special
  · simp [hname, hspecial]
  · rw [h name hname]

end Labels

/-! ## §2 Single filters -/

/-- What is left of a name in front of the ending of encoded labels is a name. -/
theorem Decode.named_decodeAll {labels : Labels} (h : labels.Named) :
    (decodeAll labels).Named := by
  rw [Labels.named_iff] at h ⊢
  intro name value hvalue
  rw [get?_decodeAll] at hvalue
  cases htext : textOf? (encoded labels) name with
  -- The name is what stands in front of the ending, and it is not empty.
  | some text =>
    obtain ⟨hname, encodedValue, hget, -⟩ := textOf?_encoded.mp htext
    have hsource := h _ _ hget
    rw [Text.isLabelName_append hname, Bool.and_eq_true] at hsource
    exact hsource.1
  -- The label was there before.
  | none =>
    simp only [htext] at hvalue
    split_ifs at hvalue
    exact h name value hvalue

namespace Pod

variable {excluded : List String} {pod labels : Labels} {name value : String}

/-- A pod gives a value to a name: the last one of its labels that are meant for the name has it,
    and it is not empty. -/
def Gives (excluded : List String) (pod : Labels) (name value : String) : Prop :=
  value ≠ "" ∧ ∃ source, IsSource excluded name source ∧ pod.get? source = some value ∧
    ∀ other, IsSource excluded name other → pod.contains other →
      Text.utf8Bytes other ≤ Text.utf8Bytes source

/-- A pod gives no value to the empty text, and to none that begins with a digit. -/
def GivesToNames (excluded : List String) (pod : Labels) : Prop :=
  ∀ name value, Gives excluded pod name value →
    name ≠ "" ∧ ∀ c ∈ name.toList.head?, c.isDigit = false

theorem eq_of_utf8Bytes_le {source other : String}
    (h : Text.utf8Bytes source ≤ Text.utf8Bytes other)
    (h' : Text.utf8Bytes other ≤ Text.utf8Bytes source) : source = other :=
  le_antisymm ((Text.le_iff_utf8Bytes_le ..).mpr h) ((Text.le_iff_utf8Bytes_le ..).mpr h')

/-- What a pod gives is what the copying leaves. -/
theorem get?_copyLabels_of_gives
    (hplain : ∀ name ∈ excluded, Text.afterLeading "k8s_" name = none)
    (h : Gives excluded pod name value) (labels : Labels) :
    (copyLabels excluded pod labels).get? name = some value := by
  obtain ⟨hfilled, source, hsource, hvalue, hlast⟩ := h
  have hcontains : pod.contains source := by rw [NameMap.contains_eq, hvalue, Option.isSome_some]
  have hcopied := copied_copyLabels hplain pod labels name
  generalize (copyLabels excluded pod labels).get? name = left at hcopied ⊢
  cases hcopied with
  | @last other held hother hheld hbehind =>
    -- Only one of the labels that are meant for a name is the last.
    have hotherContains : pod.contains other := by
      rw [NameMap.contains_eq, hheld, Option.isSome_some]
    obtain rfl := eq_of_utf8Bytes_le (hlast other hother hotherContains)
      (hbehind source hsource hcontains)
    rw [hvalue] at hheld
    cases hheld
    rw [if_neg hfilled]
  | kept hnone =>
    rw [hnone source hsource] at hvalue
    cases hvalue

/-- The names that the labels of a pod are meant for are those behind a prefix. -/
theorem isLabelName_iff_of_gives (hnamed : pod.Named) (h : Gives excluded pod name value) :
    Text.isLabelName name = true ↔ name ≠ "" ∧ ∀ c ∈ name.toList.head?, c.isDigit = false := by
  obtain ⟨-, source, hsource, hvalue, -⟩ := h
  have hname := Labels.named_iff.mp hnamed source value hvalue
  -- Either prefix starts with a letter, so the name is what stands behind it.
  rcases hsource with ⟨rfl, -⟩ | rfl
  · exact Text.isLabelName_rest_iff hname (by decide)
  · exact Text.isLabelName_rest_iff hname (by decide)

/-- It is enough if no label of a pod is copied to such a text. -/
theorem givesToNames_of_copied
    (hplain : ∀ name ∈ excluded, Text.afterLeading "k8s_" name = none)
    (h : ∀ source ∈ pod.names, ∀ name ∈ copyName? excluded source,
      name ≠ "" ∧ name.toList.head?.any Char.isDigit = false) : GivesToNames excluded pod := by
  rintro name value ⟨-, source, hsource, hvalue, -⟩
  have hmem := List.mem_map_of_mem (f := Prod.fst) (NameMap.mem_entries_iff.mpr hvalue)
  obtain ⟨hne, hdigit⟩ := h source hmem name ((copyName?_eq_some_iff hplain).mpr hsource)
  refine ⟨hne, fun c hc => ?_⟩
  rw [Option.mem_def.mp hc, Option.any_some] at hdigit
  exact hdigit

theorem named_copyLabels_iff (hplain : ∀ name ∈ excluded, Text.afterLeading "k8s_" name = none)
    (hnamed : pod.Named) (hlabels : labels.Named) :
    (copyLabels excluded pod labels).Named ↔ GivesToNames excluded pod := by
  rw [Labels.named_iff] at hlabels ⊢
  constructor
  · -- A value that is given is copied, so its name is among the labels.
    intro h name value hgives
    exact (isLabelName_iff_of_gives hnamed hgives).mp
      (h name value (get?_copyLabels_of_gives hplain hgives labels))
  · intro h name value hvalue
    have hcopied := copied_copyLabels hplain pod labels name
    rw [hvalue] at hcopied
    generalize hleft : some value = left at hcopied
    cases hcopied with
    | @last source held hsource hheld hlast =>
      -- What the copying stored is not empty, or nothing would be left.
      have hgives : Gives excluded pod name held := by
        refine ⟨?_, source, hsource, hheld, hlast⟩
        rintro rfl
        cases hleft
      exact (isLabelName_iff_of_gives hnamed hgives).mpr (h name held hgives)
    | kept _ => exact hlabels name value hleft.symm

variable {query : SubQuery} {time : Int}

theorem named_of_found? {metric : String} (hquery : query.Named) {row : Row}
    (h : found? metric query time labels = some row) : row.labels.Named := by
  obtain ⟨pod, -, hrow⟩ := Option.bind_eq_some_iff.mp h
  obtain ⟨rest, hrest⟩ := row?_eq_some_iff.mp hrow
  exact hquery _ _ _ hrest row (List.mem_cons_self ..)

/-- The labels of a pod keep label names in form just if it gives nothing to a text that is no
    name. -/
theorem named_copyFound_iff (hplain : ∀ name ∈ excluded, Text.afterLeading "k8s_" name = none)
    (hnamed : query.Named) (hlabels : labels.Named) (metric : String) :
    (copyFound excluded (found? metric query time labels) labels).Named ↔
      ∀ row, found? metric query time labels = some row → GivesToNames excluded row.labels := by
  cases hfound : found? metric query time labels with
  | none => simp [copyFound, hlabels]
  | some row =>
    simp only [copyFound, Option.some.injEq, forall_eq']
    exact named_copyLabels_iff hplain (named_of_found? hnamed hfound) hlabels

theorem derive_of_rejects (h : (derive query time labels).keep = false) :
    (derive query time labels).labels = labels := by
  -- Only a row without a mark that names a pod stays, so no label was copied otherwise.
  by_cases hmark : labels.contains derivedLabel
  · rw [derive_of_marked hmark]
  · cases hname : name? labels with
    | none => rw [derive_of_nameless hname]
    | some pod =>
      rw [derive_of_name hmark hname] at h
      cases h

end Pod

namespace FilterRegistry

open Pod

variable {query : SubQuery} {time : Int} {labels : Labels}

/-- What each filter of the library does to the form of label names. -/
theorem named_apply_builtin_iff (time : Int) (hnamed : query.Named) (hlabels : labels.Named) :
    (builtin.apply "app_label_2_ch" query time labels).labels.Named ∧
    ((builtin.apply "app_append_labels" query time labels).labels.Named ↔
      ∀ row, found? "kube_pod_labels" query time labels = some row →
        GivesToNames hashNames row.labels) ∧
    ((builtin.apply "app_define_metric" query time labels).labels.Named ↔
      ((builtin.apply "app_define_metric" query time labels).keep = true →
        ∀ row, found? "kube_pod_labels_ch" query time labels = some row →
          GivesToNames ["pod_template_hash"] row.labels)) := by
  rw [apply_decode, apply_enrich, apply_derive]
  refine ⟨Decode.named_decodeAll hlabels, ?_, ?_⟩
  · -- The identifier and the mark are stored under proper names, which leaves the copied labels.
    rw [Labels.named_congr (by decide) fun name hname => get?_enrich hname]
    exact named_copyFound_iff plain_hashNames hnamed hlabels _
  · cases hkeep : (derive query time labels).keep with
    | false => simp [derive_of_rejects hkeep, hlabels]
    | true =>
      rw [Labels.named_congr (by decide) fun name hname => get?_derive hkeep hname]
      simpa using named_copyFound_iff (by decide) hnamed hlabels _

/-! ## §3 Filters one after the other -/

/-- The labels of a row that only names its pod. -/
def podLabels (pod : String) : Labels := .singleton "pod_name" pod

theorem name?_podLabels {pod : String} (hpod : pod ≠ "") : name? (podLabels pod) = some pod := by
  have hends : Text.endsIn "pod_name" "pod_name" = true := by decide
  simp [name?, podLabels, NameMap.singleton, hends, hpod]

theorem named_podLabels (pod : String) : (podLabels pod).Named := by
  intro name hname
  obtain rfl := List.mem_singleton.mp hname
  exact (by decide : Text.isLabelName "pod_name" = true)

/-- **When label names stay in form**: with answers whose label names are in form, any run of the
    library's filters keeps those of all samples in form just if, whatever pod and whatever time is
    asked for, the row that comes first in the answer gives no value to the empty text and to none
    that begins with a digit. -/
theorem names_stay_valid_iff (query : SubQuery) (hnamed : query.Named) :
    (∀ time names (labels : Labels), labels.Named →
      (builtin.left query time names labels).Named) ↔
    ∀ time pod row, pod ≠ "" →
      (row? (query (selector "kube_pod_labels" pod) time) = some row →
        GivesToNames ["pod_template_hash", "controller_revision_hash"] row.labels) ∧
      (row? (query (selector "kube_pod_labels_ch" pod) time) = some row →
        GivesToNames ["pod_template_hash"] row.labels) := by
  constructor
  · -- A row that only names its pod shows what the pod gives, each filter run alone.
    intro h time pod row hpod
    have hmark : ¬(podLabels pod).contains derivedLabel := by
      simp [NameMap.contains_eq, podLabels, derivedLabel]
    obtain ⟨-, henrich, hderive⟩ := named_apply_builtin_iff time hnamed (named_podLabels pod)
    have hfound (metric : String) : found? metric query time (podLabels pod) =
        row? (query (selector metric pod) time) := by
      rw [found?, name?_podLabels hpod, Option.bind_some]
    rw [hfound] at henrich hderive
    refine ⟨henrich.mp ?_ row, hderive.mp ?_ ?_ row⟩
    · exact h time ["app_append_labels"] _ (named_podLabels pod)
    · exact h time ["app_define_metric"] _ (named_podLabels pod)
    · rw [apply_derive, derive_of_name hmark (name?_podLabels hpod)]
  · intro h time names labels hlabels
    -- A row that was found is the first one of the answer for some pod.
    have hfound {metric : String} {labels : Labels} {row : Row}
        (hrow : found? metric query time labels = some row) :
        ∃ pod, pod ≠ "" ∧ row? (query (selector metric pod) time) = some row := by
      obtain ⟨pod, hname, hrow⟩ := Option.bind_eq_some_iff.mp hrow
      exact ⟨pod, (name?_eq_some_iff.mp hname).2, hrow⟩
    -- Whichever filter of the list comes next, it keeps names in form.
    refine left_induction (motive := Labels.Named) (fun name _ labels hlabels => ?_) hlabels
    obtain ⟨hdecode, henrich, hderive⟩ := named_apply_builtin_iff time hnamed hlabels
    rw [apply_builtin]
    split_ifs with hname hname hname
    · rw [← apply_decode]
      exact hdecode
    · rw [← apply_enrich]
      refine henrich.mpr fun row hrow => ?_
      obtain ⟨pod, hpod, hrow⟩ := hfound hrow
      exact (h time pod row hpod).1 hrow
    · rw [← apply_derive]
      refine hderive.mpr fun _ row hrow => ?_
      obtain ⟨pod, hpod, hrow⟩ := hfound hrow
      exact (h time pod row hpod).2 hrow
    · exact hlabels

/-- A run of all filters over the row of a pod, whose labels are meant for names. -/
theorem names_stay_valid_iff_of_web :
    let names := ["app_label_2_ch", "app_append_labels", "app_define_metric"]
    (webAnswer.Named ∧ webLabels.Named) ∧
      GivesToNames hashNames webPod ∧ GivesToNames ["pod_template_hash"] webPod ∧
      (builtin.left webAnswer 7 names webLabels).Named := by
  intro names
  have hnamed : webAnswer.Named := SubQuery.named_const (by decide)
  have henrich : GivesToNames hashNames webPod :=
    givesToNames_of_copied plain_hashNames (by decide)
  have hderive : GivesToNames ["pod_template_hash"] webPod :=
    givesToNames_of_copied (by decide) (by decide)
  have hlabels : webLabels.Named := by decide
  refine ⟨⟨hnamed, hlabels⟩, henrich, hderive, ?_⟩
  refine (names_stay_valid_iff webAnswer hnamed).mpr ?_ 7 names _ hlabels
  intro time pod row _
  constructor
  · rintro ⟨⟩
    exact henrich
  · rintro ⟨⟩
    exact hderive

/-- A pod of which one label has nothing behind the prefix, and another one a digit. -/
def digitAnswer : SubQuery := fun _ _ =>
  .ok [⟨{ entries := [("label_", "x"), ("label_1app", "web")] }, ⟨0, 1⟩⟩]

/-- The row of that pod is given both, under texts that are no names. -/
theorem not_names_stay_valid_of_digit :
    ¬ ∀ (query : SubQuery) (time : Int) (names : List String) (labels : Labels),
      query.Named → (∀ name ∈ names, builtin.contains name = true) → labels.Named →
        (builtin.left query time names labels).Named := by
  intro h
  have hnamed := h digitAnswer 0 ["app_append_labels"] (podLabels "web-1")
    (SubQuery.named_const (by decide)) (by decide) (by decide)
  exact absurd hnamed (by decide)

end FilterRegistry

end LabeledSeries
