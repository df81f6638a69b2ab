import LabeledSeries.Proofs.Call.EmptyLabels
import LabeledSeries.Proofs.Instant.Renaming
import LabeledSeries.Proofs.Rule.DecodedLabels
import LabeledSeries.Proofs.Rule.PodLabels

/-!
# Empty labels in renames and filters

Label sets that are built by a filter hold no empty labels, but those that it starts from may.  An
empty label should count as a missing one there as in calls.  Renames and filters look for labels by
their names, however, so an empty label can be found where a missing one would not be, and takes the
place of one that is not empty.

Each of the four has its own way to do so:

- `Renaming.Erases` — an empty label is renamed to a name that holds a text
- `Decode.Erases` — an empty label with the ending of encoded ones is decoded to the empty text,
  which removes the label of the plain name
- `Pod.Hides` — the first label that names a pod is empty, and another one is not looked at
- `Pod.derive` rejects rows with the mark of derived series, also where it is empty

Apart from these cases a row stripped of its empty labels is treated as it was
(`empty_labels_count_as_missing_iff`).
-/

namespace LabeledSeries

/-! ## §1 What is the same without empty labels -/

/-- Two outcomes of a filter that are the same up to empty labels. -/
structure Outcome.SameWithoutEmpty (outcome other : Outcome) : Prop where
  keep_eq : outcome.keep = other.keep
  asked_eq : outcome.asked = other.asked
  labels_eq : outcome.labels.withoutEmpty = other.labels.withoutEmpty

namespace Labels

variable {labels other : Labels}

theorem get?_withoutEmpty_eq_some_iff {name text : String} :
    labels.withoutEmpty.get? name = some text ↔ labels.get? name = some text ∧ text ≠ "" := by
  rw [get?_withoutEmpty, present?, Option.filter_eq_some_iff, bne_iff_ne]

theorem value_eq_of_get? {name text : String} (h : labels.get? name = some text) :
    labels.value name = text := by
  rw [value, h]
  rfl

theorem contains_withoutEmpty_iff {name : String} :
    labels.withoutEmpty.contains name ↔ labels.value name ≠ "" := by
  -- Without empty labels a name is held just if it reads as some text.
  rw [NameMap.contains_eq, get?_withoutEmpty, present?_eq_if]
  split_ifs with hvalue <;> simp [hvalue]

theorem contains_of_value_ne {name : String} (h : labels.value name ≠ "") :
    labels.contains name := by
  cases hget : labels.get? name with
  | none => simp [value, hget] at h
  | some text => rw [NameMap.contains_eq, hget, Option.isSome_some]

theorem value_assign (labels : Labels) (name text other : String) :
    (labels.assign name text).value other = if name = other then text else labels.value other := by
  rw [value, get?_assign]
  -- The empty text removes the label, which then reads as the empty text.
  by_cases hname : name = other
  · by_cases htext : text = "" <;> simp [hname, htext]
  · simp [hname, value]

namespace Alike

theorem assign (h : labels.Alike other) (name text : String) :
    Labels.Alike (labels.assign name text) (other.assign name text) where
  value_eq reading := by rw [value_assign, value_assign, h.value_eq]

theorem assignAll (h : labels.Alike other) (entries : List (String × String)) :
    Labels.Alike (labels.assignAll entries) (other.assignAll entries) := by
  induction entries generalizing labels other with
  | nil => exact h
  | cons entry entries ih => exact ih (h.assign entry.1 entry.2)

end Alike

end Labels

/-! ## §2 Renames -/

namespace Renaming

/-- A live pair behind which no other one to the same name is live. -/
structure LastLive (renames : List (String × String)) (labels : Labels) (i : Nat)
    (old new value : String) : Prop where
  live : Live renames labels i old new value
  last : ∀ j old' value', Live renames labels j old' new value' → j ≤ i

/-- Renames erase what stands under a name: the last live pair to it has an empty value, and there
    would be a text under the name without this pair, either one that an earlier pair moves there or
    the one that is there. -/
inductive Erases (renames : List (String × String)) (labels : Labels) (name : String) : Prop where
  | moved {i j : Nat} {old old' value : String} (hlast : LastLive renames labels i old name "")
      (hlive : Live renames labels j old' name value) (hvalue : value ≠ "")
  | kept {i : Nat} {old : String} (hlast : LastLive renames labels i old name "")
      (hold : name ∉ renames.map Prod.fst) (hvalue : labels.value name ≠ "")

variable {renames : List (String × String)} {labels : Labels} {name : String}

theorem Erases.lastLive (h : Erases renames labels name) :
    ∃ i old, LastLive renames labels i old name "" := by
  cases h with
  | moved hlast => exact ⟨_, _, hlast⟩
  | kept hlast => exact ⟨_, _, hlast⟩

theorem LastLive.unique {i j : Nat} {old old' value value' : String}
    (h : LastLive renames labels i old name value)
    (h' : LastLive renames labels j old' name value') : value = value' := by
  -- Neither pair can be later than the other, so they are one pair.
  obtain rfl : i = j := le_antisymm (h'.last i old value h.live) (h.last j old' value' h'.live)
  obtain rfl : old = old' := by
    have hpair := h.live.pair.symm.trans h'.live.pair
    simpa using hpair
  exact Option.some.inj (h.live.found.symm.trans h'.live.found)

theorem live_withoutEmpty_iff {i : Nat} {old value : String} :
    Live renames labels.withoutEmpty i old name value ↔
      Live renames labels i old name value ∧ value ≠ "" := by
  constructor
  · rintro ⟨hpair, hfound, hfirst⟩
    -- Earlier pairs have other old names, whatever is empty.
    obtain ⟨hfound, hvalue⟩ := Labels.get?_withoutEmpty_eq_some_iff.mp hfound
    exact ⟨⟨hpair, hfound, hfirst⟩, hvalue⟩
  · rintro ⟨⟨hpair, hfound, hfirst⟩, hvalue⟩
    exact ⟨hpair, Labels.get?_withoutEmpty_eq_some_iff.mpr ⟨hfound, hvalue⟩, hfirst⟩

/-- What renames leave is what the last live pair moves, or what is left without one. -/
theorem value_apply (renames : List (String × String)) (labels : Labels) (name : String) :
    (∃ i old, LastLive renames labels i old name ((apply ⟨renames⟩ labels).value name)) ∨
      ((∀ i old value, ¬Live renames labels i old name value) ∧
        (apply ⟨renames⟩ labels).value name =
          if name ∈ renames.map Prod.fst then "" else labels.value name) := by
  have hleaves := leaves_apply renames labels name
  unfold Labels.value
  -- A last pair leaves its value; without one the name is taken out or left alone.
  generalize (apply ⟨renames⟩ labels).get? name = left at hleaves ⊢
  cases hleaves with
  | moved hlive hlast => exact .inl ⟨_, _, hlive, hlast⟩
  | takenOut hnone hold => exact .inr ⟨hnone, (if_pos hold).symm⟩
  | kept hnone hold => exact .inr ⟨hnone, (if_neg hold).symm⟩

/-- Where the last live pair has an empty value, renames leave the same without empty labels just if
    they do not erase a text: without empty labels another pair is the last one, or none is. -/
theorem value_apply_withoutEmpty_eq_empty_iff {i : Nat} {old : String}
    (hlast : LastLive renames labels i old name "") :
    (apply ⟨renames⟩ labels.withoutEmpty).value name = "" ↔ ¬Erases renames labels name := by
  have hstripped := value_apply renames labels.withoutEmpty name
  simp only [live_withoutEmpty_iff, Labels.value_withoutEmpty] at hstripped
  rcases hstripped with ⟨j, old', hlast'⟩ | ⟨hnone, hvalue⟩
  · -- Another pair is the last one now, and it moves a text.
    obtain ⟨hlive, hvalue⟩ := live_withoutEmpty_iff.mp hlast'.live
    exact iff_of_false hvalue (not_not.mpr (.moved hlast hlive hvalue))
  · -- No pair is live any more, so the name keeps its text unless it is an old name.
    rw [hvalue, ite_eq_left_iff]
    constructor
    · rintro hempty (⟨-, hlive, hfilled⟩ | ⟨-, hkept, hfilled⟩)
      · exact hnone _ _ _ ⟨hlive, hfilled⟩
      · exact hfilled (hempty hkept)
    · exact fun herases hkept => by_contra fun hfilled => herases (.kept hlast hkept hfilled)

/-- **Renames** leave the same under a name of a label set and of that without its empty labels, if
    they do not erase it. -/
theorem value_apply_withoutEmpty_eq_iff :
    (apply ⟨renames⟩ labels.withoutEmpty).value name = (apply ⟨renames⟩ labels).value name ↔
      ¬Erases renames labels name := by
  have hstripped := value_apply renames labels.withoutEmpty name
  simp only [live_withoutEmpty_iff, Labels.value_withoutEmpty] at hstripped
  rcases value_apply renames labels name with ⟨i, old, hlast⟩ | ⟨hnone, hgiven⟩
  · by_cases hempty : (apply ⟨renames⟩ labels).value name = ""
    · rw [hempty] at hlast ⊢
      exact value_apply_withoutEmpty_eq_empty_iff hlast
    · -- The pair is the last one without empty labels, too.
      have hlast' : LastLive renames labels.withoutEmpty i old name _ :=
        ⟨live_withoutEmpty_iff.mpr ⟨hlast.live, hempty⟩,
          fun j other text hlive => hlast.last j other text (live_withoutEmpty_iff.mp hlive).1⟩
      refine iff_of_true ?_ fun herases => ?_
      · rcases hstripped with ⟨_, _, hlast''⟩ | ⟨hnone, -⟩
        · exact hlast''.unique hlast'
        · exact absurd ⟨hlast.live, hempty⟩ (hnone i old _)
      · obtain ⟨_, _, hlast''⟩ := herases.lastLive
        exact hempty (hlast.unique hlast'')
  · -- No pair is live in either.
    rcases hstripped with ⟨i, old, hlast⟩ | ⟨-, hvalue⟩
    · exact absurd (live_withoutEmpty_iff.mp hlast.live).1 (hnone i old _)
    · refine iff_of_true (hvalue.trans hgiven.symm) fun herases => ?_
      obtain ⟨_, _, hlast⟩ := herases.lastLive
      exact hnone _ _ _ hlast.live

end Renaming

/-! ## §3 Decoding -/

namespace Decode

/-- Decoding erases what stands under a name: the encoded label of the name is empty, and there is a
    text under the name, which is not itself taken out to be decoded. -/
structure Erases (labels : Labels) (name : String) : Prop where
  name_ne : name ≠ ""
  encoded_empty : labels.get? (name ++ "_b64") = some ""
  value_ne : labels.value name ≠ ""
  not_isEncoded : ¬IsEncoded labels name

variable {labels : Labels} {name : String}

theorem value_decodeAll (labels : Labels) (name : String) :
    (decodeAll labels).value name =
      (textOf? (encoded labels) name).getD
        (if takesOut (encoded labels) name then "" else labels.value name) := by
  -- A text that is stored counts before what was left by taking out.
  rw [Labels.value, get?_decodeAll]
  cases textOf? (encoded labels) name with
  | none => by_cases htaken : takesOut (encoded labels) name <;> simp [htaken, Labels.value]
  | some text => by_cases hempty : text = "" <;> simp [hempty]

theorem encodes_withoutEmpty_iff {text : String} :
    Encodes labels.withoutEmpty name text ↔
      Encodes labels name text ∧ labels.value (name ++ "_b64") ≠ "" := by
  simp only [Encodes, Labels.get?_withoutEmpty_eq_some_iff]
  constructor
  · -- A label with a text is encoded in both sets, with the same text.
    rintro ⟨hname, value, ⟨hget, hvalue⟩, hdecode⟩
    exact ⟨⟨hname, value, hget, hdecode⟩, by rwa [Labels.value_eq_of_get? hget]⟩
  · rintro ⟨⟨hname, value, hget, hdecode⟩, hvalue⟩
    rw [Labels.value_eq_of_get? hget] at hvalue
    exact ⟨hname, value, ⟨hget, hvalue⟩, hdecode⟩

theorem isEncoded_withoutEmpty_iff :
    IsEncoded labels.withoutEmpty name ↔ IsEncoded labels name ∧ labels.value name ≠ "" := by
  constructor
  · rintro ⟨plain, text, rfl, hencodes⟩
    obtain ⟨hencodes, hvalue⟩ := encodes_withoutEmpty_iff.mp hencodes
    exact ⟨⟨plain, text, rfl, hencodes⟩, hvalue⟩
  · rintro ⟨⟨plain, text, rfl, hencodes⟩, hvalue⟩
    exact ⟨plain, text, rfl, encodes_withoutEmpty_iff.mpr ⟨hencodes, hvalue⟩⟩

/-- **Decoding** leaves the same under a name of a label set and of that without its empty labels,
    if it does not erase it. -/
theorem value_decodeAll_withoutEmpty_eq_iff :
    (decodeAll labels.withoutEmpty).value name = (decodeAll labels).value name ↔
      ¬Erases labels name := by
  rw [value_decodeAll, value_decodeAll, Labels.value_withoutEmpty]
  -- What is left where nothing is stored is the same, as empty labels do not count.
  have hleft : (if takesOut (encoded labels.withoutEmpty) name then "" else labels.value name) =
      if takesOut (encoded labels) name then "" else labels.value name := by
    by_cases hvalue : labels.value name = ""
    · simp [hvalue]
    · have htaken :
          takesOut (encoded labels.withoutEmpty) name = takesOut (encoded labels) name := by
        rw [Bool.eq_iff_iff, takesOut_encoded, takesOut_encoded,
          isEncoded_withoutEmpty_iff, and_iff_left hvalue]
      rw [htaken]
  rw [hleft]
  by_cases hempty : name ≠ "" ∧ labels.get? (name ++ "_b64") = some ""
  · -- The empty text is decoded and stored over what is there, but not without empty labels.
    obtain ⟨hname, hget⟩ := hempty
    have hgiven : textOf? (encoded labels) name = some "" :=
      textOf?_encoded.mpr ⟨hname, "", hget, by decide⟩
    have hnone : textOf? (encoded labels.withoutEmpty) name = none := by
      refine textOf?_encoded_eq_none ?_
      rintro ⟨text, hencodes⟩
      exact (encodes_withoutEmpty_iff.mp hencodes).2 (Labels.value_eq_of_get? hget)
    rw [hgiven, hnone, Option.getD_none, Option.getD_some]
    -- The name is taken out on both sides, or on neither.
    split
    · rename_i htaken
      exact iff_of_true rfl fun herases => herases.not_isEncoded (takesOut_encoded.mp htaken)
    · rename_i htaken
      rw [takesOut_encoded] at htaken
      exact ⟨fun hvalue herases => herases.value_ne hvalue,
        fun herases => by_contra fun hvalue => herases ⟨hname, hget, hvalue, htaken⟩⟩
  · -- No encoded label of this name is empty, so the same text is decoded.
    have hsame : textOf? (encoded labels.withoutEmpty) name = textOf? (encoded labels) name := by
      refine Option.ext fun text => ?_
      rw [textOf?_encoded, textOf?_encoded, encodes_withoutEmpty_iff]
      refine and_iff_left_of_imp ?_
      rintro ⟨hname, value, hget, -⟩ hvalue
      rw [Labels.value_eq_of_get? hget] at hvalue
      exact hempty ⟨hname, hvalue ▸ hget⟩
    rw [hsame]
    exact iff_of_true rfl fun herases => hempty ⟨herases.name_ne, herases.encoded_empty⟩

theorem filter_sameWithoutEmpty_iff (query : SubQuery) (time : Int) (labels : Labels) :
    (filter query time labels.withoutEmpty).SameWithoutEmpty (filter query time labels) ↔
      ∀ name, ¬Erases labels name := by
  have hlabels : (decodeAll labels.withoutEmpty).withoutEmpty = (decodeAll labels).withoutEmpty ↔
      ∀ name, ¬Erases labels name := by
    rw [Labels.withoutEmpty_eq_iff]
    exact forall_congr' fun name => value_decodeAll_withoutEmpty_eq_iff
  exact ⟨fun hsame => hlabels.mp hsame.labels_eq, fun hnone => ⟨rfl, rfl, hlabels.mpr hnone⟩⟩

end Decode

/-! ## §4 Pods -/

namespace Pod

/-- The first label that names a pod is empty, and another one is not. -/
def Hides (labels : Labels) : Prop :=
  NamesPod labels "" ∧ ∃ start, labels.value (start ++ "pod_name") ≠ ""

variable {labels : Labels} {query : SubQuery} {time : Int}

theorem name?_eq_none_iff :
    name? labels = none ↔
      NamesPod labels "" ∨ ∀ start, labels.get? (start ++ "pod_name") = none := by
  rw [namesPod_iff, name?]
  cases hfind : labels.entries.find? fun entry => Text.endsIn entry.1 "pod_name" with
  -- No label names a pod.
  | none =>
    refine iff_of_true rfl (.inr fun start => Option.eq_none_iff_forall_ne_some.mpr ?_)
    intro value hvalue
    have hmem := NameMap.mem_entries_iff.mpr hvalue
    exact List.find?_eq_none.mp hfind _ hmem (Text.endsIn_iff.mpr ⟨start, rfl⟩)
  | some entry =>
    -- A label names a pod, so the pod is missing only because the label is empty.
    obtain ⟨start, hstart⟩ := endsIn_of_find? hfind
    have hvalue := NameMap.mem_entries_iff.mp (List.mem_of_find?_eq_some hfind)
    have hheld : ¬∀ start, labels.get? (start ++ "pod_name") = none := fun hnone => by
      rw [hstart, hnone start] at hvalue
      cases hvalue
    simp [hheld]

/-- Without empty labels a pod is named unless there is no text that names one. -/
theorem name?_withoutEmpty_eq_none_iff :
    name? labels.withoutEmpty = none ↔ ∀ start, labels.value (start ++ "pod_name") = "" := by
  rw [name?_eq_none_iff, or_iff_right]
  · simp only [Labels.get?_withoutEmpty, Labels.present?_eq_if, ite_eq_left_iff, reduceCtorEq,
      imp_false, not_not]
  · rintro ⟨start, hget, -⟩
    exact (Labels.get?_withoutEmpty_eq_some_iff.mp hget).2 rfl

/-- A pod that is named is named without empty labels. -/
theorem name?_withoutEmpty {pod : String}
    (hname : name? labels = some pod) : name? labels.withoutEmpty = some pod := by
  obtain ⟨⟨start, hget, hfirst⟩, hpod⟩ := name?_eq_some_iff.mp hname
  rw [name?_eq_some_iff]
  refine ⟨⟨start, ?_, fun other hother => ?_⟩, hpod⟩
  · exact Labels.get?_withoutEmpty_eq_some_iff.mpr ⟨hget, hpod⟩
  · -- A label that is left was there before, so the first one still comes first.
    rw [NameMap.contains_eq] at hother
    obtain ⟨value, hvalue⟩ := Option.isSome_iff_exists.mp hother
    refine hfirst other ((NameMap.contains_eq _ _).trans (Option.isSome_iff_exists.mpr ⟨value, ?_⟩))
    exact (Labels.get?_withoutEmpty_eq_some_iff.mp hvalue).1

theorem name?_withoutEmpty_eq_iff :
    name? labels.withoutEmpty = name? labels ↔ ¬Hides labels := by
  cases hname : name? labels with
  | some pod =>
    refine iff_of_true (name?_withoutEmpty hname) fun hhides => ?_
    cases hname.symm.trans (name?_eq_none_iff.mpr (.inl hhides.1))
  | none =>
    rw [name?_withoutEmpty_eq_none_iff, Hides]
    rcases name?_eq_none_iff.mp hname with hempty | hnone
    · -- The first label is empty, so any label with a text would be found without it.
      simp [hempty]
    · simp [Labels.value, hnone]

theorem identify_alike {other : Labels} (h : labels.Alike other) (pod : Labels) :
    (identify pod labels).Alike (identify pod other) := by
  unfold identify
  rw [h.value_eq "appid", h.value_eq "clusterId"]
  dsimp only
  -- Which identifier is stored depends on what the labels read, which is the same.
  split_ifs
  · exact h
  · exact h.assign _ _
  · exact h.assign _ _
  · exact h

theorem copyFound_alike {other : Labels} (h : labels.Alike other) (excluded : List String)
    (found : Option Row) : (copyFound excluded found labels).Alike
      (copyFound excluded found other) := by
  cases found with
  | none => exact h
  | some row => exact h.assignAll _

/-- Rows that read the same and name the same pod are enriched in the same way. -/
theorem enrich_alike {other : Labels} (h : labels.Alike other)
    (hname : name? labels = name? other) :
    (enrich query time labels).SameWithoutEmpty (enrich query time other) := by
  -- Both name a pod or neither does; a pod gives the same row on both sides.
  cases hother : name? other with
  | none =>
    rw [enrich_of_nameless (hname.trans hother), enrich_of_nameless hother]
    exact ⟨rfl, rfl, h.withoutEmpty_eq⟩
  | some pod =>
    rw [enrich_of_name (hname.trans hother), enrich_of_name hother]
    refine ⟨rfl, rfl, Labels.Alike.withoutEmpty_eq ?_⟩
    cases row? (query (selector "kube_pod_labels" pod) time) with
    | none => exact h
    | some row => exact identify_alike (h.assignAll _) row.labels

theorem enrich_sameWithoutEmpty_iff :
    (enrich query time labels.withoutEmpty).SameWithoutEmpty (enrich query time labels) ↔
      ¬Hides labels := by
  rw [← name?_withoutEmpty_eq_iff]
  refine ⟨fun hsame => ?_, enrich_alike (.withoutEmpty labels)⟩
  -- A query is asked just for the pod that is named.
  cases hname : name? labels with
  | some pod => exact name?_withoutEmpty hname
  | none =>
    cases hstripped : name? labels.withoutEmpty with
    | none => rfl
    | some pod =>
      have hasked := hsame.asked_eq
      rw [enrich_of_name hstripped, enrich_of_nameless hname] at hasked
      cases hasked

/-- Rows without a mark that read the same and name the same pod are derived from in the same
    way. -/
theorem derive_alike {other : Labels} (h : labels.Alike other)
    (hname : name? labels = name? other) (hmark : ¬labels.contains derivedLabel)
    (hmark' : ¬other.contains derivedLabel) :
    (derive query time labels).SameWithoutEmpty (derive query time other) := by
  cases hother : name? other with
  | none =>
    rw [derive_of_nameless (hname.trans hother), derive_of_nameless hother]
    exact ⟨rfl, rfl, h.withoutEmpty_eq⟩
  | some pod =>
    rw [derive_of_name hmark (hname.trans hother), derive_of_name hmark' hother]
    exact ⟨rfl, rfl, ((copyFound_alike h _ _).assign derivedLabel derivedValue).withoutEmpty_eq⟩

/-- A row without a text as its mark is derived from in the same way without empty labels just if no
    pod is named in either way, or it has no mark and names the same pod. -/
theorem derive_sameWithoutEmpty_iff_of_unmarked
    (hvalue : labels.value derivedLabel = "") :
    (derive query time labels.withoutEmpty).SameWithoutEmpty (derive query time labels) ↔
      name? labels.withoutEmpty = none ∨
        (¬labels.contains derivedLabel ∧ name? labels.withoutEmpty = name? labels) := by
  have halike : labels.withoutEmpty.Alike labels := .withoutEmpty labels
  have hmark : ¬labels.withoutEmpty.contains derivedLabel := by
    rw [Labels.contains_withoutEmpty_iff, hvalue]
    simp
  cases hstripped : name? labels.withoutEmpty with
  -- Nothing names a pod, so both rows are dropped.
  | none =>
    have hname : name? labels = none :=
      Option.eq_none_iff_forall_ne_some.mpr fun pod hpod => by
        cases hstripped.symm.trans (name?_withoutEmpty hpod)
    rw [derive_of_nameless hstripped, derive_of_nameless hname]
    exact iff_of_true ⟨rfl, rfl, halike.withoutEmpty_eq⟩ (.inl rfl)
  | some pod =>
    rw [or_iff_right (by simp)]
    constructor
    · -- Without empty labels the row stays, so it has to stay with them.
      intro hsame
      have hkeep := hsame.keep_eq
      rw [derive_of_name hmark hstripped] at hkeep
      -- With an empty mark the row is dropped.
      by_cases hgiven : labels.contains derivedLabel
      · rw [derive_of_marked hgiven] at hkeep
        cases hkeep
      · refine ⟨hgiven, ?_⟩
        cases hname : name? labels with
        | none =>
          rw [derive_of_nameless hname] at hkeep
          cases hkeep
        | some found => rw [← hstripped, name?_withoutEmpty hname]
    · rintro ⟨hgiven, hname⟩
      exact derive_alike halike (hstripped.trans hname) hmark hgiven

theorem derive_sameWithoutEmpty_iff :
    (derive query time labels.withoutEmpty).SameWithoutEmpty (derive query time labels) ↔
      labels.value derivedLabel ≠ "" ∨ (∀ start, labels.value (start ++ "pod_name") = "") ∨
        (¬labels.contains derivedLabel ∧ ¬Hides labels) := by
  by_cases hvalue : labels.value derivedLabel = ""
  · rw [derive_sameWithoutEmpty_iff_of_unmarked hvalue, name?_withoutEmpty_eq_none_iff,
      name?_withoutEmpty_eq_iff, or_iff_right (not_not.mpr hvalue)]
  · -- The mark is there in both.
    rw [derive_of_marked (Labels.contains_withoutEmpty_iff.mpr hvalue),
      derive_of_marked (Labels.contains_of_value_ne hvalue)]
    exact iff_of_true ⟨rfl, rfl, (Labels.Alike.withoutEmpty labels).withoutEmpty_eq⟩ (.inl hvalue)

end Pod

/-! ## §5 Calls and filters -/

/-- Renaming a row stripped of its empty labels is renaming the row, where nothing is erased. -/
theorem Renaming.act_withoutEmpty_eq_iff {renames : List (String × String)} {row : Row} :
    (act renames row.withoutEmpty).withoutEmpty = (act renames row).withoutEmpty ↔
      ∀ name, ¬Erases renames row.labels name := by
  have hrow : (act renames row.withoutEmpty).withoutEmpty = (act renames row).withoutEmpty ↔
      (apply ⟨renames⟩ row.labels.withoutEmpty).withoutEmpty =
        (apply ⟨renames⟩ row.labels).withoutEmpty := by
    simp [act, Row.withoutEmpty, Row.withLabels]
  rw [hrow, Labels.withoutEmpty_eq_iff]
  exact forall_congr' fun name => value_apply_withoutEmpty_eq_iff

/-- What a renaming of rows makes of its arguments, if they are pairs of label names. -/
theorem Renaming.call_eq (names : List String) (rows : InstantVector) (time : Int) :
    FunctionTable.builtin.call "labels_rename" (.vector rows :: names.map .text) time =
      (ofNames "labels_rename" names).map fun plan =>
        .vector (rows.map (act plan.renames)) := by
  have hcall := FunctionTable.call_builtin .labelsRename (.vector rows :: names.map .text) time
  rw [Builtin.call, Builtin.rows_of_texts rfl, Builtin.plan] at hcall
  refine hcall.trans ?_
  show (do return Value.vector (← (do
    let plan ← Plan.renaming <$> ofNames "labels_rename" names
    return plan.run time [rows] []))) = _
  cases ofNames "labels_rename" names <;> rfl

/-- **Empty labels count as missing, unless they take a place**: a call that renames labels gives
    the same up to empty labels for rows stripped of them just if it erases no text of a row.  The
    filters of the library do the same with a row stripped of its empty labels, with one decision
    and the same questions, just if
    - for the one that decodes labels, it erases no text,
    - for the one that enriches a row, no empty label hides its pod,
    - for the one that derives from a row, there is a mark that is not empty, or no pod, or neither
      a mark nor a hidden pod. -/
theorem empty_labels_count_as_missing_iff (query : SubQuery) (time : Int) (rows : InstantVector)
    (names : List String) (labels : Labels) :
    let apply (filter : String) (labels : Labels) : Outcome :=
      FilterRegistry.builtin.apply filter query time labels
    (SameOutcome (fun stripped given => stripped.withoutEmpty = given.withoutEmpty)
        (FunctionTable.builtin.call "labels_rename"
          (.vector (rows.map Row.withoutEmpty) :: names.map .text) time)
        (FunctionTable.builtin.call "labels_rename" (.vector rows :: names.map .text) time) ↔
      ∀ plan, Renaming.ofNames "labels_rename" names = .ok plan → ∀ row ∈ rows, ∀ name,
        ¬Renaming.Erases plan.renames row.labels name) ∧
    ((apply "app_label_2_ch" labels.withoutEmpty).SameWithoutEmpty
        (apply "app_label_2_ch" labels) ↔ ∀ name, ¬Decode.Erases labels name) ∧
    ((apply "app_append_labels" labels.withoutEmpty).SameWithoutEmpty
        (apply "app_append_labels" labels) ↔ ¬Pod.Hides labels) ∧
    ((apply "app_define_metric" labels.withoutEmpty).SameWithoutEmpty
        (apply "app_define_metric" labels) ↔
      labels.value derivedLabel ≠ "" ∨ (∀ start, labels.value (start ++ "pod_name") = "") ∨
        (¬labels.contains derivedLabel ∧ ¬Pod.Hides labels)) := by
  intro apply
  simp only [apply, FilterRegistry.apply_decode, FilterRegistry.apply_enrich,
    FilterRegistry.apply_derive]
  refine ⟨?_, ?_, Pod.enrich_sameWithoutEmpty_iff, Pod.derive_sameWithoutEmpty_iff⟩
  · rw [Renaming.call_eq, Renaming.call_eq]
    cases Renaming.ofNames "labels_rename" names with
    | error fault => exact iff_of_true (.error fault) (by simp)
    | ok plan =>
      simp only [Except.map, SameOutcome.ok_iff, Except.ok.injEq, forall_eq', Value.withoutEmpty,
        Value.vector.injEq, List.map_map, List.map_inj_left]
      exact forall₂_congr fun row _ => Renaming.act_withoutEmpty_eq_iff
  · exact Decode.filter_sameWithoutEmpty_iff query time labels

/-- The labels of a row that names its pod and has an empty label of another name. -/
def nodelessLabels : Labels := { entries := [("node", ""), ("pod_name", "p")] }

theorem eq_node_of_get? {name : String} (h : nodelessLabels.get? name = some "") :
    name = "node" := by
  simpa [nodelessLabels] using NameMap.mem_entries_iff.mpr h

theorem get?_nodelessLabels_append {start trailing : String}
    (htrailing : Text.endsIn "node" trailing = false) :
    nodelessLabels.get? (start ++ trailing) ≠ some "" := by
  intro h
  rw [← eq_node_of_get? h, Text.endsIn_iff.mpr ⟨start, rfl⟩] at htrailing
  cases htrailing

/-- The empty label of that row takes no place: it is not renamed, not decoded, and names no pod. -/
theorem empty_labels_count_as_missing_iff_of_nodeless :
    let query : SubQuery := fun _ _ => .ok []
    let apply (filter : String) (labels : Labels) : Outcome :=
      FilterRegistry.builtin.apply filter query 0 labels
    let rows : InstantVector := [⟨nodelessLabels, ⟨0, 1⟩⟩]
    SameOutcome (fun stripped given => stripped.withoutEmpty = given.withoutEmpty)
      (FunctionTable.builtin.call "labels_rename"
        [.vector (rows.map Row.withoutEmpty), .text "pod_name", .text "pod"] 0)
      (FunctionTable.builtin.call "labels_rename"
        [.vector rows, .text "pod_name", .text "pod"] 0) ∧
    ∀ filter ∈ ["app_label_2_ch", "app_append_labels", "app_define_metric"],
      (apply filter nodelessLabels.withoutEmpty).SameWithoutEmpty
        (apply filter nodelessLabels) := by
  intro query apply rows
  obtain ⟨hrename, hdecode, henrich, hderive⟩ :=
    empty_labels_count_as_missing_iff query 0 rows ["pod_name", "pod"] nodelessLabels
  have hhides : ¬Pod.Hides nodelessLabels := by
    rintro ⟨⟨start, hget, -⟩, -⟩
    exact get?_nodelessLabels_append (by decide) hget
  refine ⟨hrename.mpr ?_, ?_⟩
  · intro plan hplan row hrow name herases
    cases hplan
    obtain rfl : row = ⟨nodelessLabels, ⟨0, 1⟩⟩ := by simpa [rows] using hrow
    -- A pair that is live with an empty value would rename the label of this value.
    obtain ⟨i, old, hlast⟩ := herases.lastLive
    have hmem : (old, name) ∈ [("pod_name", "pod")] := hlast.live.mem
    rw [eq_node_of_get? hlast.live.found] at hmem
    simp at hmem
  · refine List.forall_mem_cons.mpr ⟨hdecode.mpr fun name herases => ?_,
      List.forall_mem_cons.mpr ⟨henrich.mpr hhides, List.forall_mem_singleton.mpr ?_⟩⟩
    · exact get?_nodelessLabels_append (by decide) herases.encoded_empty
    · exact hderive.mpr (.inr (.inr ⟨by decide, hhides⟩))

/-- Empty labels that take a place: one is renamed to a name that holds a text, one is decoded to a
    name that holds a text, one comes before the label that names the pod, and one is the mark. -/
theorem not_empty_labels_count_as_missing :
    let query : SubQuery := fun _ _ => .ok []
    let apply (filter : String) (labels : Labels) : Outcome :=
      FilterRegistry.builtin.apply filter query 0 labels
    let renamed : Labels := { entries := [("app", "db"), ("job", "")] }
    let encoded : Labels := { entries := [("x", "keep"), ("x_b64", "")] }
    let hidden : Labels := { entries := [("app_pod_name", ""), ("pod_name", "web-1")] }
    let marked : Labels := { entries := [("mtype", ""), ("pod_name", "web-1")] }
    (Renaming.apply ⟨[("job", "app")]⟩ renamed).value "app" = "" ∧
      (Renaming.apply ⟨[("job", "app")]⟩ renamed.withoutEmpty).value "app" = "db" ∧
      (apply "app_label_2_ch" encoded).labels.value "x" = "" ∧
      (apply "app_label_2_ch" encoded.withoutEmpty).labels.value "x" = "keep" ∧
      (apply "app_append_labels" hidden).asked = [] ∧
      (apply "app_append_labels" hidden.withoutEmpty).asked =
        [("kube_pod_labels\x7bpod=\"web-1\"\x7d", 0)] ∧
      (apply "app_define_metric" marked).keep = false ∧
      (apply "app_define_metric" marked.withoutEmpty).keep = true := by
  decide

end LabeledSeries
