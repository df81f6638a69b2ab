import LabeledSeries.Proofs.Rule.RecordedLabels
import LabeledSeries.Proofs.Text.Parts

/-!
# Labels decoded all at once

The filter that decodes labels goes through the encoded ones, takes out each and stores its text
under the plain name.  A name can be both plain and encoded: the text of `a_b64_b64` is stored as
`a_b64`, which is itself taken out to be stored as `a`.  The result is nevertheless that of decoding
all labels at the same time, because a name comes before all names that it starts: a label is taken
out before its name is stored under.

§1 What a run of steps does to one name, for steps in the order of their names.

§2 Which names a label set has encoded labels of.

§3 The filter (`Decode.filter_decodes_at_once`).
-/

namespace LabeledSeries.Decode

/-! ## §1 Steps -/

/-- A label to decode: its name, its plain name, and its value. -/
abbrev Step := String × String × String

/-- Decode the labels of some steps, one after the other. -/
def replaceAll (steps : List Step) (labels : Labels) : Labels :=
  steps.foldl (fun result (name, plain, value) => replace result name plain value) labels

/-- The text that steps leave under a plain name: that of the last one that decodes to one. -/
def textOf? (steps : List Step) (name : String) : Option String :=
  steps.reverse.findSome? fun (_, plain, value) => if plain = name then decode value else none

/-- Whether steps take out the label of a name. -/
def takesOut (steps : List Step) (name : String) : Bool :=
  steps.any fun (source, _, value) => source == name && (decode value).isSome

theorem textOf?_cons (source plain value : String) (steps : List Step) (name : String) :
    textOf? ((source, plain, value) :: steps) name =
      (textOf? steps name).or (if plain = name then decode value else none) := by
  simp [textOf?, List.findSome?_append]

theorem exists_of_textOf? {steps : List Step} {name text : String}
    (h : textOf? steps name = some text) :
    ∃ source value, (source, name, value) ∈ steps ∧ decode value = some text := by
  obtain ⟨⟨source, plain, value⟩, hmem, hstep⟩ := List.exists_of_findSome?_eq_some h
  by_cases hplain : plain = name
  · subst hplain
    exact ⟨source, value, List.mem_reverse.mp hmem, by simpa using hstep⟩
  · simp [hplain] at hstep

theorem textOf?_of_mem {steps : List Step} {source name value text : String}
    (hmem : (source, name, value) ∈ steps) (hdecode : decode value = some text) :
    ∃ found, textOf? steps name = some found := by
  rw [← Option.isSome_iff_exists, textOf?, List.findSome?_isSome_iff]
  exact ⟨_, List.mem_reverse.mpr hmem, by simp [hdecode]⟩

theorem takesOut_cons (source plain value : String) (steps : List Step) (name : String) :
    takesOut ((source, plain, value) :: steps) name =
      ((source == name && (decode value).isSome) || takesOut steps name) := rfl

/-- The name of a step is its plain name with the ending. -/
def Step.IsNamed (step : Step) : Prop := step.1 = step.2.1 ++ ending

theorem Step.IsNamed.plain_lt {step : Step} (h : step.IsNamed) : step.2.1 < step.1 := by
  rw [h]
  exact Text.lt_append _ (by decide)

theorem get?_replace (labels : Labels) (source plain value name : String) :
    (replace labels source plain value).get? name =
      match decode value with
      | some text =>
        if plain = name then (if text = "" then none else some text)
        else if source = name then none else labels.get? name
      | none => labels.get? name := by
  unfold replace
  cases decode value with
  | none => rfl
  | some text => simp [Labels.get?_assign]

/-- After steps in the order of their names a name holds the text that was stored under it; without
    one it is gone if its label was taken out, and otherwise as it was. -/
theorem get?_replaceAll {steps : List Step} (hnamed : ∀ step ∈ steps, step.IsNamed)
    (horder : steps.Pairwise fun a b => a.1 < b.1) (labels : Labels) (name : String) :
    (replaceAll steps labels).get? name =
      match textOf? steps name with
      | some text => if text = "" then none else some text
      | none => if takesOut steps name then none else labels.get? name := by
  -- The labels vary in the induction: the later steps start from what the first one leaves.
  induction steps generalizing labels with
  | nil => rfl
  | cons step steps ih =>
    obtain ⟨source, plain, value⟩ := step
    obtain ⟨hstep, hnamed⟩ := List.forall_mem_cons.mp hnamed
    obtain ⟨hfirst, horder⟩ := List.pairwise_cons.mp horder
    have hrun : replaceAll ((source, plain, value) :: steps) labels =
        replaceAll steps (replace labels source plain value) := rfl
    rw [hrun, ih hnamed horder, get?_replace, textOf?_cons]
    cases htext : textOf? steps name with
    | some text => simp
    | none =>
      cases hdecode : decode value with
      | none => simp [takesOut_cons, hdecode]
      | some text =>
        by_cases hplain : plain = name
        · -- What is stored under a name is not taken out later: later steps are named behind it.
          have hkept : takesOut steps name = false := by
            rw [takesOut, List.any_eq_false]
            intro later hlater
            have hlt : name < later.1 := hplain ▸ hstep.plain_lt.trans (hfirst later hlater)
            simp [ne_of_gt hlt]
          simp [hplain, hkept]
        · by_cases hname : source = name
          · simp [takesOut_cons, hdecode, hplain, hname]
          · simp [takesOut_cons, hdecode, hplain, hname]

/-! ## §2 Encoded labels -/

/-- A label set has an encoded label of a plain name, and this is its text. -/
def Encodes (labels : Labels) (plain text : String) : Prop :=
  plain ≠ "" ∧ ∃ value, labels.get? (plain ++ "_b64") = some value ∧ decode value = some text

theorem plainName?_eq_some_iff {name plain : String} :
    plainName? name = some plain ↔ name = plain ++ ending ∧ plain ≠ "" := by
  rw [plainName?, ← Text.beforeTrailing_eq_some_iff]
  cases Text.beforeTrailing ending name with
  | none => simp
  | some start =>
    by_cases hempty : start = ""
    · simp [hempty, eq_comm]
    · simp only [if_neg hempty, Option.some.injEq, iff_self_and]
      exact fun hstart => hstart ▸ hempty

/-- The steps are the labels with the ending and something in front of it. -/
theorem mem_encoded_iff {labels : Labels} {source plain value : String} :
    (source, plain, value) ∈ encoded labels ↔
      source = plain ++ ending ∧ plain ≠ "" ∧ labels.get? source = some value := by
  simp only [encoded, List.mem_filterMap, Prod.exists, Option.map_eq_some_iff, Prod.mk.injEq,
    plainName?_eq_some_iff, NameMap.mem_entries_iff]
  constructor
  · rintro ⟨_, _, hget, _, hnamed, rfl, rfl, rfl⟩
    exact ⟨hnamed.1, hnamed.2, hget⟩
  · rintro ⟨hnamed, hplain, hget⟩
    exact ⟨source, value, hget, plain, ⟨hnamed, hplain⟩, rfl, rfl, rfl⟩

theorem isNamed_of_mem_encoded (labels : Labels) : ∀ step ∈ encoded labels, Step.IsNamed step :=
  fun _ hstep => (mem_encoded_iff.mp hstep).1

theorem pairwise_encoded (labels : Labels) :
    (encoded labels).Pairwise fun a b => a.1 < b.1 := by
  refine List.Pairwise.filterMap _ ?_ labels.ascending
  rintro ⟨name, value⟩ ⟨name', value'⟩ hlt step hstep step' hstep'
  obtain ⟨_, -, rfl⟩ := Option.map_eq_some_iff.mp hstep
  obtain ⟨_, -, rfl⟩ := Option.map_eq_some_iff.mp hstep'
  exact hlt

/-- The text of a name is that of its encoded label, which is the only one of that plain name. -/
theorem textOf?_encoded {labels : Labels} {name text : String} :
    textOf? (encoded labels) name = some text ↔ Encodes labels name text := by
  constructor
  · intro htext
    obtain ⟨source, value, hmem, hdecode⟩ := exists_of_textOf? htext
    obtain ⟨rfl, hname, hget⟩ := mem_encoded_iff.mp hmem
    exact ⟨hname, value, hget, hdecode⟩
  · rintro ⟨hname, value, hget, hdecode⟩
    have hmem : (name ++ ending, name, value) ∈ encoded labels :=
      mem_encoded_iff.mpr ⟨rfl, hname, hget⟩
    -- Some text is found, and the step it is of has the same name, so the same value.
    obtain ⟨found, hfound⟩ := textOf?_of_mem hmem hdecode
    obtain ⟨source, value', hmem', hdecode'⟩ := exists_of_textOf? hfound
    obtain ⟨rfl, -, hget'⟩ := mem_encoded_iff.mp hmem'
    have hvalue : value' = value := Option.some.inj (hget'.symm.trans hget)
    rw [hfound, ← hdecode', hvalue, hdecode]

theorem textOf?_encoded_eq_none {labels : Labels} {name : String}
    (hno : ¬∃ text, Encodes labels name text) : textOf? (encoded labels) name = none :=
  Option.eq_none_iff_forall_not_mem.mpr fun text htext =>
    hno ⟨text, textOf?_encoded.mp htext⟩

/-- A name is that of an encoded label. -/
def IsEncoded (labels : Labels) (name : String) : Prop :=
  ∃ plain text, name = plain ++ "_b64" ∧ Encodes labels plain text

theorem takesOut_encoded {labels : Labels} {name : String} :
    takesOut (encoded labels) name = true ↔ IsEncoded labels name := by
  simp only [takesOut, List.any_eq_true, Bool.and_eq_true, beq_iff_eq, Option.isSome_iff_exists,
    Prod.exists, mem_encoded_iff]
  constructor
  · rintro ⟨source, plain, value, ⟨rfl, hplain, hget⟩, rfl, text, hdecode⟩
    exact ⟨plain, text, rfl, hplain, value, hget, hdecode⟩
  · rintro ⟨plain, text, rfl, hplain, value, hget, hdecode⟩
    exact ⟨plain ++ ending, plain, value, ⟨rfl, hplain, hget⟩, rfl, text, hdecode⟩

/-! ## §3 The filter -/

/-- The steps of the filter, as a whole. -/
theorem get?_decodeAll (labels : Labels) (name : String) :
    (decodeAll labels).get? name =
      match textOf? (encoded labels) name with
      | some text => if text = "" then none else some text
      | none => if takesOut (encoded labels) name then none else labels.get? name :=
  get?_replaceAll (isNamed_of_mem_encoded labels) (pairwise_encoded labels) labels name

/-- **All labels are decoded at once**: after the filter a name that an encoded label is for holds
    the text of that label, and is gone if the text is empty; the names of the other encoded labels
    are gone; all other names are as they were.  So a label that is stored is not decoded again, and
    one that is decoded is read as it was at the start.  The filter keeps every sample and asks no
    query. -/
theorem filter_decodes_at_once (query : SubQuery) (time : Int) (labels : Labels) :
    let outcome := FilterRegistry.builtin.apply "app_label_2_ch" query time labels
    outcome.keep = true ∧ outcome.asked = [] ∧ Ascending outcome.labels.entries ∧
      ∀ name,
        (∀ text, Encodes labels name text →
          outcome.labels.get? name = if text = "" then none else some text) ∧
        ((¬∃ text, Encodes labels name text) → IsEncoded labels name →
          outcome.labels.get? name = none) ∧
        ((¬∃ text, Encodes labels name text) → ¬IsEncoded labels name →
          outcome.labels.get? name = labels.get? name) := by
  intro outcome
  have houtcome : outcome = { labels := decodeAll labels, keep := true, asked := [] } := by
    simp only [outcome, FilterRegistry.apply_builtin, if_true]
    rfl
  rw [houtcome]
  refine ⟨rfl, rfl, (decodeAll labels).ascending, fun name => ?_⟩
  simp only [get?_decodeAll]
  refine ⟨fun text htext => ?_, fun hno hsource => ?_, fun hno hsource => ?_⟩
  · rw [textOf?_encoded.mpr htext]
  · rw [textOf?_encoded_eq_none hno, if_pos (takesOut_encoded.mpr hsource)]
  · rw [textOf?_encoded_eq_none hno, if_neg (mt takesOut_encoded.mp hsource)]

/-- A chain, in which the label in the middle is both taken out and stored. -/
theorem filter_decodes_chain_at_once :
    let labels : Labels :=
      { entries := [("a", "old"), ("a_b64", "d2Vi"), ("a_b64_b64", "b64eA..0")] }
    let query : SubQuery := fun _ _ => .ok []
    let decoded := (FilterRegistry.builtin.apply "app_label_2_ch" query 0 labels).labels
    decoded.get? "a" = some "web" ∧ decoded.get? "a_b64" = some "x" ∧
      decoded.get? "a_b64_b64" = none := by
  intro labels query decoded
  obtain ⟨-, -, -, hdecoded⟩ := filter_decodes_at_once query 0 labels
  have hweb : Encodes labels "a" "web" := ⟨by decide, "d2Vi", by decide, by decide⟩
  have hx : Encodes labels "a_b64" "x" := ⟨by decide, "b64eA..0", by decide, by decide⟩
  refine ⟨(hdecoded "a").1 "web" hweb, (hdecoded "a_b64").1 "x" hx, ?_⟩
  refine (hdecoded "a_b64_b64").2.1 ?_ ⟨"a_b64", "x", rfl, hx⟩
  -- The last label of the chain is stored by none.
  rintro ⟨text, -, value, hget, -⟩
  have hnone : labels.get? ("a_b64_b64" ++ "_b64") = none := by decide
  rw [hnone] at hget
  cases hget

end LabeledSeries.Decode
