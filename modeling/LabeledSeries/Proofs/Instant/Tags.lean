import LabeledSeries.Proofs.Call.EmptyLabels
import LabeledSeries.Proofs.Call.Stages

/-!
# Tags fill what is missing

Tags are pairs of a name and a value for the rows that lack the label.  They are given one after the
other, so a tag meets the labels that those before it gave, and must not overwrite them either.

§1 says what tags leave under a name, from the labels before all of them (`Tagging.Fills`): only the
first tag with a value counts, and only where the label is missing or empty.  The proof is by
induction over the tags, where the first tag either changes nothing or fills its label for good.

From there every label that a list has a value for is filled after it, so the list changes nothing
more when it is given again (`Tagging.foldl_tag_again`).  §2 is about lists of alternating keys and
values, and §3 about calls (`Tagging.calls_fill`).
-/

namespace LabeledSeries

/-! ## §1 What tags leave -/

namespace Tagging

/-- What tags leave under a name: a value that is not empty as it was; otherwise the first value of
    the tags for the name that is not empty; without one, what was there. -/
inductive Fills (tags : List (String × String)) (labels : Labels) (name : String) :
    Option String → Prop where
  | kept {value : String} (hlabel : labels.get? name = some value) (hvalue : value ≠ "") :
      Fills tags labels name (some value)
  | filled {before after : List (String × String)} {value : String}
      (hempty : ∀ held, labels.get? name = some held → held = "")
      (htags : tags = before ++ (name, value) :: after) (hvalue : value ≠ "")
      (hbefore : ∀ earlier, (name, earlier) ∈ before → earlier = "") :
      Fills tags labels name (some value)
  | unfilled (hempty : ∀ held, labels.get? name = some held → held = "")
      (hnone : ∀ value, (name, value) ∈ tags → value = "") :
      Fills tags labels name (labels.get? name)

variable {tags : List (String × String)} {labels : Labels} {name : String} {left : Option String}

/-- A first tag that leaves a label as it is, because it is for another one, meets a value or has
    none, does not count for it. -/
theorem Fills.cons {before : Labels} {first : String × String} (h : Fills tags labels name left)
    (hget : labels.get? name = before.get? name)
    (hidle : first.1 = name → before.value name = "" → first.2 = "") :
    Fills (first :: tags) before name left := by
  -- The first tag fills the name only if it has a value for it.
  have hfirst : (∀ held, before.get? name = some held → held = "") →
      ∀ value, (name, value) = first → value = "" := by
    rintro hempty value rfl
    exact hidle rfl (Labels.value_eq_empty_iff.mpr hempty)
  cases h with
  | kept hlabel hvalue => exact .kept (hget ▸ hlabel) hvalue
  | @filled initial rest value hempty htags hvalue hbefore =>
    rw [hget] at hempty
    -- The tag that fills the name is as far behind as before, plus one.
    have hcons : first :: tags = (first :: initial) ++ (name, value) :: rest := by
      rw [htags, List.cons_append]
    refine .filled hempty hcons hvalue fun value hmem => ?_
    exact (List.mem_cons.mp hmem).elim (hfirst hempty value) (hbefore value)
  | unfilled hempty hnone =>
    rw [hget] at hempty ⊢
    refine .unfilled hempty fun value hmem => ?_
    exact (List.mem_cons.mp hmem).elim (hfirst hempty value) (hnone value)

/-- Where a label has a value, that value is left. -/
theorem Fills.eq_of_get? (h : Fills tags labels name left) {value : String}
    (hlabel : labels.get? name = some value) (hvalue : value ≠ "") : left = some value := by
  cases h with
  | kept hheld _ => rw [← hheld, hlabel]
  | filled hempty _ _ _ | unfilled hempty _ => exact absurd (hempty value hlabel) hvalue

/-- **What tags leave under a name**. -/
theorem fills_foldl (tags : List (String × String)) (labels : Labels) (name : String) :
    Fills tags labels name ((tags.foldl tag labels).get? name) := by
  -- The later tags start from what the first one leaves.
  induction tags generalizing labels with
  | nil =>
    -- Without tags the label is as it was, filled or not.
    by_cases hempty : labels.value name = ""
    · exact .unfilled (Labels.value_eq_empty_iff.mp hempty) (by simp)
    · rw [Labels.value_eq_empty_iff] at hempty
      push Not at hempty
      obtain ⟨value, hlabel, hvalue⟩ := hempty
      rw [List.foldl_nil, hlabel]
      exact .kept hlabel hvalue
  | cons first tags ih =>
    obtain ⟨key, text⟩ := first
    have hrest := ih (tag labels (key, text))
    rw [List.foldl_cons]
    -- The first tag is given or is idle, as the label under its key and its text say.
    by_cases hfills : labels.value key = "" ∧ text ≠ ""
    · obtain ⟨hempty, htext⟩ := hfills
      have htag : tag labels (key, text) = labels.insert key text := if_pos ⟨hempty, htext⟩
      rw [htag] at hrest ⊢
      by_cases hname : key = name
      · subst hname
        -- The later tags meet a value here, so the first one is the one that fills.
        rw [hrest.eq_of_get? (by rw [NameMap.get?_insert, if_pos rfl]) htext]
        exact .filled (Labels.value_eq_empty_iff.mp hempty) (List.nil_append _).symm htext (by simp)
      · exact hrest.cons (by rw [NameMap.get?_insert, if_neg hname]) fun h => absurd h hname
    · have htag : tag labels (key, text) = labels := if_neg hfills
      rw [htag] at hrest ⊢
      -- An idle tag for the name meets a value or has none.
      refine hrest.cons rfl ?_
      rintro rfl hempty
      exact not_not.mp fun htext => hfills ⟨hempty, htext⟩

/-- After the tags every label has a value that one of them has a value for. -/
theorem Fills.ne_empty (h : Fills tags labels name left) {value : String}
    (hmem : (name, value) ∈ tags) (hvalue : value ≠ "") : left.getD "" ≠ "" := by
  cases h with
  | kept _ hheld => exact hheld
  | filled _ _ htext _ => exact htext
  | unfilled _ hnone => exact absurd (hnone value hmem) hvalue

/-- Tags that were given are not given again. -/
theorem foldl_tag_again (tags : List (String × String)) (labels : Labels) :
    tags.foldl tag (tags.foldl tag labels) = tags.foldl tag labels := by
  -- Each tag meets a value under its name, or has none itself, so it is idle.
  refine List.foldlRecOn tags tag (motive := (· = tags.foldl tag labels)) rfl ?_
  rintro _ rfl entry hentry
  refine if_neg fun hfills => ?_
  exact (fills_foldl tags labels entry.1).ne_empty hentry hfills.2 hfills.1

end Tagging

/-! ## §2 Lists of keys and values -/

/-- Keys are checked like names. -/
theorem Parameters.checkKeys_eq_checkNames (function : String) (entries : List (String × String)) :
    checkKeys function entries = checkNames function (entries.map Prod.fst) := by
  induction entries with
  | nil => rfl
  | cons entry entries ih => rw [checkKeys, List.map_cons, checkNames, ih]

theorem Parameters.checkKeys_eq_ok_iff {function : String} {entries : List (String × String)} :
    checkKeys function entries = .ok () ↔ ∀ entry ∈ entries, Text.isLabelName entry.1 = true := by
  rw [checkKeys_eq_checkNames, checkNames_eq_ok_iff, List.forall_mem_map]

namespace Tagging

/-- Alternating keys and values, in pairs, the keys being label names. -/
structure Tags (texts : List String) : Prop where
  even : texts.length % 2 = 0
  keys : ∀ entry ∈ Parameters.pairUp texts, Text.isLabelName entry.1 = true

/-- Tags are read from a list just if it alternates label names and values. -/
theorem ofPairs_eq_ok_iff {function : String} {texts : List String} {plan : Tagging} :
    ofPairs function texts = .ok plan ↔ Tags texts ∧ ⟨Parameters.pairUp texts⟩ = plan := by
  rw [ofPairs, bind_eq_ok_iff, Parameters.pairs]
  constructor
  · rintro ⟨entries, hpairs, hplan⟩
    split at hpairs
    · rename_i heven
      cases hpairs
      -- Every key was checked, after the list was found to be of even length.
      obtain ⟨_, hkeys, hplan⟩ := bind_eq_ok_iff.mp hplan
      cases hplan
      exact ⟨⟨heven, Parameters.checkKeys_eq_ok_iff.mp hkeys⟩, rfl⟩
    · cases hpairs
  · rintro ⟨htags, rfl⟩
    refine ⟨_, if_pos htags.even, bind_eq_ok_iff.mpr ⟨(), ?_, rfl⟩⟩
    exact Parameters.checkKeys_eq_ok_iff.mpr htags.keys

/-- Two lists of even length are tags together just if both are. -/
theorem tags_append_iff {first second : List String} (hfirst : first.length % 2 = 0)
    (hsecond : second.length % 2 = 0) : Tags (first ++ second) ↔ Tags first ∧ Tags second := by
  have heven : (first ++ second).length % 2 = 0 := by
    rw [List.length_append]
    omega
  constructor
  · rintro ⟨-, hkeys⟩
    -- The first list ends with a pair, so the pairs of both follow each other.
    rw [Parameters.pairUp_append hfirst, List.forall_mem_append] at hkeys
    exact ⟨⟨hfirst, hkeys.1⟩, ⟨hsecond, hkeys.2⟩⟩
  · rintro ⟨⟨-, hkeys⟩, ⟨-, hkeys'⟩⟩
    refine ⟨heven, ?_⟩
    rw [Parameters.pairUp_append hfirst, List.forall_mem_append]
    exact ⟨hkeys, hkeys'⟩

/-- What the tags of a list make of one row. -/
def act (texts : List String) (row : Row) : Row :=
  row.withLabels ((Parameters.pairUp texts).foldl tag row.labels)

theorem act_append {first : List String} (h : first.length % 2 = 0) (second : List String) :
    act (first ++ second) = act second ∘ act first := by
  funext row
  simp only [act, Parameters.pairUp_append h, List.foldl_append]
  rfl

theorem act_act (texts : List String) (row : Row) : act texts (act texts row) = act texts row :=
  congrArg row.withLabels (foldl_tag_again (Parameters.pairUp texts) row.labels)

/-! ## §3 Calls -/

theorem call_eq_ok_iff {time : Int} {rows : InstantVector} {texts : List String} {value : Value} :
    Builtin.labelsAppendTags.call time (.vector rows :: texts.map .text) = .ok value ↔
      Tags texts ∧ .vector (rows.map (act texts)) = value := by
  have hcall : Builtin.labelsAppendTags.call time (.vector rows :: texts.map .text) =
      (fun plan : Tagging => .vector (plan.run rows)) <$> ofPairs "labels_append_tags" texts := by
    rw [Builtin.call, Builtin.rows_of_texts rfl, Builtin.plan, Builtin.name]
    -- Only reading the tags can fail.
    cases ofPairs "labels_append_tags" texts <;> rfl
  rw [hcall, fmap_eq_ok_iff]
  simp only [ofPairs_eq_ok_iff]
  constructor
  · rintro ⟨_, ⟨htags, rfl⟩, rfl⟩
    exact ⟨htags, rfl⟩
  · rintro ⟨htags, rfl⟩
    exact ⟨_, ⟨htags, rfl⟩, rfl⟩

/-- **Tags fill what is missing**: with label names as keys the function fills each row by itself,
    every label by the first value that is listed for it, and overwrites nothing.  Two lists of even
    length are given together just where both are given, and then as one after the other, so that
    giving a list again changes nothing. -/
theorem calls_fill (time : Int) :
    let call (rows : InstantVector) (texts : List String) : Except Fault Value :=
      Builtin.labelsAppendTags.call time (.vector rows :: texts.map .text)
    (∀ texts, texts.length % 2 = 0 →
      (∀ entry ∈ Parameters.pairUp texts, Text.isLabelName entry.1 = true) →
      ∃ act : Row → Row, (∀ rows, call rows texts = .ok (.vector (rows.map act))) ∧
        ∀ row, (act row).sample = row.sample ∧
          Ascending (act row).labels.entries ∧
          ∀ name, Fills (Parameters.pairUp texts) row.labels name ((act row).labels.get? name)) ∧
    (∀ (rows : InstantVector) (first second : List String),
      first.length % 2 = 0 → second.length % 2 = 0 →
        ((∃ value, call rows (first ++ second) = .ok value) ↔
          (∃ value, call rows first = .ok value) ∧ ∃ value, call rows second = .ok value) ∧
        ∀ value, call rows (first ++ second) = .ok value →
          ∃ between, call rows first = .ok (.vector between) ∧
            call between second = .ok value) ∧
    ∀ (rows : InstantVector) texts value, call rows texts = .ok value →
      ∃ filled, value = .vector filled ∧ call filled texts = .ok value := by
  intro call
  refine ⟨fun texts heven hkeys => ?_, fun rows first second hfirst hsecond => ?_,
    fun rows texts value hvalue => ?_⟩
  · refine ⟨act texts, fun rows => call_eq_ok_iff.mpr ⟨⟨heven, hkeys⟩, rfl⟩, fun row => ?_⟩
    exact ⟨rfl, NameMap.ascending _, fills_foldl _ row.labels⟩
  · simp only [call, call_eq_ok_iff, tags_append_iff hfirst hsecond]
    refine ⟨by simp, ?_⟩
    rintro _ ⟨⟨htags, htags'⟩, rfl⟩
    exact ⟨_, ⟨htags, rfl⟩, htags', by rw [act_append hfirst, List.map_map]⟩
  · simp only [call, call_eq_ok_iff] at hvalue ⊢
    obtain ⟨htags, rfl⟩ := hvalue
    refine ⟨_, rfl, htags, ?_⟩
    rw [List.map_map]
    exact congrArg Value.vector (List.map_congr_left fun row _ => act_act texts row)

/-- A key is listed twice, the first time without a value, and the second list has a value for a
    label that the first one fills. -/
theorem calls_fill_region :
    let call (rows : InstantVector) (texts : List String) : Except Fault Value :=
      Builtin.labelsAppendTags.call 0 (.vector rows :: texts.map .text)
    let rows : InstantVector := [⟨.singleton "env" "prod", ⟨0, 1⟩⟩, ⟨.singleton "env" "", ⟨0, 2⟩⟩]
    let filled : InstantVector := [⟨{ entries := [("env", "prod"), ("region", "eu")] }, ⟨0, 1⟩⟩,
      ⟨{ entries := [("env", "dev"), ("region", "eu")] }, ⟨0, 2⟩⟩]
    let first := ["env", "dev", "region", "", "region", "eu"]
    let second := ["region", "us", "env", ""]
    (first.length % 2 = 0 ∧ second.length % 2 = 0 ∧
      (∀ entry ∈ Parameters.pairUp first, Text.isLabelName entry.1 = true) ∧
      call rows (first ++ second) = .ok (.vector filled)) ∧
    (∃ act : Row → Row, (∀ rows, call rows first = .ok (.vector (rows.map act))) ∧
      ∀ row, (act row).sample = row.sample ∧
        Ascending (act row).labels.entries ∧
        ∀ name, Fills (Parameters.pairUp first) row.labels name ((act row).labels.get? name)) ∧
    (∃ between, call rows first = .ok (.vector between) ∧
      call between second = .ok (.vector filled)) ∧
    ∃ again, .vector filled = Value.vector again ∧
      call again (first ++ second) = .ok (.vector filled) := by
  intro call rows filled first second
  have hfirst : first.length % 2 = 0 := by decide
  have hsecond : second.length % 2 = 0 := by decide
  have hkeys : ∀ entry ∈ Parameters.pairUp first, Text.isLabelName entry.1 = true := by decide
  have hcall : call rows (first ++ second) = .ok (.vector filled) := by cbv
  obtain ⟨hfills, hcompose, hagain⟩ := calls_fill 0
  exact ⟨⟨hfirst, hsecond, hkeys, hcall⟩, hfills first hfirst hkeys,
    (hcompose rows first second hfirst hsecond).2 _ hcall, hagain rows _ _ hcall⟩

end Tagging

end LabeledSeries
