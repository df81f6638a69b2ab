import Mathlib.GroupTheory.Perm.List
import LabeledSeries.Proofs.Call.Stages
import LabeledSeries.Proofs.Instant.CorrelationLoop

/-!
# Renames that happen at once

A label set is renamed in two passes: every pair takes out the label of its old name, and then all
that was taken out is stored under the new names.  Old and new names may overlap, and each may
occur in several pairs, so the passes could hinder each other.  What they leave is nevertheless a
function of the original label set, name by name.

- `Live` — a pair that finds a label to take out
- `Leaves` — what renames leave under a name, by the live pairs to it
- `leaves_apply` — renaming leaves just that
- `Unrepeated.apply_eq_of_perm` — the order of the pairs does not matter where no name is repeated
- `get?_apply_chain`, `get?_apply_cycle` — values move one step along a list of names
- `call_renames_at_once` — all of this for the function on a vector

Positions matter only among pairs with equal names.  §3 therefore restates the rule without them
for renames that repeat no name, from which chains and cycles follow (§4).
-/

namespace LabeledSeries

open NameMap (lookup)

namespace Renaming

/-! ## §1 The meaning of renames -/

/-- A pair of some renames is live in a label set: the label of its old name is there, and no
    earlier pair has the same old name. -/
structure Live (renames : List (String × String)) (labels : Labels) (i : Nat)
    (old new value : String) : Prop where
  pair : renames[i]? = some (old, new)
  found : labels.get? old = some value
  first : ∀ j < i, ∀ earlier, renames[j]? = some earlier → earlier.1 ≠ old

/-- What renames leave under a name of a label set: the value that the last live pair to the name
    takes out; without one nothing if the name is an old name, and otherwise what was there. -/
inductive Leaves (renames : List (String × String)) (labels : Labels) (name : String) :
    Option String → Prop where
  | moved {i : Nat} {old value : String} (hlive : Live renames labels i old name value)
      (hlast : ∀ j old' value', Live renames labels j old' name value' → j ≤ i) :
      Leaves renames labels name (some value)
  | takenOut (hnone : ∀ i old value, ¬Live renames labels i old name value)
      (hold : name ∈ renames.map Prod.fst) : Leaves renames labels name none
  | kept (hnone : ∀ i old value, ¬Live renames labels i old name value)
      (hold : name ∉ renames.map Prod.fst) : Leaves renames labels name (labels.get? name)

variable {renames : List (String × String)} {labels : Labels}

theorem Live.mem {i : Nat} {old new value : String} (h : Live renames labels i old new value) :
    (old, new) ∈ renames :=
  List.mem_of_getElem? h.pair

namespace Leaves

variable {name : String} {left : Option String}

/-- Where a live pair renames to a name, that one or a later one leaves its value there. -/
theorem exists_live (h : Leaves renames labels name left) {i : Nat} {old value : String}
    (hlive : Live renames labels i old name value) :
    ∃ j old' value', Live renames labels j old' name value' ∧ left = some value' := by
  cases h with
  | moved hlive' _ => exact ⟨_, _, _, hlive', rfl⟩
  | takenOut hnone _ | kept hnone _ => exact absurd hlive (hnone i old value)

theorem eq_of_not_live (h : Leaves renames labels name left)
    (hnone : ∀ i old value, ¬Live renames labels i old name value) :
    left = if name ∈ renames.map Prod.fst then none else labels.get? name := by
  cases h with
  | moved hlive _ => exact absurd hlive (hnone _ _ _)
  | takenOut _ hold => rw [if_pos hold]
  | kept _ hold => rw [if_neg hold]

end Leaves

/-! ## §2 The two passes -/

theorem live_zero {first : String × String} {old new value : String} :
    Live (first :: renames) labels 0 old new value ↔
      first = (old, new) ∧ labels.get? old = some value := by
  constructor
  · rintro ⟨hpair, hfound, -⟩
    exact ⟨Option.some.inj hpair, hfound⟩
  · rintro ⟨rfl, hfound⟩
    exact ⟨rfl, hfound, fun j hj => absurd hj (Nat.not_lt_zero j)⟩

/-- The later pairs are live in what the first one leaves. -/
theorem live_succ {first target : String} {i : Nat} {old new value : String} :
    Live ((first, target) :: renames) labels (i + 1) old new value ↔
      Live renames (labels.erase first) i old new value := by
  constructor
  · -- The first pair has another old name, so it did not take the label of this one.
    rintro ⟨hpair, hfound, hfirst⟩
    have hne : first ≠ old := hfirst 0 (Nat.succ_pos i) (first, target) rfl
    refine ⟨hpair, by rw [NameMap.get?_erase, if_neg hne, hfound], fun j hj => ?_⟩
    exact hfirst (j + 1) (Nat.succ_lt_succ hj)
  · rintro ⟨hpair, hfound, hfirst⟩
    rw [NameMap.get?_erase] at hfound
    split at hfound
    · cases hfound
    · rename_i hne
      refine ⟨hpair, hfound, fun j hj earlier hearlier => ?_⟩
      -- The first pair comes before all others and did not have the old name, or the label would be
      -- gone.
      cases j with
      | zero => exact Option.some.inj hearlier ▸ hne
      | succ j => exact hfirst j (Nat.lt_of_succ_lt_succ hj) earlier hearlier

/-- A pair takes out the label of its old name, if there is one, and leaves the rest to the other
    pairs. -/
theorem takeOut_cons (old new : String) (renames : List (String × String)) (labels : Labels) :
    takeOut ((old, new) :: renames) labels =
      let others := takeOut renames (labels.erase old)
      (others.1, ((labels.get? old).map fun value => (new, value)).toList ++ others.2) := by
  cases h : labels.get? old with
  | none => simp [takeOut, h, NameMap.erase_of_get?_eq_none h]
  | some value => simp [takeOut, h]

theorem get?_takeOut (renames : List (String × String)) (labels : Labels) (name : String) :
    (takeOut renames labels).1.get? name =
      if name ∈ renames.map Prod.fst then none else labels.get? name := by
  -- Each pair takes its label out before the later pairs look, so the labels vary.
  induction renames generalizing labels with
  | nil => rfl
  | cons pair renames ih =>
    obtain ⟨old, new⟩ := pair
    rw [takeOut_cons]
    simp only [ih, NameMap.get?_erase, List.map_cons, List.mem_cons]
    -- A label that is taken out cannot be found by a later pair.
    by_cases h : name = old
    · simp [h]
    · simp only [h, Ne.symm h, if_false, false_or]

theorem lookup_takeOut_cons (old new : String) (renames : List (String × String))
    (labels : Labels) (name : String) :
    lookup name (takeOut ((old, new) :: renames) labels).2.reverse =
      (lookup name (takeOut renames (labels.erase old)).2.reverse).or
        (if new = name then labels.get? old else none) := by
  rw [takeOut_cons]
  cases labels.get? old <;> simp [NameMap.lookup_append, lookup]

/-- Nothing is stored under a name only if no pair to it is live. -/
theorem not_live_of_lookup_eq_none {name : String}
    (h : lookup name (takeOut renames labels).2.reverse = none) (i : Nat) (old value : String) :
    ¬Live renames labels i old name value := by
  induction renames generalizing labels i with
  | nil => exact fun hlive => by cases hlive.pair
  | cons pair renames ih =>
    obtain ⟨first, new⟩ := pair
    -- A pair is found last if no later one has its new name; here neither the first nor a later one
    -- is.
    rw [lookup_takeOut_cons, Option.or_eq_none_iff] at h
    cases i with
    | zero =>
      rw [live_zero]
      rintro ⟨hpair, hfound⟩
      cases hpair
      simp [hfound] at h
    | succ i =>
      rw [live_succ]
      exact ih h.1 i

/-- What is stored last under a name was taken out by the last live pair to it. -/
theorem live_of_lookup_eq_some {name value : String}
    (h : lookup name (takeOut renames labels).2.reverse = some value) :
    ∃ i old, Live renames labels i old name value ∧
      ∀ j old' value', Live renames labels j old' name value' → j ≤ i := by
  -- The labels vary in the induction: the later pairs start from what the first one leaves.
  induction renames generalizing labels with
  | nil => cases h
  | cons pair renames ih =>
    obtain ⟨old, new⟩ := pair
    rw [lookup_takeOut_cons] at h
    cases hlater : lookup name (takeOut renames (labels.erase old)).2.reverse with
    | some later =>
      rw [hlater, Option.some_or] at h
      cases h
      -- The last pair is among the later ones, one place further in all of them.
      obtain ⟨i, old', hlive, hlast⟩ := ih hlater
      refine ⟨i + 1, old', live_succ.mpr hlive, fun j other value' hj => ?_⟩
      cases j with
      | zero => exact Nat.zero_le _
      | succ j => exact Nat.succ_le_succ (hlast j other value' (live_succ.mp hj))
    | none =>
      -- No later pair is live, so it is the first one.
      rw [hlater, Option.none_or] at h
      obtain ⟨rfl, hfound⟩ : new = name ∧ labels.get? old = some value := by
        split at h
        · exact ⟨‹_›, h⟩
        · cases h
      refine ⟨0, old, live_zero.mpr ⟨rfl, hfound⟩, fun j other value' hj => ?_⟩
      cases j with
      | zero => exact Nat.le_refl 0
      | succ j => exact absurd (live_succ.mp hj) (not_live_of_lookup_eq_none hlater j other value')

/-- **Renaming** leaves under each name what the live pairs to it say. -/
theorem leaves_apply (renames : List (String × String)) (labels : Labels) (name : String) :
    Leaves renames labels name ((apply ⟨renames⟩ labels).get? name) := by
  -- What was taken out is stored over what was left.
  rw [apply, NameMap.get?_insertAll]
  cases hmoved : lookup name (takeOut renames labels).2.reverse with
  | some value =>
    obtain ⟨i, old, hlive, hlast⟩ := live_of_lookup_eq_some hmoved
    exact .moved hlive hlast
  | none =>
    have hnone := not_live_of_lookup_eq_none hmoved
    rw [Option.none_or, get?_takeOut]
    split
    · exact .takenOut hnone ‹_›
    · exact .kept hnone ‹_›

theorem get?_apply_of_not_mem {name : String} (h : name ∉ renames.map Prod.snd) :
    (apply ⟨renames⟩ labels).get? name =
      if name ∈ renames.map Prod.fst then none else labels.get? name :=
  (leaves_apply ..).eq_of_not_live fun _ _ _ hlive => h (List.mem_map_of_mem hlive.mem)

/-! ## §3 Names without repetition -/

/-- Renames in which no old name and no new name occurs twice. -/
structure Unrepeated (renames : List (String × String)) : Prop where
  old : (renames.map Prod.fst).Nodup
  new : (renames.map Prod.snd).Nodup

namespace Unrepeated

theorem perm (h : Unrepeated renames) {others : List (String × String)}
    (hperm : renames.Perm others) : Unrepeated others where
  old := (hperm.map Prod.fst).nodup_iff.mp h.old
  new := (hperm.map Prod.snd).nodup_iff.mp h.new

/-- Where no old name occurs twice, each pair that finds its label is live. -/
theorem exists_live (h : Unrepeated renames) {old new value : String}
    (hmem : (old, new) ∈ renames) (hfound : labels.get? old = some value) :
    ∃ i, Live renames labels i old new value := by
  obtain ⟨i, hi, hpair⟩ := List.mem_iff_getElem.mp hmem
  refine ⟨i, List.getElem?_eq_some_iff.mpr ⟨hi, hpair⟩, hfound, ?_⟩
  -- An earlier pair with the same old name would repeat it.
  intro j hj earlier hearlier heq
  obtain ⟨hj', rfl⟩ := List.getElem?_eq_some_iff.mp hearlier
  have hdiffer := List.pairwise_iff_getElem.mp (List.pairwise_map.mp h.old) j i hj' hi hj
  exact hdiffer (heq.trans (congrArg Prod.fst hpair).symm)

/-- Where no new name occurs twice, there is one pair to it. -/
theorem old_eq (h : Unrepeated renames) {old old' new : String}
    (hmem : (old, new) ∈ renames) (hmem' : (old', new) ∈ renames) : old = old' :=
  congrArg Prod.fst (List.inj_on_of_nodup_map h.new hmem hmem' rfl)

/-- A new name has the value of the old one; where that is missing, the new name is taken out if it
    is itself an old name, and otherwise is as it was. -/
theorem get?_apply_of_mem (h : Unrepeated renames) {old new : String}
    (hmem : (old, new) ∈ renames) (labels : Labels) :
    (apply ⟨renames⟩ labels).get? new =
      (labels.get? old).or (if new ∈ renames.map Prod.fst then none else labels.get? new) := by
  -- Only this pair renames to the name, so a live pair to it has this old name.
  have hold {i : Nat} {old' value : String} (hlive : Live renames labels i old' new value) :
      labels.get? old = some value := by
    rw [h.old_eq hmem hlive.mem]
    exact hlive.found
  cases hfound : labels.get? old with
  | some value =>
    obtain ⟨i, hlive⟩ := h.exists_live hmem hfound
    obtain ⟨j, old', value', hlive', hget⟩ := (leaves_apply renames labels new).exists_live hlive
    rw [hget, Option.some_or, ← hold hlive', hfound]
  | none =>
    rw [Option.none_or]
    refine (leaves_apply renames labels new).eq_of_not_live fun i old' value hlive => ?_
    rw [hold hlive] at hfound
    cases hfound

/-- The order of the pairs does not matter. -/
theorem apply_eq_of_perm (h : Unrepeated renames) {others : List (String × String)}
    (hperm : renames.Perm others) (labels : Labels) :
    apply ⟨renames⟩ labels = apply ⟨others⟩ labels := by
  have hnames (name : String) : name ∈ renames.map Prod.fst ↔ name ∈ others.map Prod.fst :=
    (hperm.map Prod.fst).mem_iff
  -- Both sets are the same if they hold the same under every name, new or not.
  refine NameMap.ext_get? fun name => ?_
  by_cases hnew : name ∈ renames.map Prod.snd
  · obtain ⟨⟨old, new⟩, hmem, rfl⟩ := List.mem_map.mp hnew
    rw [h.get?_apply_of_mem hmem, (h.perm hperm).get?_apply_of_mem (hperm.mem_iff.mp hmem)]
    simp only [hnames]
  · have hnew' : name ∉ others.map Prod.snd := mt (hperm.map Prod.snd).mem_iff.mpr hnew
    rw [get?_apply_of_not_mem hnew, get?_apply_of_not_mem hnew']
    simp only [hnames]

end Unrepeated

/-! ## §4 Chains and cycles -/

/-- Each name of a list is renamed to the next one. -/
def chain (names : List String) : List (String × String) := names.dropLast.zip names.tail

/-- Each name of a list is renamed to the next one, and the last one to the first. -/
def cycle (names : List String) : List (String × String) := names.zip (names.rotate 1)

section Steps

variable {names : List String} (hnames : names.Nodup)

theorem map_fst_chain (names : List String) : (chain names).map Prod.fst = names.dropLast :=
  List.map_fst_zip (by simp)

theorem map_snd_chain (names : List String) : (chain names).map Prod.snd = names.tail :=
  List.map_snd_zip (by simp)

theorem map_fst_cycle (names : List String) : (cycle names).map Prod.fst = names :=
  List.map_fst_zip (by simp)

theorem map_snd_cycle (names : List String) : (cycle names).map Prod.snd = names.rotate 1 :=
  List.map_snd_zip (by simp)

include hnames

theorem unrepeated_chain : Unrepeated (chain names) where
  old := (map_fst_chain names).symm ▸ hnames.sublist (List.dropLast_sublist names)
  new := (map_snd_chain names).symm ▸ hnames.sublist (List.tail_sublist names)

theorem unrepeated_cycle : Unrepeated (cycle names) where
  old := (map_fst_cycle names).symm ▸ hnames
  new := (map_snd_cycle names).symm ▸ List.nodup_rotate.mpr hnames

theorem mem_dropLast_iff {i : Nat} (hi : i < names.length) :
    names[i] ∈ names.dropLast ↔ i + 1 < names.length := by
  rw [List.mem_iff_getElem]
  -- Names do not repeat, so a name is in the list without its last just if it is not the last.
  simp only [List.getElem_dropLast, List.length_dropLast, hnames.getElem_inj_iff]
  constructor
  · rintro ⟨j, hj, rfl⟩
    omega
  · exact fun h => ⟨i, by omega, rfl⟩

/-- A chain of renames moves every value to the next name.  A name that nothing is moved to keeps
    its value only at the end of the chain. -/
theorem get?_apply_chain (labels : Labels) {i : Nat} (hi : i + 1 < names.length) :
    (apply ⟨chain names⟩ labels).get? names[i + 1] =
      (labels.get? names[i]).or
        (if i + 2 < names.length then none else labels.get? names[i + 1]) := by
  -- The pair stands where its old name does.
  have hmem : (names[i], names[i + 1]) ∈ chain names := by
    refine List.mem_iff_getElem.mpr ⟨i, by simp [chain]; omega, ?_⟩
    simp [chain]
  rw [(unrepeated_chain hnames).get?_apply_of_mem hmem, map_fst_chain]
  simp only [mem_dropLast_iff hnames]

/-- Nothing is moved to the first name of a chain. -/
theorem get?_apply_chain_first (labels : Labels) (h : 1 < names.length) :
    (apply ⟨chain names⟩ labels).get? names[0] = none := by
  -- The first name is an old one, as there is a second, and no new one.
  rw [get?_apply_of_not_mem, map_fst_chain, if_pos ((mem_dropLast_iff hnames _).mpr h)]
  rw [map_snd_chain]
  obtain ⟨first, rest, rfl⟩ := List.exists_cons_of_length_pos (Nat.zero_lt_of_lt h)
  exact (List.nodup_cons.mp hnames).1

/-- A cycle of renames moves every value, and the lack of one, to the next name. -/
theorem get?_apply_cycle (labels : Labels) (name : String) :
    (apply ⟨cycle names⟩ labels).get? (names.formPerm name) = labels.get? name := by
  -- Outside of the cycle the permutation and the renames do nothing.
  by_cases hname : name ∈ names
  · obtain ⟨i, hi, rfl⟩ := List.mem_iff_getElem.mp hname
    have hmem : (names[i], names.formPerm names[i]) ∈ cycle names := by
      refine List.mem_iff_getElem.mpr ⟨i, by simpa [cycle] using hi, ?_⟩
      simp [cycle, List.getElem_rotate, List.formPerm_apply_getElem names hnames]
    -- Every name of the cycle is an old name, so a missing label is moved as well.
    have hold : names.formPerm names[i] ∈ (cycle names).map Prod.fst := by
      rw [map_fst_cycle]
      exact List.formPerm_apply_mem_of_mem hname
    rw [(unrepeated_cycle hnames).get?_apply_of_mem hmem, if_pos hold, Option.or_none]
  · rw [List.formPerm_apply_of_notMem hname, get?_apply_of_not_mem, map_fst_cycle, if_neg hname]
    simpa [map_snd_cycle] using hname

end Steps

theorem get?_apply_chain_of_not_mem {names : List String} (labels : Labels) {name : String}
    (h : name ∉ names) : (apply ⟨chain names⟩ labels).get? name = labels.get? name := by
  rw [get?_apply_of_not_mem, map_fst_chain, if_neg (mt List.mem_of_mem_dropLast h)]
  rw [map_snd_chain]
  exact mt List.mem_of_mem_tail h

/-! ## §5 Calls -/

/-- The list of alternating old and new names. -/
def toNames (renames : List (String × String)) : List String :=
  renames.flatMap fun (old, new) => [old, new]

/-- What renames make of one row. -/
def act (renames : List (String × String)) (row : Row) : Row :=
  row.withLabels (apply ⟨renames⟩ row.labels)

theorem pairs_toNames (function : String) (renames : List (String × String)) :
    Parameters.pairs function (toNames renames) = .ok renames := by
  -- The list has the names of each pair one after the other.
  have hpairs : Parameters.pairUp (toNames renames) = renames := by
    induction renames with
    | nil => rfl
    | cons pair renames ih =>
      have hcons : Parameters.pairUp (toNames (pair :: renames)) =
          pair :: Parameters.pairUp (toNames renames) := rfl
      rw [hcons, ih]
  have hlength : (toNames renames).length % 2 = 0 := by
    simp [toNames, List.length_flatMap]
  rw [Parameters.pairs, if_pos hlength, hpairs]

theorem ofNames_toNames (function : String)
    (h : ∀ name ∈ toNames renames, Text.isLabelName name = true) :
    ofNames function (toNames renames) = .ok ⟨renames⟩ := by
  rw [ofNames, Parameters.checkNames_eq_ok_iff.mpr h, pairs_toNames]
  rfl

theorem call_toNames (time : Int) (rows : InstantVector)
    (h : ∀ name ∈ toNames renames, Text.isLabelName name = true) :
    Builtin.labelsRename.call time (.vector rows :: (toNames renames).map .text) =
      .ok (.vector (rows.map (act renames))) := by
  rw [Builtin.call, Builtin.rows_of_texts rfl, Builtin.plan, ofNames_toNames _ h]
  rfl

/-- **Renames happen at once**: with pairs of label names the function relabels each row by itself.
    Every name of the row is left with the value that the last live pair to it takes out, and
    without one is taken out or as it was.  So the values of a chain or a cycle of names move one
    step along it, whatever its length, and pairs that repeat no old name and no new name may be
    given in any order. -/
theorem call_renames_at_once (time : Int) :
    let call (rows : InstantVector) (renames : List (String × String)) : Except Fault Value :=
      Builtin.labelsRename.call time (.vector rows :: (toNames renames).map .text)
    let valid (renames : List (String × String)) : Prop :=
      ∀ name ∈ toNames renames, Text.isLabelName name = true
    (∀ rows renames, valid renames →
      call rows renames = .ok (.vector (rows.map (act renames)))) ∧
    (∀ renames (row : Row),
      (act renames row).sample = row.sample ∧ Ascending (act renames row).labels.entries ∧
        ∀ name, Leaves renames row.labels name ((act renames row).labels.get? name)) ∧
    (∀ names : List String, names.Nodup → ∀ row : Row,
      (∀ i, (hi : i + 1 < names.length) →
        (act (chain names) row).labels.get? names[i + 1] =
          (row.labels.get? names[i]).or
            (if i + 2 < names.length then none else row.labels.get? names[i + 1])) ∧
      (∀ h : 1 < names.length, (act (chain names) row).labels.get? names[0] = none) ∧
      ∀ name ∉ names, (act (chain names) row).labels.get? name = row.labels.get? name) ∧
    (∀ names : List String, names.Nodup → ∀ (row : Row) (name : String),
      (act (cycle names) row).labels.get? (names.formPerm name) = row.labels.get? name) ∧
    (∀ renames renames' : List (String × String), renames.Perm renames' → Unrepeated renames →
      valid renames → ∀ rows : InstantVector, call rows renames' = call rows renames) := by
  intro call valid
  refine ⟨fun rows renames h => call_toNames time rows h, ?_, ?_, ?_, ?_⟩
  · intro renames row
    exact ⟨rfl, NameMap.ascending _, leaves_apply renames row.labels⟩
  · -- Where a name is moved to is said of its place in the chain.
    intro names hnames row
    exact ⟨fun i hi => get?_apply_chain hnames row.labels hi,
      get?_apply_chain_first hnames row.labels,
      fun name hname => get?_apply_chain_of_not_mem row.labels hname⟩
  · exact fun names hnames row => get?_apply_cycle hnames row.labels
  · intro renames renames' hperm hunrepeated hvalid rows
    have hvalid' : valid renames' := fun name hname =>
      hvalid name ((hperm.symm.flatMap_right _).subset hname)
    simp only [call]
    rw [call_toNames time rows hvalid', call_toNames time rows hvalid]
    congr 2
    refine List.map_congr_left fun row _ => congrArg row.withLabels ?_
    exact (hunrepeated.apply_eq_of_perm hperm row.labels).symm

/-- Two pairs have one old name, so that the later one is not live; two names trade their values,
    whichever is renamed first; and three names pass theirs on in a cycle. -/
theorem call_renames_at_once_on_overlap :
    let row : Row := ⟨{ entries := [("a", "1"), ("b", "2"), ("c", "3")] }, ⟨0, 1⟩⟩
    let call (renames : List (String × String)) : Except Fault Value :=
      Builtin.labelsRename.call 0 (.vector [row] :: (toNames renames).map .text)
    let renames := [("a", "b"), ("b", "c"), ("a", "d")]
    let trade := [("a", "b"), ("b", "a")]
    let names := ["a", "b", "c"]
    ((∀ name ∈ toNames renames, Text.isLabelName name = true) ∧
      (∀ name ∈ toNames trade, Text.isLabelName name = true) ∧
      trade.Perm [("b", "a"), ("a", "b")] ∧ Unrepeated trade ∧ names.Nodup) ∧
    call renames = .ok (.vector [⟨{ entries := [("b", "1"), ("c", "2")] }, ⟨0, 1⟩⟩]) ∧
    (∀ name, Leaves renames row.labels name ((act renames row).labels.get? name)) ∧
    call [("b", "a"), ("a", "b")] = call trade ∧
    (act (chain names) row).labels.get? "b" = some "1" ∧
    (act (cycle names) row).labels.get? "a" = some "3" := by
  intro row call renames trade names
  have hvalid : ∀ name ∈ toNames renames, Text.isLabelName name = true := by decide
  have hvalid' : ∀ name ∈ toNames trade, Text.isLabelName name = true := by decide
  have hperm : trade.Perm [("b", "a"), ("a", "b")] := .swap ..
  have htrade : Unrepeated trade := ⟨by decide, by decide⟩
  have hnames : names.Nodup := by decide
  obtain ⟨hcall, hleaves, hchain, hcycle, horder⟩ := call_renames_at_once 0
  have hrenamed : apply ⟨renames⟩ row.labels = { entries := [("b", "1"), ("c", "2")] } := by decide
  have hfirst : row.labels.get? "a" = some "1" := by decide
  have hlast : row.labels.get? "c" = some "3" := by decide
  refine ⟨⟨hvalid, hvalid', hperm, htrade, hnames⟩, ?_, (hleaves renames row).2.2, ?_, ?_, ?_⟩
  · exact (hcall [row] renames hvalid).trans (by rw [← hrenamed]; rfl)
  · exact horder trade _ hperm htrade hvalid' [row]
  · exact ((hchain names hnames row).1 0 (by decide)).trans (by
      rw [show row.labels.get? names[0] = some "1" from hfirst, Option.some_or])
  · exact (hcycle names hnames row "c").trans hlast

end Renaming

end LabeledSeries
