import Std.Data.ExtTreeMap
import LabeledSeries.Labels
import LabeledSeries.Proofs.NameMap
import LabeledSeries.Proofs.Text.ByteOrder

/-!
# Label sets as finite maps

A label set is a list, and its operations search or rebuild that list.  What it stands for is a
finite map from names to values, in which there is nothing to search and no order to keep.  The two
cannot be told apart by any run of operations, whatever the names and values are.

- `LabelOperation` — what can be asked of a label set or done to it, directly or through a builder,
  with its effect on label sets and on maps
- `Represents` — a label set that looks up what a map holds
- `Represents.step` — one operation keeps that, and answers the same on both
- `Represents.run` — so does every run
- `Labels.runs_agree_with_maps` — the same said of runs that start with a list of pairs

A label set lists its entries in the order of their names and cannot do otherwise, so a map is
represented by one label set only.
-/

namespace LabeledSeries

/-! ## §1 Operations -/

/-- A finite map from names to values. -/
abbrev LabelMap := Std.ExtTreeMap String String

/-- The map of a list of pairs; a later pair replaces an earlier one of the same name. -/
-- As by a loop over the pairs, so that the last of one name stays.
def LabelMap.ofPairs (pairs : List (String × String)) : LabelMap :=
  pairs.foldl (fun map pair => map.insert pair.1 pair.2) ∅

/-- What can be asked of a label set or done to it. -/
inductive LabelOperation where
  | get (name : String)
  | value (name : String)
  | contains (name : String)
  | length
  | isEmpty
  | set (name text : String)
  /-- Drop a label; the answer is the value that it had. -/
  | remove (name : String)
  | retain (keep : String → String → Bool)
  /-- Store a value through a builder, where the empty value deletes the label. -/
  | build (name text : String)
  /-- Delete a label through a builder. -/
  | delete (name : String)

/-- What an operation answers. -/
inductive LabelAnswer where
  | found (value : Option String)
  | text (value : String)
  | flag (b : Bool)
  | count (n : Nat)
  | done
  deriving DecidableEq

namespace LabelOperation

/-- The answer of an operation on a label set, and the label set after it. -/
def onLabels (labels : Labels) : LabelOperation → LabelAnswer × Labels
  | .get name => (.found (labels.get? name), labels)
  | .value name => (.text (labels.value name), labels)
  | .contains name => (.flag (labels.contains name), labels)
  | .length => (.count labels.size, labels)
  | .isEmpty => (.flag labels.isEmpty, labels)
  | .set name text => (.done, labels.insert name text)
  -- The value that is removed is the answer.
  | .remove name =>
    let (held, rest) := labels.remove name
    (.found held, rest)
  | .retain keep => (.done, labels.filter keep)
  | .build name text => (.done, labels.assign name text)
  | .delete name => (.done, labels.erase name)

/-- The answer of an operation on a map, and the map after it. -/
def onMap (map : LabelMap) : LabelOperation → LabelAnswer × LabelMap
  | .get name => (.found map[name]?, map)
  | .value name => (.text (map[name]?.getD ""), map)
  | .contains name => (.flag (map.contains name), map)
  | .length => (.count map.size, map)
  | .isEmpty => (.flag map.isEmpty, map)
  | .set name text => (.done, map.insert name text)
  | .remove name => (.found map[name]?, map.erase name)
  | .retain keep => (.done, map.filter keep)
  | .build name text => (.done, if text = "" then map.erase name else map.insert name text)
  | .delete name => (.done, map.erase name)

/-- The answers of operations one after the other, and the state after the last of them. -/
def run {σ : Type} (step : σ → LabelOperation → LabelAnswer × σ) :
    List LabelOperation → σ → List LabelAnswer × σ
  | [], state => ([], state)
  | operation :: operations, state =>
    let (answer, next) := step state operation
    let (answers, last) := run step operations next
    (answer :: answers, last)

end LabelOperation

/-! ## §2 One operation -/

/-- A label set that stands for a map. -/
structure Represents (labels : Labels) (map : LabelMap) : Prop where
  get?_eq : ∀ name, labels.get? name = map[name]?

namespace Represents

variable {labels : Labels} {map : LabelMap}

/-- A label set lists the entries of its map in the order of their names. -/
theorem entries_eq (h : Represents labels map) : labels.entries = map.toList := by
  -- Both lists are in order, and ordered lists with the same entries are equal.
  have hordered : Ascending map.toList :=
    map.ordered_keys_toList.imp fun hlt => compare_lt_iff_lt.mp hlt
  have heq : labels = ⟨map.toList, hordered⟩ := by
    refine NameMap.ext_get? fun name => Option.ext fun value => ?_
    rw [h.get?_eq, ← NameMap.mem_entries_iff, Std.ExtTreeMap.mem_toList_iff_getElem?_eq_some]
  rw [heq]

theorem contains_eq (h : Represents labels map) (name : String) :
    labels.contains name = map.contains name := by
  rw [NameMap.contains_eq, h.get?_eq, Std.ExtTreeMap.contains_eq_isSome_getElem?]

theorem size_eq (h : Represents labels map) : labels.size = map.size := by
  rw [NameMap.size, h.entries_eq, Std.ExtTreeMap.length_toList]

theorem isEmpty_eq (h : Represents labels map) : labels.isEmpty = map.isEmpty := by
  rw [NameMap.isEmpty, h.entries_eq, Std.ExtTreeMap.isEmpty_toList]

/-- A map is represented by one label set only, and a label set represents one map only. -/
theorem eq_iff (h : Represents labels map) {other : Labels} {otherMap : LabelMap}
    (hother : Represents other otherMap) : labels = other ↔ map = otherMap := by
  constructor
  · -- Equal sets look up the same values, so their maps are equal, and the other way round.
    rintro rfl
    exact Std.ExtTreeMap.ext_getElem? fun name => (h.get?_eq name).symm.trans (hother.get?_eq name)
  · rintro rfl
    exact NameMap.ext_get? fun name =>
      (h.get?_eq name).trans (hother.get?_eq name).symm

theorem empty : Represents NameMap.empty ∅ where
  get?_eq name := by rw [NameMap.get?_empty, Std.ExtTreeMap.getElem?_empty]

theorem insert (h : Represents labels map) (name value : String) :
    Represents (labels.insert name value) (map.insert name value) where
  get?_eq other := by
    simp only [NameMap.get?_insert, Std.ExtTreeMap.getElem?_insert, Std.compare_eq_iff_eq,
      h.get?_eq]

theorem erase (h : Represents labels map) (name : String) :
    Represents (labels.erase name) (map.erase name) where
  get?_eq other := by
    simp only [NameMap.get?_erase, Std.ExtTreeMap.getElem?_erase, Std.compare_eq_iff_eq, h.get?_eq]

theorem filter (h : Represents labels map) (keep : String → String → Bool) :
    Represents (labels.filter keep) (map.filter keep) where
  get?_eq name := by
    simp only [NameMap.get?_filter, Std.ExtTreeMap.getElem?_filter, Std.ExtTreeMap.getKey_eq,
      Option.pfilter_eq_filter, h.get?_eq]

/-- **One operation** answers the same on a label set and on its map, and leaves a label set that
    stands for the map that it leaves. -/
theorem step (h : Represents labels map) (operation : LabelOperation) :
    (operation.onLabels labels).1 = (operation.onMap map).1 ∧
      Represents (operation.onLabels labels).2 (operation.onMap map).2 := by
  cases operation with
  | get name => exact ⟨congrArg LabelAnswer.found (h.get?_eq name), h⟩
  | value name =>
    refine ⟨congrArg LabelAnswer.text ?_, h⟩
    rw [Labels.value, h.get?_eq]
  | contains name => exact ⟨congrArg LabelAnswer.flag (h.contains_eq name), h⟩
  | length => exact ⟨congrArg LabelAnswer.count h.size_eq, h⟩
  | isEmpty => exact ⟨congrArg LabelAnswer.flag h.isEmpty_eq, h⟩
  | set name value => exact ⟨rfl, h.insert name value⟩
  | remove name => exact ⟨congrArg LabelAnswer.found (h.get?_eq name), h.erase name⟩
  | retain keep => exact ⟨rfl, h.filter keep⟩
  -- The empty value deletes, on both sides.
  | build name value =>
    refine ⟨rfl, ?_⟩
    simp only [LabelOperation.onLabels, LabelOperation.onMap, Labels.assign]
    split
    · exact h.erase name
    · exact h.insert name value
  | delete name => exact ⟨rfl, h.erase name⟩

/-! ## §3 Runs -/

/-- **Every run** answers the same on a label set and on its map. -/
theorem run (h : Represents labels map) (operations : List LabelOperation) :
    (LabelOperation.run LabelOperation.onLabels operations labels).1 =
        (LabelOperation.run LabelOperation.onMap operations map).1 ∧
      Represents (LabelOperation.run LabelOperation.onLabels operations labels).2
        (LabelOperation.run LabelOperation.onMap operations map).2 := by
  -- Each operation leaves a pair of states in the relation, from which the others start.
  induction operations generalizing labels map with
  | nil => exact ⟨rfl, h⟩
  | cons operation operations ih =>
    obtain ⟨hanswer, hnext⟩ := h.step operation
    obtain ⟨hanswers, hlast⟩ := ih hnext
    exact ⟨congrArg₂ List.cons hanswer hanswers, hlast⟩

theorem ofList (pairs : List (String × String)) :
    Represents (NameMap.ofList pairs) (LabelMap.ofPairs pairs) := by
  -- The pairs are stored one by one, which keeps the relation from any state on.
  suffices hfold : ∀ {labels : Labels} {map : LabelMap}, Represents labels map →
      Represents (labels.insertAll pairs)
        (pairs.foldl (fun map pair => map.insert pair.1 pair.2) map) from hfold empty
  induction pairs with
  | nil => exact fun h => h
  | cons pair pairs ih => exact fun h => ih (h.insert pair.1 pair.2)

end Represents

/-! ## §4 Label sets of pairs -/

/-- The names of a label set ascend in the order of their bytes. -/
theorem Labels.pairwise_bytes (labels : Labels) :
    labels.entries.Pairwise (fun a b => Text.utf8Bytes a.1 < Text.utf8Bytes b.1) :=
  labels.ascending.imp Text.utf8Bytes_lt

namespace Labels

/-- Among sorted pairs those of one name are neighbours. -/
private theorem repeatsName_eq_false_iff {pairs : List (String × String)}
    (hordered : pairs.Pairwise (fun a b => a.1 ≤ b.1)) :
    repeatsName pairs = false ↔ (pairs.map Prod.fst).Nodup := by
  constructor
  · intro h
    exact List.pairwise_map.mpr ((ascending_of_repeatsName hordered h).imp fun hlt => ne_of_lt hlt)
  · intro h
    -- Names that differ differ from their neighbours; later pairs are the induction's.
    induction pairs with
    | nil => rfl
    | cons first rest ih =>
      obtain ⟨hnew, hrest⟩ := List.nodup_cons.mp h
      have hlater := ih (List.pairwise_cons.mp hordered).2 hrest
      cases rest with
      | nil => rfl
      | cons second rest =>
        have hne : first.1 ≠ second.1 := fun heq => hnew (by simp [heq])
        rw [repeatsName, beq_false_of_ne hne, Bool.false_or, hlater]

/-- **Pairs make a label set if their names differ**, the one that has the value of each pair under
    its name. -/
theorem ofPairs?_eq (pairs : List (String × String)) :
    ofPairs? pairs =
      if (pairs.map Prod.fst).Nodup then some (NameMap.ofList pairs) else none := by
  -- Sorting moves the pairs only, so it repeats no name and leaves the map as it is.
  have hperm : (sortPairs pairs).Perm pairs := List.mergeSort_perm pairs _
  have hnodup : ((sortPairs pairs).map Prod.fst).Nodup ↔ (pairs.map Prod.fst).Nodup :=
    (hperm.map Prod.fst).nodup_iff
  rw [ofPairs?]
  split
  · rename_i h
    rw [if_pos (hnodup.mp ((repeatsName_eq_false_iff (pairwise_sortPairs pairs)).mp h))]
    exact congrArg some (NameMap.ofList_of_perm hperm.symm).symm
  · rename_i h
    rw [if_neg (mt hnodup.mpr (mt (repeatsName_eq_false_iff (pairwise_sortPairs pairs)).mpr h))]

/-- A list of pairs gives no label set just if two of them share a name. -/
theorem ofPairs?_eq_none_iff (pairs : List (String × String)) :
    ofPairs? pairs = none ↔ ∃ a b, [a, b].Sublist pairs ∧ a.1 = b.1 := by
  -- Names that are all different differ for every two of the pairs.
  have hnodup : (pairs.map Prod.fst).Nodup ↔ ∀ {a b}, [a, b].Sublist pairs → a.1 ≠ b.1 :=
    List.pairwise_map.trans List.pairwise_iff_forall_sublist
  rw [ofPairs?_eq]
  split
  · rename_i h
    simp only [reduceCtorEq, false_iff, not_exists, not_and]
    exact fun a b hsublist => hnodup.mp h hsublist
  · rename_i h
    simpa [hnodup] using h

theorem represents_ofPairs? {pairs : List (String × String)} {labels : Labels}
    (h : ofPairs? pairs = some labels) : Represents labels (LabelMap.ofPairs pairs) := by
  rw [ofPairs?_eq] at h
  split at h
  · cases h
    exact Represents.ofList pairs
  · cases h

end Labels

/-- **Label sets are finite maps**: a list of pairs gives a label set unless two of them share a
    name.  After any run of operations on it the names ascend strictly in the order of their bytes,
    the entries are those of the map that the same run makes of the same pairs, and on the way
    everything was answered as the map answers.  Label sets that any two runs end with are equal
    just if the maps are. -/
theorem Labels.runs_agree_with_maps (pairs : List (String × String)) :
    (Labels.ofPairs? pairs = none ↔ ∃ a b, [a, b].Sublist pairs ∧ a.1 = b.1) ∧
    ∀ start, Labels.ofPairs? pairs = some start → ∀ operations,
      let labels := LabelOperation.run LabelOperation.onLabels operations start
      let map := LabelOperation.run LabelOperation.onMap operations (LabelMap.ofPairs pairs)
      labels.2.entries.Pairwise (fun a b => Text.utf8Bytes a.1 < Text.utf8Bytes b.1) ∧
        labels.2.entries = map.2.toList ∧
        labels.1 = map.1 ∧
        ∀ pairs' start', Labels.ofPairs? pairs' = some start' → ∀ operations',
          let labels' := LabelOperation.run LabelOperation.onLabels operations' start'
          let map' := LabelOperation.run LabelOperation.onMap operations' (LabelMap.ofPairs pairs')
          labels.2.entries = labels'.2.entries ↔ map.2 = map'.2 := by
  refine ⟨Labels.ofPairs?_eq_none_iff pairs, ?_⟩
  intro start hstart operations labels map
  -- The pairs give the first pair of states; the run keeps the relation.
  obtain ⟨hanswers, hlast⟩ := (Labels.represents_ofPairs? hstart).run operations
  refine ⟨Labels.pairwise_bytes _, hlast.entries_eq, hanswers, ?_⟩
  intro pairs' start' hstart' operations' labels' map'
  obtain ⟨-, hlast'⟩ := (Labels.represents_ofPairs? hstart').run operations'
  rw [← hlast.eq_iff hlast', NameMap.ext_iff]

/-- The empty name and the empty value are a name and a value like others, except to a builder.  Two
    different runs end with one label set here, and so with one map. -/
theorem Labels.runs_agree_with_maps_on_empty_names :
    let operations := [.set "a" "", .contains "a", .build "b" "", .remove "", .length]
    let start : Labels := { entries := [("", "1"), ("b", "2")] }
    let labels := LabelOperation.run LabelOperation.onLabels operations start
    let map := LabelOperation.run LabelOperation.onMap operations
      (LabelMap.ofPairs [("b", "2"), ("", "1")])
    Labels.ofPairs? [("b", "2"), ("", "1")] = some start ∧
      Labels.ofPairs? [("a", "")] = some (.singleton "a" "") ∧
      labels.2.entries = [("a", "")] ∧
      map.1 = [.done, .flag true, .done, .found (some "1"), .count 1] ∧
      map.2 = LabelMap.ofPairs [("a", "")] := by
  intro operations start labels map
  -- The pairs are sorted on the way, though they are given in another order.
  have hstart : Labels.ofPairs? [("b", "2"), ("", "1")] = some start := by
    rw [Labels.ofPairs?_eq]
    decide
  have hstart' : Labels.ofPairs? [("a", "")] = some (.singleton "a" "") := by
    rw [Labels.ofPairs?_eq]
    decide
  have hanswered :
      labels.1 = [.done, .flag true, .done, .found (some "1"), .count 1] := by decide
  have hentries : labels.2.entries = [("a", "")] := by decide
  obtain ⟨-, -, hanswers, hmaps⟩ :=
    (Labels.runs_agree_with_maps [("b", "2"), ("", "1")]).2 _ hstart operations
  exact ⟨hstart, hstart', hentries, hanswers.symm.trans hanswered,
    (hmaps _ _ hstart' []).mp hentries⟩

/-! ## §5 Labels that are not empty -/

theorem Labels.value_eq_empty_iff {labels : Labels} {name : String} :
    labels.value name = "" ↔ ∀ text, labels.get? name = some text → text = "" := by
  -- A label that is missing reads as empty, too.
  rw [Labels.value]
  cases labels.get? name <;> simp

/-- The value of a label is the same whether it is left out for being empty or not. -/
theorem Labels.value_withoutEmpty (labels : Labels) (name : String) :
    labels.withoutEmpty.value name = labels.value name := by
  unfold Labels.value Labels.withoutEmpty
  rw [NameMap.get?_filter]
  cases labels.get? name with
  | none => rfl
  | some text =>
    by_cases hempty : text = "" <;> simp [Option.filter_some, hempty]

end LabeledSeries
