import Mathlib.Data.List.Nodup
import Mathlib.Data.String.Basic
import LabeledSeries.NameMap

/-!
# Maps keyed by name

What a map looks up after several insertions, and what its order is good for.

§1 A search by comparisons in the middle finds what a search from the front does, and stores where
one from the front would store (`get?_eq_lookup`, `entries_insert`, `entries_erase`).  The searches
from the front have simple recursions, and everything else is said of them.  §2 Storing entries one
after the other leaves the last one of each name.  Where no name occurs twice the order of the
entries does not matter, and the map that is made of a list looks up what the list does.  §3 The
entries of a map are just what it looks up, so a map is determined by its look-ups (`ext_get?`).
-/

namespace LabeledSeries.NameMap

variable {α : Type} {name : String} {before after entries : List (String × α)}

/-! ## §1 Searching from the front -/

/-- The entry of a name in a list of entries: the first one with that name. -/
def lookup (name : String) : List (String × α) → Option α
  | [] => none
  | (key, value) :: rest => if key = name then some value else lookup name rest

/-- Put an entry at its place in an ascending list, over an entry of the same name. -/
def place (name : String) (value : α) : List (String × α) → List (String × α)
  | [] => [(name, value)]
  | (key, old) :: rest =>
    if name < key then (name, value) :: (key, old) :: rest
    else if name = key then (name, value) :: rest
    else (key, old) :: place name value rest

theorem lookup_append (name : String) (xs ys : List (String × α)) :
    lookup name (xs ++ ys) = (lookup name xs).or (lookup name ys) := by
  induction xs with
  | nil => simp [lookup]
  | cons entry xs ih =>
    by_cases h : entry.1 = name <;> simp [lookup, h, ih]

theorem lookup_eq_none_iff : lookup name entries = none ↔ name ∉ entries.map Prod.fst := by
  induction entries with
  | nil => simp [lookup]
  | cons entry entries ih =>
    by_cases h : entry.1 = name
    · simp [lookup, h]
    · simp only [lookup, h, if_false, ih, List.map_cons, List.mem_cons, Ne.symm h, false_or]

private theorem lookup_of_lt (h : ∀ entry ∈ entries, entry.1 < name) :
    lookup name entries = none := by
  -- All names in the list differ from the one that is looked for.
  refine lookup_eq_none_iff.mpr fun hmem => ?_
  obtain ⟨entry, hentry, rfl⟩ := List.mem_map.mp hmem
  exact lt_irrefl _ (h entry hentry)

private theorem lookup_of_gt (h : ∀ entry ∈ entries, name < entry.1) :
    lookup name entries = none := by
  refine lookup_eq_none_iff.mpr fun hmem => ?_
  obtain ⟨entry, hentry, rfl⟩ := List.mem_map.mp hmem
  exact lt_irrefl _ (h entry hentry)

/-- Smaller names are passed by. -/
private theorem place_append (hbefore : ∀ entry ∈ before, entry.1 < name) (value : α) :
    place name value (before ++ after) = before ++ place name value after := by
  induction before with
  | nil => rfl
  | cons entry before ih =>
    obtain ⟨hlt, hrest⟩ := List.forall_mem_cons.mp hbefore
    -- The first name is smaller, so the place is further on.
    rw [List.cons_append, place, if_neg (lt_asymm hlt), if_neg (ne_of_gt hlt), ih hrest,
      List.cons_append]

private theorem place_of_lt (hafter : ∀ entry ∈ after, name < entry.1) (value : α) :
    place name value after = (name, value) :: after := by
  cases after with
  | nil => rfl
  | cons entry after => exact if_pos (hafter entry (List.mem_cons_self ..))

/-- A search parts the entries of a map into those with smaller names, the one with the name, if
    there is one, and those with greater names. -/
private theorem parted (map : NameMap α) (name : String) :
    ∃ before after, (∀ entry ∈ before, entry.1 < name) ∧ (∀ entry ∈ after, name < entry.1) ∧
      ((∃ value, map.position name = .found before.length ∧
          map.entries = before ++ (name, value) :: after) ∨
        map.position name = .missing before.length ∧ map.entries = before ++ after) := by
  obtain ⟨entries, hascending⟩ := map
  have hparts : (position ⟨entries, hascending⟩ name).Parts name entries :=
    position_parts hascending
  -- The position is all that is known of the search.
  generalize position ⟨entries, hascending⟩ name = position at hparts ⊢
  cases hparts with
  | found value hbefore hafter => exact ⟨_, _, hbefore, hafter, .inl ⟨value, rfl, rfl⟩⟩
  | missing hbefore hafter => exact ⟨_, _, hbefore, hafter, .inr ⟨rfl, rfl⟩⟩

/-- **A search by halves looks up what a search from the front does.** -/
theorem get?_eq_lookup (map : NameMap α) (name : String) :
    map.get? name = lookup name map.entries := by
  obtain ⟨before, after, hbefore, hafter, h⟩ := map.parted name
  rcases h with ⟨value, hposition, hentries⟩ | ⟨hposition, hentries⟩
  · rw [get?, hposition, hentries, Position.value?_found, lookup_append, lookup_of_lt hbefore]
    simp [lookup]
  · rw [get?, hposition, hentries, lookup_append, lookup_of_lt hbefore, lookup_of_gt hafter]
    rfl

/-- **An entry is stored where a search from the front would store it.** -/
theorem entries_insert (map : NameMap α) (name : String) (value : α) :
    (map.insert name value).entries = place name value map.entries := by
  obtain ⟨before, after, hbefore, hafter, h⟩ := map.parted name
  rcases h with ⟨old, hposition, hentries⟩ | ⟨hposition, hentries⟩
  · simp only [insert, hposition, hentries, Position.store_found]
    rw [place_append hbefore, place, if_neg (lt_irrefl name), if_pos rfl]
  · simp only [insert, hposition, hentries, Position.store_missing]
    rw [place_append hbefore, place_of_lt hafter]

/-- Dropping a name drops the entry that has it, and no other. -/
theorem entries_erase (map : NameMap α) (name : String) :
    (map.erase name).entries = map.entries.filter (fun entry => entry.1 != name) := by
  obtain ⟨before, after, hbefore, hafter, h⟩ := map.parted name
  -- Of the two parts nothing is dropped, since their names are smaller or greater.
  have hkept : before.filter (fun entry => entry.1 != name) = before :=
    List.filter_eq_self.mpr fun entry hentry => bne_iff_ne.mpr (ne_of_lt (hbefore entry hentry))
  have hkept' : after.filter (fun entry => entry.1 != name) = after :=
    List.filter_eq_self.mpr fun entry hentry => bne_iff_ne.mpr (ne_of_gt (hafter entry hentry))
  rcases h with ⟨value, hposition, hentries⟩ | ⟨hposition, hentries⟩
  · simp only [erase, remove, hposition, hentries, Position.remove_found]
    rw [List.filter_append, List.filter_cons_of_neg (by simp), hkept, hkept']
  · simp only [erase, remove, hposition, hentries, Position.remove]
    rw [List.filter_append, hkept, hkept']

theorem contains_eq (map : NameMap α) (name : String) :
    map.contains name = (map.get? name).isSome := by
  obtain ⟨before, after, -, -, h⟩ := map.parted name
  rcases h with ⟨value, hposition, hentries⟩ | ⟨hposition, hentries⟩
  · rw [contains, get?, hposition, hentries, Position.value?_found]
    rfl
  · rw [contains, get?, hposition]
    rfl

/-! ## §2 Storing entries -/

theorem lookup_place (name other : String) (value : α) (entries : List (String × α)) :
    lookup other (place name value entries) =
      if name = other then some value else lookup other entries := by
  induction entries with
  | nil => simp [place, lookup]
  | cons entry rest ih =>
    obtain ⟨key, old⟩ := entry
    -- The entry stands first, replaces the first one, or is put further on.
    by_cases hlt : name < key
    · simp [place, hlt, lookup]
    · by_cases heq : name = key
      · subst heq
        by_cases h : name = other <;> simp [place, lookup, h]
      · by_cases h : key = other
        · subst h
          simp [place, hlt, heq, lookup]
        · simp [place, hlt, heq, lookup, h, ih]

@[simp] theorem get?_empty (name : String) : (empty : NameMap α).get? name = none := rfl

@[simp] theorem get?_insert (map : NameMap α) (name other : String) (value : α) :
    (map.insert name value).get? other = if name = other then some value else map.get? other := by
  rw [get?_eq_lookup, entries_insert, lookup_place, get?_eq_lookup]

theorem lookup_filter_ne (name other : String) (entries : List (String × α)) :
    lookup other (entries.filter (fun entry => entry.1 != name)) =
      if name = other then none else lookup other entries := by
  induction entries with
  | nil => simp [lookup]
  | cons entry rest ih =>
    obtain ⟨key, value⟩ := entry
    -- The first entry is dropped or kept; either way the name is looked up among the others.
    by_cases hk : key = name
    · subst hk
      by_cases h : key = other
      · simp [h] at ih ⊢
        exact ih
      · simp [h, lookup] at ih ⊢
        exact ih
    · by_cases h : key = other
      · subst h
        have hn : name ≠ key := fun e => hk e.symm
        simp [hk, hn, lookup]
      · simp [hk, h, lookup, ih]

@[simp] theorem get?_erase (map : NameMap α) (name other : String) :
    (map.erase name).get? other = if name = other then none else map.get? other := by
  rw [get?_eq_lookup, entries_erase, lookup_filter_ne, get?_eq_lookup]

@[simp] theorem get?_singleton (name other : String) (value : α) :
    (singleton name value).get? other = if name = other then some value else none :=
  get?_eq_lookup _ _

@[simp] theorem singleton_ne_empty (name : String) (value : α) : singleton name value ≠ empty :=
  fun h => List.cons_ne_nil _ _ (congrArg entries h)

@[simp] theorem empty_ne_singleton (name : String) (value : α) : empty ≠ singleton name value :=
  (singleton_ne_empty name value).symm

@[simp] theorem singleton_inj {name other : String} {value value' : α} :
    singleton name value = singleton other value' ↔ name = other ∧ value = value' := by
  simp [NameMap.ext_iff, singleton]

/-- Dropping a name that is not there changes nothing. -/
theorem erase_of_get?_eq_none {map : NameMap α} (h : map.get? name = none) :
    map.erase name = map := by
  -- No entry has the name, so all of them are kept.
  ext1
  rw [entries_erase]
  refine List.filter_eq_self.mpr fun entry hentry => bne_iff_ne.mpr ?_
  rintro rfl
  rw [get?_eq_lookup] at h
  exact lookup_eq_none_iff.mp h (List.mem_map_of_mem hentry)

theorem lookup_map {β : Type} (f : α → β) (name : String) (entries : List (String × α)) :
    lookup name (entries.map fun entry => (entry.1, f entry.2)) = (lookup name entries).map f := by
  induction entries with
  | nil => rfl
  | cons entry entries ih =>
    by_cases h : entry.1 = name <;> simp [lookup, h, ih]

/-- A list of the entries of some names, where each name has at most one, looks up what they are
    made of. -/
theorem lookup_filterMap (f : String → Option α) (names : List String) (name : String) :
    lookup name (names.filterMap fun name => (f name).map fun value => (name, value)) =
      if name ∈ names then f name else none := by
  induction names with
  | nil => rfl
  | cons other names ih =>
    -- The first name is listed again or not, but what it stands for is the same.
    by_cases heq : other = name
    · subst heq
      cases hf : f other with
      | none => simp [hf, ih]
      | some value => simp [hf, lookup]
    · cases hf : f other with
      | none => simp [hf, ih, Ne.symm heq]
      | some value => simp [hf, lookup, ih, heq, Ne.symm heq]

/-- After several insertions a name has the last value that was stored under it. -/
theorem get?_insertAll (map : NameMap α) (entries : List (String × α)) (name : String) :
    (map.insertAll entries).get? name = (lookup name entries.reverse).or (map.get? name) := by
  induction entries generalizing map with
  | nil => simp [insertAll, lookup]
  | cons entry entries ih =>
    have hstep : map.insertAll (entry :: entries) =
        (map.insert entry.1 entry.2).insertAll entries := rfl
    rw [hstep, ih, List.reverse_cons, lookup_append, get?_insert]
    -- The first entry counts only if no later one has its name.
    by_cases h : entry.1 = name
    · cases lookup name entries.reverse <;> simp [lookup, h]
    · cases lookup name entries.reverse <;> simp [lookup, h]

theorem isEmpty_iff {map : NameMap α} : map.isEmpty = true ↔ ∀ name, map.get? name = none := by
  rw [isEmpty, List.isEmpty_iff]
  constructor
  · intro h name
    rw [get?_eq_lookup, h, lookup]
  · -- An entry would be found under its name.
    refine fun h => List.eq_nil_iff_forall_not_mem.mpr fun entry hentry => ?_
    have hnone := h entry.1
    rw [get?_eq_lookup] at hnone
    exact lookup_eq_none_iff.mp hnone (List.mem_map_of_mem hentry)

theorem isEmpty_ofList (entries : List (String × α)) :
    (ofList entries).isEmpty = entries.isEmpty := by
  rw [Bool.eq_iff_iff, isEmpty_iff, List.isEmpty_iff]
  simp only [ofList, get?_insertAll, get?_empty, Option.or_none, lookup_eq_none_iff]
  -- What is stored stays, so the map is empty only if nothing was stored.
  constructor
  · refine fun h => List.eq_nil_iff_forall_not_mem.mpr fun entry hentry => h entry.1 ?_
    exact List.mem_map_of_mem (List.mem_reverse.mpr hentry)
  · rintro rfl
    simp

@[simp] theorem ofList_nil : (ofList [] : NameMap α) = empty := rfl

@[simp] theorem ofList_singleton (name : String) (value : α) :
    ofList [(name, value)] = singleton name value :=
  NameMap.ext (entries_insert empty name value)

/-- What is stored under a name again is stored over what was there. -/
theorem insert_insert (map : NameMap α) (name : String) (value value' : α) :
    (map.insert name value).insert name value' = map.insert name value' := by
  -- The second value is put where the first one was.
  have hplace : place name value' (place name value map.entries) =
      place name value' map.entries := by
    induction map.entries with
    | nil => simp [place]
    | cons entry entries ih =>
      obtain ⟨key, old⟩ := entry
      by_cases hlt : name < key
      · simp [place, hlt]
      · by_cases heq : name = key
        · simp [place, heq]
        · simp [place, hlt, heq, ih]
  ext1
  simp only [entries_insert, hplace]

theorem lookup_reverse_of_nodup {entries : List (String × α)}
    (h : (entries.map Prod.fst).Nodup) (name : String) :
    lookup name entries.reverse = lookup name entries := by
  induction entries with
  | nil => rfl
  | cons entry entries ih =>
    obtain ⟨hnew, hrest⟩ := List.nodup_cons.mp h
    rw [List.reverse_cons, lookup_append, ih hrest]
    by_cases heq : entry.1 = name
    · -- No other entry has the name, so it is found last as well as first.
      subst heq
      simp [lookup, lookup_eq_none_iff.mpr hnew]
    · simp [lookup, heq]

theorem get?_ofList_of_nodup {entries : List (String × α)} (h : (entries.map Prod.fst).Nodup)
    (name : String) : (ofList entries).get? name = lookup name entries := by
  rw [ofList, get?_insertAll, get?_empty, Option.or_none, lookup_reverse_of_nodup h]

theorem nodup_names (map : NameMap α) : map.names.Nodup :=
  List.pairwise_map.mpr (map.ascending.imp fun hlt => ne_of_lt hlt)

/-! ## §3 A map is determined by its look-ups -/

theorem mem_of_lookup_eq_some {value : α} (h : lookup name entries = some value) :
    (name, value) ∈ entries := by
  induction entries with
  | nil => cases h
  | cons entry entries ih =>
    unfold lookup at h
    split at h
    · rename_i heq
      cases heq
      cases h
      exact List.mem_cons_self ..
    · exact List.mem_cons_of_mem _ (ih h)

theorem lookup_eq_some_iff (h : (entries.map Prod.fst).Nodup) {value : α} :
    lookup name entries = some value ↔ (name, value) ∈ entries := by
  refine ⟨mem_of_lookup_eq_some, fun hmem => ?_⟩
  induction entries with
  | nil => cases hmem
  -- Names do not repeat, so the first entry of a name is the only one.
  | cons entry entries ih =>
    obtain ⟨hnew, hrest⟩ := List.nodup_cons.mp h
    rcases List.mem_cons.mp hmem with rfl | hmem
    · simp [lookup]
    · have hne : entry.1 ≠ name := fun heq => hnew (heq ▸ List.mem_map_of_mem hmem)
      simp [lookup, hne, ih hrest hmem]

/-- The entries of a map are what it looks up. -/
theorem mem_entries_iff {map : NameMap α} {value : α} :
    (name, value) ∈ map.entries ↔ map.get? name = some value := by
  rw [get?_eq_lookup]
  exact (lookup_eq_some_iff map.nodup_names).symm

/-- What is found first in a map comes before all else that could be found. -/
theorem le_of_find? {map : NameMap α} {p : String × α → Bool} {entry other : String × α}
    (hfind : map.entries.find? p = some entry) (hother : other ∈ map.entries)
    (hp : p other = true) : entry.1 ≤ other.1 := by
  obtain ⟨-, before, after, hentries, hbefore⟩ := List.find?_eq_some_iff_append.mp hfind
  have hascending := map.ascending
  rw [hentries] at hascending hother
  rcases List.mem_append.mp hother with hmem | hmem
  · -- Nothing before the entry satisfies the condition, so the other one is not before it.
    exact absurd hp (by simpa using hbefore other hmem)
  · rcases List.mem_cons.mp hmem with rfl | hmem
    · exact le_refl _
    · have hafter := (List.pairwise_append.mp hascending).2.1
      exact ((List.pairwise_cons.mp hafter).1 other hmem).le

theorem get?_filter (map : NameMap α) (keep : String → α → Bool) (name : String) :
    (map.filter keep).get? name = (map.get? name).filter (keep name) := by
  refine Option.ext fun value => ?_
  rw [← mem_entries_iff, Option.filter_eq_some_iff, ← mem_entries_iff]
  exact List.mem_filter

/-- Two lists of entries in order of their names are the same if they have the same entries. -/
theorem eq_of_perm {other : List (String × α)} (h : Ascending entries) (h' : Ascending other)
    (hperm : entries.Perm other) : entries = other :=
  -- Two names cannot precede each other, so there is one ascending order of the entries.
  hperm.eq_of_pairwise (fun _ _ _ _ hab hba => (lt_asymm hab hba).elim) h h'

/-- **Extensionality**: maps with the same look-ups are the same. -/
theorem ext_get? {map other : NameMap α} (hget : ∀ name, map.get? name = other.get? name) :
    map = other := by
  ext1
  refine eq_of_perm map.ascending other.ascending ?_
  -- No entry occurs twice, so the same entries are the same up to their order.
  refine (List.perm_ext_iff_of_nodup map.nodup_names.of_map other.nodup_names.of_map).mpr ?_
  rintro ⟨name, value⟩
  rw [mem_entries_iff, mem_entries_iff, hget]

/-- The entries of a map make that map again, in whatever order they are stored. -/
theorem ofList_of_perm {map : NameMap α} (hperm : entries.Perm map.entries) :
    ofList entries = map := by
  have hnames : (entries.map Prod.fst).Nodup :=
    (hperm.map Prod.fst).nodup_iff.mpr map.nodup_names
  refine ext_get? fun name => Option.ext fun value => ?_
  rw [get?_ofList_of_nodup hnames, lookup_eq_some_iff hnames, hperm.mem_iff, mem_entries_iff]

end LabeledSeries.NameMap
