/-!
# Binary search by name

Where a name stands in a list of entries, or where it would stand.  After each comparison the half
that cannot hold the name is left out, unseen.  So a search says something of the whole list only if
the names ascend; then it parts the list into the entries with smaller names, the one with the name,
if there is one, and those with greater names (`search_parts`).

## §1 The search

## §2 What a search says

## §3 Storing and removing entries
-/

namespace LabeledSeries

variable {α : Type}

/-- The order of entries by their names, in which no name occurs twice. -/
abbrev Ascending (entries : List (String × α)) : Prop := entries.Pairwise (fun a b => a.1 < b.1)

/-! ## §1 The search -/

/-- What a search ends with. -/
inductive Position where
  /-- The index of the entry with the name. -/
  | found (index : Nat)
  /-- There is no such entry, and this is the index at which it would stand. -/
  | missing (index : Nat)
  deriving Repr, DecidableEq

/-- Whether there is an entry with the name. -/
def Position.isFound : Position → Bool
  | found _ => true
  | missing _ => false

/-- Search for a name among the entries from one index up to another. -/
@[semireducible] def search (name : String) (entries : List (String × α)) (first last : Nat)
    (hlast : last ≤ entries.length) : Position :=
  if h : first < last then
    let middle := first + (last - first) / 2
    let key := (entries[middle]).1
    -- The name is in the upper half, in the lower one, or here.
    if key < name then search name entries (middle + 1) last hlast
    else if name < key then search name entries first middle (by omega)
    else .found middle
  else .missing first
termination_by last - first

/-- Search for a name among all entries. -/
def position (name : String) (entries : List (String × α)) : Position :=
  search name entries 0 entries.length (Nat.le_refl _)

/-- The value of an entry that was found. -/
def Position.value? (position : Position) (entries : List (String × α)) : Option α :=
  match position with
  | found index => entries[index]?.map Prod.snd
  | missing _ => none

/-- Put an entry where its name was searched for, over the entry that was found there. -/
def Position.store (position : Position) (entry : String × α) (entries : List (String × α)) :
    List (String × α) :=
  match position with
  | found index => entries.set index entry
  | missing index => entries.insertIdx index entry

/-- Take out an entry that was found. -/
def Position.remove (position : Position) (entries : List (String × α)) : List (String × α) :=
  match position with
  | found index => entries.eraseIdx index
  | missing _ => entries

/-! ## §2 What a search says -/

/-- A position parts entries by a name: those before it have smaller names, those after it greater
    ones. -/
inductive Position.Parts (name : String) : Position → List (String × α) → Prop
  | found {before after : List (String × α)} (value : α)
      (hbefore : ∀ entry ∈ before, entry.1 < name) (hafter : ∀ entry ∈ after, name < entry.1) :
      Parts name (.found before.length) (before ++ (name, value) :: after)
  | missing {before after : List (String × α)}
      (hbefore : ∀ entry ∈ before, entry.1 < name) (hafter : ∀ entry ∈ after, name < entry.1) :
      Parts name (.missing before.length) (before ++ after)

/-- Names do not differ if neither is smaller. -/
private theorem eq_of_not_lt {a b : String} (h : ¬ a < b) (h' : ¬ b < a) : a = b :=
  String.le_antisymm (String.not_lt.mp h') (String.not_lt.mp h)

section Search

variable {name : String} {entries : List (String × α)}

/-- Smaller names stand before an index at which a name is not greater. -/
private theorem lt_of_mem_take {index : Nat} (hindex : index ≤ entries.length)
    (h : ∀ i (hi : i < entries.length), i < index → (entries[i]).1 < name) :
    ∀ entry ∈ entries.take index, entry.1 < name := by
  intro entry hentry
  obtain ⟨i, hi, rfl⟩ := List.mem_take_iff_getElem.mp hentry
  exact h i (by omega) (by omega)

private theorem lt_of_mem_drop {index : Nat}
    (h : ∀ i (hi : i < entries.length), index ≤ i → name < (entries[i]).1) :
    ∀ entry ∈ entries.drop index, name < entry.1 := by
  intro entry hentry
  obtain ⟨i, hi, rfl⟩ := List.mem_drop_iff_getElem.mp hentry
  exact h (index + i) (by omega) (by omega)

/-- The invariant of a search is that the entries outside of its bounds are on their sides of the
    name.  A comparison with the entry in the middle moves a bound past one half of them, of which
    the order says what the comparison says of that entry. -/
private theorem search_parts {first last : Nat} (hlast : last ≤ entries.length)
    (hascending : Ascending entries) (hle : first ≤ last)
    (hbelow : ∀ i (hi : i < entries.length), i < first → (entries[i]).1 < name)
    (habove : ∀ i (hi : i < entries.length), last ≤ i → name < (entries[i]).1) :
    (search name entries first last hlast).Parts name entries := by
  have hordered := List.pairwise_iff_getElem.mp hascending
  fun_induction search name entries first last hlast with
  | case1 first last hlast h middle key hkey ih =>
    -- Below the middle all names are smaller still.
    refine ih (by omega) (fun i hi hlt => ?_) habove
    rcases Nat.lt_or_eq_of_le (Nat.le_of_lt_succ hlt) with hlt | rfl
    · exact String.lt_trans (hordered i middle hi (by omega) hlt) hkey
    · exact hkey
  | case2 first last hlast h middle key hkey hname ih =>
    -- Above the middle all names are greater still.
    refine ih (by omega) hbelow fun i hi hge => ?_
    rcases Nat.lt_or_eq_of_le hge with hlt | rfl
    · exact String.lt_trans hname (hordered middle i (by omega) hi hlt)
    · exact hname
  | case3 first last hlast h middle key hkey hname =>
    have hmiddle : middle < entries.length := by omega
    -- Neither name is smaller, so the entry in the middle has the name.
    have hentry : entries[middle] = (name, (entries[middle]).2) :=
      Prod.ext (eq_of_not_lt hkey hname) rfl
    have hsplit : entries.take middle ++ (name, (entries[middle]).2) :: entries.drop (middle + 1) =
        entries := by
      rw [← hentry, ← List.drop_eq_getElem_cons hmiddle, List.take_append_drop]
    have hbefore : ∀ entry ∈ entries.take middle, entry.1 < name :=
      lt_of_mem_take (by omega) fun i hi hlt =>
        eq_of_not_lt hkey hname ▸ hordered i middle hi hmiddle hlt
    have hafter : ∀ entry ∈ entries.drop (middle + 1), name < entry.1 :=
      lt_of_mem_drop fun i hi hge =>
        eq_of_not_lt hkey hname ▸ hordered middle i hmiddle hi (by omega)
    have hparts := Position.Parts.found (entries[middle]).2 hbefore hafter
    rwa [List.length_take_of_le (by omega), hsplit] at hparts
  | case4 first last hlast h =>
    -- The bounds have met, and the name is missing between them.
    obtain rfl : first = last := by omega
    have hparts := Position.Parts.missing (lt_of_mem_take (by omega) hbelow) (lt_of_mem_drop habove)
    rwa [List.length_take_of_le (by omega), List.take_append_drop] at hparts

/-- **A search among ascending entries parts them.** -/
theorem position_parts (hascending : Ascending entries) :
    (position name entries).Parts name entries :=
  search_parts (Nat.le_refl _) hascending (Nat.zero_le _) (fun _ _ hlt => absurd hlt (by omega))
    (fun _ _ hge => absurd hge (by omega))

end Search

/-! ## §3 Storing and removing entries -/

theorem insertIdx_length_append (before after : List α) (a : α) :
    (before ++ after).insertIdx before.length a = before ++ a :: after := by
  induction before with
  | nil => rfl
  | cons b before ih => exact congrArg (b :: ·) ih

namespace Position

variable {name : String} {before after entries : List (String × α)}

@[simp] theorem value?_found (value : α) :
    (found before.length).value? (before ++ (name, value) :: after) = some value := by
  simp [value?]

@[simp] theorem store_found (old value : α) :
    (found before.length).store (name, value) (before ++ (name, old) :: after) =
      before ++ (name, value) :: after := by
  simp [store]

@[simp] theorem store_missing (value : α) :
    (missing before.length).store (name, value) (before ++ after) =
      before ++ (name, value) :: after :=
  insertIdx_length_append before after (name, value)

@[simp] theorem remove_found (value : α) :
    (found before.length).remove (before ++ (name, value) :: after) = before ++ after := by
  simp [remove, List.eraseIdx_append]

/-- What is stored stands between the entries with smaller names and those with greater ones. -/
private theorem ascending_append_cons (hascending : Ascending (before ++ after))
    (hbefore : ∀ entry ∈ before, entry.1 < name) (hafter : ∀ entry ∈ after, name < entry.1)
    (value : α) : Ascending (before ++ (name, value) :: after) := by
  obtain ⟨hsmaller, hgreater, hacross⟩ := List.pairwise_append.mp hascending
  refine List.pairwise_append.mpr ⟨hsmaller, List.pairwise_cons.mpr ⟨hafter, hgreater⟩, ?_⟩
  intro entry hentry other hother
  -- The new entry is after all smaller names; what follows it was after them before.
  rcases List.mem_cons.mp hother with rfl | hother
  · exact hbefore entry hentry
  · exact hacross entry hentry other hother

/-- Storing an entry where its name was searched for keeps the order. -/
theorem Parts.ascending_store {position : Position} (h : position.Parts name entries)
    (hascending : Ascending entries) (value : α) :
    Ascending (position.store (name, value) entries) := by
  cases h with
  | @found before after old hbefore hafter =>
    -- The old entry is taken out and the new one takes its place.
    rw [store_found]
    refine ascending_append_cons (hascending.sublist ?_) hbefore hafter value
    exact (List.sublist_cons_self ..).append_left before
  | missing hbefore hafter =>
    rw [store_missing]
    exact ascending_append_cons hascending hbefore hafter value

theorem ascending_remove (position : Position) (hascending : Ascending entries) :
    Ascending (position.remove entries) := by
  cases position with
  | found index => exact hascending.sublist (List.eraseIdx_sublist entries index)
  | missing index => exact hascending

end Position

end LabeledSeries
