import LabeledSeries.Search

/-!
# Finite maps keyed by name

A `NameMap α` is a list of entries in strictly ascending order of their names, the order of
strings being by code point.  Label sets, function tables, filter registries and the labels of a
rule are all maps of this kind, and all of them are listed in name order.

A map carries the proof that its entries ascend, and so every operation on it has to keep them in
order.  A name is searched for by comparing it with names in the middle, which finds it only because
of that.
-/

namespace LabeledSeries

/-- Entries keyed by name, in the order of their names. -/
@[ext] structure NameMap (α : Type) where
  entries : List (String × α)
  ascending : Ascending entries := by first | decide | simp
  deriving Repr, DecidableEq

namespace NameMap

variable {α : Type}

/-- The map without entries. -/
def empty : NameMap α where
  entries := []

instance : EmptyCollection (NameMap α) := ⟨empty⟩
instance : Inhabited (NameMap α) := ⟨empty⟩

/-- The map with one entry. -/
def singleton (name : String) (value : α) : NameMap α where
  entries := [(name, value)]

/-- Where a name stands in a map, or where it would stand. -/
def position (map : NameMap α) (name : String) : Position :=
  LabeledSeries.position name map.entries

/-- The value stored under a name. -/
def get? (map : NameMap α) (name : String) : Option α := (map.position name).value? map.entries

/-- Whether a name has an entry. -/
def contains (map : NameMap α) (name : String) : Bool := (map.position name).isFound

/-- Store a value under a name, replacing what the name held. -/
def insert (map : NameMap α) (name : String) (value : α) : NameMap α where
  entries := (map.position name).store (name, value) map.entries
  ascending := (position_parts map.ascending).ascending_store map.ascending value

/-- Drop the entry of a name; with the map comes the value that the name had. -/
def remove (map : NameMap α) (name : String) : Option α × NameMap α :=
  -- One search is enough to read the value and to take out its entry.
  let position := map.position name
  (position.value? map.entries, {
    entries := position.remove map.entries
    ascending := position.ascending_remove map.ascending })

/-- Drop the entry of a name. -/
def erase (map : NameMap α) (name : String) : NameMap α := (map.remove name).2

/-- Keep the entries that satisfy a predicate. -/
def filter (map : NameMap α) (keep : String → α → Bool) : NameMap α where
  entries := map.entries.filter (fun entry => keep entry.1 entry.2)
  ascending := map.ascending.filter _

/-- The names in ascending order. -/
def names (map : NameMap α) : List String := map.entries.map Prod.fst

/-- The number of entries. -/
def size (map : NameMap α) : Nat := map.entries.length

/-- Whether there are no entries. -/
def isEmpty (map : NameMap α) : Bool := map.entries.isEmpty

/-- Store entries one after the other, a later one over an earlier one of the same name. -/
def insertAll (map : NameMap α) (entries : List (String × α)) : NameMap α :=
  entries.foldl (fun m entry => m.insert entry.1 entry.2) map

/-- The map of a list of entries in which a later entry replaces an earlier one. -/
def ofList (entries : List (String × α)) : NameMap α := empty.insertAll entries

end NameMap

end LabeledSeries
