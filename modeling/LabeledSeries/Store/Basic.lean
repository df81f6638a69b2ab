import LabeledSeries.Fault
import LabeledSeries.Store.Table
import LabeledSeries.Store.TableName

/-!
# Stores

A store holds tables by name.  Only one schema exists; a table elsewhere can be neither registered
nor found.  A table with the empty name can be registered, but not found.
-/

namespace LabeledSeries

/-- Tables by name. -/
structure Store where
  tables : NameMap Table

namespace Store

/-- The store without tables. -/
def empty : Store := ⟨NameMap.empty⟩

/-- Register a table under a name that is not taken. -/
def register (store : Store) (name : String) (table : Table) : Except Fault Store :=
  let key := TableName.ofText name
  if !key.isHome then .error (.store (.noSchema name))
  else if store.tables.contains key.name then .error (.store (.nameTaken name))
  else .ok ⟨store.tables.insert key.name table⟩

/-- Register several tables in order. -/
def registerAll (store : Store) (tables : List (String × Table)) : Except Fault Store :=
  tables.foldlM (fun store (name, table) => store.register name table) store

/-- The table of a name. -/
def table? (store : Store) (name : String) : Option Table :=
  let key := TableName.ofText name
  if key.isHome && key.name != "" then store.tables.get? key.name else none

end Store

end LabeledSeries
