import Mathlib.Data.List.Nodup
import LabeledSeries.Proofs.Labels
import LabeledSeries.Store.Selection

/-!
# The labels and samples of the rows of a table

A table that holds a metric has columns of different names, among them its times and its values, and
rows with a cell of the right kind for each column.  The label set of such a row is read off its
cells of text: a name has the text in its column, where that is not empty.

- `Table.WellFormed` — such tables
- `Table.ofPairs?_labelPairs` — the labels of a row are a label set, that is, no name is repeated
- `Table.labelSet?_eq_labels` — they are its cells of text
- `Table.value_labels` — the value of a label is the text of its cell
-/

namespace LabeledSeries

/-! ## §1 Tables of metrics -/

/-- The text of a cell that is a label: a text that is not empty. -/
def Cell.labelText? : Cell → Option String
  | .text s => if s = "" then none else some s
  | _ => none

namespace Table

/-- A table that holds a metric.  A row may lack its time, and then it lies in no window, and it may
    lack its value. -/
structure WellFormed (table : Table) : Prop where
  nodup_names : (table.columns.map Column.name).Nodup
  timeColumn_mem : ⟨timeColumn, .integer⟩ ∈ table.columns
  valueColumn_mem : ⟨valueColumn, .double⟩ ∈ table.columns
  rows_fit : ∀ row ∈ table.rows,
    List.Forall₂ (fun column cell => cell.fits column.kind = true) table.columns row

/-- The label set of a row, if none of its names is repeated. -/
def labels (table : Table) (row : List Cell) : Labels := NameMap.ofList (table.labelPairs row)

/-- The sample of a row with a time. -/
def sample? (table : Table) (row : List Cell) : Option Sample :=
  match table.cell timeColumn row with
  | .integer _ => some (table.sample row)
  | _ => none

/-- The cells of a row that are labels, under the names of their columns. -/
def textCells (table : Table) (row : List Cell) : List (String × String) :=
  (table.columns.zip row).filterMap fun (column, cell) =>
    cell.labelText?.map fun s => (column.name, s)

/-- The label set that the cells of a row give, unless a name occurs twice. -/
def labelSet? (table : Table) (row : List Cell) : Option Labels :=
  Labels.ofPairs? (table.textCells row)

/-! ## §2 Cells by the names of their columns -/

variable {table : Table} {row : List Cell}

/-- No name is repeated where each occurs once. -/
theorem repeatedName?_eq_none_iff {names : List String} :
    repeatedName? names = none ↔ names.Nodup := by
  induction names with
  | nil => simp [repeatedName?]
  | cons name names ih =>
    rw [repeatedName?, List.nodup_cons, ← ih]
    by_cases hmem : name ∈ names <;> simp [hmem]

theorem column?_eq_some_of_mem (h : table.WellFormed) {column : Column}
    (hmem : column ∈ table.columns) : table.column? column.name = some column := by
  have hnodup := h.nodup_names
  unfold column?
  generalize table.columns = columns at hmem hnodup
  induction columns with
  | nil => cases hmem
  | cons other columns ih =>
    obtain ⟨hnew, hrest⟩ := List.nodup_cons.mp hnodup
    rcases List.mem_cons.mp hmem with rfl | hmem
    · simp
    · -- A column before the one that is meant has another name.
      have hne : other.name ≠ column.name := fun heq => hnew (heq ▸ List.mem_map_of_mem hmem)
      simp [hne, ih hmem hrest]

/-- The cell of a column fits it. -/
theorem cell_fits (h : table.WellFormed) (hrow : row ∈ table.rows) {name : String}
    {column : Column} (hcolumn : table.column? name = some column) :
    (table.cell name row).fits column.kind = true := by
  have hfit := h.rows_fit row hrow
  clear hrow
  -- Columns and cells are searched in step, so the cell that is found stands under the column.
  unfold column? at hcolumn
  unfold cell
  generalize table.columns = columns at hfit hcolumn ⊢
  induction hfit with
  | nil => cases hcolumn
  | @cons other cell columns cells hcell _ ih =>
    by_cases hname : other.name = name
    · simp only [List.find?_cons, hname, decide_true, Option.some.injEq] at hcolumn
      subst hcolumn
      simpa [hname] using hcell
    · simp only [List.find?_cons, hname, decide_false] at hcolumn
      simpa [hname] using ih hcolumn

/-- A row with a time has a sample of that time. -/
theorem exists_sample {time : Int} (htime : table.cell timeColumn row = .integer time) :
    ∃ value, table.sample? row = some ⟨time, value⟩ := by
  refine ⟨(table.cell valueColumn row).storedDouble, ?_⟩
  rw [sample?, htime, sample, htime]
  rfl

theorem eq_sample_of_sample? {sample : Sample} (h : table.sample? row = some sample) :
    sample = table.sample row := by
  unfold sample? at h
  split at h
  · exact (Option.some.inj h).symm
  · cases h

/-- The time of a row's sample is in its cell. -/
theorem cell_of_sample? {sample : Sample} (h : table.sample? row = some sample) :
    table.cell timeColumn row = .integer sample.time := by
  unfold sample? at h
  split at h
  · rename_i time htime
    cases h
    rw [Table.sample, htime]
    rfl
  · cases h

/-- A time that lies in a window is not missing. -/
theorem exists_integer_of_isWithin {cell : Cell} {window : Time.Window}
    (hfits : cell.fits .integer = true) (h : cell.isWithin window = true) :
    ∃ time, cell = .integer time ∧ window.holds time = true := by
  cases cell with
  | integer time => exact ⟨time, rfl, h⟩
  | text s => cases hfits
  | null | double | hiddenInteger | hiddenDouble => cases h

/-! ## §3 Label sets -/

/-- A text stands in a column of texts, which holds neither times nor values. -/
private theorem isLabelColumn_of_text (h : table.WellFormed) (hrow : row ∈ table.rows)
    {column : Column} {s : String} (hmem : (column, Cell.text s) ∈ table.columns.zip row) :
    isLabelColumn column = true := by
  have hkind : column.kind = .text := by
    have hfit := (List.forall₂_iff_zip.mp (h.rows_fit row hrow)).2 hmem
    cases hkind : column.kind <;> simp_all [Cell.fits]
  have hcolumn := column?_eq_some_of_mem h (List.of_mem_zip hmem).1
  -- The columns of times and of values hold no texts, and names are unique.
  have htime : column.name ≠ timeColumn := by
    intro heq
    rw [heq, column?_eq_some_of_mem h h.timeColumn_mem] at hcolumn
    cases Option.some.inj hcolumn
    cases hkind
  have hvalue : column.name ≠ valueColumn := by
    intro heq
    rw [heq, column?_eq_some_of_mem h h.valueColumn_mem] at hcolumn
    cases Option.some.inj hcolumn
    cases hkind
  simp [isLabelColumn, hkind, htime, hvalue]

/-- The names of cells that are chosen in any way are among the names of the columns, in order. -/
private theorem names_sublist (choose : Column → Cell → Option String) (columns : List Column)
    (row : List Cell) :
    (((columns.zip row).filterMap fun (column, cell) =>
        (choose column cell).map fun s => (column.name, s)).map Prod.fst).Sublist
      (columns.map Column.name) := by
  induction columns generalizing row with
  | nil => simp
  | cons column columns ih =>
    cases row with
    | nil => simp
    | cons cell row =>
      have hrest := ih row
      cases htext : choose column cell with
      | none => simpa [htext] using hrest.cons column.name
      | some s => simpa [htext] using hrest

/-- No name of a row's labels is repeated, so its label set can be made. -/
theorem ofPairs?_labelPairs (h : (table.columns.map Column.name).Nodup) (row : List Cell) :
    Labels.ofPairs? (table.labelPairs row) = some (table.labels row) := by
  have hpairs : table.labelPairs row = (table.columns.zip row).filterMap fun (column, cell) =>
      (if isLabelColumn column then cell.labelText? else none).map fun s => (column.name, s) := by
    refine List.filterMap_congr fun ⟨column, cell⟩ _ => ?_
    cases cell with
    | text s =>
      by_cases hs : s = "" <;> cases hcolumn : isLabelColumn column <;>
        simp [Cell.labelText?, hs, hcolumn]
    | _ => simp [Cell.labelText?]
  have hnodup : ((table.labelPairs row).map Prod.fst).Nodup := by
    rw [hpairs]
    exact h.sublist (names_sublist
      (fun column cell => if isLabelColumn column then cell.labelText? else none) _ row)
  rw [Labels.ofPairs?_eq, if_pos hnodup, labels]

theorem nodup_textCells (h : table.WellFormed) (row : List Cell) :
    ((table.textCells row).map Prod.fst).Nodup :=
  h.nodup_names.sublist (names_sublist (fun _ cell => cell.labelText?) _ row)

theorem labelPairs_eq_textCells (h : table.WellFormed) (hrow : row ∈ table.rows) :
    table.labelPairs row = table.textCells row := by
  refine List.filterMap_congr fun ⟨column, cell⟩ hmem => ?_
  -- Only a cell of text can be a label, and then its column is one of labels.
  cases cell with
  | text s =>
    by_cases hs : s = ""
    · simp [Cell.labelText?, hs]
    · simp [Cell.labelText?, hs, isLabelColumn_of_text h hrow hmem]
  | _ => rfl

/-- The cells of text of a row are its label set. -/
theorem labelSet?_eq_labels (h : table.WellFormed) (hrow : row ∈ table.rows) :
    table.labelSet? row = some (table.labels row) := by
  rw [labelSet?, ← labelPairs_eq_textCells h hrow, ofPairs?_labelPairs h.nodup_names]

private theorem lookup_filterMap_labelText? {pairs : List (Column × Cell)}
    (hnodup : (pairs.map fun pair => pair.1.name).Nodup) (name : String) :
    NameMap.lookup name (pairs.filterMap fun (column, cell) =>
        cell.labelText?.map fun s => (column.name, s)) =
      (pairs.find? (fun (column, _) => column.name = name)).bind fun pair => pair.2.labelText? := by
  induction pairs with
  | nil => rfl
  | cons pair pairs ih =>
    obtain ⟨column, cell⟩ := pair
    obtain ⟨hnew, hrest⟩ := List.nodup_cons.mp hnodup
    have ih := ih hrest
    by_cases hname : column.name = name
    · -- The search ends here: without a text there is no label, as no other column has the name.
      subst hname
      have hnone : pairs.find? (fun (other, _) => other.name = column.name) = none := by
        simp only [List.find?_eq_none, decide_eq_true_eq]
        exact fun pair hpair heq => hnew (List.mem_map.mpr ⟨pair, hpair, heq⟩)
      rw [hnone] at ih
      cases htext : cell.labelText? with
      | none => simpa [htext] using ih
      | some s => simp [htext, NameMap.lookup]
    · cases htext : cell.labelText? with
      | none => simpa [htext, hname] using ih
      | some s => simpa [htext, hname, NameMap.lookup] using ih

/-- The value of a label is the text of its cell; without one it is empty. -/
theorem value_labels (h : table.WellFormed) (hrow : row ∈ table.rows) (name : String) :
    (table.labels row).value name = ((table.cell name row).labelText?).getD "" := by
  have hnodup : ((table.columns.zip row).map fun pair => pair.1.name).Nodup := by
    have hfst : (table.columns.zip row).map Prod.fst = table.columns :=
      List.map_fst_zip (Nat.le_of_eq (h.rows_fit row hrow).length_eq)
    have hnames := h.nodup_names
    rw [← hfst, List.map_map] at hnames
    exact hnames
  rw [labels, labelPairs_eq_textCells h hrow, Labels.value,
    NameMap.get?_ofList_of_nodup (nodup_textCells h row), textCells,
    lookup_filterMap_labelText? hnodup]
  unfold cell
  cases (table.columns.zip row).find? (fun (column, _) => column.name = name) with
  | none => rfl
  | some pair => rfl

end Table

end LabeledSeries
