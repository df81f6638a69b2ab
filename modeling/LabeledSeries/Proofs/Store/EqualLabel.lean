import LabeledSeries.Proofs.Fallible
import LabeledSeries.Proofs.Store.Selection

/-!
# Selecting by one more label

One more condition leaves those of the series of a selection that satisfy it
(`Table.select_insert_satisfies`, `Table.select_insert_equals`).  Little is asked of the table: its
columns may be of any kinds, and its rows may be too short or hold what their columns do not.

§1 A label that the selection compares on rows is compared by the content of a cell, which can
differ from the label that the cell gives.  But a row that has the label has it from that cell.
§2 and §3 So the check on rows takes nothing away that series keep, as long as it reads the column
of the label.  §4 For a label with a capital letter it reads another column, which need not exist:
then the selection is a fault (`Table.select_insert_equals_missing`), and otherwise both labels are
compared (`Table.select_insert_equals_lowered`).
-/

namespace LabeledSeries

namespace Table

variable {table : Table} {window : Time.Window} {row : List Cell} {label value : String}

/-! ## §1 Cells of labels -/

/-- Where no two columns have one name, the cell of a name is the one under the column. -/
theorem cell_of_mem_zip (hnodup : (table.columns.map Column.name).Nodup) {column : Column}
    {cell : Cell} (h : (column, cell) ∈ table.columns.zip row) :
    table.cell column.name row = cell := by
  unfold Table.cell
  generalize table.columns = columns at hnodup h
  induction columns generalizing row with
  | nil => cases h
  | cons first columns ih =>
    obtain ⟨hnew, hrest⟩ := List.nodup_cons.mp hnodup
    cases row with
    | nil => cases h
    | cons other row =>
      rcases List.mem_cons.mp h with heq | h
      · cases heq
        simp
      · -- The column stands further behind, so the first one has another name.
        have hne : first.name ≠ column.name := fun heq =>
          hnew (heq ▸ List.mem_map_of_mem (List.of_mem_zip h).1)
        simpa [hne] using ih hrest h

/-- A row has a label from the cell that is found under its name. -/
theorem cell_of_value_labels (hnodup : (table.columns.map Column.name).Nodup)
    (hvalue : value ≠ "") (h : (table.labels row).value label = value) :
    table.cell label row = .text value := by
  have hget : (table.labels row).get? label = some value := by
    cases hget : (table.labels row).get? label with
    | none =>
      rw [Labels.value, hget] at h
      exact absurd h.symm hvalue
    | some text =>
      rw [Labels.value, hget] at h
      exact congrArg some h
  -- The label was read off some cell, and no other column has the name.
  rw [labels, NameMap.ofList, NameMap.get?_insertAll, NameMap.get?_empty, Option.or_none] at hget
  obtain ⟨⟨column, cell⟩, hmem, hlabel⟩ :=
    List.mem_filterMap.mp (List.mem_reverse.mp (NameMap.mem_of_lookup_eq_some hget))
  cases cell with
  | text s =>
    dsimp only at hlabel
    split at hlabel
    · cases hlabel
      exact cell_of_mem_zip hnodup hmem
    · cases hlabel
  | _ => cases hlabel

/-! ## §2 One more condition -/

variable {before after : List Condition} {condition : Condition} {series : List Series}

/-- The check on rows reads the column of a label, if there is one: the name of the column has no
    capital letter. -/
def FindsColumn (table : Table) (label : String) : Prop :=
  (table.column? label).isSome = true → lowered label = label

/-- What a condition that is checked on rows asks of a row; the others ask nothing. -/
def passes (table : Table) (condition : Condition) (row : List Cell) : Bool :=
  (table.rowCondition? condition).all fun (name, value) =>
    (table.cell name row).content? == some value

theorem admits_insert (table : Table) (before after : List Condition) (condition : Condition)
    (window : Time.Window) (row : List Cell) :
    table.admits window ((before ++ condition :: after).filterMap table.rowCondition?) row =
      (table.admits window ((before ++ after).filterMap table.rowCondition?) row &&
        table.passes condition row) := by
  rw [List.filterMap_append, List.filterMap_append, List.filterMap_cons, passes]
  cases table.rowCondition? condition with
  | none => simp
  | some checked =>
    simp only [admits, List.all_append, List.all_cons, Option.all_some]
    ac_rfl

/-- Of the rows whose labels satisfy a condition, its check leaves those that pass it, if these can
    be told by their labels. -/
theorem filter_admitted_insert {p : Labels → Bool} (hp : ∀ row ∈ table.rows,
      (condition.holds (table.labels row) && table.passes condition row) = p (table.labels row)) :
    (table.admitted (before ++ condition :: after) window).filter
        (fun entry => condition.holds entry.1) =
      (table.admitted (before ++ after) window).filter (fun entry => p entry.1) := by
  unfold admitted
  rw [List.filter_map, List.filter_map, List.filter_filter, List.filter_filter]
  refine congrArg _ (List.filter_congr fun row hrow => ?_)
  rw [admits_insert, Function.comp_apply, Function.comp_apply, ← hp row hrow]
  ac_rfl

/-! ## §3 What is selected by it -/

private theorem forM_append_cons {α : Type} {before after : List α} {a : α}
    {f : α → Except Fault Unit} : (before ++ a :: after).forM f =
      before.forM f >>= fun _ => f a >>= fun _ => after.forM f := List.forM_append

private theorem forM_eq_error {α : Type} {before after : List α} {a : α}
    {f : α → Except Fault Unit} {fault : Fault} (hbefore : before.forM f = .ok ())
    (h : f a = .error fault) : (before ++ a :: after).forM f = .error fault := by
  rw [forM_append_cons, hbefore, h]
  rfl

private theorem forM_insert {α : Type} {before after : List α} {a : α}
    {f : α → Except Fault Unit} (h : f a = .ok ()) :
    (before ++ a :: after).forM f = (before ++ after).forM f := by
  have hrest : (before ++ after).forM f = before.forM f >>= fun _ => after.forM f :=
    List.forM_append
  rw [forM_append_cons, h, hrest]
  rfl

/-- One more condition needs no more of the columns than the one that it is checked by. -/
theorem requirements_insert
    (hcolumn : ∀ checked, table.rowCondition? condition = some checked →
      table.requireColumn checked.1 = .ok ())
    (h : table.requirements (before ++ after) window = .ok ()) :
    table.requirements (before ++ condition :: after) window = .ok () := by
  -- Columns are asked of the table, kinds of cells only of the rows that are admitted.
  rw [requirements_eq_ok_iff] at h ⊢
  obtain ⟨hrepeated, htime, hchecks, hkinds⟩ := h
  refine ⟨hrepeated, htime, ?_, fun batch hbatch => ?_⟩
  · intro checked hchecked
    obtain ⟨other, hother, hcheck⟩ := List.mem_filterMap.mp hchecked
    rcases List.mem_append.mp hother with hmem | hmem
    · exact hchecks _ (List.mem_filterMap.mpr ⟨other, List.mem_append_left _ hmem, hcheck⟩)
    · rcases List.mem_cons.mp hmem with rfl | hmem
      · exact hcolumn checked hcheck
      · exact hchecks _ (List.mem_filterMap.mpr ⟨other, List.mem_append_right _ hmem, hcheck⟩)
  · -- A row that passes one more check is admitted without it, and so its cells fit.
    obtain ⟨hrows, rfl⟩ := mem_batches_iff.mp hbatch
    have hfewer : ∀ row ∈ table.rows.filter
        (table.admits window ((before ++ condition :: after).filterMap table.rowCondition?)),
        row ∈ table.rows.filter
          (table.admits window ((before ++ after).filterMap table.rowCondition?)) := by
      intro row hrow
      obtain ⟨hmem, hadmits⟩ := List.mem_filter.mp hrow
      rw [admits_insert, Bool.and_eq_true] at hadmits
      exact List.mem_filter.mpr ⟨hmem, hadmits.1⟩
    obtain ⟨row, hrow⟩ := List.exists_mem_of_ne_nil _ hrows
    obtain ⟨htimes, hvalues⟩ := hkinds _
      (mem_batches_iff.mpr ⟨List.ne_nil_of_mem (hfewer row hrow), rfl⟩)
    exact ⟨⟨htimes.1, fun row hrow => htimes.2 row (hfewer row hrow)⟩,
      ⟨hvalues.1, fun row hrow => hvalues.2 row (hfewer row hrow)⟩⟩

/-- **One more condition** leaves those of the selected series whose labels satisfy it and pass its
    check on rows, if that can be told by the labels. -/
theorem select_insert {p : Labels → Bool}
    (hp : ∀ row ∈ table.rows,
      (condition.holds (table.labels row) && table.passes condition row) = p (table.labels row))
    (hcolumn : ∀ checked, table.rowCondition? condition = some checked →
      table.requireColumn checked.1 = .ok ())
    (h : table.select (before ++ after) window = .ok series) :
    table.select (before ++ condition :: after) window =
      .ok (series.filter fun s => p s.labels) := by
  obtain ⟨hneeds, rfl⟩ := select_eq_ok_iff.mp h
  refine select_eq_ok_iff.mpr ⟨requirements_insert hcolumn hneeds, ?_⟩
  have hall (labels : Labels) : (before ++ condition :: after).all (·.holds labels) =
      ((before ++ after).all (·.holds labels) && condition.holds labels) := by
    simp only [List.all_append, List.all_cons]
    ac_rfl
  have hinserted : table.selected (before ++ condition :: after) window =
      (((grouped (table.admitted (before ++ condition :: after) window)).filter
        fun s => condition.holds s.labels).filter
          fun s => (before ++ after).all (·.holds s.labels)).map Series.sorted := by
    rw [selected, List.filter_filter]
    simp only [hall]
  rw [hinserted, ← grouped_filter _ condition.holds, filter_admitted_insert hp, grouped_filter _ p,
    selected, List.filter_map, List.filter_filter, List.filter_filter]
  simp only [Function.comp_def, Series.sorted, Bool.and_comm]

/-- A condition that is not checked on rows leaves the series that satisfy it. -/
theorem select_insert_satisfies {test : String → Bool}
    (h : table.select (before ++ after) window = .ok series) :
    table.select (before ++ .satisfies label test :: after) window =
      .ok (series.filter fun s => test (s.labels.value label)) := by
  have hcheck : table.rowCondition? (.satisfies label test) = none := rfl
  refine select_insert (p := fun labels => test (labels.value label)) (fun row _ => ?_) ?_ h
  · simp [Condition.holds, passes, hcheck]
  · simp [hcheck]

/-- A condition of equality is checked, if it is, on the column that it finds. -/
theorem rowCondition?_equals_eq_some (hfinds : table.FindsColumn label) {checked : String × String}
    (h : table.rowCondition? (.equals label value) = some checked) :
    checked = (label, value) ∧ value ≠ "" ∧ table.requireColumn checked.1 = .ok () := by
  unfold rowCondition? at h
  dsimp only at h
  split at h
  · rename_i hguard
    rw [Bool.and_eq_true, bne_iff_ne] at hguard
    obtain ⟨hvalue, hcolumn⟩ := hguard
    cases h
    rw [hfinds hcolumn]
    exact ⟨rfl, hvalue, by rw [requireColumn, if_pos hcolumn]⟩
  · cases h

/-- A condition of equality leaves the series that satisfy it, if its check reads their label. -/
theorem select_insert_equals (hfinds : table.FindsColumn label)
    (h : table.select (before ++ after) window = .ok series) :
    table.select (before ++ .equals label value :: after) window =
      .ok (series.filter fun s => s.labels.value label == value) := by
  have hnodup := repeatedName?_eq_none_iff.mp
    (requirements_eq_ok_iff.mp (select_eq_ok_iff.mp h).1).1
  refine select_insert (p := fun labels => labels.value label == value) (fun row _ => ?_)
    (fun checked hchecked => (rowCondition?_equals_eq_some hfinds hchecked).2.2) h
  by_cases hrow : (table.labels row).value label = value
  · cases hcondition : table.rowCondition? (.equals label value) with
    | none => simp [Condition.holds, passes, hcondition]
    | some checked =>
      -- The row has the label from its cell, so it passes the check.
      obtain ⟨rfl, hvalue, -⟩ := rowCondition?_equals_eq_some hfinds hcondition
      have hcell := cell_of_value_labels hnodup hvalue hrow
      simp [Condition.holds, passes, hcondition, hcell, Cell.content?, hrow]
  · simp [Condition.holds, hrow]

/-- Where the table holds a metric, that condition changes nothing about faults, either. -/
theorem select_insert_equals_eq (hformed : table.WellFormed) (hfinds : table.FindsColumn label) :
    table.select (before ++ .equals label value :: after) window =
      (table.select (before ++ after) window).map fun series =>
        series.filter fun s => s.labels.value label == value := by
  cases h : table.select (before ++ after) window with
  | ok series =>
    rw [select_insert_equals hfinds h]
    rfl
  -- The metric can always be selected but for columns that checks look for.
  | error fault =>
    have hneeds : table.requirements (before ++ .equals label value :: after) window =
        table.requirements (before ++ after) window := by
      rw [requirements_of_wellFormed hformed, requirements_of_wellFormed hformed,
        List.filterMap_append, List.filterMap_append, List.filterMap_cons]
      cases hchecked : table.rowCondition? (.equals label value) with
      | none => rfl
      | some checked => exact forM_insert (rowCondition?_equals_eq_some hfinds hchecked).2.2
    rw [select_eq] at h ⊢
    rw [hneeds]
    cases hall : table.requirements (before ++ after) window with
    | error other =>
      rw [hall] at h
      exact h
    | ok _ =>
      rw [hall] at h
      cases h

/-! ## §4 Labels with capital letters -/

/-- A condition of equality whose label is a column is checked on the column of the lower case. -/
theorem rowCondition?_equals (hvalue : value ≠ "") (hcolumn : (table.column? label).isSome = true) :
    table.rowCondition? (.equals label value) = some (lowered label, value) := by
  simp [rowCondition?, hvalue, hcolumn]

/-- Without a column of the lower case the check is a fault. -/
theorem select_insert_equals_missing (hvalue : value ≠ "")
    (hcolumn : (table.column? label).isSome = true)
    (hmissing : table.column? (lowered label) = none)
    (h : table.select (before ++ after) window = .ok series) :
    table.select (before ++ .equals label value :: after) window =
      .error (.store (.noColumn (lowered label))) := by
  obtain ⟨hrepeated, htime, hchecks, -⟩ := requirements_eq_ok_iff.mp (select_eq_ok_iff.mp h).1
  -- The checks before it find their columns, so its own fault is the first.
  have hbefore : (before.filterMap table.rowCondition?).forM
      (fun checked => table.requireColumn checked.1) = .ok () := by
    refine forM_eq_ok_iff.mpr fun checked hchecked => hchecks checked ?_
    rw [List.filterMap_append]
    exact List.mem_append_left _ hchecked
  have hcheck : (fun checked : String × String => table.requireColumn checked.1)
      (lowered label, value) = .error (.store (.noColumn (lowered label))) := by
    simp [requireColumn, hmissing]
  rw [select_eq, requirements, hrepeated, List.filterMap_append, List.filterMap_cons,
    rowCondition?_equals hvalue hcolumn]
  simp only [htime, forM_eq_error hbefore hcheck, bind, Except.bind, Except.map]

/-- With a column of texts of the lower case two labels are compared with the one text. -/
theorem select_insert_equals_lowered (hformed : table.WellFormed) (hvalue : value ≠ "")
    (hcolumn : (table.column? label).isSome = true)
    (htext : table.column? (lowered label) = some ⟨lowered label, .text⟩)
    (h : table.select (before ++ after) window = .ok series) :
    table.select (before ++ .equals label value :: after) window =
      .ok (series.filter fun s =>
        s.labels.value label == value && s.labels.value (lowered label) == value) := by
  have hcondition := rowCondition?_equals hvalue hcolumn
  refine select_insert
    (p := fun labels => labels.value label == value && labels.value (lowered label) == value)
    (fun row hrow => ?_) ?_ h
  · have hcell : ((table.cell (lowered label) row).content? == some value) =
        ((table.labels row).value (lowered label) == value) := by
      rw [Bool.eq_iff_iff, beq_iff_eq, beq_iff_eq, value_labels hformed hrow,
        content?_eq_some_iff (cell_fits hformed hrow htext) hvalue]
    simp [Condition.holds, passes, hcondition, hcell]
  · intro checked hchecked
    cases hcondition.symm.trans hchecked
    simp [requireColumn, htext]

end Table

/-- Whatever a store selects satisfies all conditions. -/
theorem Store.all_hold_of_select {store : Store} {metric : String} {conditions : List Condition}
    {window : Time.Window} {selected : List Series}
    (h : store.select metric conditions window = .ok selected) :
    ∀ series ∈ selected, ∀ condition ∈ conditions, condition.holds series.labels = true := by
  unfold Store.select at h
  split at h
  · cases h
    simp
  · obtain ⟨-, rfl⟩ := Table.select_eq_ok_iff.mp h
    intro series hseries
    obtain ⟨group, hgroup, rfl⟩ := List.mem_map.mp hseries
    exact List.all_eq_true.mp (List.mem_filter.mp hgroup).2

/-- **Selecting by one label**: where the series of a metric can be selected, those with one value
    of a label are the ones of all of them that have it, in the same order. -/
theorem Store.select_equals {store : Store} {metric label : String} (value : String)
    {window : Time.Window} (hlabel : ∀ c ∈ label.toList, c.isUpper = false) {series : List Series}
    (h : store.select metric [] window = .ok series) :
    store.select metric [.equals label value] window =
      .ok (series.filter fun s => s.labels.value label == value) := by
  unfold Store.select at h ⊢
  split at h
  · cases h
    rfl
  · rename_i table _
    have hall : table.select ([] ++ []) window = .ok series := h
    have hfinds : table.FindsColumn label := fun _ => Table.lowered_eq_self hlabel
    exact (Table.select_insert_equals hfinds hall :
      table.select ([] ++ [.equals label value]) window = _)

end LabeledSeries
