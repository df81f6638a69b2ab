import LabeledSeries.Dump.Load
import LabeledSeries.Proofs.Fallible
import LabeledSeries.Proofs.NameMap
import LabeledSeries.Proofs.Store.Selection

/-!
# What the table of a metric reads back

The series of a metric are put into one table, which has a column for every label of any of them.
A row is read back as the labels of its own series, without the empty ones, whatever labels the
other series have: the columns that the series lacks are left without content in its rows
(`labels_metricRow`).

So the labelled samples of the table are those of the series, one after the other
(`labelledSamples_of_tableOf`).
-/

namespace LabeledSeries

/-! ## §1 Samples -/

namespace DumpedSeries

/-- The samples that the dumped ones stand for. -/
def converted (series : DumpedSeries) : List Sample :=
  series.samples.filterMap fun dumped => dumped.sample.toOption

/-- The samples with the labels under which they are found again. -/
def labelled (series : DumpedSeries) : List (Labels × Sample) :=
  series.converted.map fun sample => (series.labels.withoutEmpty, sample)

/-- Whether all dumped samples stand for samples. -/
def Converts (series : DumpedSeries) : Prop :=
  ∀ dumped ∈ series.samples, ∃ sample, dumped.sample = .ok sample

end DumpedSeries

/-! ## §2 Rows -/

/-- The row of a sample in a table with columns for these labels. -/
def metricRow (names : List String) (labels : Labels) (sample : Sample) : List Cell :=
  names.map (labelCell labels) ++ sample.cells

/-- The rows of several series, with columns for all their labels. -/
def metricRows (series : List DumpedSeries) : List (List Cell) :=
  series.flatMap fun dumped => dumped.converted.map (metricRow (labelNames series) dumped.labels)

/-- The table with columns for these labels and for samples, and with some rows. -/
def metricTable (names : List String) (rows : List (List Cell)) : Table where
  columns := names.map (⟨·, .text⟩) ++ sampleColumns
  rows := rows

theorem DumpedSeries.rows_eq_ok {names : List String} {series : DumpedSeries}
    {rows : List (List Cell)} (h : series.rows names = .ok rows) :
    series.Converts ∧ rows = series.converted.map (metricRow names series.labels) := by
  have hsteps := forall₂_of_mapM_eq_ok h
  clear h
  obtain ⟨labels, samples⟩ := series
  unfold DumpedSeries.Converts DumpedSeries.converted
  dsimp only at hsteps ⊢
  induction hsteps with
  | nil => exact ⟨by simp, rfl⟩
  | @cons dumped row samples rows hrow _ ih =>
    obtain ⟨sample, hsample, hrow⟩ := bind_eq_ok_iff.mp hrow
    cases hrow
    obtain ⟨hconverts, hrows⟩ := ih
    refine ⟨List.forall_mem_cons.mpr ⟨⟨sample, hsample⟩, hconverts⟩, ?_⟩
    rw [List.filterMap_cons_some (b := sample) (by rw [hsample]; rfl), List.map_cons, ← hrows]
    rfl

theorem mem_labelNames {series : List DumpedSeries} {dumped : DumpedSeries}
    (h : dumped ∈ series) : dumped.labels.names ⊆ labelNames series := fun _ hname =>
  List.mem_eraseDups.mpr (List.mem_flatMap.mpr ⟨dumped, h, hname⟩)

private theorem rows_of_mapM_eq_ok {names : List String} {series : List DumpedSeries}
    {rows : List (List (List Cell))} (h : series.mapM (DumpedSeries.rows names) = .ok rows) :
    (∀ dumped ∈ series, dumped.Converts) ∧
      rows.flatten = series.flatMap fun dumped =>
        dumped.converted.map (metricRow names dumped.labels) := by
  have hsteps := forall₂_of_mapM_eq_ok h
  clear h
  induction hsteps with
  | nil => exact ⟨by simp, rfl⟩
  | cons hrows _ ih =>
    obtain ⟨hconverts, rfl⟩ := DumpedSeries.rows_eq_ok hrows
    exact ⟨List.forall_mem_cons.mpr ⟨hconverts, ih.1⟩, by
      rw [List.flatten_cons, ih.2, List.flatMap_cons]⟩

/-- What a table of series consists of. -/
theorem tableOf_eq_ok {series : List DumpedSeries} {table : Table}
    (h : tableOf series = .ok table) :
    (∀ dumped ∈ series, dumped.Converts) ∧
      (timeColumn ∉ labelNames series ∧ valueColumn ∉ labelNames series) ∧
      table = metricTable (labelNames series) (metricRows series) := by
  obtain ⟨rows, hrows, h⟩ := bind_eq_ok_iff.mp h
  obtain ⟨hconverts, hflatten⟩ := rows_of_mapM_eq_ok hrows
  split at h
  · cases h
  · rename_i hnames
    cases h
    simp only [List.find?_eq_none, decide_eq_true_eq, not_or] at hnames
    refine ⟨hconverts, ⟨fun hmem => (hnames _ hmem).1 rfl, fun hmem => (hnames _ hmem).2 rfl⟩, ?_⟩
    rw [hflatten]
    rfl

/-! ## §3 The cells of a row -/

section Rows

variable {names : List String} {labels : Labels} {sample : Sample}

private theorem zip_metricRow (rows : List (List Cell)) :
    (metricTable names rows).columns.zip (metricRow names labels sample) =
      names.map (fun name => (⟨name, .text⟩, labelCell labels name)) ++
        sampleColumns.zip sample.cells := by
  rw [metricTable, metricRow, List.zip_append (by simp), List.zip_map']

theorem cell_metricRow {name : String} (h : name ∉ names) (rows : List (List Cell)) :
    (metricTable names rows).cell name (metricRow names labels sample) =
      (Table.mk sampleColumns []).cell name sample.cells := by
  rw [Table.cell, zip_metricRow, List.find?_append, List.find?_eq_none.mpr, Option.none_or]
  · rfl
  · -- The columns of labels are not meant.
    simp only [List.mem_map, decide_eq_true_eq]
    rintro pair ⟨other, hother, rfl⟩ rfl
    exact h hother

/-- A row has the sample that it was made for. -/
theorem sample?_metricRow (htime : timeColumn ∉ names) (hvalue : valueColumn ∉ names)
    (rows : List (List Cell)) :
    (metricTable names rows).sample? (metricRow names labels sample) = some sample := by
  rw [Table.sample?, Table.sample, cell_metricRow htime, cell_metricRow hvalue]
  rfl

private theorem labelCell_fits (labels : Labels) (name : String) :
    (labelCell labels name).fits .text = true := by
  unfold labelCell
  split <;> rfl

private theorem metricRow_fits (names : List String) (labels : Labels) (sample : Sample) :
    List.Forall₂ (fun column cell => cell.fits column.kind = true)
      (names.map (⟨·, .text⟩) ++ sampleColumns) (metricRow names labels sample) := by
  unfold metricRow
  induction names with
  | nil => exact .cons rfl (.cons rfl .nil)
  | cons name names ih => exact .cons (labelCell_fits labels name) ih

/-- A table of samples holds a metric, if no label has the name of a column of samples. -/
theorem metricTable_wellFormed (hnames : names.Nodup) (htime : timeColumn ∉ names)
    (hvalue : valueColumn ∉ names) {rows : List (List Cell)}
    (hrows : ∀ row ∈ rows, ∃ labels sample, row = metricRow names labels sample) :
    (metricTable names rows).WellFormed where
  nodup_names := by
    have hcolumns : (metricTable names rows).columns.map Column.name =
        names ++ [timeColumn, valueColumn] := by
      simp [metricTable, sampleColumns, Function.comp_def]
    rw [hcolumns]
    refine List.nodup_append.mpr ⟨hnames, by decide, fun name hname other hother => ?_⟩
    rintro rfl
    simp only [List.mem_cons, List.not_mem_nil, or_false] at hother
    rcases hother with rfl | rfl
    · exact htime hname
    · exact hvalue hname
  timeColumn_mem := List.mem_append_right _ (by simp [sampleColumns])
  valueColumn_mem := List.mem_append_right _ (by simp [sampleColumns])
  rows_fit := by
    intro row hrow
    obtain ⟨labels, sample, rfl⟩ := hrows row hrow
    exact metricRow_fits names labels sample

theorem textCells_metricRow (rows : List (List Cell)) :
    (metricTable names rows).textCells (metricRow names labels sample) =
      names.filterMap fun name => (labelCell labels name).labelText?.map fun s => (name, s) := by
  rw [Table.textCells, zip_metricRow, List.filterMap_append, List.filterMap_map]
  exact List.append_nil _

private theorem labelText?_labelCell (labels : Labels) (name : String) :
    (labelCell labels name).labelText? = (labels.get? name).filter (fun value => value != "") := by
  unfold labelCell
  cases labels.get? name with
  | none => rfl
  | some value => by_cases h : value = "" <;> simp [Cell.labelText?, Option.filter, h]

/-- The columns of other series leave no labels behind: a row has the labels of its own series that
    are not empty. -/
theorem labels_metricRow {rows : List (List Cell)}
    (hformed : (metricTable names rows).WellFormed) (hnames : labels.names ⊆ names)
    (hrow : metricRow names labels sample ∈ rows) :
    (metricTable names rows).labels (metricRow names labels sample) = labels.withoutEmpty := by
  rw [Table.labels, Table.labelPairs_eq_textCells hformed hrow]
  refine NameMap.ext_get? fun name => ?_
  rw [NameMap.get?_ofList_of_nodup (Table.nodup_textCells hformed _), textCells_metricRow,
    NameMap.lookup_filterMap, Labels.withoutEmpty, NameMap.get?_filter, labelText?_labelCell]
  split
  · rfl
  · -- A label without a column is none of the series.
    rename_i hname
    have hnone : labels.get? name = none := by
      rw [NameMap.get?_eq_lookup]
      exact NameMap.lookup_eq_none_iff.mpr fun hmem => hname (hnames hmem)
    rw [hnone]
    rfl

end Rows

/-! ## §4 Samples of a table -/

/-- **The table of a metric reads back its series**: it holds a metric, and its labelled samples are
    those of the series in their order. -/
theorem labelledSamples_of_tableOf {series : List DumpedSeries} {table : Table}
    (h : tableOf series = .ok table) :
    table.WellFormed ∧
      table.rows.filterMap table.labelledSample? = series.flatMap DumpedSeries.labelled := by
  obtain ⟨-, ⟨htime, hvalue⟩, rfl⟩ := tableOf_eq_ok h
  have hformed : (metricTable (labelNames series) (metricRows series)).WellFormed := by
    refine metricTable_wellFormed (nodup_eraseDups _) htime hvalue fun row hrow => ?_
    obtain ⟨dumped, -, hrow⟩ := List.mem_flatMap.mp hrow
    obtain ⟨sample, -, rfl⟩ := List.mem_map.mp hrow
    exact ⟨_, _, rfl⟩
  refine ⟨hformed, ?_⟩
  have hrows : (metricTable (labelNames series) (metricRows series)).rows = metricRows series := rfl
  rw [hrows, metricRows, List.filterMap_flatMap, ← metricRows]
  refine List.flatMap_congr fun dumped hdumped => ?_
  rw [List.filterMap_map, DumpedSeries.labelled, ← List.filterMap_eq_map]
  refine List.filterMap_congr fun sample hsample => ?_
  have hrow : metricRow (labelNames series) dumped.labels sample ∈ metricRows series :=
    List.mem_flatMap.mpr ⟨dumped, hdumped, List.mem_map_of_mem hsample⟩
  rw [Function.comp_apply, Table.labelledSample?, Table.labelSet?_eq_labels hformed hrow,
    sample?_metricRow htime hvalue,
    labels_metricRow hformed (mem_labelNames hdumped) hrow]
  rfl

end LabeledSeries
