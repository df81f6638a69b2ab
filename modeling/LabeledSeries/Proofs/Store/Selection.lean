import Mathlib.Data.Int.Order.Basic
import LabeledSeries.Proofs.StableSort
import LabeledSeries.Proofs.Store.Collecting

/-!
# Selecting series, without the check on rows

Some conditions are checked twice when series are selected: on the rows, before there are series,
and on the labels of the series.  The first check is there for speed alone.

§1 says when a selection succeeds and what it consists of then (`Table.select_eq_ok_iff`), whatever
the table is: the groups of the admitted rows, which are collected under the signatures of labels.
§2 defines selecting as one would describe it (`Table.naiveSelect`): rows in the window, in series
by their labels, of which those stay that satisfy all conditions.  §3 is about the check on a row,
which reads cells and not labels, but says the same of a table that holds a metric
(`Table.admitted_eq_filter`).  A row that fails it belongs to a series that is left out anyway, so
the check is invisible in what a store selects, to which §4 comes
(`Store.select_eq_naiveSelect`).
-/

namespace LabeledSeries

/-- Series that have samples, all of them in a window and in order of time. -/
structure Series.RunsWithin (window : Time.Window) (series : Series) : Prop where
  samples_ne_nil : series.samples ≠ []
  holds : ∀ sample ∈ series.samples, window.holds sample.time = true
  ascending : AscendingOn Sample.time series.samples

namespace Table

variable {table : Table} {conditions : List Condition} {window : Time.Window} {row : List Cell}

/-! ## §1 What is selected -/

/-- The samples of the rows that are admitted, with their labels. -/
def admitted (table : Table) (conditions : List Condition) (window : Time.Window) :
    List (Labels × Sample) :=
  (table.rows.filter (table.admits window (conditions.filterMap table.rowCondition?))).map
    fun row => (table.labels row, table.sample row)

/-- The series that are selected, unless the table lacks a column that this needs. -/
def selected (table : Table) (conditions : List Condition) (window : Time.Window) : List Series :=
  ((grouped (table.admitted conditions window)).filter fun series =>
    conditions.all (·.holds series.labels)).map Series.sorted

/-- What a selection needs of a batch of admitted rows. -/
def requireSamples (batch : Table) : Except Fault Unit := do
  batch.requireKind timeColumn .integer
  batch.requireKind valueColumn .double

/-- What a selection needs of the columns; their kinds matter only if there are rows to read. -/
def requirements (table : Table) (conditions : List Condition) (window : Time.Window) :
    Except Fault Unit := do
  if let some name := table.repeatedColumn? then throw (.store (.repeatedColumn name))
  table.requireColumn timeColumn
  (conditions.filterMap table.rowCondition?).forM fun (name, _) => table.requireColumn name
  (table.batches window (conditions.filterMap table.rowCondition?)).forM requireSamples

/-- Where no two columns have one name, the rows of a batch are added unless their times or values
    cannot be read. -/
private theorem addBatch_eq {batch : Table} (h : (batch.columns.map Column.name).Nodup)
    (index : List (List UInt8 × Series)) :
    batch.addBatch id index =
      batch.requireSamples.map fun _ => batch.labelledSamples.foldl (addEntry id) index := by
  rw [addBatch, foldlM_addRow, if_pos fun row _ => nodup_labelPairs h row, requireSamples]
  cases batch.requireKind timeColumn .integer with
  | error fault => rfl
  | ok _ =>
    cases batch.requireKind valueColumn .double with
    | error fault => rfl
    | ok _ => rfl

/-- The admitted rows are collected in groups, as signatures are not confused. -/
private theorem collectSeries_batches (h : (table.columns.map Column.name).Nodup) :
    collectSeries id (table.batches window (conditions.filterMap table.rowCondition?)) =
      ((table.batches window (conditions.filterMap table.rowCondition?)).forM requireSamples).map
        fun _ => withDigests id (grouped (table.admitted conditions window)) := by
  rw [batches, admitted]
  generalize table.rows.filter
    (table.admits window (conditions.filterMap table.rowCondition?)) = rows
  cases rows with
  | nil => rfl
  | cons row rows =>
    let batch : Table := ⟨table.columns, row :: rows⟩
    have hadded := @addBatch_eq batch h []
    rw [foldl_addEntry (Distinguishes.undigested _)] at hadded
    -- With one batch the loops over batches are their one step.
    exact (bind_pure (batch.addBatch id [])).trans
      (hadded.trans (congrArg (Except.map _) (bind_pure batch.requireSamples).symm))

theorem select_eq (table : Table) (conditions : List Condition) (window : Time.Window) :
    table.select conditions window =
      (table.requirements conditions window).map fun _ => table.selected conditions window := by
  -- Each requirement in turn ends both sides with its fault, or none of them does.
  unfold select requirements
  cases hrepeated : table.repeatedColumn? with
  | some name => rfl
  | none =>
    cases table.requireColumn timeColumn with
    | error fault => rfl
    | ok _ =>
      simp only [bind, Except.bind]
      cases (conditions.filterMap table.rowCondition?).forM
          fun (name, _) => table.requireColumn name with
      | error fault => rfl
      | ok _ =>
        dsimp only
        rw [collectSeries_batches (repeatedName?_eq_none_iff.mp hrepeated)]
        cases (table.batches window
            (conditions.filterMap table.rowCondition?)).forM requireSamples with
        | error fault => rfl
        | ok _ =>
          simp only [Except.map, map_snd_withDigests]
          rfl

/-- A selection that succeeds gives the series of the admitted rows. -/
theorem select_eq_ok_iff {series : List Series} :
    table.select conditions window = .ok series ↔
      table.requirements conditions window = .ok () ∧
        series = table.selected conditions window := by
  rw [select_eq]
  cases table.requirements conditions window with
  | error fault => simp [Except.map]
  | ok _ => simp [Except.map, eq_comm]

theorem mem_batches_iff {batch : Table} {checks : List (String × String)} :
    batch ∈ table.batches window checks ↔
      table.rows.filter (table.admits window checks) ≠ [] ∧
        batch = { table with rows := table.rows.filter (table.admits window checks) } := by
  unfold batches
  generalize table.rows.filter (table.admits window checks) = rows
  cases rows with
  | nil => simp
  | cons row rows => simp

/-- Of a table that holds a metric the admitted rows make such a table. -/
theorem WellFormed.of_mem_batches (h : table.WellFormed) {batch : Table}
    {checks : List (String × String)} (hbatch : batch ∈ table.batches window checks) :
    batch.WellFormed := by
  obtain ⟨-, rfl⟩ := mem_batches_iff.mp hbatch
  exact { h with rows_fit := fun row hrow => h.rows_fit row (List.mem_of_mem_filter hrow) }

/-- A batch has samples if it has times and values to be read. -/
private theorem requireSamples_eq_ok_iff {batch : Table} :
    batch.requireSamples = .ok () ↔
      batch.HoldsKind timeColumn .integer ∧ batch.HoldsKind valueColumn .double := by
  simp only [requireSamples, bind_eq_ok_iff, ← requireKind_eq_ok_iff]
  exact ⟨fun ⟨_, htimes, hvalues⟩ => ⟨htimes, hvalues⟩,
    fun ⟨htimes, hvalues⟩ => ⟨(), htimes, hvalues⟩⟩

/-- When the columns are as a selection needs them. -/
theorem requirements_eq_ok_iff :
    table.requirements conditions window = .ok () ↔
      table.repeatedColumn? = none ∧ table.requireColumn timeColumn = .ok () ∧
      (∀ checked ∈ conditions.filterMap table.rowCondition?,
        table.requireColumn checked.1 = .ok ()) ∧
      ∀ batch ∈ table.batches window (conditions.filterMap table.rowCondition?),
        batch.HoldsKind timeColumn .integer ∧ batch.HoldsKind valueColumn .double := by
  simp only [← requireSamples_eq_ok_iff]
  rw [← forM_eq_ok_iff, ← forM_eq_ok_iff, requirements]
  cases table.repeatedColumn? with
  | some name => simp [bind, Except.bind, throw, throwThe, MonadExceptOf.throw]
  | none =>
    simp only [bind, Except.bind]
    cases table.requireColumn timeColumn with
    | error fault => simp
    | ok _ =>
      cases (conditions.filterMap table.rowCondition?).forM
          fun checked => table.requireColumn checked.1 with
      | error fault => simp
      | ok _ => simp

/-- An admitted sample lies in the window. -/
theorem holds_of_mem_admitted (h : table.requirements conditions window = .ok ())
    {entry : Labels × Sample} (hentry : entry ∈ table.admitted conditions window) :
    window.holds entry.2.time = true := by
  obtain ⟨row, hrow, rfl⟩ := List.mem_map.mp hentry
  obtain ⟨⟨-, htimes⟩, -⟩ := (requirements_eq_ok_iff.mp h).2.2.2 _
    (mem_batches_iff.mpr ⟨List.ne_nil_of_mem hrow, rfl⟩)
  have hfits : (table.cell timeColumn row).fits .integer = true := htimes row hrow
  have hadmits := (List.mem_filter.mp hrow).2
  rw [admits, Bool.and_eq_true] at hadmits
  -- A time that is missing lies in no window, so the sample has the time that was compared.
  obtain ⟨time, hcell, hholds⟩ := exists_integer_of_isWithin hfits hadmits.1
  have htime : (table.sample row).time = time := by
    rw [sample, hcell]
    rfl
  rw [htime]
  exact hholds

/-- A selected series has the labels of a row. -/
theorem exists_row_of_mem_selected {series : Series}
    (h : series ∈ table.selected conditions window) :
    ∃ row ∈ table.rows, series.labels = table.labels row := by
  obtain ⟨group, hgroup, rfl⟩ := List.mem_map.mp h
  -- A group has the labels of one of the samples that were grouped.
  obtain ⟨entry, hentry, hlabels⟩ := List.mem_map.mp (mem_grouped (List.mem_of_mem_filter hgroup)).2
  obtain ⟨row, hrow, rfl⟩ := List.mem_map.mp hentry
  exact ⟨row, List.mem_of_mem_filter hrow, hlabels.symm⟩

theorem runsWithin_of_mem_selected (h : table.requirements conditions window = .ok ())
    {series : Series} (hseries : series ∈ table.selected conditions window) :
    series.RunsWithin window := by
  obtain ⟨group, hgroup, rfl⟩ := List.mem_map.mp hseries
  have hgroup := List.mem_of_mem_filter hgroup
  refine ⟨?_, fun sample hsample => ?_, pairwise_sortOn Sample.time group.samples⟩
  · intro hnil
    have hperm := sortOn_perm Sample.time group.samples
    exact samples_ne_nil_of_mem_grouped hgroup (List.perm_nil.mp (hnil ▸ hperm.symm))
  · have hmem : sample ∈ group.samples := (mem_sortOn Sample.time).mp hsample
    exact holds_of_mem_admitted h (mem_of_mem_grouped hgroup hmem)

/-! ## §2 Selecting without a check on rows -/

/-- The labels and the sample of a row, unless a label is repeated or the row has no sample. -/
def labelledSample? (table : Table) (row : List Cell) : Option (Labels × Sample) := do
  return (← table.labelSet? row, ← table.sample? row)

/-- The samples in a window with their labels, in the order of the rows. -/
def samplesWithin (table : Table) (window : Time.Window) : List (Labels × Sample) :=
  (table.rows.filterMap table.labelledSample?).filter fun entry => window.holds entry.2.time

/-- The samples in a window by their label sets, of which those are kept that satisfy all
    conditions, each with its samples in order of time. -/
def naiveSelect (table : Table) (conditions : List Condition) (window : Time.Window) :
    List Series :=
  ((grouped (table.samplesWithin window)).filter fun series =>
      conditions.all (·.holds series.labels)).map
    fun series => { series with samples := sortOn Sample.time series.samples }

/-- Whether a condition is one that a table can check on its rows, or need not: where it asks for a
    text that is not empty, it names no column, or a column of texts without capital letters. -/
def CanCheck (table : Table) : Condition → Prop
  | .equals label value => value ≠ "" → ∀ column, table.column? label = some column →
      column.kind = .text ∧ ∀ c ∈ label.toList, c.isUpper = false
  | .satisfies _ _ => True

/-! ## §3 The check on a row -/

private theorem toLower_eq_self {c : Char} (h : c.isUpper = false) : c.toLower = c := by
  have hrange : ¬ (c.val ≥ 'A'.val ∧ c.val ≤ 'Z'.val) := of_decide_eq_false h
  exact dif_neg hrange

theorem lowered_eq_self {label : String} (h : ∀ c ∈ label.toList, c.isUpper = false) :
    lowered label = label := by
  refine String.toList_injective ?_
  rw [lowered, String.toList_map]
  exact (List.map_congr_left fun c hc => toLower_eq_self (h c hc)).trans (List.map_id _)

/-- A cell of text compares as its label does, except that it has a content when it is empty. -/
theorem content?_eq_some_iff {cell : Cell} (hfits : cell.fits .text = true) {value : String}
    (hvalue : value ≠ "") : cell.content? = some value ↔ cell.labelText?.getD "" = value := by
  cases cell with
  | null => simp [Cell.content?, Cell.labelText?, Ne.symm hvalue]
  | text s =>
    by_cases hs : s = ""
    · simp [Cell.content?, Cell.labelText?, hs]
    · simp [Cell.content?, Cell.labelText?, hs]
  | integer | double | hiddenInteger | hiddenDouble => cases hfits

/-- The column and the text by which a condition is checked on rows, if it is. -/
private theorem rowCondition?_eq_some {condition : Condition} {name value : String}
    (hcheck : table.CanCheck condition)
    (h : table.rowCondition? condition = some (name, value)) :
    condition = .equals name value ∧ value ≠ "" ∧
      ∃ column, table.column? name = some column ∧ column.kind = .text := by
  cases condition with
  | satisfies label test => cases h
  | equals label text =>
    simp only [rowCondition?] at h
    split at h
    · -- The column is there under the label's own name, which lowering leaves as it is.
      rename_i hguard
      cases h
      obtain ⟨hvalue, hsome⟩ := Bool.and_eq_true_iff.mp hguard
      have hvalue : value ≠ "" := by simpa using hvalue
      obtain ⟨column, hcolumn⟩ := Option.isSome_iff_exists.mp hsome
      obtain ⟨hkind, hlower⟩ := hcheck hvalue column hcolumn
      rw [lowered_eq_self hlower]
      exact ⟨rfl, hvalue, column, hcolumn, hkind⟩
    · cases h

/-- The check of a condition on a row says what the condition says of the row's labels. -/
private theorem content?_iff_holds (h : table.WellFormed) (hrow : row ∈ table.rows)
    {condition : Condition} {name value : String} (hcheck : table.CanCheck condition)
    (hcondition : table.rowCondition? condition = some (name, value)) :
    ((table.cell name row).content? == some value) = condition.holds (table.labels row) := by
  obtain ⟨rfl, hvalue, column, hcolumn, hkind⟩ := rowCondition?_eq_some hcheck hcondition
  have hfits := cell_fits h hrow hcolumn
  rw [hkind] at hfits
  rw [Bool.eq_iff_iff, beq_iff_eq, content?_eq_some_iff hfits hvalue, Condition.holds, beq_iff_eq,
    value_labels h hrow]

/-- What the check on rows asks, said of labels: the conditions that are checked hold. -/
private def checkHolds (table : Table) (conditions : List Condition) (labels : Labels) : Bool :=
  conditions.all fun condition =>
    (table.rowCondition? condition).isNone || condition.holds labels

private theorem all_rowConditions (h : table.WellFormed) (hrow : row ∈ table.rows)
    (hcheck : ∀ condition ∈ conditions, table.CanCheck condition) :
    ((conditions.filterMap table.rowCondition?).all fun (name, value) =>
        (table.cell name row).content? == some value) =
      table.checkHolds conditions (table.labels row) := by
  induction conditions with
  | nil => rfl
  | cons condition conditions ih =>
    have ih := ih fun other hother => hcheck other (List.mem_cons_of_mem _ hother)
    have hcheck := hcheck condition (List.mem_cons_self ..)
    rw [checkHolds, List.all_cons, ← checkHolds, ← ih]
    -- A condition that is not checked on rows asks nothing on either side.
    cases hcondition : table.rowCondition? condition with
    | none => simp [hcondition]
    | some pair =>
      obtain ⟨name, value⟩ := pair
      rw [List.filterMap_cons_some hcondition, List.all_cons, Option.isNone_some, Bool.false_or,
        ← content?_iff_holds h hrow hcheck hcondition]

theorem labelledSample?_eq (h : table.WellFormed) (hrow : row ∈ table.rows) :
    table.labelledSample? row =
      (table.sample? row).map fun sample => (table.labels row, sample) := by
  rw [labelledSample?, labelSet?_eq_labels h hrow]
  cases table.sample? row with
  | none => rfl
  | some sample => rfl

/-- A row is admitted if its sample lies in the window and its labels pass the check. -/
private theorem admits_eq (h : table.WellFormed) (hrow : row ∈ table.rows)
    (hcheck : ∀ condition ∈ conditions, table.CanCheck condition) :
    table.admits window (conditions.filterMap table.rowCondition?) row =
      ((table.sample? row).any (fun sample => window.holds sample.time) &&
        table.checkHolds conditions (table.labels row)) := by
  have hfits := cell_fits h hrow (column?_eq_some_of_mem h h.timeColumn_mem)
  rw [admits, all_rowConditions h hrow hcheck]
  congr 1
  -- A row without a time has no sample, and it lies in no window.
  cases hcell : table.cell timeColumn row with
  | integer time => simp [sample?, hcell, sample, Cell.isWithin, Cell.storedInteger]
  | null | hiddenInteger => simp [sample?, hcell, Cell.isWithin]
  | text | double | hiddenDouble => simp [hcell, Cell.fits] at hfits

/-- The admitted rows are those in the window whose labels pass the check. -/
theorem admitted_eq_filter (h : table.WellFormed)
    (hcheck : ∀ condition ∈ conditions, table.CanCheck condition) :
    table.admitted conditions window =
      (table.samplesWithin window).filter fun entry => table.checkHolds conditions entry.1 := by
  rw [admitted, samplesWithin, List.filter_filter, List.filter_filterMap, ← List.filterMap_eq_map,
    List.filterMap_filter]
  -- Row by row: one without a sample gives nothing, and one with a sample passes both or neither.
  refine List.filterMap_congr fun row hrow => ?_
  rw [labelledSample?_eq h hrow, admits_eq h hrow hcheck]
  cases hsample : table.sample? row with
  | none => simp
  | some sample => simp [eq_sample_of_sample? hsample, Option.filter, Bool.and_comm]

/-- A series that is left out by the check on its rows is left out by its labels. -/
private theorem checkHolds_of_all_hold {labels : Labels}
    (h : conditions.all (·.holds labels) = true) : table.checkHolds conditions labels = true := by
  rw [List.all_eq_true] at h
  rw [checkHolds, List.all_eq_true]
  intro condition hcondition
  rw [h condition hcondition, Bool.or_true]

theorem selected_eq_naiveSelect (h : table.WellFormed)
    (hcheck : ∀ condition ∈ conditions, table.CanCheck condition) :
    table.selected conditions window = table.naiveSelect conditions window := by
  -- Of a series that satisfies all conditions the check on rows has let all rows pass.
  have hfilter : ∀ series : Series,
      (conditions.all (·.holds series.labels) && table.checkHolds conditions series.labels) =
        conditions.all (·.holds series.labels) := by
    intro series
    cases hall : conditions.all (·.holds series.labels) with
    | false => rfl
    | true => rw [checkHolds_of_all_hold hall]; rfl
  rw [selected, admitted_eq_filter h hcheck, grouped_filter,
    List.filter_filter, funext hfilter]
  rfl

/-- The samples with some labels, which satisfy the conditions, are selected in a window just if
    they lie in it. -/
theorem exists_mem_naiveSelect_iff {labels : Labels} {sample : Sample}
    (hlabels : conditions.all (·.holds labels) = true) :
    (∃ series ∈ table.naiveSelect conditions window,
        series.labels = labels ∧ sample ∈ series.samples) ↔
      (labels, sample) ∈ table.rows.filterMap table.labelledSample? ∧
        window.holds sample.time = true := by
  rw [← List.mem_filter (p := fun entry : Labels × Sample => window.holds entry.2.time),
    ← samplesWithin]
  constructor
  · rintro ⟨series, hseries, rfl, hsample⟩
    obtain ⟨group, hgroup, rfl⟩ := List.mem_map.mp hseries
    have hsample : sample ∈ group.samples := (mem_sortOn Sample.time).mp hsample
    have hmem : (group.labels, sample) ∈ table.samplesWithin window :=
      mem_of_mem_grouped (List.mem_of_mem_filter hgroup) hsample
    exact hmem
  · intro hmem
    refine ⟨_, List.mem_map_of_mem (List.mem_filter.mpr ⟨gather_mem_grouped hmem, ?_⟩), rfl, ?_⟩
    · exact hlabels
    · exact (mem_sortOn Sample.time).mpr (mem_gather.mpr hmem)

/-! ## §4 Selecting from a store -/

private theorem requireColumn_eq_ok {name : String} {column : Column}
    (h : table.column? name = some column) : table.requireColumn name = .ok () := by
  simp [requireColumn, h]

/-- Of a table that holds a metric a selection can only lack a column that it checks rows by. -/
theorem requirements_of_wellFormed (h : table.WellFormed) (conditions : List Condition)
    (window : Time.Window) :
    table.requirements conditions window =
      (conditions.filterMap table.rowCondition?).forM fun checked =>
        table.requireColumn checked.1 := by
  have hrepeated : table.repeatedColumn? = none := repeatedName?_eq_none_iff.mpr h.nodup_names
  have htime := requireColumn_eq_ok (column?_eq_some_of_mem h h.timeColumn_mem)
  have hsamples : (table.batches window (conditions.filterMap table.rowCondition?)).forM
      requireSamples = .ok () := by
    refine forM_eq_ok_iff.mpr fun batch hbatch => requireSamples_eq_ok_iff.mpr ?_
    have hreadable := (h.of_mem_batches hbatch).readable
    exact ⟨hreadable.times, hreadable.values⟩
  rw [requirements, hrepeated]
  simp only [htime, hsamples, bind, Except.bind]
  cases (conditions.filterMap table.rowCondition?).forM
      fun checked => table.requireColumn checked.1 with
  | error fault => rfl
  | ok _ => rfl

/-- It lacks none that can be checked. -/
theorem requirements_eq_ok (h : table.WellFormed)
    (hcheck : ∀ condition ∈ conditions, table.CanCheck condition) :
    table.requirements conditions window = .ok () := by
  rw [requirements_of_wellFormed h]
  refine forM_eq_ok_iff.mpr fun (name, value) hmem => ?_
  obtain ⟨condition, hcondition, hrow⟩ := List.mem_filterMap.mp hmem
  obtain ⟨-, -, column, hcolumn, -⟩ := rowCondition?_eq_some (hcheck condition hcondition) hrow
  exact requireColumn_eq_ok hcolumn

end Table

/-- Whatever a store selects has samples, and only such as were asked for. -/
theorem Store.runsWithin_of_select {store : Store} {metric : String} {conditions : List Condition}
    {window : Time.Window} {selected : List Series}
    (h : store.select metric conditions window = .ok selected) :
    ∀ series ∈ selected, series.RunsWithin window := by
  unfold Store.select at h
  split at h
  · cases h
    simp
  · obtain ⟨hneeds, rfl⟩ := Table.select_eq_ok_iff.mp h
    exact fun series => Table.runsWithin_of_mem_selected hneeds

/-- From a table that holds a metric series are selected as if rows were not checked. -/
theorem Table.select_of_wellFormed {table : Table} {conditions : List Condition}
    (window : Time.Window) (hformed : table.WellFormed)
    (hcheck : ∀ condition ∈ conditions, table.CanCheck condition) :
    table.select conditions window = .ok (table.naiveSelect conditions window) :=
  select_eq_ok_iff.mpr
    ⟨requirements_eq_ok hformed hcheck, (selected_eq_naiveSelect hformed hcheck).symm⟩

theorem Store.select_of_table? {store : Store} {metric : String} {table : Table}
    {conditions : List Condition} (window : Time.Window) (htable : store.table? metric = some table)
    (hformed : table.WellFormed) (hcheck : ∀ condition ∈ conditions, table.CanCheck condition) :
    store.select metric conditions window = .ok (table.naiveSelect conditions window) := by
  unfold Store.select
  rw [htable]
  exact Table.select_of_wellFormed window hformed hcheck

/-- **Selecting is naive selecting**: for a table that holds a metric, and conditions each of which
    it can check on its rows or need not, the series are those that one gets without such a check.
    On the way every row with a time has a label set and a sample, so no name is repeated among its
    labels.  Every series has samples, and no two have the same labels. -/
theorem Store.select_eq_naiveSelect {store : Store} {metric : String} {table : Table}
    {conditions : List Condition} (window : Time.Window) (htable : store.table? metric = some table)
    (hformed : table.WellFormed) (hcheck : ∀ condition ∈ conditions, table.CanCheck condition) :
    store.select metric conditions window = .ok (table.naiveSelect conditions window) ∧
      (∀ row ∈ table.rows, ∀ time, table.cell timeColumn row = .integer time →
        ∃ labels value, table.labelledSample? row = some (labels, ⟨time, value⟩)) ∧
      (∀ series ∈ table.naiveSelect conditions window, series.samples ≠ []) ∧
      ((table.naiveSelect conditions window).map Series.labels).Nodup := by
  refine ⟨Store.select_of_table? window htable hformed hcheck, ?_, ?_, ?_⟩
  · intro row hrow time htime
    obtain ⟨value, hsample⟩ := Table.exists_sample htime
    exact ⟨table.labels row, value, by rw [Table.labelledSample?_eq hformed hrow, hsample]; rfl⟩
  · rw [← Table.selected_eq_naiveSelect hformed hcheck]
    exact fun series hseries =>
      (Table.runsWithin_of_mem_selected (Table.requirements_eq_ok hformed hcheck)
        hseries).samples_ne_nil
  · rw [Table.naiveSelect, List.map_map]
    have hlabels : (Series.labels ∘ fun series : Series =>
        { series with samples := sortOn Sample.time series.samples }) = Series.labels := rfl
    rw [hlabels]
    exact (nodup_grouped_labels _).sublist (List.filter_sublist.map Series.labels)

/-- A table with two samples of a host, one of them without a value, one sample without a host, and
    a row without a time. -/
def hostTable : Table := hostBatch
  [[.text "a", .integer 2, .double 0.5], [.null, .integer 1, .double 1],
    [.text "a", .integer 1, .hiddenDouble 2], [.text "b", .null, .double 3]]

/-- A store with that table. -/
def hostStore : Store := ⟨.singleton "up" hostTable⟩

theorem hostTable_wellFormed : hostTable.WellFormed :=
  hostBatch_wellFormed (by simp [hostBatch, sampleColumns, Cell.fits])

theorem hostStore_table? : hostStore.table? "up" = some hostTable := by
  have hname : TableName.ofText "up" = ⟨TableName.homeCatalog, TableName.homeSchema, "up"⟩ := by
    decide +kernel
  rw [Store.table?, hname]
  rfl

/-- The samples of that table, in the order of its rows. -/
theorem hostTable_samples : hostTable.rows.filterMap hostTable.labelledSample? =
    [(.singleton "host" "a", ⟨2, 0.5⟩), (.empty, ⟨1, 1⟩), (.singleton "host" "a", ⟨1, 2⟩)] := by
  simp [hostTable, hostBatch, sampleColumns, Table.labelledSample?, Table.labelSet?,
    Labels.ofPairs?_eq, Table.textCells, Cell.labelText?, Table.sample?, Table.sample, Table.cell,
    timeColumn, valueColumn, Cell.storedInteger, Cell.storedDouble]

/-- Of the two samples of the host, which satisfies a condition that is checked on rows, the later
    one stands first in the table and last in its series.  The earlier one has no value; its place
    in the column holds 2. -/
theorem Store.select_eq_naiveSelect_of_host :
    hostStore.select "up" [.equals "host" "a", .satisfies "zone" (· == "")] ⟨0, 2⟩ =
      .ok [{ labels := .singleton "host" "a", samples := [⟨1, 2⟩, ⟨2, 0.5⟩], range := none }] := by
  have hcheck : ∀ condition ∈ [Condition.equals "host" "a", .satisfies "zone" (· == "")],
      hostTable.CanCheck condition := by
    simp [Table.CanCheck, hostTable, hostBatch, sampleColumns, Table.column?, timeColumn,
      valueColumn]
  rw [(Store.select_eq_naiveSelect ⟨0, 2⟩ hostStore_table? hostTable_wellFormed hcheck).1]
  simp [Table.naiveSelect, Table.samplesWithin, hostTable_samples, Time.Window.holds, grouped,
    gather, sortOn, List.eraseDups_cons, Condition.holds, Labels.value, List.mergeSort]

end LabeledSeries
