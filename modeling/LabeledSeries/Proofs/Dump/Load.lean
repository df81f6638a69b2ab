import LabeledSeries.Proofs.Dump.Table
import LabeledSeries.Proofs.Engine.InstantAndRange
import LabeledSeries.Proofs.Query.MetricName

/-!
# What a folder of dumps answers

A folder of dumps is loaded into one table for each metric, and a range over a metric is answered
from its table.  Nothing is lost on the way and nothing is added: the answer has one series for each
set of labels that are not empty, with the samples of all dumped series that have these labels,
whichever dumps they are in (`Engine.query_range_of_loadStore`).

§1 The dumped series of a folder.  §2 The series of one metric.
§3 Every metric keeps its table while those of the others are registered, and it is found by the
name of the metric.  §4 What it means that series are read back (`ReadsBack`), which does not depend
on their order, and a matrix for which it holds.  §5 A range over a metric is answered with that
matrix.  §6 A folder of two dumps.

Two kinds of ranges are not answered so (`Engine.query_range_of_loadStore_refused`).  One that is
longer than all times is refused, also where it starts at a time.  And the name of a metric can be
the text of a selector of another metric, which is the one that is asked for then.
-/

namespace LabeledSeries

/-! ## §1 The dumped series -/

/-- All series in the dumps of a folder, file by file. -/
def dumpedSeries (files : Files) (folder : String) : Except LoadFault (List DumpedSeries) := do
  return (← (← dumpPaths files folder).mapM (loadSeries files)).flatten

/-- The tables of the metrics of some series. -/
def storeOf (series : List DumpedSeries) : Except LoadFault Store :=
  (byMetric series).entries.foldlM
    (fun store (metric, series) => registerMetric store metric series) Store.empty

theorem loadStore_eq (files : Files) (folder : String) :
    loadStore files folder = dumpedSeries files folder >>= storeOf := by
  -- Loading reads all dumps before it registers anything.
  rw [loadStore, dumpedSeries]
  cases dumpPaths files folder with
  | error fault => rfl
  | ok paths =>
    dsimp only [bind, Except.bind]
    cases paths.mapM (loadSeries files) with
    | error fault => rfl
    | ok series => rfl

theorem loadStore_eq_ok {files : Files} {folder : String} {store : Store}
    (h : loadStore files folder = .ok store) :
    ∃ series, dumpedSeries files folder = .ok series ∧ storeOf series = .ok store := by
  rw [loadStore_eq] at h
  exact bind_eq_ok_iff.mp h

/-! ## §2 Series by metric -/

/-- The series of a metric. -/
def ofMetric (metric : String) (series : List DumpedSeries) : List DumpedSeries :=
  series.filter fun dumped => dumped.labels.get? metricLabel = some metric

private theorem byMetric_concat (series : List DumpedSeries) (dumped : DumpedSeries) :
    byMetric (series ++ [dumped]) =
      match dumped.labels.get? metricLabel with
      | none => byMetric series
      | some metric => (byMetric series).insert metric
          (((byMetric series).get? metric).getD [] ++ [dumped]) := by
  rw [byMetric, List.foldl_append]
  rfl

/-- Under the name of a metric are its series in their order, if there are any. -/
theorem get?_byMetric (series : List DumpedSeries) (metric : String) :
    (byMetric series).get? metric =
      if ofMetric metric series = [] then none else some (ofMetric metric series) := by
  -- A series is added to those of its metric, so the induction is on the last series.
  induction series using List.reverseRecOn with
  | nil => rfl
  | append_singleton series dumped ih =>
    rw [byMetric_concat, ofMetric, List.filter_append, ← ofMetric, List.filter_singleton]
    cases hmetric : dumped.labels.get? metricLabel with
    | none => simp [ih]
    | some other =>
      by_cases hother : other = metric
      · -- The metric is there already or begins with this series.
        subst hother
        by_cases hnil : ofMetric other series = []
        · simp [ih, hnil]
        · simp [ih, hnil]
      · simp [ih, hother]

/-! ## §3 Tables by name -/

/-- A store has the table of some series under the name of a metric. -/
def Store.Holds (store : Store) (metric : String) (series : List DumpedSeries) : Prop :=
  ∃ table, tableOf series = .ok table ∧ (TableName.ofText metric).isHome = true ∧
    store.tables.get? (TableName.ofText metric).name = some table

/-- What one store has under a name, another has, too. -/
def Store.Extends (store larger : Store) : Prop :=
  ∀ name table, store.tables.get? name = some table → larger.tables.get? name = some table

/-- A metric whose registration succeeds gets a table under a name that was free. -/
theorem eq_insert_of_registerMetric {store store' : Store} {metric : String}
    {series : List DumpedSeries} (h : registerMetric store metric series = .ok store') :
    ∃ table, tableOf series = .ok table ∧ (TableName.ofText metric).isHome = true ∧
      store.tables.get? (TableName.ofText metric).name = none ∧
      store' = ⟨store.tables.insert (TableName.ofText metric).name table⟩ := by
  obtain ⟨table, htable, h⟩ := bind_eq_ok_iff.mp h
  -- Registration fails if the name is not a home or is taken, so here it is neither.
  split at h
  · rename_i registered hregister
    cases h
    unfold Store.register at hregister
    dsimp only at hregister
    split at hregister
    · cases hregister
    · rename_i hhome
      split at hregister
      · cases hregister
      · rename_i hfree
        cases hregister
        rw [Bool.not_eq_true', Bool.not_eq_false] at hhome
        exact ⟨table, htable, hhome, by simpa [NameMap.contains_eq] using hfree, rfl⟩
  · cases h

theorem registerMetric_eq_ok {store store' : Store} {metric : String} {series : List DumpedSeries}
    (h : registerMetric store metric series = .ok store') :
    store'.Holds metric series ∧ store.Extends store' := by
  obtain ⟨table, htable, hhome, hfree, rfl⟩ := eq_insert_of_registerMetric h
  refine ⟨⟨table, htable, hhome, by rw [NameMap.get?_insert, if_pos rfl]⟩,
    fun name other hother => ?_⟩
  -- The name was not taken, so no table is lost.
  rw [NameMap.get?_insert, if_neg]
  · exact hother
  · rintro rfl
    cases hfree.symm.trans hother

theorem foldlM_registerMetric_eq_ok {store store' : Store}
    {entries : List (String × List DumpedSeries)}
    (h : entries.foldlM (fun store (metric, series) => registerMetric store metric series) store =
      .ok store') :
    (∀ entry ∈ entries, store'.Holds entry.1 entry.2) ∧ store.Extends store' := by
  -- Each registration adds one table and keeps all others, so what held after the first ones still
  -- holds at the end.
  induction entries generalizing store with
  | nil =>
    cases h
    exact ⟨by simp, fun _ _ htable => htable⟩
  | cons entry entries ih =>
    rw [List.foldlM_cons] at h
    obtain ⟨next, hnext, h⟩ := bind_eq_ok_iff.mp h
    obtain ⟨⟨table, htable, hhome, hget⟩, hfirst⟩ := registerMetric_eq_ok hnext
    obtain ⟨hentries, hrest⟩ := ih h
    exact ⟨List.forall_mem_cons.mpr ⟨⟨table, htable, hhome, hrest _ _ hget⟩, hentries⟩,
      fun name table htable => hrest _ _ (hfirst _ _ htable)⟩

/-- Every metric has the table of its series in the store. -/
theorem holds_of_storeOf {series : List DumpedSeries} {store : Store}
    (h : storeOf series = .ok store) {metric : String} (hmetric : ofMetric metric series ≠ []) :
    store.Holds metric (ofMetric metric series) := by
  -- The series of a metric stand under its name, and every such entry was registered.
  have hget := get?_byMetric series metric
  rw [if_neg hmetric] at hget
  exact (foldlM_registerMetric_eq_ok h).1 (metric, ofMetric metric series)
    (NameMap.mem_entries_iff.mpr hget)

/-- A store that has the table of a metric finds it by the name of the metric. -/
theorem Store.table?_of_holds {store : Store} {metric : String} {series : List DumpedSeries}
    (h : store.Holds metric series) (hname : Text.isRecordName metric = true) :
    ∃ table, tableOf series = .ok table ∧ store.table? metric = some table := by
  obtain ⟨table, htable, -, hget⟩ := h
  exact ⟨table, htable, by rw [Store.table?_of_isRecordName hname, hget]⟩

/-! ## §4 What is read back -/

/-- A matrix holds what dumped series have in a window: a series for each set of labels that are
    not empty under which there is a sample, and in it the samples of all dumped series with these
    labels, in order of time. -/
structure ReadsBack (window : Time.Window) (dumped : List DumpedSeries) (matrix : RangeMatrix) :
    Prop where
  nodup_labels : (matrix.map Series.labels).Nodup
  mem_labels_iff : ∀ labels, labels ∈ matrix.map Series.labels ↔
    ∃ series ∈ dumped, series.labels.withoutEmpty = labels ∧
      ∃ sample ∈ series.samples, window.holds sample.time = true
  samples_perm : ∀ series ∈ matrix, series.samples.Perm
    ((dumped.filter fun other => other.labels.withoutEmpty = series.labels).flatMap fun other =>
      -- Order within equal times is not fixed, since files may be listed in any order.
      other.converted.filter fun sample => window.holds sample.time)
  ascending : ∀ series ∈ matrix, AscendingOn Sample.time series.samples

theorem ReadsBack.eq_nil_iff {window : Time.Window} {dumped : List DumpedSeries}
    {matrix : RangeMatrix} (h : ReadsBack window dumped matrix) :
    matrix = [] ↔ ¬ ∃ series ∈ dumped, ∃ sample ∈ series.samples,
      window.holds sample.time = true := by
  rw [← List.map_eq_nil_iff (f := Series.labels), List.eq_nil_iff_forall_not_mem]
  simp only [h.mem_labels_iff]
  -- There is a label set in the matrix just if some series has a sample in the window.
  constructor
  · rintro hnone ⟨series, hseries, hsample⟩
    exact hnone _ ⟨series, hseries, rfl, hsample⟩
  · rintro hnone labels ⟨series, hseries, -, hsample⟩
    exact hnone ⟨series, hseries, hsample⟩

/-- The labelled samples of dumped series in a window, by label set and in order of time. -/
def matrixOf (window : Time.Window) (dumped : List DumpedSeries) : RangeMatrix :=
  (grouped ((dumped.flatMap DumpedSeries.labelled).filter fun entry =>
    window.holds entry.2.time)).map fun series =>
      { series with
        samples := sortOn Sample.time series.samples
        range := some (window.start, window.stop) }

private theorem time_of_sample {dumped : DumpedSample} {sample : Sample}
    (h : dumped.sample = .ok sample) : sample.time = dumped.time := by
  unfold DumpedSample.sample at h
  split at h
  · cases h
    rfl
  · cases h

/-- A sample in a window is one that was dumped with a time there. -/
private theorem exists_converted_iff {series : DumpedSeries} (h : series.Converts)
    (window : Time.Window) :
    (∃ sample ∈ series.converted, window.holds sample.time = true) ↔
      ∃ dumped ∈ series.samples, window.holds dumped.time = true := by
  constructor
  · -- Converting keeps the time of a sample, and every sample converts.
    rintro ⟨sample, hsample, hholds⟩
    obtain ⟨dumped, hdumped, hconverted⟩ := List.mem_filterMap.mp hsample
    obtain ⟨other, hother⟩ := h dumped hdumped
    rw [hother] at hconverted
    cases hconverted
    exact ⟨dumped, hdumped, time_of_sample hother ▸ hholds⟩
  · rintro ⟨dumped, hdumped, hholds⟩
    obtain ⟨sample, hsample⟩ := h dumped hdumped
    refine ⟨sample, List.mem_filterMap.mpr ⟨dumped, hdumped, by rw [hsample]; rfl⟩, ?_⟩
    rwa [time_of_sample hsample]

/-- The samples under a label set come from the series with these labels. -/
private theorem filter_labelled (window : Time.Window) (dumped : List DumpedSeries)
    (labels : Labels) :
    (((dumped.flatMap DumpedSeries.labelled).filter fun entry =>
        window.holds entry.2.time).filter fun entry => entry.1 = labels).map Prod.snd =
      (dumped.filter fun series => series.labels.withoutEmpty = labels).flatMap fun series =>
        series.converted.filter fun sample => window.holds sample.time := by
  induction dumped with
  | nil => rfl
  | cons series dumped ih =>
    rw [List.flatMap_cons, List.filter_append, List.filter_append, List.map_append, ih,
      List.filter_cons]
    -- The samples of one series have one label set, so all of them are meant or none is.
    by_cases hlabels : series.labels.withoutEmpty = labels
    · rw [if_pos (by simpa using hlabels), List.flatMap_cons]
      congr 1
      simp [DumpedSeries.labelled, List.filter_map, Function.comp_def, hlabels]
    · rw [if_neg (by simpa using hlabels)]
      simp [DumpedSeries.labelled, List.filter_map, Function.comp_def, hlabels]

private theorem labels_mem_matrixOf_iff (window : Time.Window) (dumped : List DumpedSeries)
    (labels : Labels) :
    labels ∈ (matrixOf window dumped).map Series.labels ↔
      ∃ series ∈ dumped, series.labels.withoutEmpty = labels ∧
        ∃ sample ∈ series.converted, window.holds sample.time = true := by
  -- The label sets of the groups are those of the samples, each once.
  have hlabels : (matrixOf window dumped).map Series.labels =
      (((dumped.flatMap DumpedSeries.labelled).filter fun entry =>
        window.holds entry.2.time).map Prod.fst).eraseDups := by
    rw [← grouped_map_labels, matrixOf, List.map_map]
    rfl
  rw [hlabels, List.mem_eraseDups]
  constructor
  · intro hmem
    obtain ⟨entry, hentry, rfl⟩ := List.mem_map.mp hmem
    obtain ⟨hentry, hholds⟩ := List.mem_filter.mp hentry
    obtain ⟨series, hseries, hentry⟩ := List.mem_flatMap.mp hentry
    obtain ⟨sample, hsample, rfl⟩ := List.mem_map.mp hentry
    exact ⟨series, hseries, rfl, sample, hsample, hholds⟩
  · rintro ⟨series, hseries, rfl, sample, hsample, hholds⟩
    refine List.mem_map.mpr ⟨(series.labels.withoutEmpty, sample), ?_, rfl⟩
    exact List.mem_filter.mpr
      ⟨List.mem_flatMap.mpr ⟨series, hseries, List.mem_map_of_mem hsample⟩, hholds⟩

theorem readsBack_matrixOf (window : Time.Window) {dumped : List DumpedSeries}
    (hconverts : ∀ series ∈ dumped, series.Converts) :
    ReadsBack window dumped (matrixOf window dumped) where
  nodup_labels := by
    rw [matrixOf, List.map_map]
    exact nodup_grouped_labels _
  mem_labels_iff := by
    intro labels
    rw [labels_mem_matrixOf_iff]
    exact exists_congr fun series => and_congr_right fun hseries =>
      and_congr_right fun _ => exists_converted_iff (hconverts series hseries) window
  samples_perm := by
    -- The group of a label set is sorted afterwards, which keeps its samples.
    intro series hseries
    obtain ⟨group, hgroup, rfl⟩ := List.mem_map.mp hseries
    refine (sortOn_perm Sample.time group.samples).trans (List.Perm.of_eq ?_)
    rw [(mem_grouped hgroup).1]
    exact filter_labelled window dumped group.labels
  ascending := by
    intro series hseries
    obtain ⟨group, -, rfl⟩ := List.mem_map.mp hseries
    exact pairwise_sortOn Sample.time group.samples

/-! ## §5 Queries -/

/-- A selection without conditions from the table of some series. -/
theorem map_naiveSelect_eq_matrixOf {table : Table} {series : List DumpedSeries}
    (h : table.rows.filterMap table.labelledSample? = series.flatMap DumpedSeries.labelled)
    (window : Time.Window) :
    ((table.naiveSelect [] window).map fun series =>
        { series with range := some (window.start, window.stop) }) =
      matrixOf window series := by
  -- Without conditions the selection from the table is the grouping of its samples in the window.
  rw [Table.naiveSelect, Table.samplesWithin, h, matrixOf, List.filter_eq_self.mpr (by simp),
    List.map_map]
  rfl

theorem Store.select_of_holds {store : Store} {metric : String} {series : List DumpedSeries}
    (h : store.Holds metric series) (hname : Text.isRecordName metric = true)
    (window : Time.Window) :
    ∃ selected, store.select metric [] window = .ok selected ∧
      (selected.map fun series =>
        { series with range := some (window.start, window.stop) }) = matrixOf window series := by
  obtain ⟨table, htable, hfound⟩ := Store.table?_of_holds h hname
  obtain ⟨hformed, hsamples⟩ := labelledSamples_of_tableOf htable
  exact ⟨table.naiveSelect [] window, Store.select_of_table? window hfound hformed (by simp),
    map_naiveSelect_eq_matrixOf hsamples window⟩

namespace Engine

theorem ofSeries_eq_none_iff {matrix : RangeMatrix} : ofSeries matrix = .none ↔ matrix = [] := by
  cases matrix with
  | nil => simp [ofSeries]
  | cons series matrix => simp [ofSeries]

/-- **What is loaded is read back**: let a folder of dumps be loaded, whatever order its files are
    listed in, and let a metric of one of the dumped series be a text that reads as the selector of
    that metric.  A range over it that is within 64 bits, and starts within them, is answered with
    what the series of the metric have there, all dumps together, and with nothing if they have
    nothing there. -/
theorem query_range_of_loadStore {files : Files} {folder : String} {store : Store}
    (hload : loadStore files folder = .ok store) :
    ∃ dumped, dumpedSeries files folder = .ok dumped ∧
      ∀ metric, (∃ series ∈ dumped, series.labels.get? metricLabel = some metric) →
        Query.Expr.read? metric = some (.instant (Query.Selector.ofName metric)) →
        (∀ series ∈ ofMetric metric dumped, series.Converts) ∧
        ∀ (length : String) (span : Time.Span) (time : Int) (engine : Engine),
          Query.span? length = some span → (span.microseconds : Int) ≤ Time.latest →
          Time.inRange (time - span.microseconds) = true → engine.store = store →
          ∃ matrix, engine.query (metric ++ "[" ++ length ++ "]") time = .ok (ofSeries matrix) ∧
            ReadsBack ⟨time - span.microseconds, time⟩ (ofMetric metric dumped) matrix ∧
            (ofSeries matrix = .none ↔ ¬ ∃ series ∈ ofMetric metric dumped,
              ∃ sample ∈ series.samples,
                time - span.microseconds < sample.time ∧ sample.time ≤ time) := by
  obtain ⟨dumped, hdumped, hstore⟩ := loadStore_eq_ok hload
  refine ⟨dumped, hdumped, fun metric ⟨series, hseries, hmetric⟩ hread => ?_⟩
  -- The metric has a series, so it was registered.
  have hne : ofMetric metric dumped ≠ [] :=
    List.ne_nil_of_mem (List.mem_filter.mpr ⟨hseries, by simpa using hmetric⟩)
  have hholds := holds_of_storeOf hstore hne
  -- A sample that does not convert makes the table fail, and loading with it.
  have hconverts : ∀ series ∈ ofMetric metric dumped, series.Converts := by
    obtain ⟨table, htable, -⟩ := hholds
    exact (tableOf_eq_ok htable).1
  refine ⟨hconverts, fun length span time engine hspan hfits hstart hengine => ?_⟩
  subst hengine
  -- The name is a single word, so that it names the table that was registered under it.
  obtain ⟨selected, hselected, hmatrix⟩ := Store.select_of_holds hholds
    (Query.isRecordName_of_read? hread) ⟨time - span.microseconds, time⟩
  have hreads := readsBack_matrixOf ⟨time - span.microseconds, time⟩ hconverts
  refine ⟨_, ?_, hreads, ?_⟩
  · -- The range over the text is read as a range over the metric's table.
    rw [query_range (Query.Expr.read?_range hread hspan),
      selectRange_eq (rangeWindow_eq_ok hfits hstart), Query.Selector.ofName, select_named,
      hselected, ← hmatrix]
    rfl
  · rw [ofSeries_eq_none_iff, hreads.eq_nil_iff]
    simp only [Time.Window.holds, decide_eq_true_eq]

/-! ## §6 A folder of two dumps -/

/-- A folder of dumps, each the text of a document. -/
def dumpFolder (dumps : List (String × Document)) : Files where
  read? := fun path => (dumps.lookup path).map Document.compactText
  names? := fun _ => some (dumps.map Prod.fst)

/-- The dump of some series, each with its labels and with times and values as they are written. -/
def dumpDocument (series : List (List (String × String) × List (String × String))) : Document :=
  let sample : String × String → Document := fun (seconds, value) =>
    .array [.number seconds, .text value]
  let item : List (String × String) × List (String × String) → Document :=
    fun (labels, samples) => .object [
      ("metric", .object (labels.map fun (name, value) => (name, .text value))),
      ("values", .array (samples.map sample))]
  .object [("status", .text Response.success),
    ("data", .object [("resultType", .text "matrix"), ("result", .array (series.map item))])]

/-- A dump of a host with an empty label. -/
def hostDump : Document :=
  dumpDocument [([("__name__", "up"), ("host", "a"), ("zone", "")], [("1", "2")])]

/-- A dump of the same host without that label, and of a metric whose name is a selector. -/
def selectorDump : Document :=
  dumpDocument [([("__name__", "up"), ("host", "a")], [("0.5", "3")]),
    ([("__name__", "up\x7bhost=\"b\"\x7d")], [("1", "1")])]

/-- A folder with these dumps. -/
def hostFolder : Files := dumpFolder [("b.json", hostDump), ("a.json", selectorDump)]

private theorem read?_compactText (document : Document) :
    Document.read? document.compactText = (do
      let (read, rest) ← Document.readValue (2 * document.compact.length + 2) document.compact
      if (Document.skipSpace rest).isEmpty then some read else none) := by
  rw [Document.read?, Document.compactText, String.toList_ofList]

set_option maxRecDepth 100000 in
private theorem read?_hostDump : Document.read? hostDump.compactText = some hostDump := by
  rw [read?_compactText]
  rfl

set_option maxRecDepth 100000 in
private theorem read?_selectorDump :
    Document.read? selectorDump.compactText = some selectorDump := by
  rw [read?_compactText]
  rfl

/-- The series of a dump. -/
def seriesOfDump (path : String) (document : Document) : Except LoadFault (List DumpedSeries) :=
  match Response.ofDocument? document with
  | some response =>
    if response.status = Response.success then .ok response.series
    else .error (.unsuccessful path response.status)
  | none => .error (.malformed path)

theorem loadSeries_of_read? {files : Files} {path text : String} {document : Document}
    (htext : files.read? path = some text) (hread : Document.read? text = some document) :
    loadSeries files path = seriesOfDump path document := by
  rw [loadSeries, Files.loadDocument, Files.load, htext]
  simp only [bind, Except.bind, hread, Option.bind]
  rw [seriesOfDump]
  cases Response.ofDocument? document <;> rfl

/-- The series of that folder. -/
def hostSeries : Except LoadFault (List DumpedSeries) := do
  let first ← seriesOfDump "b.json" hostDump
  let second ← seriesOfDump "a.json" selectorDump
  return first ++ second

private theorem dumpedSeries_of_two {files : Files} {folder : String} {path path' : String}
    (h : dumpPaths files folder = .ok [path, path']) :
    dumpedSeries files folder = (do
      let first ← loadSeries files path
      let second ← loadSeries files path'
      return first ++ second) := by
  rw [dumpedSeries, h]
  -- Files are loaded in the order of their paths, and the first fault is the answer.
  simp only [bind, Except.bind, List.mapM_cons, List.mapM_nil]
  cases loadSeries files path with
  | error fault => rfl
  | ok first =>
    cases loadSeries files path' with
    | error fault => rfl
    | ok second =>
      simp only [pure, Except.pure, List.flatten_cons, List.flatten_nil, List.append_nil]

private theorem dumpedSeries_hostFolder : dumpedSeries hostFolder "" = hostSeries := by
  have hpaths : dumpPaths hostFolder "" = .ok ["b.json", "a.json"] := by decide +kernel
  have hfirst : loadSeries hostFolder "b.json" = seriesOfDump "b.json" hostDump :=
    loadSeries_of_read? rfl read?_hostDump
  have hsecond : loadSeries hostFolder "a.json" = seriesOfDump "a.json" selectorDump :=
    loadSeries_of_read? rfl read?_selectorDump
  rw [dumpedSeries_of_two hpaths, hfirst,
    hsecond, hostSeries]

/-- What can be computed of that folder and its store. -/
private theorem exists_hostFolder {p : Store → List DumpedSeries → Bool}
    (h : (hostSeries.toOption.any fun dumped =>
      (storeOf dumped).toOption.any fun store => p store dumped) = true) :
    ∃ store dumped, loadStore hostFolder "" = .ok store ∧
      dumpedSeries hostFolder "" = .ok dumped ∧ p store dumped = true := by
  -- The folder was loaded without a fault, or the condition could not have been computed.
  rw [← dumpedSeries_hostFolder] at h
  cases hdumped : dumpedSeries hostFolder "" with
  | error fault =>
    rw [hdumped] at h
    cases h
  | ok dumped =>
    rw [hdumped] at h
    cases hstore : storeOf dumped with
    | error fault =>
      simp [Except.toOption, hstore] at h
    | ok store =>
      refine ⟨store, dumped, ?_, rfl, by simpa [Except.toOption, hstore] using h⟩
      rw [loadStore_eq, hdumped]
      exact hstore

/-- In two seconds the host has two samples in that folder. -/
theorem exists_hostFolder_up :
    ∃ store dumped, loadStore hostFolder "" = .ok store ∧
      dumpedSeries hostFolder "" = .ok dumped ∧
      (∃ series ∈ ofMetric "up" dumped,
        series.labels.withoutEmpty = { entries := [("__name__", "up"), ("host", "a")] } ∧
          ∃ sample ∈ series.samples, Time.Window.holds ⟨0, 2000000⟩ sample.time = true) ∧
      (((ofMetric "up" dumped).filter fun series =>
          series.labels.withoutEmpty = { entries := [("__name__", "up"), ("host", "a")] }).flatMap
        fun series =>
          series.converted.filter fun sample =>
            Time.Window.holds ⟨0, 2000000⟩ sample.time).length = 2 := by
  have hcomputed : (hostSeries.toOption.any fun dumped =>
      (storeOf dumped).toOption.any fun _ =>
        ((ofMetric "up" dumped).any fun series =>
          series.labels.withoutEmpty = { entries := [("__name__", "up"), ("host", "a")] } &&
            series.samples.any fun sample => Time.Window.holds ⟨0, 2000000⟩ sample.time) &&
        (((ofMetric "up" dumped).filter fun series =>
            series.labels.withoutEmpty = { entries := [("__name__", "up"), ("host", "a")] }).flatMap
          fun series =>
            series.converted.filter fun sample =>
              Time.Window.holds ⟨0, 2000000⟩ sample.time).length = 2) = true := by
    decide +kernel
  obtain ⟨store, dumped, hload, hdumped, hfacts⟩ := exists_hostFolder hcomputed
  simp only [Bool.and_eq_true, List.any_eq_true, decide_eq_true_eq] at hfacts
  exact ⟨store, dumped, hload, hdumped, hfacts⟩

/-- The samples of the host in both dumps are one series, with the label that is empty in one of
    them as without it. -/
theorem query_range_of_loadStore_for_hosts :
    ∃ store dumped matrix, loadStore hostFolder "" = .ok store ∧
      dumpedSeries hostFolder "" = .ok dumped ∧
      (ofStore store ⟨0⟩).query ("up" ++ "[" ++ "2s" ++ "]") 2000000 = .ok (ofSeries matrix) ∧
      ReadsBack ⟨0, 2000000⟩ (ofMetric "up" dumped) matrix ∧
      ∃ series ∈ matrix, series.labels = { entries := [("__name__", "up"), ("host", "a")] } ∧
        series.samples.length = 2 := by
  obtain ⟨store, dumped, hload, hdumped, hhost, hcount⟩ := exists_hostFolder_up
  have hmetric : ∃ series ∈ dumped, series.labels.get? metricLabel = some "up" := by
    obtain ⟨series, hseries, -⟩ := hhost
    exact ⟨series, by simpa [ofMetric] using hseries⟩
  obtain ⟨dumped', hdumped', hread⟩ := query_range_of_loadStore hload
  cases hdumped.symm.trans hdumped'
  obtain ⟨matrix, hquery, hreads, -⟩ := (hread "up" hmetric read?_up).2 "2s" ⟨2000000000⟩ 2000000
    (ofStore store ⟨0⟩) (by decide) (by decide) (by decide) rfl
  have hstart : (2000000 : Int) - (⟨2000000000⟩ : Time.Span).microseconds = 0 := by decide
  rw [hstart] at hreads
  have hlabels : { entries := [("__name__", "up"), ("host", "a")] } ∈ matrix.map Series.labels := by
    obtain ⟨series, hseries, hlabels, hsample⟩ := hhost
    exact (hreads.mem_labels_iff _).mpr ⟨series, hseries, hlabels, hsample⟩
  obtain ⟨series, hseries, hlabels⟩ := List.mem_map.mp hlabels
  refine ⟨store, dumped, matrix, hload, hdumped, hquery, hreads, series, hseries, hlabels, ?_⟩
  rw [(hreads.samples_perm series hseries).length_eq, hlabels]
  exact hcount

/-- Whether nothing was answered. -/
def isNothing : Except Fault Value → Bool
  | .ok .none => true
  | _ => false

private theorem eq_none_of_isNothing {answer : Except Fault Value}
    (h : isNothing answer = true) : answer = .ok .none := by
  unfold isNothing at h
  split at h
  · rfl
  · cases h

/-- A range of 300000 years is refused, also where it starts at a time, and a metric whose name is a
    selector of another metric is not found by it. -/
theorem query_range_of_loadStore_refused :
    ∃ store dumped, loadStore hostFolder "" = .ok store ∧
      dumpedSeries hostFolder "" = .ok dumped ∧
      ((∃ series ∈ ofMetric "up" dumped, ∃ sample ∈ series.samples,
          Time.Window.holds ⟨9000000000000000000 -
            (⟨9460800000000000000000⟩ : Time.Span).microseconds, 9000000000000000000⟩
            sample.time = true) ∧
        Query.Expr.read? "up" = some (.instant (Query.Selector.ofName "up")) ∧
        Query.span? "300000y" = some ⟨9460800000000000000000⟩ ∧
        Time.inRange (9000000000000000000 -
          (⟨9460800000000000000000⟩ : Time.Span).microseconds) = true ∧
        (ofStore store ⟨0⟩).query ("up" ++ "[" ++ "300000y" ++ "]") 9000000000000000000 =
          .error (.unsupported (.range ⟨9460800000000000000000⟩))) ∧
      ((∃ series ∈ ofMetric "up\x7bhost=\"b\"\x7d" dumped, ∃ sample ∈ series.samples,
          Time.Window.holds ⟨0, 2000000⟩ sample.time = true) ∧
        (∃ selector, Query.Expr.read? "up\x7bhost=\"b\"\x7d" = some (.instant selector)) ∧
        (ofStore store ⟨0⟩).query "up\x7bhost=\"b\"\x7d[2s]" 2000000 = .ok .none) := by
  have hcomputed : (hostSeries.toOption.any fun dumped =>
      (storeOf dumped).toOption.any fun store =>
        ((ofMetric "up" dumped).any fun series => series.samples.any fun sample =>
          Time.Window.holds ⟨9000000000000000000 -
            (⟨9460800000000000000000⟩ : Time.Span).microseconds, 9000000000000000000⟩
            sample.time) &&
        ((ofMetric "up\x7bhost=\"b\"\x7d" dumped).any fun series =>
          series.samples.any fun sample => Time.Window.holds ⟨0, 2000000⟩ sample.time) &&
        isNothing ((ofStore store ⟨0⟩).query "up\x7bhost=\"b\"\x7d[2s]" 2000000)) = true := by
    decide +kernel
  obtain ⟨store, dumped, hload, hdumped, hfacts⟩ := exists_hostFolder hcomputed
  rw [Bool.and_eq_true, Bool.and_eq_true] at hfacts
  obtain ⟨⟨hlong, hnamed⟩, hnothing⟩ := hfacts
  simp only [List.any_eq_true] at hlong hnamed
  refine ⟨store, dumped, hload, hdumped, ⟨hlong, read?_up, by decide, by decide, ?_⟩, hnamed, ?_,
    ?_⟩
  · have hread : Query.Expr.read? ("up" ++ "[" ++ "300000y" ++ "]") =
        some (.range (Query.Selector.ofName "up") ⟨9460800000000000000000⟩) :=
      Query.Expr.read?_range read?_up (by decide)
    rw [query_range hread, selectRange, rangeWindow_eq_error (by decide)]
    rfl
  · have hread : (Query.Expr.read? "up\x7bhost=\"b\"\x7d").any Query.Expr.isUnshifted = true := by
      decide +kernel
    obtain ⟨e, he, hselector⟩ := (Option.any_eq_true _ _).mp hread
    cases e with
    | instant selector => exact ⟨selector, he⟩
    | _ => cases hselector
  · exact eq_none_of_isNothing hnothing

end Engine

end LabeledSeries
