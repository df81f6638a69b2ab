import LabeledSeries.Proofs.Dump.Load
import LabeledSeries.Proofs.Engine.MatcherPartition
import LabeledSeries.Proofs.Labels

/-!
# Two spellings of a metric's name

A selector names its metric by a word in front of the braces, or by a matcher of the label that
holds names.  Both spellings find a table by the name, but only the matcher also compares the label.
The case of letters does not matter for tables.  So the two agree if the table that is found holds
the metric that was asked for; if it holds another one, the word is answered with the rows of that
metric, and the matcher with none (`Engine.spellings_agree`).

§1 A folder of dumps can be loaded only if its metrics have different tables, and every table is
that of a metric.  §2 The rows of a table have the name of its metric.  §3 The two spellings.  §4 A
folder with a metric in lower case.
-/

namespace LabeledSeries

/-! ## §1 One table for each metric -/

/-- A name finds the table of a metric of dumped series. -/
def FindsMetric (dumped : List DumpedSeries) (name metric : String) : Prop :=
  ofMetric metric dumped ≠ [] ∧ TableName.ofText metric = TableName.ofText name

/-- No name is taken when a metric is registered, so no two metrics have tables of one name. -/
theorem nodup_of_foldlM_registerMetric {store store' : Store}
    {entries : List (String × List DumpedSeries)}
    (h : entries.foldlM (fun store (metric, series) => registerMetric store metric series) store =
      .ok store') :
    (∀ entry ∈ entries, store.tables.get? (TableName.ofText entry.1).name = none) ∧
      (entries.map fun entry => (TableName.ofText entry.1).name).Nodup := by
  induction entries generalizing store with
  | nil => exact ⟨by simp, List.nodup_nil⟩
  | cons entry entries ih =>
    rw [List.foldlM_cons] at h
    obtain ⟨next, hnext, h⟩ := bind_eq_ok_iff.mp h
    obtain ⟨table, -, -, hfree, rfl⟩ := eq_insert_of_registerMetric hnext
    obtain ⟨hentries, hnodup⟩ := ih h
    -- What is free once the table is registered was free before, and is not its name.
    have hlater : ∀ other ∈ entries, (TableName.ofText other.1).name ≠
        (TableName.ofText entry.1).name ∧
        store.tables.get? (TableName.ofText other.1).name = none := by
      intro other hother
      have hnone := hentries other hother
      rw [NameMap.get?_insert] at hnone
      split at hnone
      · cases hnone
      · rename_i hne
        exact ⟨Ne.symm hne, hnone⟩
    refine ⟨List.forall_mem_cons.mpr ⟨hfree, fun other hother => (hlater other hother).2⟩, ?_⟩
    rw [List.map_cons]
    refine List.nodup_cons.mpr ⟨fun hmem => ?_, hnodup⟩
    obtain ⟨other, hother, heq⟩ := List.mem_map.mp hmem
    exact (hlater other hother).1 heq

/-- A table that was not there before is that of a metric. -/
theorem exists_entry_of_foldlM_registerMetric {store store' : Store}
    {entries : List (String × List DumpedSeries)}
    (h : entries.foldlM (fun store (metric, series) => registerMetric store metric series) store =
      .ok store') {name : String} {table : Table} (hget : store'.tables.get? name = some table) :
    store.tables.get? name = some table ∨
      ∃ entry ∈ entries, (TableName.ofText entry.1).isHome = true ∧
        (TableName.ofText entry.1).name = name := by
  -- Registering one entry adds one table, under its own name.
  induction entries generalizing store with
  | nil =>
    cases h
    exact .inl hget
  | cons entry entries ih =>
    rw [List.foldlM_cons] at h
    obtain ⟨next, hnext, h⟩ := bind_eq_ok_iff.mp h
    obtain ⟨first, -, hhome, -, rfl⟩ := eq_insert_of_registerMetric hnext
    rcases ih h with hfirst | ⟨other, hother, hfound⟩
    · -- It was there before, or it is the table of the first entry.
      rw [NameMap.get?_insert] at hfirst
      split at hfirst
      · rename_i heq
        exact .inr ⟨entry, List.mem_cons_self .., hhome, heq⟩
      · exact .inl hfirst
    · exact .inr ⟨other, List.mem_cons_of_mem _ hother, hfound⟩

section Folder

variable {dumped : List DumpedSeries} {store : Store} {name metric other : String}

theorem mem_byMetric (hmetric : ofMetric metric dumped ≠ []) :
    (metric, ofMetric metric dumped) ∈ (byMetric dumped).entries := by
  refine NameMap.mem_entries_iff.mpr ?_
  rw [get?_byMetric, if_neg hmetric]

/-- A name finds one metric at most. -/
theorem FindsMetric.eq (hstore : storeOf dumped = .ok store) (h : FindsMetric dumped name metric)
    (h' : FindsMetric dumped name other) : metric = other := by
  -- No two metrics are registered under one name.
  have hnodup := (nodup_of_foldlM_registerMetric hstore).2
  have hnames : (TableName.ofText metric).name = (TableName.ofText other).name := by
    rw [h.2, h'.2]
  exact congrArg Prod.fst
    (List.inj_on_of_nodup_map hnodup (mem_byMetric h.1) (mem_byMetric h'.1) hnames)

/-- A name that finds a table finds that of a metric. -/
theorem exists_findsMetric (hstore : storeOf dumped = .ok store)
    (hname : Text.isRecordName name = true) {table : Table}
    (htable : store.table? name = some table) : ∃ metric, FindsMetric dumped name metric := by
  rw [Store.table?_of_isRecordName hname] at htable
  -- Nothing is registered at first, so the table is that of some metric.
  rcases exists_entry_of_foldlM_registerMetric hstore htable with hnone | ⟨entry, hentry, hfound⟩
  · cases hnone
  · have hget := NameMap.mem_entries_iff.mp hentry
    rw [get?_byMetric] at hget
    split at hget
    · cases hget
    · rename_i hne
      refine ⟨entry.1, hne, ?_⟩
      exact TableName.eq_of_isHome hfound.1 (TableName.isHome_ofText hname) hfound.2

/-! ## §2 Rows of a metric -/

/-- The table of a metric holds one, and its rows have the metric's name. -/
theorem value_of_mem_tableOf {series : List DumpedSeries} {table : Table}
    (h : tableOf series = .ok table)
    (hmetric : ∀ dumped ∈ series, dumped.labels.get? metricLabel = some metric) :
    ∀ row ∈ table.rows, (table.labels row).value metricLabel = metric := by
  have hformed := (labelledSamples_of_tableOf h).1
  obtain ⟨-, -, rfl⟩ := tableOf_eq_ok h
  -- A row of the table is made of a sample of some series, and has its labels.
  intro row hrow
  obtain ⟨dumped, hdumped, hsample⟩ := List.mem_flatMap.mp hrow
  obtain ⟨sample, -, rfl⟩ := List.mem_map.mp hsample
  rw [labels_metricRow hformed (mem_labelNames hdumped) hrow, Labels.value_withoutEmpty,
    Labels.value, hmetric dumped hdumped]
  rfl

/-- The store has the table of a metric also under the other names that find it. -/
theorem FindsMetric.holds (hstore : storeOf dumped = .ok store)
    (h : FindsMetric dumped name metric) : store.Holds name (ofMetric metric dumped) := by
  have hholds := holds_of_storeOf hstore h.1
  rwa [Store.Holds, h.2] at hholds

section Loaded

variable (hstore : storeOf dumped = .ok store) (hname : Text.isRecordName name = true)

include hstore hname

/-- What a name finds in a folder of dumps. -/
theorem exists_metric_of_table? {table : Table} (htable : store.table? name = some table) :
    ∃ metric, FindsMetric dumped name metric ∧ table.WellFormed ∧
      ∀ row ∈ table.rows, (table.labels row).value metricLabel = metric := by
  obtain ⟨metric, hfinds⟩ := exists_findsMetric hstore hname htable
  -- A name finds one table, so it is the one of this metric.
  obtain ⟨found, htableOf, hget⟩ := Store.table?_of_holds (hfinds.holds hstore) hname
  cases hget.symm.trans htable
  have hseries : ∀ series ∈ ofMetric metric dumped, series ∈ dumped ∧
      series.labels.get? metricLabel = some metric := fun series hmem => by
    simpa [ofMetric] using hmem
  exact ⟨metric, hfinds, (labelledSamples_of_tableOf htableOf).1,
    value_of_mem_tableOf htableOf fun series hmem => (hseries series hmem).2⟩

/-- Whatever is selected under a name is of a metric that the name finds. -/
theorem Store.exists_metric_of_select {conditions : List Condition} {window : Time.Window}
    {selected : List Series} (h : store.select name conditions window = .ok selected) :
    ∀ series ∈ selected, ∃ metric, FindsMetric dumped name metric ∧
      series.labels.value metricLabel = metric := by
  unfold Store.select at h
  -- Without a table nothing is selected.
  split at h
  · cases h
    simp
  · rename_i table htable
    obtain ⟨metric, hfinds, -, hrows⟩ := exists_metric_of_table? hstore hname htable
    intro series hseries
    obtain ⟨-, rfl⟩ := Table.select_eq_ok_iff.mp h
    obtain ⟨row, hrow, hseries⟩ := Table.exists_row_of_mem_selected hseries
    exact ⟨metric, hfinds, by rw [hseries, hrows row hrow]⟩

end Loaded

end Folder

/-! ## §3 The two spellings -/

namespace Engine

variable {engine : Engine} {window : Time.Window} {metric text : String}
  {read : List Query.Matcher}

/-- The label that holds names has no capital letter, so a matcher of it reads its column. -/
theorem findsColumn_metricLabel (table : Table) : table.FindsColumn metricLabel := fun _ =>
  Table.lowered_eq_self (by simp [metricLabel])

/-- With its name in a matcher a selector selects, of what it selects with the name in front, the
    series that have the name. -/
theorem select_nameless
    (hformed : ∀ table, engine.store.table? metric = some table → table.WellFormed) :
    engine.select { name := none, matchers := ⟨metricLabel, .equal, metric⟩ :: read } window =
      (engine.select { name := some metric, matchers := read } window).map fun series =>
        series.filter fun s => s.labels.value metricLabel == metric := by
  simp only [Engine.select, metricName, List.find?_cons, List.mapM_cons, condition_equal, bind,
    Except.bind, and_self, decide_true]
  -- The other matchers are the same conditions in both cases, or the same fault.
  cases read.mapM condition with
  | error fault => rfl
  | ok conditions =>
    simp only [pure, Except.pure, Store.select]
    cases htable : engine.store.table? metric with
    | none => rfl
    | some table =>
      have hinsert : table.select ([] ++ .equals metricLabel metric :: conditions) window = _ :=
        Table.select_insert_equals_eq (hformed table htable) (findsColumn_metricLabel table)
      exact hinsert

section Loaded

variable {dumped : List DumpedSeries} {other : String}
  (hstore : storeOf dumped = .ok engine.store)
  (hname : Text.isRecordName metric = true)

include hstore hname

/-- The series that are selected by a name are of a metric that it finds. -/
theorem exists_metric_of_select {series : List Series}
    (h : engine.select { name := some metric, matchers := read } window = .ok series) :
    ∀ s ∈ series, ∃ found, FindsMetric dumped metric found ∧
      s.labels.value metricLabel = found := by
  obtain ⟨_, hmetric, h⟩ := bind_eq_ok_iff.mp h
  cases hmetric
  obtain ⟨conditions, -, h⟩ := bind_eq_ok_iff.mp h
  exact Store.exists_metric_of_select hstore hname h

/-- Where a name finds one metric only, all rows of the spelling with the name in front have the
    name of that metric, and the other spelling has the same rows if it is the name that was asked
    for, and none otherwise. -/
theorem query_spellings (time : Int) {named nameless : String}
    (hnamed : Query.Selects named { name := some metric, matchers := read })
    (hnameless : Query.Selects nameless
      { name := none, matchers := ⟨metricLabel, .equal, metric⟩ :: read })
    (hfinds : ∀ found, FindsMetric dumped metric found → found = other) :
    (∀ rows, engine.query named time = .ok (ofRows rows) →
      ∀ row ∈ rows, row.labels.value metricLabel = other) ∧
    engine.query nameless time =
      if other = metric then engine.query named time
      else (engine.query named time).map fun _ => .none := by
  -- All series that are selected have the one name, whatever the window is.
  have hvalue {series : List Series} {window : Time.Window}
      (h : engine.select { name := some metric, matchers := read } window = .ok series) :
      ∀ s ∈ series, s.labels.value metricLabel = other := by
    intro s hs
    obtain ⟨found, hfound, hs⟩ := exists_metric_of_select hstore hname h s hs
    rw [hs, hfinds found hfound]
  refine ⟨fun rows hrows => ?_, ?_⟩
  · obtain ⟨series, hseries, rfl⟩ := (query_eq_ok_iff hnamed).mp hrows
    intro row hrow
    obtain ⟨s, hs, hlatest⟩ := List.mem_filterMap.mp hrow
    obtain ⟨sample, -, rfl⟩ := Option.map_eq_some_iff.mp hlatest
    exact hvalue hseries s hs
  · -- A table that the store has was made by loading, so it is well formed.
    have hformed (table : Table) (htable : engine.store.table? metric = some table) :
        table.WellFormed := by
      obtain ⟨_, -, hformed, -⟩ := exists_metric_of_table? hstore hname htable
      exact hformed
    rw [query_selects hnamed, query_selects hnameless, select_nameless hformed]
    cases hseries : engine.select { name := some metric, matchers := read }
        ⟨Time.clamp (time - engine.lookback), time⟩ with
    | error fault => split <;> rfl
    | ok series =>
      -- All series have one name, so the matcher leaves all of them or none.
      have hvalue := hvalue hseries
      by_cases hother : other = metric
      · have hall : series.filter (fun s => s.labels.value metricLabel == metric) = series :=
          List.filter_eq_self.mpr fun s hs => by simp [hvalue s hs, hother]
        rw [if_pos hother, Except.map, hall]
      · have hnone : series.filter (fun s => s.labels.value metricLabel == metric) = [] :=
          List.filter_eq_nil_iff.mpr fun s hs => by simp [hvalue s hs, hother]
        rw [if_neg hother, Except.map, hnone]
        rfl

end Loaded

/-- Series with samples have a latest row each, with their labels. -/
private theorem map_labels_filterMap_latestRow? {selected : List Series}
    (h : ∀ series ∈ selected, series.samples ≠ []) :
    (selected.filterMap latestRow?).map Row.labels = selected.map Series.labels := by
  induction selected with
  | nil => rfl
  | cons series selected ih =>
    obtain ⟨hne, hrest⟩ := List.forall_mem_cons.mp h
    rw [List.filterMap_cons_some (latestRow?_of_ne_nil hne), List.map_cons, List.map_cons, ih hrest]

private theorem writesMatchers_empty : Query.WritesMatchers "" [] :=
  ⟨[.sign .rightBrace], by decide, rfl, rfl⟩

/-- Without matchers, the spelling with a name in front has a row for each label set under which the
    metric that is found has samples. -/
theorem query_namedText_of_finds (time : Int) {dumped : List DumpedSeries} {other : String}
    (hstore : storeOf dumped = .ok engine.store)
    (hname : Text.isRecordName metric = true) (hnames : Query.namesMetric metric [] = true)
    (hfinds : FindsMetric dumped metric other) :
    ∃ rows, engine.query (Query.namedText metric "") time = .ok (ofRows rows) ∧
      ∀ labels, labels ∈ rows.map Row.labels ↔ ∃ series ∈ ofMetric other dumped,
        series.labels.withoutEmpty = labels ∧ ∃ sample ∈ series.samples,
          Time.Window.holds ⟨Time.clamp (time - engine.lookback), time⟩ sample.time = true := by
  -- The name finds the metric's table, which reads back what was dumped.
  have hholds := hfinds.holds hstore
  obtain ⟨selected, hselected, hmatrix⟩ := Store.select_of_holds hholds hname
    ⟨Time.clamp (time - engine.lookback), time⟩
  have hselects : Query.Selects (Query.namedText metric "")
      { name := some metric, matchers := [] } :=
    ⟨_, Query.Expr.read?_namedText hname hnames writesMatchers_empty (by simp), rfl⟩
  -- Only series with samples are selected, so each of them has a latest row.
  have hsamples : ∀ series ∈ selected, series.samples ≠ [] := fun series hseries =>
    (Store.runsWithin_of_select hselected series hseries).samples_ne_nil
  have hconverts : ∀ series ∈ ofMetric other dumped, series.Converts := by
    obtain ⟨table, htable, -⟩ := hholds
    exact (tableOf_eq_ok htable).1
  refine ⟨_, (query_eq_ok_iff hselects).mpr ⟨selected, hselected, rfl⟩, fun labels => ?_⟩
  rw [map_labels_filterMap_latestRow? hsamples, ← (readsBack_matrixOf _ hconverts).mem_labels_iff,
    ← hmatrix, List.map_map]
  rfl

/-- **The two spellings**: let a folder of dumps be loaded, and let a name and matchers of other
    labels be written, once with the name in front and once with it in a matcher.  If the name finds
    no other metric of the dumps, as is so if it is the name of one of them, both texts are answered
    alike, and all rows have the name.  If it finds another metric, all rows of the first text have
    the name of that one, and the second text has no rows. -/
theorem spellings_agree {files : Files} {folder : String} {store : Store}
    (hload : loadStore files folder = .ok store) :
    ∃ dumped, dumpedSeries files folder = .ok dumped ∧
      ∀ (engine : Engine) (time : Int) (metric text : String) (read : List Query.Matcher),
        engine.store = store → Text.isRecordName metric = true →
        Query.namesMetric metric [] = true → Query.WritesMatchers text read →
        (∀ matcher ∈ read, matcher.label ≠ metricLabel) →
        let named := engine.query (Query.namedText metric text) time
        let nameless := engine.query (Query.namelessText metric text) time
        (ofMetric metric dumped ≠ [] →
          ∀ other, FindsMetric dumped metric other → other = metric) ∧
        ((∀ other, FindsMetric dumped metric other → other = metric) →
          nameless = named ∧
          ∀ rows, named = .ok (ofRows rows) → ∀ row ∈ rows,
            row.labels.value metricLabel = metric) ∧
        ∀ other, FindsMetric dumped metric other → other ≠ metric →
          nameless = named.map (fun _ => .none) ∧
          ∀ rows, named = .ok (ofRows rows) → ∀ row ∈ rows,
            row.labels.value metricLabel = other := by
  obtain ⟨dumped, hdumped, hstore⟩ := loadStore_eq_ok hload
  refine ⟨dumped, hdumped, fun engine time metric text read hengine hname hnames hwrites hothers =>
    ?_⟩
  subst hengine
  have hnamed : Query.Selects (Query.namedText metric text)
      { name := some metric, matchers := read } :=
    ⟨_, Query.Expr.read?_namedText hname hnames hwrites hothers, rfl⟩
  have hnameless : Query.Selects (Query.namelessText metric text)
      { name := none, matchers := ⟨metricLabel, .equal, metric⟩ :: read } :=
    ⟨_, Query.Expr.read?_namelessText hname hwrites, rfl⟩
  refine ⟨fun hmetric other hother => hother.eq hstore ⟨hmetric, rfl⟩, fun hfinds => ?_,
    fun other hother hne => ?_⟩
  · -- The name finds no other metric than its own.
    obtain ⟨hrows, hquery⟩ := query_spellings hstore hname time hnamed hnameless hfinds
    exact ⟨by rw [hquery, if_pos rfl], hrows⟩
  · -- It finds another metric, and so only that one.
    obtain ⟨hrows, hquery⟩ := query_spellings hstore hname time hnamed hnameless
      fun found hfound => hfound.eq hstore hother
    exact ⟨by rw [hquery, if_neg hne], hrows⟩

/-! ## §4 A metric in lower case -/

/-- In that folder the name of the hosts' metric finds it in capital letters, too, and the metric
    has a sample in two seconds. -/
theorem exists_findsMetric_hostFolder :
    ∃ store dumped, loadStore hostFolder "" = .ok store ∧
      dumpedSeries hostFolder "" = .ok dumped ∧
      storeOf dumped = .ok (ofStore store ⟨2000000000⟩).store ∧
      FindsMetric dumped "up" "up" ∧ FindsMetric dumped "UP" "up" ∧
      ∃ series ∈ ofMetric "up" dumped,
        series.labels.withoutEmpty = { entries := [("__name__", "up"), ("host", "a")] } ∧
          ∃ sample ∈ series.samples, Time.Window.holds ⟨0, 2000000⟩ sample.time = true := by
  obtain ⟨store, dumped, hload, hdumped, ⟨series, hseries, hhost⟩, -⟩ := exists_hostFolder_up
  have hstore : storeOf dumped = .ok (ofStore store ⟨2000000000⟩).store := by
    obtain ⟨dumped', hdumped', hstore⟩ := loadStore_eq_ok hload
    cases hdumped.symm.trans hdumped'
    exact hstore
  have hmetric : ofMetric "up" dumped ≠ [] := List.ne_nil_of_mem hseries
  -- The two names differ in letters that are folded.
  have hlowered : lowered "up" = lowered "UP" := by
    refine String.toList_injective ?_
    rw [lowered, lowered, String.toList_map, String.toList_map]
    rfl
  have htable : TableName.ofText "up" = TableName.ofText "UP" :=
    (TableName.ofText_eq_iff (by decide) (by decide)).mpr (.inr ⟨by decide, by decide, hlowered⟩)
  exact ⟨store, dumped, hload, hdumped, hstore, ⟨hmetric, rfl⟩, ⟨hmetric, htable⟩, series, hseries,
    hhost⟩

private theorem writesMatchers_host :
    Query.WritesMatchers "host=\"a\"" [⟨"host", .equal, "a"⟩] :=
  ⟨[.label "host", .sign .assign, .quoted "a", .sign .rightBrace], by decide, by
    simp [Query.matchers, Query.matcherList, Query.MatchRule.ofSign?], rfl⟩

/-- The name of a metric has the same rows in both spellings, among them the one of the host, and
    the same answers with a matcher of the host. -/
theorem spellings_agree_on_up :
    ∃ store rows, loadStore hostFolder "" = .ok store ∧
      let engine := ofStore store ⟨2000000000⟩
      engine.query (Query.namedText "up" "") 2000000 = .ok (ofRows rows) ∧
        engine.query (Query.namelessText "up" "") 2000000 = .ok (ofRows rows) ∧
        (∃ row ∈ rows, row.labels = { entries := [("__name__", "up"), ("host", "a")] }) ∧
        engine.query (Query.namelessText "up" "host=\"a\"") 2000000 =
          engine.query (Query.namedText "up" "host=\"a\"") 2000000 := by
  obtain ⟨store, dumped, hload, hdumped, hstore, hfinds, -, hhost⟩ := exists_findsMetric_hostFolder
  have hname : Text.isRecordName "up" = true := by decide
  have hnames : Query.namesMetric "up" [] = true :=
    Query.namesMetric_of_keyword "up" (by decide) (by decide)
  obtain ⟨dumped', hdumped', hagree⟩ := spellings_agree hload
  cases hdumped.symm.trans hdumped'
  obtain ⟨hown, hall, -⟩ := hagree (ofStore store ⟨2000000000⟩) 2000000 "up" "" _ rfl hname hnames
    writesMatchers_empty (by simp)
  obtain ⟨-, hmatched, -⟩ := hagree (ofStore store ⟨2000000000⟩) 2000000 "up" "host=\"a\"" _ rfl
    hname hnames writesMatchers_host (by decide)
  obtain ⟨rows, hrows, hlabels⟩ := query_namedText_of_finds 2000000 hstore hname
    hnames hfinds
  obtain ⟨row, hrow, hrowLabels⟩ := List.mem_map.mp ((hlabels _).mpr hhost)
  exact ⟨store, rows, hload, hrows, (hall (hown hfinds.1)).1.trans hrows, ⟨row, hrow, hrowLabels⟩,
    (hmatched (hown hfinds.1)).1⟩

/-- The rows of a metric in lower case are answered to its name in capital letters, if that stands
    in front, and not if it stands in a matcher. -/
theorem spellings_differ_on_UP :
    ∃ store rows, loadStore hostFolder "" = .ok store ∧
      let engine := ofStore store ⟨2000000000⟩
      engine.query (Query.namedText "UP" "") 2000000 = .ok (ofRows rows) ∧
        (∃ row ∈ rows, row.labels = { entries := [("__name__", "up"), ("host", "a")] }) ∧
        engine.query (Query.namelessText "UP" "") 2000000 = .ok .none := by
  obtain ⟨store, dumped, hload, hdumped, hstore, -, hfinds, hhost⟩ := exists_findsMetric_hostFolder
  have hname : Text.isRecordName "UP" = true := by decide
  have hnames : Query.namesMetric "UP" [] = true :=
    Query.namesMetric_of_keyword "up" (by decide) (by decide)
  obtain ⟨rows, hrows, hlabels⟩ :=
    query_namedText_of_finds 2000000 hstore hname hnames hfinds
  obtain ⟨row, hrow, hrowLabels⟩ := List.mem_map.mp ((hlabels _).mpr hhost)
  have hnameless := (query_spellings hstore hname 2000000
    ⟨_, Query.Expr.read?_namedText hname hnames writesMatchers_empty (by simp), rfl⟩
    ⟨_, Query.Expr.read?_namelessText hname writesMatchers_empty, rfl⟩
    fun found hfound => hfound.eq hstore hfinds).2
  rw [if_neg (by decide), hrows] at hnameless
  exact ⟨store, rows, hload, hrows, ⟨row, hrow, hrowLabels⟩, hnameless⟩

end Engine

end LabeledSeries
