import LabeledSeries.Engine
import LabeledSeries.Proofs.Query.RangeSelector
import LabeledSeries.Proofs.Store.Selection
import LabeledSeries.Proofs.Store.TableName

/-!
# Latest samples and ranges

A selector asks for the latest samples of series, as far back as the lookback of the engine, and a
selector over a range for all samples in that range.  With a lookback as long as the range both look
at one window of time, and where a series is the answer to the one, its last sample is the answer to
the other (`Engine.query_range_agrees`).

The two compute the window in different ways.  A lookback that reaches too far is cut off at the
earliest time, and a lookback longer than all times is as long as the latest one, while a range is
refused in both cases.  So they agree where neither happens, and elsewhere the range is unsupported.
It can be refused although its start is a time, when its length is none
(`Engine.query_range_refused_from_a_time`).
-/

namespace LabeledSeries.Engine

/-! ## §1 Answers that go together -/

/-- The answers to a selector and to the selector over a range go together, where both look at a
    window: both are the same fault, or both nothing, or the rows are the last samples of the
    series, one for each in order, and every series carries the window as its range and has its
    samples there, in order of time. -/
inductive Corresponds (window : Time.Window) : Except Fault Value → Except Fault Value → Prop
  | fault (fault : Fault) : Corresponds window (.error fault) (.error fault)
  | none : Corresponds window (.ok .none) (.ok .none)
  | latest {rows : InstantVector} {series : RangeMatrix} (nonempty : series ≠ [])
      (rows_eq : rows.map some = series.map latestRow?)
      (within : ∀ s ∈ series, s.RunsWithin window)
      (range_eq : ∀ s ∈ series, s.range = some (window.start, window.stop)) :
      Corresponds window (.ok (.vector rows)) (.ok (.matrix series))

/-! ## §2 Windows -/

variable {engine : Engine} {selector : Query.Selector} {span : Time.Span} {time : Int}
  {window : Time.Window}

theorem rangeWindow_eq_ok (hspan : (span.microseconds : Int) ≤ Time.latest)
    (hstart : Time.inRange (time - span.microseconds) = true) :
    rangeWindow span time = .ok ⟨time - span.microseconds, time⟩ := by
  simp [rangeWindow, micros?, hspan, Time.check, hstart]

theorem rangeWindow_eq_error (h : ¬ ((span.microseconds : Int) ≤ Time.latest ∧
      Time.inRange (time - span.microseconds) = true)) :
    rangeWindow span time = .error (.unsupported (.range span)) := by
  -- The range is too long, or it starts too early.
  by_cases hspan : (span.microseconds : Int) ≤ Time.latest
  · have hstart : Time.inRange (time - span.microseconds) = false := by
      simpa [hspan] using h
    simp [rangeWindow, micros?, hspan, Time.check, hstart]
  · simp [rangeWindow, micros?, hspan]

private theorem clamp_eq_self {t : Int} (h : Time.inRange t = true) : Time.clamp t = t := by
  simp only [Time.inRange, decide_eq_true_eq] at h
  unfold Time.clamp
  omega

private theorem withLookback_lookback (engine : Engine)
    (hspan : (span.microseconds : Int) ≤ Time.latest) :
    (engine.withLookback span).lookback = span.microseconds := by
  simp [withLookback, micros?, hspan]

/-! ## §3 Series of a selector -/

/-- Whatever a selector selects has samples, and only such as were asked for. -/
theorem runsWithin_of_select {selected : List Series}
    (h : engine.select selector window = .ok selected) :
    ∀ series ∈ selected, series.RunsWithin window := by
  -- The metric and the conditions are found first; only then is anything selected.
  unfold select at h
  simp only [bind, Except.bind] at h
  split at h
  · cases h
  · split at h
    · cases h
    · exact Store.runsWithin_of_select h

/-- The row of a series with samples. -/
theorem latestRow?_of_ne_nil {series : Series} (h : series.samples ≠ []) :
    latestRow? series = some { labels := series.labels, sample := series.samples.getLast h } := by
  rw [latestRow?, List.getLast?_eq_some_getLast h]
  rfl

/-- Series with samples have a last one each. -/
private theorem map_some_filterMap_latestRow? {selected : List Series}
    (h : ∀ series ∈ selected, series.RunsWithin window) :
    (selected.filterMap latestRow?).map some = selected.map latestRow? := by
  induction selected with
  | nil => rfl
  | cons series selected ih =>
    -- The first series has a latest row, and so have the others.
    have ih := ih fun s hs => h s (List.mem_cons_of_mem _ hs)
    have hrow := latestRow?_of_ne_nil (h series (List.mem_cons_self ..)).samples_ne_nil
    rw [List.filterMap_cons_some hrow, List.map_cons, List.map_cons, ih, hrow]

/-- The range that series were asked for is no matter for their last samples. -/
private theorem map_latestRow?_withRange (selected : List Series) (range : Option (Int × Int)) :
    (selected.map fun series => { series with range := range }).map latestRow? =
      selected.map latestRow? := by
  rw [List.map_map]
  rfl

/-! ## §4 The two queries -/

theorem selectInstant_eq (h : Time.inRange (time - engine.lookback) = true) :
    engine.selectInstant selector time =
      (engine.select selector ⟨time - engine.lookback, time⟩).map
        (fun series => series.filterMap latestRow?) := by
  -- The start of the window is not moved, so the window is the one that is named.
  rw [selectInstant, clamp_eq_self h]
  cases engine.select selector ⟨time - engine.lookback, time⟩ with
  | error fault => rfl
  | ok selected => rfl

theorem selectRange_eq (h : rangeWindow span time = .ok window) :
    engine.selectRange selector span time =
      (engine.select selector window).map (fun selected => selected.map fun series =>
        { series with range := some (window.start, window.stop) }) := by
  rw [selectRange, h]
  simp only [bind, Except.bind]
  cases engine.select selector window with
  | error fault => rfl
  | ok selected => rfl

private theorem ofRows_of_ne_nil {rows : InstantVector} (h : rows ≠ []) :
    ofRows rows = .vector rows := by
  simp [ofRows, h]

private theorem ofSeries_of_ne_nil {series : RangeMatrix} (h : series ≠ []) :
    ofSeries series = .matrix series := by
  simp [ofSeries, h]

/-- What a selector selects in a window, answered as its latest samples and as all of them. -/
private theorem corresponds_of_select (engine : Engine) (selector : Query.Selector)
    (window : Time.Window) :
    Corresponds window
      (((engine.select selector window).map fun selected => selected.filterMap latestRow?).map
        ofRows)
      (((engine.select selector window).map fun selected => selected.map fun series =>
        { series with range := some (window.start, window.stop) }).map ofSeries) := by
  cases hselect : engine.select selector window with
  | error fault => exact .fault fault
  | ok selected =>
    -- No series is empty, so there are rows just if there are series.
    have hwithin := runsWithin_of_select hselect
    have hrows := map_some_filterMap_latestRow? hwithin
    by_cases hnil : selected = []
    · subst hnil
      exact .none
    · have hrowsNe : selected.filterMap latestRow? ≠ [] := by
        intro h
        rw [h] at hrows
        exact hnil (List.map_eq_nil_iff.mp hrows.symm)
      simp only [Except.map]
      rw [ofRows_of_ne_nil hrowsNe, ofSeries_of_ne_nil (mt List.map_eq_nil_iff.mp hnil)]
      refine .latest (mt List.map_eq_nil_iff.mp hnil) ?_ ?_ ?_
      · -- Setting the range does not change the samples.
        rw [map_latestRow?_withRange, hrows]
      · intro series hseries
        obtain ⟨original, horiginal, rfl⟩ := List.mem_map.mp hseries
        exact ⟨(hwithin original horiginal).samples_ne_nil, (hwithin original horiginal).holds,
          (hwithin original horiginal).ascending⟩
      · intro series hseries
        obtain ⟨original, -, rfl⟩ := List.mem_map.mp hseries
        rfl

theorem query_of_read {text : String} {e : Query.Expr}
    (h : Query.Expr.read? text = some e) :
    engine.query text time = engine.evaluate text time e.bare := by
  rw [query, h]

/-- A text that writes a selector, in parentheses or not, is answered with its latest samples. -/
theorem query_bare_instant {text : String} {e : Query.Expr}
    (hread : Query.Expr.read? text = some e) (hbare : e.bare = .instant selector) :
    engine.query text time = (engine.selectInstant selector time).map ofRows := by
  rw [query_of_read hread, hbare]
  show (do return ofRows (← engine.selectInstant selector time)) = _
  cases engine.selectInstant selector time with
  | error fault => rfl
  | ok rows => rfl

theorem query_instant {text : String}
    (h : Query.Expr.read? text = some (.instant selector)) :
    engine.query text time = (engine.selectInstant selector time).map ofRows :=
  query_bare_instant h rfl

theorem query_range {text : String}
    (h : Query.Expr.read? text = some (.range selector span)) :
    engine.query text time = (engine.selectRange selector span time).map ofSeries := by
  rw [query_of_read h]
  show (do return ofSeries (← engine.selectRange selector span time)) = _
  cases engine.selectRange selector span time with
  | error fault => rfl
  | ok series => rfl

/-- The vector of a text that writes a selector, in parentheses or not. -/
theorem queryRows_instant {text : String} {e : Query.Expr}
    (hread : Query.Expr.read? text = some e) (hbare : e.bare = .instant selector) :
    engine.queryRows text time = engine.selectInstant selector time := by
  rw [queryRows, query_bare_instant hread hbare]
  cases engine.selectInstant selector time with
  | error fault => rfl
  | ok rows =>
    -- Without rows the answer is nothing, which is the vector without rows again.
    cases rows with
    | nil => rfl
    | cons row rows => rfl

/-- Rows are the latest samples of a selector; no other expression is answered with any. -/
theorem queryRows_eq_ok {text : String} {rows : InstantVector}
    (h : engine.queryRows text time = .ok rows) (hrows : rows ≠ []) :
    ∃ e selector, Query.Expr.read? text = some e ∧ e.bare = .instant selector ∧
      engine.selectInstant selector time = .ok rows := by
  -- A text that is no expression is a fault.
  cases hread : Query.Expr.read? text with
  | none =>
    rw [queryRows, query, hread] at h
    cases h
  | some e =>
    cases hbare : e.bare with
    | instant selector =>
      rw [queryRows_instant hread hbare] at h
      exact ⟨e, selector, rfl, hbare, h⟩
    | range selector span =>
      -- A matrix is no vector, and nothing is the vector without rows.
      rw [queryRows, query_of_read hread, hbare, evaluate] at h
      cases hselect : engine.selectRange selector span time with
      | error fault =>
        rw [hselect] at h
        cases h
      | ok series =>
        cases series with
        | nil =>
          rw [hselect] at h
          cases h
          exact absurd rfl hrows
        | cons one series =>
          rw [hselect] at h
          cases h
    -- Numbers, texts and all else are answered with no rows.
    | _ =>
      rw [queryRows, query_of_read hread, hbare] at h
      cases h

/-- **Latest samples are the last samples of a range**: let a text write a selector that is not
    shifted, and another text the same with a range behind it, and let the engine's lookback be as
    long as the range.  Where the range and the time at which it starts are within 64 bits, the
    answers to the two go together; elsewhere the second is unsupported. -/
theorem query_range_agrees (engine : Engine) (time : Int) {short long length : String}
    {tokens : List Query.Token} {selector : Query.Selector} {span : Time.Span}
    (hshort : Query.tokens? short = some tokens)
    (hselector : Query.Expr.ofTokens? tokens = some (.instant selector))
    (hshift : selector.shift.isNone = true)
    (hlong : Query.tokens? long = some (tokens ++ Query.rangeTokens length))
    (hspan : Query.span? length = some span) :
    ((span.microseconds : Int) ≤ Time.latest ∧
        Time.inRange (time - span.microseconds) = true →
      Corresponds ⟨time - span.microseconds, time⟩
        ((engine.withLookback span).query short time)
        ((engine.withLookback span).query long time)) ∧
    (¬ ((span.microseconds : Int) ≤ Time.latest ∧
        Time.inRange (time - span.microseconds) = true) →
      (engine.withLookback span).query long time = .error (.unsupported (.range span))) := by
  have hreadShort : Query.Expr.read? short = some (.instant selector) := by
    rw [Query.Expr.read?, hshort]
    exact hselector
  have hreadLong : Query.Expr.read? long = some (.range selector span) := by
    rw [Query.Expr.read?, hlong]
    exact Query.Expr.ofTokens?_range hselector hshift hspan
  refine ⟨fun hfitting => ?_, fun hrefused => ?_⟩
  · obtain ⟨hfits, hstart⟩ := hfitting
    -- Neither the lookback nor the start of its window is cut off, so the windows are one.
    have hlookback := withLookback_lookback engine hfits
    have hreach : Time.inRange (time - (engine.withLookback span).lookback) = true := by
      rw [hlookback]
      exact hstart
    rw [query_instant hreadShort, query_range hreadLong, selectInstant_eq hreach, hlookback,
      selectRange_eq (rangeWindow_eq_ok hfits hstart)]
    exact corresponds_of_select _ selector _
  · -- A range that does not fit is refused before anything is selected.
    rw [query_range hreadLong, selectRange, rangeWindow_eq_error hrefused]
    rfl

/-- An engine over a store, with the functions that there are and a lookback. -/
def ofStore (store : Store) (span : Time.Span) : Engine :=
  withLookback ⟨store, FunctionTable.builtin, defaultLookback⟩ span

theorem ofStore_store (store : Store) (span : Time.Span) :
    (ofStore store span).store = store :=
  rfl

theorem select_named (engine : Engine) (name : String) (window : Time.Window) :
    engine.select { name := some name, matchers := [] } window =
      engine.store.select name [] window := by
  rfl

/-- The rows of a selector, where a table holds the metric and can check the conditions. -/
theorem queryRows_table {text metric : String} {conditions : List Condition} {table : Table}
    (hread : Query.Expr.read? text = some (.instant selector))
    (hselect : ∀ window, engine.select selector window =
      engine.store.select metric conditions window)
    (htable : engine.store.table? metric = some table) (hformed : table.WellFormed)
    (hcheck : ∀ condition ∈ conditions, table.CanCheck condition)
    (hreach : Time.inRange (time - engine.lookback) = true) :
    engine.queryRows text time =
      .ok ((table.naiveSelect conditions ⟨time - engine.lookback, time⟩).filterMap
        latestRow?) := by
  rw [queryRows_instant hread rfl, selectInstant_eq hreach, hselect,
    Store.select_of_table? _ htable hformed hcheck]
  rfl

/-- The rows of a metric that is asked for by its name, and that a table holds. -/
theorem queryRows_named {name : String} {table : Table}
    (hread : Query.Expr.read? name = some (.instant { name := some name, matchers := [] }))
    (htable : engine.store.table? name = some table) (hformed : table.WellFormed)
    (hreach : Time.inRange (time - engine.lookback) = true) :
    engine.queryRows name time =
      .ok ((table.naiveSelect [] ⟨time - engine.lookback, time⟩).filterMap latestRow?) :=
  queryRows_table hread (select_named engine name) htable hformed (by simp) hreach

private theorem tokens?_up : Query.tokens? "up" = some [.word "up"] := by decide

private theorem ofTokens?_up :
    Query.Expr.ofTokens? [.word "up"] = some (.instant { name := some "up", matchers := [] }) :=
  Query.Expr.ofTokens?_word (Query.namesMetric_of_keyword "up" (by decide) (by decide))

theorem read?_up :
    Query.Expr.read? "up" = some (.instant { name := some "up", matchers := [] }) := by
  rw [Query.Expr.read?, tokens?_up]
  exact ofTokens?_up

/-- Two series have samples in a range of a millisecond, and a lookback of that length finds the
    last one of each. -/
theorem query_range_agrees_for_hosts :
    (ofStore hostStore ⟨1000000⟩).query "up" 2 =
        .ok (.vector [⟨.singleton "host" "a", ⟨2, 0.5⟩⟩, ⟨.empty, ⟨1, 1⟩⟩]) ∧
      Corresponds ⟨-998, 2⟩ ((ofStore hostStore ⟨1000000⟩).query "up" 2)
        ((ofStore hostStore ⟨1000000⟩).query "up[1ms]" 2) := by
  refine ⟨?_, ?_⟩
  · have hselect : (ofStore hostStore ⟨1000000⟩).select { name := some "up", matchers := [] }
        ⟨-998, 2⟩ = .ok (hostTable.naiveSelect [] ⟨-998, 2⟩) := by
      rw [select_named, ofStore_store]
      exact Store.select_of_table? _ hostStore_table? hostTable_wellFormed (by simp)
    have hseries : hostTable.naiveSelect [] ⟨-998, 2⟩ =
        [⟨.singleton "host" "a", [⟨1, 2⟩, ⟨2, 0.5⟩], none⟩, ⟨.empty, [⟨1, 1⟩], none⟩] := by
      simp [Table.naiveSelect, Table.samplesWithin, hostTable_samples, Time.Window.holds, grouped,
        gather, sortOn, List.eraseDups_cons, List.mergeSort]
    -- A million nanoseconds are a thousand microseconds.
    have hlookback : (ofStore hostStore ⟨1000000⟩).lookback = 1000 := by decide
    have hstart : (2 : Int) - 1000 = -998 := by decide
    rw [query_instant read?_up, selectInstant_eq (by rw [hlookback]; decide), hlookback, hstart,
      hselect, hseries]
    rfl
  · have hlong : Query.tokens? "up[1ms]" = some ([.word "up"] ++ Query.rangeTokens "1ms") := by
      decide
    have hlength : Query.span? "1ms" = some ⟨1000000⟩ := by decide
    exact (query_range_agrees _ 2 tokens?_up ofTokens?_up rfl hlong hlength).1 (by decide)

private theorem select_empty (name : String) (conditions : List Condition)
    (window : Time.Window) : Store.empty.select name conditions window = .ok [] := by
  -- No name has a table, be it folded or not.
  have htable : Store.empty.table? name = none := by
    unfold Store.table?
    dsimp only
    split <;> rfl
  unfold Store.select
  rw [htable]

/-- A range of 300000 years is longer than all times, so it is refused, also where it starts at a
    time.  A lookback of that length is not. -/
theorem query_range_refused_from_a_time :
    Query.span? "300000y" = some ⟨9460800000000000000000⟩ ∧
      Time.inRange (9000000000000000000 -
        (⟨9460800000000000000000⟩ : Time.Span).microseconds) = true ∧
      (ofStore Store.empty ⟨9460800000000000000000⟩).query "up" 9000000000000000000 = .ok .none ∧
      (ofStore Store.empty ⟨9460800000000000000000⟩).query "up[300000y]" 9000000000000000000 =
        .error (.unsupported (.range ⟨9460800000000000000000⟩)) := by
  have hlength : Query.span? "300000y" = some ⟨9460800000000000000000⟩ := by decide
  refine ⟨hlength, by decide, ?_, ?_⟩
  · -- The lookback is cut off where times begin, and there is no table.
    rw [query_instant read?_up, selectInstant, select_named, ofStore_store, select_empty]
    rfl
  · have hread : Query.Expr.read? "up[300000y]" = some (.range { name := some "up", matchers := [] }
        ⟨9460800000000000000000⟩) := by
      have htokens : Query.tokens? "up[300000y]" =
          some ([.word "up"] ++ Query.rangeTokens "300000y") := by decide
      rw [Query.Expr.read?, htokens]
      exact Query.Expr.ofTokens?_range ofTokens?_up rfl hlength
    rw [query_range hread, selectRange, rangeWindow_eq_error (by decide)]
    rfl

end LabeledSeries.Engine
