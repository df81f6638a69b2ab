import LabeledSeries.Proofs.Engine.InstantAndRange
import LabeledSeries.Proofs.Fallible
import LabeledSeries.Proofs.Query.Spellings
import LabeledSeries.Proofs.Store.EqualLabel

/-!
# A matcher and its negation

Two matchers, that a label equals a text and that it differs from it, part the rows of a selector:
each row is selected with one of them added, and the rows keep their order.

The matcher of difference is checked on labels alone, and always selects its part.  The matcher of
equality is also checked on the rows of the table, by the column of the name in lower case.  So it
selects its part if that is the column of the label, or the label has none
(`Engine.select_equal`).  Otherwise it is a fault (`Engine.select_equal_missing`) or selects by two
labels at once (`Engine.select_equal_lowered`).

§1 What a text that writes a selector is answered with.  §2 Selectors with one more matcher.  §3 The
two matchers, and all cases together (`Engine.matchers_part_rows`).  §4 A label in lower case, and
one with a capital letter.
-/

namespace LabeledSeries

/-- A text writes a selector, in parentheses or not. -/
def Query.Selects (text : String) (selector : Query.Selector) : Prop :=
  ∃ e, Query.Expr.read? text = some e ∧ e.bare = .instant selector

namespace Engine

variable {engine : Engine} {time : Int} {window : Time.Window} {selector : Query.Selector}
  {before after : List Query.Matcher} {matcher : Query.Matcher} {label value text : String}
  {rows : InstantVector} {series : List Series}

/-! ## §1 Answers to selectors -/

/-- The latest samples of series are chosen by their labels as the series are. -/
theorem filterMap_latestRow?_filter (selected : List Series) (p : Labels → Bool) :
    (selected.filter fun series => p series.labels).filterMap latestRow? =
      (selected.filterMap latestRow?).filter fun row => p row.labels := by
  -- Every series is dropped or kept before or after its latest sample is taken.
  rw [List.filterMap_filter, List.filter_filterMap]
  refine List.filterMap_congr fun series _ => ?_
  cases hlast : series.samples.getLast? with
  | none => simp [latestRow?, hlast]
  | some sample => simp [latestRow?, hlast, Option.filter]

/-- The answer to a text that writes a selector. -/
theorem query_selects (h : Query.Selects text selector) :
    engine.query text time =
      (engine.select selector ⟨Time.clamp (time - engine.lookback), time⟩).map fun series =>
        ofRows (series.filterMap latestRow?) := by
  obtain ⟨e, hread, hbare⟩ := h
  rw [query_bare_instant hread hbare, selectInstant]
  cases engine.select selector ⟨Time.clamp (time - engine.lookback), time⟩ with
  | error fault => rfl
  | ok series => rfl

theorem ofRows_injective {rows rows' : InstantVector} (h : ofRows rows = ofRows rows') :
    rows = rows' := by
  -- Rows are only the same answer if they are the same, since no rows are nothing.
  cases rows <;> cases rows' <;> simp_all [ofRows]

/-- Rows are answered just if series are selected of which they are the latest samples. -/
theorem query_eq_ok_iff (h : Query.Selects text selector) :
    engine.query text time = .ok (ofRows rows) ↔
      ∃ series, engine.select selector ⟨Time.clamp (time - engine.lookback), time⟩ = .ok series ∧
        series.filterMap latestRow? = rows := by
  rw [query_selects h]
  cases engine.select selector ⟨Time.clamp (time - engine.lookback), time⟩ with
  | error fault => simp [Except.map]
  | ok series =>
    simp only [Except.map, Except.ok.injEq, exists_eq_left']
    exact ⟨ofRows_injective, fun h => by rw [h]⟩

/-! ## §2 One more matcher -/

/-- The table that a selector is answered from, if its metric has one. -/
def table? (engine : Engine) (selector : Query.Selector) : Option Table :=
  match metricName selector with
  | .ok metric => engine.store.table? metric
  | .error _ => none

/-- A matcher of another label does not name the metric. -/
theorem metricName_insert (hmatchers : selector.matchers = before ++ after)
    (hlabel : matcher.label ≠ metricLabel) :
    metricName { selector with matchers := before ++ matcher :: after } = metricName selector := by
  obtain ⟨name, matchers, shift⟩ := selector
  cases hmatchers
  -- The name stands in front, or in a matcher of the metric label.
  cases name with
  | some name => rfl
  | none => simp [metricName, List.find?_append, hlabel]

/-- One more matcher is one more condition: without a table for the metric there are no series in
    any case. -/
theorem select_insert {added : Condition} (hmatchers : selector.matchers = before ++ after)
    (hlabel : matcher.label ≠ metricLabel) (hadded : condition matcher = .ok added)
    (h : engine.select selector window = .ok series) :
    (engine.table? selector = none ∧ series = [] ∧
      engine.select { selector with matchers := before ++ matcher :: after } window = .ok []) ∨
    ∃ table first last, engine.table? selector = some table ∧
      table.select (first ++ last) window = .ok series ∧
      engine.select { selector with matchers := before ++ matcher :: after } window =
        table.select (first ++ added :: last) window := by
  obtain ⟨metric, hmetric, h⟩ := bind_eq_ok_iff.mp h
  obtain ⟨conditions, hconditions, h⟩ := bind_eq_ok_iff.mp h
  -- The conditions of the matchers before and after the new one are as they were.
  rw [hmatchers, List.mapM_append] at hconditions
  obtain ⟨first, hfirst, hconditions⟩ := bind_eq_ok_iff.mp hconditions
  obtain ⟨last, hlast, rfl⟩ := map_eq_ok_iff.mp hconditions
  -- The new condition stands where its matcher stands.
  have hselect : engine.select { selector with matchers := before ++ matcher :: after } window =
      engine.store.select metric (first ++ added :: last) window := by
    rw [Engine.select, metricName_insert hmatchers hlabel, hmetric]
    simp [hfirst, hlast, hadded, bind, Except.bind, pure, Except.pure]
  rw [hselect, table?, hmetric]
  unfold Store.select at h ⊢
  cases htable : engine.store.table? metric with
  | none =>
    rw [htable] at h
    cases h
    exact .inl ⟨htable, rfl, rfl⟩
  | some table =>
    rw [htable] at h
    exact .inr ⟨table, first, last, htable, h, rfl⟩

/-! ## §3 The two matchers -/

theorem condition_equal (label value : String) :
    condition ⟨label, .equal, value⟩ = .ok (.equals label value) := rfl

theorem condition_differs (label value : String) :
    condition ⟨label, .differs, value⟩ = .ok (.satisfies label (· != value)) := rfl

/-- The matcher of difference selects all series with another value. -/
theorem select_differs (hmatchers : selector.matchers = before ++ after)
    (hlabel : label ≠ metricLabel) (h : engine.select selector window = .ok series) :
    engine.select { selector with matchers := before ++ ⟨label, .differs, value⟩ :: after } window =
      .ok (series.filter fun s => s.labels.value label != value) := by
  rcases select_insert hmatchers hlabel (condition_differs label value) h with
    -- Without a table there is nothing to part.
    ⟨-, rfl, hselect⟩ | ⟨table, first, last, -, hseries, hselect⟩
  · exact hselect
  · rw [hselect]
    exact Table.select_insert_satisfies hseries

/-- The matcher of equality selects all series with the value, if its check reads their label. -/
theorem select_equal (hmatchers : selector.matchers = before ++ after)
    (hlabel : label ≠ metricLabel)
    (hfinds : ∀ table, engine.table? selector = some table → table.FindsColumn label)
    (h : engine.select selector window = .ok series) :
    engine.select { selector with matchers := before ++ ⟨label, .equal, value⟩ :: after } window =
      .ok (series.filter fun s => s.labels.value label == value) := by
  rcases select_insert hmatchers hlabel (condition_equal label value) h with
    ⟨-, rfl, hselect⟩ | ⟨table, first, last, htable, hseries, hselect⟩
  · exact hselect
  · rw [hselect]
    exact Table.select_insert_equals (hfinds table htable) hseries

section Capitals

variable {table : Table} (hmatchers : selector.matchers = before ++ after)
  (hlabel : label ≠ metricLabel) (hvalue : value ≠ "")
  (htable : engine.table? selector = some table) (hcolumn : (table.column? label).isSome = true)
  (h : engine.select selector window = .ok series)

include hmatchers hlabel hvalue htable hcolumn h

/-- Without a column of the name in lower case the matcher of equality is a fault. -/
theorem select_equal_missing (hmissing : table.column? (lowered label) = none) :
    engine.select { selector with matchers := before ++ ⟨label, .equal, value⟩ :: after } window =
      .error (.store (.noColumn (lowered label))) := by
  rcases select_insert hmatchers hlabel (condition_equal label value) h with
    ⟨hnone, -, -⟩ | ⟨other, first, last, hother, hseries, hselect⟩
  · -- The metric has a table, so this is not the case without one.
    cases hnone.symm.trans htable
  · cases hother.symm.trans htable
    rw [hselect]
    exact Table.select_insert_equals_missing hvalue hcolumn hmissing hseries

/-- With a column of texts of the name in lower case both labels are compared. -/
theorem select_equal_lowered (hformed : table.WellFormed)
    (htext : table.column? (lowered label) = some ⟨lowered label, .text⟩) :
    engine.select { selector with matchers := before ++ ⟨label, .equal, value⟩ :: after } window =
      .ok (series.filter fun s =>
        s.labels.value label == value && s.labels.value (lowered label) == value) := by
  rcases select_insert hmatchers hlabel (condition_equal label value) h with
    ⟨hnone, -, -⟩ | ⟨other, first, last, hother, hseries, hselect⟩
  · cases hnone.symm.trans htable
  · cases hother.symm.trans htable
    rw [hselect]
    exact Table.select_insert_equals_lowered hformed hvalue hcolumn htext hseries

end Capitals

/-- **A matcher and its negation**: let texts write a selector and the selector with one more
    matcher, that a label other than the metric's name equals a text that is not empty, or that it
    differs from it.  Where the selector is answered, the rows in which the label differs are the
    answer to the one with the matcher of difference, in their order.  The other rows are the answer
    to the one with the matcher of equality, if the table of the metric has no column for the label,
    or one whose name has no capital letter.  If it has a column whose name has one, the matcher is
    a fault where no column has the name in lower case, and compares the labels of both columns
    where one of texts has it. -/
theorem matchers_part_rows {equal differs : String}
    (hmatchers : selector.matchers = before ++ after)
    (hlabel : label ≠ metricLabel) (hvalue : value ≠ "") (htext : Query.Selects text selector)
    (hequal : Query.Selects equal
      { selector with matchers := before ++ ⟨label, .equal, value⟩ :: after })
    (hdiffers : Query.Selects differs
      { selector with matchers := before ++ ⟨label, .differs, value⟩ :: after })
    (h : engine.query text time = .ok (ofRows rows)) :
    engine.query differs time =
        .ok (ofRows (rows.filter fun row => row.labels.value label != value)) ∧
      ((∀ table, engine.table? selector = some table → table.FindsColumn label) →
        engine.query equal time =
          .ok (ofRows (rows.filter fun row => row.labels.value label == value))) ∧
      ∀ table, engine.table? selector = some table → ¬ table.FindsColumn label →
        (table.column? (lowered label) = none →
          engine.query equal time = .error (.store (.noColumn (lowered label)))) ∧
        (table.WellFormed → table.column? (lowered label) = some ⟨lowered label, .text⟩ →
          engine.query equal time =
            .ok (ofRows (rows.filter fun row =>
              row.labels.value label == value && row.labels.value (lowered label) == value))) := by
  obtain ⟨series, hseries, rfl⟩ := (query_eq_ok_iff htext).mp h
  refine ⟨?_, fun hfinds => ?_, fun table htable hcapital => ?_⟩
  · -- The latest samples are parted as the series are.
    exact (query_eq_ok_iff hdiffers).mpr ⟨_, select_differs hmatchers hlabel hseries,
      filterMap_latestRow?_filter series fun labels => labels.value label != value⟩
  · exact (query_eq_ok_iff hequal).mpr ⟨_, select_equal hmatchers hlabel hfinds hseries,
      filterMap_latestRow?_filter series fun labels => labels.value label == value⟩
  · -- The label has a column, and its name is not its own lower case.
    obtain ⟨hcolumn, -⟩ := Classical.not_imp.mp hcapital
    refine ⟨fun hmissing => ?_, fun hformed hlowered => ?_⟩
    · -- The fault is that of the condition, before any row is looked at.
      rw [query_selects hequal,
        select_equal_missing hmatchers hlabel hvalue htable hcolumn hseries hmissing]
      rfl
    · exact (query_eq_ok_iff hequal).mpr ⟨_,
        select_equal_lowered hmatchers hlabel hvalue htable hcolumn hseries hformed hlowered,
        filterMap_latestRow?_filter series fun labels =>
          labels.value label == value && labels.value (lowered label) == value⟩

/-! ## §4 Labels in lower case and with a capital letter -/

/-- A table with a sample for each of two values of a label. -/
def labelTable (label : String) : Table where
  columns := ⟨label, .text⟩ :: sampleColumns
  rows := [[.text "a", .integer 0, .double 0.5], [.text "b", .integer 0, .double 1]]

/-- An engine over that table. -/
def labelEngine (label : String) : Engine :=
  ofStore ⟨.singleton "up" (labelTable label)⟩ ⟨1000000⟩

/-- A row of that table. -/
def labelRow (label value : String) (x : Float) : Row := ⟨.singleton label value, ⟨0, x⟩⟩

theorem store_table?_labelEngine (label : String) :
    (labelEngine label).store.table? "up" = some (labelTable label) := by
  rw [Store.table?_of_lower (by decide) (by simp), labelEngine, ofStore_store]
  exact NameMap.get?_singleton "up" "up" (labelTable label)

theorem labelTable_wellFormed (htime : label ≠ timeColumn) (hvalue : label ≠ valueColumn) :
    (labelTable label).WellFormed where
  nodup_names := by
    have hcolumns : timeColumn ≠ valueColumn := by decide
    simp [labelTable, sampleColumns, htime, hvalue, hcolumns]
  timeColumn_mem := by simp [labelTable, sampleColumns]
  valueColumn_mem := by simp [labelTable, sampleColumns]
  rows_fit := by simp [labelTable, sampleColumns, Cell.fits]

theorem query_labelEngine (htime : label ≠ timeColumn) (hvalue : label ≠ valueColumn) :
    (labelEngine label).query "up" 0 =
      -- Each of the two rows has one label and one sample.
      .ok (ofRows [labelRow label "a" 0.5, labelRow label "b" 1]) := by
  have hcolumns : timeColumn ≠ valueColumn := by decide
  have hsamples : (labelTable label).rows.filterMap (labelTable label).labelledSample? =
      [(.singleton label "a", ⟨0, 0.5⟩), (.singleton label "b", ⟨0, 1⟩)] := by
    simp [labelTable, sampleColumns, Table.labelledSample?, Table.labelSet?, Labels.ofPairs?_eq,
      Table.textCells, Cell.labelText?, Table.sample?, Table.sample, Table.cell, htime, hvalue,
      hcolumns, Cell.storedInteger, Cell.storedDouble]
  have hseries : (labelTable label).naiveSelect [] ⟨-1000, 0⟩ =
      [⟨.singleton label "a", [⟨0, 0.5⟩], none⟩, ⟨.singleton label "b", [⟨0, 1⟩], none⟩] := by
    simp [Table.naiveSelect, Table.samplesWithin, hsamples, Time.Window.holds, grouped, gather,
      sortOn, List.eraseDups_cons]
  have hformed := labelTable_wellFormed htime hvalue
  have hselect : (labelEngine label).select (Query.Selector.ofName "up") ⟨-1000, 0⟩ =
      .ok ((labelTable label).naiveSelect [] ⟨-1000, 0⟩) := by
    rw [Query.Selector.ofName, select_named]
    exact Store.select_of_table? _ (store_table?_labelEngine label) hformed (by simp)
  rw [hseries] at hselect
  exact (query_eq_ok_iff ⟨_, read?_up, rfl⟩).mpr ⟨_, hselect, rfl⟩

/-- A text with one matcher writes the selector with that matcher. -/
theorem selects_one (sign : Query.Sign) {rule : Query.MatchRule} (hlabel : label ≠ metricLabel)
    (hrule : rule = .equal ∨ rule = .differs) (hsign : Query.MatchRule.ofSign? sign = some rule)
    (htokens : Query.scanTokens (text.toList.length + 2) .braces (text.toList ++ ['\x7d']) =
      some [.label label, .sign sign, .quoted value, .sign .rightBrace]) :
    Query.Selects (Query.namedText "up" text)
      { Query.Selector.ofName "up" with matchers := [] ++ ⟨label, rule, value⟩ :: [] } := by
  have hread : Query.matchers [.label label, .sign sign, .quoted value, .sign .rightBrace] =
      some ([⟨label, rule, value⟩], []) := by
    simp [Query.matchers, Query.matcherList, hsign]
  -- These two matchers have no pattern that could be malformed.
  have hpattern : (⟨label, rule, value⟩ : Query.Matcher).hasPattern = true := by
    rcases hrule with rfl | rfl <;> rfl
  have hnames : Query.namesMetric "up" [] = true :=
    Query.namesMetric_of_keyword "up" (by decide) (by decide)
  exact ⟨_, Query.Expr.read?_namedText (by decide) hnames
    ⟨_, htokens, hread, by simpa using hpattern⟩ (by simpa using hlabel), rfl⟩

/-- The rows of a metric are parted by a label whose column is in lower case. -/
theorem matchers_part_rows_by_host :
    let engine := labelEngine "host"
    engine.query "up" 0 = .ok (.vector [labelRow "host" "a" 0.5, labelRow "host" "b" 1]) ∧
      engine.query (Query.namedText "up" "host!=\"a\"") 0 =
        .ok (.vector [labelRow "host" "b" 1]) ∧
      engine.query (Query.namedText "up" "host=\"a\"") 0 =
        .ok (.vector [labelRow "host" "a" 0.5]) := by
  intro engine
  have hrows : engine.query "up" 0 =
      .ok (ofRows [labelRow "host" "a" 0.5, labelRow "host" "b" 1]) :=
    query_labelEngine (by decide) (by decide)
  have hequal : Query.Selects (Query.namedText "up" "host=\"a\"")
      { Query.Selector.ofName "up" with matchers := [] ++ ⟨"host", .equal, "a"⟩ :: [] } :=
    selects_one .assign (by decide) (.inl rfl) rfl (by decide)
  have hdiffers : Query.Selects (Query.namedText "up" "host!=\"a\"")
      { Query.Selector.ofName "up" with matchers := [] ++ ⟨"host", .differs, "a"⟩ :: [] } :=
    selects_one .notEqual (by decide) (.inr rfl) rfl (by decide)
  obtain ⟨hothers, hfound, -⟩ :=
    matchers_part_rows rfl (by decide) (by decide) ⟨_, read?_up, rfl⟩ hequal hdiffers hrows
  exact ⟨hrows, hothers, hfound fun table _ _ => Table.lowered_eq_self (by simp)⟩

/-- Those of a label whose column has a capital letter are not: no column has the name in lower
    case, so the matcher of equality is a fault. -/
theorem matchers_do_not_part_rows_by_Host :
    let engine := labelEngine "Host"
    engine.query "up" 0 = .ok (.vector [labelRow "Host" "a" 0.5, labelRow "Host" "b" 1]) ∧
      engine.query (Query.namedText "up" "Host!=\"a\"") 0 =
        .ok (.vector [labelRow "Host" "b" 1]) ∧
      engine.query (Query.namedText "up" "Host=\"a\"") 0 = .error (.store (.noColumn "host")) := by
  intro engine
  have hrows : engine.query "up" 0 =
      .ok (ofRows [labelRow "Host" "a" 0.5, labelRow "Host" "b" 1]) :=
    query_labelEngine (by decide) (by decide)
  have hequal : Query.Selects (Query.namedText "up" "Host=\"a\"")
      { Query.Selector.ofName "up" with matchers := [] ++ ⟨"Host", .equal, "a"⟩ :: [] } :=
    selects_one .assign (by decide) (.inl rfl) rfl (by decide)
  have hdiffers : Query.Selects (Query.namedText "up" "Host!=\"a\"")
      { Query.Selector.ofName "up" with matchers := [] ++ ⟨"Host", .differs, "a"⟩ :: [] } :=
    selects_one .notEqual (by decide) (.inr rfl) rfl (by decide)
  -- The rows of difference are found by their labels, also here.
  obtain ⟨series, hseries, hlatest⟩ := (query_eq_ok_iff ⟨_, read?_up, rfl⟩).mp hrows
  have hothers : engine.query (Query.namedText "up" "Host!=\"a\"") 0 =
      .ok (ofRows [labelRow "Host" "b" 1]) := by
    refine (query_eq_ok_iff hdiffers).mpr ⟨_, select_differs rfl (by decide) hseries, ?_⟩
    rw [filterMap_latestRow?_filter series fun labels => labels.value "Host" != "a", hlatest]
    rfl
  have htable : engine.table? (Query.Selector.ofName "up") = some (labelTable "Host") :=
    store_table?_labelEngine "Host"
  have hlowered : lowered "Host" = "host" := by
    refine String.toList_injective ?_
    rw [lowered, String.toList_map]
    rfl
  -- The only columns are that of the label, of the time and of the value.
  have hmissing : (labelTable "Host").column? (lowered "Host") = none := by
    rw [hlowered]
    decide
  refine ⟨hrows, hothers, ?_⟩
  rw [query_selects hequal, select_equal_missing rfl (by decide) (by decide) htable (by decide)
    hseries hmissing, hlowered]
  rfl

end Engine

end LabeledSeries
