import LabeledSeries.Proofs.Engine.InstantAndRange

/-!
# How far the latest samples are searched

The latest samples of series are searched in a window that reaches back by the lookback of the
engine.  The window has to start at a time of 64 bits, so a lookback that is longer than the latest
time is cut off, and so is a start before the earliest time.

§1 is about tables of which only the rows of some times are left.  A selection in a window is one
without any window in such a table, whatever is selected and whether or not it fails.

§2 says which times a search comes upon: those that one would expect of the length of time, except
for the earliest time and for the times that are the latest time or more away
(`Engine.holds_instantWindow`).  Where nothing is cut off there are no exceptions.

§3 puts the two together: the answer to a selector is that in a table of the samples of these times,
and each of them that the selector is for takes part (`Engine.lookback_reaches_exactly`).
-/

namespace LabeledSeries

/-! ## §1 The samples of some times -/

/-- Whether a search that goes back from a time by a length of time comes upon another time.  It
    does not come upon the earliest time, nor does it go as far as the latest time is long. -/
def Time.Span.reaches (span : Time.Span) (time t : Int) : Bool :=
  decide ((time - span.microseconds < t ∧ t ≤ time) ∧ Time.earliest < t ∧ time - t < Time.latest)

/-- A window that holds all times. -/
def Time.always : Time.Window := ⟨Time.earliest - 1, Time.latest⟩

theorem Time.holds_always {t : Int} (h : Time.inRange t = true) : Time.always.holds t = true := by
  simp only [Time.inRange, decide_eq_true_eq] at h
  refine decide_eq_true ⟨?_, h.2⟩
  show Time.earliest - 1 < t
  omega

namespace Table

/-- Every time in a table is an integer of 64 bits, where it is not missing. -/
def HoldsTimes (table : Table) : Prop :=
  ∀ row ∈ table.rows, (table.cell timeColumn row).fits .integer = true ∧
    ∀ t, table.cell timeColumn row = .integer t → Time.inRange t = true

/-- Whether a row has a time, and one that is chosen. -/
def hasTime (table : Table) (chosen : Int → Bool) (row : List Cell) : Bool :=
  match table.cell timeColumn row with
  | .integer t => chosen t
  | _ => false

/-- A table with the rows of some times only. -/
def atTimes (table : Table) (chosen : Int → Bool) : Table :=
  { table with rows := table.rows.filter (table.hasTime chosen) }

variable {table : Table} {chosen : Int → Bool} {window : Time.Window} {conditions : List Condition}

/-- In a table of some times, those rows are admitted at any time that were it in a window of these
    times. -/
theorem filter_admits_atTimes (htimes : table.HoldsTimes)
    (hwindow : ∀ t, Time.inRange t = true → window.holds t = chosen t)
    (checks : List (String × String)) :
    (table.atTimes chosen).rows.filter ((table.atTimes chosen).admits Time.always checks) =
      table.rows.filter (table.admits window checks) := by
  have hadmits : (table.atTimes chosen).admits Time.always checks =
      table.admits Time.always checks := rfl
  rw [hadmits, atTimes, List.filter_filter]
  refine List.filter_congr fun row hrow => ?_
  obtain ⟨hfits, hrange⟩ := htimes row hrow
  rw [admits, admits, hasTime]
  -- A row without a time is not admitted, and it is not left.
  cases hcell : table.cell timeColumn row with
  | integer t =>
    have hrange := hrange t hcell
    simp [Cell.isWithin, hwindow t hrange, Time.holds_always hrange, Bool.and_comm]
  | null | hiddenInteger => simp [Cell.isWithin]
  | text | double | hiddenDouble => simp [hcell, Cell.fits] at hfits

/-- **Windows choose times**: a selection in a window is a selection at any time in a table of the
    times in the window. -/
theorem select_atTimes (htimes : table.HoldsTimes)
    (hwindow : ∀ t, Time.inRange t = true → window.holds t = chosen t)
    (conditions : List Condition) :
    (table.atTimes chosen).select conditions Time.always = table.select conditions window := by
  have hrows := filter_admits_atTimes htimes hwindow
    (conditions.filterMap (table.atTimes chosen).rowCondition?)
  -- But for these rows, all that a selection looks at are the columns.
  have hbatches : (table.atTimes chosen).batches Time.always
      (conditions.filterMap (table.atTimes chosen).rowCondition?) =
        table.batches window (conditions.filterMap table.rowCondition?) := by
    unfold batches
    rw [hrows]
    rfl
  have hneeds : (table.atTimes chosen).requirements conditions Time.always =
      table.requirements conditions window := by
    unfold requirements
    rw [hbatches]
    rfl
  have hselected : (table.atTimes chosen).selected conditions Time.always =
      table.selected conditions window := by
    unfold selected admitted
    rw [hrows]
    rfl
  rw [select_eq, select_eq, hneeds, hselected]

end Table

/-- A store in whose tables only the rows of some times are left. -/
def Store.atTimes (store : Store) (chosen : Int → Bool) : Store where
  tables := {
    entries := store.tables.entries.map fun entry => (entry.1, entry.2.atTimes chosen)
    ascending := List.pairwise_map.mpr store.tables.ascending }

/-- Every time in a table of the store is one of 64 bits. -/
def Store.HoldsTimes (store : Store) : Prop :=
  ∀ name table, store.table? name = some table → table.HoldsTimes

theorem Store.mem_of_table?_eq_some {store : Store} {name : String} {table : Table}
    (h : store.table? name = some table) :
    ((TableName.ofText name).name, table) ∈ store.tables.entries := by
  unfold Store.table? at h
  dsimp only at h
  split at h
  · exact NameMap.mem_entries_iff.mpr h
  · cases h

theorem Store.table?_atTimes (store : Store) (chosen : Int → Bool) (name : String) :
    (store.atTimes chosen).table? name = (store.table? name).map (·.atTimes chosen) := by
  unfold Store.table?
  dsimp only
  split
  · rw [NameMap.get?_eq_lookup, NameMap.get?_eq_lookup]
    exact NameMap.lookup_map (·.atTimes chosen) _ store.tables.entries
  · rfl

theorem Store.select_atTimes {store : Store} {chosen : Int → Bool} {window : Time.Window}
    (htimes : store.HoldsTimes)
    (hwindow : ∀ t, Time.inRange t = true → window.holds t = chosen t) (metric : String)
    (conditions : List Condition) :
    (store.atTimes chosen).select metric conditions Time.always =
      store.select metric conditions window := by
  unfold Store.select
  rw [Store.table?_atTimes]
  cases htable : store.table? metric with
  | none => rfl
  | some table => exact Table.select_atTimes (htimes metric table htable) hwindow conditions

namespace Engine

/-- An engine over the rows of some times only. -/
def atTimes (engine : Engine) (chosen : Int → Bool) : Engine :=
  { engine with store := engine.store.atTimes chosen }

variable {engine : Engine} {span : Time.Span} {time : Int}

theorem select_atTimes {chosen : Int → Bool} {window : Time.Window}
    (htimes : engine.store.HoldsTimes)
    (hwindow : ∀ t, Time.inRange t = true → window.holds t = chosen t)
    (selector : Query.Selector) :
    (engine.atTimes chosen).select selector Time.always = engine.select selector window := by
  unfold select
  cases metricName selector with
  | error fault => rfl
  | ok metric =>
    cases selector.matchers.mapM condition with
    | error fault => rfl
    | ok conditions => exact Store.select_atTimes htimes hwindow metric conditions

/-! ## §2 The window of a search -/

/-- The window in which the latest samples are searched. -/
def instantWindow (engine : Engine) (time : Int) : Time.Window :=
  { start := Time.clamp (time - engine.lookback), stop := time }

theorem withLookback_lookback_eq (engine : Engine) (span : Time.Span) :
    (engine.withLookback span).lookback = min (span.microseconds : Int) Time.latest := by
  unfold withLookback micros?
  dsimp only
  split
  · rename_i hfits
    exact (min_eq_left hfits).symm
  · rename_i hlong
    exact (min_eq_right (not_le.mp hlong).le).symm

/-- The times in the window of a search are those that it comes upon. -/
theorem holds_instantWindow (htime : Time.inRange time = true) {t : Int}
    (ht : Time.inRange t = true) :
    ((engine.withLookback span).instantWindow time).holds t = span.reaches time t := by
  simp only [Time.inRange, decide_eq_true_eq] at htime ht
  rw [instantWindow, withLookback_lookback_eq, Time.Window.holds, Time.Span.reaches,
    decide_eq_decide]
  simp only [Time.clamp, Time.earliest, Time.latest] at htime ht ⊢
  omega

/-- A search has no exceptions just if neither its lookback nor its start is cut off. -/
theorem reaches_exactly_iff (htime : Time.inRange time = true) :
    (∀ t, Time.inRange t = true →
      (span.reaches time t = true ↔ time - span.microseconds < t ∧ t ≤ time)) ↔
    (span.microseconds : Int) ≤ Time.latest ∧ Time.inRange (time - span.microseconds) = true := by
  simp only [Time.Span.reaches, Time.inRange, decide_eq_true_eq] at htime ⊢
  simp only [Time.earliest, Time.latest] at htime ⊢
  constructor
  · intro h
    -- The earliest time shows that the start is a time, and the first one behind the start that
    -- the lookback is not too long.
    have hearliest := h (-9223372036854775808) (by omega)
    have hfirst := h (time - span.microseconds + 1)
    omega
  · intro h t ht
    omega

/-! ## §3 What a selector sees -/

/-- A selector is for a table of the engine and for series that satisfy conditions, each of which
    the table can check on its rows or need not. -/
structure Asks (engine : Engine) (selector : Query.Selector) (table : Table)
    (conditions : List Condition) : Prop where
  table_eq : ∃ metric, metricName selector = .ok metric ∧ engine.store.table? metric = some table
  conditions_eq : selector.matchers.mapM condition = .ok conditions
  wellFormed : table.WellFormed
  canCheck : ∀ condition ∈ conditions, table.CanCheck condition

theorem Asks.select_eq {selector : Query.Selector} {table : Table} {conditions : List Condition}
    (h : engine.Asks selector table conditions) (window : Time.Window) :
    engine.select selector window = .ok (table.naiveSelect conditions window) := by
  obtain ⟨metric, hmetric, htable⟩ := h.table_eq
  rw [select, hmetric, h.conditions_eq]
  exact Store.select_of_table? window htable h.wellFormed h.canCheck

theorem Asks.inRange_time {selector : Query.Selector} {table : Table}
    {conditions : List Condition} (h : engine.Asks selector table conditions)
    (htimes : engine.store.HoldsTimes) {labels : Labels} {sample : Sample}
    (hsample : (labels, sample) ∈ table.rows.filterMap table.labelledSample?) :
    Time.inRange sample.time = true := by
  obtain ⟨metric, -, htable⟩ := h.table_eq
  obtain ⟨row, hrow, hlabelled⟩ := List.mem_filterMap.mp hsample
  rw [Table.labelledSample?_eq h.wellFormed hrow] at hlabelled
  obtain ⟨_, hsample, hpair⟩ := Option.map_eq_some_iff.mp hlabelled
  cases hpair
  exact (htimes metric table htable row hrow).2 _ (Table.cell_of_sample? hsample)

theorem selectInstant_eq_map (engine : Engine) (selector : Query.Selector) (time : Int) :
    engine.selectInstant selector time =
      (engine.select selector (engine.instantWindow time)).map
        fun selected => selected.filterMap latestRow? := by
  rw [selectInstant, instantWindow]
  cases engine.select selector ⟨Time.clamp (time - engine.lookback), time⟩ with
  | error fault => rfl
  | ok selected => rfl

/-- **A selector sees the samples that a lookback reaches**: at a time of 64 bits, and over tables
    that hold such times, a selector is answered as if there were no others and no lookback.  Where
    it is for a table, each of them with labels that it is for takes part.

    They are those from the time on back by the length of the lookback, without exceptions, just if
    neither that length nor the time at which they start is beyond 64 bits. -/
theorem lookback_reaches_exactly (engine : Engine) (span : Time.Span) (selector : Query.Selector)
    {time : Int} (htime : Time.inRange time = true) (htimes : engine.store.HoldsTimes) :
    (engine.withLookback span).selectInstant selector time =
        ((engine.atTimes (span.reaches time)).select selector Time.always).map
          (fun selected => selected.filterMap latestRow?) ∧
      (∀ table conditions, engine.Asks selector table conditions →
        ∃ selected, (engine.atTimes (span.reaches time)).select selector Time.always =
            .ok selected ∧
          ∀ labels sample, (labels, sample) ∈ table.rows.filterMap table.labelledSample? →
            conditions.all (·.holds labels) = true →
            ((∃ series ∈ selected, series.labels = labels ∧ sample ∈ series.samples) ↔
              span.reaches time sample.time = true)) ∧
      ((∀ t, Time.inRange t = true →
          (span.reaches time t = true ↔ time - span.microseconds < t ∧ t ≤ time)) ↔
        (span.microseconds : Int) ≤ Time.latest ∧
          Time.inRange (time - span.microseconds) = true) := by
  have hselect : (engine.atTimes (span.reaches time)).select selector Time.always =
      engine.select selector ((engine.withLookback span).instantWindow time) :=
    select_atTimes htimes (fun _ => holds_instantWindow htime) selector
  refine ⟨?_, fun table conditions hasks => ?_, reaches_exactly_iff htime⟩
  · rw [selectInstant_eq_map, hselect]
    rfl
  · refine ⟨_, hselect.trans (hasks.select_eq _), fun labels sample hmem hlabels => ?_⟩
    rw [Table.exists_mem_naiveSelect_iff hlabels,
      holds_instantWindow htime (hasks.inRange_time htimes hmem)]
    exact and_iff_right hmem

/-- A length of ten million million seconds, which have more microseconds than 64 bits count. -/
def ages : Time.Span := .ofSeconds 10000000000000

theorem hostStore_holdsTimes : hostStore.HoldsTimes := by
  intro name table htable
  have hmem := Store.mem_of_table?_eq_some htable
  simp only [hostStore, NameMap.singleton, List.mem_singleton, Prod.mk.injEq] at hmem
  obtain ⟨-, rfl⟩ := hmem
  simp [Table.HoldsTimes, hostTable, hostBatch, sampleColumns, Table.cell, timeColumn, valueColumn,
    Cell.fits, Time.inRange, Time.earliest, Time.latest]

/-- At the latest time a lookback of ages finds both samples of the host. -/
theorem lookback_reaches_exactly_for_hosts :
    ∃ selected : List Series,
      (ofStore hostStore ages).selectInstant { name := some "up", matchers := [] } Time.latest =
        .ok (selected.filterMap latestRow?) ∧
      ∀ sample ∈ [(⟨1, 2⟩ : Sample), ⟨2, 0.5⟩],
        ∃ series ∈ selected, series.labels = .singleton "host" "a" ∧ sample ∈ series.samples := by
  let engine : Engine := ⟨hostStore, FunctionTable.builtin, defaultLookback⟩
  let up : Query.Selector := { name := some "up", matchers := [] }
  have hasks : engine.Asks up hostTable [] :=
    { table_eq := ⟨"up", rfl, hostStore_table?⟩
      conditions_eq := rfl
      wellFormed := hostTable_wellFormed
      canCheck := by simp }
  obtain ⟨hrows, hselected, -⟩ := lookback_reaches_exactly engine ages up
    (by decide : Time.inRange Time.latest = true) hostStore_holdsTimes
  obtain ⟨selected, hselect, htakesPart⟩ := hselected hostTable [] hasks
  refine ⟨selected, ?_, fun sample hsample => ?_⟩
  · rw [hselect] at hrows
    exact hrows
  · have hcases : sample = ⟨1, 2⟩ ∨ sample = ⟨2, 0.5⟩ := by simpa using hsample
    refine (htakesPart (.singleton "host" "a") sample ?_ rfl).mpr ?_
    · rw [hostTable_samples]
      rcases hcases with rfl | rfl <;> simp
    · rcases hcases with rfl | rfl <;> decide

/-- A table with samples at the two earliest times. -/
def dawnTable : Table := hostBatch
  [[.text "a", .integer (Time.earliest + 1), .double 1],
    [.text "b", .integer Time.earliest, .double 2]]

/-- A store with that table. -/
def dawnStore : Store := ⟨.singleton "up" dawnTable⟩

theorem dawnTable_wellFormed : dawnTable.WellFormed :=
  hostBatch_wellFormed (by simp [hostBatch, sampleColumns, Cell.fits])

theorem dawnTable_samples : dawnTable.rows.filterMap dawnTable.labelledSample? =
    [(.singleton "host" "a", ⟨Time.earliest + 1, 1⟩),
      (.singleton "host" "b", ⟨Time.earliest, 2⟩)] := by
  simp [dawnTable, hostBatch, sampleColumns, Table.labelledSample?, Table.labelSet?,
    Labels.ofPairs?_eq, Table.textCells, Cell.labelText?, Table.sample?, Table.sample, Table.cell,
    timeColumn, valueColumn, Cell.storedInteger, Cell.storedDouble]

/-- Ages before a time in the middle there was no time yet, but from there a lookback of ages comes
    upon neither of the two earliest times. -/
theorem not_lookback_reaches_all :
    (ofStore dawnStore ages).queryRows "up" 0 = .ok [] ∧
      dawnTable.rows.filterMap dawnTable.labelledSample? =
        [(.singleton "host" "a", ⟨Time.earliest + 1, 1⟩),
          (.singleton "host" "b", ⟨Time.earliest, 2⟩)] ∧
      ∀ t ∈ [Time.earliest + 1, Time.earliest],
        Time.inRange t = true ∧ 0 - (ages.microseconds : Int) < t ∧ t ≤ 0 := by
  refine ⟨?_, dawnTable_samples, by decide⟩
  have htable : dawnStore.table? "up" = some dawnTable :=
    Store.table?_of_lower (by decide) (by simp)
  have hstart : (0 : Int) - (ofStore dawnStore ages).lookback = Time.earliest + 1 := by decide
  have hreach : Time.inRange (0 - (ofStore dawnStore ages).lookback) = true := by
    rw [hstart]
    decide
  have hrows : (ofStore dawnStore ages).queryRows "up" 0 =
      .ok ((dawnTable.naiveSelect [] ⟨0 - (ofStore dawnStore ages).lookback, 0⟩).filterMap
        latestRow?) :=
    queryRows_named read?_up htable dawnTable_wellFormed hreach
  rw [hrows]
  simp [hstart, Table.naiveSelect, Table.samplesWithin, dawnTable_samples, Time.Window.holds,
    grouped, Time.earliest]

end Engine

end LabeledSeries
