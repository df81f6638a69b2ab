import LabeledSeries.Proofs.Engine.Lookback
import LabeledSeries.Proofs.Fallible
import LabeledSeries.Proofs.Query.Offset

/-!
# Offsets are not applied

An offset behind a selector is accepted and recorded in it, and then no query looks at it.  So the
selector is answered at the time of the query, not at the time moved back by the offset, and there
is no fault that says so (`Engine.offset_not_applied`).

§1 says when an answer was given: rows have no samples after the time of the query, and series carry
a range that ends at that time.  Hence the answers at two times are the same only where they are
rows without samples after the earlier time, or nothing.  §2 compares the answers with and without
the offset.
-/

namespace LabeledSeries

/-! ## §1 The time of an answer -/

/-- A value that is rows without samples after a time, or nothing. -/
inductive Value.EndsBy (time : Int) : Value → Prop where
  | none : EndsBy time .none
  | vector {rows : InstantVector} (h : ∀ row ∈ rows, row.sample.time ≤ time) :
      EndsBy time (.vector rows)

/-- A value that is series, at least one, over a range that ends at a time. -/
inductive Value.RangesTo (time : Int) : Value → Prop where
  | matrix {first : Series} {rest : List Series} (start : Int)
      (h : first.range = some (start, time)) : RangesTo time (.matrix (first :: rest))

/-- Series over a range end at one time only, and are no rows. -/
theorem Value.RangesTo.not_endsBy {value : Value} {time other : Int} (h : value.RangesTo time) :
    ¬ value.EndsBy other := by
  intro hends
  cases h
  cases hends

theorem Value.RangesTo.eq {value : Value} {time other : Int} (h : value.RangesTo time)
    (hother : value.RangesTo other) : time = other := by
  cases h with
  | matrix start hrange =>
    cases hother with
    | matrix start' hrange' =>
      rw [hrange] at hrange'
      cases hrange'
      rfl

namespace Engine

variable {engine : Engine} {time : Int} {selector : Query.Selector} {e : Query.Expr}
  {text short long length : String} {span : Time.Span} {value : Value}

theorem endsBy_of_selectInstant {rows : InstantVector}
    (h : engine.selectInstant selector time = .ok rows) : (ofRows rows).EndsBy time := by
  unfold ofRows
  split
  · exact .none
  · apply Value.EndsBy.vector
    intro row hrow
    rw [selectInstant_eq_map] at h
    obtain ⟨selected, hselect, rfl⟩ := fmap_eq_ok_iff.mp h
    obtain ⟨series, hseries, hlatest⟩ := List.mem_filterMap.mp hrow
    obtain ⟨sample, hsample, rfl⟩ := Option.map_eq_some_iff.mp hlatest
    -- The latest sample is one of those in the window, which stops at the time of the query.
    have hholds := (runsWithin_of_select hselect series hseries).holds sample
      (List.mem_of_getLast? hsample)
    simp only [Time.Window.holds, decide_eq_true_eq] at hholds
    exact hholds.2

theorem stop_of_rangeWindow {window : Time.Window} (h : rangeWindow span time = .ok window) :
    window.stop = time := by
  unfold rangeWindow at h
  split at h
  · cases h
    rfl
  · cases h

theorem rangesTo_of_selectRange {series : RangeMatrix}
    (h : engine.selectRange selector span time = .ok series) :
    (ofSeries series).EndsBy time ∨ (ofSeries series).RangesTo time := by
  obtain ⟨window, hwindow, h⟩ := bind_eq_ok_iff.mp h
  obtain ⟨selected, -, rfl⟩ := map_eq_ok_iff.mp h
  cases selected with
  | nil => exact .inl .none
  | cons first rest =>
    apply Or.inr
    apply Value.RangesTo.matrix window.start
    rw [stop_of_rangeWindow hwindow]

/-- What a text that writes a selector is answered with. -/
theorem endsBy_or_rangesTo (hread : Query.Expr.read? text = some e)
    (hselector : e.selector? = some selector) (h : engine.query text time = .ok value) :
    value.EndsBy time ∨ value.RangesTo time := by
  rw [query_of_read hread] at h
  cases e with
  | instant other =>
    obtain ⟨rows, hrows, rfl⟩ := map_eq_ok_iff.mp h
    exact .inl (endsBy_of_selectInstant hrows)
  | range other length =>
    obtain ⟨series, hseries, rfl⟩ := map_eq_ok_iff.mp h
    exact rangesTo_of_selectRange hseries
  | _ => cases hselector

/-- A text that writes a selector has the same answer at two times just if it is one without samples
    after the earlier time, and no range, or if it is a fault at both. -/
theorem query_eq_query_iff {earlier : Int} (hread : Query.Expr.read? text = some e)
    (hselector : e.selector? = some selector) (hearlier : earlier < time)
    (h : engine.query text time = .ok value) :
    engine.query text time = engine.query text earlier ↔
      engine.query text earlier = .ok value ∧ value.EndsBy earlier := by
  constructor
  · intro heq
    rw [h] at heq
    refine ⟨heq.symm, ?_⟩
    rcases endsBy_or_rangesTo hread hselector heq.symm with hends | hranges
    · exact hends
    · -- The series would carry two ranges.
      rcases endsBy_or_rangesTo hread hselector h with hends | hlater
      · exact absurd hends hranges.not_endsBy
      · exact absurd (hranges.eq hlater) hearlier.ne
  · intro hsame
    rw [h, hsame.1]

/-! ## §2 Answers to offsets -/

/-- A length of time that can be written is some microseconds long. -/
theorem microseconds_pos (h : Query.span? length = some span) : 0 < span.microseconds := by
  obtain ⟨milliseconds, -, h⟩ := Option.bind_eq_some_iff.mp h
  split at h
  · cases h
  · rename_i hne
    cases h
    simp only [Time.Span.microseconds, Time.Span.ofMilliseconds]
    omega

/-- Nothing of an answer depends on the offset of a selector. -/
theorem evaluate_movedBack (hselector : e.selector? = some selector) (text other : String)
    (time : Int) (span : Time.Span) :
    engine.evaluate text time (e.movedBack span).bare = engine.evaluate other time e.bare := by
  cases e with
  | instant inner => rfl
  | range inner length => rfl
  | _ => cases hselector

/-- Whether a text with an offset is answered as its offset asks: with a fault, or as the text
    without the offset is at the time moved back. -/
def MovesBack (engine : Engine) (short long : String) (span : Time.Span) (time : Int) : Prop :=
  (∃ fault, engine.query long time = .error fault) ∨
    engine.query long time = engine.query short (time - span.microseconds)

/-- **Offsets are not applied**: let a text write a selector, at a time or over a range, that has no
    offset.  Behind it an offset can be written in the usual way, and wherever it is written, it is
    recorded in the selector.  Yet the answer is the one without the offset.

    So a selector that has an answer is answered as its offset asks just if it has the same answer
    at the time moved back, and that one is nothing or rows, none of them with a later sample. -/
theorem offset_not_applied (engine : Engine) (time : Int) {short length : String}
    {e : Query.Expr} {selector : Query.Selector} {span : Time.Span}
    (hread : Query.Expr.read? short = some e) (hselector : e.selector? = some selector)
    (hoffset : selector.shift.offset = none) (hspan : Query.span? length = some span) :
    (∀ gap, Query.isSpace gap = true → Query.EndsComment gap short.toList →
      Query.WritesOffset short length
        (short ++ String.singleton gap ++ ("offset " ++ length))) ∧
      ∀ long, Query.WritesOffset short length long →
        (∃ moved, Query.Expr.read? long = some moved ∧
          moved.selector? = some (selector.movedBack span)) ∧
        engine.query long time = engine.query short time ∧
        ∀ value, engine.query short time = .ok value →
          (engine.MovesBack short long span time ↔
            engine.query short (time - span.microseconds) = .ok value ∧
              value.EndsBy (time - span.microseconds)) := by
  refine ⟨fun gap hgap hcomment => ?_, fun long hlong => ?_⟩
  · -- What reads as a selector has tokens.
    obtain ⟨tokens, htokens, -⟩ := Option.bind_eq_some_iff.mp hread
    exact Query.writesOffset_blank hgap hcomment htokens hspan
  · have hmoved := Query.Expr.read?_offset hread hselector hoffset hspan hlong
    have hsame : engine.query long time = engine.query short time := by
      rw [query_of_read hmoved, query_of_read hread]
      exact evaluate_movedBack hselector long short time span
    refine ⟨⟨_, hmoved, Query.Expr.selector?_movedBack hselector span⟩, hsame, ?_⟩
    intro value hvalue
    have hearlier : time - span.microseconds < time := by
      have hpositive := microseconds_pos hspan
      omega
    rw [← query_eq_query_iff hread hselector hearlier hvalue, MovesBack, hsame, hvalue]
    exact or_iff_right (fun hfault => nomatch hfault.choose_spec)

/-- A table with two samples of a host, five minutes apart. -/
def twiceTable : Table := hostBatch
  [[.text "a", .integer 100000000, .double 1], [.text "a", .integer 400000000, .double 2]]

/-- An engine over that table, with a lookback of five minutes. -/
def twiceEngine : Engine := ofStore ⟨.singleton "up" twiceTable⟩ (.ofSeconds 300)

theorem twiceTable_wellFormed : twiceTable.WellFormed :=
  hostBatch_wellFormed (by simp [hostBatch, sampleColumns, Cell.fits])

theorem twiceTable_samples : twiceTable.rows.filterMap twiceTable.labelledSample? =
    [(.singleton "host" "a", ⟨100000000, 1⟩), (.singleton "host" "a", ⟨400000000, 2⟩)] := by
  simp [twiceTable, hostBatch, sampleColumns, Table.labelledSample?, Table.labelSet?,
    Labels.ofPairs?_eq, Table.textCells, Cell.labelText?, Table.sample?, Table.sample, Table.cell,
    timeColumn, valueColumn, Cell.storedInteger, Cell.storedDouble]

theorem twiceEngine_asks (shift : Query.Shift) :
    twiceEngine.Asks { name := some "up", matchers := [], shift } twiceTable [] where
  table_eq := ⟨"up", rfl, Store.table?_of_lower (by decide) (by simp)⟩
  conditions_eq := rfl
  wellFormed := twiceTable_wellFormed
  canCheck := by simp

/-- In the five minutes before the later sample there is no other one. -/
theorem twiceTable_later : twiceTable.naiveSelect [] ⟨100000000, 400000000⟩ =
    [⟨.singleton "host" "a", [⟨400000000, 2⟩], none⟩] := by
  simp [Table.naiveSelect, Table.samplesWithin, twiceTable_samples, Time.Window.holds, grouped,
    gather, sortOn, List.eraseDups_cons]

theorem twiceTable_earlier : twiceTable.naiveSelect [] ⟨-200000000, 100000000⟩ =
    [⟨.singleton "host" "a", [⟨100000000, 1⟩], none⟩] := by
  simp [Table.naiveSelect, Table.samplesWithin, twiceTable_samples, Time.Window.holds, grouped,
    gather, sortOn, List.eraseDups_cons]

/-- A selector of the metric, shifted or not, is answered with the latest samples of the table. -/
theorem query_twiceEngine {shift : Query.Shift}
    (hread : Query.Expr.read? text = some (.instant { name := some "up", matchers := [], shift }))
    (time : Int) :
    twiceEngine.query text time =
      .ok (ofRows ((twiceTable.naiveSelect [] (twiceEngine.instantWindow time)).filterMap
        latestRow?)) := by
  rw [query_instant hread, selectInstant_eq_map, (twiceEngine_asks shift).select_eq]
  rfl

theorem offset_not_applied_to_range :
    twiceEngine.query "up[5m]\noffset 5m" 400000000 = .ok (.matrix
        [⟨.singleton "host" "a", [⟨400000000, 2⟩], some (100000000, 400000000)⟩]) ∧
      ¬ twiceEngine.MovesBack "up[5m]" "up[5m]\noffset 5m" (.ofSeconds 300) 400000000 := by
  have hspan : Query.span? "5m" = some (.ofSeconds 300) := by decide
  have hread : Query.Expr.read? "up[5m]" = some (.range (.ofName "up") (.ofSeconds 300)) := by
    have htext : "up[5m]" = "up" ++ "[" ++ "5m" ++ "]" := by decide
    rw [htext]
    exact Query.Expr.read?_range read?_up hspan
  have hselect := (twiceEngine_asks {}).select_eq ⟨100000000, 400000000⟩
  have hwindow : rangeWindow (.ofSeconds 300) 400000000 = .ok ⟨100000000, 400000000⟩ :=
    rangeWindow_eq_ok (by decide) (by decide)
  have hquery : twiceEngine.query "up[5m]" 400000000 = .ok (.matrix
      [⟨.singleton "host" "a", [⟨400000000, 2⟩], some (100000000, 400000000)⟩]) := by
    rw [query_range hread, selectRange_eq hwindow, Query.Selector.ofName, hselect,
      twiceTable_later]
    rfl
  obtain ⟨hblank, hlong⟩ := offset_not_applied twiceEngine 400000000 hread rfl rfl hspan
  have htext : "up[5m]\noffset 5m" = "up[5m]" ++ String.singleton '\n' ++ ("offset " ++ "5m") := by
    decide
  obtain ⟨-, hsame, hmoves⟩ := hlong "up[5m]\noffset 5m"
    (htext ▸ hblank '\n' rfl (.inl rfl))
  refine ⟨hsame.trans hquery, fun h => ?_⟩
  have hends := ((hmoves _ hquery).mp h).2
  cases hends

/-- Five minutes before its later sample the host had another value, but a selector with that offset
    is answered with the later one. -/
theorem offset_not_moved_back :
    Query.span? "5m" = some (.ofSeconds 300) ∧
      Time.inRange (400000000 - (Time.Span.ofSeconds 300).microseconds) = true ∧
      twiceEngine.query "up offset 5m" 400000000 =
        .ok (.vector [⟨.singleton "host" "a", ⟨400000000, 2⟩⟩]) ∧
      twiceEngine.query "up" (400000000 - (Time.Span.ofSeconds 300).microseconds) =
        .ok (.vector [⟨.singleton "host" "a", ⟨100000000, 1⟩⟩]) ∧
      ¬ twiceEngine.MovesBack "up" "up offset 5m" (.ofSeconds 300) 400000000 := by
  have hspan : Query.span? "5m" = some (.ofSeconds 300) := by decide
  have hlong : Query.WritesOffset "up" "5m" "up offset 5m" :=
    ⟨[.word "up"], "offset", by decide, Query.keyword_eq (by decide), by decide⟩
  have hmoved := Query.Expr.read?_offset read?_up rfl rfl hspan hlong
  have hlater : twiceEngine.query "up offset 5m" 400000000 =
      .ok (.vector [⟨.singleton "host" "a", ⟨400000000, 2⟩⟩]) := by
    have hwindow : twiceEngine.instantWindow 400000000 = ⟨100000000, 400000000⟩ := by decide
    rw [query_twiceEngine hmoved, hwindow, twiceTable_later]
    rfl
  have hearlier : twiceEngine.query "up" (400000000 - (Time.Span.ofSeconds 300).microseconds) =
      .ok (.vector [⟨.singleton "host" "a", ⟨100000000, 1⟩⟩]) := by
    have hwindow : twiceEngine.instantWindow
        (400000000 - (Time.Span.ofSeconds 300).microseconds) = ⟨-200000000, 100000000⟩ := by decide
    rw [query_twiceEngine read?_up, hwindow, twiceTable_earlier]
    rfl
  refine ⟨hspan, by decide, hlater, hearlier, fun h => ?_⟩
  rw [MovesBack, hlater, hearlier] at h
  rcases h with ⟨fault, hfault⟩ | hsame
  · cases hfault
  · simp at hsame

end Engine

end LabeledSeries
