import LabeledSeries.Call.Builtin
import LabeledSeries.Proofs.FirstGreatest
import LabeledSeries.Proofs.Instant.NestedLoop
import LabeledSeries.Proofs.Instant.ParameterTexts
import LabeledSeries.Proofs.NameMap
import Mathlib

/-!
# The newest row of each key

The reduction to one row per value of a label sorts the rows and goes through them once, with the
newest row so far of the value at hand.  What it keeps can be said without the sorting: for each
value, the first of the newest rows that have it.

- `Distinct.filter_run` — the row that is kept of one value
- `Distinct.strict_run` — kept rows ascend strictly by the label
- `Distinct.run_run`, `Distinct.run_eq_of_perm` — so they are kept again, and the order of the rows
  does not matter where no two of one value have the same time
- `Distinct.call_keeps_newest` — all of this for the function on a vector

The sort is stable, so the rows of one value come to the walk in their old order, and the first of
several newest rows is still the first there.
-/

namespace LabeledSeries.Distinct

/-! ## §1 One value -/

/-- The newer of two rows, the first of them if they are of the same time. -/
def newer (newest next : Row) : Row :=
  if newest.sample.time < next.sample.time then next else newest

/-- The first of the newest rows. -/
def newest? : InstantVector → Option Row
  | [] => none
  | first :: rest => some (rest.foldl newer first)

theorem isFirstGreatest_newest? {rows : InstantVector} {row : Row} (h : newest? rows = some row) :
    IsFirstGreatest (fun row : Row => row.sample.time) rows row := by
  cases rows with
  | nil => cases h
  | cons first rest =>
    cases h
    exact isFirstGreatest_foldl (fun _ _ => rfl) first rest

theorem exists_newest? {rows : InstantVector} (h : rows ≠ []) : ∃ row, newest? rows = some row := by
  cases rows with
  | nil => exact absurd rfl h
  | cons first rest => exact ⟨_, rfl⟩

/-- A single row is the newest. -/
theorem newest?_toList (kept : Option Row) : newest? kept.toList = kept := by
  cases kept <;> rfl

/-- Where no two rows are of the same time, the newest is the same in any order. -/
theorem newest?_eq_of_perm {rows rows' : InstantVector} (hperm : rows.Perm rows')
    (htimes : (rows.map fun row => row.sample.time).Nodup) : newest? rows' = newest? rows := by
  by_cases hempty : rows = []
  · subst hempty
    rw [List.nil_perm.mp hperm]
  · have hempty' : rows' ≠ [] := by
      rintro rfl
      exact hempty (List.perm_nil.mp hperm)
    obtain ⟨row, hrow⟩ := exists_newest? hempty
    obtain ⟨row', hrow'⟩ := exists_newest? hempty'
    have hnewest := isFirstGreatest_newest? hrow
    rw [hrow, hrow', hnewest.eq_of_perm (isFirstGreatest_newest? hrow') hperm
      fun other hother => List.inj_on_of_nodup_map htimes hother hnewest.mem]

/-! ## §2 The walk over sorted rows -/

/-- The value of a row that a reduction goes by. -/
abbrev valueOf (plan : Distinct) (row : Row) : String := row.labels.value plan.key

variable {plan : Distinct} {newest next : Row} {rows : InstantVector}

theorem compress_of_same (h : plan.valueOf newest = plan.valueOf next) :
    plan.compress newest (next :: rows) = plan.compress (newer newest next) rows :=
  if_pos h

theorem compress_of_ne (h : plan.valueOf newest ≠ plan.valueOf next) :
    plan.compress newest (next :: rows) = newest :: plan.compress next rows :=
  if_neg h

theorem newer_eq (newest next : Row) : newer newest next = newest ∨ newer newest next = next := by
  unfold newer
  split
  · exact .inr rfl
  · exact .inl rfl

/-- The newer of two rows with the same value has that value. -/
theorem valueOf_newer (h : plan.valueOf newest = plan.valueOf next) :
    plan.valueOf (newer newest next) = plan.valueOf next := by
  rcases newer_eq newest next with heq | heq
  · rw [heq, h]
  · rw [heq]

theorem mem_of_mem_compress {row : Row} (h : row ∈ plan.compress newest rows) :
    row ∈ newest :: rows := by
  induction rows generalizing newest with
  | nil => exact h
  | cons next rows ih =>
    by_cases hsame : plan.valueOf newest = plan.valueOf next
    · rw [compress_of_same hsame] at h
      rcases List.mem_cons.mp (ih h) with rfl | hmem
      · rcases newer_eq newest next with heq | heq <;> simp [heq]
      · exact List.mem_cons_of_mem _ (List.mem_cons_of_mem _ hmem)
    · rw [compress_of_ne hsame] at h
      rcases List.mem_cons.mp h with rfl | hmem
      · exact List.mem_cons_self ..
      · exact List.mem_cons_of_mem _ (ih hmem)

/-- A sorted list stays sorted when two rows of one value become one. -/
theorem ascending_newer (hsame : plan.valueOf newest = plan.valueOf next)
    (h : AscendingOn plan.valueOf (newest :: next :: rows)) :
    AscendingOn plan.valueOf (newer newest next :: rows) := by
  obtain ⟨hnext, hrows⟩ := List.pairwise_cons.mp h.tail
  refine List.pairwise_cons.mpr ⟨fun row hrow => ?_, hrows⟩
  exact (valueOf_newer hsame).trans_le (hnext row hrow)

/-- Once the value changes all values are greater. -/
theorem valueOf_lt_of_mem (hne : plan.valueOf newest ≠ plan.valueOf next)
    (h : AscendingOn plan.valueOf (newest :: next :: rows)) {row : Row}
    (hrow : row ∈ next :: rows) : plan.valueOf newest < plan.valueOf row := by
  obtain ⟨hnewest, hrest⟩ := List.pairwise_cons.mp h
  have hlt := lt_of_le_of_ne (hnewest next (List.mem_cons_self ..)) hne
  rcases List.mem_cons.mp hrow with rfl | hrow
  · exact hlt
  · exact hlt.trans_le ((List.pairwise_cons.mp hrest).1 row hrow)

/-- The rows that are kept ascend strictly. -/
theorem strict_compress (h : AscendingOn plan.valueOf (newest :: rows)) :
    (plan.compress newest rows).Pairwise fun a b => plan.valueOf a < plan.valueOf b := by
  -- The newest row so far belongs to the sorted list, in front of the rows to come.
  induction rows generalizing newest with
  | nil => exact List.pairwise_singleton ..
  | cons next rows ih =>
    by_cases hsame : plan.valueOf newest = plan.valueOf next
    · rw [compress_of_same hsame]
      exact ih (ascending_newer hsame h)
    · rw [compress_of_ne hsame]
      refine List.pairwise_cons.mpr ⟨fun row hrow => ?_, ih h.tail⟩
      exact valueOf_lt_of_mem hsame h (mem_of_mem_compress hrow)

/-- Of each value the newest row is kept, and no other. -/
theorem filter_compress (h : AscendingOn plan.valueOf (newest :: rows)) (k : String) :
    (plan.compress newest rows).filter (fun row => plan.valueOf row = k) =
      (newest? ((newest :: rows).filter fun row => plan.valueOf row = k)).toList := by
  induction rows generalizing newest with
  | nil => by_cases hk : plan.valueOf newest = k <;> simp [compress, hk, newest?]
  | cons next rows ih =>
    by_cases hsame : plan.valueOf newest = plan.valueOf next
    · -- Two rows of one value count as the newer of them.
      rw [compress_of_same hsame, ih (ascending_newer hsame h)]
      have hnewer := valueOf_newer hsame
      by_cases hk : plan.valueOf next = k
      · simp [hnewer, hsame, hk, newest?]
      · simp [hnewer, hsame, hk]
    · rw [compress_of_ne hsame]
      by_cases hk : plan.valueOf newest = k
      · -- All later rows have greater values, so the row is the only one with its value.
        have hnone : (next :: rows).filter (fun row => plan.valueOf row = k) = [] := by
          rw [List.filter_eq_nil_iff]
          intro row hrow hvalue
          exact (valueOf_lt_of_mem hsame h hrow).ne (hk.trans (of_decide_eq_true hvalue).symm)
        have hcons : ∀ list : InstantVector,
            (newest :: list).filter (fun row => plan.valueOf row = k) =
              newest :: list.filter (fun row => plan.valueOf row = k) :=
          fun _ => List.filter_cons_of_pos (decide_eq_true hk)
        rw [hcons, ih h.tail, hcons, hnone]
        rfl
      · have hcons : ∀ list : InstantVector,
            (newest :: list).filter (fun row => plan.valueOf row = k) =
              list.filter (fun row => plan.valueOf row = k) :=
          fun _ => List.filter_cons_of_neg (by simpa using hk)
        rw [hcons, ih h.tail, hcons]

/-! ## §3 The reduction -/

theorem strict_run (plan : Distinct) (rows : InstantVector) :
    (plan.run rows).Pairwise fun a b => plan.valueOf a < plan.valueOf b := by
  have hsorted := pairwise_sortByLabel plan.key rows
  unfold run
  cases hrows : sortByLabel plan.key rows with
  | nil => exact List.Pairwise.nil
  | cons first rest => exact strict_compress (hrows ▸ hsorted)

/-- **What is kept of one value**: the newest of the rows that have it, in the order in which they
    were given. -/
theorem filter_run (plan : Distinct) (rows : InstantVector) (k : String) :
    (plan.run rows).filter (fun row => plan.valueOf row = k) =
      (newest? (rows.filter fun row => plan.valueOf row = k)).toList := by
  have hsorted := pairwise_sortByLabel plan.key rows
  have hstable := filter_key_sortOn plan.valueOf k rows
  rw [← sortByLabel_eq_sortOn] at hstable
  rw [← hstable]
  unfold run
  cases hrows : sortByLabel plan.key rows with
  | nil => rfl
  | cons first rest => exact filter_compress (hrows ▸ hsorted) k

theorem ascending_run (plan : Distinct) (rows : InstantVector) :
    AscendingOn plan.valueOf (plan.run rows) :=
  (strict_run plan rows).imp le_of_lt

/-- Rows that were kept are kept again. -/
theorem run_run (plan : Distinct) (rows : InstantVector) :
    plan.run (plan.run rows) = plan.run rows := by
  refine eq_of_ascending _ (ascending_run plan _) (ascending_run plan _) fun k => ?_
  rw [filter_run, filter_run, newest?_toList]

theorem run_eq_of_perm (plan : Distinct) {rows rows' : InstantVector} (hperm : rows'.Perm rows)
    (hdistinct : rows.Pairwise fun a b =>
      ¬(plan.valueOf a = plan.valueOf b ∧ a.sample.time = b.sample.time)) :
    plan.run rows' = plan.run rows := by
  refine eq_of_ascending _ (ascending_run plan _) (ascending_run plan _) fun k => ?_
  -- Rows of one value differ in their times.
  have htimes : ((rows.filter fun row => plan.valueOf row = k).map
      fun row => row.sample.time).Nodup := by
    refine List.pairwise_map.mpr (List.pairwise_filter.mpr (hdistinct.imp ?_))
    intro a b hab ha hb htime
    exact hab ⟨(of_decide_eq_true ha).trans (of_decide_eq_true hb).symm, htime⟩
  rw [filter_run, filter_run, newest?_eq_of_perm (hperm.symm.filter _) htimes]

/-! ## §4 Calls -/

/-- A row is the first of the newest rows that have its value of a label. -/
def IsNewest (key : String) (rows : InstantVector) (row : Row) : Prop :=
  IsFirstGreatest (fun other : Row => other.sample.time)
    (rows.filter fun other => other.labels.value key = row.labels.value key) row

theorem isNewest_of_mem_run (plan : Distinct) {rows : InstantVector} {row : Row}
    (h : row ∈ plan.run rows) : IsNewest plan.key rows row := by
  have hmem : row ∈ (plan.run rows).filter fun other =>
      plan.valueOf other = plan.valueOf row :=
    List.mem_filter.mpr ⟨h, decide_eq_true rfl⟩
  rw [filter_run, Option.mem_toList] at hmem
  exact isFirstGreatest_newest? hmem

/-- Of each value that occurs one row is kept. -/
theorem exists_filter_run (plan : Distinct) {rows : InstantVector} {row : Row} (h : row ∈ rows) :
    ∃ kept, (plan.run rows).filter (fun other =>
      plan.valueOf other = plan.valueOf row) = [kept] := by
  have hmem : row ∈ rows.filter fun other =>
      plan.valueOf other = plan.valueOf row :=
    List.mem_filter.mpr ⟨h, decide_eq_true rfl⟩
  obtain ⟨kept, hkept⟩ := exists_newest? (List.ne_nil_of_mem hmem)
  exact ⟨kept, by rw [filter_run, hkept, Option.toList_some]⟩

theorem call_eq_run {key : String} (hkey : Text.isLabelName key = true) (time : Int)
    (rows : InstantVector) :
    Builtin.distinct.call time [.vector rows, .text key] = .ok (.vector (run ⟨key⟩ rows)) := by
  have hrows : Builtin.distinct.rows time [.vector rows, .text key] =
      (do return (← ofName "distinct" key).run rows) := rfl
  rw [Builtin.call, hrows, ofName, Parameters.checkName_of_isLabelName _ hkey]
  rfl

/-- **One newest row of each value**: the function on a vector and a label name keeps, in strictly
    ascending order of their bytes, exactly one row of each value that the label has, the empty
    value included.  It is the newest of the rows with that value, and the first of them if there
    are several.  So the rows that were kept are kept again, and the vector may be given in any
    order if no two of its rows have both the same value and the same time. -/
theorem call_keeps_newest (time : Int) {key : String} (hkey : Text.isLabelName key = true)
    (rows : InstantVector) :
    let call (rows : InstantVector) : Except Fault Value :=
      Builtin.distinct.call time [.vector rows, .text key]
    ∃ kept : InstantVector, call rows = .ok (.vector kept) ∧
      kept.Pairwise (fun a b =>
        Text.utf8Bytes (a.labels.value key) < Text.utf8Bytes (b.labels.value key)) ∧
      (∀ row ∈ rows, ∃ found,
        kept.filter (fun other => other.labels.value key = row.labels.value key) = [found]) ∧
      (∀ row ∈ kept, IsNewest key rows row) ∧
      call kept = .ok (.vector kept) ∧
      ∀ rows' : InstantVector, rows'.Perm rows →
        rows.Pairwise (fun a b =>
          ¬(a.labels.value key = b.labels.value key ∧ a.sample.time = b.sample.time)) →
        call rows' = .ok (.vector kept) := by
  intro call
  have hcall : ∀ rows, call rows = .ok (.vector (run ⟨key⟩ rows)) := call_eq_run hkey time
  refine ⟨run ⟨key⟩ rows, hcall rows, ?_, ?_, ?_, ?_, ?_⟩
  · exact (strict_run ⟨key⟩ rows).imp Text.utf8Bytes_lt
  · exact fun row hrow => exists_filter_run ⟨key⟩ hrow
  · exact fun row hrow => isNewest_of_mem_run ⟨key⟩ hrow
  · rw [hcall, run_run]
  · intro rows' hperm hdistinct
    rw [hcall, run_eq_of_perm ⟨key⟩ hperm hdistinct]

/-- A row of a pod. -/
def podRow (pod : String) (time : Int) (x : Float) : Row := ⟨.singleton "pod" pod, ⟨time, x⟩⟩

@[simp] theorem value_podRow (pod : String) (time : Int) (x : Float) :
    (podRow pod time x).labels.value "pod" = pod := by
  simp [podRow, Labels.value]

@[simp] theorem time_podRow (pod : String) (time : Int) (x : Float) :
    (podRow pod time x).sample.time = time := rfl

/-- Rows of two pods, of which one has two rows of the same time, and a row without a pod. -/
def podRows : InstantVector :=
  [podRow "b" 10 1, podRow "a" 10 2, podRow "b" 30 3, podRow "a" 10 4, ⟨.empty, ⟨5, 6⟩⟩]

/-- The newest of these rows. -/
def newestPodRows : InstantVector := [⟨.empty, ⟨5, 6⟩⟩, podRow "a" 10 2, podRow "b" 30 3]

theorem call_keeps_newest_of_pods :
    let call (rows : InstantVector) : Except Fault Value :=
      Builtin.distinct.call 0 [.vector rows, .text "pod"]
    (Text.isLabelName "pod" = true ∧ newestPodRows.reverse.Perm newestPodRows ∧
      newestPodRows.Pairwise fun a b =>
        ¬(a.labels.value "pod" = b.labels.value "pod" ∧ a.sample.time = b.sample.time)) ∧
    call podRows = .ok (.vector newestPodRows) ∧
    (∀ row ∈ newestPodRows, IsNewest "pod" podRows row) ∧
    call newestPodRows = .ok (.vector newestPodRows) ∧
    call newestPodRows.reverse = .ok (.vector newestPodRows) := by
  intro call
  have hkey : Text.isLabelName "pod" = true := by decide
  have hperm : newestPodRows.reverse.Perm newestPodRows := List.reverse_perm _
  have hdistinct : newestPodRows.Pairwise fun a b =>
      ¬(a.labels.value "pod" = b.labels.value "pod" ∧ a.sample.time = b.sample.time) := by
    simp [newestPodRows, podRow]
  have hrun : run ⟨"pod"⟩ podRows = newestPodRows := by
    have hempty : Labels.value .empty "pod" = "" := rfl
    have horder : ¬ "b" ≤ "a" ∧ ¬ "a" ≤ "" ∧ "a" ≤ "b" := by decide
    simp [run, podRows, newestPodRows, sortByLabel, List.mergeSort, compress, hempty, horder]
  have hrows : Builtin.distinct.call 0 [.vector podRows, .text "pod"] =
      .ok (.vector newestPodRows) := by
    rw [call_eq_run hkey, hrun]
  obtain ⟨found, hfound, -, -, hnewest, hagain, -⟩ := call_keeps_newest 0 hkey podRows
  obtain rfl : newestPodRows = found := by simpa using hrows.symm.trans hfound
  obtain ⟨found', hfound', -, -, -, -, horder⟩ := call_keeps_newest 0 hkey newestPodRows
  obtain rfl : newestPodRows = found' := by simpa using hagain.symm.trans hfound'
  exact ⟨⟨hkey, hperm, hdistinct⟩, hrows, hnewest, hagain, horder _ hperm hdistinct⟩

end LabeledSeries.Distinct
