import LabeledSeries.Call.Builtin
import LabeledSeries.Proofs.DoubleOrder
import LabeledSeries.Proofs.FirstGreatest
import Mathlib

/-!
# The sample that a series is reduced to

Reducing a series compares its values as doubles, which is no order: what is no number compares with
nothing, and the two zeros are equal.  The walk over the samples answers each case by a branch of
its own.  All branches together are one comparison, by the *merit* of a sample: none for what is no
number, otherwise the rank of its value toward the end looked for, then its time, the earlier the
better (`Extreme.better_eq`).  So the sample that is picked is the first of those with the greatest
merit, and what that says of values and times is `Extreme.Picks`.

- `Extreme.picks_of_pick` — the sample at one end of a series
- `Extreme.pick_eq_of_perm` — where no two samples are of the same time it is the same in any order
- `latest_of_total` — the time of a sum
- `reductions_pick_samples` — all of this for the functions on a matrix
-/

namespace LabeledSeries

namespace Extreme

/-! ## §1 Comparing toward one end -/

/-- Whether a value lies at least as far toward the end looked for as another one. -/
def Reaches : Extreme → Float → Float → Prop
  | .largest, x, y => y ≤ x
  | .smallest, x, y => x ≤ y

/-- The rank of a value toward the end looked for, if it is a number. -/
def height? : Extreme → Float → Option Double.Rank
  | .largest, x => Double.rank? x
  | .smallest, x => (Double.rank? x).map (- ·)

variable {extreme : Extreme} {x y : Float} {a b : Double.Rank}

theorem isNaN_iff : x.isNaN = true ↔ extreme.height? x = none := by
  rw [Double.isNaN_iff]
  cases extreme <;> simp [height?]

theorem isNaN_eq_false_iff : x.isNaN = false ↔ ∃ a, extreme.height? x = some a := by
  have hisNaN : x.isNaN = true ↔ extreme.height? x = none := isNaN_iff
  rw [← Bool.not_eq_true, hisNaN, ← Option.isSome_iff_exists, Option.isSome_iff_ne_none]

theorem height?_smallest_eq_some_iff :
    Extreme.smallest.height? x = some a ↔ Double.rank? x = some (-a) := by
  simp [height?, neg_eq_iff_eq_neg]

section Numbers

variable (hx : extreme.height? x = some a) (hy : extreme.height? y = some b)
include hx hy

theorem beats_iff : extreme.beats x y = true ↔ b < a := by
  cases extreme with
  | largest =>
    simp only [height?] at hx hy
    simp [beats, Double.lt_iff, hx, hy]
  | smallest =>
    -- Toward this end ranks are negated, so both sides of the comparison turn around.
    rw [height?_smallest_eq_some_iff] at hx hy
    simp [beats, Double.lt_iff, hx, hy]

theorem reaches_iff : extreme.Reaches x y ↔ b ≤ a := by
  cases extreme with
  | largest =>
    simp only [height?] at hx hy
    simp [Reaches, Double.le_iff, hx, hy]
  | smallest =>
    -- As for a strict comparison, the negated ranks turn it around.
    rw [height?_smallest_eq_some_iff] at hx hy
    simp [Reaches, Double.le_iff, hx, hy]

end Numbers

theorem beq_iff (hy : extreme.height? y = some b) :
    (x == y) = true ↔ extreme.height? x = some b := by
  cases extreme with
  | largest =>
    simp only [height?] at hy ⊢
    simp [Double.beq_iff, hy]
  | smallest =>
    rw [height?_smallest_eq_some_iff] at hy ⊢
    simp [Double.beq_iff, hy]

/-! ## §2 The merit of a sample -/

/-- What a sample is preferred by: nothing if it is no number, otherwise its value toward the end
    looked for, then its time. -/
def merit (extreme : Extreme) (sample : Sample) : WithBot (Double.Rank ×ₗ ℤ) :=
  (extreme.height? sample.value).map fun height => toLex (height, -sample.time)

theorem merit_of_isNaN {sample : Sample} (h : sample.value.isNaN = true) :
    extreme.merit sample = ⊥ := by
  rw [merit, isNaN_iff.mp h]
  rfl

theorem merit_of_height {sample : Sample} (h : extreme.height? sample.value = some a) :
    extreme.merit sample = (toLex (a, -sample.time) : Double.Rank ×ₗ ℤ) := by
  rw [merit, h]
  rfl

/-- Numbers of equal merit are of the same time. -/
theorem time_eq_of_merit_eq {s other : Sample} (ha : extreme.height? s.value = some a)
    (h : extreme.merit other = extreme.merit s) : other.time = s.time := by
  -- What is no number has no merit at all, so the other sample is a number with a time.
  rw [merit_of_height ha] at h
  cases hb : extreme.height? other.value with
  | none =>
    rw [merit_of_isNaN (isNaN_iff.mpr hb)] at h
    exact absurd h.symm WithBot.coe_ne_bot
  | some b =>
    rw [merit_of_height hb, WithBot.coe_inj, toLex_inj, Prod.mk.injEq, neg_inj] at h
    exact h.2

/-- **One comparison for all branches**: the next sample is taken if its merit is greater. -/
theorem better_eq (best next : Sample) : extreme.better best next =
    if extreme.merit best < extreme.merit next then next else best := by
  -- The branches go by which of the two values are numbers, then by how the numbers compare.
  cases hnext : extreme.height? next.value with
  | none =>
    -- What is no number is never taken.
    have hisNaN : next.value.isNaN = true := isNaN_iff.mpr hnext
    rw [better, if_pos hisNaN, merit_of_isNaN hisNaN, if_neg not_lt_bot]
  | some a =>
    have hnumber : next.value.isNaN = false := isNaN_eq_false_iff.mpr ⟨a, hnext⟩
    rw [better, if_neg (ne_true_of_eq_false hnumber), merit_of_height hnext]
    cases hbest : extreme.height? best.value with
    | none =>
      -- Any number is taken over what is none.
      have hisNaN : best.value.isNaN = true := isNaN_iff.mpr hbest
      rw [if_pos hisNaN, merit_of_isNaN hisNaN, if_pos (WithBot.bot_lt_coe _)]
    | some b =>
      have hnumber : best.value.isNaN = false := isNaN_eq_false_iff.mpr ⟨b, hbest⟩
      rw [if_neg (ne_true_of_eq_false hnumber), merit_of_height hbest]
      -- Between numbers the ranks decide, and where they are equal the times.
      simp only [beats_iff hnext hbest, beats_iff hbest hnext, WithBot.coe_lt_coe,
        Prod.Lex.toLex_lt_toLex, neg_lt_neg_iff]
      rcases lt_trichotomy a b with hlt | rfl | hgt
      · simp [hlt, hlt.not_gt, hlt.ne']
      · simp
      · simp [hgt]

theorem isFirstGreatest_pick {samples : List Sample} {picked : Sample}
    (h : extreme.pick samples = some picked) : IsFirstGreatest extreme.merit samples picked := by
  cases samples with
  | nil => cases h
  -- The walk over the samples is a fold of that comparison.
  | cons first rest =>
    cases h
    exact isFirstGreatest_foldl better_eq first rest

/-! ## §3 The sample at one end of a series -/

/-- A sample that no number lies beyond, the earliest of the samples with an equal value, and the
    first of those that are as early. -/
structure IsEarliestEnd (extreme : Extreme) (samples : List Sample) (picked : Sample) : Prop where
  reaches : ∀ other ∈ samples, other.value.isNaN = false →
    extreme.Reaches picked.value other.value
  earliest : ∀ other ∈ samples, (other.value == picked.value) = true → picked.time ≤ other.time
  first : ∃ before after, samples = before ++ picked :: after ∧
    ∀ other ∈ before, (other.value == picked.value) = true → other.time ≠ picked.time

/-- A series with numbers gives the earliest sample at its end, a series without any its first
    sample. -/
structure Picks (extreme : Extreme) (samples : List Sample) (picked : Sample) : Prop where
  ofNumbers : (∃ s ∈ samples, s.value.isNaN = false) → extreme.IsEarliestEnd samples picked
  ofNone : (∀ s ∈ samples, s.value.isNaN = true) → samples.head? = some picked

variable {samples samples' : List Sample} {picked : Sample}

/-- Where a sample is a number, so is the one that is picked. -/
theorem exists_height_of_isFirstGreatest (h : IsFirstGreatest extreme.merit samples picked)
    (hnumber : ∃ s ∈ samples, s.value.isNaN = false) :
    ∃ a, extreme.height? picked.value = some a := by
  obtain ⟨s, hs, hvalue⟩ := hnumber
  obtain ⟨b, hb⟩ := isNaN_eq_false_iff.mp hvalue
  have hle := h.key_le hs
  rw [merit_of_height hb] at hle
  -- No sample has less merit than a number, except for what is no number.
  refine isNaN_eq_false_iff.mp (Bool.not_eq_true _ ▸ fun hisNaN => ?_)
  rw [merit_of_isNaN hisNaN] at hle
  exact WithBot.coe_ne_bot (le_bot_iff.mp hle)

theorem isEarliestEnd_of_isFirstGreatest (h : IsFirstGreatest extreme.merit samples picked)
    (ha : extreme.height? picked.value = some a) : extreme.IsEarliestEnd samples picked where
  reaches other hother hnumber := by
    obtain ⟨b, hb⟩ := isNaN_eq_false_iff.mp hnumber
    -- Merits are compared by rank first, so the greatest merit has the greatest rank.
    have hle := h.key_le hother
    rw [merit_of_height ha, merit_of_height hb, WithBot.coe_le_coe] at hle
    exact (reaches_iff ha hb).mpr (Prod.Lex.monotone_fst _ _ hle)
  earliest other hother hequal := by
    -- Equal values are of the same rank, so the times decide.
    have hle := h.key_le hother
    rw [merit_of_height ha, merit_of_height ((beq_iff ha).mp hequal), WithBot.coe_le_coe,
      Prod.Lex.toLex_le_toLex] at hle
    simpa using hle
  first := by
    obtain ⟨before, after, hsamples, hbefore, -⟩ := h
    refine ⟨before, after, hsamples, fun other hother hequal htime => ?_⟩
    -- In front of the first greatest sample merits are less, and this one would be as great.
    have hlt := hbefore other hother
    rw [merit_of_height ha, merit_of_height ((beq_iff ha).mp hequal), htime] at hlt
    exact hlt.ne rfl

/-- **The sample at one end of a series**. -/
theorem picks_of_pick (h : extreme.pick samples = some picked) :
    extreme.Picks samples picked where
  ofNumbers hnumber :=
    have hgreatest := isFirstGreatest_pick h
    have ⟨_, ha⟩ := exists_height_of_isFirstGreatest hgreatest hnumber
    isEarliestEnd_of_isFirstGreatest hgreatest ha
  ofNone hall := by
    -- Without numbers all merits are the same, so nothing may come before what is picked.
    obtain ⟨before, after, rfl, hbefore, -⟩ := isFirstGreatest_pick h
    cases before with
    | nil => rfl
    | cons first before =>
      have hlt := hbefore first (List.mem_cons_self ..)
      rw [merit_of_isNaN (hall picked (by simp))] at hlt
      exact absurd hlt not_lt_bot

theorem pick_eq_none_iff : extreme.pick samples = none ↔ samples = [] := by
  cases samples <;> simp [pick]

theorem exists_pick (extreme : Extreme) (h : samples ≠ []) :
    ∃ picked, extreme.pick samples = some picked :=
  Option.ne_none_iff_exists'.mp (mt pick_eq_none_iff.mp h)

/-- **The order does not matter** for samples of which one is a number and no two are of the same
    time. -/
theorem pick_eq_of_perm (hperm : samples'.Perm samples)
    (hnumber : ∃ s ∈ samples, s.value.isNaN = false) (htimes : (samples.map Sample.time).Nodup) :
    extreme.pick samples' = extreme.pick samples := by
  -- There is a sample, so something is picked in either order.
  obtain ⟨s, hs, -⟩ := id hnumber
  have hs' : s ∈ samples' := hperm.mem_iff.mpr hs
  obtain ⟨picked, hpicked⟩ := extreme.exists_pick (List.ne_nil_of_mem hs)
  obtain ⟨picked', hpicked'⟩ := extreme.exists_pick (List.ne_nil_of_mem hs')
  have hgreatest := isFirstGreatest_pick hpicked
  obtain ⟨a, ha⟩ := exists_height_of_isFirstGreatest hgreatest hnumber
  -- Of one merit there is only one sample, since it has a time of its own.
  have honly : ∀ other ∈ samples, extreme.merit other = extreme.merit picked → other = picked :=
    fun other hother hmerit => List.inj_on_of_nodup_map htimes hother hgreatest.mem
      (time_eq_of_merit_eq ha hmerit)
  rw [hpicked, hpicked', hgreatest.eq_of_perm (isFirstGreatest_pick hpicked') hperm.symm honly]

/-- The function that looks for one end of every series. -/
def function : Extreme → Builtin
  | .largest => .aggregateMatrixMax
  | .smallest => .aggregateMatrixMin

theorem call_function (extreme : Extreme) (time : Int) (matrix : RangeMatrix) :
    extreme.function.call time [.matrix matrix] = .ok (.vector (reduce extreme.pick matrix)) := by
  cases extreme <;> rfl

end Extreme

/-! ## §4 The time of a sum -/

/-- A time is the latest of the times in a series. -/
structure IsLatest (samples : List Sample) (time : Int) : Prop where
  occurs : ∃ s ∈ samples, s.time = time
  latest : ∀ s ∈ samples, s.time ≤ time

theorem isLatest_of_total {samples : List Sample} {sum : Sample} (h : total samples = some sum) :
    IsLatest samples sum.time := by
  cases samples with
  | nil => cases h
  | cons first rest =>
    cases h
    -- Along the fold the time is the greatest one so far, wherever it comes from.
    obtain ⟨latest, hlatest, htime⟩ := exists_isFirstGreatest_max Sample.time first rest
    exact ⟨⟨latest, hlatest.mem, htime⟩, fun s hs => (hlatest.key_le hs).trans_eq htime⟩

theorem total_eq_none_iff {samples : List Sample} : total samples = none ↔ samples = [] := by
  cases samples <;> simp [total]

theorem call_aggregateMatrixSum (time : Int) (matrix : RangeMatrix) :
    Builtin.aggregateMatrixSum.call time [.matrix matrix] = .ok (.vector (reduce total matrix)) :=
  rfl

/-! ## §5 Every series of a matrix -/

/-- One row for each series that has samples, in the order of the series, with its labels and a
    sample that it may be reduced to. -/
def OneRowEach (chosen : List Sample → Sample → Prop) (matrix : RangeMatrix)
    (rows : InstantVector) : Prop :=
  List.Forall₂ (fun series row => row.labels = series.labels ∧ chosen series.samples row.sample)
    (matrix.filter fun series => !series.samples.isEmpty) rows

theorem oneRowEach_reduce {choose : List Sample → Option Sample}
    {chosen : List Sample → Sample → Prop}
    (hnone : ∀ {samples}, choose samples = none ↔ samples = [])
    (hsome : ∀ {samples sample}, choose samples = some sample → chosen samples sample)
    (matrix : RangeMatrix) : OneRowEach chosen matrix (reduce choose matrix) := by
  -- Series without samples are left out of the rows, and of the series that have one.
  induction matrix with
  | nil => exact .nil
  | cons series matrix ih =>
    unfold OneRowEach reduce at ih ⊢
    cases hsample : choose series.samples with
    | none =>
      have hempty : series.samples = [] := hnone.mp hsample
      rw [hempty] at hsample
      simpa [hempty, hsample] using ih
    | some sample =>
      have hsamples : series.samples ≠ [] := fun hempty => by
        simp [hnone.mpr hempty] at hsample
      simpa [hsample, hsamples] using And.intro (hsome hsample) ih

/-- **What the functions on a matrix pick**: each gives one row for each series that has samples, in
    the order of the series and with their labels.  For the largest and the smallest value it is the
    sample of the series that no number lies beyond, the earliest of equal ones and the first of
    those that are as early; it is the first sample of a series in which nothing is a number.  For
    the sum it is of the latest time in the series.  The order of samples that differ in their times
    does not matter to the largest and the smallest value if one of the samples is a number. -/
theorem reductions_pick_samples (time : Int) (matrix : RangeMatrix) :
    (∀ extreme : Extreme, ∃ rows,
      extreme.function.call time [.matrix matrix] = .ok (.vector rows) ∧
      OneRowEach extreme.Picks matrix rows) ∧
    (∃ rows, Builtin.aggregateMatrixSum.call time [.matrix matrix] = .ok (.vector rows) ∧
      OneRowEach (fun samples sum => IsLatest samples sum.time) matrix rows) ∧
    ∀ (extreme : Extreme) (before : RangeMatrix) (series : Series) (after : RangeMatrix)
      (samples : List Sample), matrix = before ++ series :: after →
      samples.Perm series.samples → (∃ s ∈ series.samples, s.value.isNaN = false) →
      (series.samples.map Sample.time).Nodup →
      extreme.function.call time [.matrix (before ++ { series with samples } :: after)] =
        extreme.function.call time [.matrix matrix] := by
  refine ⟨fun extreme => ⟨_, extreme.call_function time matrix, ?_⟩,
    ⟨_, call_aggregateMatrixSum time matrix, ?_⟩, ?_⟩
  · exact oneRowEach_reduce Extreme.pick_eq_none_iff Extreme.picks_of_pick matrix
  · exact oneRowEach_reduce total_eq_none_iff isLatest_of_total matrix
  · rintro extreme before series after samples rfl hperm hnumber htimes
    -- The other series are the same, and this one is reduced to the same sample.
    have hpick : extreme.pick samples = extreme.pick series.samples :=
      Extreme.pick_eq_of_perm hperm hnumber htimes
    simp only [extreme.call_function, reduce, List.filterMap_append, List.filterMap_cons, hpick]

/-- A series of which two values are zero and one is no number. -/
def zeroSeries : Series :=
  ⟨.singleton "pod" "a", [⟨5, 0.0 / 0.0⟩, ⟨30, -0.0⟩, ⟨10, 0.0⟩, ⟨20, 1⟩], none⟩

/-- A series without samples and one in which nothing is a number. -/
def numberlessSeries : RangeMatrix :=
  [⟨.singleton "pod" "b", [], none⟩, ⟨.singleton "pod" "c", [⟨2, 0.0 / 0.0⟩, ⟨1, 0.0 / 0.0⟩], none⟩]

/-- The smallest samples of these series. -/
def smallestSamples : InstantVector :=
  [⟨.singleton "pod" "a", ⟨10, 0.0⟩⟩, ⟨.singleton "pod" "c", ⟨2, 0.0 / 0.0⟩⟩]

theorem reductions_pick_samples_of_zeros :
    let call (matrix : RangeMatrix) : Except Fault Value :=
      Builtin.aggregateMatrixMin.call 0 [.matrix matrix]
    ((∃ s ∈ zeroSeries.samples, s.value.isNaN = false) ∧
      (zeroSeries.samples.map Sample.time).Nodup) ∧
    call (zeroSeries :: numberlessSeries) = .ok (.vector smallestSamples) ∧
    OneRowEach Extreme.smallest.Picks (zeroSeries :: numberlessSeries) smallestSamples ∧
    call ({ zeroSeries with samples := zeroSeries.samples.reverse } :: numberlessSeries) =
      .ok (.vector smallestSamples) := by
  intro call
  have hnumber : ∃ s ∈ zeroSeries.samples, s.value.isNaN = false := by decide
  have htimes : (zeroSeries.samples.map Sample.time).Nodup := by decide
  have hcall : call (zeroSeries :: numberlessSeries) = .ok (.vector smallestSamples) := rfl
  obtain ⟨hpick, -, horder⟩ := reductions_pick_samples 0 (zeroSeries :: numberlessSeries)
  obtain ⟨rows, hrows, hpicks⟩ := hpick .smallest
  obtain rfl : smallestSamples = rows := by simpa using hcall.symm.trans hrows
  exact ⟨⟨hnumber, htimes⟩, hcall, hpicks, (horder .smallest [] zeroSeries numberlessSeries _ rfl
    (List.reverse_perm _) hnumber htimes).trans hcall⟩

end LabeledSeries
