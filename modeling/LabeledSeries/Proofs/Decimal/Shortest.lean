import LabeledSeries.Proofs.Decimal.Rounding

/-!
# Shortest decimals

The search for the shortest decimal of a double goes from coarse powers of ten to fine ones and
takes the nearest multiple that rounds to the double.

§1 One power of ten.  All comparisons are made on numbers scaled to a common denominator, and are
those of the numbers themselves.

§2 The search.  It ends, as the last power is finer than half of every step; what it finds rounds to
the double (`shortest_covers`), and no coarser power has a multiple that does
(`le_exponent_of_covers`).
-/

namespace LabeledSeries.Decimal

/-- The number of a decimal. -/
def Scientific.value (d : Scientific) : ℚ := d.coefficient * 10 ^ d.exponent

/-! ## §1 Multiples of a power of ten -/

/-- A multiple in quarters of a step, as a quotient of natural numbers. -/
theorem quarters_eq_div (exponent power : ℤ) (d : ℕ) :
    (d * 10 ^ power / 2 ^ (exponent - 2) : ℚ) =
      (d * (Nat.pow 2 (2 - exponent).toNat * Nat.pow 10 power.toNat) : ℕ) /
        (Nat.pow 2 (exponent - 2).toNat * Nat.pow 10 (-power).toNat : ℕ) := by
  rw [zpow_eq_div 2, zpow_eq_div 10, neg_sub]
  simp only [Nat.pow_eq]
  push_cast
  field_simp

theorem scale_pos (exponent power : ℤ) :
    (0 : ℚ) < (Nat.pow 2 (exponent - 2).toNat * Nat.pow 10 (-power).toNat : ℕ) := by
  simp only [Nat.pow_eq]
  positivity

open Classical in
/-- Scaled to a common denominator, the ends and a multiple are compared as they are. -/
theorem holds_eq_decide (interval : Interval) (exponent power : ℤ) (d : ℕ) :
    Interval.holds interval.ends
        (interval.low * Nat.pow 2 (exponent - 2).toNat * Nat.pow 10 (-power).toNat)
        (interval.high * Nat.pow 2 (exponent - 2).toNat * Nat.pow 10 (-power).toNat)
        (d * (Nat.pow 2 (2 - exponent).toNat * Nat.pow 10 power.toNat)) =
      decide (interval.Covers exponent (d * 10 ^ power)) := by
  have hscale := scale_pos exponent power
  rw [Bool.eq_iff_iff, decide_eq_true_iff]
  unfold Interval.Covers Interval.holds
  simp only [quarters_eq_div, le_div_iff₀ hscale, lt_div_iff₀ hscale, div_le_iff₀ hscale,
    div_lt_iff₀ hscale, ← Nat.cast_mul, Nat.cast_le, Nat.cast_lt, mul_assoc]
  split_ifs <;> simp only [decide_eq_true_eq]

theorem Tie.choose_eq (tie : Tie) (below : ℕ) :
    tie.choose below = below ∨ tie.choose below = below + 1 := by
  cases tie with
  | upper => exact .inr rfl
  | even =>
    simp only [choose]
    omega

/-- The centre stands between two neighbouring multiples.  One of them is found if it rounds to the
    double; otherwise neither does. -/
theorem nearestMultiple_spec (tie : Tie) (interval : Interval) (exponent power : ℤ) :
    ∃ below : ℕ, (below * 10 ^ power / 2 ^ (exponent - 2) : ℚ) ≤ interval.centre ∧
      (interval.centre : ℚ) < (below + 1 : ℕ) * 10 ^ power / 2 ^ (exponent - 2) ∧
      match nearestMultiple tie interval exponent power with
      | some d => interval.Covers exponent (d * 10 ^ power)
      | none => ¬interval.Covers exponent (below * 10 ^ power) ∧
          ¬interval.Covers exponent ((below + 1 : ℕ) * 10 ^ power) := by
  have hscale := scale_pos exponent power
  have hunit : 0 < Nat.pow 2 (2 - exponent).toNat * Nat.pow 10 power.toNat :=
    Nat.mul_pos (Nat.pow_pos (by decide)) (Nat.pow_pos (by decide))
  unfold nearestMultiple
  simp only [quarters_eq_div, div_le_iff₀ hscale, lt_div_iff₀ hscale, ← Nat.cast_mul, Nat.cast_le,
    Nat.cast_lt, holds_eq_decide, ← mul_assoc interval.centre]
  refine ⟨_, Nat.div_mul_le_self _ (Nat.pow 2 (2 - exponent).toNat * Nat.pow 10 power.toNat),
    Nat.lt_mul_of_div_lt (Nat.lt_succ_self _) hunit, ?_⟩
  generalize interval.centre * _ * _ / _ = below
  by_cases hbelow : interval.Covers exponent (below * 10 ^ power) <;>
    by_cases habove : interval.Covers exponent ((below + 1 : ℕ) * 10 ^ power) <;>
    simp only [hbelow, habove, decide_true, decide_false, not_false_eq_true, and_self]
  -- Of two multiples that round to the double, the nearer one or the one that the tie chooses.
  split_ifs with hnearer hfarther
  · exact hbelow
  · exact habove
  · rcases tie.choose_eq below with h | h <;> rw [h] <;> assumption

/-! ## §2 The shortest decimal -/

section RoundingInterval

variable {mantissa : ℕ} {exponent : ℤ}

theorem roundingInterval_low_lt (hpos : 0 < mantissa) :
    (roundingInterval mantissa exponent).low < (roundingInterval mantissa exponent).centre := by
  unfold roundingInterval
  dsimp only
  split_ifs <;> omega

theorem roundingInterval_high :
    ((roundingInterval mantissa exponent).high : ℚ) =
      (roundingInterval mantissa exponent).centre + 2 := by
  simp [roundingInterval]

/-- The numbers above a double, less than half a step away, round to it. -/
theorem covers_of_above {x : ℚ} (hpos : 0 < mantissa)
    (hlow : ((roundingInterval mantissa exponent).centre : ℚ) ≤ x / 2 ^ (exponent - 2))
    (hhigh : x / 2 ^ (exponent - 2) < (roundingInterval mantissa exponent).centre + 2) :
    (roundingInterval mantissa exponent).Covers exponent x := by
  have hlow := (Nat.cast_lt.mpr (roundingInterval_low_lt hpos)).trans_le hlow
  rw [← roundingInterval_high] at hhigh
  unfold Interval.Covers
  dsimp only
  split_ifs
  · exact ⟨hlow.le, hhigh.le⟩
  · exact ⟨hlow, hhigh⟩

/-- The numbers between a double and one that rounds to it round to it as well. -/
theorem covers_of_between {x y : ℚ} (hpos : 0 < mantissa)
    (hx : (roundingInterval mantissa exponent).Covers exponent x)
    (h : x ≤ y ∧ y / 2 ^ (exponent - 2) ≤ (roundingInterval mantissa exponent).centre ∨
      y ≤ x ∧ (roundingInterval mantissa exponent).centre ≤ y / 2 ^ (exponent - 2)) :
    (roundingInterval mantissa exponent).Covers exponent y := by
  have hlow : ((roundingInterval mantissa exponent).low : ℚ) <
      (roundingInterval mantissa exponent).centre :=
    Nat.cast_lt.mpr (roundingInterval_low_lt hpos)
  have hhigh : ((roundingInterval mantissa exponent).high : ℚ) =
      (roundingInterval mantissa exponent).centre + 2 := roundingInterval_high
  have hscale : (0 : ℚ) ≤ 2 ^ (exponent - 2) := by positivity
  unfold Interval.Covers at *
  dsimp only at *
  rcases h with ⟨hle, hcentre⟩ | ⟨hle, hcentre⟩
  · have hle := div_le_div_of_nonneg_right hle hscale
    split_ifs at * <;> constructor <;> linarith
  · have hle := div_le_div_of_nonneg_right hle hscale
    split_ifs at * <;> constructor <;> linarith

/-- Where no multiple is found there is none that rounds to the double. -/
theorem not_covers_of_nearestMultiple_eq_none {tie : Tie} {power : ℤ} (hpos : 0 < mantissa)
    (h : nearestMultiple tie (roundingInterval mantissa exponent) exponent power = none) (d : ℕ) :
    ¬(roundingInterval mantissa exponent).Covers exponent (d * 10 ^ power) := by
  obtain ⟨below, hlow, hhigh, hmultiple⟩ :=
    nearestMultiple_spec tie (roundingInterval mantissa exponent) exponent power
  rw [h] at hmultiple
  intro hcovers
  -- One of the neighbours of the centre stands between the centre and any multiple.
  rcases Nat.lt_or_ge below d with habove | hbelow
  · refine hmultiple.2 (covers_of_between hpos hcovers (.inr ⟨?_, hhigh.le⟩))
    gcongr
    exact habove
  · refine hmultiple.1 (covers_of_between hpos hcovers (.inl ⟨?_, hlow⟩))
    gcongr

/-- A power of ten below half a step has a multiple that rounds to the double. -/
theorem nearestMultiple_ne_none (tie : Tie) {power : ℤ} (hpos : 0 < mantissa)
    (h : (10 : ℚ) ^ power < 2 ^ (exponent - 1)) :
    nearestMultiple tie (roundingInterval mantissa exponent) exponent power ≠ none := by
  intro hnone
  obtain ⟨below, hlow, hhigh, hmultiple⟩ :=
    nearestMultiple_spec tie (roundingInterval mantissa exponent) exponent power
  rw [hnone] at hmultiple
  refine hmultiple.2 (covers_of_above hpos hhigh.le ?_)
  have hunit : (10 ^ power / 2 ^ (exponent - 2) : ℚ) < 2 := by
    rw [div_lt_iff₀ (by positivity)]
    calc (10 : ℚ) ^ power < 2 ^ (exponent - 2 + 1) := by
          rwa [show exponent - 2 + 1 = exponent - 1 by ring]
      _ = 2 * 2 ^ (exponent - 2) := by rw [zpow_add_one₀ two_ne_zero, mul_comm]
  calc ((below + 1 : ℕ) * 10 ^ power / 2 ^ (exponent - 2) : ℚ)
      = below * 10 ^ power / 2 ^ (exponent - 2) + 10 ^ power / 2 ^ (exponent - 2) := by
        push_cast
        ring
    _ < (roundingInterval mantissa exponent).centre + 2 := add_lt_add_of_le_of_lt hlow hunit

/-- Where one of the powers that are tried has a multiple, the decimal that is found rounds to the
    double, and no coarser power has one. -/
theorem coarsest_spec (tie : Tie) (interval : Interval) (exponent : ℤ) (fuel : ℕ) (power : ℤ)
    (h : ∃ k < fuel, nearestMultiple tie interval exponent (power - k) ≠ none) :
    interval.Covers exponent (coarsest tie interval exponent fuel power).value ∧
      ∀ p ≤ power, (coarsest tie interval exponent fuel power).exponent < p →
        nearestMultiple tie interval exponent p = none := by
  -- On the way down to the power that is found every coarser one was tried.
  induction fuel generalizing power with
  | zero => simp at h
  | succ fuel ih =>
    obtain ⟨below, -, -, hmultiple⟩ := nearestMultiple_spec tie interval exponent power
    unfold coarsest
    cases hfound : nearestMultiple tie interval exponent power with
    | some d =>
      rw [hfound] at hmultiple
      exact ⟨hmultiple, fun p hle hlt => absurd hle (not_le.mpr hlt)⟩
    | none =>
      obtain ⟨k, hk, hne⟩ := h
      cases k with
      | zero => exact absurd hfound (by simpa using hne)
      | succ k =>
        obtain ⟨hcovers, hcoarser⟩ := ih (power - 1) ⟨k, by omega, by
          rwa [show power - 1 - (k : ℤ) = power - (k + 1 : ℕ) by push_cast; ring]⟩
        refine ⟨hcovers, fun p hle hlt => ?_⟩
        rcases hle.lt_or_eq with hless | rfl
        · exact hcoarser p (by omega) hlt
        · exact hfound

/-- The last power of ten that is tried is finer than half of the smallest double. -/
theorem ten_zpow_lt_half_minimum : (10 : ℚ) ^ (-340 : ℤ) < 2 ^ (-1075 : ℤ) := by
  have hpowers : 2 ^ 1075 < 10 ^ 340 := by decide +kernel
  rw [show (-340 : ℤ) = -(340 : ℕ) from rfl, show (-1075 : ℤ) = -(1075 : ℕ) from rfl,
    zpow_neg, zpow_neg, zpow_natCast, zpow_natCast, inv_lt_inv₀ (by positivity) (by positivity)]
  exact_mod_cast hpowers

/-- One of the powers that are tried has a multiple. -/
theorem exists_nearestMultiple (tie : Tie) (hpos : 0 < mantissa) (hleast : minExponent ≤ exponent) :
    ∃ k < powerSpan,
      nearestMultiple tie (roundingInterval mantissa exponent) exponent (309 - (k : ℤ)) ≠ none := by
  refine ⟨649, by decide, nearestMultiple_ne_none tie hpos ?_⟩
  calc (10 : ℚ) ^ (309 - (649 : ℕ) : ℤ) = 10 ^ (-340 : ℤ) := rfl
    _ < 2 ^ (-1075 : ℤ) := ten_zpow_lt_half_minimum
    _ ≤ 2 ^ (exponent - 1) := by
        refine zpow_le_zpow_right₀ one_le_two ?_
        unfold minExponent at hleast
        omega

/-- **Shortest decimals round to their doubles**. -/
theorem shortest_covers (tie : Tie) (hpos : 0 < mantissa) (hleast : minExponent ≤ exponent) :
    (roundingInterval mantissa exponent).Covers exponent
      (shortest tie mantissa exponent).value := by
  rw [shortest, if_neg hpos.ne']
  exact (coarsest_spec _ _ _ _ _ (exists_nearestMultiple tie hpos hleast)).1

theorem coefficient_pos_of_covers {d : ℕ} {power : ℤ} (hdouble : IsDouble mantissa exponent)
    (hpos : 0 < mantissa)
    (h : (roundingInterval mantissa exponent).Covers exponent (d * 10 ^ power)) : 0 < d := by
  have hsmallest := (range_of_covers hdouble hpos h).1
  by_contra hzero
  obtain rfl : d = 0 := by omega
  rw [Nat.cast_zero, zero_mul] at hsmallest
  exact absurd hsmallest (not_le.mpr (by positivity))

/-- **Shortest decimals are shortest**: no multiple of a coarser power of ten rounds to the
    double. -/
theorem le_exponent_of_covers (tie : Tie) {d : ℕ} {power : ℤ} (hdouble : IsDouble mantissa exponent)
    (hpos : 0 < mantissa)
    (h : (roundingInterval mantissa exponent).Covers exponent (d * 10 ^ power)) :
    power ≤ (shortest tie mantissa exponent).exponent := by
  rw [shortest, if_neg hpos.ne']
  have hcoarser := (coarsest_spec _ _ _ _ _ (exists_nearestMultiple tie hpos hdouble.least)).2
  by_contra hlt
  rcases le_or_gt power 309 with hle | hgt
  · exact not_covers_of_nearestMultiple_eq_none hpos (hcoarser power hle (not_le.mp hlt)) d h
  · -- Beyond the first power that is tried are no doubles.
    have hlargest := (range_of_covers hdouble hpos h).2
    have hd := coefficient_pos_of_covers hdouble hpos h
    have hpowers : (2 : ℚ) ^ (1024 : ℤ) ≤ 10 ^ (309 : ℤ) := by
      exact_mod_cast (by decide +kernel : 2 ^ 1024 ≤ 10 ^ 309)
    refine absurd (hpowers.trans ?_) (not_le.mpr hlargest)
    calc (10 : ℚ) ^ (309 : ℤ) ≤ 10 ^ power := zpow_le_zpow_right₀ (by norm_num) hgt.le
      _ ≤ d * 10 ^ power := le_mul_of_one_le_left (by positivity) (by exact_mod_cast hd)

end RoundingInterval

end LabeledSeries.Decimal
