import Mathlib
import LabeledSeries.Decimal.Shortest

/-!
# Rounding to doubles

A fraction is rounded to the nearest double by a division of natural numbers at the right step.
Here the steps, the ends and the halves between them are said in rational numbers, and every number
around a double is shown to be rounded to it.

§1 Rounding a quotient.  §2 The binade of a fraction.

§3 The numbers around a double are those of its rounding interval (`nearestBits_eq_magnitude`).
Below the least mantissa of a binade the step is half as wide, so that the interval is cut there.
-/

namespace LabeledSeries.Decimal

/-! ## §1 Rounding to natural numbers -/

/-- A number rounds to a natural number if it is less than a half away from it, or just a half and
    the natural number is even. -/
def RoundsTo (n : ℕ) (x : ℚ) : Prop :=
  (n - 1 / 2 < x ∧ x < n + 1 / 2) ∨ (n % 2 = 0 ∧ n - 1 / 2 ≤ x ∧ x ≤ n + 1 / 2)

theorem RoundsTo.within {n : ℕ} {x : ℚ} (h : RoundsTo n x) : n - 1 / 2 ≤ x ∧ x ≤ n + 1 / 2 := by
  rcases h with ⟨hlow, hhigh⟩ | ⟨-, h⟩
  · exact ⟨hlow.le, hhigh.le⟩
  · exact h

theorem roundHalfEven_eq {num den n : ℕ} (hden : 0 < den) (h : RoundsTo n (num / den)) :
    roundHalfEven num den = n := by
  have hpos : (0 : ℚ) < den := by exact_mod_cast hden
  -- The ends of the half steps, times twice the denominator.
  have hends : (2 * (n * den) < 2 * num + den ∧ 2 * num < 2 * (n * den) + den) ∨
      (n % 2 = 0 ∧ 2 * (n * den) ≤ 2 * num + den ∧ 2 * num ≤ 2 * (n * den) + den) := by
    rcases h with ⟨hlow, hhigh⟩ | ⟨heven, hlow, hhigh⟩
    · rw [lt_div_iff₀ hpos] at hlow
      rw [div_lt_iff₀ hpos] at hhigh
      refine .inl ⟨?_, ?_⟩
      · exact_mod_cast (by linarith : (2 * (n * den) : ℚ) < 2 * num + den)
      · exact_mod_cast (by linarith : (2 * num : ℚ) < 2 * (n * den) + den)
    · rw [le_div_iff₀ hpos] at hlow
      rw [div_le_iff₀ hpos] at hhigh
      refine .inr ⟨heven, ?_, ?_⟩
      · exact_mod_cast (by linarith : (2 * (n * den) : ℚ) ≤ 2 * num + den)
      · exact_mod_cast (by linarith : (2 * num : ℚ) ≤ 2 * (n * den) + den)
  have hdivision : num / den * den + num % den = num := Nat.div_add_mod' num den
  have hrest : num % den < den := Nat.mod_lt num hden
  -- So the natural number is the quotient, or the one above it.
  have hnear : n = num / den ∨ n = num / den + 1 := by
    rcases Nat.lt_or_ge n (num / den) with hlt | hge
    · have hmul : (n + 1) * den ≤ num / den * den := Nat.mul_le_mul_right den hlt
      rw [Nat.succ_mul] at hmul
      omega
    · by_contra hnot
      have hmul : (num / den + 2) * den ≤ n * den := Nat.mul_le_mul_right den (by omega)
      rw [Nat.add_mul] at hmul
      omega
  unfold roundHalfEven
  rcases hnear with rfl | rfl
  · dsimp only
    split_ifs <;> omega
  · rw [Nat.add_one_mul (num / den)] at hends
    dsimp only
    split_ifs <;> omega

/-! ## §2 The exponent of a fraction -/

/-- A power of two with any exponent, as a quotient of powers with natural ones. -/
theorem zpow_eq_div (b : ℚ) (k : ℤ) : b ^ k = b ^ k.toNat / b ^ (-k).toNat := by
  rcases Int.le_total 0 k with hk | hk
  · obtain ⟨n, rfl⟩ := Int.eq_ofNat_of_zero_le hk
    simp
  · obtain ⟨n, hn⟩ := Int.exists_eq_neg_ofNat hk
    subst hn
    simp

/-- In units of half the step, a number is twice as large. -/
theorem div_zpow_pred (x : ℚ) (exponent : ℤ) : x / 2 ^ (exponent - 1) = 2 * (x / 2 ^ exponent) := by
  rw [zpow_sub₀ two_ne_zero, div_div_eq_mul_div, mul_div_right_comm]
  ring

theorem fractionLog2_bounds {num den : ℕ} (hnum : 0 < num) (hden : 0 < den) :
    (2 : ℚ) ^ fractionLog2 num den ≤ num / den ∧
      (num / den : ℚ) < 2 ^ (fractionLog2 num den + 1) := by
  have hpos : (0 : ℚ) < den := by exact_mod_cast hden
  have hnumLow : (2 : ℚ) ^ num.log2 ≤ num := by exact_mod_cast Nat.log2_self_le hnum.ne'
  have hnumHigh : (num : ℚ) < 2 ^ (num.log2 + 1) := by exact_mod_cast Nat.lt_log2_self
  have hdenLow : (2 : ℚ) ^ den.log2 ≤ den := by exact_mod_cast Nat.log2_self_le hden.ne'
  have hdenHigh : (den : ℚ) < 2 ^ (den.log2 + 1) := by exact_mod_cast Nat.lt_log2_self
  -- The quotient of the powers is right, or one too large.
  have hlow : (2 : ℚ) ^ ((num.log2 : ℤ) - den.log2 - 1) ≤ num / den := by
    rw [sub_sub, zpow_sub₀ two_ne_zero]
    exact div_le_div₀ num.cast_nonneg hnumLow hpos (by exact_mod_cast hdenHigh.le)
  have hhigh : (num / den : ℚ) < 2 ^ ((num.log2 : ℤ) - den.log2 + 1) := by
    rw [sub_add_eq_add_sub, zpow_sub₀ two_ne_zero]
    exact div_lt_div₀ (by exact_mod_cast hnumHigh) hdenLow (by positivity) (by positivity)
  -- The comparison that is made is the one of the quotient with the power.
  have hcompare : den * Nat.pow 2 ((num.log2 : ℤ) - den.log2).toNat ≤
      num * Nat.pow 2 (-((num.log2 : ℤ) - den.log2)).toNat ↔
        (2 : ℚ) ^ ((num.log2 : ℤ) - den.log2) ≤ num / den := by
    rw [zpow_eq_div, div_le_div_iff₀ (by positivity) hpos, mul_comm ((2 : ℚ) ^ _) (den : ℚ)]
    exact_mod_cast Iff.rfl
  unfold fractionLog2
  dsimp only
  split_ifs with hle
  · exact ⟨hcompare.mp hle, hhigh⟩
  · refine ⟨hlow, ?_⟩
    rw [sub_add_cancel]
    exact not_le.mp (mt hcompare.mpr hle)

/-! ## §3 The nearest double -/

/-- A fraction is rounded at the step of its binade, or at the least step. -/
theorem nearestBits_of_binade {num den n : ℕ} {exponent : ℤ} (hnum : 0 < num) (hden : 0 < den)
    (hleast : minExponent ≤ exponent) (hhigh : (num / den : ℚ) < 2 ^ (exponent + 53))
    (hlow : exponent = minExponent ∨ (2 : ℚ) ^ (exponent + 52) ≤ num / den)
    (hn : RoundsTo n (num / den / 2 ^ exponent)) :
    nearestBits num den =
      min ((exponent - minExponent).toNat * Nat.pow 2 52 + n) infinityBits := by
  obtain ⟨hlogLow, hlogHigh⟩ := fractionLog2_bounds hnum hden
  have hle : fractionLog2 num den < exponent + 53 :=
    (zpow_lt_zpow_iff_right₀ one_lt_two).mp (hlogLow.trans_lt hhigh)
  -- The binade and the least exponent leave just this exponent.
  have hexponent : max (fractionLog2 num den - 52) minExponent = exponent := by
    rcases hlow with rfl | hlow
    · omega
    · have hge : exponent + 52 < fractionLog2 num den + 1 :=
        (zpow_lt_zpow_iff_right₀ (one_lt_two : (1 : ℚ) < 2)).mp (hlow.trans_lt hlogHigh)
      omega
  have hquotient :
      roundHalfEven (num * Nat.pow 2 (-exponent).toNat) (den * Nat.pow 2 exponent.toNat) = n := by
    refine roundHalfEven_eq (Nat.mul_pos hden (Nat.pow_pos (by decide))) ?_
    rwa [zpow_eq_div, div_div_div_eq, ← Nat.cast_ofNat, ← Nat.cast_pow, ← Nat.cast_pow,
      ← Nat.cast_mul, ← Nat.cast_mul] at hn
  rw [nearestBits, if_neg hnum.ne']
  simp only [hexponent, hquotient]

/-- A mantissa and an exponent that make a double: the mantissa has all of its places, or the
    exponent is the least one. -/
structure IsDouble (mantissa : ℕ) (exponent : ℤ) : Prop where
  lt : mantissa < 2 ^ 53
  least : minExponent ≤ exponent
  most : exponent ≤ 971
  full : 2 ^ 52 ≤ mantissa ∨ exponent = minExponent

/-- The pattern of the double of a mantissa and an exponent, without its sign. -/
def magnitude (mantissa : ℕ) (exponent : ℤ) : ℕ :=
  (exponent - minExponent).toNat * 2 ^ 52 + mantissa

/-- A number lies in an interval around a double with this exponent. -/
def Interval.Covers (interval : Interval) (exponent : ℤ) (x : ℚ) : Prop :=
  let quarters : ℚ := x / 2 ^ (exponent - 2)
  if interval.ends then interval.low ≤ quarters ∧ quarters ≤ interval.high
  else interval.low < quarters ∧ quarters < interval.high

/-- In steps of a double, the numbers around it are those that round to its mantissa; where the
    mantissa is the least of its binade, those below are nearer to it. -/
theorem steps_of_covers {mantissa : ℕ} {exponent : ℤ} {x : ℚ} (hpos : 0 < mantissa)
    (h : (roundingInterval mantissa exponent).Covers exponent x) :
    RoundsTo mantissa (x / 2 ^ exponent) ∧
      (mantissa = 2 ^ 52 → exponent ≠ minExponent →
        (mantissa - 1 / 4 : ℚ) ≤ x / 2 ^ exponent) := by
  have hquarters : x / 2 ^ (exponent - 2) = 4 * (x / 2 ^ exponent) := by
    rw [show exponent - 2 = exponent - 1 - 1 by ring, div_zpow_pred, div_zpow_pred]
    ring
  have hlow : (4 * mantissa - 2 : ℚ) ≤ (roundingInterval mantissa exponent).low := by
    have hnat : 4 * mantissa ≤ (roundingInterval mantissa exponent).low + 2 := by
      unfold roundingInterval
      dsimp only
      split_ifs <;> omega
    have hcast : (4 * mantissa : ℚ) ≤ (roundingInterval mantissa exponent).low + 2 := by
      exact_mod_cast hnat
    linarith
  have hhigh : ((roundingInterval mantissa exponent).high : ℚ) = 4 * mantissa + 2 := by
    simp [roundingInterval]
  unfold Interval.Covers at h
  simp only [hquarters, hhigh] at h
  refine ⟨?_, fun hleast hexponent => ?_⟩
  · split_ifs at h with hends
    · exact .inr ⟨by simpa [roundingInterval] using hends, by linarith, by linarith⟩
    · exact .inl ⟨by linarith, by linarith⟩
  · -- Here the lower end is a quarter of a step away, not a half.
    have hlow' : ((roundingInterval mantissa exponent).low : ℚ) = 4 * mantissa - 1 := by
      simp only [roundingInterval, Nat.pow_eq, hleast, hexponent, ne_eq, not_false_eq_true,
        and_self, if_true]
      norm_num
    rw [hlow'] at h
    split_ifs at h <;> linarith

/-- The numbers around a double are within the range of doubles. -/
theorem range_of_covers {mantissa : ℕ} {exponent : ℤ} {x : ℚ} (hdouble : IsDouble mantissa exponent)
    (hpos : 0 < mantissa) (h : (roundingInterval mantissa exponent).Covers exponent x) :
    (2 : ℚ) ^ (-1075 : ℤ) ≤ x ∧ x < 2 ^ (1024 : ℤ) := by
  obtain ⟨hlow, hhigh⟩ := (steps_of_covers hpos h).1.within
  have hstep : (0 : ℚ) < 2 ^ exponent := by positivity
  have hone : (1 : ℚ) ≤ mantissa := by exact_mod_cast hpos
  have hmantissa : (mantissa + 1 : ℚ) ≤ 2 ^ 53 := by exact_mod_cast hdouble.lt
  rw [le_div_iff₀ hstep] at hlow
  rw [div_le_iff₀ hstep] at hhigh
  constructor
  · calc (2 : ℚ) ^ (-1075 : ℤ) = 1 / 2 * 2 ^ minExponent := by
          rw [minExponent, show (-1075 : ℤ) = -1 + -1074 by norm_num, zpow_add₀ two_ne_zero]
          norm_num only
      _ ≤ (mantissa - 1 / 2) * 2 ^ exponent :=
        mul_le_mul (by linarith) (zpow_le_zpow_right₀ one_le_two hdouble.least) (by positivity)
          (by linarith)
      _ ≤ x := hlow
  · calc x ≤ (mantissa + 1 / 2) * 2 ^ exponent := hhigh
      _ < 2 ^ 53 * 2 ^ exponent := mul_lt_mul_of_pos_right (by linarith) hstep
      _ ≤ 2 ^ 53 * 2 ^ (971 : ℤ) :=
        mul_le_mul_of_nonneg_left (zpow_le_zpow_right₀ one_le_two hdouble.most) (by positivity)
      _ = 2 ^ (1024 : ℤ) := by
        rw [← zpow_natCast, ← zpow_add₀ two_ne_zero]
        rfl

theorem magnitude_lt_infinityBits {mantissa : ℕ} {exponent : ℤ} (h : IsDouble mantissa exponent) :
    magnitude mantissa exponent < infinityBits := by
  obtain ⟨hlt, hleast, hmost, -⟩ := h
  simp only [magnitude, infinityBits, minExponent, Nat.pow_eq] at *
  omega

/-- The numbers just below a binade are rounded up to its least double, although the step is halved
    there. -/
theorem nearestBits_below_binade {num den : ℕ} {exponent : ℤ} (hnum : 0 < num) (hden : 0 < den)
    (hdouble : IsDouble (2 ^ 52) exponent) (hexponent : exponent ≠ minExponent)
    (hlow : (2 ^ 52 - 1 / 4 : ℚ) ≤ num / den / 2 ^ exponent)
    (hhigh : (num / den / 2 ^ exponent : ℚ) < 2 ^ 52) :
    nearestBits num den = magnitude (2 ^ 52) exponent := by
  have hleast := hdouble.least
  have hhalf : (0 : ℚ) < 2 ^ (exponent - 1) := by positivity
  -- With the smaller step the mantissa would need one more place, which is carried.
  have hn : RoundsTo (2 ^ 53) (num / den / 2 ^ (exponent - 1)) := by
    rw [div_zpow_pred]
    refine .inr ⟨by norm_num, ?_, ?_⟩ <;> push_cast <;> linarith
  rw [nearestBits_of_binade hnum hden (by omega) ?_ (.inr ?_) hn, min_eq_left]
  · simp only [magnitude, minExponent, Nat.pow_eq] at *
    omega
  · have := magnitude_lt_infinityBits hdouble
    simp only [magnitude, minExponent, Nat.pow_eq] at *
    omega
  · rw [add_comm, zpow_add₀ two_ne_zero, ← div_lt_iff₀ hhalf, div_zpow_pred]
    linarith
  · rw [add_comm, zpow_add₀ two_ne_zero, ← le_div_iff₀ hhalf, div_zpow_pred]
    linarith

/-- **The numbers around a double are rounded to it**. -/
theorem nearestBits_eq_magnitude {num den mantissa : ℕ} {exponent : ℤ}
    (hdouble : IsDouble mantissa exponent) (hpos : 0 < mantissa) (hden : 0 < den)
    (h : (roundingInterval mantissa exponent).Covers exponent (num / den)) :
    nearestBits num den = magnitude mantissa exponent := by
  obtain ⟨hn, hbelow⟩ := steps_of_covers hpos h
  obtain ⟨hlow, hhigh⟩ := hn.within
  have hstep : (0 : ℚ) < 2 ^ exponent := by positivity
  have hnum : 0 < num := by
    have hone : (1 : ℚ) ≤ mantissa := by exact_mod_cast hpos
    by_contra hzero
    obtain rfl : num = 0 := by omega
    norm_num at hlow
    linarith
  by_cases hbinade : exponent = minExponent ∨ (2 : ℚ) ^ 52 ≤ num / den / 2 ^ exponent
  · rw [nearestBits_of_binade hnum hden hdouble.least ?_ ?_ hn]
    · exact min_eq_left (magnitude_lt_infinityBits hdouble).le
    · have hmantissa : (mantissa + 1 : ℚ) ≤ 2 ^ 53 := by exact_mod_cast hdouble.lt
      rw [add_comm, zpow_add₀ two_ne_zero, ← div_lt_iff₀ hstep]
      linarith
    · refine hbinade.imp_right fun hge => ?_
      rwa [add_comm, zpow_add₀ two_ne_zero, ← le_div_iff₀ hstep]
  · -- Below the binade there is only what is nearer to its least double than half a step.
    obtain ⟨hexponent, hlt⟩ := not_or.mp hbinade
    rw [not_le] at hlt
    have hfull := hdouble.full.resolve_right hexponent
    have hnext : mantissa < 2 ^ 52 + 1 := by
      have hcast : (mantissa : ℚ) < 2 ^ 52 + 1 := by linarith
      exact_mod_cast hcast
    obtain rfl : mantissa = 2 ^ 52 := by omega
    exact nearestBits_below_binade hnum hden hdouble hexponent
      (by exact_mod_cast hbelow rfl hexponent) hlt

end LabeledSeries.Decimal
