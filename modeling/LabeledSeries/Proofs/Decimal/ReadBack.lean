import LabeledSeries.Decimal.Layout
import LabeledSeries.Decimal.Reading
import LabeledSeries.Proofs.Decimal.Shortest
import LabeledSeries.Proofs.Text.Parts

/-!
# Texts of doubles are read back

The text of a double in a label has all places of its shortest decimal.  It is read back as the
nearest double to what it writes, which is the double again.

§1 Numerals, the texts of digits with a point or without, and what is read from them.

§2 All places of a decimal are a numeral for it.

§3 Decimals in the rounding interval of a double are rounded to it; those that are settled by their
size alone are in none.

§4 The bit patterns of doubles.

§5 Texts of doubles (`read?_write`).
-/

namespace LabeledSeries.Decimal

open Float.Model.UnpackedFloat (isNaNBits isNaNBits_packedNaN pack_unpack packedNaN
  unpackExponent_def unpackMantissa_def)

/-! ## §1 Numerals -/

/-- A text of digits with a point or without: its digits write the coefficient, and those behind the
    point are the places. -/
inductive Numeral : List Char → ℕ → ℕ → Prop where
  | whole {digits : List Char} (hne : digits ≠ []) (hdigits : ∀ c ∈ digits, c.isDigit = true) :
      Numeral digits (digitsValue digits) 0
  | pointed {digits fraction : List Char} (hne : digits ≠ [])
      (hdigits : ∀ c ∈ digits, c.isDigit = true) (hfraction : ∀ c ∈ fraction, c.isDigit = true) :
      Numeral (digits ++ '.' :: fraction) (digitsValue (digits ++ fraction)) fraction.length

namespace Numeral

variable {text : List Char} {coefficient places : ℕ}

/-- A numeral starts with a digit. -/
theorem exists_cons (h : Numeral text coefficient places) :
    ∃ c rest, text = c :: rest ∧ c.isDigit = true := by
  cases h with
  | whole hne hdigits =>
    obtain ⟨c, rest, rfl⟩ := List.exists_cons_of_ne_nil hne
    exact ⟨c, rest, rfl, hdigits c (by simp)⟩
  | pointed hne hdigits hfraction =>
    obtain ⟨c, rest, rfl⟩ := List.exists_cons_of_ne_nil hne
    exact ⟨c, _, rfl, hdigits c (by simp)⟩

/-- There are only digits and a point in a numeral. -/
theorem isDigit_or_eq (h : Numeral text coefficient places) :
    ∀ c ∈ text, c.isDigit = true ∨ c = '.' := by
  cases h with
  | whole hne hdigits => exact fun c hc => .inl (hdigits c hc)
  | pointed hne hdigits hfraction =>
    intro c hc
    rcases List.mem_append.mp hc with hc | hc
    · exact .inl (hdigits c hc)
    · exact (List.mem_cons.mp hc).symm.imp_left (hfraction c)

/-- A numeral is read as it is written. -/
theorem unsignedBits?_eq (h : Numeral text coefficient places) :
    unsignedBits? text = some (nearestBitsOfDecimal coefficient (-places)) := by
  cases h with
  | whole hne hdigits =>
    -- All characters are digits, so the whole text is the integer part.
    have htake := List.takeWhile_eq_self_iff.mpr hdigits
    have hdrop := List.dropWhile_eq_nil_iff.mpr hdigits
    simp [unsignedBits?, splitNumeral, htake, hdrop, hne, exponentValue?]
  | @pointed digits fraction hne hdigits hfraction =>
    -- The integer part ends at the point, and all that follows it is the fraction.
    have hpoint : ∀ c ∈ ('.' :: fraction).head?, c.isDigit = false := by simp
    obtain ⟨htake, hdrop⟩ := Text.span_append hdigits hpoint
    have htake' := List.takeWhile_eq_self_iff.mpr hfraction
    have hdrop' := List.dropWhile_eq_nil_iff.mpr hfraction
    simp [unsignedBits?, splitNumeral, htake, hdrop, htake', hdrop', hne, exponentValue?]

theorem toLower_of_isDigit {c : Char} (h : c.isDigit = true) : c.toLower = c := by
  have hle : c.val ≤ '9'.val := by simpa using (Bool.and_eq_true_iff.mp h).2
  rw [Char.toLower, dif_neg]
  rintro ⟨hge, -⟩
  exact absurd (UInt32.le_trans hge hle) (by decide)

/-- The words for infinities and for no number start with letters. -/
theorem magnitudeBits?_eq (h : Numeral text coefficient places) :
    magnitudeBits? text = some (nearestBitsOfDecimal coefficient (-places)) := by
  obtain ⟨c, rest, rfl, hc⟩ := h.exists_cons
  -- No word of letters is a numeral, in upper or lower case.
  have hword (d : Char) (word : List Char) (hd : d.isDigit = false) :
      String.ofList ((c :: rest).map Char.toLower) ≠ String.ofList (d :: word) := by
    intro heq
    rw [List.map_cons, toLower_of_isDigit hc] at heq
    obtain ⟨rfl, -⟩ := List.cons.inj (String.ofList_injective heq)
    rw [hc] at hd
    cases hd
  rw [magnitudeBits?, if_neg, if_neg (hword 'n' _ rfl), h.unsignedBits?_eq]
  rintro (hinf | hinf)
  · exact hword 'i' _ rfl hinf
  · exact hword 'i' _ rfl hinf

/-- A numeral with a sign or without. -/
theorem read?_eq (h : Numeral text coefficient places) (negative : Bool) :
    read? (String.ofList (if negative then '-' :: text else text)) =
      some (signedFloat negative (nearestBitsOfDecimal coefficient (-places))) := by
  have hbits := h.magnitudeBits?_eq
  cases negative with
  | true => simp [read?, hbits]
  | false =>
    -- The numeral begins with a digit, which is not taken for a sign.
    obtain ⟨c, rest, rfl, hc⟩ := h.exists_cons
    have hminus : c ≠ '-' := by
      rintro rfl
      cases hc
    have hplus : c ≠ '+' := by
      rintro rfl
      cases hc
    simp [read?, hbits, hminus, hplus]

end Numeral

/-! ## §2 Positional texts -/

theorem digitsValue_digitsOf (n : ℕ) : digitsValue (digitsOf n) = n := Nat.ofDigitChars_ten_toDigits

theorem isDigit_of_mem_digitsOf {n : ℕ} : ∀ c ∈ digitsOf n, c.isDigit = true :=
  fun _ hc => Nat.isDigit_of_mem_toDigits (by decide) (by decide) hc

/-- Zeros in front do not count. -/
theorem digitsValue_zeros_append (count : ℕ) (digits : List Char) :
    digitsValue (List.replicate count '0' ++ digits) = digitsValue digits := by
  change Nat.ofDigitChars 10 _ 0 = Nat.ofDigitChars 10 _ 0
  rw [Nat.ofDigitChars_append, Nat.ofDigitChars_replicate_zero, mul_zero]

theorem digitsValue_append_zeros (digits : List Char) (count : ℕ) :
    digitsValue (digits ++ List.replicate count '0') = digitsValue digits * 10 ^ count := by
  change Nat.ofDigitChars 10 _ 0 = Nat.ofDigitChars 10 _ 0 * _
  rw [Nat.ofDigitChars_append, Nat.ofDigitChars_replicate_zero, mul_comm]

theorem isDigit_of_mem_zeros (count : ℕ) : ∀ c ∈ List.replicate count '0', c.isDigit = true := by
  intro c hc
  rw [List.eq_of_mem_replicate hc]
  rfl

/-- Every place of a decimal is a numeral for it. -/
theorem positional_numeral (d : Scientific) : ∃ coefficient places,
    Numeral (positional d) coefficient places ∧
      (coefficient * 10 ^ (-places : ℤ) : ℚ) = d.value := by
  have hdigits := isDigit_of_mem_digitsOf (n := d.coefficient)
  have hne : digitsOf d.coefficient ≠ [] := Nat.toDigits_ne_nil
  unfold positional Scientific.value
  dsimp only
  -- The digits stand before the point, on both sides of it, or behind it.
  split_ifs with hwhole hpoint
  · -- The exponent is not negative: zeros follow the digits.
    refine ⟨_, 0, .whole (by simp [hne])
      (List.forall_mem_append.mpr ⟨hdigits, isDigit_of_mem_zeros _⟩), ?_⟩
    obtain ⟨n, hn⟩ := Int.eq_ofNat_of_zero_le hwhole
    rw [digitsValue_append_zeros, digitsValue_digitsOf, hn]
    simp
  · -- The point stands among the digits.
    refine ⟨_, _, .pointed ?_ ?_ ?_, ?_⟩
    · rw [Ne, List.take_eq_nil_iff]
      exact not_or.mpr ⟨by omega, hne⟩
    · exact fun c hc => hdigits c (List.mem_of_mem_take hc)
    · exact fun c hc => hdigits c (List.mem_of_mem_drop hc)
    · rw [List.take_append_drop, digitsValue_digitsOf, List.length_drop]
      congr 2
      omega
  · -- All digits are behind the point, with zeros between.
    have hzero : ∀ c ∈ ['0'], c.isDigit = true := by simp
    have hfraction := List.forall_mem_append.mpr
      ⟨isDigit_of_mem_zeros ((-d.exponent).toNat - (digitsOf d.coefficient).length), hdigits⟩
    rw [List.cons_append, List.cons_append]
    refine ⟨_, _, .pointed (List.cons_ne_nil _ _) hzero hfraction, ?_⟩
    rw [← List.append_assoc, show ['0'] = List.replicate 1 '0' from rfl,
      List.replicate_append_replicate, digitsValue_zeros_append, digitsValue_digitsOf,
      List.length_append, List.length_replicate]
    congr 2
    omega

/-! ## §3 Decimals around a double -/

/-- The number of digits bounds a number. -/
theorem ten_pow_length_bounds {n : ℕ} (hpos : 0 < n) :
    10 ^ ((Nat.toDigits 10 n).length - 1) ≤ n ∧ n < 10 ^ (Nat.toDigits 10 n).length := by
  have hlength : 0 < (Nat.toDigits 10 n).length := Nat.length_toDigits_pos
  refine ⟨?_, (Nat.length_toDigits_le_iff (by decide) hlength).mp le_rfl⟩
  -- A number with more than one digit cannot be written with one digit less.
  rcases Nat.eq_zero_or_pos ((Nat.toDigits 10 n).length - 1) with hone | hmore
  · rw [hone]
    exact hpos
  · by_contra hlt
    have hshorter := (Nat.length_toDigits_le_iff (by decide) hmore).mpr (not_le.mp hlt)
    omega

/-- The number of digits and the exponent bound a decimal. -/
theorem size_bounds {coefficient : ℕ} (hpos : 0 < coefficient) (exponent : ℤ) :
    let size : ℤ := (Nat.toDigits 10 coefficient).length + exponent
    (10 : ℚ) ^ (size - 1) ≤ coefficient * 10 ^ exponent ∧
      (coefficient * 10 ^ exponent : ℚ) < 10 ^ size := by
  have hlength : 0 < (Nat.toDigits 10 coefficient).length := Nat.length_toDigits_pos
  obtain ⟨hlow, hhigh⟩ := ten_pow_length_bounds hpos
  generalize (Nat.toDigits 10 coefficient).length = length at *
  dsimp only
  constructor
  · -- The bounds of the coefficient are moved by the exponent.
    rw [show (length : ℤ) + exponent - 1 = (length - 1 : ℕ) + exponent by omega,
      zpow_add₀ (by norm_num), zpow_natCast]
    gcongr
    exact_mod_cast hlow
  · rw [zpow_add₀ (by norm_num), zpow_natCast]
    gcongr
    exact_mod_cast hhigh

/-- **Decimals around a double are rounded to it**, however they are written. -/
theorem nearestBitsOfDecimal_eq_magnitude {mantissa coefficient : ℕ} {exponent power : ℤ}
    (hdouble : IsDouble mantissa exponent) (hpos : 0 < mantissa)
    (h : (roundingInterval mantissa exponent).Covers exponent (coefficient * 10 ^ power)) :
    nearestBitsOfDecimal coefficient power = magnitude mantissa exponent := by
  obtain ⟨hleast, hmost⟩ := range_of_covers hdouble hpos h
  have hcoefficient := coefficient_pos_of_covers hdouble hpos h
  obtain ⟨hlow, hhigh⟩ := size_bounds hcoefficient power
  -- A decimal that is read as infinite at once is greater than all doubles.
  have hnotLarge : ¬400 < ((Nat.toDigits 10 coefficient).length + power : ℤ) := by
    intro hlarge
    have hpowers : (2 : ℚ) ^ (1024 : ℤ) ≤ 10 ^ (400 : ℤ) := by
      exact_mod_cast (by decide +kernel : 2 ^ 1024 ≤ 10 ^ 400)
    refine absurd (hpowers.trans ?_) (not_le.mpr hmost)
    exact (zpow_le_zpow_right₀ (by norm_num) (by omega)).trans hlow
  -- One that is read as zero at once is smaller than half the least double.
  have hnotSmall : ¬((Nat.toDigits 10 coefficient).length + power : ℤ) < -400 := by
    intro hsmall
    refine absurd (hleast.trans_lt (hhigh.trans_le ?_)) ten_zpow_lt_half_minimum.not_gt
    exact zpow_le_zpow_right₀ (by norm_num) (by omega)
  unfold nearestBitsOfDecimal
  rw [if_neg hcoefficient.ne', if_neg hnotLarge, if_neg hnotSmall]
  -- Only the exact comparison is left, and that is between the same number twice.
  refine nearestBits_eq_magnitude hdouble hpos (Nat.pow_pos (by decide)) ?_
  convert h using 1
  rw [zpow_eq_div]
  push_cast [Nat.pow_eq]
  ring

/-- What a shortest decimal writes is rounded to its double. -/
theorem nearestBitsOfDecimal_shortest (tie : Tie) {mantissa coefficient : ℕ} {exponent power : ℤ}
    (hdouble : IsDouble mantissa exponent)
    (hvalue : (coefficient * 10 ^ power : ℚ) = (shortest tie mantissa exponent).value) :
    nearestBitsOfDecimal coefficient power = magnitude mantissa exponent := by
  rcases Nat.eq_zero_or_pos mantissa with rfl | hpos
  · -- Zero is written as zero.
    have hzero : coefficient = 0 := by
      have hten : (10 : ℚ) ^ power ≠ 0 := by positivity
      simpa [shortest, Scientific.value, hten] using hvalue
    have hexponent : exponent = minExponent := by simpa using hdouble.full
    rw [hzero, hexponent]
    simp [nearestBitsOfDecimal, magnitude]
  · refine nearestBitsOfDecimal_eq_magnitude hdouble hpos ?_
    rw [hvalue]
    exact shortest_covers tie hpos hdouble.least

/-! ## §4 Bit patterns -/

/-- A bit pattern that is no number: all bits of the exponent are set, and some of the fraction. -/
def IsNaNPattern (bits : ℕ) : Prop := bits / 2 ^ 52 % 2048 = 2047 ∧ bits % 2 ^ 52 ≠ 0

instance (bits : ℕ) : Decidable (IsNaNPattern bits) :=
  inferInstanceAs (Decidable (_ ∧ _))

/-- The bit pattern of a sign and of a double without sign. -/
def signedBits (negative : Bool) (bits : ℕ) : ℕ := if negative then 2 ^ 63 + bits else bits

/-- A pattern is taken apart into the parts that make it. -/
theorem ofBits_spec {bits : ℕ} (h : bits < 2 ^ 64) :
    match Binary.ofBits bits with
    | .notANumber => IsNaNPattern bits
    | .infinite negative => bits = signedBits negative infinityBits
    | .finite negative mantissa exponent =>
      IsDouble mantissa exponent ∧ bits = signedBits negative (magnitude mantissa exponent) := by
  have hsign : bits = signedBits (bits / Nat.pow 2 63 % 2 == 1) (bits % 2 ^ 63) := by
    simp only [signedBits, beq_iff_eq, Nat.pow_eq]
    split_ifs <;> omega
  -- Each kind of exponent gives the magnitude; the sign is the same for all of them.
  unfold Binary.ofBits
  dsimp only
  generalize (bits / Nat.pow 2 63 % 2 == 1) = negative at *
  simp only [Nat.pow_eq]
  split_ifs with hspecial hfraction hsmall
  · -- Without a fraction it is the pattern of the infinities.
    have hmagnitude : bits % 2 ^ 63 = infinityBits := by
      simp only [infinityBits, Nat.pow_eq]
      omega
    rwa [hmagnitude] at hsign
  · exact ⟨hspecial, hfraction⟩
  · -- No bit of the exponent is set, so the mantissa is the fraction itself.
    have hmagnitude : bits % 2 ^ 63 = magnitude (bits % 2 ^ 52) minExponent := by
      unfold magnitude
      omega
    rw [hmagnitude] at hsign
    exact ⟨⟨by omega, le_rfl, by decide, .inr rfl⟩, hsign⟩
  · -- Otherwise the mantissa has a leading bit that is not stored.
    have hmagnitude : bits % 2 ^ 63 =
        magnitude (2 ^ 52 + bits % 2 ^ 52) ((bits / 2 ^ 52 % 2048 : ℕ) - 1075) := by
      unfold magnitude minExponent
      omega
    rw [hmagnitude] at hsign
    refine ⟨⟨by omega, ?_, by omega, .inl (by omega)⟩, hsign⟩
    unfold minExponent
    omega

theorem isNaNBits_iff (bits : UInt64) :
    @isNaNBits .binary64 bits.toBitVec = true ↔ IsNaNPattern bits.toNat := by
  rw [isNaNBits, unpackExponent_def, unpackMantissa_def, decide_eq_true_eq, ← BitVec.toNat_inj, Ne,
    ← BitVec.toNat_inj]
  simp [BitVec.extractLsb'_toNat, Nat.shiftRight_eq_div_pow, IsNaNPattern]

/-- Doubles have the patterns they are made of, except that there is one double that is no
    number. -/
theorem toBitVec_toBits_ofBits (bits : UInt64) : (Float.ofBits bits).toBits.toBitVec =
    if @isNaNBits .binary64 bits.toBitVec then packedNaN .binary64 else bits.toBitVec :=
  @pack_unpack .binary64 bits.toBitVec (by decide)

theorem toBits_ofBits {bits : UInt64} (h : ¬IsNaNPattern bits.toNat) :
    (Float.ofBits bits).toBits = bits := by
  rw [← UInt64.toBitVec_inj, toBitVec_toBits_ofBits, if_neg (mt (isNaNBits_iff bits).mp h)]

theorem isNaN_ofBits_iff (bits : UInt64) :
    (Float.ofBits bits).isNaN = true ↔ IsNaNPattern bits.toNat := by
  have hnan : Float.nan.toBits.toBitVec = packedNaN .binary64 := by decide +kernel
  rw [← isNaNBits_iff, Float.isNaN_eq_decide_eq_nan, decide_eq_true_eq, ← Float.toBits_inj,
    ← UInt64.toBitVec_inj, toBitVec_toBits_ofBits, hnan]
  split_ifs with h
  · -- All patterns of no number become the one that stands for them.
    simp only [h]
  · refine iff_of_false (fun heq => h ?_) h
    rw [heq]
    exact isNaNBits_packedNaN

/-! ## §5 Texts of doubles -/

theorem write_finite (negative : Bool) (mantissa : ℕ) (exponent : ℤ) :
    valueLayout.write (.finite negative mantissa exponent) =
      String.ofList (if negative then '-' :: positional (shortest .upper mantissa exponent)
        else positional (shortest .upper mantissa exponent)) := rfl

/-- There is no exponent in the text of a value. -/
theorem ne_e_of_mem_write (x : Binary) : ∀ c ∈ (valueLayout.write x).toList, c ≠ 'e' ∧ c ≠ 'E' := by
  cases x with
  | notANumber => simp [Layout.write, valueLayout]
  | infinite negative => cases negative <;> simp [Layout.write, valueLayout]
  | finite negative mantissa exponent =>
    obtain ⟨coefficient, places, hnumeral, -⟩ :=
      positional_numeral (shortest .upper mantissa exponent)
    have hchars : ∀ c ∈ positional (shortest .upper mantissa exponent), c ≠ 'e' ∧ c ≠ 'E' := by
      intro c hc
      constructor <;> rintro rfl <;> simpa using hnumeral.isDigit_or_eq _ hc
    rw [write_finite, String.toList_ofList]
    split_ifs
    · exact List.forall_mem_cons.mpr ⟨by decide, hchars⟩
    · exact hchars

/-- **The text of a double is read back as the double**. -/
theorem read?_write {bits : ℕ} (h : bits < 2 ^ 64) (hnumber : ¬IsNaNPattern bits) :
    read? (valueLayout.write (Binary.ofBits bits)) = some (Float.ofBits (UInt64.ofNat bits)) := by
  have hspec := ofBits_spec h
  generalize Binary.ofBits bits = x at *
  cases x with
  | notANumber => exact absurd hspec hnumber
  | infinite negative =>
    dsimp only at hspec
    rw [hspec]
    cases negative <;> decide +kernel
  | finite negative mantissa exponent =>
    obtain ⟨hdouble, hbits⟩ := hspec
    obtain ⟨coefficient, places, hnumeral, hvalue⟩ :=
      positional_numeral (shortest .upper mantissa exponent)
    rw [write_finite, hbits, ← nearestBitsOfDecimal_shortest .upper hdouble hvalue]
    exact hnumeral.read?_eq negative

end LabeledSeries.Decimal
