import Mathlib

/-!
# The order of doubles

Doubles are compared as IEEE 754 asks: what is no number is neither below nor above nor equal to
anything, itself included, and the two zeros are equal.  This is no linear order, and doubles that
compare as equal need not be the same.

Every number has a *rank*, and comparing numbers is comparing their ranks (`compare_unpacked`),
which is a linear order.  What is no number has none.  So the comparisons of doubles can be read as
those of ranks: `lt_iff`, `le_iff`, `beq_iff`, `isNaN_iff`.
-/

namespace LabeledSeries.Double

open Float.Model (UnpackedFloat)

/-! ## §1 Ranks -/

/-- The class of a number by its sign and size, then its exponent, then its mantissa; the first of
    them to differ decides. -/
abbrev Rank := ℤ ×ₗ ℤ ×ₗ ℤ

/-- The rank of a class, an exponent and a mantissa. -/
def Rank.of (size exponent mantissa : ℤ) : Rank := toLex (size, toLex (exponent, mantissa))

theorem Rank.compare_of (c e m c' e' m' : ℤ) :
    compare (Rank.of c e m) (Rank.of c' e' m') =
      (compare c c').then ((compare e e').then (compare m m')) := by
  simp [Rank.of, Prod.Lex.compare_def, compareLex, compareOn]

/-- The rank of an unpacked double, if it is a number.  Negative numbers are ranked as the mirror
    images of the positive ones. -/
def unpackedRank? : UnpackedFloat → Option Rank
  | .notANumber => none
  | .infinity .negative => some (.of (-2) 0 0)
  | .finite .negative mantissa exponent _ => some (.of (-1) (-exponent) (-mantissa))
  | .zero _ => some (.of 0 0 0)
  | .finite .positive mantissa exponent _ => some (.of 1 exponent mantissa)
  | .infinity .positive => some (.of 2 0 0)

theorem compare_neg (a b : ℤ) : compare (-a) (-b) = (compare a b).swap := by
  rcases lt_trichotomy a b with hlt | rfl | hgt
  · rw [compare_lt_iff_lt.mpr hlt, compare_gt_iff_gt.mpr (Int.neg_lt_neg hlt)]
    rfl
  · simp
  · rw [compare_gt_iff_gt.mpr hgt, compare_lt_iff_lt.mpr (Int.neg_lt_neg hgt)]
    rfl

theorem compare_natCast (m m' : ℕ) : compare (m : ℤ) (m' : ℤ) = compare m m' := by
  have hcast : StrictMono ((↑) : ℕ → ℤ) := fun _ _ => Int.ofNat_lt.mpr
  rw [← cmp_eq_compare, ← cmp_eq_compare, hcast.cmp_map_eq]

/-- **Comparing is comparing ranks**. -/
theorem compare_unpacked (u v : UnpackedFloat) :
    u.compare v = (unpackedRank? u).bind fun a => (unpackedRank? v).map fun b => compare a b := by
  -- Classes that differ decide by themselves; finite numbers of one sign go by their parts.
  cases u with
  | notANumber => rfl
  | infinity s =>
    cases v with
    | notANumber => cases s <;> rfl
    | infinity s' => cases s <;> cases s' <;> rfl
    | zero s' => cases s <;> rfl
    | finite s' m' e' h' => cases s <;> cases s' <;> rfl
  | zero s =>
    cases v with
    | notANumber => rfl
    | infinity s' => cases s' <;> rfl
    | zero s' => rfl
    | finite s' m' e' h' => cases s' <;> rfl
  | finite s m e h =>
    cases v with
    | notANumber => cases s <;> rfl
    | infinity s' => cases s <;> cases s' <;> rfl
    | zero s' => cases s <;> rfl
    | finite s' m' e' h' =>
      cases s with
      | negative =>
        cases s' with
        | negative =>
          simp [unpackedRank?, UnpackedFloat.compare, Rank.compare_of, compare_neg,
            compare_natCast, Ordering.swap_then]
        | positive => rfl
      | positive =>
        cases s' with
        | negative => rfl
        | positive =>
          simp [unpackedRank?, UnpackedFloat.compare, Rank.compare_of, compare_natCast]

/-! ## §2 Comparisons -/

/-- The rank of a double, if it is a number. -/
def rank? (x : Float) : Option Rank := unpackedRank? x.toModel.unpack

variable {x y : Float}

theorem isNaN_iff : x.isNaN = true ↔ rank? x = none := by
  have hunpacked : ∀ u : UnpackedFloat, u.isNaN = true ↔ unpackedRank? u = none := by
    intro u
    cases u with
    | notANumber => simp [UnpackedFloat.isNaN, unpackedRank?]
    | zero s => simp [UnpackedFloat.isNaN, unpackedRank?]
    | infinity s => cases s <;> simp [UnpackedFloat.isNaN, unpackedRank?]
    | finite s m e h => cases s <;> simp [UnpackedFloat.isNaN, unpackedRank?]
  exact hunpacked x.toModel.unpack

/-- What two doubles compare as, where both are numbers. -/
theorem compare_unpack_eq_some_iff {o : Ordering} :
    x.toModel.unpack.compare y.toModel.unpack = some o ↔
      ∃ a, rank? x = some a ∧ ∃ b, rank? y = some b ∧ compare a b = o := by
  rw [compare_unpacked, Option.bind_eq_some_iff]
  simp only [Option.map_eq_some_iff]
  rfl

theorem lt_iff : x < y ↔ ∃ a, rank? x = some a ∧ ∃ b, rank? y = some b ∧ a < b := by
  have hlt : x < y ↔ x.toModel.unpack.compare y.toModel.unpack = some .lt := by
    simp [LT.lt, Float.lt, Float.Model.lt, UnpackedFloat.lt]
  rw [hlt, compare_unpack_eq_some_iff]
  simp only [compare_lt_iff_lt]

theorem beq_iff : (x == y) = true ↔ ∃ a, rank? x = some a ∧ rank? y = some a := by
  have hbeq : (x == y) = true ↔ x.toModel.unpack.compare y.toModel.unpack = some .eq := by
    show (x.toModel.unpack.compare y.toModel.unpack == some .eq) = true ↔ _
    exact beq_iff_eq
  rw [hbeq, compare_unpack_eq_some_iff]
  simp only [compare_eq_iff_eq, exists_eq_right']

theorem le_iff : x ≤ y ↔ ∃ a, rank? x = some a ∧ ∃ b, rank? y = some b ∧ a ≤ b := by
  have hle : x ≤ y ↔ ∃ o, x.toModel.unpack.compare y.toModel.unpack = some o ∧ o.isLE := by
    simp [LE.le, Float.le, Float.Model.le, UnpackedFloat.le, Option.any_eq_true]
  simp only [hle, compare_unpack_eq_some_iff]
  constructor
  · rintro ⟨o, ⟨a, ha, b, hb, rfl⟩, hisLE⟩
    exact ⟨a, ha, b, hb, compare_le_iff_le.mp (Ordering.ne_gt_iff_isLE.mpr hisLE)⟩
  · rintro ⟨a, ha, b, hb, hle⟩
    exact ⟨_, ⟨a, ha, b, hb, rfl⟩, Ordering.ne_gt_iff_isLE.mp (compare_le_iff_le.mpr hle)⟩

end LabeledSeries.Double
