import Mathlib.Data.String.Basic
import Mathlib.Tactic.SplitIfs
import LabeledSeries.Text.Name

/-!
# Texts in the order of their bytes

Texts are compared character by character, by code point.  The series that they label come from
stores that compare the bytes of UTF-8.  Both orders are one: `lt_iff_utf8Bytes_lt`.

## §1 One character

The encoding of the smaller of two characters is smaller at a byte that both encodings have, so
nothing that follows either of them matters.

## §2 Texts
-/

namespace LabeledSeries.Text

/-! ## §1 One character -/

/-- A code point by the six-bit groups that its bytes hold. -/
private theorem codePoint_eq_sextets (n : Nat) :
    n = 262144 * (n / 262144) + 4096 * (n / 4096 % 64) + 64 * (n / 64 % 64) + n % 64 := by
  omega

/-- A continuation byte does not overflow. -/
private theorem continuationByte_mod (n : Nat) : (n % 64 + 128) % 2 ^ 8 = n % 64 + 128 := by
  omega

/-- The first of four bytes holds the whole upper part of a code point. -/
private theorem fourByteLead_mod {n : Nat} (h : n < 0x110000) :
    (n / 262144 % 8 + 240) % 2 ^ 8 = n / 262144 + 240 := by
  omega

private theorem toNat_lt_limit (c : Char) : c.toNat < 0x110000 := by
  have hvalid := c.valid
  simp only [UInt32.isValidChar, Nat.isValidChar, Char.toNat_val] at hvalid
  omega

/-- The encodings of two characters compare as the characters do, whatever follows them. -/
theorem encodeChar_append_lt {c d : Char} (h : c < d) (x y : List UInt8) :
    String.utf8EncodeChar c ++ x < String.utf8EncodeChar d ++ y := by
  have hcd : c.toNat < d.toNat := h
  have hd : d.toNat < 0x110000 := toNat_lt_limit d
  have hc : c.toNat < 0x110000 := hcd.trans hd
  have hcSextets := codePoint_eq_sextets c.toNat
  have hdSextets := codePoint_eq_sextets d.toNat
  unfold String.utf8EncodeChar
  simp only [Char.toNat_val]
  -- One case for each pair of lengths; where they agree, the first group that differs decides.
  split_ifs <;>
    simp only [List.cons_append, List.nil_append, List.cons_lt_cons_iff, UInt8.lt_iff_toNat_lt,
      ← UInt8.toNat_inj, UInt8.toNat_ofNat', continuationByte_mod, fourByteLead_mod hc,
      fourByteLead_mod hd] <;>
    omega

/-! ## §2 Texts -/

private theorem flatMap_encodeChar_lt {a b : List Char} (h : a < b) :
    a.flatMap String.utf8EncodeChar < b.flatMap String.utf8EncodeChar := by
  induction h with
  | @nil c rest =>
    cases hc : String.utf8EncodeChar c with
    | nil => exact absurd hc String.utf8EncodeChar_ne_nil
    | cons byte bytes => simp [hc]
  | rel hlt =>
    simp only [List.flatMap_cons]
    exact encodeChar_append_lt hlt _ _
  | cons _ ih =>
    simp only [List.flatMap_cons]
    exact List.append_left_lt ih

theorem utf8Bytes_lt {a b : String} (h : a < b) : utf8Bytes a < utf8Bytes b :=
  flatMap_encodeChar_lt (String.lt_iff_toList_lt.mp h)

/-- **Byte order**: texts compare as their bytes in UTF-8 do. -/
theorem lt_iff_utf8Bytes_lt (a b : String) : a < b ↔ utf8Bytes a < utf8Bytes b := by
  refine ⟨utf8Bytes_lt, fun hbytes => ?_⟩
  rcases lt_trichotomy a b with hlt | heq | hgt
  · exact hlt
  · subst heq
    exact absurd hbytes (List.lt_irrefl _)
  · exact absurd hbytes (List.lt_asymm (utf8Bytes_lt hgt))

theorem le_iff_utf8Bytes_le (a b : String) : a ≤ b ↔ utf8Bytes a ≤ utf8Bytes b := by
  rw [← not_lt, lt_iff_utf8Bytes_lt, List.not_lt]

/-- Texts with the same bytes are the same. -/
theorem utf8Bytes_inj (a b : String) : utf8Bytes a = utf8Bytes b ↔ a = b := by
  refine ⟨fun hbytes => le_antisymm ?_ ?_, congrArg utf8Bytes⟩
  · rw [le_iff_utf8Bytes_le, hbytes]
    exact List.le_refl _
  · rw [le_iff_utf8Bytes_le, hbytes]
    exact List.le_refl _

end LabeledSeries.Text
