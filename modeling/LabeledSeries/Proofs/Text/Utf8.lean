import Mathlib.Tactic.SplitIfs
import LabeledSeries.Text.Name

/-!
# The bytes of a text

A character of ASCII is one byte in UTF-8.  Any other character is a leading byte and one to three
continuation bytes, which have a range of their own.  So no continuation byte stands at the
beginning of a text (`not_isContinuation_head`) or behind a byte of ASCII
(`not_isContinuation_after_ascii`), and the byte `0xFF`, which no character has, stands nowhere
(`separator_not_mem`).
-/

namespace LabeledSeries.Text

/-- A byte of a character that is not its first. -/
def IsContinuation (byte : UInt8) : Prop := 0x80 ≤ byte.toNat ∧ byte.toNat < 0xC0

/-- The bytes of a character: one of ASCII, or a leading byte and its continuation. -/
theorem exists_encodeChar (c : Char) :
    ∃ lead more, String.utf8EncodeChar c = lead :: more ∧
      (lead.toNat < 0x80 ∧ more = [] ∨
        0xC0 ≤ lead.toNat ∧ lead.toNat < 0xF8 ∧ ∀ byte ∈ more, IsContinuation byte) := by
  unfold String.utf8EncodeChar
  simp only [Char.toNat_val]
  -- One case for each length of the encoding.
  split_ifs
  · exact ⟨_, _, rfl, .inl ⟨by simp; omega, rfl⟩⟩
  all_goals
    refine ⟨_, _, rfl, .inr ⟨?_, ?_, ?_⟩⟩ <;> simp [IsContinuation] <;> omega

theorem not_isContinuation_head {chars : List Char} {byte : UInt8} {rest : List UInt8}
    (h : chars.flatMap String.utf8EncodeChar = byte :: rest) : ¬IsContinuation byte := by
  cases chars with
  | nil => cases h
  | cons c chars =>
    obtain ⟨lead, more, hc, hlead⟩ := exists_encodeChar c
    rw [List.flatMap_cons, hc, List.cons_append, List.cons.injEq] at h
    obtain ⟨rfl, -⟩ := h
    unfold IsContinuation
    omega

/-- A character of ASCII ends where it begins. -/
theorem not_isContinuation_after_ascii {text : String} {first second : UInt8} {rest : List UInt8}
    (h : utf8Bytes text = first :: second :: rest) (hfirst : first.toNat < 0x80) :
    ¬IsContinuation second := by
  unfold utf8Bytes at h
  cases hchars : text.toList with
  | nil => rw [hchars] at h; cases h
  | cons c chars =>
    obtain ⟨lead, more, hc, hlead⟩ := exists_encodeChar c
    rw [hchars, List.flatMap_cons, hc, List.cons_append, List.cons.injEq] at h
    obtain ⟨rfl, h⟩ := h
    obtain ⟨-, rfl⟩ : lead.toNat < 0x80 ∧ more = [] := hlead.resolve_right (by omega)
    exact not_isContinuation_head h

theorem separator_not_mem (text : String) : 0xFF ∉ utf8Bytes text := by
  intro hmem
  obtain ⟨c, -, hbyte⟩ := List.mem_flatMap.mp hmem
  obtain ⟨lead, more, hc, hlead⟩ := exists_encodeChar c
  rw [hc, List.mem_cons] at hbyte
  have hmax : (0xFF : UInt8).toNat = 255 := rfl
  rcases hlead with ⟨hascii, rfl⟩ | ⟨-, hlead, hmore⟩
  · rcases hbyte with rfl | hnone
    · omega
    · cases hnone
  · rcases hbyte with rfl | hbyte
    · omega
    · have hrange := (hmore _ hbyte).2
      omega

end LabeledSeries.Text
