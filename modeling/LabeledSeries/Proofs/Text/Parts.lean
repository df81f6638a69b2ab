import Mathlib.Data.String.Basic
import LabeledSeries.Text.Name

/-!
# Parts of texts

How texts fall into parts: into a run of characters of one class and what follows it, and into a
start and an ending.
-/

namespace LabeledSeries.Text

/-- A run that is followed by no character of its class is the longest one. -/
theorem span_append {p : Char → Bool} {part rest : List Char} (hpart : ∀ c ∈ part, p c = true)
    (hrest : ∀ c ∈ rest.head?, p c = false) :
    (part ++ rest).takeWhile p = part ∧ (part ++ rest).dropWhile p = rest := by
  rw [List.takeWhile_append_of_pos hpart, List.dropWhile_append_of_pos hpart]
  cases rest with
  | nil => simp
  | cons c rest =>
    have hc := hrest c (by simp)
    simp [hc]

/-- The start before an ending is what the ending was put behind. -/
theorem beforeTrailing_eq_some_iff {trailing text start : String} :
    beforeTrailing trailing text = some start ↔ text = start ++ trailing := by
  unfold beforeTrailing
  constructor
  · intro h
    split at h
    · rename_i hends
      obtain ⟨chars, hchars⟩ := List.isSuffixOf_iff_suffix.mp hends
      cases h
      apply String.toList_injective
      rw [← hchars, List.length_append, Nat.add_sub_cancel, List.take_left]
      simp [hchars]
    · cases h
  · rintro rfl
    simp

/-- The rest after a leading part is what the leading part was put before. -/
theorem afterLeading_eq_some_iff {leading text rest : String} :
    afterLeading leading text = some rest ↔ text = leading ++ rest := by
  unfold afterLeading
  constructor
  · intro h
    split at h
    · rename_i hstarts
      obtain ⟨chars, hchars⟩ := List.isPrefixOf_iff_prefix.mp hstarts
      cases h
      apply String.toList_injective
      rw [← hchars, List.drop_left]
      simp [hchars]
    · cases h
  · rintro rfl
    simp

theorem endsIn_iff {text trailing : String} :
    endsIn text trailing = true ↔ ∃ start, text = start ++ trailing := by
  rw [endsIn, List.isSuffixOf_iff_suffix]
  constructor
  · rintro ⟨chars, hchars⟩
    exact ⟨String.ofList chars, String.toList_injective (by simp [hchars])⟩
  · rintro ⟨start, rfl⟩
    exact ⟨start.toList, by simp⟩

/-- A text comes before all texts that it starts. -/
theorem lt_append (start : String) {trailing : String} (h : trailing ≠ "") :
    start < start ++ trailing := by
  rw [String.lt_iff_toList_lt, String.toList_append]
  cases hchars : trailing.toList with
  | nil => exact absurd (String.toList_eq_nil_iff.mp hchars) h
  | cons c rest =>
    have hlt : start.toList ++ [] < start.toList ++ c :: rest :=
      List.append_left_lt (List.nil_lt_cons c rest)
    rwa [List.append_nil] at hlt

end LabeledSeries.Text
