import Mathlib.Order.Lattice
import Mathlib.Data.List.Induction

/-!
# The first greatest element of a list

Several functions go through a list with the best element so far, and exchange it only for one with
a strictly greater key.  What they end with is the first of the elements that have the greatest key.

The relation `IsFirstGreatest` says so without the fold.  A fold of this kind reaches it
(`isFirstGreatest_foldl`), and where the greatest key is that of one element only it names the same
element in whatever order the list is given (`IsFirstGreatest.eq_of_perm`).
-/

namespace LabeledSeries

variable {α κ : Type} [LinearOrder κ] {key : α → κ} {list list' : List α} {a a' : α}

/-- An element whose key is not reached before it in a list, and not exceeded after it. -/
def IsFirstGreatest (key : α → κ) (list : List α) (a : α) : Prop :=
  ∃ before after, list = before ++ a :: after ∧
    (∀ b ∈ before, key b < key a) ∧ ∀ b ∈ after, key b ≤ key a

namespace IsFirstGreatest

theorem singleton (a : α) : IsFirstGreatest key [a] a := ⟨[], [], rfl, by simp, by simp⟩

theorem mem (h : IsFirstGreatest key list a) : a ∈ list := by
  obtain ⟨before, after, rfl, -, -⟩ := h
  exact List.mem_append_right before (List.mem_cons_self ..)

theorem key_le (h : IsFirstGreatest key list a) {b : α} (hb : b ∈ list) : key b ≤ key a := by
  obtain ⟨before, after, rfl, hbefore, hafter⟩ := h
  rcases List.mem_append.mp hb with hb | hb
  · exact (hbefore b hb).le
  · rcases List.mem_cons.mp hb with rfl | hb
    · exact le_refl _
    · exact hafter b hb

/-- One more element at the end takes the place only if its key is greater. -/
theorem concat (h : IsFirstGreatest key list a) (b : α) :
    IsFirstGreatest key (list ++ [b]) (if key a < key b then b else a) := by
  split
  · rename_i hlt
    exact ⟨list, [], rfl, fun c hc => (h.key_le hc).trans_lt hlt, by simp⟩
  · rename_i hnot
    obtain ⟨before, after, rfl, hbefore, hafter⟩ := h
    refine ⟨before, after ++ [b], by simp, hbefore, fun c hc => ?_⟩
    rcases List.mem_append.mp hc with hc | hc
    · exact hafter c hc
    · exact List.mem_singleton.mp hc ▸ not_lt.mp hnot

/-- Where no other element has its key, the order of the list does not matter. -/
theorem eq_of_perm (h : IsFirstGreatest key list a) (h' : IsFirstGreatest key list' a')
    (hperm : list.Perm list') (honly : ∀ b ∈ list, key b = key a → b = a) : a' = a := by
  have hmem : a' ∈ list := hperm.mem_iff.mpr h'.mem
  exact honly a' hmem (le_antisymm (h.key_le hmem) (h'.key_le (hperm.mem_iff.mp h.mem)))

end IsFirstGreatest

/-- A fold that keeps its element unless the next one has a greater key ends with the first greatest
    element. -/
theorem isFirstGreatest_foldl {step : α → α → α}
    (hstep : ∀ best next, step best next = if key best < key next then next else best)
    (first : α) (rest : List α) :
    IsFirstGreatest key (first :: rest) (rest.foldl step first) := by
  -- The elements are taken in from the front, so the list grows at its end.
  induction rest using List.reverseRecOn with
  | nil => exact .singleton first
  | append_singleton rest next ih =>
    rw [List.foldl_append, List.foldl_cons, List.foldl_nil, hstep]
    exact ih.concat next

/-- A fold over the keys alone ends with the key of the first greatest element. -/
theorem exists_isFirstGreatest_max (key : α → κ) (first : α) (rest : List α) :
    ∃ a, IsFirstGreatest key (first :: rest) a ∧
      key a = rest.foldl (fun greatest next => max greatest (key next)) (key first) := by
  refine ⟨rest.foldl (fun best next => if key best < key next then next else best) first,
    isFirstGreatest_foldl (fun _ _ => rfl) first rest, ?_⟩
  -- The key of the element that a step keeps is the greater of the two keys.
  refine (List.foldl_hom key fun best next => ?_).symm
  split
  · rename_i hlt
    exact max_eq_right hlt.le
  · rename_i hnot
    exact max_eq_left (not_lt.mp hnot)

end LabeledSeries
