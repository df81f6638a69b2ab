import Mathlib.Order.Lattice
import Mathlib.Data.List.Basic
import LabeledSeries.Value

/-!
# Stable sorting by a key

Vectors are sorted by the value of a label and samples by their time.  Both sort by a key, and keep
elements of equal keys in their old order.

A sort of this kind is determined by two facts: keys ascend (`pairwise_sortOn`), and the elements of
one key are those that the list had, in its order (`filter_key_sortOn`).  Two lists with the first
property that agree in the second are equal (`eq_of_ascending`), so everything else about stable
sorting follows without a look at how it is done.
-/

namespace LabeledSeries

variable {α κ : Type} [LinearOrder κ] (key : α → κ)

/-! ## §1 Sorting by a key -/

/-- A list in ascending order of a key, elements of equal keys in their old order. -/
def sortOn (list : List α) : List α :=
  list.mergeSort (fun a b => decide (key a ≤ key b))

/-- Keys ascend along a list. -/
def AscendingOn (list : List α) : Prop := list.Pairwise (fun a b => key a ≤ key b)

private theorem sortOn_trans (a b c : α) (hab : decide (key a ≤ key b) = true)
    (hbc : decide (key b ≤ key c) = true) : decide (key a ≤ key c) = true :=
  decide_eq_true ((of_decide_eq_true hab).trans (of_decide_eq_true hbc))

private theorem sortOn_total (a b : α) :
    (decide (key a ≤ key b) || decide (key b ≤ key a)) = true := by
  simp only [Bool.or_eq_true, decide_eq_true_eq]
  exact le_total (key a) (key b)

theorem sortOn_perm (list : List α) : (sortOn key list).Perm list :=
  List.mergeSort_perm list _

@[simp] theorem mem_sortOn {a : α} {list : List α} : a ∈ sortOn key list ↔ a ∈ list :=
  (sortOn_perm key list).mem_iff

theorem pairwise_sortOn (list : List α) : AscendingOn key (sortOn key list) := by
  have h := List.pairwise_mergeSort (sortOn_trans key) (sortOn_total key) list
  exact h.imp of_decide_eq_true

/-- **Stability**: sorting keeps the elements of each key in their order. -/
theorem filter_key_sortOn (k : κ) (list : List α) :
    (sortOn key list).filter (fun a => key a = k) = list.filter (fun a => key a = k) := by
  -- The elements of one key are a sorted part of the list, so they are a part of the sorted list,
  -- and there are as many of them on both sides.
  have hsorted : (list.filter (fun a => key a = k)).Pairwise
      (fun a b => decide (key a ≤ key b) = true) := by
    refine List.pairwise_of_forall_mem_list fun a ha b hb => ?_
    simp only [List.mem_filter, decide_eq_true_eq] at ha hb ⊢
    exact le_of_eq (ha.2.trans hb.2.symm)
  have hpart : (list.filter (fun a => key a = k)).Sublist (sortOn key list) :=
    List.sublist_mergeSort (sortOn_trans key) (sortOn_total key) hsorted List.filter_sublist
  have hpart' := hpart.filter (fun a => key a = k)
  rw [List.filter_filter, funext (fun a => Bool.and_self _)] at hpart'
  exact (hpart'.eq_of_length ((sortOn_perm key list).filter _).length_eq.symm).symm

/-! ## §2 What determines a sorted list -/

/-- Sorted lists that agree in the elements of every key are equal. -/
theorem eq_of_ascending {xs ys : List α} (hx : AscendingOn key xs) (hy : AscendingOn key ys)
    (h : ∀ k, xs.filter (fun a => key a = k) = ys.filter (fun a => key a = k)) : xs = ys := by
  have hmem : ∀ {xs ys : List α},
      (∀ k, xs.filter (fun a => key a = k) = ys.filter (fun a => key a = k)) →
      ∀ a ∈ xs, a ∈ ys := by
    intro xs ys h a ha
    have ha' : a ∈ xs.filter (fun b => key b = key a) := by simpa using ha
    rw [h] at ha'
    exact (List.mem_filter.mp ha').1
  induction xs generalizing ys with
  | nil =>
    cases ys with
    | nil => rfl
    | cons y ys => exact absurd (hmem (fun k => (h k).symm) y (List.mem_cons_self ..)) (by simp)
  | cons x xs ih =>
    cases ys with
    | nil => exact absurd (hmem h x (List.mem_cons_self ..)) (by simp)
    | cons y ys =>
      -- Each head has the least key of its list, and the lists have the same elements.
      have hxy : key x ≤ key y := by
        have hy := hmem (fun k => (h k).symm) y (List.mem_cons_self ..)
        rcases List.mem_cons.mp hy with rfl | hy'
        · exact le_refl _
        · exact (List.pairwise_cons.mp hx).1 y hy'
      have hyx : key y ≤ key x := by
        have hx' := hmem h x (List.mem_cons_self ..)
        rcases List.mem_cons.mp hx' with rfl | hx'
        · exact le_refl _
        · exact (List.pairwise_cons.mp hy).1 x hx'
      have hkey : key y = key x := le_antisymm hyx hxy
      have hhead := h (key x)
      simp only [List.filter_cons, hkey, decide_true, if_true, List.cons.injEq] at hhead
      obtain ⟨rfl, -⟩ := hhead
      congr 1
      -- The tails agree in the elements of a key, whether the head has that key or not.
      refine ih hx.tail hy.tail fun k => ?_
      have hk := h k
      by_cases hxk : key x = k
      · simpa [List.filter_cons, hxk] using hk
      · simpa [List.filter_cons, hxk] using hk

/-- Sorting a part of a list, chosen by any condition, gives that part of the sorted list. -/
theorem sortOn_filter (p : α → Bool) (list : List α) :
    sortOn key (list.filter p) = (sortOn key list).filter p := by
  refine eq_of_ascending key (pairwise_sortOn key _) ((pairwise_sortOn key _).filter p) fun k => ?_
  -- The two choices commute, and sorting does not change the elements of a key.
  rw [filter_key_sortOn, List.filter_comm _ p, List.filter_comm _ p (sortOn key list),
    filter_key_sortOn]

/-! ## §3 The first element of a key -/

/-- The first element of a key is the same before and after sorting. -/
theorem find?_key_sortOn (k : κ) (list : List α) :
    (sortOn key list).find? (fun a => key a = k) = list.find? (fun a => key a = k) := by
  rw [← List.head?_filter, ← List.head?_filter, filter_key_sortOn]

/-- Dropping smaller keys loses no element of a key that is not smaller. -/
theorem find?_dropWhile_lt {k bound : κ} (h : bound ≤ k) (list : List α) :
    (list.dropWhile (fun a => decide (key a < bound))).find? (fun a => key a = k) =
      list.find? (fun a => key a = k) := by
  induction list with
  | nil => rfl
  | cons a rest ih =>
    by_cases hlt : key a < bound
    · -- What is dropped has a smaller key than the one that is looked for.
      have hne : key a ≠ k := (hlt.trans_le h).ne
      simp [hlt, hne, ih]
    · simp [hlt]

/-- Once smaller keys are dropped from a sorted list, an element of the key comes first or there is
    none. -/
theorem head?_dropWhile_lt {list : List α} (h : AscendingOn key list) (k : κ) :
    (list.dropWhile (fun a => decide (key a < k))).head?.filter (fun a => key a = k) =
      list.find? (fun a => key a = k) := by
  induction list with
  | nil => rfl
  | cons a rest ih =>
    rcases lt_trichotomy (key a) k with hlt | heq | hgt
    · simpa [hlt, hlt.ne] using ih h.tail
    · simp [heq]
    · -- Keys only grow from here, so the key does not occur.
      have hrest : rest.find? (fun b => key b = k) = none := by
        simp only [List.find?_eq_none, decide_eq_true_eq]
        intro b hb
        exact (hgt.trans_le ((List.pairwise_cons.mp h).1 b hb)).ne'
      simp [hgt.not_gt, hgt.ne', hrest]

end LabeledSeries
