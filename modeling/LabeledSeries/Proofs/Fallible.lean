import Mathlib.Data.List.Forall2
import LabeledSeries.Fault

/-!
# Computations that may fail

A computation of several steps succeeds if each of its steps does, on what the steps before it gave.

Two things are said of computations as a whole and proved step by step: that they fail with faults
of one sort only (`FailsOnlyWith`), and that two of them have the same outcome (`SameOutcome`).
-/

namespace LabeledSeries

variable {ε α β : Type}

theorem bind_eq_ok_iff {first : Except ε α} {next : α → Except ε β} {b : β} :
    (first >>= next) = .ok b ↔ ∃ a, first = .ok a ∧ next a = .ok b := by
  cases first with
  | error fault => simp [bind, Except.bind]
  | ok a => simp [bind, Except.bind]

theorem map_eq_ok_iff {computed : Except ε α} {f : α → β} {b : β} :
    (do return f (← computed)) = .ok b ↔ ∃ a, computed = .ok a ∧ f a = b := by
  cases computed with
  | error fault => simp [bind, Except.bind]
  | ok a => simp [bind, Except.bind, pure, Except.pure]

theorem fmap_eq_ok_iff {computed : Except ε α} {f : α → β} {b : β} :
    f <$> computed = .ok b ↔ ∃ a, computed = .ok a ∧ f a = b := by
  cases computed with
  | error fault => simp [Functor.map, Except.map]
  | ok a => simp [Functor.map, Except.map]

/-- A step for each element of a list that gives nothing. -/
theorem forM_eq_ok_iff {f : α → Except ε Unit} {list : List α} :
    list.forM f = .ok () ↔ ∀ a ∈ list, f a = .ok () := by
  induction list with
  | nil => exact ⟨fun _ => by simp, fun _ => rfl⟩
  | cons a list ih =>
    have hstep : (a :: list).forM f = f a >>= fun _ => list.forM f := rfl
    rw [hstep, bind_eq_ok_iff, List.forall_mem_cons, ← ih]
    exact ⟨fun ⟨_, ha, hlist⟩ => ⟨ha, hlist⟩, fun ⟨ha, hlist⟩ => ⟨(), ha, hlist⟩⟩

/-- One step for each element of a list. -/
theorem forall₂_of_mapM_eq_ok {f : α → Except ε β} {list : List α} {results : List β}
    (h : list.mapM f = .ok results) : List.Forall₂ (fun a b => f a = .ok b) list results := by
  induction list generalizing results with
  | nil =>
    cases h
    exact .nil
  | cons a list ih =>
    rw [List.mapM_cons] at h
    obtain ⟨b, hb, h⟩ := bind_eq_ok_iff.mp h
    obtain ⟨others, hothers, rfl⟩ := map_eq_ok_iff.mp h
    exact .cons hb (ih hothers)

/-- Something is made for each element of a list. -/
theorem exists_mem_of_forall₂ {made : α → β → Prop} {list : List α} {results : List β}
    (h : List.Forall₂ made list results) : ∀ a ∈ list, ∃ b ∈ results, made a b := by
  induction h with
  | nil => simp
  | @cons a b _ _ hb _ ih =>
    refine List.forall_mem_cons.mpr ⟨⟨b, List.mem_cons_self .., hb⟩, fun a ha => ?_⟩
    obtain ⟨b, hmem, hmade⟩ := ih a ha
    exact ⟨b, List.mem_cons_of_mem _ hmem, hmade⟩

/-! ## Faults of one sort -/

/-- A computation that fails, if it does, with a fault of a sort. -/
def FailsOnlyWith (sort : ε → Prop) (computed : Except ε α) : Prop :=
  ∀ fault, computed = .error fault → sort fault

namespace FailsOnlyWith

variable {sort : ε → Prop}

theorem ok (a : α) : FailsOnlyWith sort (.ok a : Except ε α) := by
  intro fault h
  cases h

theorem error {fault : ε} (h : sort fault) : FailsOnlyWith sort (.error fault : Except ε α) := by
  rintro _ ⟨⟩
  exact h

theorem bind {first : Except ε α} {next : α → Except ε β} (hfirst : FailsOnlyWith sort first)
    (hnext : ∀ a, FailsOnlyWith sort (next a)) : FailsOnlyWith sort (first >>= next) := by
  cases first with
  | error fault => exact error (hfirst fault rfl)
  | ok a => exact hnext a

theorem map {computed : Except ε α} (h : FailsOnlyWith sort computed) (f : α → β) :
    FailsOnlyWith sort (f <$> computed) := by
  cases computed with
  | error fault => exact error (h fault rfl)
  | ok a => exact ok (f a)

end FailsOnlyWith

/-! ## Two computations -/

/-- Two computations that fail with the same fault, or succeed with related results. -/
inductive SameOutcome (related : α → β → Prop) : Except ε α → Except ε β → Prop where
  | error (fault : ε) : SameOutcome related (.error fault) (.error fault)
  | ok {a : α} {b : β} (h : related a b) : SameOutcome related (.ok a) (.ok b)

namespace SameOutcome

variable {γ δ : Type} {related : α → β → Prop} {computed : Except ε α} {other : Except ε β}

theorem ok_iff {a : α} {b : β} :
    SameOutcome related (.ok a : Except ε α) (.ok b) ↔ related a b := by
  refine ⟨fun h => ?_, .ok⟩
  cases h with
  | ok hab => exact hab

theorem bind {related' : γ → δ → Prop} {next : α → Except ε γ} {next' : β → Except ε δ}
    (h : SameOutcome related computed other)
    (hnext : ∀ a b, related a b → SameOutcome related' (next a) (next' b)) :
    SameOutcome related' (computed >>= next) (other >>= next') := by
  cases h with
  | error fault => exact .error fault
  | ok hab => exact hnext _ _ hab

/-- Computations with the same outcome fail with the same faults. -/
theorem eq_error_iff (h : SameOutcome related computed other) (fault : ε) :
    computed = .error fault ↔ other = .error fault := by
  cases h with
  | error fault' =>
    constructor
    · rintro ⟨⟩
      rfl
    · rintro ⟨⟩
      rfl
  | ok _ => exact ⟨nofun, nofun⟩

theorem imp {related' : α → β → Prop} (h : SameOutcome related computed other)
    (himp : ∀ a b, related a b → related' a b) : SameOutcome related' computed other := by
  cases h with
  | error fault => exact .error fault
  | ok hab => exact .ok (himp _ _ hab)

end SameOutcome

end LabeledSeries
