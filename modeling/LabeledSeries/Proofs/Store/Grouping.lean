import Mathlib.Data.List.Induction
import Mathlib.Data.List.Nodup
import LabeledSeries.Store.Selection

/-!
# Grouping samples into series

Series are made by putting one sample after the other to the series of its labels.  What comes of it
is said here without that history: the label sets that occur, each once and in the order in which
they occur first, and with each its samples in their order (`grouped`).

In this form grouping commutes with every choice of label sets.  Whether samples are chosen by their
labels before they are grouped or series are chosen afterwards makes no difference
(`grouped_filter`), neither for the samples of a series nor for the order of the series.  And one
sample more is put to the series of its labels (`gather_concat_self`, `gather_concat_of_ne`).
-/

namespace LabeledSeries

/-! ## §1 First occurrences -/

section FirstOccurrences

variable {α : Type} [DecidableEq α]

theorem eraseDups_concat (list : List α) (a : α) :
    (list ++ [a]).eraseDups = if a ∈ list then list.eraseDups else list.eraseDups ++ [a] := by
  rw [List.eraseDups_append]
  by_cases h : a ∈ list <;> simp [List.removeAll, h, List.eraseDups_cons]

theorem nodup_eraseDups (list : List α) : list.eraseDups.Nodup := by
  induction list using List.reverseRecOn with
  | nil => simp
  | append_singleton list a ih =>
    rw [eraseDups_concat]
    split
    · exact ih
    · rename_i hnew
      refine List.nodup_append.mpr ⟨ih, List.nodup_singleton a, fun b hb c hc => ?_⟩
      rintro rfl
      rw [List.mem_singleton] at hc
      exact hnew (hc ▸ List.mem_eraseDups.mp hb)

theorem eraseDups_filter (p : α → Bool) (list : List α) :
    (list.filter p).eraseDups = list.eraseDups.filter p := by
  induction list using List.reverseRecOn with
  | nil => rfl
  | append_singleton list a ih =>
    rw [eraseDups_concat, List.filter_append, List.filter_singleton]
    cases hp : p a with
    | true =>
      -- An element that is kept is new in the part just if it is new in the list.
      rw [cond_true, eraseDups_concat, ih]
      by_cases hmem : a ∈ list <;> simp [hmem, hp]
    | false =>
      rw [cond_false, List.append_nil, ih]
      by_cases hmem : a ∈ list <;> simp [hmem, hp]

end FirstOccurrences

/-! ## §2 Grouping without history -/

/-- The series of a label set among labelled samples. -/
def gather (samples : List (Labels × Sample)) (labels : Labels) : Series :=
  { labels,
    samples := (samples.filter (fun entry => entry.1 = labels)).map Prod.snd,
    range := none }

/-- Labelled samples by label set, in the order in which the label sets occur first. -/
def grouped (samples : List (Labels × Sample)) : List Series :=
  (samples.map Prod.fst).eraseDups.map (gather samples)

theorem gather_concat_self (samples : List (Labels × Sample)) (labels : Labels) (sample : Sample) :
    gather (samples ++ [(labels, sample)]) labels =
      { gather samples labels with samples := (gather samples labels).samples ++ [sample] } := by
  simp [gather]

theorem gather_concat_of_ne (samples : List (Labels × Sample)) {labels other : Labels}
    (sample : Sample) (h : other ≠ labels) :
    gather (samples ++ [(labels, sample)]) other = gather samples other := by
  simp [gather, Ne.symm h]

theorem gather_of_not_mem {samples : List (Labels × Sample)} {labels : Labels}
    (h : labels ∉ samples.map Prod.fst) : (gather samples labels).samples = [] := by
  simp only [gather, List.map_eq_nil_iff, List.filter_eq_nil_iff, decide_eq_true_eq]
  rintro entry hentry rfl
  exact h (List.mem_map_of_mem hentry)

/-! ## §3 Facts about groups -/

/-- Choosing samples by their labels and choosing series by theirs is the same. -/
theorem grouped_filter (samples : List (Labels × Sample)) (p : Labels → Bool) :
    grouped (samples.filter (fun entry => p entry.1)) =
      (grouped samples).filter (fun series => p series.labels) := by
  have hlabels : (samples.filter (fun entry => p entry.1)).map Prod.fst =
      (samples.map Prod.fst).filter p := by
    rw [List.filter_map]; rfl
  rw [grouped, hlabels, eraseDups_filter, grouped, List.filter_map]
  refine List.map_congr_left fun labels hmem => ?_
  have hp : p labels = true := by
    simpa using (List.mem_filter.mp hmem).2
  -- Among the samples of one label set the condition holds of all or of none.
  simp only [gather, List.filter_filter]
  congr 2
  refine List.filter_congr fun entry _ => ?_
  by_cases h : entry.1 = labels <;> simp [h, hp]

theorem grouped_map_labels (samples : List (Labels × Sample)) :
    (grouped samples).map Series.labels = (samples.map Prod.fst).eraseDups := by
  simp [grouped, Function.comp_def, gather]

/-- No two groups have the same labels. -/
theorem nodup_grouped_labels (samples : List (Labels × Sample)) :
    ((grouped samples).map Series.labels).Nodup := by
  rw [grouped_map_labels]
  exact nodup_eraseDups _

theorem mem_grouped {samples : List (Labels × Sample)} {series : Series}
    (h : series ∈ grouped samples) :
    series = gather samples series.labels ∧ series.labels ∈ samples.map Prod.fst := by
  obtain ⟨labels, hlabels, rfl⟩ := List.mem_map.mp h
  exact ⟨rfl, List.mem_eraseDups.mp hlabels⟩

/-- Every group has a sample. -/
theorem samples_ne_nil_of_mem_grouped {samples : List (Labels × Sample)} {series : Series}
    (h : series ∈ grouped samples) : series.samples ≠ [] := by
  obtain ⟨heq, hmem⟩ := mem_grouped h
  obtain ⟨entry, hentry, hlabels⟩ := List.mem_map.mp hmem
  rw [heq]
  have hsample : entry.2 ∈ (gather samples series.labels).samples :=
    List.mem_map_of_mem (List.mem_filter.mpr ⟨hentry, decide_eq_true hlabels⟩)
  exact List.ne_nil_of_mem hsample

theorem mem_gather {samples : List (Labels × Sample)} {labels : Labels} {sample : Sample} :
    sample ∈ (gather samples labels).samples ↔ (labels, sample) ∈ samples := by
  simp [gather]

/-- The samples of a group are among those that were grouped, with its labels. -/
theorem mem_of_mem_grouped {samples : List (Labels × Sample)} {series : Series} {sample : Sample}
    (h : series ∈ grouped samples) (hsample : sample ∈ series.samples) :
    (series.labels, sample) ∈ samples := by
  rw [(mem_grouped h).1] at hsample
  exact mem_gather.mp hsample

/-- A sample that is grouped is in the group of its labels. -/
theorem gather_mem_grouped {samples : List (Labels × Sample)} {labels : Labels} {sample : Sample}
    (h : (labels, sample) ∈ samples) : gather samples labels ∈ grouped samples :=
  List.mem_map_of_mem (List.mem_eraseDups.mpr (List.mem_map.mpr ⟨_, h, rfl⟩))

end LabeledSeries
