import LabeledSeries.Labels
import LabeledSeries.Proofs.Text.ByteOrder
import LabeledSeries.Proofs.Text.Utf8

/-!
# Signatures of label sets

A byte that no text holds follows every name and every value in the signature of a label set.  So
the signature can be cut into names and values again in one way only, and it determines the label
set (`Labels.signature_inj`), though the names and values are arbitrary.

A digest of signatures identifies label sets, too, as long as it has no collision among those that
occur (`Distinguishes.digest_eq_iff`).
-/

namespace LabeledSeries

/-- The first occurrence of a separator is where it is in both lists. -/
private theorem append_separator_inj {α : Type} {separator : α} {a b rest rest' : List α}
    (ha : separator ∉ a) (hb : separator ∉ b) :
    a ++ separator :: rest = b ++ separator :: rest' ↔ a = b ∧ rest = rest' := by
  induction a generalizing b with
  | nil =>
    cases b with
    | nil => simp
    | cons byte b =>
      have hne : separator ≠ byte := fun heq => hb (heq ▸ List.mem_cons_self ..)
      simp [hne]
  | cons byte a ih =>
    obtain ⟨hbyte, ha⟩ := not_or.mp (mt List.mem_cons.mpr ha)
    cases b with
    | nil => simp [Ne.symm hbyte]
    | cons byte' b =>
      have hrest := ih ha (not_or.mp (mt List.mem_cons.mpr hb)).2
      simp [hrest, and_assoc]

/-- **A signature determines its label set**, whatever the names and values are. -/
theorem Labels.signature_inj (labels other : Labels) :
    labels.signature = other.signature ↔ labels = other := by
  refine ⟨fun h => NameMap.ext ?_, congrArg Labels.signature⟩
  unfold Labels.signature at h
  generalize labels.entries = entries at h ⊢
  generalize other.entries = entries' at h ⊢
  induction entries generalizing entries' with
  | nil =>
    cases entries' with
    | nil => rfl
    | cons entry' entries' => simp at h
  | cons entry entries ih =>
    cases entries' with
    | nil => simp at h
    | cons entry' entries' =>
      -- The name ends at the first separator, and the value at the next one.
      simp only [List.flatMap_cons, List.append_assoc, List.cons_append, List.nil_append] at h
      obtain ⟨hname, h⟩ := (append_separator_inj (Text.separator_not_mem _)
        (Text.separator_not_mem _)).mp h
      obtain ⟨hvalue, h⟩ := (append_separator_inj (Text.separator_not_mem _)
        (Text.separator_not_mem _)).mp h
      rw [ih _ h, Prod.ext ((Text.utf8Bytes_inj _ _).mp hname) ((Text.utf8Bytes_inj _ _).mp hvalue)]

/-- No two signatures of some label sets have one digest. -/
def Distinguishes {δ : Type} (digest : List UInt8 → δ) (sets : List Labels) : Prop :=
  ∀ labels ∈ sets, ∀ other ∈ sets, digest labels.signature = digest other.signature →
    labels.signature = other.signature

namespace Distinguishes

variable {δ : Type} {digest : List UInt8 → δ} {sets : List Labels}

theorem digest_eq_iff (h : Distinguishes digest sets) {labels other : Labels}
    (hlabels : labels ∈ sets) (hother : other ∈ sets) :
    digest labels.signature = digest other.signature ↔ labels = other := by
  refine ⟨fun hdigest => ?_, fun heq => heq ▸ rfl⟩
  exact (Labels.signature_inj labels other).mp (h labels hlabels other hother hdigest)

theorem mono {fewer : List Labels} (h : Distinguishes digest sets)
    (hfewer : ∀ labels ∈ fewer, labels ∈ sets) : Distinguishes digest fewer :=
  fun labels hlabels other hother => h labels (hfewer labels hlabels) other (hfewer other hother)

/-- Signatures that are not digested have no collisions. -/
theorem undigested (sets : List Labels) : Distinguishes id sets :=
  fun _ _ _ _ h => h

end Distinguishes

end LabeledSeries
