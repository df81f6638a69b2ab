import LabeledSeries.NameMap
import LabeledSeries.Text.Name

/-!
# Label sets

A label set identifies a time series: a finite map from names to values, listed in name order.  A
label that is missing and one whose value is empty read the same through `Labels.value`, and
`Labels.assign` keeps empty values out.

The *signature* of a label set is the byte sequence that stands for it where series are grouped.
Bytes `0xFF` occur in no text, so they separate names and values.
-/

namespace LabeledSeries

/-- A set of labels: values keyed by name. -/
abbrev Labels := NameMap String

/-- The label that holds the name of a metric. -/
def metricLabel : String := "__name__"

namespace Labels

/-- The value of a label; a missing label reads as the empty text. -/
def value (labels : Labels) (name : String) : String := (labels.get? name).getD ""

/-- The value of a label unless it is missing or empty. -/
def present? (labels : Labels) (name : String) : Option String :=
  (labels.get? name).filter (fun value => value != "")

/-- Store a value under a name, where the empty value removes the label. -/
def assign (labels : Labels) (name value : String) : Labels :=
  if value = "" then labels.erase name else labels.insert name value

/-- Store values one after the other. -/
def assignAll (labels : Labels) (entries : List (String × String)) : Labels :=
  entries.foldl (fun labels entry => labels.assign entry.1 entry.2) labels

/-- Whether two neighbours have one name. -/
def repeatsName : List (String × String) → Bool
  | first :: second :: rest => first.1 == second.1 || repeatsName (second :: rest)
  | _ => false

/-- Pairs in the order of their names, of which no neighbours have one name, ascend. -/
theorem ascending_of_repeatsName {pairs : List (String × String)}
    (hordered : pairs.Pairwise (fun a b => a.1 ≤ b.1)) (h : repeatsName pairs = false) :
    Ascending pairs := by
  induction pairs with
  | nil => exact List.Pairwise.nil
  | cons first rest ih =>
    obtain ⟨hfirst, hrest⟩ := List.pairwise_cons.mp hordered
    cases rest with
    | nil => exact List.pairwise_singleton _ _
    | cons second rest =>
      obtain ⟨hne, hlater⟩ := Bool.or_eq_false_iff.mp h
      have hascending := ih hrest hlater
      have hlt : first.1 < second.1 :=
        Std.lt_of_le_of_ne (hfirst second (List.mem_cons_self ..)) (by simpa using hne)
      refine List.pairwise_cons.mpr ⟨fun entry hentry => ?_, hascending⟩
      rcases List.mem_cons.mp hentry with rfl | hentry
      · exact hlt
      · exact String.lt_trans hlt ((List.pairwise_cons.mp hascending).1 entry hentry)

/-- Pairs in the order of their names, those of one name in their old order. -/
def sortPairs (pairs : List (String × String)) : List (String × String) :=
  pairs.mergeSort (fun a b => decide (a.1 ≤ b.1))

theorem pairwise_sortPairs (pairs : List (String × String)) :
    (sortPairs pairs).Pairwise (fun a b => a.1 ≤ b.1) := by
  have htrans (a b c : String × String) (hab : decide (a.1 ≤ b.1) = true)
      (hbc : decide (b.1 ≤ c.1) = true) : decide (a.1 ≤ c.1) = true :=
    decide_eq_true (String.le_trans (of_decide_eq_true hab) (of_decide_eq_true hbc))
  have htotal (a b : String × String) : (decide (a.1 ≤ b.1) || decide (b.1 ≤ a.1)) = true := by
    simpa using String.le_total a.1 b.1
  exact (List.pairwise_mergeSort htrans htotal pairs).imp of_decide_eq_true

/-- The label set of a list of pairs in any order, unless a name occurs twice: pairs of one name are
    neighbours once the pairs are sorted. -/
def ofPairs? (pairs : List (String × String)) : Option Labels :=
  if h : repeatsName (sortPairs pairs) = false then
    some {
      entries := sortPairs pairs
      ascending := ascending_of_repeatsName (pairwise_sortPairs pairs) h }
  else none

/-- A label set without the labels whose value is empty. -/
def withoutEmpty (labels : Labels) : Labels := labels.filter (fun _ value => value != "")

/-- The bytes that identify the series of a label set. -/
def signature (labels : Labels) : List UInt8 :=
  labels.entries.flatMap fun (name, value) =>
    Text.utf8Bytes name ++ 0xFF :: (Text.utf8Bytes value ++ [0xFF])

end Labels

end LabeledSeries
