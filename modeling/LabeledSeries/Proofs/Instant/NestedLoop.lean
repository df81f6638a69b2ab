import LabeledSeries.Instant.Join
import LabeledSeries.Proofs.StableSort
import LabeledSeries.Proofs.Text.ByteOrder

/-!
# The join as a nested loop

`Join.run` sorts both sides and walks them once, with a cursor into the right side that never moves
back.  What it computes needs neither: each left row looks for the first right row with its key, and
the rows that come of it are listed in the order of the left keys.

- `Join.nestedLoop` — the join as it is meant: for each left row, a search through the right rows in
  the order in which they were given
- `Join.walk_eq_filterMap` — the walk over sorted sides is that search
- `Join.run_eq_nestedLoop` — so is the join

The invariant of the walk is that the right rows behind the cursor have keys smaller than every left
key that is still to come.
-/

namespace LabeledSeries

/-! ## §1 Reading and writing labels -/

theorem Labels.present?_eq_if (labels : Labels) (name : String) :
    labels.present? name =
      if labels.value name = "" then none else some (labels.value name) := by
  unfold Labels.present? Labels.value
  cases labels.get? name with
  | none => simp
  | some value => by_cases h : value = "" <;> simp [h]

/-- A row with texts written to labels, one after the other. -/
def Row.writeAll (row : Row) (entries : List (String × String)) : Row :=
  row.withLabels (row.labels.insertAll entries)

theorem Row.writeAll_nil (row : Row) : row.writeAll [] = row := rfl

theorem Row.writeAll_cons (row : Row) (name text : String) (entries : List (String × String)) :
    row.writeAll ((name, text) :: entries) = (row.setLabel name text).writeAll entries := rfl

/-- The rows in ascending order of the bytes of a label, rows of equal value in their old order. -/
def sortByBytes (key : String) (rows : InstantVector) : InstantVector :=
  rows.mergeSort fun a b =>
    decide (Text.utf8Bytes (a.labels.value key) ≤ Text.utf8Bytes (b.labels.value key))

theorem sortByLabel_eq_sortOn (key : String) (rows : InstantVector) :
    sortByLabel key rows = sortOn (fun row => row.labels.value key) rows := rfl

theorem pairwise_sortByLabel (key : String) (rows : InstantVector) :
    AscendingOn (fun row => row.labels.value key) (sortByLabel key rows) :=
  pairwise_sortOn (fun row => row.labels.value key) rows

theorem sortByLabel_eq_sortByBytes (key : String) (rows : InstantVector) :
    sortByLabel key rows = sortByBytes key rows := by
  unfold sortByLabel sortByBytes
  congr 1
  funext a b
  exact decide_eq_decide.mpr (Text.le_iff_utf8Bytes_le _ _)

/-- Rows that are kept or dropped one by one, each with what `g` reads of it unchanged. -/
theorem map_filterMap_sublist {α β : Type} {keep : α → Option α} {g : α → β}
    (h : ∀ a out, keep a = some out → g out = g a) (list : List α) :
    ((list.filterMap keep).map g).Sublist (list.map g) := by
  induction list with
  | nil => exact List.Sublist.refl _
  | cons a rest ih =>
    cases hkeep : keep a with
    | none => simpa [hkeep] using ih.cons (g a)
    | some out => simpa [hkeep, h a out hkeep] using ih

namespace Join

/-! ## §2 The join as it is meant -/

/-- What the copies write that mean the row's own value. -/
def ownWrites (copies : List (String × String)) (row : Row) : List (String × String) :=
  (copies.filter (fun copy => copy.1 = ownValue)).map fun copy => (copy.2, row.valueText)

/-- What a source other than the own value means: the partner's value, or a label of the partner
    that is not empty. -/
def partnerText? (partner : Row) (source : String) : Option String :=
  if source = partnerValue then some partner.valueText
  else if partner.labels.value source = "" then none
  else some (partner.labels.value source)

/-- What the copies write that come from a partner. -/
def partnerWrites (copies : List (String × String)) (partner : Row) : List (String × String) :=
  (copies.filter (fun copy => copy.1 ≠ ownValue)).filterMap fun copy =>
    (partnerText? partner copy.1).map fun text => (copy.2, text)

/-- The partner of a key: the first right row that has it.  The empty key has none. -/
def partner? (join : Join) (right : InstantVector) (key : String) : Option Row :=
  if key = "" then none else firstWith join.rightKey key right

/-- What becomes of one left row: it gets its own value first, then what its partner gives. -/
def nestedRow (join : Join) (right : InstantVector) (row : Row) : Option Row :=
  let own := row.writeAll (ownWrites join.copies row)
  match join.partner? right (row.labels.value join.leftKey), join.unmatched with
  | some partner, _ => some (own.writeAll (partnerWrites join.copies partner))
  | none, .keep => some own
  | none, .drop => none

/-- The join by search, in the order of the left keys. -/
def nestedLoop (join : Join) (left right : InstantVector) : InstantVector :=
  (sortByBytes join.leftKey left).filterMap (join.nestedRow right)

theorem nestedRow_sample {join : Join} {right : InstantVector} {row out : Row}
    (h : join.nestedRow right row = some out) : out.sample = row.sample := by
  simp only [nestedRow] at h
  split at h
  · cases h; rfl
  · cases h; rfl
  · cases h

/-! ## §3 Copies -/

private theorem foldl_setLabel_valueText (copies : List (String × String)) (row : Row) :
    copies.foldl (fun row copy => row.setLabel copy.2 row.valueText) row =
      row.writeAll (copies.map fun copy => (copy.2, row.valueText)) := by
  induction copies generalizing row with
  | nil => rfl
  | cons copy copies ih =>
    -- Setting a label leaves the sample, so later copies write the same text.
    have hvalue : (row.setLabel copy.2 row.valueText).valueText = row.valueText := rfl
    rw [List.foldl_cons, ih, hvalue, List.map_cons, Row.writeAll_cons]

theorem copyOwn_eq_writeAll (join : Join) (row : Row) :
    join.copyOwn row = row.writeAll (ownWrites join.copies row) :=
  foldl_setLabel_valueText _ row

theorem copyOne_eq_writeAll (partner row : Row) (copy : String × String) :
    copyOne partner row copy = row.writeAll (partnerWrites [copy] partner) := by
  obtain ⟨source, target⟩ := copy
  by_cases hown : source = ownValue
  · simp [copyOne, partnerWrites, hown, Row.writeAll_nil]
  · by_cases hpartner : source = partnerValue
    · subst hpartner
      simp [copyOne, partnerWrites, partnerText?, hown, Row.writeAll_cons, Row.writeAll_nil]
    · by_cases hempty : partner.labels.value source = ""
      · simp [copyOne, partnerWrites, partnerText?, Labels.present?_eq_if, hown, hpartner, hempty,
          Row.writeAll_nil]
      · simp [copyOne, partnerWrites, partnerText?, Labels.present?_eq_if, hown, hpartner, hempty,
          Row.writeAll_cons, Row.writeAll_nil]

private theorem partnerWrites_cons (copy : String × String) (copies : List (String × String))
    (partner : Row) :
    partnerWrites (copy :: copies) partner =
      partnerWrites [copy] partner ++ partnerWrites copies partner := by
  unfold partnerWrites
  rw [← List.singleton_append, List.filter_append, List.filterMap_append]

theorem copyPartner_eq_writeAll (join : Join) (partner row : Row) :
    join.copyPartner partner row = row.writeAll (partnerWrites join.copies partner) := by
  unfold copyPartner
  induction join.copies generalizing row with
  | nil => rfl
  | cons copy copies ih =>
    rw [List.foldl_cons, ih, copyOne_eq_writeAll, partnerWrites_cons copy copies]
    simp [Row.writeAll, Row.withLabels, NameMap.insertAll]

/-! ## §4 The walk -/

/-- Keys ascend along the right rows. -/
def RightAscending (join : Join) (right : InstantVector) : Prop :=
  AscendingOn (fun row => row.labels.value join.rightKey) right

theorem advance_sublist (join : Join) (row : Row) (right : InstantVector) :
    (join.advance row right).Sublist right := by
  simp only [advance]
  split
  · exact List.Sublist.refl _
  · exact List.dropWhile_sublist _

/-- What stands at the cursor decides, since a partner comes first behind all smaller keys. -/
theorem meet_advance {join : Join} {right : InstantVector} (h : join.RightAscending right)
    (row : Row) : join.meet row (join.advance row right) = join.nestedRow right row := by
  unfold meet nestedRow partner? firstWith advance
  by_cases hkey : row.labels.value join.leftKey = ""
  · -- Without a key the cursor stays, and there is no partner.
    cases hunmatched : join.unmatched <;> simp [hkey, copyOwn_eq_writeAll]
  · simp only [hkey, if_false]
    have hfirst := head?_dropWhile_lt _ h (row.labels.value join.leftKey)
    rw [← hfirst]
    cases right.dropWhile fun other =>
        decide (other.labels.value join.rightKey < row.labels.value join.leftKey) with
    | nil =>
      -- All keys on the right are smaller.
      cases hunmatched : join.unmatched <;> simp [copyOwn_eq_writeAll]
    | cons partner rest =>
      by_cases hpartner : partner.labels.value join.rightKey = row.labels.value join.leftKey
      · simp [hpartner, Option.filter_some, copyOwn_eq_writeAll, copyPartner_eq_writeAll]
      · -- The cursor stands at a greater key, so nothing behind it has the key either.
        cases hunmatched : join.unmatched <;>
          simp [hpartner, Option.filter_some, copyOwn_eq_writeAll]

/-- A row whose key is not smaller finds the same partner behind the cursor. -/
theorem nestedRow_advance (join : Join) {row later : Row} (right : InstantVector)
    (h : row.labels.value join.leftKey ≤ later.labels.value join.leftKey) :
    join.nestedRow (join.advance row right) later = join.nestedRow right later := by
  have hpartner : join.partner? (join.advance row right) (later.labels.value join.leftKey) =
      join.partner? right (later.labels.value join.leftKey) := by
    unfold partner? firstWith advance
    split
    · rfl
    · by_cases hkey : row.labels.value join.leftKey = ""
      · simp [hkey]
      · simp only [hkey, if_false]
        exact find?_dropWhile_lt _ h right
  simp only [nestedRow, hpartner]

/-- The walk over two sorted sides searches a partner for each left row. -/
theorem walk_eq_filterMap (join : Join) {left right : InstantVector}
    (hleft : AscendingOn (fun row => row.labels.value join.leftKey) left)
    (hright : join.RightAscending right) :
    join.walk left right = left.filterMap (join.nestedRow right) := by
  induction left generalizing right with
  | nil => rfl
  | cons row left ih =>
    have hrest : join.walk left (join.advance row right) =
        left.filterMap (join.nestedRow right) := by
      rw [ih hleft.tail (hright.sublist (join.advance_sublist row right))]
      refine List.filterMap_congr fun later hlater => ?_
      exact join.nestedRow_advance right ((List.pairwise_cons.mp hleft).1 later hlater)
    simp only [walk, meet_advance hright, hrest]
    cases hrow : join.nestedRow right row with
    | none => simp [hrow]
    | some out => simp [hrow]

/-- Sorting the right rows does not change which of them comes first for a key. -/
theorem nestedRow_sortByLabel (join : Join) (right : InstantVector) :
    join.nestedRow (sortByLabel join.rightKey right) = join.nestedRow right := by
  funext row
  have hpartner : join.partner? (sortByLabel join.rightKey right) (row.labels.value join.leftKey) =
      join.partner? right (row.labels.value join.leftKey) := by
    unfold partner? firstWith
    rw [sortByLabel_eq_sortOn, find?_key_sortOn (fun row : Row => row.labels.value join.rightKey)]
  simp only [nestedRow, hpartner]

theorem run_eq_filterMap (join : Join) (left right : InstantVector) :
    join.run left right = (sortByLabel join.leftKey left).filterMap (join.nestedRow right) := by
  have hleft := pairwise_sortByLabel join.leftKey left
  have hright := pairwise_sortByLabel join.rightKey right
  rw [run, walk_eq_filterMap join hleft hright, nestedRow_sortByLabel]

/-! ## §5 The join -/

/-- **The join is a nested loop**: its rows are those that the left rows, in stable order of the
    bytes of their keys, find by a search through the right rows as they were given.  A left row
    gives at most one row, with its own time and value. -/
theorem run_eq_nestedLoop (join : Join) (left right : InstantVector) :
    join.run left right = join.nestedLoop left right ∧
      ((join.run left right).map Row.sample).Sublist
        ((sortByBytes join.leftKey left).map Row.sample) := by
  have hrun : join.run left right = join.nestedLoop left right := by
    rw [run_eq_filterMap, sortByLabel_eq_sortByBytes, nestedLoop]
  refine ⟨hrun, ?_⟩
  rw [hrun]
  exact map_filterMap_sublist (fun _ _ h => nestedRow_sample h) _

end Join

end LabeledSeries
