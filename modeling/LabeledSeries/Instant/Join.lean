import LabeledSeries.Instant.Parameters

/-!
# Joins of two vectors

A join walks two vectors, each in stable order of its match key, and gives every left row the labels
of the first right row with the same key.  Rows without a key match nothing.

## §1 Plans

What a join copies is a list of pairs of a source and a target label.  The two value names mean
values instead of labels: the row's own, which every row that is kept receives, and its partner's.

## §2 Copies

## §3 The walk

`Join.walk` goes through both sides once.  The right side only moves forward, and only past rows
whose key is smaller than the left key at hand; so left rows of equal keys meet the same right row,
the first of its key.
-/

namespace LabeledSeries

/-! ## §1 Plans -/

/-- What becomes of left rows without a partner. -/
inductive Unmatched where
  | drop
  | keep
  deriving Repr, DecidableEq

/-- A join: the keys that have to agree, the copies it makes, and what it does with the rest. -/
structure Join where
  leftKey : String
  rightKey : String
  copies : List (String × String)
  unmatched : Unmatched
  deriving Repr, DecidableEq

namespace Join

/-- The join of `"left|right"` and a list of `source:target` texts. -/
def ofSpecs (function : String) (unmatched : Unmatched) (matchKey : String)
    (specs : List String) : Except Fault Join := do
  let (leftKey, rightKey) ← Parameters.namePair function '|' matchKey
  let copies ← Parameters.copySpecs function specs
  return { leftKey, rightKey, copies, unmatched }

/-- Fault the first pair whose source or target is not a label name. -/
def checkCopies (function : String) : List (String × String) → Except Fault Unit
  | [] => .ok ()
  | (source, target) :: copies => do
    Parameters.checkName function source
    Parameters.checkName function target
    checkCopies function copies

/-- The join on one shared key that keeps every left row and copies by a list of alternating sources
    and targets. -/
def ofPairs (function : String) (matchKey : String) (arguments : List String) :
    Except Fault Join := do
  Parameters.checkName function matchKey
  let copies ← Parameters.pairs function arguments
  checkCopies function copies
  return { leftKey := matchKey, rightKey := matchKey, copies, unmatched := .keep }

/-! ## §2 Copies -/

/-- Give a row its own value under every target that asks for it. -/
def copyOwn (join : Join) (row : Row) : Row :=
  (join.copies.filter (fun copy => copy.1 = ownValue)).foldl
    (fun row copy => row.setLabel copy.2 row.valueText) row

/-- Make one copy from a partner; a label that the partner lacks or has empty changes nothing. -/
def copyOne (partner : Row) (row : Row) (copy : String × String) : Row :=
  if copy.1 = ownValue then row
  else if copy.1 = partnerValue then row.setLabel copy.2 partner.valueText
  else match partner.labels.present? copy.1 with
    | some value => row.setLabel copy.2 value
    | none => row

/-- Make the copies that come from a partner, in order. -/
def copyPartner (join : Join) (partner row : Row) : Row :=
  join.copies.foldl (copyOne partner) row

/-! ## §3 The walk -/

/-- What becomes of one left row, given its key and the right rows not smaller than it. -/
def meet (join : Join) (row : Row) (right : InstantVector) : Option Row :=
  let key := row.labels.value join.leftKey
  let own := join.copyOwn row
  let alone := match join.unmatched with
    | .drop => none
    | .keep => some own
  if key = "" then alone
  else match right with
    | [] => alone
    | partner :: _ =>
      if partner.labels.value join.rightKey = key then some (join.copyPartner partner own)
      else alone

/-- The right rows that are left for a left row: those before them have smaller keys.  A row without
    a key moves nothing. -/
def advance (join : Join) (row : Row) (right : InstantVector) : InstantVector :=
  let key := row.labels.value join.leftKey
  if key = "" then right
  else right.dropWhile (fun other => decide (other.labels.value join.rightKey < key))

/-- Walk two sorted sides. -/
def walk (join : Join) : InstantVector → InstantVector → InstantVector
  | [], _ => []
  | row :: left, right =>
    let right := join.advance row right
    match join.meet row right with
    | some out => out :: walk join left right
    | none => walk join left right

/-- The join of two vectors, in the order of the left keys. -/
def run (join : Join) (left right : InstantVector) : InstantVector :=
  join.walk (sortByLabel join.leftKey left) (sortByLabel join.rightKey right)

end Join

end LabeledSeries
