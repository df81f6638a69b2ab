import LabeledSeries.Instant.Parameters

/-!
# Correlation of several vectors

A correlation labels the rows of one vector with the values of the rows that agree with them in
other vectors.  Where several rows of a vector agree with a row, the first of them counts.

## §1 Look-ups

A look-up lists the rows of a vector that carry a key, by the value of the key; the first row of a
value comes first.

## §2 One partner

`PartnerValue` copies the value of the partner in one other vector, keeps rows without a key and
drops rows that have a key but no partner.

## §3 Several vectors, one key each

## §4 Several vectors, all keys at once
-/

namespace LabeledSeries

/-! ## §1 Look-ups -/

/-- The values of rows under the keys that `keyOf` finds; rows without a key are left out. -/
def lookupOf {κ : Type} (keyOf : Labels → Option κ) (rows : InstantVector) : List (κ × Float) :=
  rows.filterMap (fun row => (keyOf row.labels).map (fun key => (key, row.sample.value)))

/-- The value of the first row with a key. -/
def lookupFind {κ : Type} [DecidableEq κ] (key : κ) (entries : List (κ × Float)) : Option Float :=
  (entries.find? (fun entry => entry.1 = key)).map Prod.snd

/-- Label a row, target by target, with the values that look-ups hold under one key. -/
def labelFrom {κ : Type} [DecidableEq κ] (key : κ) :
    -- What is read are the look-ups alone, so a target that is a key changes no other.
    List (List (κ × Float)) → List String → Row → Row
  | entries :: lookups, target :: targets, row =>
    let row := match lookupFind key entries with
      | some x => row.setLabel target (valueText x)
      | none => row
    labelFrom key lookups targets row
  | _, _, row => row

/-- Label the rows of a vector that have a key: with their own value under the first target, and
    with those of the look-ups under the others. -/
def correlate {κ : Type} [DecidableEq κ] (keyOf : Labels → Option κ)
    (lookups : List (List (κ × Float))) (target : String) (targets : List String)
    (rows : InstantVector) : InstantVector :=
  rows.filterMap fun row =>
    (keyOf row.labels).map fun key =>
      labelFrom key lookups targets (row.setLabel target row.valueText)

/-! ## §2 One partner -/

/-- Copy the value of the first partner under `target`, the partners being the rows of another
    vector with the same value of `key`. -/
structure PartnerValue where
  key : String
  target : String
  deriving Repr, DecidableEq

namespace PartnerValue

/-- The correlation on a key that labels with one target. -/
def ofNames (function key target : String) : Except Fault PartnerValue := do
  Parameters.checkName function key
  Parameters.checkName function target
  return { key, target }

/-- Label the rows that have a partner, keep those without a key and drop the others. -/
def run (plan : PartnerValue) (left right : InstantVector) : InstantVector :=
  left.filterMap fun row =>
    let key := row.labels.value plan.key
    if key = "" then some row
    else (firstWith plan.key key right).map fun partner =>
      row.setLabel plan.target partner.valueText

end PartnerValue

/-! ## §3 Several vectors, one key each -/

/-- Match each vector on its own key, or all of them on one. -/
structure KeyPerVector where
  keys : List String
  targets : List String
  deriving Repr, DecidableEq

namespace KeyPerVector

/-- The correlation of a number of vectors on keys and targets written with bars between them. -/
def ofTexts (function keys targets : String) (vectors : Nat) : Except Fault KeyPerVector := do
  let keys ← Parameters.nameList function '|' keys
  let targets ← Parameters.nameList function '|' targets
  if keys.length ≠ 1 ∧ keys.length ≠ vectors then
    throw (.invalidParameters function (.keyCount keys.length vectors))
  Parameters.checkTargetCount function targets.length vectors
  return { keys, targets }

/-- The key of the vector at a position: its own, or the shared one. -/
def keyAt (plan : KeyPerVector) (index : Nat) : String :=
  match plan.keys[index]? with
  | some key => key
  | none => plan.keys.headD ""

/-- Label the rows of the first vector that have its key. -/
def run (plan : KeyPerVector) : List InstantVector → InstantVector
  | [] => []
  | first :: others =>
    match plan.targets with
    | [] => []
    | target :: targets =>
      let lookups := others.zipIdx.map fun (rows, index) =>
        lookupOf (fun labels => labels.present? (plan.keyAt (index + 1))) rows
      correlate (fun labels => labels.present? (plan.keyAt 0)) lookups target targets first

end KeyPerVector

/-! ## §4 Several vectors, all keys at once -/

/-- Match all vectors on the same keys, all of which a row must have. -/
structure SharedKeys where
  keys : List String
  targets : List String
  deriving Repr, DecidableEq

namespace SharedKeys

/-- The correlation of a number of vectors on keys written with commas and targets written with bars
    between them. -/
def ofTexts (function keys targets : String) (vectors : Nat) : Except Fault SharedKeys := do
  let keys ← Parameters.nameList function ',' keys
  let targets := (Text.pieces '|' targets).map Text.trim
  Parameters.checkTargetCount function targets.length vectors
  Parameters.checkNames function targets
  return { keys, targets }

/-- The values of all keys, unless one of them is missing or empty. -/
def keyOf (keys : List String) (labels : Labels) : Option (List String) :=
  keys.mapM (fun key => labels.present? key)

/-- Label the rows of the first vector that have every key. -/
def run (plan : SharedKeys) : List InstantVector → InstantVector
  | [] => []
  | first :: others =>
    match plan.targets with
    | [] => []
    | target :: targets =>
      correlate (keyOf plan.keys) (others.map (lookupOf (keyOf plan.keys))) target targets first

end SharedKeys

end LabeledSeries
