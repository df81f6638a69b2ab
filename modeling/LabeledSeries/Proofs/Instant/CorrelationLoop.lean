import LabeledSeries.Proofs.Fallible
import LabeledSeries.Proofs.Instant.JoinAgreement

/-!
# Correlations as nested loops

Both correlations of several vectors look rows up by the values of their keys.  What they compute
needs no look-up: each row of the first vector searches every other vector for the first row that
agrees with it on all keys, and is labelled with the values that it finds.

- `correlationLoop` — the correlation as it is meant, for any number of vectors and keys
- `KeyPerVector.run_eq_correlationLoop`, `SharedKeys.run_eq_correlationLoop` — both correlations are
  that, with one key for each vector and with the same keys for all
- `correlations_are_nested_loops` — so the functions by which they are called are, where their
  parameters can be used; and with a single key they are one function

The keys of a row are read before anything is written to it, so that a target may be a key.
-/

namespace LabeledSeries

/-! ## §1 The correlation as it is meant -/

/-- Whether a row has, under the labels `theirs`, the values that another has under `own`. -/
def agreesOn (own theirs : List String) (row other : Row) : Bool :=
  decide (theirs.map other.labels.value = own.map row.labels.value)

/-- What is written to a row from the vectors from a position on: under each target, the value of
    the first row that agrees, if there is one. -/
def partnerTexts (keysAt : Nat → List String) (row : Row) :
    Nat → List InstantVector → List String → List (String × String)
  | index, rows :: vectors, target :: targets =>
    match rows.find? (agreesOn (keysAt 0) (keysAt index) row) with
    | some partner =>
      (target, partner.valueText) :: partnerTexts keysAt row (index + 1) vectors targets
    | none => partnerTexts keysAt row (index + 1) vectors targets
  | _, _, _ => []

/-- The correlation by search, `keysAt` being the keys of the vector at a position: the rows of the
    first vector that have all keys get their own value, then those of the rows that agree. -/
def correlationLoop (keysAt : Nat → List String) :
    List String → List InstantVector → InstantVector
  | target :: targets, first :: others =>
    (first.filter fun row => (keysAt 0).all fun key => row.labels.value key ≠ "").map fun row =>
      row.writeAll ((target, row.valueText) :: partnerTexts keysAt row 1 others targets)
  | _, _ => []

/-! ## §2 Correlations by look-up -/

/-- Labelling from look-ups writes what a search finds, if the look-ups go by keys that are equal
    just where rows agree. -/
theorem labelFrom_eq_writeAll {κ : Type} [DecidableEq κ] (keyOf : Nat → Labels → Option κ)
    {keysAt : Nat → List String} {row : Row} {key : κ}
    (hkey : ∀ index (other : Row), keyOf index other.labels = some key ↔
      agreesOn (keysAt 0) (keysAt (index + 1)) row other = true)
    (others : List InstantVector) (targets : List String) (start : Nat) (out : Row) :
    labelFrom key ((others.zipIdx start).map fun (rows, index) => lookupOf (keyOf index) rows)
        targets out =
      out.writeAll (partnerTexts keysAt row (start + 1) others targets) := by
  -- Vectors and targets are used up together, and each step may write one more label.
  induction others generalizing targets start out with
  | nil => rfl
  | cons rows others ih =>
    cases targets with
    | nil => rfl
    | cons target targets =>
      -- The first row of a key in the look-up is the first row of the vector that agrees.
      have hfind : (fun other : Row => decide (keyOf start other.labels = some key)) =
          agreesOn (keysAt 0) (keysAt (start + 1)) row := by
        funext other
        rw [Bool.eq_iff_iff, decide_eq_true_eq]
        exact hkey start other
      rw [List.zipIdx_cons, List.map_cons, labelFrom, ih, lookupFind_lookupOf, hfind, partnerTexts]
      cases rows.find? (agreesOn (keysAt 0) (keysAt (start + 1)) row) with
      | none => rfl
      | some partner => rfl

/-- A correlation by look-up is a search, if its keys are there just where a row has all keys, and
    equal just where rows agree. -/
theorem correlate_eq_map {κ : Type} [DecidableEq κ] (keyOf : Nat → Labels → Option κ)
    (keysAt : Nat → List String)
    (hsome : ∀ labels : Labels, (keyOf 0 labels).isSome =
      (keysAt 0).all fun key => labels.value key ≠ "")
    (hkey : ∀ row : Row, ∀ key, keyOf 0 row.labels = some key → ∀ index (other : Row),
      keyOf index other.labels = some key ↔ agreesOn (keysAt 0) (keysAt index) row other = true)
    (target : String) (targets : List String) (first : InstantVector)
    (others : List InstantVector) :
    correlate (keyOf 0)
        (others.zipIdx.map fun (rows, index) => lookupOf (keyOf (index + 1)) rows) target targets
        first =
      (first.filter fun row => (keysAt 0).all fun key => row.labels.value key ≠ "").map fun row =>
        row.writeAll ((target, row.valueText) :: partnerTexts keysAt row 1 others targets) := by
  -- Filtering and then mapping is one pass, which is how the look-ups go over the rows.
  rw [← List.filterMap_eq_map (f := fun row : Row =>
    row.writeAll ((target, row.valueText) :: partnerTexts keysAt row 1 others targets)),
    List.filterMap_filter]
  refine List.filterMap_congr fun row _ => ?_
  rw [← hsome]
  cases hrow : keyOf 0 row.labels with
  | none => rfl
  | some key =>
    -- The row has a key, and with it `hkey` speaks of all vectors at once.
    have hlabel := labelFrom_eq_writeAll (fun index => keyOf (index + 1))
      (fun index other => hkey row key hrow (index + 1) other) others targets 0
      (row.setLabel target row.valueText)
    simp only [Option.map_some, Option.isSome_some, if_true, Function.comp_apply]
    rw [hlabel, Row.writeAll_cons]

/-! ## §3 Keys -/

/-- The shared key of a label set is the values of all keys, if none of them is empty. -/
theorem SharedKeys.keyOf_eq_if (keys : List String) (labels : Labels) :
    SharedKeys.keyOf keys labels =
      if keys.all (fun key => labels.value key ≠ "") then some (keys.map labels.value)
      else none := by
  rw [SharedKeys.keyOf]
  -- A key is there if the first value is and the key of the other names is.
  induction keys with
  | nil => rfl
  | cons key keys ih =>
    rw [List.mapM_cons, ih, Labels.present?_eq_if]
    by_cases hkey : labels.value key = ""
    · simp [hkey]
    · rw [if_neg hkey, List.all_cons, decide_eq_true hkey, Bool.true_and]
      cases keys.all fun key => decide (labels.value key ≠ "") <;> rfl

/-- The rows of a vector with the shared key of a row are those that agree with it. -/
theorem SharedKeys.keyOf_eq_some_iff {keys : List String} {row : Row} {key : List String}
    (hrow : SharedKeys.keyOf keys row.labels = some key) (other : Row) :
    SharedKeys.keyOf keys other.labels = some key ↔ agreesOn keys keys row other = true := by
  rw [SharedKeys.keyOf_eq_if] at hrow ⊢
  split at hrow
  case isFalse => cases hrow
  -- Every value of the row is there, so its key is the list of all of them.
  case isTrue hall =>
    cases hrow
    rw [agreesOn, decide_eq_true_eq]
    constructor
    · intro h
      split at h
      · exact Option.some.inj h
      · cases h
    · intro h
      -- The other row has the same values, so none of its own is empty either.
      have hother : keys.all (fun key => other.labels.value key ≠ "") = true := by
        have hmaps : (keys.map other.labels.value).all (· ≠ "") = true := by
          rw [h, List.all_map]
          exact hall
        rwa [List.all_map] at hmaps
      rw [if_pos hother, h]

/-- The correlation on shared keys, by search. -/
theorem SharedKeys.run_eq_correlationLoop (plan : SharedKeys) (vectors : List InstantVector) :
    plan.run vectors = correlationLoop (fun _ => plan.keys) plan.targets vectors := by
  obtain ⟨keys, targets⟩ := plan
  cases vectors with
  | nil => cases targets <;> rfl
  | cons first others =>
    cases targets with
    | nil => rfl
    | cons target targets =>
      have hsome (labels : Labels) : (SharedKeys.keyOf keys labels).isSome =
          keys.all fun key => labels.value key ≠ "" := by
        rw [SharedKeys.keyOf_eq_if]
        cases keys.all fun key => decide (labels.value key ≠ "") <;> rfl
      -- The keys are the same for all vectors, so their positions make no difference.
      have hlookups : others.map (lookupOf (SharedKeys.keyOf keys)) =
          others.zipIdx.map fun (rows, _) => lookupOf (SharedKeys.keyOf keys) rows := by
        conv_lhs => rw [← List.zipIdx_map_fst 0 others, List.map_map]
        rfl
      rw [SharedKeys.run, hlookups, correlationLoop]
      exact correlate_eq_map (fun _ => SharedKeys.keyOf keys) (fun _ => keys) hsome
        (fun row key hrow _ other => SharedKeys.keyOf_eq_some_iff hrow other) target targets
        first others

/-- The keys of the vector at a position when each vector has one: its own, or else the first. -/
def ownKey (keys : List String) (index : Nat) : List String := [keys.getD index (keys.headD "")]

theorem KeyPerVector.ownKey_eq (plan : KeyPerVector) (index : Nat) :
    ownKey plan.keys index = [plan.keyAt index] := by
  rw [ownKey, KeyPerVector.keyAt, List.getD_eq_getElem?_getD]
  cases plan.keys[index]? <;> rfl

/-- The correlation on one key for each vector, by search. -/
theorem KeyPerVector.run_eq_correlationLoop (plan : KeyPerVector) (vectors : List InstantVector) :
    plan.run vectors = correlationLoop (ownKey plan.keys) plan.targets vectors := by
  cases vectors with
  | nil => cases plan.targets <;> rfl
  | cons first others =>
    rw [KeyPerVector.run]
    cases plan.targets with
    | nil => rfl
    | cons target targets =>
      refine correlate_eq_map (fun index labels => labels.present? (plan.keyAt index)) _
        (fun labels => ?_) (fun row key hrow index other => ?_) target targets first others
      · -- One value is a key just if it is not empty.
        rw [plan.ownKey_eq, Labels.present?_eq_if]
        by_cases h : labels.value (plan.keyAt 0) = "" <;> simp [h]
      · -- A row of another vector agrees if its one value is the same.
        obtain ⟨rfl, hne⟩ := Labels.present?_eq_some_iff.mp hrow
        rw [Labels.present?_eq_some_iff, plan.ownKey_eq, plan.ownKey_eq, agreesOn]
        simp [hne]

/-! ## §4 Parameters -/

/-- The names written in a text between separators, each without the blanks around it. -/
def namesIn (separator : Char) (text : String) : List String :=
  (Text.pieces separator text).map Text.trim

namespace Parameters

theorem checkName_eq_ok_iff {function name : String} :
    checkName function name = .ok () ↔ Text.isLabelName name = true := by
  rw [checkName]
  split <;> simp_all

theorem checkNames_eq_ok_iff {function : String} {names : List String} :
    checkNames function names = .ok () ↔ ∀ name ∈ names, Text.isLabelName name = true := by
  induction names with
  | nil => simp [checkNames]
  | cons name names ih =>
    have hfirst : checkName function name = .ok () ↔ Text.isLabelName name = true :=
      checkName_eq_ok_iff
    -- The names are checked from the first on, and the first that is none is the fault.
    rw [checkNames, bind_eq_ok_iff, List.forall_mem_cons, ← ih, ← hfirst]
    constructor
    · rintro ⟨_, hname, hnames⟩
      exact ⟨hname, hnames⟩
    · rintro ⟨hname, hnames⟩
      exact ⟨(), hname, hnames⟩

theorem nameList_eq_ok_iff {function text : String} {separator : Char} {names : List String} :
    nameList function separator text = .ok names ↔
      namesIn separator text = names ∧ ∀ name ∈ names, Text.isLabelName name = true := by
  rw [nameList, bind_eq_ok_iff]
  constructor
  · rintro ⟨_, hcheck, ⟨⟩⟩
    exact ⟨rfl, checkNames_eq_ok_iff.mp hcheck⟩
  · rintro ⟨rfl, hnames⟩
    exact ⟨(), checkNames_eq_ok_iff.mpr hnames, rfl⟩

theorem checkTargetCount_eq_ok_iff {function : String} {targets vectors : Nat} :
    checkTargetCount function targets vectors = .ok () ↔ targets = vectors := by
  rw [checkTargetCount]
  split <;> simp_all

end Parameters

open Parameters

/-- Shared keys and targets that can be used with a number of vectors. -/
structure SharedKeys.Usable (plan : SharedKeys) (vectors : Nat) : Prop where
  keys : ∀ key ∈ plan.keys, Text.isLabelName key = true
  targetCount : plan.targets.length = vectors
  targets : ∀ target ∈ plan.targets, Text.isLabelName target = true

/-- Keys and targets of which each vector has one, that can be used with a number of vectors. -/
structure KeyPerVector.Usable (plan : KeyPerVector) (vectors : Nat) : Prop where
  keys : ∀ key ∈ plan.keys, Text.isLabelName key = true
  keyCount : plan.keys.length = 1 ∨ plan.keys.length = vectors
  targetCount : plan.targets.length = vectors
  targets : ∀ target ∈ plan.targets, Text.isLabelName target = true

/-- Parameters are read as the plan that they spell out, if it can be used. -/
theorem SharedKeys.ofTexts_eq_ok_iff {function keys targets : String} {vectors : Nat}
    {plan : SharedKeys} :
    SharedKeys.ofTexts function keys targets vectors = .ok plan ↔
      { keys := namesIn ',' keys, targets := namesIn '|' targets } = plan ∧
        plan.Usable vectors := by
  rw [SharedKeys.ofTexts, bind_eq_ok_iff]
  constructor
  · -- Each step of reading has to succeed, and says what it read or checked.
    rintro ⟨names, hkeys, h⟩
    obtain ⟨_, hcount, h⟩ := bind_eq_ok_iff.mp h
    obtain ⟨_, htargets, ⟨⟩⟩ := bind_eq_ok_iff.mp h
    obtain ⟨rfl, hkeys⟩ := nameList_eq_ok_iff.mp hkeys
    exact ⟨rfl, hkeys, checkTargetCount_eq_ok_iff.mp hcount, checkNames_eq_ok_iff.mp htargets⟩
  · rintro ⟨rfl, husable⟩
    refine ⟨_, nameList_eq_ok_iff.mpr ⟨rfl, husable.keys⟩, ?_⟩
    exact bind_eq_ok_iff.mpr ⟨(), checkTargetCount_eq_ok_iff.mpr husable.targetCount,
      bind_eq_ok_iff.mpr ⟨(), checkNames_eq_ok_iff.mpr husable.targets, rfl⟩⟩

/-- Parameters are read as the plan that they spell out, if it can be used. -/
theorem KeyPerVector.ofTexts_eq_ok_iff {function keys targets : String} {vectors : Nat}
    {plan : KeyPerVector} :
    KeyPerVector.ofTexts function keys targets vectors = .ok plan ↔
      { keys := namesIn '|' keys, targets := namesIn '|' targets } = plan ∧
        plan.Usable vectors := by
  rw [KeyPerVector.ofTexts, bind_eq_ok_iff]
  constructor
  · rintro ⟨keyNames, hkeys, h⟩
    obtain ⟨targetNames, htargets, h⟩ := bind_eq_ok_iff.mp h
    obtain ⟨rfl, hkeys⟩ := nameList_eq_ok_iff.mp hkeys
    obtain ⟨rfl, htargets⟩ := nameList_eq_ok_iff.mp htargets
    -- There is one key for all vectors or one for each; any other number is the fault.
    split at h
    · obtain ⟨_, ⟨⟩, -⟩ := bind_eq_ok_iff.mp h
    · rename_i hcount
      obtain ⟨_, htargetCount, ⟨⟩⟩ := bind_eq_ok_iff.mp h
      exact ⟨rfl, hkeys, by simp; omega, checkTargetCount_eq_ok_iff.mp htargetCount, htargets⟩
  · rintro ⟨rfl, husable⟩
    refine ⟨_, nameList_eq_ok_iff.mpr ⟨rfl, husable.keys⟩, ?_⟩
    refine bind_eq_ok_iff.mpr ⟨_, nameList_eq_ok_iff.mpr ⟨rfl, husable.targets⟩, ?_⟩
    rw [if_neg (by have := husable.keyCount; simp at this; omega)]
    exact bind_eq_ok_iff.mpr ⟨(), checkTargetCount_eq_ok_iff.mpr husable.targetCount, rfl⟩

/-- There is always a target, so no plan can be used without vectors. -/
theorem namesIn_ne_nil (separator : Char) (text : String) : namesIn separator text ≠ [] := by
  -- The last piece is always there, be it empty.
  have hpieces (chars : List Char) : Text.piecesOfChars separator chars ≠ [] := by
    cases chars with
    | nil => simp [Text.piecesOfChars]
    | cons c chars =>
      rw [Text.piecesOfChars]
      split
      · simp
      · split <;> simp
  simp [namesIn, Text.pieces, hpieces]

/-! ## §5 Calls -/

namespace Taking

/-- Taking all that is left as vectors gives the vectors that were passed. -/
theorem count_vectors (function : String) (vectors : List InstantVector) (position : Nat) :
    Taking.count (Taking.vector function) vectors.length
        { position, values := vectors.map .vector } =
      .ok (vectors, { position := position + vectors.length, values := [] }) := by
  induction vectors generalizing position with
  | nil => rfl
  | cons rows vectors ih =>
    have hfirst : Taking.vector function
        { position, values := (rows :: vectors).map .vector } =
        .ok (rows, { position := position + 1, values := vectors.map .vector }) := rfl
    have hposition : position + 1 + vectors.length = position + (vectors.length + 1) := by omega
    rw [List.length_cons, Taking.count]
    simp only [bind, StateT.bind, hfirst, Except.bind, ih, hposition]
    rfl

end Taking

namespace Builtin

variable (time : Int) (keys targets : String) (vectors : List InstantVector)

/-- Two texts and then vectors are taken as they were passed. -/
theorem take_correlation (function : String) :
    (Taking.of (.text keys :: .text targets :: vectors.map .vector) do
        return (← Taking.text function, ← Taking.text function,
          ← Taking.rest (Taking.vector function))) =
      .ok (keys, targets, vectors) := by
  have hrest : Taking.rest (Taking.vector function)
      { position := 2, values := vectors.map .vector } =
      .ok (vectors, { position := 2 + vectors.length, values := [] }) := by
    -- What is left is counted; there are as many values as vectors.
    rw [← Taking.count_vectors function vectors 2, ← List.length_map (f := Value.vector)]
    rfl
  -- The two texts are taken by definition, which leaves the vectors.
  change Prod.fst <$> (Taking.rest (Taking.vector function)
    { position := 2, values := vectors.map .vector } >>= fun taken =>
      pure ((keys, targets, taken.1), taken.2)) = _
  rw [hrest]
  rfl

theorem call_labelsAppendValues :
    labelsAppendValues.call time (.text keys :: .text targets :: vectors.map .vector) = do
      let plan ← SharedKeys.ofTexts "labels_append_values" keys targets vectors.length
      return .vector (plan.run vectors) := by
  rw [Builtin.call, Builtin.rows, take_correlation]
  -- A call wraps the rows as a value after running the plan; that is one more bind.
  change (do
    let rows ← (do
      let plan ← SharedKeys.ofTexts "labels_append_values" keys targets vectors.length
      return plan.run vectors)
    return Value.vector rows) = _
  rw [bind_assoc]
  rfl

theorem call_selectn_vectors :
    selectn.call time (.text keys :: .text targets :: vectors.map .vector) = do
      let plan ← KeyPerVector.ofTexts "selectn" keys targets vectors.length
      return .vector (plan.run vectors) := by
  rw [Builtin.call, Builtin.rows, take_correlation]
  change (do
    let rows ← (do
      let plan ← KeyPerVector.ofTexts "selectn" keys targets vectors.length
      return plan.run vectors)
    return Value.vector rows) = _
  rw [bind_assoc]
  rfl

theorem call_labelsAppendValues_eq_ok_iff {value : Value} :
    labelsAppendValues.call time (.text keys :: .text targets :: vectors.map .vector) = .ok value ↔
      SharedKeys.Usable ⟨namesIn ',' keys, namesIn '|' targets⟩ vectors.length ∧
        .vector (correlationLoop (fun _ => namesIn ',' keys) (namesIn '|' targets) vectors) =
          value := by
  rw [call_labelsAppendValues, bind_eq_ok_iff]
  constructor
  · -- The parameters were read, so they can be used.
    rintro ⟨plan, hplan, ⟨⟩⟩
    obtain ⟨rfl, husable⟩ := SharedKeys.ofTexts_eq_ok_iff.mp hplan
    exact ⟨husable, by rw [SharedKeys.run_eq_correlationLoop]⟩
  · rintro ⟨husable, rfl⟩
    refine ⟨_, SharedKeys.ofTexts_eq_ok_iff.mpr ⟨rfl, husable⟩, ?_⟩
    rw [SharedKeys.run_eq_correlationLoop]
    rfl

theorem call_selectn_eq_ok_iff {value : Value} :
    selectn.call time (.text keys :: .text targets :: vectors.map .vector) = .ok value ↔
      KeyPerVector.Usable ⟨namesIn '|' keys, namesIn '|' targets⟩ vectors.length ∧
        .vector (correlationLoop (ownKey (namesIn '|' keys)) (namesIn '|' targets) vectors) =
          value := by
  rw [call_selectn_vectors, bind_eq_ok_iff]
  constructor
  · rintro ⟨plan, hplan, ⟨⟩⟩
    obtain ⟨rfl, husable⟩ := KeyPerVector.ofTexts_eq_ok_iff.mp hplan
    exact ⟨husable, by rw [KeyPerVector.run_eq_correlationLoop]⟩
  · rintro ⟨husable, rfl⟩
    refine ⟨_, KeyPerVector.ofTexts_eq_ok_iff.mpr ⟨rfl, husable⟩, ?_⟩
    rw [KeyPerVector.run_eq_correlationLoop]
    rfl

end Builtin

/-- A text without separators holds one name, and every vector is matched on it. -/
theorem namesIn_single {separator : Char} {text : String} (h : separator ∉ text.toList) :
    namesIn separator text = [Text.trim text] := by
  rw [namesIn, Text.pieces_name h]
  rfl

theorem ownKey_singleton (key : String) : ownKey [key] = fun _ => [key] := by
  funext index
  cases index <;> rfl

theorem KeyPerVector.usable_singleton_iff {key : String} {targets : List String} {vectors : Nat} :
    KeyPerVector.Usable ⟨[key], targets⟩ vectors ↔ SharedKeys.Usable ⟨[key], targets⟩ vectors :=
  ⟨fun h => ⟨h.keys, h.targetCount, h.targets⟩,
    fun h => ⟨h.keys, .inl rfl, h.targetCount, h.targets⟩⟩

/-- **Correlations are nested loops**: the functions succeed just where keys and targets are label
    names in the right number, and then each row of the first vector that has all keys is labelled
    with its own value and with those of the first rows that agree with it.  A call that succeeds
    has at least one vector, and with one key the functions are the same. -/
theorem correlations_are_nested_loops (time : Int) (keyText targetText : String)
    (vectors : List InstantVector) :
    let arguments := .text keyText :: .text targetText :: vectors.map Value.vector
    let targets := namesIn '|' targetText
    (∀ value, Builtin.labelsAppendValues.call time arguments = .ok value ↔
      SharedKeys.Usable ⟨namesIn ',' keyText, targets⟩ vectors.length ∧
        .vector (correlationLoop (fun _ => namesIn ',' keyText) targets vectors) = value) ∧
    (∀ value, Builtin.selectn.call time arguments = .ok value ↔
      KeyPerVector.Usable ⟨namesIn '|' keyText, targets⟩ vectors.length ∧
        .vector (correlationLoop (ownKey (namesIn '|' keyText)) targets vectors) = value) ∧
    ((∀ plan, SharedKeys.ofTexts "labels_append_values" keyText targetText vectors.length =
        .ok plan → vectors ≠ []) ∧
      ∀ plan, KeyPerVector.ofTexts "selectn" keyText targetText vectors.length = .ok plan →
        vectors ≠ []) ∧
    (',' ∉ keyText.toList → '|' ∉ keyText.toList →
      ∀ value, Builtin.selectn.call time arguments = .ok value ↔
        Builtin.labelsAppendValues.call time arguments = .ok value) := by
  intro arguments targets
  have hvectors (hcount : targets.length = vectors.length) : vectors ≠ [] := by
    rintro rfl
    exact namesIn_ne_nil '|' targetText (List.length_eq_zero_iff.mp hcount)
  refine ⟨fun _ => Builtin.call_labelsAppendValues_eq_ok_iff ..,
    fun _ => Builtin.call_selectn_eq_ok_iff .., ⟨fun plan hplan => ?_, fun plan hplan => ?_⟩,
    fun hcomma hbar value => ?_⟩
  · obtain ⟨rfl, husable⟩ := SharedKeys.ofTexts_eq_ok_iff.mp hplan
    exact hvectors husable.targetCount
  · obtain ⟨rfl, husable⟩ := KeyPerVector.ofTexts_eq_ok_iff.mp hplan
    exact hvectors husable.targetCount
  · rw [Builtin.call_selectn_eq_ok_iff, Builtin.call_labelsAppendValues_eq_ok_iff,
      namesIn_single hcomma, namesIn_single hbar, ownKey_singleton,
      KeyPerVector.usable_singleton_iff]

/-- One key for three vectors, under a target that is the key: what is written to the key is not
    matched on. -/
theorem correlations_are_nested_loops_on_overwritten_key :
    let cpu : InstantVector := [⟨.singleton "pod" "b", ⟨0, 1⟩⟩, ⟨.singleton "node" "n", ⟨0, 2⟩⟩]
    let mem : InstantVector := [⟨.singleton "pod" "b", ⟨0, 3⟩⟩, ⟨.singleton "pod" "b", ⟨0, 4⟩⟩]
    let arguments :=
      .text "pod" :: .text "cpu| pod |disk" :: [cpu, mem, mem].map Value.vector
    let rows := correlationLoop (fun _ => ["pod"]) ["cpu", "pod", "disk"] [cpu, mem, mem]
    (',' ∉ "pod".toList ∧ '|' ∉ "pod".toList) ∧
    rows.map (fun row => row.labels.entries) = [[("cpu", "1"), ("disk", "3"), ("pod", "3")]] ∧
    Builtin.labelsAppendValues.call 0 arguments = .ok (.vector rows) ∧
    Builtin.selectn.call 0 arguments = .ok (.vector rows) := by
  intro cpu mem arguments rows
  have hloops := correlations_are_nested_loops 0 "pod" "cpu| pod |disk" [cpu, mem, mem]
  have husable : SharedKeys.Usable ⟨["pod"], ["cpu", "pod", "disk"]⟩ 3 :=
    ⟨by decide, rfl, by decide⟩
  have hvalues : Builtin.labelsAppendValues.call 0 arguments = .ok (.vector rows) :=
    (hloops.1 _).mpr ⟨husable, rfl⟩
  have hbars : ',' ∉ "pod".toList ∧ '|' ∉ "pod".toList := by decide
  exact ⟨hbars, by decide +kernel, hvalues, (hloops.2.2.2 hbars.1 hbars.2 _).mpr hvalues⟩

end LabeledSeries
