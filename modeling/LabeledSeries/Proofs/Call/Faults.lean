import LabeledSeries.Proofs.Call.Stages

/-!
# What calls are faulted for

Arguments have the same *parameters* if they are of the same kinds and have the same texts; their
rows, series and numbers may differ.  Taking arguments and planning fail for parameters only, so two
calls with the same parameters have the same faults
(`FunctionTable.call_eq_error_iff_of_sameParameter`).

`Builtin.rows_sameOutcome` is about any relation of arguments that keeps parameters and is kept when
nothing becomes an empty vector or matrix.  It serves all statements about two calls.
-/

namespace LabeledSeries

/-! ## §1 Parameters -/

/-- Values of one kind that, if they are texts, are the same text. -/
inductive Value.SameParameter : Value → Value → Prop where
  | vector (rows rows' : InstantVector) : SameParameter (.vector rows) (.vector rows')
  | matrix (series series' : RangeMatrix) : SameParameter (.matrix series) (.matrix series')
  | scalar (x x' : Float) : SameParameter (.scalar x) (.scalar x')
  | text (s : String) : SameParameter (.text s) (.text s)
  | none : SameParameter .none .none

namespace Value.SameParameter

variable {value other : Value} {values others : List Value}

theorem isA_eq (h : SameParameter value other) (kind : Kind) : value.isA kind = other.isA kind := by
  cases h <;> cases kind <;> rfl

theorem kind_eq (h : SameParameter value other) : value.kind = other.kind := by
  cases h <;> rfl

theorem passedAs (h : SameParameter value other) (kind : Kind) :
    SameParameter (value.passedAs kind) (other.passedAs kind) := by
  cases kind with
  | vector => exact .vector _ _
  | matrix => exact .matrix _ _
  | text =>
    cases h with
    | text s => exact .text s
    | vector | matrix | scalar | none => exact .text ""
  | scalar => exact h

theorem texts_eq (h : List.Forall₂ SameParameter values others) :
    Value.texts values = Value.texts others := by
  induction h with
  | nil => rfl
  | cons hvalue _ ih =>
    cases hvalue with
    | text s => exact congrArg (s :: ·) ih
    | vector | matrix | scalar | none => exact ih

theorem length_vectors_eq (h : List.Forall₂ SameParameter values others) :
    (Value.vectors values).length = (Value.vectors others).length := by
  induction h with
  | nil => rfl
  | cons hvalue _ ih =>
    cases hvalue with
    | text s => exact ih
    | vector | matrix | scalar | none => exact congrArg (· + 1) ih

end Value.SameParameter

/-! ## §2 Two calls -/

/-- Taking arguments that correspond has one outcome, if values that correspond have the same
    parameters, also as what they are passed for. -/
theorem Demand.take_sameOutcome {related : Value → Value → Prop}
    (hparameter : ∀ value other, related value other → value.SameParameter other)
    (hpassed : ∀ value other, related value other →
      ∀ kind, related (value.passedAs kind) (other.passedAs kind))
    (demand : Demand) (function : String) {values others : List Value}
    (h : List.Forall₂ related values others) (position : Nat) :
    SameOutcome (List.Forall₂ related) (demand.take function position values)
      (demand.take function position others) := by
  induction h generalizing position with
  | nil =>
    rw [take]
    split
    · exact .error _
    · exact .ok .nil
  | @cons value other values others hvalue _ ih =>
    have hsame := hparameter value other hvalue
    rw [take, take, ← hsame.kind_eq]
    cases demand.kindAt? position with
    | none => exact .ok .nil
    | some kind =>
      simp only [← hsame.isA_eq kind]
      split
      · apply (ih (position + 1)).bind
        intro taken taken' htaken
        exact .ok (.cons (hpassed value other hvalue kind) htaken)
      · exact .error _

/-- A function has one outcome for arguments that correspond, and makes related rows of them if
    every plan does that it may make of their texts. -/
theorem Builtin.rows_sameOutcome {related : Value → Value → Prop}
    {relatedRows : InstantVector → InstantVector → Prop}
    (hparameter : ∀ value other, related value other → value.SameParameter other)
    (hpassed : ∀ value other, related value other →
      ∀ kind, related (value.passedAs kind) (other.passedAs kind))
    (function : Builtin) {time time' : Int}
    (hrun : ∀ taken taken', List.Forall₂ related taken taken' → ∀ plan,
      function.plan (Value.texts taken') (Value.vectors taken').length = .ok plan →
      relatedRows (plan.run time (Value.vectors taken) (Value.matrices taken))
        (plan.run time' (Value.vectors taken') (Value.matrices taken')))
    {values others : List Value} (h : List.Forall₂ related values others) :
    SameOutcome relatedRows (function.rows time values) (function.rows time' others) := by
  rw [rows_eq_stages, rows_eq_stages]
  apply (function.demand.take_sameOutcome hparameter hpassed function.name h 0).bind
  intro taken taken' htaken
  -- The plan is made of what the two calls have in common.
  have hsame : List.Forall₂ Value.SameParameter taken taken' := htaken.imp hparameter
  rw [Value.SameParameter.texts_eq hsame, Value.SameParameter.length_vectors_eq hsame]
  cases hplan : function.plan (Value.texts taken') (Value.vectors taken').length with
  | error fault => exact .error fault
  | ok plan => exact .ok (hrun taken taken' htaken plan hplan)

/-- Calls of a function with the same parameters have the same faults, whatever their times. -/
theorem Builtin.call_sameOutcome (function : Builtin) {values others : List Value}
    (h : List.Forall₂ Value.SameParameter values others) (time time' : Int) :
    SameOutcome (fun _ _ => True) (function.call time values) (function.call time' others) := by
  have hrows : SameOutcome (fun _ _ => True) (function.rows time values)
      (function.rows time' others) :=
    function.rows_sameOutcome (fun _ _ hvalue => hvalue) (fun _ _ hvalue => hvalue.passedAs)
      (fun _ _ _ _ _ => trivial) h
  apply hrows.bind
  intro out out' _
  exact .ok trivial

/-- **Calls fail on their parameters, never on their data**: two calls through the table of library
    functions, whose arguments are of the same kinds and have the same texts, have the same faults,
    whatever their rows, series and numbers are and at whatever times they are made. -/
theorem FunctionTable.call_eq_error_iff_of_sameParameter (name : String)
    {values others : List Value} (h : List.Forall₂ Value.SameParameter values others)
    (time time' : Int) (fault : Fault) :
    builtin.call name values time = .error fault ↔
      builtin.call name others time' = .error fault := by
  cases hname : Builtin.ofName? name with
  | none => rw [call_of_ofName?_eq_none _ _ hname, call_of_ofName?_eq_none _ _ hname]
  | some function =>
    rw [← Builtin.name_of_ofName? hname, call_builtin, call_builtin]
    exact (function.call_sameOutcome h time time').eq_error_iff fault

/-- A bad label name is reported for an empty vector as it is for one with rows. -/
theorem FunctionTable.call_eq_error_iff_of_sameParameter_for_empty_vector :
    let empty := [Value.vector [], .text "pod", .text "pod-name"]
    let filled := [Value.vector [⟨.singleton "pod" "a", ⟨1, 0.5⟩⟩], .text "pod", .text "pod-name"]
    List.Forall₂ Value.SameParameter empty filled ∧
      builtin.call "labels_rename" empty 0 =
        .error (.invalidLabelName "labels_rename" "pod-name") ∧
      builtin.call "labels_rename" filled 7 =
        .error (.invalidLabelName "labels_rename" "pod-name") := by
  intro empty filled
  have hsame : List.Forall₂ Value.SameParameter empty filled :=
    .cons (.vector _ _) (.cons (.text _) (.cons (.text _) .nil))
  have hempty : builtin.call "labels_rename" empty 0 =
      .error (.invalidLabelName "labels_rename" "pod-name") :=
    (call_builtin .labelsRename empty 0).trans rfl
  exact ⟨hsame, hempty,
    (call_eq_error_iff_of_sameParameter "labels_rename" hsame 0 7 _).mp hempty⟩

end LabeledSeries
