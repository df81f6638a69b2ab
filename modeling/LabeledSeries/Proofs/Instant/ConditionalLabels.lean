import LabeledSeries.Proofs.Call.Stages
import LabeledSeries.Proofs.Instant.ParameterTexts
import LabeledSeries.Proofs.Rule.Pipeline
import LabeledSeries.Proofs.Text.ByteOrder

/-!
# Conditional labels compose

A call that sets labels by conditional expressions is a program of assignments: running two lists of
them one behind the other is running the first and then, on what it leaves, the second.

§1 What an expression means, as rules.  A key that is missing reads as empty, while an operand that
names no label stands for itself; texts are compared by their bytes.

§2 What one assignment does to a row.

§3 Lists of assignments.  Parameters are read pair by pair, so that two lists of even length are
read together just as they are read apart.

§4 Calls (`Conditional.calls_compose`).
-/

namespace LabeledSeries

/-! ## §1 The meaning of an expression -/

/-- What a comparison says of two sequences of bytes. -/
def Comparison.HoldsOf : Comparison → List UInt8 → List UInt8 → Prop
  | .equal, a, b => a = b
  | .different, a, b => a ≠ b
  | .atLeast, a, b => b ≤ a
  | .atMost, a, b => a ≤ b
  | .above, a, b => b < a
  | .below, a, b => a < b

/-- Comparing texts is comparing their bytes. -/
theorem Comparison.holds_iff (comparison : Comparison) (a b : String) :
    comparison.holds a b = true ↔
      comparison.HoldsOf (Text.utf8Bytes a) (Text.utf8Bytes b) := by
  -- Equal bytes are equal texts, and their order is the order of the texts.
  cases comparison with
  | equal | different => simp [holds, HoldsOf, Text.utf8Bytes_inj]
  | atLeast | atMost => simp [holds, HoldsOf, Text.le_iff_utf8Bytes_le]
  | above | below => simp only [holds, HoldsOf, decide_eq_true_eq, Text.lt_iff_utf8Bytes_lt]

/-- The text that an operand stands for in a row. -/
inductive Operand.StandsFor (row : Row) : Operand → String → Prop where
  | literal (text : String) : StandsFor row (.literal text) text
  | value : StandsFor row (.bare "__v__0") (valueText row.sample.value)
  | label {token text : String} (hvalue : token ≠ "__v__0")
      (h : row.labels.get? token = some text) : StandsFor row (.bare token) text
  | token {token : String} (hvalue : token ≠ "__v__0")
      (h : row.labels.get? token = none) : StandsFor row (.bare token) token

namespace Ternary

/-- The text that is tested under a key in a row. -/
inductive Tests (row : Row) : String → String → Prop where
  | value : Tests row "__v__0" (valueText row.sample.value)
  | label {key text : String} (hvalue : key ≠ "__v__0")
      (h : row.labels.get? key = some text) : Tests row key text
  | missing {key : String} (hvalue : key ≠ "__v__0")
      (h : row.labels.get? key = none) : Tests row key ""

/-- The outcome that an expression chooses in a row. -/
inductive Chooses (row : Row) (ternary : Ternary) : String → Prop where
  | whenTrue {tested operand outcome : String} (htested : Tests row ternary.key tested)
      (hoperand : ternary.operand.StandsFor row operand)
      (hholds : ternary.comparison.HoldsOf (Text.utf8Bytes tested) (Text.utf8Bytes operand))
      (houtcome : ternary.whenTrue.StandsFor row outcome) : Chooses row ternary outcome
  | whenFalse {tested operand outcome : String} (htested : Tests row ternary.key tested)
      (hoperand : ternary.operand.StandsFor row operand)
      (hholds : ¬ternary.comparison.HoldsOf (Text.utf8Bytes tested) (Text.utf8Bytes operand))
      (houtcome : ternary.whenFalse.StandsFor row outcome) : Chooses row ternary outcome

end Ternary

/-- Operands are resolved by the rules. -/
theorem Operand.standsFor_resolve (row : Row) (operand : Operand) :
    operand.StandsFor row (operand.resolve row) := by
  cases operand with
  | literal text => exact .literal text
  -- The value name comes first, then a label, and what is neither stands for itself.
  | bare token =>
    simp only [resolve]
    split_ifs with hvalue
    · subst hvalue
      exact .value
    · cases h : row.labels.get? token with
      | none => exact .token hvalue h
      | some text => exact .label hvalue h

namespace Ternary

theorem tests_subject (row : Row) (ternary : Ternary) :
    Tests row ternary.key (ternary.subject row) := by
  -- Unlike an operand, the text under test is empty where there is no label.
  unfold subject Labels.value
  split_ifs with hvalue
  · rw [hvalue]
    exact .value
  · cases h : row.labels.get? ternary.key with
    | none => exact .missing hvalue h
    | some text => exact .label hvalue h

/-- Expressions are evaluated by the rules. -/
theorem chooses_eval (row : Row) (ternary : Ternary) : ternary.Chooses row (ternary.eval row) := by
  have htested := tests_subject row ternary
  have hoperand := ternary.operand.standsFor_resolve row
  unfold eval
  split_ifs with hholds
  · exact .whenTrue htested hoperand ((Comparison.holds_iff ..).mp hholds)
      (ternary.whenTrue.standsFor_resolve row)
  · exact .whenFalse htested hoperand (fun h => hholds ((Comparison.holds_iff ..).mpr h))
      (ternary.whenFalse.standsFor_resolve row)

end Ternary

namespace Conditional

/-! ## §2 One assignment -/

/-- What storing an outcome under a key makes of a row: the label of that name is set, or removed by
    the empty outcome, and nothing else is changed; under the value name the value is set to the
    number that the outcome writes, or nothing is changed where it writes none. -/
inductive Stores (row : Row) (key outcome : String) : Row → Prop where
  | label {labels : Labels} (hkey : key ≠ "__v__0")
      (hlabel : labels.get? key = if outcome = "" then none else some outcome)
      (hothers : ∀ name, name ≠ key → labels.get? name = row.labels.get? name) :
      Stores row key outcome ⟨labels, row.sample⟩
  | value {x : Float} (hkey : key = "__v__0") (hread : Decimal.read? outcome = some x) :
      Stores row key outcome ⟨row.labels, ⟨row.sample.time, x⟩⟩
  | unread (hkey : key = "__v__0") (hread : Decimal.read? outcome = none) :
      Stores row key outcome row

theorem stores_assign (row : Row) (key : String) (ternary : Ternary) :
    Stores row key (ternary.eval row) (assign row (key, ternary)) := by
  unfold assign
  dsimp only
  split_ifs with hkey
  · -- An outcome that is no number leaves the row as it is.
    split
    · rename_i x hread
      exact .value hkey hread
    · rename_i hread
      exact .unread hkey hread
  · -- Only the label of the key is touched, be it set or removed.
    refine .label hkey ?_ ?_
    · rw [Labels.get?_assign, if_pos rfl]
    · intro name hname
      rw [Labels.get?_assign, if_neg (Ne.symm hname)]

/-! ## §3 Lists of assignments -/

/-- What the assignments make of one row. -/
def act (plan : Conditional) (row : Row) : Row := plan.assignments.foldl assign row

/-- Assignments behind others act on what those leave. -/
theorem run_append (first second : List (String × Ternary)) (rows : InstantVector) :
    run ⟨first ++ second⟩ rows = run ⟨second⟩ (run ⟨first⟩ rows) := by
  simp [run, List.foldl_append]

theorem readAll_append (function : String) (first second : List (String × String)) :
    readAll function (first ++ second) = do
      let assignments ← readAll function first
      let others ← readAll function second
      return assignments ++ others := by
  induction first with
  | nil =>
    cases h : readAll function second <;> simp [readAll, h, bind, Except.bind, pure, Except.pure]
  -- The first pair is read, or its fault is the fault of both lists.
  | cons pair first ih =>
    obtain ⟨key, text⟩ := pair
    simp only [List.cons_append, readAll, ih, bind_assoc, pure_bind]

theorem ofPairs_of_even (function : String) {texts : List String} (h : texts.length % 2 = 0) :
    ofPairs function texts = mk <$> readAll function (Parameters.pairUp texts) := by
  rw [ofPairs, Parameters.pairs, if_pos h]
  rfl

/-- Lists of even length are read together just where they are read apart. -/
theorem ofPairs_append_eq_ok_iff {function : String} {first second : List String}
    (hfirst : first.length % 2 = 0) (hsecond : second.length % 2 = 0) {plan : Conditional} :
    ofPairs function (first ++ second) = .ok plan ↔
      ∃ one other, ofPairs function first = .ok one ∧ ofPairs function second = .ok other ∧
        ⟨one.assignments ++ other.assignments⟩ = plan := by
  have hlength : (first ++ second).length % 2 = 0 := by
    rw [List.length_append]
    omega
  -- Texts are paired apart from each other, since the first list ends with a whole pair.
  have happend : ofPairs function (first ++ second) = do
      let one ← ofPairs function first
      let other ← ofPairs function second
      return ⟨one.assignments ++ other.assignments⟩ := by
    rw [ofPairs_of_even function hlength, ofPairs_of_even function hfirst,
      ofPairs_of_even function hsecond, Parameters.pairUp_append hfirst, readAll_append]
    simp only [map_bind, map_pure, bind_map_left]
  rw [happend, bind_eq_ok_iff]
  simp only [map_eq_ok_iff, exists_and_left]

/-- A pair of a label name and an expression is one assignment. -/
theorem ofPairs_single (function : String) {key text : String} {ternary : Ternary}
    (hkey : Text.isLabelName key = true) (hread : Ternary.read text = .ok ternary) :
    ofPairs function [key, text] = .ok ⟨[(key, ternary)]⟩ := by
  rw [ofPairs_of_even function (by simp)]
  simp only [Parameters.pairUp, readAll, Parameters.checkName, hkey, hread, if_true]
  rfl

/-! ## §4 Calls -/

theorem call_eq (time : Int) (rows : InstantVector) (texts : List String) :
    Builtin.labelsAppendTernary.call time (.vector rows :: texts.map .text) =
      (fun plan : Conditional => .vector (plan.run rows)) <$>
        ofPairs "labels_append_ternary" texts := by
  rw [Builtin.call, Builtin.rows_of_texts rfl, Builtin.plan]
  cases h : ofPairs "labels_append_ternary" texts with
  | error fault => simp [Builtin.name, h, bind, Except.bind]
  | ok plan =>
    simp [Builtin.name, h, bind, Except.bind]
    rfl

/-- **Conditional labels compose**: two lists of assignments of even length are run together just
    where both are run, and then the second acts on what the first leaves.  Each list of parameters
    is faulted for all vectors or acts on each row by itself, and a single assignment stores what
    its expression chooses in the row. -/
theorem calls_compose (time : Int) :
    let call (rows : InstantVector) (texts : List String) : Except Fault Value :=
      Builtin.labelsAppendTernary.call time (.vector rows :: texts.map .text)
    (∀ (rows : InstantVector) (first second : List String),
      first.length % 2 = 0 → second.length % 2 = 0 →
        ((∃ value, call rows (first ++ second) = .ok value) ↔
          (∃ value, call rows first = .ok value) ∧ ∃ value, call rows second = .ok value) ∧
        ∀ value, call rows (first ++ second) = .ok value →
          ∃ between, call rows first = .ok (.vector between) ∧
            call between second = .ok value) ∧
    (∀ texts, (∃ fault, ∀ rows, call rows texts = .error fault) ∨
      ∃ act : Row → Row, ∀ rows, call rows texts = .ok (.vector (rows.map act))) ∧
    (∀ key text ternary, Text.isLabelName key = true → Ternary.read text = .ok ternary →
      ∃ act : Row → Row, (∀ rows, call rows [key, text] = .ok (.vector (rows.map act))) ∧
        ∀ row, ∃ outcome, ternary.Chooses row outcome ∧ Stores row key outcome (act row)) := by
  intro call
  have hcall (rows : InstantVector) (texts : List String) (value : Value) :
      call rows texts = .ok value ↔ ∃ plan, ofPairs "labels_append_ternary" texts = .ok plan ∧
        .vector (plan.run rows) = value := by
    simp only [call, call_eq, fmap_eq_ok_iff]
  refine ⟨?_, ?_, ?_⟩
  · -- Whether a list is run depends on its texts alone, so the rows between do not matter.
    intro rows first second hfirst hsecond
    simp only [hcall, ofPairs_append_eq_ok_iff hfirst hsecond]
    constructor
    · constructor
      · rintro ⟨_, _, ⟨one, other, hone, hother, -⟩, -⟩
        exact ⟨⟨_, one, hone, rfl⟩, _, other, hother, rfl⟩
      · rintro ⟨⟨_, one, hone, -⟩, _, other, hother, -⟩
        exact ⟨_, _, ⟨one, other, hone, hother, rfl⟩, rfl⟩
    · rintro _ ⟨_, ⟨one, other, hone, hother, rfl⟩, rfl⟩
      exact ⟨one.run rows, ⟨one, hone, rfl⟩, other, hother, by rw [run_append]⟩
  · intro texts
    -- A list is read or faulted without a look at the rows.
    cases hplan : ofPairs "labels_append_ternary" texts with
    | error fault =>
      refine .inl ⟨fault, fun rows => ?_⟩
      simp only [call, call_eq, hplan]
      rfl
    | ok plan => exact .inr ⟨plan.act, fun rows => (hcall ..).mpr ⟨plan, hplan, rfl⟩⟩
  · intro key text ternary hkey hread
    -- One pair is one assignment, and that acts on each row.
    have hplan := ofPairs_single "labels_append_ternary" hkey hread
    refine ⟨(assign · (key, ternary)), fun rows => (hcall ..).mpr ⟨_, hplan, rfl⟩, fun row => ?_⟩
    exact ⟨ternary.eval row, ternary.chooses_eval row, stores_assign row key ternary⟩

/-- The second list tests the label that the first one sets, and not all rows had before. -/
theorem calls_compose_on_color :
    let call (rows : InstantVector) (texts : List String) : Except Fault Value :=
      Builtin.labelsAppendTernary.call 0 (.vector rows :: texts.map .text)
    let rows : InstantVector :=
      [⟨.singleton "env" "prod", ⟨0, 1⟩⟩,
        ⟨{ entries := [("color", "x"), ("env", "dev"), ("tier", "y")] }, ⟨0, 2⟩⟩]
    let colored : InstantVector :=
      [⟨{ entries := [("color", "blue"), ("env", "prod"), ("tier", "gold")] }, ⟨0, 1⟩⟩,
        ⟨{ entries := [("color", "green"), ("env", "dev")] }, ⟨0, 2⟩⟩]
    let first := ["color", "env==prod?blue:green"]
    let second := ["tier", "color==blue?'gold':''"]
    let expression : Ternary := ⟨"color", .equal, .bare "blue", .literal "gold", .literal ""⟩
    (first.length % 2 = 0 ∧ second.length % 2 = 0) ∧
    (Text.isLabelName "tier" = true ∧ Ternary.read "color==blue?'gold':''" = .ok expression) ∧
    (∃ between, call rows first = .ok (.vector between) ∧
      call between second = .ok (.vector colored)) ∧
    ∃ act : Row → Row, ∀ row, ∃ outcome,
      expression.Chooses row outcome ∧ Stores row "tier" outcome (act row) := by
  intro call rows colored first second expression
  have hread : Ternary.read "color==blue?'gold':''" = .ok expression := rfl
  have hfirst : first.length % 2 = 0 := by simp [first]
  have hsecond : second.length % 2 = 0 := by simp [second]
  obtain ⟨act, -, hact⟩ := (calls_compose 0).2.2 "tier" _ expression rfl hread
  have hbetween := ((calls_compose 0).1 rows first second hfirst hsecond).2 _ rfl
  exact ⟨⟨hfirst, hsecond⟩, ⟨rfl, hread⟩, hbetween, act, hact⟩

end Conditional

end LabeledSeries
