import LabeledSeries.Proofs.Decimal.ReadBack
import LabeledSeries.Proofs.Instant.ConditionalLabels

/-!
# A value set to its own text

The value of a row can stand in a label, and a conditional expression can set it from a text.  As
the text of a value is read back as the value, an expression that chooses the value itself changes
nothing.

§1 Texts of values.  Doubles are given by their bit patterns, so that zeros are told apart.

§2 The branch that an expression takes, by the rules for what it tests.

§3 Calls (`Conditional.calls_keep_value`).
-/

namespace LabeledSeries

/-! ## §1 Texts of values -/

/-- The text of a value is read back bit for bit. -/
theorem read?_valueText {bits : UInt64} (h : ¬Decimal.IsNaNPattern bits.toNat) :
    Decimal.read? (valueText (Float.ofBits bits)) = some (Float.ofBits bits) := by
  rw [valueText, Decimal.Binary.ofFloat, Decimal.toBits_ofBits h,
    Decimal.read?_write bits.toNat_lt h, UInt64.ofNat_toNat]

theorem isNaNPattern_toBits {x : Float} (h : x.isNaN = false) :
    ¬Decimal.IsNaNPattern x.toBits.toNat := by
  rw [← Decimal.isNaN_ofBits_iff, Float.ofBits_toBits, h]
  decide

/-- The text of what is no number is read as such. -/
theorem read?_valueText_of_isNaN {x : Float} (h : x.isNaN = true) :
    ∃ y, Decimal.read? (valueText x) = some y ∧ y.isNaN = true := by
  -- There is one value of the kind in `Float`, but its patterns differ.
  obtain rfl : x = Float.nan := by simpa using h
  exact ⟨Decimal.signedFloat false Decimal.notANumberBits, by decide +kernel, by decide +kernel⟩

namespace Ternary

/-! ## §2 The branch of an expression -/

/-- The operand that an expression takes its outcome from in a row. -/
inductive Takes (row : Row) (ternary : Ternary) : Operand → Prop where
  | whenTrue {tested operand : String} (htested : Tests row ternary.key tested)
      (hoperand : ternary.operand.StandsFor row operand)
      (hholds : ternary.comparison.HoldsOf (Text.utf8Bytes tested) (Text.utf8Bytes operand)) :
      Takes row ternary ternary.whenTrue
  | whenFalse {tested operand : String} (htested : Tests row ternary.key tested)
      (hoperand : ternary.operand.StandsFor row operand)
      (hholds : ¬ternary.comparison.HoldsOf (Text.utf8Bytes tested) (Text.utf8Bytes operand)) :
      Takes row ternary ternary.whenFalse

theorem subject_eq_of_tests {row : Row} {ternary : Ternary} {text : String}
    (h : Tests row ternary.key text) : ternary.subject row = text := by
  unfold subject Labels.value
  generalize ternary.key = key at h
  cases h with
  | value => rfl
  | label hvalue h => simp [ownValue, hvalue, h]
  | missing hvalue h => simp [ownValue, hvalue, h]

end Ternary

theorem Operand.resolve_eq_of_standsFor {row : Row} {operand : Operand} {text : String}
    (h : operand.StandsFor row text) : operand.resolve row = text := by
  cases h with
  | literal => rfl
  | value => rfl
  | label hvalue h => simp [resolve, ownValue, hvalue, h]
  | token hvalue h => simp [resolve, ownValue, hvalue, h]

/-- The outcome of an expression is what the operand that it takes stands for. -/
theorem Ternary.eval_eq_of_takes {row : Row} {ternary : Ternary} {operand : Operand}
    (h : ternary.Takes row operand) : ternary.eval row = operand.resolve row := by
  cases h with
  | whenTrue htested hoperand hholds =>
    rw [← subject_eq_of_tests htested, ← Operand.resolve_eq_of_standsFor hoperand,
      ← Comparison.holds_iff] at hholds
    rw [eval, if_pos hholds]
  | whenFalse htested hoperand hholds =>
    rw [← subject_eq_of_tests htested, ← Operand.resolve_eq_of_standsFor hoperand,
      ← Comparison.holds_iff] at hholds
    rw [eval, if_neg hholds]

namespace Conditional

/-! ## §3 Calls -/

/-- An assignment of its own text to a value changes nothing. -/
theorem assign_ownValue {row : Row} {ternary : Ternary}
    (htakes : ternary.Takes row (.bare "__v__0")) (hnumber : row.sample.value.isNaN = false) :
    assign row ("__v__0", ternary) = row := by
  -- What is chosen is the text of the value, and that is read back.
  have hread : Decimal.read? (ternary.eval row) = some row.sample.value := by
    rw [Ternary.eval_eq_of_takes htakes]
    have htext := read?_valueText (isNaNPattern_toBits hnumber)
    rwa [Float.ofBits_toBits] at htext
  simp only [assign, ownValue, hread, if_true]

/-- **Texts of values are read back**: bit for bit, and as no number where there was none.  There is
    no exponent in them, and numbers of different bits have different texts.  So an expression that
    takes the value itself leaves every row as it was, where it is set to the value. -/
theorem calls_keep_value (time : Int) :
    let text (bits : UInt64) : String := valueText (Float.ofBits bits)
    (∀ bits, ∃ y, Decimal.read? (text bits) = some y ∧
      (Decimal.IsNaNPattern bits.toNat → y.isNaN = true) ∧
      (¬Decimal.IsNaNPattern bits.toNat → y.toBits = bits)) ∧
    (∀ bits, 'e' ∉ (text bits).toList ∧ 'E' ∉ (text bits).toList) ∧
    (∀ bits other, ¬Decimal.IsNaNPattern bits.toNat → ¬Decimal.IsNaNPattern other.toNat →
      text bits = text other → bits = other) ∧
    ∀ expression ternary, Ternary.read expression = .ok ternary →
      ∃ act : Row → Row,
        (∀ rows, Builtin.labelsAppendTernary.call time
          (.vector rows :: ["__v__0", expression].map .text) = .ok (.vector (rows.map act))) ∧
        ∀ row, ternary.Takes row (.bare "__v__0") → row.sample.value.isNaN = false →
          act row = row := by
  intro text
  refine ⟨fun bits => ?_, fun bits => ?_, fun bits other hbits hother heq => ?_,
    fun expression ternary hread => ?_⟩
  · by_cases h : Decimal.IsNaNPattern bits.toNat
    · obtain ⟨y, hread, hnan⟩ :=
        read?_valueText_of_isNaN ((Decimal.isNaN_ofBits_iff bits).mpr h)
      exact ⟨y, hread, fun _ => hnan, fun hnot => absurd h hnot⟩
    · exact ⟨_, read?_valueText h, fun hnan => absurd hnan h, fun _ => Decimal.toBits_ofBits h⟩
  · have hchars := Decimal.ne_e_of_mem_write (Decimal.Binary.ofFloat (Float.ofBits bits))
    exact ⟨fun h => (hchars _ h).1 rfl, fun h => (hchars _ h).2 rfl⟩
  · -- If both texts are the same, so is what is read back from them.
    have hsame := read?_valueText hbits
    rw [show valueText (Float.ofBits bits) = valueText (Float.ofBits other) from heq,
      read?_valueText hother, Option.some.injEq] at hsame
    rw [← Decimal.toBits_ofBits hbits, ← hsame, Decimal.toBits_ofBits hother]
  · refine ⟨(assign · ("__v__0", ternary)), fun rows => ?_, fun row => assign_ownValue⟩
    have hkey : Text.isLabelName "__v__0" = true := rfl
    rw [call_eq, ofPairs_single "labels_append_ternary" hkey hread]
    rfl

/-- The least double above zero is read back, the zeros have different texts, and a row of that
    value keeps it. -/
theorem calls_keep_least_value :
    let expression : Ternary := ⟨"env", .equal, .bare "prod", .bare "__v__0", .literal "0"⟩
    let row : Row := ⟨.singleton "env" "prod", ⟨0, Float.ofBits 1⟩⟩
    (¬Decimal.IsNaNPattern (1 : UInt64).toNat ∧ row.sample.value.isNaN = false ∧
      Ternary.read "env==prod?__v__0:'0'" = .ok expression ∧
      expression.Takes row (.bare "__v__0")) ∧
    (∃ y, Decimal.read? (valueText (Float.ofBits 1)) = some y ∧ y.toBits = 1) ∧
    valueText (Float.ofBits 0) ≠ valueText (Float.ofBits 0x8000000000000000) ∧
    Builtin.labelsAppendTernary.call 0 [.vector [row], .text "__v__0",
      .text "env==prod?__v__0:'0'"] = .ok (.vector [row]) := by
  intro expression row
  have hbits : ¬Decimal.IsNaNPattern (1 : UInt64).toNat := by decide +kernel
  have hnumber : row.sample.value.isNaN = false := by
    rw [← Bool.not_eq_true, Decimal.isNaN_ofBits_iff]
    exact hbits
  have hread : Ternary.read "env==prod?__v__0:'0'" = .ok expression := rfl
  have htakes : expression.Takes row (.bare "__v__0") :=
    .whenTrue (.label (by decide) (NameMap.get?_singleton ..))
      (.token (by decide) (NameMap.get?_singleton ..)) rfl
  obtain ⟨hback, -, hdistinct, hkeep⟩ := calls_keep_value 0
  obtain ⟨y, hy, -, hsame⟩ := hback 1
  obtain ⟨act, hcall, hact⟩ := hkeep _ expression hread
  refine ⟨⟨hbits, hnumber, hread, htakes⟩, ⟨y, hy, hsame hbits⟩, ?_, ?_⟩
  · exact mt (hdistinct 0 0x8000000000000000 (by decide +kernel) (by decide +kernel)) (by decide)
  · have hrow := hcall [row]
    rwa [List.map_singleton, hact row htakes hnumber] at hrow

end Conditional

end LabeledSeries
