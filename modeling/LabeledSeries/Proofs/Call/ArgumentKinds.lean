import LabeledSeries.Proofs.Call.Checking
import LabeledSeries.Proofs.Call.Faults
import LabeledSeries.Proofs.Engine.InstantAndRange

/-!
# Kinds of hosted arguments

The arguments of a hosted call are written as texts, evaluated over a store, and then checked.  The
check sees values only: a selector that selects nothing has become nothing, and nothing passes for
an empty vector and an empty matrix.  So whether a selector of the wrong kind is faulted can depend
on the rows of the store (`Engine.call_faults_depend_on_rows`).

It depends on nothing else.  §1 A value that is not nothing is of the kind of its expression.
§2 Values that pass alike for the kinds declared are checked and planned alike.  §3 Over two stores
that give rows for the same mistyped arguments, calls have the same faults
(`Engine.call_eq_error_iff_of_alike_empty`).
-/

namespace LabeledSeries

/-! ## §1 Kinds of expressions -/

@[simp]
theorem Query.Expr.kind_bare (e : Query.Expr) : e.bare.kind = e.kind := by
  fun_induction Query.Expr.bare e with
  | case1 inner ih => exact ih
  | case2 => rfl

theorem Value.isA_eq_true_iff {value : Value} (h : value ≠ .none) (kind : Kind) :
    value.isA kind = true ↔ value.kind = kind := by
  cases value <;> cases kind <;> first | exact absurd rfl h | simp [isA, Value.kind]

namespace Engine

variable {engine other : Engine} {text : String} {time : Int}

/-- Selectors and literals evaluate to values of their kind, unless they evaluate to nothing. -/
theorem kind_of_evaluate {e : Query.Expr} {value : Value}
    (h : engine.evaluate text time e = .ok value) (hvalue : value ≠ .none) :
    value.kind = e.kind := by
  unfold evaluate at h
  split at h
  · -- An instant selector gives rows or, where there are none, nothing.
    obtain ⟨rows, -, rfl⟩ := map_eq_ok_iff.mp h
    unfold ofRows at hvalue ⊢
    split at hvalue
    · exact absurd rfl hvalue
    · simp_all [Value.kind, Query.Expr.kind]
  · -- A range selector likewise gives series or nothing.
    obtain ⟨series, -, rfl⟩ := map_eq_ok_iff.mp h
    unfold ofSeries at hvalue ⊢
    split at hvalue
    · exact absurd rfl hvalue
    · simp_all [Value.kind, Query.Expr.kind]
  · -- Numbers and texts are evaluated to themselves, and other expressions are faulted.
    cases h
    rfl
  · cases h
    rfl
  · cases h

/-- What a text evaluates to is of the kind of its expression, unless it is nothing. -/
theorem kind_of_query {value : Value} (h : engine.query text time = .ok value) :
    ∃ e, Query.Expr.read? text = some e ∧ (value ≠ .none → value.kind = e.kind) := by
  unfold query at h
  split at h
  · cases h
  · rename_i e hread
    refine ⟨e, hread, fun hvalue => ?_⟩
    rw [kind_of_evaluate h hvalue, Query.Expr.kind_bare]

end Engine

/-! ## §2 Values that pass alike -/

theorem Value.SameParameter.refl (value : Value) : value.SameParameter value := by
  cases value with
  | vector rows => exact .vector rows rows
  | matrix series => exact .matrix series series
  | scalar x => exact .scalar x x
  | text s => exact .text s
  | none => exact .none

/-- Values that both fit a kind or are both misfits of one kind, and that have the same parameters
    as what they are passed for. -/
structure Value.PassAlike (kind : Kind) (value other : Value) : Prop where
  isA_eq : value.isA kind = other.isA kind
  kind_eq : value.isA kind = false → value.kind = other.kind
  passedAs : (value.passedAs kind).SameParameter (other.passedAs kind)

theorem Value.PassAlike.refl (kind : Kind) (value : Value) : value.PassAlike kind value :=
  ⟨rfl, fun _ => rfl, .refl _⟩

/-- Arguments from a position on that pass alike for the kinds declared there. -/
inductive Signature.PassAlike (signature : Signature) : Nat → List Value → List Value → Prop where
  | nil (position : Nat) : PassAlike signature position [] []
  | cons {position : Nat} {kind : Kind} {value other : Value} {values others : List Value}
      (declared : signature.kindAt? position = some kind) (alike : value.PassAlike kind other)
      (rest : PassAlike signature (position + 1) values others) :
      PassAlike signature position (value :: values) (other :: others)

namespace Signature.PassAlike

variable {signature : Signature} {position : Nat} {values others : List Value}

theorem length_eq (h : signature.PassAlike position values others) :
    values.length = others.length := by
  induction h with
  | nil => rfl
  | cons _ _ _ ih => simp [ih]

/-- The check of the kinds cannot tell them apart. -/
theorem checkKinds_eq (h : signature.PassAlike position values others) (function : String) :
    signature.checkKinds function position values =
      signature.checkKinds function position others := by
  induction h with
  | nil => rfl
  | @cons _ kind value other _ _ hkind halike _ ih =>
    simp only [checkKinds, hkind, ← halike.isA_eq]
    split
    · -- A misfit is faulted with its own kind, which both values have.
      exact ih
    · rename_i hisA
      rw [halike.kind_eq (by simpa using hisA)]

theorem check_eq (h : signature.PassAlike 0 values others) (function : String) :
    signature.check function values = signature.check function others := by
  rw [check, check, h.length_eq, h.checkKinds_eq]

/-- They have the same parameters as what they are passed for. -/
theorem passedAt (h : signature.PassAlike position values others) :
    List.Forall₂ Value.SameParameter
      (values.mapIdx fun index value => value.passedAt (signature.kindAt? (position + index)))
      (others.mapIdx fun index value => value.passedAt (signature.kindAt? (position + index))) := by
  induction h with
  | nil => exact .nil
  -- The kinds of the later values are counted from the next position on.
  | @cons position _ _ _ _ _ hkind halike _ ih =>
    rw [Value.mapIdx_passedAt_cons, Value.mapIdx_passedAt_cons, hkind]
    exact .cons halike.passedAs ih

end Signature.PassAlike

/-- Checked calls of a function with arguments that pass alike have the same faults. -/
theorem Builtin.call_sameOutcome_of_passAlike (function : Builtin) {values others : List Value}
    (h : function.signature.PassAlike 0 values others)
    (hcheck : function.signature.check function.name values = .ok ()) (time : Int) :
    SameOutcome (fun _ _ => True) (function.call time values) (function.call time others) := by
  have hparameter := h.passedAt
  simp only [Nat.zero_add] at hparameter
  have hothers := h.check_eq function.name ▸ hcheck
  rw [call, call, function.rows_of_check hcheck, function.rows_of_check hothers]
  simp only [Value.SameParameter.texts_eq hparameter,
    Value.SameParameter.length_vectors_eq hparameter]
  -- Both plans are made of the same texts and the same number of vectors.
  cases function.plan _ _ with
  | error fault => exact .error fault
  | ok plan => exact .ok trivial

/-! ## §3 Hosted calls -/

/-- A text is written for a kind by an expression of another kind. -/
def Kind.Mistyped (kind : Kind) (text : String) : Prop :=
  (kind = .vector ∨ kind = .matrix) ∧ ∃ e, Query.Expr.read? text = some e ∧ e.kind ≠ kind

/-- A text is among the arguments of a call, at a position that is declared to be of a kind. -/
def FunctionTable.Writes (table : FunctionTable) (name : String) (texts : List String)
    (text : String) (kind : Kind) : Prop :=
  ∃ signature index, table.signature? name = some signature ∧ texts[index]? = some text ∧
    signature.kindAt? index = some kind

/-- The names of the tables of a store, with their columns. -/
def Store.schemas (store : Store) : List (String × List Column) :=
  store.tables.entries.map fun (name, table) => (name, table.columns)

theorem FunctionTable.signature?_builtin (function : Builtin) :
    builtin.signature? function.name = some function.signature := by
  rw [signature?, get?_builtin, Builtin.ofName?_name]
  rfl

namespace Engine

variable {engine other : Engine} {text : String} {time : Int} {kind : Kind}

/-- Two values of one argument pass alike, unless it is mistyped and only one of them is nothing. -/
theorem passAlike_of_argument {value value' : Value}
    (h : engine.argument text time kind = .ok value)
    (h' : other.argument text time kind = .ok value')
    (hempty : kind.Mistyped text → (value = .none ↔ value' = .none)) :
    value.PassAlike kind value' := by
  -- Numbers and texts are read without the store.
  have hliteral (heq : engine.argument text time kind = other.argument text time kind) :
      value.PassAlike kind value' := by
    rw [heq, h'] at h
    cases h
    exact .refl kind _
  -- Vectors and matrices are what the text evaluates to, over either store.
  have hselector (hquery : engine.argument text time kind = engine.query text time)
      (hquery' : other.argument text time kind = other.query text time)
      (hkind : kind = .vector ∨ kind = .matrix) : value.PassAlike kind value' := by
    obtain ⟨e, hread, hvalue⟩ := kind_of_query (hquery ▸ h)
    obtain ⟨e', hread', hvalue'⟩ := kind_of_query (hquery' ▸ h')
    obtain rfl := Option.some.inj (hread.symm.trans hread')
    have hpassed : (value.passedAs kind).SameParameter (value'.passedAs kind) := by
      rcases hkind with rfl | rfl
      · exact .vector _ _
      · exact .matrix _ _
    have hfits (v : Value) (hv : v ≠ .none → v.kind = e.kind) (he : e.kind = kind) :
        v.isA kind = true := by
      by_cases hnone : v = .none
      · subst hnone
        rcases hkind with rfl | rfl <;> rfl
      · exact (Value.isA_eq_true_iff hnone kind).mpr ((hv hnone).trans he)
    by_cases he : e.kind = kind
    · have hisA := hfits value hvalue he
      exact ⟨hisA.trans (hfits value' hvalue' he).symm, fun hfalse => by simp [hisA] at hfalse,
        hpassed⟩
    · -- A mistyped argument is nothing in both stores, or of the same kind in both.
      have hboth := hempty ⟨hkind, e, hread, he⟩
      by_cases hnone : value = .none
      · -- Nothing over one store is nothing over the other.
        cases hnone.trans (hboth.mp hnone).symm
        exact .refl kind value
      · have hnone' : value' ≠ .none := mt hboth.mpr hnone
        have hkinds : value.kind = value'.kind := (hvalue hnone).trans (hvalue' hnone').symm
        refine ⟨?_, fun _ => hkinds, hpassed⟩
        rw [Bool.eq_iff_iff, Value.isA_eq_true_iff hnone, Value.isA_eq_true_iff hnone', hkinds]
  cases kind with
  | vector => exact hselector rfl rfl (.inl rfl)
  | matrix => exact hselector rfl rfl (.inr rfl)
  | scalar => exact hliteral rfl
  | text => exact hliteral rfl

/-- Arguments that all evaluate, and pass alike one by one, do so as a list; there may be too many
    of them over both stores. -/
theorem arguments_sameOutcome (name : String) (signature : Signature) (count : Nat)
    {texts : List String} {position : Nat}
    (h : ∀ (index : Nat) text kind, texts[index]? = some text →
      signature.kindAt? (position + index) = some kind →
      ∃ value value', engine.argument text time kind = .ok value ∧
        other.argument text time kind = .ok value' ∧ value.PassAlike kind value') :
    SameOutcome (signature.PassAlike position)
      (engine.arguments name signature count time position texts)
      (other.arguments name signature count time position texts) := by
  induction texts generalizing position with
  | nil => exact .ok (.nil position)
  | cons text texts ih =>
    -- The first texts evaluate over both stores; the later ones are the induction's.
    rw [arguments, arguments]
    cases hkind : signature.kindAt? position with
    | none =>
      -- No kind is declared there, so there are too many arguments over both stores.
      exact .error _
    | some kind =>
      obtain ⟨value, value', hvalue, hvalue', halike⟩ := h 0 text kind rfl hkind
      have hrest := @ih (position + 1) fun index text kind htext hdeclared =>
        h (index + 1) text kind htext (by rwa [Nat.add_assoc, Nat.add_comm 1 index] at hdeclared)
      simp only [hvalue, hvalue']
      refine hrest.bind fun values others hothers => ?_
      exact .ok (.cons hkind halike hothers)

/-- A call of a library function: its arguments are evaluated, and then checked. -/
theorem call_library (hengine : engine.functions = .builtin) (function : Builtin)
    (texts : List String) :
    engine.call function.name texts time = (do
      let values ← engine.arguments function.name function.signature texts.length time 0 texts
      function.signature.check function.name values
      function.call time values) := by
  rw [call, hengine]
  simp only [FunctionTable.signature?_builtin, FunctionTable.checkArguments_builtin,
    FunctionTable.call_builtin]

/-- **What the faults of hosted calls depend on**: over any two stores, if all arguments of a call
    evaluate over both, and the mistyped ones that are nothing over one are nothing over the other,
    then the call of a library function has the same faults over both.  In particular the same
    argument is faulted for its kind, if any is. -/
theorem call_eq_error_iff_of_alike_empty (engine other : Engine)
    (hengine : engine.functions = .builtin) (hother : other.functions = .builtin)
    (name : String) (texts : List String) (time : Int)
    (hevaluates : ∀ text kind, FunctionTable.builtin.Writes name texts text kind →
      (∃ value, engine.argument text time kind = .ok value) ∧
        ∃ value, other.argument text time kind = .ok value)
    (hempty : ∀ text kind, FunctionTable.builtin.Writes name texts text kind →
      kind.Mistyped text →
      (engine.argument text time kind = .ok .none ↔ other.argument text time kind = .ok .none))
    (fault : Fault) :
    engine.call name texts time = .error fault ↔ other.call name texts time = .error fault := by
  suffices h : SameOutcome (fun _ _ => True) (engine.call name texts time)
      (other.call name texts time) from h.eq_error_iff fault
  cases hname : Builtin.ofName? name with
  | none =>
    -- An unknown function is faulted before its arguments are evaluated.
    rw [call, call, hengine, hother, FunctionTable.signature?, FunctionTable.get?_builtin, hname]
    exact .error _
  | some function =>
    have hcalled := Builtin.name_of_ofName? hname
    subst hcalled
    rw [call_library hengine, call_library hother]
    refine (arguments_sameOutcome function.name function.signature texts.length ?_).bind ?_
    · intro index text kind htext hkind
      rw [Nat.zero_add] at hkind
      -- The text stands at a position of the call, so its evaluation is assumed.
      have hwrites : FunctionTable.builtin.Writes function.name texts text kind :=
        ⟨_, index, FunctionTable.signature?_builtin function, htext, hkind⟩
      obtain ⟨⟨value, hvalue⟩, value', hvalue'⟩ := hevaluates text kind hwrites
      refine ⟨value, value', hvalue, hvalue', passAlike_of_argument hvalue hvalue' ?_⟩
      intro hmistyped
      simpa [hvalue, hvalue'] using hempty text kind hwrites hmistyped
    · -- What evaluates alike is checked alike, and then called alike.
      intro values others halike
      rw [← halike.check_eq]
      cases hcheck : function.signature.check function.name values with
      | error fault => exact .error fault
      | ok => exact function.call_sameOutcome_of_passAlike halike hcheck time

/-- An engine over one table, of a metric without labels. -/
def upEngine (rows : List (List Cell)) : Engine :=
  ofStore ⟨.singleton "up" ⟨sampleColumns, rows⟩⟩ ⟨1000000⟩

theorem query_upEngine (rows : List (List Cell)) :
    (upEngine rows).query "up" 0 =
      ((Table.select ⟨sampleColumns, rows⟩ [] ⟨-1000, 0⟩).map
        fun series => series.filterMap latestRow?).map ofRows := by
  have htable : (upEngine rows).store.table? "up" = some ⟨sampleColumns, rows⟩ := by
    rw [Store.table?_of_lower (by decide) (by simp), upEngine, ofStore_store]
    exact NameMap.get?_singleton "up" "up" _
  have hlookback : (upEngine rows).lookback = 1000 := rfl
  have hselect (window : Time.Window) :
      (upEngine rows).select { name := some "up", matchers := [] } window =
        Table.select ⟨sampleColumns, rows⟩ [] window := by
    rw [select_named, Store.select, htable]
  rw [query_instant read?_up, selectInstant_eq (by rw [hlookback]; decide), hlookback, hselect]
  rfl

theorem query_upEngine_singleton (x : Float) :
    (upEngine [[.integer 0, .double x]]).query "up" 0 = .ok (.vector [⟨.empty, ⟨0, x⟩⟩]) := by
  have hformed : (Table.mk sampleColumns [[.integer 0, .double x]]).WellFormed :=
    { nodup_names := by simp [sampleColumns, timeColumn, valueColumn]
      timeColumn_mem := by simp [sampleColumns]
      valueColumn_mem := by simp [sampleColumns]
      -- The two cells are sampled by evaluating the selection on this one table.
      rows_fit := by simp [sampleColumns, Cell.fits] }
  rw [query_upEngine, Table.select_of_wellFormed _ hformed (by simp)]
  simp [Table.naiveSelect, Table.samplesWithin, sampleColumns, Table.labelledSample?,
    Table.labelSet?, Labels.ofPairs?_eq, Table.textCells, Cell.labelText?, Table.sample?,
    Table.sample, Table.cell, timeColumn, valueColumn, Cell.storedInteger, Cell.storedDouble,
    Time.Window.holds, grouped, gather, sortOn, List.eraseDups_cons, Except.map, latestRow?, ofRows]

/-- The call of a function of matrices for a selector of rows. -/
theorem call_upEngine {rows : List (List Cell)} {value : Value}
    (hvalue : (upEngine rows).query "up" 0 = .ok value) :
    (upEngine rows).call "aggregate_matrix_max" ["up"] 0 = (do
      Builtin.aggregateMatrixMax.signature.check "aggregate_matrix_max" [value]
      Builtin.aggregateMatrixMax.call 0 [value]) := by
  have hvalues : (upEngine rows).arguments Builtin.aggregateMatrixMax.name
      Builtin.aggregateMatrixMax.signature 1 0 0 ["up"] = .ok [value] := by
    simp [arguments, Builtin.signature, Builtin.declared, Signature.kindAt?, argument, hvalue,
      bind, Except.bind, pure, Except.pure]
  have hbuiltin : (upEngine rows).functions = .builtin := rfl
  refine (call_library hbuiltin .aggregateMatrixMax ["up"]).trans ?_
  rw [List.length_singleton, hvalues]
  rfl

/-- A text that is written for a matrix, and the only argument of a call. -/
theorem writes_up {text : String} {kind : Kind}
    (h : FunctionTable.builtin.Writes "aggregate_matrix_max" ["up"] text kind) :
    text = "up" ∧ kind = .matrix := by
  obtain ⟨signature, index, hsignature, htext, hkind⟩ := h
  have hlibrary := FunctionTable.signature?_builtin .aggregateMatrixMax
  obtain rfl := Option.some.inj (hlibrary.symm.trans hsignature)
  cases index with
  | zero =>
    -- The only text of the call is at the first position, declared for a matrix.
    cases htext
    cases hkind
    exact ⟨rfl, rfl⟩
  | succ index => cases htext

/-- A selector of rows is faulted for its kind over any two tables with a row each. -/
theorem call_eq_error_iff_of_alike_empty_for_up :
    let fault := Fault.argumentKind "aggregate_matrix_max" 0 (some .matrix) .vector
    let engine := upEngine [[.integer 0, .double 0.5]]
    let other := upEngine [[.integer 0, .double 2]]
    Kind.Mistyped .matrix "up" ∧
      engine.call "aggregate_matrix_max" ["up"] 0 = .error fault ∧
      other.call "aggregate_matrix_max" ["up"] 0 = .error fault := by
  intro fault engine other
  have hengine := query_upEngine_singleton 0.5
  have hother := query_upEngine_singleton 2
  have hcall : engine.call "aggregate_matrix_max" ["up"] 0 = .error fault :=
    (call_upEngine hengine).trans rfl
  refine ⟨⟨.inr rfl, _, read?_up, by decide⟩, hcall, ?_⟩
  refine (call_eq_error_iff_of_alike_empty engine other rfl rfl _ _ _ ?_ ?_ fault).mp hcall
  · -- The only argument evaluates over both tables.
    intro text kind hwrites
    obtain ⟨rfl, rfl⟩ := writes_up hwrites
    exact ⟨⟨_, hengine⟩, _, hother⟩
  · intro text kind hwrites _
    obtain ⟨rfl, rfl⟩ := writes_up hwrites
    simp [argument, hengine, hother, engine, other]

/-- Over a table with a row and over the same table without it a selector of rows evaluates, but
    only the former faults it where a matrix is declared. -/
theorem call_faults_depend_on_rows :
    let full := upEngine [[.integer 0, .double 0.5]]
    let empty := upEngine []
    full.store.schemas = empty.store.schemas ∧
      (∀ text kind, FunctionTable.builtin.Writes "aggregate_matrix_max" ["up"] text kind →
        (∃ value, full.argument text 0 kind = .ok value) ∧
          ∃ value, empty.argument text 0 kind = .ok value) ∧
      full.call "aggregate_matrix_max" ["up"] 0 =
        .error (.argumentKind "aggregate_matrix_max" 0 (some .matrix) .vector) ∧
      empty.call "aggregate_matrix_max" ["up"] 0 = .ok (.vector []) := by
  intro full empty
  have hfull := query_upEngine_singleton 0.5
  have hempty : empty.query "up" 0 = .ok .none := (query_upEngine []).trans rfl
  refine ⟨rfl, ?_, (call_upEngine hfull).trans rfl, (call_upEngine hempty).trans rfl⟩
  intro text kind hwrites
  obtain ⟨rfl, rfl⟩ := writes_up hwrites
  exact ⟨⟨_, hfull⟩, _, hempty⟩

end Engine

end LabeledSeries
