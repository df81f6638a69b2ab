import LabeledSeries.Proofs.Call.Stages

/-!
# Calls whose arguments were checked

A signature and the way in which a function takes its arguments are written down apart: a function
takes its arguments one by one, while its signature lists kinds of which the last may be repeated or
left out.

§1 Plans are faulted for the texts that they are made of and for the number of vectors, never for
the number or kinds of arguments.  §2 Arguments that fit a signature are what the function demands,
since the two agree in the kind at each position (`Builtin.kindAt?_demand`).  §3 So a call that was
checked is faulted for the contents of its texts, if at all, and nothing may be passed for an empty
vector or matrix (`FunctionTable.call_of_checkArguments`).
-/

namespace LabeledSeries

/-! ## §1 What plans are faulted for -/

/-- Faults of arguments as such: of their number, of their kinds, or of the name that is called. -/
def Fault.ofArguments : Fault → Bool
  | .argumentCount _ _ _ | .argumentKind _ _ _ _ | .unknownFunction _ => true
  | _ => false

/-- A computation that is not faulted for arguments as such. -/
abbrev AcceptsArguments {α : Type} (computed : Except Fault α) : Prop :=
  FailsOnlyWith (fun fault => fault.ofArguments = false) computed

section Plans

open Parameters FailsOnlyWith

variable (function : String)

theorem Parameters.checkName_accepts (name : String) :
    AcceptsArguments (checkName function name) := by
  unfold checkName
  split
  · exact ok ()
  · exact error rfl

theorem Parameters.checkNames_accepts (names : List String) :
    AcceptsArguments (checkNames function names) := by
  induction names with
  | nil => exact ok ()
  | cons name names ih =>
    -- The first name is faulted for its form, and otherwise the later ones are checked.
    apply (checkName_accepts function name).bind
    intro _
    exact ih

theorem Parameters.namePair_accepts (separator : Char) (text : String) :
    AcceptsArguments (namePair function separator text) := by
  -- Both names are checked, the first one first.
  apply (checkName_accepts function _).bind
  intro _
  apply (checkName_accepts function _).bind
  intro _
  exact ok _

theorem Parameters.copySpecs_accepts (specs : List String) :
    AcceptsArguments (copySpecs function specs) := by
  induction specs with
  | nil => exact ok []
  | cons spec specs ih =>
    apply (namePair_accepts function ':' spec).bind
    intro copy
    apply ih.bind
    intro copies
    exact ok _

theorem Parameters.pairs_accepts (texts : List String) :
    AcceptsArguments (pairs function texts) := by
  unfold pairs
  split
  · exact ok _
  · exact error rfl

theorem Parameters.nameList_accepts (separator : Char) (text : String) :
    AcceptsArguments (nameList function separator text) := by
  apply (checkNames_accepts function _).bind
  intro _
  exact ok _

theorem Parameters.checkTargetCount_accepts (targets vectors : Nat) :
    AcceptsArguments (checkTargetCount function targets vectors) := by
  unfold checkTargetCount
  split
  · exact ok ()
  · exact error rfl

theorem Parameters.checkKeys_accepts (entries : List (String × String)) :
    AcceptsArguments (checkKeys function entries) := by
  induction entries with
  | nil => exact ok ()
  | cons entry entries ih =>
    apply (checkName_accepts function entry.1).bind
    intro _
    exact ih

theorem Conditional.readAll_accepts (entries : List (String × String)) :
    AcceptsArguments (readAll function entries) := by
  induction entries with
  | nil => exact ok []
  | cons entry entries ih =>
    -- An expression is faulted for its text, between the check of its target and the other ones.
    have hread : AcceptsArguments (Ternary.read entry.2) := by
      unfold Ternary.read
      split
      · exact ok _
      · exact error rfl
    apply (checkName_accepts function entry.1).bind
    intro _
    apply hread.bind
    intro ternary
    apply ih.bind
    intro assignments
    exact ok _

theorem Join.checkCopies_accepts (copies : List (String × String)) :
    AcceptsArguments (checkCopies function copies) := by
  induction copies with
  | nil => exact ok ()
  | cons copy copies ih =>
    apply (checkName_accepts function copy.1).bind
    intro _
    apply (checkName_accepts function copy.2).bind
    intro _
    exact ih

theorem Join.ofSpecs_accepts (unmatched : Unmatched) (matchKey : String) (specs : List String) :
    AcceptsArguments (ofSpecs function unmatched matchKey specs) := by
  apply (namePair_accepts function '|' matchKey).bind
  intro keys
  apply (copySpecs_accepts function specs).bind
  intro copies
  exact ok _

theorem Join.ofPairs_accepts (matchKey : String) (texts : List String) :
    AcceptsArguments (ofPairs function matchKey texts) := by
  apply (checkName_accepts function matchKey).bind
  intro _
  apply (pairs_accepts function texts).bind
  intro copies
  apply (checkCopies_accepts function copies).bind
  intro _
  exact ok _

theorem SharedKeys.ofTexts_accepts (keys targets : String) (vectors : Nat) :
    AcceptsArguments (ofTexts function keys targets vectors) := by
  apply (nameList_accepts function ',' keys).bind
  intro keys
  apply (checkTargetCount_accepts function _ vectors).bind
  intro _
  apply (checkNames_accepts function _).bind
  intro _
  exact ok _

theorem KeyPerVector.ofTexts_accepts (keys targets : String) (vectors : Nat) :
    AcceptsArguments (ofTexts function keys targets vectors) := by
  apply (nameList_accepts function '|' keys).bind
  intro keys
  apply (nameList_accepts function '|' targets).bind
  intro targets
  -- The number of vectors is compared with that of the targets, which is no fault of arguments.
  split
  · exact error rfl
  · apply (checkTargetCount_accepts function _ vectors).bind
    intro _
    exact ok _

/-- No plan is faulted for arguments as such. -/
theorem Builtin.plan_accepts (function : Builtin) (texts : List String) (vectors : Nat) :
    AcceptsArguments (function.plan texts vectors) := by
  -- Each function reads its texts in steps of its own, and each step is faulted for texts alone.
  cases function with
  | labelsAppendTernary =>
    apply FailsOnlyWith.map
    apply (pairs_accepts _ texts).bind
    intro entries
    apply (Conditional.readAll_accepts _ entries).bind
    intro assignments
    exact ok _
  | labelsAppendTags =>
    apply FailsOnlyWith.map
    apply (pairs_accepts _ texts).bind
    intro tags
    apply (checkKeys_accepts _ tags).bind
    intro _
    exact ok _
  | labelsRename =>
    apply FailsOnlyWith.map
    apply (checkNames_accepts _ texts).bind
    intro _
    apply (pairs_accepts _ texts).bind
    intro renames
    exact ok _
  | labelsSelect | labelsInvert =>
    apply FailsOnlyWith.map
    apply (checkNames_accepts _ texts).bind
    intro _
    exact ok _
  | select1 =>
    apply FailsOnlyWith.map
    apply (copySpecs_accepts _ texts).bind
    intro copies
    exact ok _
  | vectorWithLabels =>
    apply FailsOnlyWith.map
    apply (pairs_accepts _ texts).bind
    intro entries
    apply (checkKeys_accepts _ entries).bind
    intro _
    exact ok _
  | select2 | select2Join => exact (Join.ofSpecs_accepts _ _ _ _).map _
  | labelsAppend => exact (Join.ofPairs_accepts _ _ _).map _
  | distinct =>
    apply FailsOnlyWith.map
    apply (checkName_accepts _ _).bind
    intro _
    exact ok _
  | aggregateMatrixMax | aggregateMatrixMin | aggregateMatrixSum => exact ok _
  | labelsAppendValue =>
    apply FailsOnlyWith.map
    apply (checkName_accepts _ _).bind
    intro _
    apply (checkName_accepts _ _).bind
    intro _
    exact ok _
  | labelsAppendValues => exact (SharedKeys.ofTexts_accepts _ _ _ _).map _
  | selectn => exact (KeyPerVector.ofTexts_accepts _ _ _ _).map _
  | vectorJoin => exact ok _

end Plans

/-! ## §2 Arguments that fit a signature -/

/-- The value at each position is of the kind that is declared there. -/
def KindsFit (kindAt? : Nat → Option Kind) (values : List Value) : Prop :=
  ∀ index value, values[index]? = some value →
    ∃ kind, kindAt? index = some kind ∧ value.isA kind = true

/-- Behind the first value the kinds are counted from the next position on. -/
theorem kindsFit_cons {kindAt? : Nat → Option Kind} {start : Nat} {value : Value}
    {values : List Value} :
    KindsFit (fun index => kindAt? (start + index)) (value :: values) ↔
      (∃ kind, kindAt? start = some kind ∧ value.isA kind = true) ∧
        KindsFit (fun index => kindAt? (start + 1 + index)) values := by
  simp only [KindsFit, Nat.add_right_comm start 1]
  constructor
  · intro h
    exact ⟨h 0 value rfl, fun index other hother => h (index + 1) other hother⟩
  · rintro ⟨hfirst, hrest⟩ index other hother
    cases index with
    | zero =>
      cases hother
      exact hfirst
    | succ index => exact hrest index other hother

theorem Signature.checkKinds_eq_ok_iff {signature : Signature} {function : String} {start : Nat}
    {values : List Value} :
    signature.checkKinds function start values = .ok () ↔
      KindsFit (fun index => signature.kindAt? (start + index)) values := by
  -- The position varies in the induction: later values are checked from the next one on.
  induction values generalizing start with
  | nil => simp [checkKinds, KindsFit]
  | cons value values ih =>
    rw [checkKinds, kindsFit_cons, ← ih]
    cases signature.kindAt? start with
    -- Without a declared kind no value fits, and the check faults the first one.
    | none => simp
    | some kind => by_cases h : value.isA kind = true <;> simp [h]

theorem Signature.check_eq_ok_iff {signature : Signature} {function : String}
    {values : List Value} :
    signature.check function values = .ok () ↔
      signature.arity.admits values.length = true ∧ KindsFit signature.kindAt? values := by
  rw [check]
  split
  · rename_i harity
    simp [harity, checkKinds_eq_ok_iff]
  · rename_i harity
    simp [harity]

/-- A value as what it is passed for, where anything is declared. -/
def Value.passedAt (kind? : Option Kind) (value : Value) : Value :=
  match kind? with
  | some kind => value.passedAs kind
  | Option.none => value

theorem Value.mapIdx_passedAt_cons (kindAt? : Nat → Option Kind) (start : Nat) (value : Value)
    (values : List Value) :
    ((value :: values).mapIdx fun index value => value.passedAt (kindAt? (start + index))) =
      value.passedAt (kindAt? start) ::
        values.mapIdx fun index value => value.passedAt (kindAt? (start + 1 + index)) := by
  simp only [List.mapIdx_cons, Nat.add_zero, Nat.add_right_comm start 1]
  rfl

/-- Arguments that fit what is demanded, and of which there are enough, are taken. -/
theorem Demand.take_of_kindsFit {demand : Demand} {function : String} {position : Nat}
    {values : List Value}
    (hfit : KindsFit (fun index => demand.kindAt? (position + index)) values)
    (hlength : demand.single.length ≤ position + values.length) :
    demand.take function position values =
      .ok (values.mapIdx fun index value =>
        value.passedAt (demand.kindAt? (position + index))) := by
  induction values generalizing position with
  | nil =>
    -- There are enough values, so nothing that is taken one by one is missing.
    rw [take, if_neg (by simpa using hlength)]
    rfl
  | cons value values ih =>
    obtain ⟨⟨kind, hkind, hisA⟩, hrest⟩ := kindsFit_cons.mp hfit
    -- The values behind the first are taken from the next position on, where as many are needed.
    have htaken := @ih (position + 1) hrest (by rw [List.length_cons] at hlength; omega)
    rw [Value.mapIdx_passedAt_cons]
    -- The first value is of the kind that is demanded, so it is passed and not faulted.
    simp only [take, hkind, hisA, if_true, htaken]
    rfl

namespace Builtin

/-- What a function demands at a position is what its signature declares there. -/
theorem kindAt?_demand (function : Builtin) :
    function.demand.kindAt? = function.signature.kindAt? := by
  funext index
  -- No function declares more than five kinds.
  match index with
  | 0 | 1 | 2 | 3 | 4 => cases function <;> rfl
  | index + 5 => cases function <;> rfl

/-- A signature asks for as many arguments as the function takes one by one. -/
theorem length_single_le_of_admits (function : Builtin) {count : Nat}
    (h : function.signature.arity.admits count = true) :
    function.demand.single.length ≤ count := by
  -- A function of any number of arguments takes all but the repeated ones one by one.
  cases function <;>
    simp [signature, declared, Signature.arity, Arity.admits, demand] at h ⊢ <;> omega

/-- Arguments that fit the signature of a function are taken as what they are declared to be. -/
theorem take_of_check (function : Builtin) {values : List Value}
    (h : function.signature.check function.name values = .ok ()) :
    function.demand.take function.name 0 values =
      .ok (values.mapIdx fun index value =>
        value.passedAt (function.signature.kindAt? index)) := by
  obtain ⟨hcount, hfit⟩ := Signature.check_eq_ok_iff.mp h
  have hlength : function.demand.single.length ≤ 0 + values.length := by
    rw [Nat.zero_add]
    exact function.length_single_le_of_admits hcount
  have hdemanded : KindsFit (fun index => function.demand.kindAt? (0 + index)) values := by
    simp only [Nat.zero_add, kindAt?_demand]
    -- The kinds that were checked are those that are demanded, function by function.
    exact hfit
  rw [Demand.take_of_kindsFit hdemanded hlength]
  simp only [Nat.zero_add, kindAt?_demand]

end Builtin

/-! ## §3 Calls that were checked -/

/-- Nothing as the empty vector or matrix where one is declared; other values stay as they are. -/
def Value.fill (kind? : Option Kind) : Value → Value
  | .none =>
    match kind? with
    | some .vector => .vector []
    | some .matrix => .matrix []
    | _ => .none
  | value => value

/-- Arguments in which nothing is replaced at the chosen positions, by the empty vector or matrix
    where one is declared. -/
def Signature.fillIn (signature : Signature) (chosen : Nat → Bool) (values : List Value) :
    List Value :=
  values.mapIdx fun index value =>
    if chosen index then value.fill (signature.kindAt? index) else value

theorem Value.passedAt_fill (value : Value) (kind? : Option Kind) :
    (value.fill kind?).passedAt kind? = value.passedAt kind? := by
  cases value with
  | none =>
    -- Nothing is passed as the empty vector or matrix, so putting that in its place changes
    -- nothing.
    rcases kind? with _ | kind
    · rfl
    · cases kind <;> rfl
  | vector | matrix | scalar | text => rfl

theorem Value.isA_fill {value : Value} {kind : Kind} (h : value.isA kind = true) :
    (value.fill (some kind)).isA kind = true := by
  cases value with
  -- Where nothing fits and is no vector or matrix, it stays as it is.
  | none => cases kind <;> first | rfl | cases h
  | vector | matrix | scalar | text => exact h

namespace Signature

variable {signature : Signature}

/-- What is passed for the kinds that are declared does not change. -/
theorem mapIdx_passedAt_fillIn (chosen : Nat → Bool) (values : List Value) :
    ((signature.fillIn chosen values).mapIdx fun index value =>
        value.passedAt (signature.kindAt? index)) =
      values.mapIdx fun index value => value.passedAt (signature.kindAt? index) := by
  rw [fillIn, List.mapIdx_mapIdx]
  congr 1
  funext index value
  simp only [Function.comp_apply]
  -- The value was replaced, or it was not; either way the same is passed.
  split
  · exact value.passedAt_fill _
  · rfl

/-- Arguments that fit a signature still do once nothing is replaced in them. -/
theorem check_fillIn {function : String} {values : List Value}
    (h : signature.check function values = .ok ()) (chosen : Nat → Bool) :
    signature.check function (signature.fillIn chosen values) = .ok () := by
  obtain ⟨hcount, hfit⟩ := check_eq_ok_iff.mp h
  refine check_eq_ok_iff.mpr ⟨by rwa [fillIn, List.length_mapIdx], ?_⟩
  intro index filled hfilled
  rw [fillIn, List.getElem?_mapIdx, Option.map_eq_some_iff] at hfilled
  obtain ⟨value, hvalue, rfl⟩ := hfilled
  -- What stands at the position fits the kind that is declared there, and so does its replacement.
  obtain ⟨kind, hkind, hisA⟩ := hfit index value hvalue
  refine ⟨kind, hkind, ?_⟩
  split
  · rw [hkind]
    exact Value.isA_fill hisA
  · exact hisA

end Signature

theorem Value.isA_text_iff {value : Value} : value.isA .text = true ↔ ∃ s, value = .text s := by
  cases value <;> simp [isA]

/-- From the arguments of a call a text is taken just where one stands, and then it is that text. -/
theorem Taking.next_text_iff {function : String} {values : List Value} {index : Nat}
    {value : Value} {rest : Arguments} :
    next function .text ⟨index, values.drop index⟩ = .ok (value, rest) ↔
      (∃ s, value = .text s) ∧ values[index]? = some value ∧
        rest = ⟨index + 1, values.drop (index + 1)⟩ := by
  have hhead : values[index]? = (values.drop index).head? := List.head?_drop.symm
  have htail : values.drop (index + 1) = (values.drop index).tail := List.tail_drop.symm
  rw [hhead, htail]
  cases values.drop index with
  -- Without arguments there is none to take.
  | nil => simp [next]
  | cons first others =>
    simp only [next, List.head?_cons, List.tail_cons, Option.some.injEq]
    split
    · rename_i hisA
      constructor
      · rintro ⟨⟩
        -- A first argument of the kind is taken, and it is a text.
        exact ⟨Value.isA_text_iff.mp hisA, rfl, rfl⟩
      · rintro ⟨-, rfl, rfl⟩
        rfl
    · rename_i hisA
      constructor
      · intro h
        -- A first argument of another kind is faulted.
        cases h
      · rintro ⟨htext, rfl, -⟩
        exact absurd (Value.isA_text_iff.mpr htext) hisA

/-- A call whose arguments fit the signature runs on what they are declared to be. -/
theorem Builtin.rows_of_check (function : Builtin) {values : List Value}
    (h : function.signature.check function.name values = .ok ()) (time : Int) :
    function.rows time values = do
      let taken := values.mapIdx fun index value =>
        value.passedAt (function.signature.kindAt? index)
      let plan ← function.plan (Value.texts taken) (Value.vectors taken).length
      return plan.run time (Value.vectors taken) (Value.matrices taken) := by
  -- The stages of a call begin with taking the arguments, and here that succeeds.
  rw [rows_eq_stages, take_of_check function h]
  rfl

/-- A call whose arguments fit the signature is not faulted for them. -/
theorem Builtin.call_accepts (function : Builtin) {values : List Value}
    (h : function.signature.check function.name values = .ok ()) (time : Int) :
    AcceptsArguments (function.call time values) := by
  rw [call, function.rows_of_check h time]
  -- What is left of the call is its plan, and running that cannot fail.
  apply FailsOnlyWith.bind
  · apply (function.plan_accepts _ _).bind
    intro plan
    exact .ok _
  · intro out
    exact .ok _

/-- **Checking arguments is sound**: where they fit the signature of a function of the library, the
    call is not faulted for their number or kinds or for its name, and it gives a vector if it
    succeeds.  Whatever it takes as a text, from the arguments that are left at some position, is the
    text that stands there, and wherever a text is declared there is one to take.  Nothing may be
    passed for an empty vector or matrix, at any of the positions where one is declared. -/
theorem FunctionTable.call_of_checkArguments (name : String) (values : List Value) (time : Int)
    (h : builtin.checkArguments name values = .ok ()) :
    (∀ fault, builtin.call name values time = .error fault → fault.ofArguments = false) ∧
    (∀ value, builtin.call name values time = .ok value → ∃ rows, value = .vector rows) ∧
    (∀ index value rest, Taking.next name .text ⟨index, values.drop index⟩ = .ok (value, rest) →
      ∃ s, value = .text s ∧ values[index]? = some (.text s)) ∧
    ∃ signature, builtin.signature? name = some signature ∧
      (∀ index, index < values.length → signature.kindAt? index = some .text →
        ∃ s rest, Taking.next name .text ⟨index, values.drop index⟩ = .ok (.text s, rest)) ∧
      ∀ chosen, builtin.call name (signature.fillIn chosen values) time =
        builtin.call name values time := by
  cases hname : Builtin.ofName? name with
  | none =>
    -- A name of no function is faulted when the arguments are checked.
    rw [checkArguments_of_ofName?_eq_none values hname] at h
    cases h
  | some function =>
    rw [← Builtin.name_of_ofName? hname] at h ⊢
    rw [checkArguments_builtin] at h
    simp only [call_builtin]
    refine ⟨function.call_accepts h time, ?_, ?_, function.signature, ?_, ?_, ?_⟩
    · intro value hvalue
      obtain ⟨rows, -, rfl⟩ := map_eq_ok_iff.mp hvalue
      exact ⟨rows, rfl⟩
    · intro index value rest hnext
      obtain ⟨⟨s, rfl⟩, hstands, -⟩ := Taking.next_text_iff.mp hnext
      exact ⟨s, rfl, hstands⟩
    · rw [signature?, get?_builtin, Builtin.ofName?_name]
      rfl
    · intro index hindex htext
      -- The check found a value of the declared kind there.
      obtain ⟨kind, hkind, hisA⟩ :=
        (Signature.check_eq_ok_iff.mp h).2 index values[index] (List.getElem?_eq_getElem hindex)
      obtain rfl : kind = .text := Option.some.inj (hkind.symm.trans htext)
      obtain ⟨s, hs⟩ := Value.isA_text_iff.mp hisA
      exact ⟨s, _, Taking.next_text_iff.mpr
        ⟨⟨s, rfl⟩, (List.getElem?_eq_getElem hindex).trans (congrArg some hs), rfl⟩⟩
    · intro chosen
      -- Both calls run on the same values, since replacing does not change what is passed.
      have hfilled := function.rows_of_check (Signature.check_fillIn h chosen) time
      rw [Signature.mapIdx_passedAt_fillIn] at hfilled
      rw [Builtin.call, Builtin.call, function.rows_of_check h time, hfilled]

/-- Appending labels may leave its last text out, which is then missed among the pairs.  Nothing
    passes for both vectors, and either may be spelt out. -/
theorem FunctionTable.call_of_checkArguments_without_vectors :
    let values := [.none, .none, .text "pod", .text "node"]
    builtin.checkArguments "labels_append" values = .ok () ∧
      builtin.call "labels_append" [.none, .vector [], .text "pod", .text "node"] 0 =
        .error (.invalidParameters "labels_append" (.unpaired 1)) ∧
      (Fault.invalidParameters "labels_append" (.unpaired 1)).ofArguments = false := by
  intro values
  have hcheck : builtin.checkArguments "labels_append" values = .ok () :=
    checkArguments_builtin .labelsAppend values
  have hcall : builtin.call "labels_append" values 0 =
      .error (.invalidParameters "labels_append" (.unpaired 1)) :=
    (call_builtin .labelsAppend values 0).trans rfl
  obtain ⟨haccepts, -, -, signature, hsignature, -, hfill⟩ :=
    call_of_checkArguments "labels_append" values 0 hcheck
  -- The library has one signature for the name.
  have hlibrary : signature = Builtin.labelsAppend.signature := by
    rw [signature?, get?_builtin] at hsignature
    exact (Option.some.inj hsignature).symm
  subst hlibrary
  exact ⟨hcheck, (hfill (fun index => index == 1)).trans hcall, haccepts _ hcall⟩

end LabeledSeries
