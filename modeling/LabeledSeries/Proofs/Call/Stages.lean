import LabeledSeries.Call.Table
import LabeledSeries.Proofs.Fallible
import LabeledSeries.Proofs.NameMap

/-!
# Calls in three stages

The functions that come with the library differ in the arguments that they take, in what they read
of the texts among them and in what they do to their rows, but a call has the same three stages for
all of them.  It takes its arguments; it makes a *plan* of the texts and of the number of vectors;
and it runs the plan on the vectors and matrices.  Only the first two stages can fail, and neither
of them looks at a row.

- `Demand.take` — the first stage, for a description of the arguments that a function takes
- `Builtin.plan` — the second one
- `Plan.run` — the third one
- `Builtin.rows_eq_stages` — every call is made of these stages

What holds of all calls is proved for each stage on its own, by cases on the plan where it is about
rows.

## §1 Arguments by kind

## §2 Taking what is demanded

Functions take their arguments one by one, by a computation that is written out for each.
`Demand.Yields` says that such a computation takes what a description demands; there is one law for
each step that a computation may begin with.

## §3 Plans

## §4 Calls

## §5 The table of functions
-/

namespace LabeledSeries

/-! ## §1 Arguments by kind -/

namespace Value

/-- A value as one of the kind that it is passed for: nothing becomes the empty vector or matrix. -/
def passedAs (value : Value) : Kind → Value
  | .vector => .vector (Taking.rowsOf value)
  | .matrix => .matrix (Taking.seriesOf value)
  | .text => .text (Taking.textOf value)
  | .scalar => value

/-- The text of a value that is one. -/
def text? : Value → Option String
  | .text s => some s
  | _ => Option.none

/-- The rows of a value that is no text; of values other than vectors, none. -/
def rows? : Value → Option InstantVector
  | .text _ => Option.none
  | value => some (Taking.rowsOf value)

/-- The series of a value that is a matrix. -/
def series? : Value → Option RangeMatrix
  | .matrix series => some series
  | _ => Option.none

/-- The texts among values, in order. -/
def texts (values : List Value) : List String := values.filterMap text?

/-- The vectors among values, in order. -/
def vectors (values : List Value) : List InstantVector := values.filterMap rows?

/-- The matrices among values, in order. -/
def matrices (values : List Value) : List RangeMatrix := values.filterMap series?

end Value

/-! ## §2 Taking what is demanded -/

/-- The kinds of the arguments that a function takes one by one, and the kind of all others if it
    takes them as well. -/
structure Demand where
  single : List Kind
  repeated : Option Kind

namespace Demand

/-- The kind that is demanded at a position. -/
def kindAt? (demand : Demand) (position : Nat) : Option Kind :=
  demand.single[position]?.or demand.repeated

/-- The arguments that are taken from a position on, as the kinds that are demanded; arguments
    behind the last that is demanded are ignored. -/
def take (demand : Demand) (function : String) : Nat → List Value → Except Fault (List Value)
  | position, [] =>
    if position < demand.single.length then
      .error (.argumentCount function (.atLeast (position + 1)) position)
    else .ok []
  | position, value :: values =>
    match demand.kindAt? position with
    -- Nothing is demanded here, so this argument and all behind it are left.
    | none => .ok []
    | some kind =>
      if value.isA kind then do
        let taken ← demand.take function (position + 1) values
        return value.passedAs kind :: taken
      else .error (.argumentKind function position (some kind) value.kind)

variable {α β : Type} {demand : Demand} {function : String} {position : Nat}

theorem kindAt?_of_length_le (h : demand.single.length ≤ position) :
    demand.kindAt? position = demand.repeated := by
  rw [kindAt?, List.getElem?_eq_none h, Option.none_or]

theorem kindAt?_of_single {kind : Kind} (h : demand.single[position]? = some kind) :
    demand.kindAt? position = some kind := by
  rw [kindAt?, h, Option.some_or]

theorem passedAs_text? {value : Value} {kind : Kind} (h : value.isA kind = true) :
    (value.passedAs kind).text? = value.text? := by
  -- A kind that does not fit the value makes `h` false; for the others the text is the value's own.
  cases value <;> cases kind <;> first | rfl | cases h

theorem passedAs_rows? {value : Value} {kind : Kind} (h : value.isA kind = true) :
    (value.passedAs kind).rows? = value.rows? := by
  cases value <;> cases kind <;> first | rfl | cases h

/-- Where an argument is demanded, there is one, and it is of the kind that is demanded. -/
theorem exists_cons_of_take {kind : Kind} {values taken : List Value}
    (hkind : demand.single[position]? = some kind)
    (h : demand.take function position values = .ok taken) :
    ∃ value rest taken', values = value :: rest ∧ value.isA kind = true ∧
      taken = value.passedAs kind :: taken' ∧
      demand.take function (position + 1) rest = .ok taken' := by
  cases values with
  | nil =>
    have hlt : position < demand.single.length := (List.getElem?_eq_some_iff.mp hkind).1
    rw [take, if_pos hlt] at h
    cases h
  | cons value values =>
    -- Demanded singly, so the kind that all others have does not matter.
    simp only [take, kindAt?_of_single hkind] at h
    split at h
    · rename_i hisA
      obtain ⟨taken', htaken', rfl⟩ := map_eq_ok_iff.mp h
      exact ⟨value, values, taken', rfl, hisA, rfl, htaken'⟩
    · cases h

/-- Where all arguments are taken, their texts and vectors are those of the arguments. -/
theorem texts_vectors_of_take (hrepeated : demand.repeated.isSome) {values taken : List Value}
    (h : demand.take function position values = .ok taken) :
    Value.texts taken = Value.texts values ∧ Value.vectors taken = Value.vectors values := by
  -- Every argument is taken, since something is demanded at each position; hence the induction
  -- follows the arguments, and each step keeps the text or the rows of one.
  induction values generalizing position taken with
  | nil =>
    rw [take] at h
    split at h
    · cases h
    · cases h
      exact ⟨rfl, rfl⟩
  | cons value values ih =>
    obtain ⟨kind, hkind⟩ : ∃ kind, demand.kindAt? position = some kind := by
      apply Option.isSome_iff_exists.mp
      rw [kindAt?, Option.isSome_or, hrepeated, Bool.or_true]
    simp only [take, hkind] at h
    split at h
    · rename_i hisA
      obtain ⟨taken', htaken', rfl⟩ := map_eq_ok_iff.mp h
      obtain ⟨htexts, hvectors⟩ := ih htaken'
      constructor
      · simp only [Value.texts, List.filterMap_cons, passedAs_text? hisA] at htexts ⊢
        rw [htexts]
      · simp only [Value.vectors, List.filterMap_cons, passedAs_rows? hisA] at hvectors ⊢
        rw [hvectors]
    · cases h

/-- Texts that are demanded are taken as they are. -/
theorem take_texts {demand : Demand} (hrepeated : demand.repeated = some .text) (function : String)
    {position : Nat} (hposition : demand.single.length ≤ position) (texts : List String) :
    demand.take function position (texts.map .text) = .ok (texts.map .text) := by
  -- The induction stays behind the arguments that are demanded singly.
  induction texts generalizing position with
  | nil =>
    rw [List.map_nil, take, if_neg (by omega)]
  | cons text texts ih =>
    have hrest := ih (show demand.single.length ≤ position + 1 by omega)
    simp only [List.map_cons, take, kindAt?_of_length_le hposition, hrepeated, hrest]
    rfl

/-- From a position on, a computation takes what is demanded and gives what `read` makes of it. -/
def Yields (demand : Demand) (function : String) (position : Nat) (taking : Taking α)
    (read : List Value → α) : Prop :=
  ∀ values, taking.run' { position, values } = read <$> demand.take function position values

namespace Yields

variable {read : List Value → α}

/-- A computation that begins with an argument of the kind that is demanded there. -/
theorem next {kind : Kind} {use : Value → Taking α}
    (hkind : demand.single[position]? = some kind)
    (h : ∀ value, demand.Yields function (position + 1) (use value)
      (fun taken => read (value.passedAs kind :: taken))) :
    demand.Yields function position (Taking.next function kind >>= use) read := by
  intro values
  -- Both sides look at the next argument first: there is none, it fits, or it does not.
  cases values with
  | nil =>
    have hlt : position < demand.single.length := (List.getElem?_eq_some_iff.mp hkind).1
    simp only [take, if_pos hlt]
    rfl
  | cons value values =>
    have hat := kindAt?_of_single hkind
    by_cases hisA : value.isA kind = true
    · have hfirst :
          (Taking.next function kind >>= use).run' { position, values := value :: values } =
            (use value).run' { position := position + 1, values } := by
        simp [StateT.run', Taking.next, hisA, bind, StateT.bind, Except.bind]
      rw [hfirst, h value values]
      simp only [take, hat, if_pos hisA]
      cases demand.take function (position + 1) values <;> rfl
    · -- An argument of another kind is the end of both sides.
      simp only [take, hat, if_neg hisA]
      simp [StateT.run', Taking.next, hisA, bind, StateT.bind, Except.bind]

theorem text {use : String → Taking α} (hkind : demand.single[position]? = some .text)
    (h : ∀ s, demand.Yields function (position + 1) (use s) fun taken => read (.text s :: taken)) :
    demand.Yields function position (Taking.text function >>= use) read := by
  rw [Taking.text, bind_map_left]
  exact next hkind fun value => h (Taking.textOf value)

theorem vector {use : InstantVector → Taking α}
    (hkind : demand.single[position]? = some .vector)
    (h : ∀ rows, demand.Yields function (position + 1) (use rows)
      fun taken => read (.vector rows :: taken)) :
    demand.Yields function position (Taking.vector function >>= use) read := by
  rw [Taking.vector, bind_map_left]
  exact next hkind fun value => h (Taking.rowsOf value)

theorem matrix {use : RangeMatrix → Taking α}
    (hkind : demand.single[position]? = some .matrix)
    (h : ∀ series, demand.Yields function (position + 1) (use series)
      fun taken => read (.matrix series :: taken)) :
    demand.Yields function position (Taking.matrix function >>= use) read := by
  rw [Taking.matrix, bind_map_left]
  exact next hkind fun value => h (Taking.seriesOf value)

/-- A computation that takes nothing more. -/
theorem done {result : α} (hrepeated : demand.repeated = none)
    (hposition : demand.single.length ≤ position) (hread : read [] = result) :
    demand.Yields function position (pure result) read := by
  intro values
  -- Whatever is left is left alone.
  have htake : demand.take function position values = .ok [] := by
    cases values with
    | nil => rw [take, if_neg (by omega)]
    | cons value values => simp only [take, kindAt?_of_length_le hposition, hrepeated]
  rw [htake, ← hread]
  rfl

end Yields

/-- Taking all arguments that are left one by one is taking what is demanded repeatedly. -/
theorem count_eq_take {kind : Kind} {one : Value → β} {all : List Value → List β}
    (hnil : all [] = [])
    (hcons : ∀ value taken, all (value.passedAs kind :: taken) = one value :: all taken)
    (hrepeated : demand.repeated = some kind) (hposition : demand.single.length ≤ position)
    (values : List Value) :
    Taking.count (one <$> Taking.next function kind) values.length { position, values } =
      (fun taken => (all taken, { position := position + values.length, values := [] })) <$>
        demand.take function position values := by
  -- One taking is repeated as often as there are arguments left; each repetition takes the
  -- next.
  induction values generalizing position with
  | nil =>
    rw [take, if_neg (by omega)]
    simp [Taking.count, hnil]
    rfl
  | cons value values ih =>
    have hat : demand.kindAt? position = some kind :=
      (kindAt?_of_length_le hposition).trans hrepeated
    -- The position behind the arguments that are left, counted from either end.
    have hlength : position + 1 + values.length = position + (values.length + 1) := by omega
    have hrest := @ih (position + 1) (by omega)
    simp only [take, hat, Taking.count, List.length_cons]
    rw [bind_map_left]
    -- An argument of another kind stops both sides with the same fault.
    by_cases hisA : value.isA kind = true
    · simp only [Taking.next, bind, StateT.bind, hisA, if_true, Except.bind, hrest, hlength]
      cases demand.take function (position + 1) values with
      | error fault => rfl
      | ok taken =>
        simp only [Functor.map, Except.map, pure, Except.pure, hcons]
        rfl
    · simp [Taking.next, bind, StateT.bind, hisA, Except.bind]

namespace Yields

theorem rest {kind : Kind} {one : Value → β} {all : List Value → List β} {make : List β → α}
    (hnil : all [] = [])
    (hcons : ∀ value taken, all (value.passedAs kind :: taken) = one value :: all taken)
    (hrepeated : demand.repeated = some kind) (hposition : demand.single.length ≤ position) :
    demand.Yields function position
      (Taking.rest (one <$> Taking.next function kind) >>= fun all => pure (make all))
      (fun taken => make (all taken)) := by
  intro values
  -- What is left is counted before the first of it is taken.
  have hrest : Taking.rest (one <$> Taking.next function kind) { position, values } =
      Taking.count (one <$> Taking.next function kind) values.length { position, values } := rfl
  simp only [StateT.run', bind, StateT.bind]
  rw [hrest, count_eq_take hnil hcons hrepeated hposition]
  cases demand.take function position values <;> rfl

/-- A computation that ends with all texts that are left. -/
theorem restTexts {make : List String → α} (hrepeated : demand.repeated = some .text)
    (hposition : demand.single.length ≤ position) :
    demand.Yields function position
      (Taking.rest (Taking.text function) >>= fun texts => pure (make texts))
      (fun taken => make (Value.texts taken)) :=
  rest rfl (fun _ _ => rfl) hrepeated hposition

/-- A computation that ends with all vectors that are left. -/
theorem restVectors {make : List InstantVector → α} (hrepeated : demand.repeated = some .vector)
    (hposition : demand.single.length ≤ position) :
    demand.Yields function position
      (Taking.rest (Taking.vector function) >>= fun vectors => pure (make vectors))
      (fun taken => make (Value.vectors taken)) :=
  rest rfl (fun _ _ => rfl) hrepeated hposition

end Yields

end Demand

/-! ## §3 Plans -/

/-- What a call is to do, once its parameters are read. -/
inductive Plan where
  | conditional (plan : Conditional)
  | tagging (plan : Tagging)
  | renaming (plan : Renaming)
  | selection (plan : NameSelection)
  | exclusion (plan : NameSelection)
  | projection (plan : Projection)
  | labelling (plan : Labelling)
  | join (plan : Join)
  | distinct (plan : Distinct)
  | reduction (choose : List Sample → Option Sample)
  | partnerValue (plan : PartnerValue)
  | sharedKeys (plan : SharedKeys)
  | keyPerVector (plan : KeyPerVector)
  | union

/-- The rows that a plan makes at a time of vectors and matrices. -/
def Plan.run (time : Int) (vectors : List InstantVector) (matrices : List RangeMatrix) :
    Plan → InstantVector
  -- A vector or matrix that was not given is empty.
  | .conditional plan => plan.run (vectors.headD [])
  | .tagging plan => plan.run (vectors.headD [])
  | .renaming plan => plan.run (vectors.headD [])
  | .selection plan => plan.select (vectors.headD [])
  | .exclusion plan => plan.without (vectors.headD [])
  | .projection plan => plan.run (vectors.headD [])
  | .labelling plan => plan.run time (vectors.headD [])
  | .join plan => plan.run (vectors.headD []) (vectors.tail.headD [])
  | .distinct plan => plan.run (vectors.headD [])
  | .reduction choose => reduce choose (matrices.headD [])
  | .partnerValue plan => plan.run (vectors.headD []) (vectors.tail.headD [])
  | .sharedKeys plan => plan.run vectors
  | .keyPerVector plan => plan.run vectors
  | .union => vectors.flatten

namespace Builtin

/-- The arguments that a function takes. -/
def demand : Builtin → Demand
  | .labelsAppendTernary | .labelsAppendTags | .labelsRename | .labelsSelect | .labelsInvert
  | .select1 | .vectorWithLabels => { single := [.vector], repeated := some .text }
  | .select2 | .select2Join => { single := [.text, .vector, .vector], repeated := some .text }
  | .labelsAppend => { single := [.vector, .vector, .text], repeated := some .text }
  | .distinct => { single := [.vector, .text], repeated := none }
  | .aggregateMatrixMax | .aggregateMatrixMin | .aggregateMatrixSum =>
    -- The texts are the names or pairs in the order in which they are given; the match key of a
    -- join is the first of them.
    { single := [.matrix], repeated := none }
  | .labelsAppendValue => { single := [.vector, .vector, .text, .text], repeated := none }
  | .labelsAppendValues | .selectn => { single := [.text, .text], repeated := some .vector }
  | .vectorJoin => { single := [], repeated := some .vector }

/-- The plan of a call with these texts and this number of vectors. -/
def plan (function : Builtin) (texts : List String) (vectors : Nat) : Except Fault Plan :=
  let called := function.name
  match function with
  | .labelsAppendTernary => .conditional <$> Conditional.ofPairs called texts
  | .labelsAppendTags => .tagging <$> Tagging.ofPairs called texts
  | .labelsRename => .renaming <$> Renaming.ofNames called texts
  | .labelsSelect => .selection <$> NameSelection.ofNames called texts
  | .labelsInvert => .exclusion <$> NameSelection.ofNames called texts
  | .select1 => .projection <$> Projection.ofSpecs called texts
  | .vectorWithLabels => .labelling <$> Labelling.ofPairs called texts
  | .select2 => .join <$> Join.ofSpecs called .drop (texts.headD "") texts.tail
  | .select2Join => .join <$> Join.ofSpecs called .keep (texts.headD "") texts.tail
  | .labelsAppend => .join <$> Join.ofPairs called (texts.headD "") texts.tail
  | .distinct => .distinct <$> Distinct.ofName called (texts.headD "")
  | .aggregateMatrixMax => .ok (.reduction Extreme.largest.pick)
  | .aggregateMatrixMin => .ok (.reduction Extreme.smallest.pick)
  | .aggregateMatrixSum => .ok (.reduction total)
  | .labelsAppendValue =>
    .partnerValue <$> PartnerValue.ofNames called (texts.headD "") (texts.tail.headD "")
  | .labelsAppendValues =>
    .sharedKeys <$> SharedKeys.ofTexts called (texts.headD "") (texts.tail.headD "") vectors
  | .selectn =>
    .keyPerVector <$> KeyPerVector.ofTexts called (texts.headD "") (texts.tail.headD "") vectors
  | .vectorJoin => .ok .union

/-! ## §4 Calls -/

section Takings

open Demand

variable (called : String) (values : List Value)

theorem of_vectorAndTexts (function : Builtin) :
    Taking.of values function.vectorAndTexts =
      (fun taken => ((Value.vectors taken).headD [], Value.texts taken)) <$>
        Demand.take { single := [.vector], repeated := some .text } function.name 0 values := by
  refine (show Yields _ _ 0 _ _ from ?_) values
  apply Yields.vector rfl
  intro rows
  exact Yields.restTexts rfl (le_refl _)

theorem of_textVectorsTexts :
    (Taking.of values do
      return (← Taking.text called, ← Taking.vector called, ← Taking.vector called,
        ← Taking.rest (Taking.text called))) =
      (fun taken => ((Value.texts taken).headD "", (Value.vectors taken).headD [],
        (Value.vectors taken).tail.headD [], (Value.texts taken).tail)) <$>
        Demand.take { single := [.text, .vector, .vector], repeated := some .text } called 0
          values := by
  refine (show Yields _ _ 0 _ _ from ?_) values
  apply Yields.text rfl
  intro matchKey
  apply Yields.vector rfl
  intro left
  apply Yields.vector rfl
  intro right
  exact Yields.restTexts rfl (le_refl _)

theorem of_vectorsTextTexts :
    (Taking.of values do
      return (← Taking.vector called, ← Taking.vector called, ← Taking.text called,
        ← Taking.rest (Taking.text called))) =
      (fun taken => ((Value.vectors taken).headD [], (Value.vectors taken).tail.headD [],
        (Value.texts taken).headD "", (Value.texts taken).tail)) <$>
        Demand.take { single := [.vector, .vector, .text], repeated := some .text } called 0
          values := by
  refine (show Yields _ _ 0 _ _ from ?_) values
  apply Yields.vector rfl
  intro left
  apply Yields.vector rfl
  intro right
  apply Yields.text rfl
  intro matchKey
  exact Yields.restTexts rfl (le_refl _)

theorem of_vectorText :
    (Taking.of values do return (← Taking.vector called, ← Taking.text called)) =
      (fun taken => ((Value.vectors taken).headD [], (Value.texts taken).headD "")) <$>
        Demand.take { single := [.vector, .text], repeated := none } called 0 values := by
  refine (show Yields _ _ 0 _ _ from ?_) values
  apply Yields.vector rfl
  intro rows
  apply Yields.text rfl
  intro key
  exact Yields.done rfl (le_refl _) rfl

theorem of_matrix :
    Taking.of values (Taking.matrix called) =
      (fun taken => (Value.matrices taken).headD []) <$>
        Demand.take { single := [.matrix], repeated := none } called 0 values := by
  rw [← bind_pure (Taking.matrix called)]
  refine (show Yields _ _ 0 _ _ from ?_) values
  apply Yields.matrix rfl
  intro series
  exact Yields.done rfl (le_refl _) rfl

theorem of_vectorsTexts :
    (Taking.of values do
      return (← Taking.vector called, ← Taking.vector called, ← Taking.text called,
        ← Taking.text called)) =
      (fun taken => ((Value.vectors taken).headD [], (Value.vectors taken).tail.headD [],
        (Value.texts taken).headD "", (Value.texts taken).tail.headD "")) <$>
        Demand.take { single := [.vector, .vector, .text, .text], repeated := none } called 0
          values := by
  refine (show Yields _ _ 0 _ _ from ?_) values
  apply Yields.vector rfl
  intro left
  apply Yields.vector rfl
  intro right
  apply Yields.text rfl
  intro key
  apply Yields.text rfl
  intro target
  exact Yields.done rfl (le_refl _) rfl

theorem of_textsVectors :
    (Taking.of values do
      return (← Taking.text called, ← Taking.text called, ← Taking.rest (Taking.vector called))) =
      (fun taken => ((Value.texts taken).headD "", (Value.texts taken).tail.headD "",
        Value.vectors taken)) <$>
        Demand.take { single := [.text, .text], repeated := some .vector } called 0 values := by
  refine (show Yields _ _ 0 _ _ from ?_) values
  apply Yields.text rfl
  intro keys
  apply Yields.text rfl
  intro targets
  exact Yields.restVectors rfl (le_refl _)

theorem of_vectors :
    Taking.of values (Taking.rest (Taking.vector called)) =
      Value.vectors <$>
        Demand.take { single := [], repeated := some .vector } called 0 values := by
  rw [← bind_pure (Taking.rest (Taking.vector called))]
  refine (show Yields _ _ 0 _ _ from ?_) values
  exact Yields.restVectors rfl (le_refl _)

end Takings

/-- **The stages of a call**: every function takes what it demands, makes a plan of the texts and of
    the number of vectors, and runs it. -/
theorem rows_eq_stages (function : Builtin) (time : Int) (values : List Value) :
    function.rows time values = do
      let taken ← function.demand.take function.name 0 values
      let plan ← function.plan (Value.texts taken) (Value.vectors taken).length
      return plan.run time (Value.vectors taken) (Value.matrices taken) := by
  -- The takings are those of the functions; what follows is the plan and its run by definition.
  cases function with
  | labelsAppendTernary | labelsAppendTags | labelsRename | labelsSelect | labelsInvert | select1
  | vectorWithLabels =>
    rw [rows, of_vectorAndTexts, bind_map_left]
    simp only [plan, bind_map_left]
    rfl
  | select2 | select2Join =>
    rw [rows, of_textVectorsTexts, bind_map_left]
    simp only [plan, bind_map_left]
    rfl
  | labelsAppend =>
    rw [rows, of_vectorsTextTexts, bind_map_left]
    simp only [plan, bind_map_left]
    rfl
  | distinct =>
    rw [rows, of_vectorText, bind_map_left]
    simp only [plan, bind_map_left]
    rfl
  | aggregateMatrixMax | aggregateMatrixMin | aggregateMatrixSum =>
    rw [rows, of_matrix, bind_map_left]
    rfl
  | labelsAppendValue =>
    rw [rows, of_vectorsTexts, bind_map_left]
    simp only [plan, bind_map_left]
    rfl
  | labelsAppendValues | selectn =>
    rw [rows, of_textsVectors, bind_map_left]
    simp only [plan, bind_map_left]
    rfl
  | vectorJoin =>
    rw [rows, of_vectors, bind_map_left]
    rfl

/-- Where arguments are taken as they are, the plan of their texts is run on them. -/
theorem rows_of_take {function : Builtin} {values : List Value}
    (htake : function.demand.take function.name 0 values = .ok values) (time : Int) :
    function.rows time values = do
      let plan ← function.plan (Value.texts values) (Value.vectors values).length
      return plan.run time (Value.vectors values) (Value.matrices values) := by
  rw [rows_eq_stages, htake]
  rfl

/-- Texts behind other values are neither vectors nor matrices. -/
theorem parts_append_texts (values : List Value) (texts : List String) :
    Value.texts (values ++ texts.map .text) = Value.texts values ++ texts ∧
      Value.vectors (values ++ texts.map .text) = Value.vectors values ∧
      Value.matrices (values ++ texts.map .text) = Value.matrices values := by
  -- Wrapping texts as values and reading them again gives them back.
  have htexts : Value.texts (texts.map .text) = texts := by
    rw [Value.texts, List.filterMap_map]
    exact List.filterMap_some
  refine ⟨?_, ?_, ?_⟩
  · rw [Value.texts, List.filterMap_append, ← Value.texts, ← Value.texts, htexts]
  · simp [Value.vectors, Value.rows?]
  · simp [Value.matrices, Value.series?]

/-- A function of one vector and texts runs the plan of the texts on the vector. -/
theorem rows_of_texts {function : Builtin}
    (hdemand : function.demand = { single := [.vector], repeated := some .text }) (time : Int)
    (rows : InstantVector) (texts : List String) :
    function.rows time (.vector rows :: texts.map .text) = do
      let plan ← function.plan texts 1
      return plan.run time [rows] [] := by
  -- One vector and texts are what is demanded, so they are taken as they are.
  have htake : function.demand.take function.name 0 ([.vector rows] ++ texts.map .text) =
      .ok ([.vector rows] ++ texts.map .text) := by
    have hrest := Demand.take_texts (show function.demand.repeated = some .text by rw [hdemand])
      function.name (show function.demand.single.length ≤ 1 by rw [hdemand]; rfl) texts
    have hkind : function.demand.kindAt? 0 = some .vector := by rw [hdemand]; rfl
    simp only [List.cons_append, List.nil_append, Demand.take, hkind, hrest]
    rfl
  obtain ⟨htexts, hvectors, hmatrices⟩ := parts_append_texts [.vector rows] texts
  have hrows := rows_of_take htake time
  rw [htexts, hvectors, hmatrices] at hrows
  exact hrows

/-- A function of a text, two vectors and texts runs the plan of all texts on the vectors. -/
theorem rows_of_textVectorsTexts {function : Builtin}
    (hdemand : function.demand = { single := [.text, .vector, .vector], repeated := some .text })
    (time : Int) (text : String) (left right : InstantVector) (texts : List String) :
    function.rows time (.text text :: .vector left :: .vector right :: texts.map .text) = do
      let plan ← function.plan (text :: texts) 2
      return plan.run time [left, right] [] := by
  -- The three single demands are met one after the other; the texts behind them are as demanded.
  have htake : function.demand.take function.name 0
        ([.text text, .vector left, .vector right] ++ texts.map .text) =
      .ok ([.text text, .vector left, .vector right] ++ texts.map .text) := by
    have hrest := Demand.take_texts (show function.demand.repeated = some .text by rw [hdemand])
      function.name (show function.demand.single.length ≤ 3 by rw [hdemand]; rfl) texts
    have hfirst : function.demand.kindAt? 0 = some .text := by rw [hdemand]; rfl
    have hsecond : function.demand.kindAt? 1 = some .vector := by rw [hdemand]; rfl
    have hthird : function.demand.kindAt? 2 = some .vector := by rw [hdemand]; rfl
    simp only [List.cons_append, List.nil_append, Demand.take, hfirst, hsecond, hthird, hrest]
    rfl
  obtain ⟨htexts, hvectors, hmatrices⟩ :=
    parts_append_texts [.text text, .vector left, .vector right] texts
  have hrows := rows_of_take htake time
  rw [htexts, hvectors, hmatrices] at hrows
  exact hrows

/-! ## §5 The table of functions -/

/-- What a table holds for a function that comes with the library. -/
def entry (function : Builtin) : Function where
  signature := function.signature
  call := function.call

theorem nodup_names : (all.map name).Nodup := by decide

theorem ofName?_name (function : Builtin) : ofName? function.name = some function := by
  cases function <;> decide

theorem name_of_ofName? {name : String} {function : Builtin} (h : ofName? name = some function) :
    function.name = name := by
  simpa using List.find?_some h

end Builtin

namespace FunctionTable

/-- The table of the functions that come with the library holds them and nothing else. -/
theorem get?_builtin (name : String) :
    builtin.get? name = (Builtin.ofName? name).map Builtin.entry := by
  -- The names differ, so inserting the entries one by one keeps every one of them.
  let entries := Builtin.all.map fun function => (function.name, function.entry)
  have hentries : builtin = NameMap.ofList entries := by
    rw [NameMap.ofList, NameMap.insertAll, List.foldl_map]
    rfl
  have hnodup : (entries.map Prod.fst).Nodup := by
    rw [List.map_map]
    exact Builtin.nodup_names
  rw [hentries, NameMap.get?_ofList_of_nodup hnodup, Builtin.ofName?]
  -- Both sides go through the functions for the first of the name.
  unfold entries
  induction Builtin.all with
  | nil => rfl
  | cons function functions ih =>
    by_cases h : function.name = name
    · simp [NameMap.lookup, h]
    · simp [NameMap.lookup, h, ih]

variable (function : Builtin) (values : List Value) (time : Int)

theorem call_builtin : builtin.call function.name values time = function.call time values := by
  rw [call, get?_builtin, Builtin.ofName?_name]
  rfl

theorem checkArguments_builtin :
    builtin.checkArguments function.name values =
      function.signature.check function.name values := by
  rw [checkArguments, signature?, get?_builtin, Builtin.ofName?_name]
  rfl

variable {name : String} (hname : Builtin.ofName? name = none)

include hname

theorem call_of_ofName?_eq_none :
    builtin.call name values time = .error (.unknownFunction name) := by
  rw [call, get?_builtin, hname]
  rfl

theorem checkArguments_of_ofName?_eq_none :
    builtin.checkArguments name values = .error (.unknownFunction name) := by
  rw [checkArguments, signature?, get?_builtin, hname]
  rfl

end FunctionTable

end LabeledSeries
