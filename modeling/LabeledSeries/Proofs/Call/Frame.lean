import Mathlib.Data.Fintype.EquivFin
import Mathlib.Data.List.NodupEquivFin
import LabeledSeries.Proofs.Call.Stages
import LabeledSeries.Proofs.Instant.CorrelationLoop

/-!
# What label functions leave alone

Nine functions change labels of the rows of their first vector.  They choose and order rows in
different ways and write different things, but none of them touches what it does not name: each row
of the result is made from a row of its own, has the time and value of that row, and has all the
labels of that row but those that the call names.

§1 is about label sets and rows that differ in the labels of a list at most (`DiffersOnlyIn`); this
is kept by every single write, and so by all of them.  §2 is about lists whose elements are made
from elements of their own of another list (`TracedTo`).  §3 takes the plans one by one, §4 says
which labels a call names, and §5 puts these together (`FunctionTable.call_frame`).
-/

namespace LabeledSeries

/-! ## §1 Differences in the labels of a list -/

/-- Where every step relates what it is given to what it leaves, so do all steps together. -/
theorem related_foldl {α σ : Type} {related : α → α → Prop} (hrefl : ∀ a, related a a)
    (htrans : ∀ a b c, related a b → related b c → related a c) {step : α → σ → α}
    {steps : List σ} (hstep : ∀ s ∈ steps, ∀ a, related a (step a s)) (a : α) :
    related a (steps.foldl step a) := by
  induction steps generalizing a with
  | nil => exact hrefl a
  | cons s steps ih =>
    have hfirst : related a (step a s) := hstep s (List.mem_cons_self ..) a
    have hrest := ih (fun s' hs' => hstep s' (List.mem_cons_of_mem _ hs')) (step a s)
    exact htrans _ _ _ hfirst hrest

/-- Label sets that differ at most in the labels of a list. -/
structure Labels.DiffersOnlyIn (names : List String) (before after : Labels) : Prop where
  get?_eq : ∀ name, name ∉ names → after.get? name = before.get? name

namespace Labels.DiffersOnlyIn

variable {names : List String} {before middle after : Labels}

theorem refl (names : List String) (labels : Labels) : labels.DiffersOnlyIn names labels where
  get?_eq _ _ := rfl

theorem trans (h : before.DiffersOnlyIn names middle) (h' : middle.DiffersOnlyIn names after) :
    before.DiffersOnlyIn names after where
  get?_eq name hname := (h'.get?_eq name hname).trans (h.get?_eq name hname)

theorem insert {name : String} (hname : name ∈ names) (labels : Labels) (text : String) :
    labels.DiffersOnlyIn names (labels.insert name text) where
  get?_eq other hother := by
    -- A name outside of the list is not the one that is stored.
    have hne : name ≠ other := fun heq => hother (heq ▸ hname)
    rw [NameMap.get?_insert, if_neg hne]

theorem erase {name : String} (hname : name ∈ names) (labels : Labels) :
    labels.DiffersOnlyIn names (labels.erase name) where
  get?_eq other hother := by
    have hne : name ≠ other := fun heq => hother (heq ▸ hname)
    rw [NameMap.get?_erase, if_neg hne]

theorem assign {name : String} (hname : name ∈ names) (labels : Labels) (text : String) :
    labels.DiffersOnlyIn names (labels.assign name text) := by
  unfold Labels.assign
  split
  · exact erase hname labels
  · exact insert hname labels text

theorem foldl {σ : Type} {step : Labels → σ → Labels} {steps : List σ}
    (h : ∀ s ∈ steps, ∀ labels, Labels.DiffersOnlyIn names labels (step labels s))
    (labels : Labels) : labels.DiffersOnlyIn names (steps.foldl step labels) :=
  related_foldl (refl names) (fun _ _ _ => trans) h labels

theorem insertAll {entries : List (String × String)} (h : ∀ entry ∈ entries, entry.1 ∈ names)
    (labels : Labels) : labels.DiffersOnlyIn names (labels.insertAll entries) :=
  foldl (fun entry hentry labels => insert (h entry hentry) labels entry.2) labels

end Labels.DiffersOnlyIn

/-- Rows of one time that differ at most in the labels of a list, and in their value only where it
    may be set. -/
structure Row.DiffersOnlyIn (names : List String) (revalued : Prop) (before after : Row) :
    Prop where
  time_eq : after.sample.time = before.sample.time
  value_eq : ¬ revalued → after.sample.value = before.sample.value
  labels : before.labels.DiffersOnlyIn names after.labels

namespace Row.DiffersOnlyIn

variable {names : List String} {revalued : Prop} {before middle after : Row}

theorem trans (h : before.DiffersOnlyIn names revalued middle)
    (h' : middle.DiffersOnlyIn names revalued after) :
    before.DiffersOnlyIn names revalued after where
  time_eq := h'.time_eq.trans h.time_eq
  value_eq hvalue := (h'.value_eq hvalue).trans (h.value_eq hvalue)
  labels := h.labels.trans h'.labels

theorem withLabels {row : Row} {labels : Labels} (h : row.labels.DiffersOnlyIn names labels) :
    row.DiffersOnlyIn names revalued (row.withLabels labels) where
  time_eq := rfl
  value_eq _ := rfl
  labels := h

theorem refl (names : List String) (revalued : Prop) (row : Row) :
    row.DiffersOnlyIn names revalued row :=
  withLabels (.refl names row.labels)

theorem setLabel {name : String} (hname : name ∈ names) (row : Row) (text : String) :
    row.DiffersOnlyIn names revalued (row.setLabel name text) :=
  withLabels (.insert hname row.labels text)

theorem foldl {σ : Type} {step : Row → σ → Row} {steps : List σ}
    (h : ∀ s ∈ steps, ∀ row, Row.DiffersOnlyIn names revalued row (step row s)) (row : Row) :
    row.DiffersOnlyIn names revalued (steps.foldl step row) :=
  related_foldl (refl names revalued) (fun _ _ _ => trans) h row

theorem writeAll {entries : List (String × String)} (h : ∀ entry ∈ entries, entry.1 ∈ names)
    (row : Row) : row.DiffersOnlyIn names revalued (row.writeAll entries) :=
  withLabels (.insertAll h row.labels)

end Row.DiffersOnlyIn

/-! ## §2 Elements made from elements -/

/-- Each element of a list is made from an element of its own of another list; where the list is in
    order, elements that are made later are made from later ones. -/
def TracedTo {α β : Type} (inOrder : Prop) (made : α → β → Prop) (list : List α) (out : List β) :
    Prop :=
  ∃ source : Fin out.length → Fin list.length, Function.Injective source ∧
    (inOrder → StrictMono source) ∧ ∀ index, made (list.get (source index)) (out.get index)

namespace TracedTo

variable {α β : Type} {inOrder : Prop} {made : α → β → Prop}

theorem imp {inOrder' : Prop} {made' : α → β → Prop} {list : List α} {out : List β}
    (h : TracedTo inOrder made list out) (horder : inOrder' → inOrder)
    (hmade : ∀ a b, made a b → made' a b) : TracedTo inOrder' made' list out := by
  obtain ⟨source, hinjective, hmono, hsource⟩ := h
  exact ⟨source, hinjective, fun h => hmono (horder h), fun index => hmade _ _ (hsource index)⟩

theorem nil (list : List α) : TracedTo inOrder made list [] :=
  ⟨fun index => index.elim0, fun index => index.elim0, fun _ index => index.elim0,
    fun index => index.elim0⟩

theorem filterMap {make : α → Option β} (h : ∀ a b, make a = some b → made a b) (list : List α) :
    TracedTo inOrder made list (list.filterMap make) := by
  -- What is made is, under `some`, a part of what is made or not made of each element.
  have hpart : ((list.filterMap make).map some).Sublist (list.map make) := by
    rw [List.map_filterMap_some_eq_filter_map_isSome]
    exact List.filter_sublist
  obtain ⟨place, hplace⟩ := List.sublist_iff_exists_fin_orderEmbedding_get_eq.mp hpart
  -- The two lists differ in `some` only, so they are as long and indexed alike.
  have hout : (list.filterMap make).length = ((list.filterMap make).map some).length := by simp
  have hlist : (list.map make).length = list.length := by simp
  let source : Fin (list.filterMap make).length → Fin list.length :=
    fun index => Fin.cast hlist (place (Fin.cast hout index))
  -- The embedding of the part keeps the order of the indices.
  have hmono : StrictMono source := fun i j hlt => place.strictMono hlt
  refine ⟨source, hmono.injective, fun _ => hmono, fun index => h _ _ ?_⟩
  have hat := hplace (Fin.cast hout index)
  simp only [List.get_eq_getElem, List.getElem_map, Fin.val_cast] at hat
  exact hat.symm

theorem map {make : α → β} (h : ∀ a, made a (make a)) (list : List α) :
    TracedTo inOrder made list (list.map make) := by
  rw [← List.filterMap_eq_map]
  apply filterMap
  rintro a _ ⟨⟩
  exact h a

/-- What is made from a rearranged list is made from the list, though not in its order. -/
theorem of_perm {list list' : List α} {out : List β} (hperm : list'.Perm list)
    (h : TracedTo inOrder made list' out) : TracedTo False made list out := by
  classical
  obtain ⟨source, hinjective, -, hmade⟩ := h
  -- Each place of the rearranged list goes to a place of the list that holds the same element.
  let place : Fin list'.length → Fin list.length := hperm.subperm.idxInj
  have hplace (index : Fin list'.length) : list.get (place index) = list'.get index :=
    hperm.subperm.getElem_idxInj_eq_getElem
  refine ⟨place ∘ source, hperm.subperm.idxInj_injective.comp hinjective, False.elim, ?_⟩
  intro index
  rw [Function.comp_apply, hplace]
  exact hmade index

end TracedTo

/-! ## §3 Plans -/

/-- Texts that are copied to targets go where the targets are. -/
theorem Join.fst_mem_of_mem_ownWrites {copies : List (String × String)} {row : Row}
    {entry : String × String} (h : entry ∈ ownWrites copies row) :
    entry.1 ∈ copies.map Prod.snd := by
  obtain ⟨copy, hcopy, rfl⟩ := List.mem_map.mp h
  exact List.mem_map_of_mem (List.mem_of_mem_filter hcopy)

theorem Join.fst_mem_of_mem_partnerWrites {copies : List (String × String)} {partner : Row}
    {entry : String × String} (h : entry ∈ partnerWrites copies partner) :
    entry.1 ∈ copies.map Prod.snd := by
  obtain ⟨copy, hcopy, hentry⟩ := List.mem_filterMap.mp h
  obtain ⟨text, -, rfl⟩ := Option.map_eq_some_iff.mp hentry
  exact List.mem_map_of_mem (List.mem_of_mem_filter hcopy)

section Plans

variable {revalued : Prop}

theorem Join.differsOnlyIn_nestedRow {join : Join} {right : InstantVector} {row out : Row}
    (h : join.nestedRow right row = some out) :
    row.DiffersOnlyIn (join.copies.map Prod.snd) revalued out := by
  -- The row's own texts are written first, and those of the partner over them.
  have hown : row.DiffersOnlyIn (join.copies.map Prod.snd) revalued
      (row.writeAll (ownWrites join.copies row)) :=
    .writeAll (fun _ => fst_mem_of_mem_ownWrites) row
  unfold nestedRow at h
  simp only at h
  -- A partner was found, or the row is kept without one, or it is dropped.
  split at h
  · cases h
    exact hown.trans (.writeAll (fun _ => fst_mem_of_mem_partnerWrites) _)
  · cases h
    exact hown
  · cases h

/-- A join makes rows of the sorted left rows, and so of the left rows. -/
theorem Join.run_tracedTo (join : Join) (left right : InstantVector) :
    TracedTo False (Row.DiffersOnlyIn (join.copies.map Prod.snd) revalued) left
      (join.run left right) := by
  have hperm : (sortByLabel join.leftKey left).Perm left := sortOn_perm _ left
  -- The sorted rows are kept or dropped one by one, whatever the walk through both sides does.
  have hsorted : TracedTo True (Row.DiffersOnlyIn (join.copies.map Prod.snd) revalued)
      (sortByLabel join.leftKey left) (join.run left right) := by
    rw [run_eq_filterMap]
    apply TracedTo.filterMap
    intro row out hout
    exact differsOnlyIn_nestedRow hout
  exact hsorted.of_perm hperm

theorem Join.length_run {join : Join} (h : join.unmatched = .keep) (left right : InstantVector) :
    (join.run left right).length = left.length := by
  -- Where rows without a partner are kept, every row gives one.
  have hsome (row : Row) : ∃ out, join.nestedRow right row = some out := by
    unfold nestedRow
    rw [h]
    cases join.partner? right (row.labels.value join.leftKey) with
    | none => exact ⟨_, rfl⟩
    | some partner => exact ⟨_, rfl⟩
  choose out hout using hsome
  rw [run_eq_filterMap, funext hout, List.filterMap_eq_map', List.length_map]
  exact (sortOn_perm _ left).length_eq

theorem PartnerValue.run_tracedTo (plan : PartnerValue) (left right : InstantVector) :
    TracedTo True (Row.DiffersOnlyIn [plan.target] revalued) left (plan.run left right) := by
  apply TracedTo.filterMap
  intro row out hout
  simp only at hout
  -- A row without the key is kept as it is.
  split at hout
  · cases hout
    exact .refl _ _ row
  · obtain ⟨partner, -, rfl⟩ := Option.map_eq_some_iff.mp hout
    exact .setLabel (List.mem_singleton_self _) row _

theorem fst_mem_of_mem_partnerTexts {keysAt : Nat → List String} {row : Row} {index : Nat}
    {vectors : List InstantVector} {targets : List String} {entry : String × String}
    (h : entry ∈ partnerTexts keysAt row index vectors targets) : entry.1 ∈ targets := by
  -- Targets are used up with the vectors, so each text goes to a target of its own.
  induction vectors generalizing index targets with
  | nil => cases h
  | cons rows vectors ih =>
    cases targets with
    | nil => cases h
    | cons target targets =>
      unfold partnerTexts at h
      split at h
      · rcases List.mem_cons.mp h with rfl | hrest
        · exact List.mem_cons_self ..
        · exact List.mem_cons_of_mem _ (ih hrest)
      · exact List.mem_cons_of_mem _ (ih h)

theorem correlationLoop_tracedTo (keysAt : Nat → List String) (targets : List String)
    (vectors : List InstantVector) :
    TracedTo True (Row.DiffersOnlyIn targets revalued) (vectors.headD [])
      (correlationLoop keysAt targets vectors) := by
  -- Without targets or vectors there are no rows.
  rcases targets with _ | ⟨target, targets⟩
  · exact .nil _
  · rcases vectors with _ | ⟨first, others⟩
    · exact .nil _
    · -- Rows without a key are dropped; the others get texts under the targets and nowhere else.
      rw [correlationLoop, ← List.filterMap_eq_map, List.filterMap_filter]
      apply TracedTo.filterMap
      intro row out hout
      split at hout
      · cases hout
        apply Row.DiffersOnlyIn.writeAll
        intro entry hentry
        rcases List.mem_cons.mp hentry with rfl | hpartner
        · exact List.mem_cons_self ..
        · exact List.mem_cons_of_mem _ (fst_mem_of_mem_partnerTexts hpartner)
      · cases hout

theorem Tagging.run_tracedTo (plan : Tagging) (rows : InstantVector) :
    TracedTo True (Row.DiffersOnlyIn (plan.tags.map Prod.fst) revalued) rows (plan.run rows) := by
  apply TracedTo.map
  intro row
  apply Row.DiffersOnlyIn.withLabels
  apply Labels.DiffersOnlyIn.foldl
  intro entry hentry labels
  -- A tag is stored or not, and under its own name.
  unfold tag
  split
  · exact .insert (List.mem_map_of_mem hentry) labels entry.2
  · exact .refl _ labels

theorem Renaming.takeOut_differsOnlyIn {names : List String} {renames : List (String × String)}
    (h : ∀ rename ∈ renames, rename.1 ∈ names ∧ rename.2 ∈ names) (labels : Labels) :
    labels.DiffersOnlyIn names (takeOut renames labels).1 ∧
      ∀ entry ∈ (takeOut renames labels).2, entry.1 ∈ names := by
  induction renames generalizing labels with
  | nil => exact ⟨.refl _ labels, nofun⟩
  | cons rename renames ih =>
    obtain ⟨⟨hold, hnew⟩, hrest⟩ := List.forall_mem_cons.mp h
    rw [takeOut]
    -- A label that is there is erased under its old name and comes back under the new one.
    split
    · exact ih hrest labels
    · obtain ⟨hleft, hmoved⟩ := ih hrest (labels.erase rename.1)
      refine ⟨(Labels.DiffersOnlyIn.erase hold labels).trans hleft, ?_⟩
      intro entry hentry
      rcases List.mem_cons.mp hentry with rfl | hlater
      · exact hnew
      · exact hmoved entry hlater

theorem Renaming.run_tracedTo (plan : Renaming) {names : List String}
    (h : ∀ rename ∈ plan.renames, rename.1 ∈ names ∧ rename.2 ∈ names) (rows : InstantVector) :
    TracedTo True (Row.DiffersOnlyIn names revalued) rows (plan.run rows) := by
  apply TracedTo.map
  intro row
  apply Row.DiffersOnlyIn.withLabels
  obtain ⟨hleft, hmoved⟩ := takeOut_differsOnlyIn h row.labels
  exact hleft.trans (.insertAll hmoved _)

/-- An assignment changes the label of its key, or the value if its key is the value name. -/
theorem Conditional.run_tracedTo (plan : Conditional) (rows : InstantVector) :
    TracedTo True
      (Row.DiffersOnlyIn (plan.assignments.map Prod.fst)
        (ownValue ∈ plan.assignments.map Prod.fst))
      rows (plan.run rows) := by
  apply TracedTo.map
  intro row
  apply Row.DiffersOnlyIn.foldl
  intro assignment hassignment row
  have hkey : assignment.1 ∈ plan.assignments.map Prod.fst := List.mem_map_of_mem hassignment
  unfold assign
  simp only
  split
  · -- The outcome is read as a number and set, or else ignored.
    rename_i hown
    split
    · exact { time_eq := rfl, value_eq := fun hnot => absurd (hown ▸ hkey) hnot,
              labels := .refl _ row.labels }
    · exact .refl _ _ row
  · -- Under any other key the outcome is a label.
    exact .withLabels (.assign hkey row.labels _)

end Plans

/-! ## §4 What a call names -/

namespace Parameters

variable {function : String}

theorem eq_splitPair_of_namePair {separator : Char} {text : String} {names : String × String}
    (h : namePair function separator text = .ok names) : names = splitPair separator text := by
  obtain ⟨_, _, h⟩ := bind_eq_ok_iff.mp h
  obtain ⟨_, _, h⟩ := bind_eq_ok_iff.mp h
  exact (Except.ok.inj h).symm

/-- The copies that are read are the texts, each split once. -/
theorem eq_map_of_copySpecs {specs : List String} {copies : List (String × String)}
    (h : copySpecs function specs = .ok copies) : copies = specs.map (splitPair ':') := by
  induction specs generalizing copies with
  -- Texts are read one by one, and each of them makes one copy.
  | nil =>
    cases h
    rfl
  | cons spec specs ih =>
    obtain ⟨copy, hcopy, h⟩ := bind_eq_ok_iff.mp h
    obtain ⟨rest, hrest, rfl⟩ := map_eq_ok_iff.mp h
    rw [List.map_cons, eq_splitPair_of_namePair hcopy, ih hrest]

theorem eq_pairUp_of_pairs {texts : List String} {entries : List (String × String)}
    (h : pairs function texts = .ok entries) : entries = pairUp texts := by
  unfold pairs at h
  split at h
  · cases h
    rfl
  · cases h

theorem mem_of_mem_pairUp {texts : List String} {entry : String × String}
    (h : entry ∈ pairUp texts) : entry.1 ∈ texts ∧ entry.2 ∈ texts := by
  fun_induction pairUp texts with
  -- Names are paired from the front; a last one without a partner makes no pair.
  | case1 first second rest ih =>
    rcases List.mem_cons.mp h with rfl | hrest
    · simp
    · obtain ⟨hfirst, hsecond⟩ := ih hrest
      simp [hfirst, hsecond]
  | case2 texts hshort => cases h

end Parameters

theorem Conditional.keys_of_readAll {function : String} {entries : List (String × String)}
    {assignments : List (String × Ternary)} (h : readAll function entries = .ok assignments) :
    assignments.map Prod.fst = entries.map Prod.fst := by
  induction entries generalizing assignments with
  | nil =>
    cases h
    rfl
  | cons entry entries ih =>
    -- The key is checked and the expression read before the others.
    obtain ⟨_, _, h⟩ := bind_eq_ok_iff.mp h
    obtain ⟨ternary, _, h⟩ := bind_eq_ok_iff.mp h
    obtain ⟨rest, hrest, rfl⟩ := map_eq_ok_iff.mp h
    rw [List.map_cons, List.map_cons, ih hrest]

namespace Builtin

/-- The functions that change labels of the rows of their first vector. -/
def relabelling : List Builtin :=
  [.select2, .select2Join, .labelsAppend, .labelsAppendValue, .labelsAppendValues, .selectn,
    .labelsRename, .labelsAppendTags, .labelsAppendTernary]

/-- Those of them that keep every row. -/
def keepingRows : List Builtin :=
  [.select2Join, .labelsAppend, .labelsRename, .labelsAppendTags, .labelsAppendTernary]

/-- Those of them that sort the rows by the key that they match. -/
def sortingRows : List Builtin := [.select2, .select2Join, .labelsAppend]

/-- The labels that a call with these texts names to be changed: its targets and, of a renaming, the
    old names as well. -/
def namedLabels (function : Builtin) (texts : List String) : List String :=
  match function with
  | .select2 | .select2Join => texts.tail.map fun spec => (Parameters.splitPair ':' spec).2
  | .labelsAppend => (Parameters.pairUp texts.tail).map Prod.snd
  | .labelsAppendValue => [texts.tail.headD ""]
  | .labelsAppendValues | .selectn => namesIn '|' (texts.tail.headD "")
  | .labelsRename => texts
  | .labelsAppendTags | .labelsAppendTernary => (Parameters.pairUp texts).map Prod.fst
  | _ => []

/-- A call sets values just where an expression is assigned to the value name. -/
def setsValues (function : Builtin) (texts : List String) : Prop :=
  function = .labelsAppendTernary ∧ ownValue ∈ function.namedLabels texts

end Builtin

/-! ## §5 Calls -/

theorem Join.copies_of_ofSpecs {function matchKey : String} {unmatched : Unmatched}
    {specs : List String} {join : Join}
    (h : ofSpecs function unmatched matchKey specs = .ok join) :
    join.copies.map Prod.snd = specs.map (fun spec => (Parameters.splitPair ':' spec).2) ∧
      join.unmatched = unmatched := by
  obtain ⟨keys, _, h⟩ := bind_eq_ok_iff.mp h
  obtain ⟨copies, hcopies, rfl⟩ := map_eq_ok_iff.mp h
  rw [Parameters.eq_map_of_copySpecs hcopies, List.map_map]
  exact ⟨rfl, rfl⟩

theorem Join.copies_of_ofPairs {function matchKey : String} {texts : List String} {join : Join}
    (h : ofPairs function matchKey texts = .ok join) :
    join.copies = Parameters.pairUp texts ∧ join.unmatched = .keep := by
  obtain ⟨_, _, h⟩ := bind_eq_ok_iff.mp h
  obtain ⟨copies, hcopies, h⟩ := bind_eq_ok_iff.mp h
  obtain ⟨_, _, ⟨⟩⟩ := bind_eq_ok_iff.mp h
  exact ⟨Parameters.eq_pairUp_of_pairs hcopies, rfl⟩

namespace Builtin

/-- The plan of a function that changes labels makes each row from a row of its own of the first
    vector, changing what the call names. -/
theorem run_tracedTo {function : Builtin} (hfunction : function ∈ relabelling)
    {texts : List String} {vectors : List InstantVector} {plan : Plan}
    (hplan : function.plan texts vectors.length = .ok plan) (time : Int)
    (matrices : List RangeMatrix) :
    TracedTo (function ∉ sortingRows)
        (Row.DiffersOnlyIn (function.namedLabels texts) (function.setsValues texts))
        (vectors.headD []) (plan.run time vectors matrices) ∧
      (function ∈ keepingRows →
        (plan.run time vectors matrices).length = (vectors.headD []).length) := by
  -- Joins make rows in the order of their keys, so nothing is claimed of the order of these.
  have hsorting {function : Builtin} (h : function ∈ sortingRows) :
      function ∉ sortingRows → False :=
    fun hnot => hnot h
  cases function with
  | select2 =>
    -- The copies name the labels; rows without a partner are dropped, so not every row is kept.
    obtain ⟨join, hjoin, rfl⟩ := fmap_eq_ok_iff.mp hplan
    obtain ⟨hcopies, -⟩ := Join.copies_of_ofSpecs hjoin
    refine ⟨?_, fun hkeeps => absurd hkeeps (by decide)⟩
    rw [namedLabels, ← hcopies]
    exact (join.run_tracedTo _ _).imp (hsorting (by decide)) fun _ _ => id
  | select2Join =>
    obtain ⟨join, hjoin, rfl⟩ := fmap_eq_ok_iff.mp hplan
    -- Here rows without a partner are kept.
    obtain ⟨hcopies, hunmatched⟩ := Join.copies_of_ofSpecs hjoin
    refine ⟨?_, fun _ => Join.length_run hunmatched _ _⟩
    rw [namedLabels, ← hcopies]
    exact (join.run_tracedTo _ _).imp (hsorting (by decide)) fun _ _ => id
  | labelsAppend =>
    obtain ⟨join, hjoin, rfl⟩ := fmap_eq_ok_iff.mp hplan
    obtain ⟨hcopies, hunmatched⟩ := Join.copies_of_ofPairs hjoin
    refine ⟨?_, fun _ => Join.length_run hunmatched _ _⟩
    rw [namedLabels, ← hcopies]
    exact (join.run_tracedTo _ _).imp (hsorting (by decide)) fun _ _ => id
  | labelsAppendValue =>
    -- The checks of the two names tell nothing about the plan.
    obtain ⟨partnerValue, hread, rfl⟩ := fmap_eq_ok_iff.mp hplan
    obtain ⟨_, _, hread⟩ := bind_eq_ok_iff.mp hread
    obtain ⟨_, _, ⟨⟩⟩ := bind_eq_ok_iff.mp hread
    refine ⟨?_, fun hkeeps => absurd hkeeps (by decide)⟩
    exact (PartnerValue.run_tracedTo _ _ _).imp (fun _ => trivial) fun _ _ => id
  | labelsAppendValues =>
    -- The targets are the names that were read.
    obtain ⟨sharedKeys, hread, rfl⟩ := fmap_eq_ok_iff.mp hplan
    obtain ⟨rfl, -⟩ := SharedKeys.ofTexts_eq_ok_iff.mp hread
    refine ⟨?_, fun hkeeps => absurd hkeeps (by decide)⟩
    rw [Plan.run, SharedKeys.run_eq_correlationLoop]
    exact (correlationLoop_tracedTo _ _ _).imp (fun _ => trivial) fun _ _ => id
  | selectn =>
    obtain ⟨keyPerVector, hread, rfl⟩ := fmap_eq_ok_iff.mp hplan
    obtain ⟨rfl, -⟩ := KeyPerVector.ofTexts_eq_ok_iff.mp hread
    refine ⟨?_, fun hkeeps => absurd hkeeps (by decide)⟩
    rw [Plan.run, KeyPerVector.run_eq_correlationLoop]
    exact (correlationLoop_tracedTo _ _ _).imp (fun _ => trivial) fun _ _ => id
  | labelsRename =>
    obtain ⟨renamed, hread, rfl⟩ := fmap_eq_ok_iff.mp hplan
    obtain ⟨_, _, hread⟩ := bind_eq_ok_iff.mp hread
    obtain ⟨renames, hrenames, ⟨⟩⟩ := map_eq_ok_iff.mp hread
    -- Every old and new name is one of the texts.
    have hnames : ∀ rename ∈ renames, rename.1 ∈ texts ∧ rename.2 ∈ texts := by
      rw [Parameters.eq_pairUp_of_pairs hrenames]
      intro rename hrename
      exact Parameters.mem_of_mem_pairUp hrename
    refine ⟨?_, fun _ => List.length_map _⟩
    exact (Renaming.run_tracedTo _ hnames _).imp (fun _ => trivial) fun _ _ => id
  | labelsAppendTags =>
    -- The keys of the pairs are the names.
    obtain ⟨tagged, hread, rfl⟩ := fmap_eq_ok_iff.mp hplan
    obtain ⟨tags, htags, hread⟩ := bind_eq_ok_iff.mp hread
    obtain ⟨_, _, ⟨⟩⟩ := bind_eq_ok_iff.mp hread
    refine ⟨?_, fun _ => List.length_map _⟩
    rw [namedLabels, ← Parameters.eq_pairUp_of_pairs htags]
    exact (Tagging.run_tracedTo _ _).imp (fun _ => trivial) fun _ _ => id
  | labelsAppendTernary =>
    obtain ⟨conditional, hread, rfl⟩ := fmap_eq_ok_iff.mp hplan
    obtain ⟨entries, hentries, hread⟩ := bind_eq_ok_iff.mp hread
    obtain ⟨assignments, hassignments, ⟨⟩⟩ := map_eq_ok_iff.mp hread
    -- Each assignment keeps the key of the pair that it was read from.
    have hkeys : namedLabels labelsAppendTernary texts = assignments.map Prod.fst := by
      rw [namedLabels, ← Parameters.eq_pairUp_of_pairs hentries,
        Conditional.keys_of_readAll hassignments]
    refine ⟨?_, fun _ => List.length_map _⟩
    rw [setsValues, hkeys]
    apply (Conditional.run_tracedTo _ _).imp (fun _ => trivial)
    intro before after h
    exact { h with value_eq := fun hnot => h.value_eq fun hown => hnot ⟨rfl, hown⟩ }
  | labelsSelect | select1 | distinct | aggregateMatrixMax | aggregateMatrixMin
  | aggregateMatrixSum | labelsInvert | vectorWithLabels | vectorJoin =>
    exact absurd hfunction (by decide)

/-- What is taken for a function that changes labels has the first vector of the arguments, and the
    texts that it has name the same labels. -/
theorem headD_namedLabels_of_take {function : Builtin} (hfunction : function ∈ relabelling)
    {values taken : List Value}
    (htaken : function.demand.take function.name 0 values = .ok taken) :
    (Value.vectors taken).headD [] = (Value.vectors values).headD [] ∧
      function.namedLabels (Value.texts taken) = function.namedLabels (Value.texts values) := by
  by_cases hrepeated : function.demand.repeated.isSome
  · -- All arguments are taken, so nothing is lost among them.
    obtain ⟨htexts, hvectors⟩ := Demand.texts_vectors_of_take hrepeated htaken
    rw [htexts, hvectors]
    exact ⟨rfl, rfl⟩
  · -- The one function that ignores what follows its last argument takes two vectors and two texts.
    obtain rfl : function = labelsAppendValue := by
      revert hfunction hrepeated
      cases function <;> decide
    obtain ⟨left, afterLeft, takenAfterLeft, rfl, hleft, rfl, hafterLeft⟩ :=
      Demand.exists_cons_of_take (show _ = some Kind.vector from rfl) htaken
    obtain ⟨right, afterRight, takenAfterRight, rfl, hright, rfl, hafterRight⟩ :=
      Demand.exists_cons_of_take (show _ = some Kind.vector from rfl) hafterLeft
    obtain ⟨key, afterKey, takenAfterKey, rfl, hkey, rfl, hafterKey⟩ :=
      Demand.exists_cons_of_take (show _ = some Kind.text from rfl) hafterRight
    obtain ⟨target, ignored, takenAfterTarget, rfl, htarget, rfl, -⟩ :=
      Demand.exists_cons_of_take (show _ = some Kind.text from rfl) hafterKey
    cases left <;> cases hleft <;> cases right <;> cases hright <;> cases key <;> cases hkey <;>
      cases target <;> cases htarget <;> exact ⟨rfl, rfl⟩

end Builtin

/-- **A call changes what it names and nothing else.**  Each row that a label function makes is made
    from a row of its own of the first vector.  It has the time of that row, its value unless an
    expression is assigned to the value, and all of its labels but those that the call names, and
    its labels are listed in the order of their names.  Functions that keep every row make one of
    each, and functions that do not sort make them in the order of the vector. -/
theorem FunctionTable.call_frame {function : Builtin} (hfunction : function ∈ Builtin.relabelling)
    {values : List Value} {time : Int} {value : Value}
    (hcall : builtin.call function.name values time = .ok value) :
    let first := (Value.vectors values).headD []
    let texts := Value.texts values
    ∃ out, value = .vector out ∧
      ∃ source : Fin out.length → Fin first.length, Function.Injective source ∧
        (function ∈ Builtin.keepingRows → Function.Bijective source) ∧
        (function ∉ Builtin.sortingRows → StrictMono source) ∧
        ∀ index, Row.DiffersOnlyIn (function.namedLabels texts) (function.setsValues texts)
            (first.get (source index)) (out.get index) ∧
          Ascending (out.get index).labels.entries := by
  intro first texts
  rw [call_builtin] at hcall
  obtain ⟨out, hrows, rfl⟩ := map_eq_ok_iff.mp hcall
  rw [Builtin.rows_eq_stages] at hrows
  obtain ⟨taken, htaken, hrows⟩ := bind_eq_ok_iff.mp hrows
  obtain ⟨plan, hplan, ⟨⟩⟩ := bind_eq_ok_iff.mp hrows
  obtain ⟨htraced, hlength⟩ :=
    Builtin.run_tracedTo hfunction hplan time (Value.matrices taken)
  obtain ⟨hfirst, hnamed⟩ := Builtin.headD_namedLabels_of_take hfunction htaken
  rw [Builtin.setsValues, hnamed, hfirst] at htraced
  rw [hfirst] at hlength
  obtain ⟨source, hinjective, hmono, hmade⟩ := htraced
  refine ⟨_, rfl, source, hinjective, fun hkeeps => ?_, hmono,
    fun index => ⟨hmade index, NameMap.ascending _⟩⟩
  -- An injection between lists of one length is a bijection.
  rw [Fintype.bijective_iff_injective_and_card]
  exact ⟨hinjective, by simp [hlength hkeeps, first]⟩

/-- Renaming a label that one of two rows has: the rows stay, in their order, and so do their other
    labels. -/
theorem FunctionTable.call_frame_renaming :
    let first : InstantVector :=
      [{ labels := { entries := [("job", "db"), ("pod", "a")] },
          sample := { time := 7, value := 1.5 } },
        { labels := .singleton "job" "web", sample := { time := 7, value := 2.5 } }]
    ∃ out : InstantVector,
      builtin.call "labels_rename" [.vector first, .text "pod", .text "node"] 0 =
        .ok (.vector out) ∧
      ∃ source : Fin out.length → Fin first.length,
        Function.Bijective source ∧ StrictMono source ∧
        ∀ index, ((out.get index).sample.value = (first.get (source index)).sample.value) ∧
          (out.get index).labels.get? "job" = (first.get (source index)).labels.get? "job" ∧
          Ascending (out.get index).labels.entries := by
  intro first
  have hcall : builtin.call "labels_rename" [.vector first, .text "pod", .text "node"] 0 = .ok _ :=
    (call_builtin .labelsRename _ 0).trans rfl
  obtain ⟨out, hout, source, -, hbijective, hmono, hmade⟩ :=
    call_frame (show Builtin.labelsRename ∈ Builtin.relabelling by decide) hcall
  refine ⟨out, hcall.trans (congrArg _ hout), source, hbijective (by decide), hmono (by decide), ?_⟩
  intro index
  have hvalues (texts : List String) : ¬ Builtin.labelsRename.setsValues texts := by
    rintro ⟨hternary, -⟩
    cases hternary
  obtain ⟨hrow, hordered⟩ := hmade index
  exact ⟨hrow.value_eq (hvalues _), hrow.labels.get?_eq "job" (by decide), hordered⟩

end LabeledSeries
