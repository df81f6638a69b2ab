import Mathlib.Data.List.Forall2
import LabeledSeries.Proofs.Call.Faults
import LabeledSeries.Proofs.Instant.CorrelationLoop
import LabeledSeries.Proofs.Labels

/-!
# Empty labels

A label with an empty value says no more than a label that is missing.  Of the functions that come
with the library two can tell them apart: a renaming moves an empty label like any other, and a bare
word of an expression means a label if there is one and itself if there is none.  All others read
labels by their values, so dropping the empty labels of their arguments changes nothing of what they
give but empty labels (`FunctionTable.call_withoutEmpty`).

The proof does not follow the labels that are dropped.  Label sets are *alike* if they read the
same; what is stripped of its empty labels is alike to what it was (§1, §2).  Every plan but the two
makes alike vectors of alike vectors (§3), and what is alike is the same once it is stripped (§4).
-/

namespace LabeledSeries

/-! ## §1 Label sets that read the same -/

/-- Label sets in which every label has the same value, a missing one counting as empty. -/
structure Labels.Alike (labels other : Labels) : Prop where
  value_eq : ∀ name, labels.value name = other.value name

namespace Labels

theorem value_insert (labels : Labels) (name text other : String) :
    Labels.value (labels.insert name text) other =
      if name = other then text else labels.value other := by
  unfold value
  rw [NameMap.get?_insert]
  split
  · rfl
  · rfl

/-- What is left without empty labels is what reads as more than the empty text. -/
theorem get?_withoutEmpty (labels : Labels) (name : String) :
    labels.withoutEmpty.get? name = labels.present? name := by
  rw [withoutEmpty, NameMap.get?_filter]
  rfl

namespace Alike

variable {labels other : Labels}

theorem refl (labels : Labels) : labels.Alike labels where
  value_eq _ := rfl

theorem withoutEmpty (labels : Labels) : labels.withoutEmpty.Alike labels where
  value_eq := value_withoutEmpty labels

theorem present?_eq (h : labels.Alike other) (name : String) :
    labels.present? name = other.present? name := by
  rw [present?_eq_if, present?_eq_if, h.value_eq]

/-- **Canonical form**: label sets that read the same are the same without their empty labels. -/
theorem withoutEmpty_eq (h : labels.Alike other) : labels.withoutEmpty = other.withoutEmpty := by
  apply NameMap.ext_get?
  intro name
  calc labels.withoutEmpty.get? name
      _ = labels.present? name := get?_withoutEmpty labels name
      _ = other.present? name := h.present?_eq name
      _ = other.withoutEmpty.get? name := (get?_withoutEmpty other name).symm

theorem insert (h : labels.Alike other) (name text : String) :
    Labels.Alike (labels.insert name text) (other.insert name text) where
  value_eq reading := by rw [value_insert, value_insert, h.value_eq]

theorem insertAll (h : labels.Alike other) (entries : List (String × String)) :
    Labels.Alike (labels.insertAll entries) (other.insertAll entries) := by
  -- Every entry is stored on both sides, so they stay alike.
  induction entries generalizing labels other with
  | nil => exact h
  | cons entry entries ih => exact ih (h.insert entry.1 entry.2)

end Alike

/-- Label sets are the same without their empty labels just if they read the same. -/
theorem withoutEmpty_eq_iff {labels other : Labels} :
    labels.withoutEmpty = other.withoutEmpty ↔ ∀ name, labels.value name = other.value name := by
  refine ⟨fun heq name => ?_, fun hvalue => Alike.withoutEmpty_eq ⟨hvalue⟩⟩
  rw [← value_withoutEmpty labels, heq, value_withoutEmpty]

end Labels

/-! ## §2 Rows, series and values that read the same -/

/-- Rows of one sample whose labels read the same. -/
structure Row.Alike (row other : Row) : Prop where
  labels : row.labels.Alike other.labels
  sample_eq : row.sample = other.sample

/-- Series of the same samples whose labels read the same. -/
structure Series.Alike (series other : Series) : Prop where
  labels : series.labels.Alike other.labels
  samples_eq : series.samples = other.samples
  range_eq : series.range = other.range

/-- Values that differ at most in the labels of their rows or series, where those read the same. -/
inductive Value.Alike : Value → Value → Prop where
  | vector {rows rows' : InstantVector} (h : List.Forall₂ Row.Alike rows rows') :
    Alike (.vector rows) (.vector rows')
  | matrix {series series' : RangeMatrix} (h : List.Forall₂ Series.Alike series series') :
    Alike (.matrix series) (.matrix series')
  | scalar (x : Float) : Alike (.scalar x) (.scalar x)
  | text (s : String) : Alike (.text s) (.text s)
  | none : Alike .none .none

/-- A row without its empty labels. -/
def Row.withoutEmpty (row : Row) : Row := row.withLabels row.labels.withoutEmpty

/-- A series without its empty labels. -/
def Series.withoutEmpty (series : Series) : Series :=
  { series with labels := series.labels.withoutEmpty }

/-- A value without the empty labels of its rows or series. -/
def Value.withoutEmpty : Value → Value
  | .vector rows => .vector (rows.map Row.withoutEmpty)
  | .matrix series => .matrix (series.map Series.withoutEmpty)
  | value => value

namespace Row.Alike

variable {row other : Row}

theorem valueText_eq (h : row.Alike other) : row.valueText = other.valueText := by
  rw [Row.valueText, Row.valueText, h.sample_eq]

theorem withLabels (h : row.Alike other) {labels labels' : Labels} (h' : labels.Alike labels') :
    (row.withLabels labels).Alike (other.withLabels labels') where
  labels := h'
  sample_eq := h.sample_eq

theorem setLabel (h : row.Alike other) (name text : String) :
    (row.setLabel name text).Alike (other.setLabel name text) :=
  h.withLabels (h.labels.insert name text)

theorem writeAll (h : row.Alike other) (entries : List (String × String)) :
    (row.writeAll entries).Alike (other.writeAll entries) :=
  h.withLabels (h.labels.insertAll entries)

theorem withoutEmpty_eq (h : row.Alike other) : row.withoutEmpty = other.withoutEmpty := by
  unfold Row.withoutEmpty Row.withLabels
  rw [h.labels.withoutEmpty_eq, h.sample_eq]

end Row.Alike

theorem Series.Alike.withoutEmpty_eq {series other : Series} (h : series.Alike other) :
    series.withoutEmpty = other.withoutEmpty := by
  unfold Series.withoutEmpty
  rw [h.labels.withoutEmpty_eq, h.samples_eq, h.range_eq]

namespace Value.Alike

variable {value other : Value} {values others : List Value}

theorem sameParameter (h : value.Alike other) : value.SameParameter other := by
  cases h with
  | vector _ => exact .vector _ _
  | matrix _ => exact .matrix _ _
  | scalar x => exact .scalar x x
  | text s => exact .text s
  | none => exact .none

/-- Passing an argument for a kind takes its rows, its series or its text, whichever it has. -/
theorem passedAs (h : value.Alike other) (kind : Kind) :
    (value.passedAs kind).Alike (other.passedAs kind) := by
  -- A value that fits no kind of rows is taken as no rows, on both sides.
  cases kind with
  | vector =>
    cases h with
    | vector h => exact .vector h
    | matrix | scalar | text | none => exact .vector .nil
  | matrix =>
    cases h with
    | matrix h => exact .matrix h
    | vector | scalar | text | none => exact .matrix .nil
  | text =>
    cases h with
    | text s => exact .text s
    | vector | matrix | scalar | none => exact .text ""
  | scalar => exact h

theorem vectors (h : List.Forall₂ Alike values others) :
    List.Forall₂ (List.Forall₂ Row.Alike) (Value.vectors values) (Value.vectors others) := by
  induction h with
  | nil => exact .nil
  -- A text has no rows, and what is neither vector nor text counts as an empty vector.
  | cons hvalue _ ih =>
    cases hvalue with
    | vector hrows => exact .cons hrows ih
    | text => exact ih
    | matrix | scalar | none => exact .cons .nil ih

theorem matrices (h : List.Forall₂ Alike values others) :
    List.Forall₂ (List.Forall₂ Series.Alike) (Value.matrices values) (Value.matrices others) := by
  induction h with
  | nil => exact .nil
  | cons hvalue _ ih =>
    cases hvalue with
    | matrix hseries => exact .cons hseries ih
    | vector | scalar | text | none => exact ih

/-- A value is alike to itself without empty labels. -/
theorem withoutEmpty (value : Value) : value.withoutEmpty.Alike value := by
  cases value with
  | vector rows =>
    -- Rows are alike one by one, with the same samples.
    apply Alike.vector
    rw [List.forall₂_map_left_iff, List.forall₂_same]
    intro row _
    exact { labels := .withoutEmpty row.labels, sample_eq := rfl }
  | matrix series =>
    apply Alike.matrix
    rw [List.forall₂_map_left_iff, List.forall₂_same]
    intro one _
    exact { labels := .withoutEmpty one.labels, samples_eq := rfl, range_eq := rfl }
  | scalar x => exact .scalar x
  | text s => exact .text s
  | none => exact .none

end Value.Alike

/-! ## §3 Plans -/

section Lists

variable {α β κ : Type} [LinearOrder κ] {related : α → β → Prop} {list : List α} {list' : List β}

/-- A search for what is read alike of related elements finds related elements. -/
theorem rel_find? {p : α → Bool} {q : β → Bool} (hpq : ∀ a b, related a b → p a = q b)
    (h : List.Forall₂ related list list') :
    Option.Rel related (list.find? p) (list'.find? q) := by
  induction h with
  | nil => exact .none
  -- The first elements are both found, or both passed over.
  | @cons a b _ _ hab _ ih =>
    rw [List.find?_cons, List.find?_cons, hpq a b hab]
    split
    · exact .some hab
    · exact ih

/-- Sorting by a key that related elements share moves them to the same places. -/
theorem rel_sortOn {key : α → κ} {key' : β → κ} (hkey : ∀ a b, related a b → key a = key' b)
    (h : List.Forall₂ related list list') :
    List.Forall₂ related (sortOn key list) (sortOn key' list') := by
  obtain ⟨hlength, hrelated⟩ := List.forall₂_iff_zip.mp h
  -- Both lists are one list of pairs, which is sorted by the key that the two of a pair share.
  let pairs := list.zip list'
  have hfst : pairs.map Prod.fst = list := List.map_fst_zip hlength.le
  have hsnd : pairs.map Prod.snd = list' := List.map_snd_zip hlength.ge
  have hleft : (sortOn (fun pair : α × β => key pair.1) pairs).map Prod.fst = sortOn key list := by
    rw [sortOn, sortOn, ← hfst]
    exact List.map_mergeSort fun _ _ _ _ => rfl
  have hright :
      (sortOn (fun pair : α × β => key pair.1) pairs).map Prod.snd = sortOn key' list' := by
    rw [sortOn, sortOn, ← hsnd]
    apply List.map_mergeSort
    intro a ha b hb
    rw [hkey _ _ (hrelated ha), hkey _ _ (hrelated hb)]
  rw [← hleft, ← hright, List.forall₂_map_left_iff, List.forall₂_map_right_iff, List.forall₂_same]
  intro pair hpair
  exact hrelated ((mem_sortOn _).mp hpair)

end Lists

section Plans

variable {rows rows' left left' right right' : InstantVector}

theorem sortByLabel_alike (key : String) (h : List.Forall₂ Row.Alike rows rows') :
    List.Forall₂ Row.Alike (sortByLabel key rows) (sortByLabel key rows') :=
  rel_sortOn (fun _ _ hrow => hrow.labels.value_eq key) h

theorem firstWith_alike (key text : String) (h : List.Forall₂ Row.Alike rows rows') :
    Option.Rel Row.Alike (firstWith key text rows) (firstWith key text rows') := by
  apply rel_find? _ h
  intro row other hrow
  rw [hrow.labels.value_eq]

theorem Tagging.run_alike (plan : Tagging) (h : List.Forall₂ Row.Alike rows rows') :
    List.Forall₂ Row.Alike (plan.run rows) (plan.run rows') := by
  have htag {labels other : Labels} (hlabels : labels.Alike other) (entry : String × String) :
      (tag labels entry).Alike (tag other entry) := by
    -- A tag asks whether the label reads as empty, so both sets get it or neither does.
    unfold tag
    rw [hlabels.value_eq]
    split
    · exact hlabels.insert entry.1 entry.2
    · exact hlabels
  have htags {labels other : Labels} (hlabels : labels.Alike other)
      (tags : List (String × String)) : (tags.foldl tag labels).Alike (tags.foldl tag other) := by
    induction tags generalizing labels other with
    | nil => exact hlabels
    | cons entry tags ih => exact ih (htag hlabels entry)
  refine List.rel_map (fun row other hrow => ?_) h
  exact hrow.withLabels (htags hrow.labels plan.tags)

theorem NameSelection.select_alike (plan : NameSelection)
    (h : List.Forall₂ Row.Alike rows rows') :
    List.Forall₂ Row.Alike (plan.select rows) (plan.select rows') := by
  refine List.rel_filterMap (fun row other hrow => ?_) h
  -- What is chosen depends on the labels that are there, which are the same.
  have hchosen : plan.chosen row.labels = plan.chosen other.labels := by
    unfold chosen
    simp only [hrow.labels.present?_eq]
  simp only [hchosen]
  split
  · exact .none
  · exact .some (hrow.withLabels (.refl _))

theorem NameSelection.without_alike (plan : NameSelection)
    (h : List.Forall₂ Row.Alike rows rows') :
    List.Forall₂ Row.Alike (plan.without rows) (plan.without rows') := by
  -- Whether a row is kept depends on what its labels read.
  refine List.rel_filter (fun row other hrow => ?_) h
  simp only [hrow.labels.value_eq]

theorem Projection.run_alike (plan : Projection) (h : List.Forall₂ Row.Alike rows rows') :
    List.Forall₂ Row.Alike (plan.run rows) (plan.run rows') := by
  refine List.rel_filterMap (fun row other hrow => ?_) h
  -- Both rows give the same labels, so they are dropped together or get equal label sets.
  have hsource : source? row = source? other := by
    funext name
    rw [source?, source?, hrow.labels.present?_eq, hrow.valueText_eq]
  have hlabels : plan.labels row = plan.labels other := by
    rw [labels, labels, hsource]
  simp only [hlabels]
  split
  · exact .none
  · exact .some (hrow.withLabels (.refl _))

theorem Labelling.run_alike (plan : Labelling) (time : Int)
    (h : List.Forall₂ Row.Alike rows rows') :
    List.Forall₂ Row.Alike (plan.run time rows) (plan.run time rows') := by
  cases h with
  -- Only the first row matters, and of it the sample.
  | nil => exact .nil
  | cons hrow _ =>
    refine .cons { labels := .refl plan.labels, sample_eq := ?_ } .nil
    rw [hrow.sample_eq]

theorem Distinct.compress_alike (plan : Distinct) {newest newest' : Row}
    (hnewest : newest.Alike newest') (h : List.Forall₂ Row.Alike rows rows') :
    List.Forall₂ Row.Alike (plan.compress newest rows) (plan.compress newest' rows') := by
  induction h generalizing newest newest' with
  | nil => exact .cons hnewest .nil
  | cons hrow _ ih =>
    -- Keys and times agree, so both runs go on with the rows of one place.
    rw [compress, compress, hnewest.labels.value_eq, hrow.labels.value_eq, hnewest.sample_eq,
      hrow.sample_eq]
    split
    · split
      · exact ih hrow
      · exact ih hnewest
    · exact .cons hnewest (ih hrow)

theorem Distinct.run_alike (plan : Distinct) (h : List.Forall₂ Row.Alike rows rows') :
    List.Forall₂ Row.Alike (plan.run rows) (plan.run rows') := by
  have hsorted := sortByLabel_alike plan.key h
  unfold run
  generalize sortByLabel plan.key rows = sorted, sortByLabel plan.key rows' = sorted' at hsorted ⊢
  cases hsorted with
  | nil => exact .nil
  | cons hrow hrest => exact plan.compress_alike hrow hrest

theorem Join.partnerWrites_eq {partner partner' : Row} (h : partner.Alike partner')
    (copies : List (String × String)) :
    partnerWrites copies partner = partnerWrites copies partner' := by
  have htext : partnerText? partner = partnerText? partner' := by
    funext source
    rw [partnerText?, partnerText?, h.valueText_eq, h.labels.value_eq]
  rw [partnerWrites, partnerWrites, htext]

theorem Join.partner?_alike (join : Join) (hright : List.Forall₂ Row.Alike right right')
    (key : String) : Option.Rel Row.Alike (join.partner? right key) (join.partner? right' key) := by
  unfold partner?
  split
  · exact .none
  · exact firstWith_alike _ key hright

theorem Join.nestedRow_alike (join : Join) (hright : List.Forall₂ Row.Alike right right')
    {row other : Row} (h : row.Alike other) :
    Option.Rel Row.Alike (join.nestedRow right row) (join.nestedRow right' other) := by
  have hown : ownWrites join.copies row = ownWrites join.copies other := by
    rw [ownWrites, ownWrites, h.valueText_eq]
  have hfound := join.partner?_alike hright (other.labels.value join.leftKey)
  unfold nestedRow
  rw [h.labels.value_eq, hown]
  -- The match looks at whether a partner was found, and at what is read of it.
  generalize join.partner? right _ = found, join.partner? right' _ = found' at hfound ⊢
  cases hfound with
  | none =>
    cases join.unmatched with
    | drop => exact .none
    | keep => exact .some (h.writeAll _)
  | some hpartner =>
    simp only [partnerWrites_eq hpartner]
    exact .some ((h.writeAll _).writeAll _)

theorem Join.run_alike (join : Join) (hleft : List.Forall₂ Row.Alike left left')
    (hright : List.Forall₂ Row.Alike right right') :
    List.Forall₂ Row.Alike (join.run left right) (join.run left' right') := by
  -- Joins are nested loops, and those go over sorted rows one by one.
  rw [run_eq_filterMap, run_eq_filterMap]
  refine List.rel_filterMap (fun row other hrow => ?_) (sortByLabel_alike join.leftKey hleft)
  exact join.nestedRow_alike hright hrow

theorem PartnerValue.run_alike (plan : PartnerValue) (hleft : List.Forall₂ Row.Alike left left')
    (hright : List.Forall₂ Row.Alike right right') :
    List.Forall₂ Row.Alike (plan.run left right) (plan.run left' right') := by
  refine List.rel_filterMap (fun row other hrow => ?_) hleft
  -- The key of a row is read, and then the rows of the other vector are searched.
  simp only [hrow.labels.value_eq]
  split
  · exact .some hrow
  · have hfound := firstWith_alike plan.key (other.labels.value plan.key) hright
    generalize firstWith plan.key _ right = found, firstWith plan.key _ right' = found'
      at hfound ⊢
    cases hfound with
    | none => exact .none
    | some hpartner =>
      simp only [Option.map_some, hpartner.valueText_eq]
      exact .some (hrow.setLabel plan.target _)

theorem partnerTexts_eq (keysAt : Nat → List String) {row other : Row} (hrow : row.Alike other)
    {vectors vectors' : List InstantVector}
    (h : List.Forall₂ (List.Forall₂ Row.Alike) vectors vectors') (targets : List String)
    (index : Nat) :
    partnerTexts keysAt row index vectors targets =
      partnerTexts keysAt other index vectors' targets := by
  -- Vectors are searched one after the other; the targets are used up with them.
  induction h generalizing targets index with
  | nil => rfl
  | @cons rows rows' _ _ hrows _ ih =>
    cases targets with
    | nil => rfl
    | cons target targets =>
      have hagrees (candidate candidate' : Row) (hcandidate : candidate.Alike candidate') :
          agreesOn (keysAt 0) (keysAt index) row candidate =
            agreesOn (keysAt 0) (keysAt index) other candidate' := by
        rw [agreesOn, agreesOn, funext hrow.labels.value_eq, funext hcandidate.labels.value_eq]
      have hfound := rel_find? hagrees hrows
      rw [partnerTexts, partnerTexts]
      generalize rows.find? _ = found, rows'.find? _ = found' at hfound ⊢
      cases hfound with
      | none => exact ih targets (index + 1)
      | some hpartner => simp only [hpartner.valueText_eq, ih targets (index + 1)]

theorem correlationLoop_alike (keysAt : Nat → List String) (targets : List String)
    {vectors vectors' : List InstantVector}
    (h : List.Forall₂ (List.Forall₂ Row.Alike) vectors vectors') :
    List.Forall₂ Row.Alike (correlationLoop keysAt targets vectors)
      (correlationLoop keysAt targets vectors') := by
  cases targets with
  | nil => exact .nil
  | cons target targets =>
    cases h with
    | nil => exact .nil
    | cons hfirst hothers =>
      rw [correlationLoop, correlationLoop]
      -- Rows without the keys are left out on both sides.
      refine List.rel_map (fun row other hrow => ?_)
        (List.rel_filter (fun row other hrow => ?_) hfirst)
      · rw [hrow.valueText_eq, partnerTexts_eq keysAt hrow hothers]
        exact hrow.writeAll _
      · simp only [hrow.labels.value_eq]

theorem reduce_alike (choose : List Sample → Option Sample) {matrix matrix' : RangeMatrix}
    (h : List.Forall₂ Series.Alike matrix matrix') :
    List.Forall₂ Row.Alike (reduce choose matrix) (reduce choose matrix') := by
  refine List.rel_filterMap (fun series other hseries => ?_) h
  rw [hseries.samples_eq]
  cases choose other.samples with
  | none => exact .none
  | some sample => exact .some { labels := hseries.labels, sample_eq := rfl }

end Plans

/-- Plans that read labels by their values only. -/
def Plan.ReadsValues : Plan → Prop
  | .conditional _ | .renaming _ => False
  | _ => True

/-- A plan that reads labels by their values makes alike rows of alike arguments. -/
theorem Plan.run_alike {plan : Plan} (hplan : plan.ReadsValues) (time : Int)
    {vectors vectors' : List InstantVector} {matrices matrices' : List RangeMatrix}
    (hvectors : List.Forall₂ (List.Forall₂ Row.Alike) vectors vectors')
    (hmatrices : List.Forall₂ (List.Forall₂ Series.Alike) matrices matrices') :
    List.Forall₂ Row.Alike (plan.run time vectors matrices)
      (plan.run time vectors' matrices') := by
  -- What was not passed is empty, and empty vectors are alike.
  have hfirst : List.Forall₂ Row.Alike (vectors.headD []) (vectors'.headD []) := by
    cases hvectors with
    | nil => exact .nil
    | cons hrows _ => exact hrows
  have hsecond : List.Forall₂ Row.Alike (vectors.tail.headD []) (vectors'.tail.headD []) := by
    rcases hvectors with _ | ⟨_, _ | ⟨hrows, _⟩⟩
    · exact .nil
    · exact .nil
    · exact hrows
  have hmatrix : List.Forall₂ Series.Alike (matrices.headD []) (matrices'.headD []) := by
    cases hmatrices with
    | nil => exact .nil
    | cons hseries _ => exact hseries
  -- The two plans that look at whether a label is there are excluded; all others read values.
  cases plan with
  | conditional => exact hplan.elim
  | «renaming» => exact hplan.elim
  | tagging plan => exact plan.run_alike hfirst
  | selection plan => exact plan.select_alike hfirst
  | exclusion plan => exact plan.without_alike hfirst
  | projection plan => exact plan.run_alike hfirst
  | labelling plan => exact plan.run_alike time hfirst
  | join plan => exact plan.run_alike hfirst hsecond
  | distinct plan => exact plan.run_alike hfirst
  | reduction choose => exact reduce_alike choose hmatrix
  | partnerValue plan => exact plan.run_alike hfirst hsecond
  -- Correlations are loops over the rows that agree.
  | sharedKeys plan =>
    rw [run, run, plan.run_eq_correlationLoop, plan.run_eq_correlationLoop]
    exact correlationLoop_alike _ _ hvectors
  | keyPerVector plan =>
    rw [run, run, plan.run_eq_correlationLoop, plan.run_eq_correlationLoop]
    exact correlationLoop_alike _ _ hvectors
  | union => exact List.rel_flatten hvectors

/-! ## §4 Calls -/

namespace Builtin

theorem readsValues_of_plan {function : Builtin} (hrename : function ≠ labelsRename)
    (hternary : function ≠ labelsAppendTernary) {texts : List String} {vectors : Nat} {plan : Plan}
    (h : function.plan texts vectors = .ok plan) : plan.ReadsValues := by
  -- Which plan it is follows from the function.
  cases function with
  | labelsRename => exact absurd rfl hrename
  | labelsAppendTernary => exact absurd rfl hternary
  | aggregateMatrixMax | aggregateMatrixMin | aggregateMatrixSum | vectorJoin =>
    cases h
    exact trivial
  | labelsAppendTags | labelsSelect | labelsInvert | select1 | select2 | select2Join | labelsAppend
  | distinct | labelsAppendValue | labelsAppendValues | selectn | vectorWithLabels =>
    obtain ⟨_, -, rfl⟩ := fmap_eq_ok_iff.mp h
    exact trivial

/-- A function that reads labels by their values has one outcome for alike arguments. -/
theorem call_alike {function : Builtin} (hrename : function ≠ labelsRename)
    (hternary : function ≠ labelsAppendTernary) {values others : List Value}
    (h : List.Forall₂ Value.Alike values others) (time : Int) :
    SameOutcome Value.Alike (function.call time values) (function.call time others) := by
  have hrows : SameOutcome (List.Forall₂ Row.Alike) (function.rows time values)
      (function.rows time others) := by
    apply function.rows_sameOutcome (fun _ _ => Value.Alike.sameParameter)
      (fun _ _ => Value.Alike.passedAs) _ h
    intro taken taken' htaken plan hplan
    have hreads := readsValues_of_plan hrename hternary hplan
    exact Plan.run_alike hreads time (Value.Alike.vectors htaken) (Value.Alike.matrices htaken)
  apply hrows.bind
  intro out out' hout
  exact .ok (.vector hout)

end Builtin

namespace Value

/-- What is alike is the same without empty labels. -/
theorem Alike.withoutEmpty_eq {value other : Value} (h : value.Alike other) :
    value.withoutEmpty = other.withoutEmpty := by
  cases h with
  | vector h =>
    have hrows := List.rel_map (fun _ _ hrow => Row.Alike.withoutEmpty_eq hrow) h
    exact congrArg Value.vector (List.forall₂_eq_eq_eq ▸ hrows)
  | matrix h =>
    have hseries := List.rel_map (fun _ _ hone => Series.Alike.withoutEmpty_eq hone) h
    exact congrArg Value.matrix (List.forall₂_eq_eq_eq ▸ hseries)
  | scalar | text | none => rfl

end Value

/-- **Empty labels count as missing.**  But for a renaming and for expressions, a call whose
    arguments are stripped of their empty labels fails with the fault of the call with them, or both
    succeed and give the same up to empty labels. -/
theorem FunctionTable.call_withoutEmpty {function : Builtin} (hrename : function ≠ .labelsRename)
    (hternary : function ≠ .labelsAppendTernary) (values : List Value) (time : Int) :
    SameOutcome (fun stripped given => stripped.withoutEmpty = given.withoutEmpty)
      (builtin.call function.name (values.map Value.withoutEmpty) time)
      (builtin.call function.name values time) := by
  have halike : List.Forall₂ Value.Alike (values.map Value.withoutEmpty) values := by
    rw [List.forall₂_map_left_iff, List.forall₂_same]
    intro value _
    exact .withoutEmpty value
  rw [call_builtin, call_builtin]
  apply (Builtin.call_alike hrename hternary halike time).imp
  intro stripped given h
  exact h.withoutEmpty_eq

/-- A join finds no partner for a row with an empty key, as for one without the key. -/
theorem FunctionTable.call_withoutEmpty_of_empty_key :
    let sample : Sample := { time := 7, value := 1.5 }
    let left : InstantVector := [{ labels := { entries := [("app", "db"), ("pod", "")] }, sample }]
    let right : InstantVector :=
      [{ labels := { entries := [("node", "n1"), ("pod", "")] }, sample }]
    SameOutcome (fun stripped given => stripped.withoutEmpty = given.withoutEmpty)
      (builtin.call "select2_join"
        [.text "pod|pod", .vector [{ labels := .singleton "app" "db", sample }],
          .vector [{ labels := .singleton "node" "n1", sample }], .text "node"] 0)
      (builtin.call "select2_join" [.text "pod|pod", .vector left, .vector right, .text "node"]
        0) := by
  intro sample left right
  exact call_withoutEmpty (show Builtin.select2Join ≠ .labelsRename by decide) (by decide)
    [.text "pod|pod", .vector left, .vector right, .text "node"] 0

/-- A renaming moves an empty label over the one that has the new name. -/
example :
    let plan : Renaming := { renames := [("job", "app")] }
    let labels : Labels := { entries := [("app", "db"), ("job", "")] }
    (plan.apply labels).withoutEmpty ≠ (plan.apply labels.withoutEmpty).withoutEmpty := by
  decide

end LabeledSeries
