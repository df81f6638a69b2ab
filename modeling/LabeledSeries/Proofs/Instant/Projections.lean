import Mathlib.Data.List.Induction
import LabeledSeries.Proofs.Call.EmptyLabels
import LabeledSeries.Proofs.Call.Stages
import LabeledSeries.Proofs.Instant.ParameterTexts

/-!
# What projections keep

A projection makes the labels of each row afresh, copy by copy.  A copy whose source the row lacks
writes nothing and takes nothing away, so a name ends with what the last copy to it gives, among
those that the row gives anything for, and a row is dropped if there are none at all.

§1 says what a row gives for a source and what copies leave under a name (`Projection.Takes`), and
§2 that running them leaves just that.  It is an induction over the copies with one more at the end
(`Projection.Takes.concat`).

§3 is about names that are selected or excluded.  A selection is the projection of each name onto
itself, as long as it does not name the value of the row, and the rows that it drops are those that
the exclusion of the same names keeps.  §4 states both for calls (`Projection.calls_take_last` and
`NameSelection.calls_split`).
-/

namespace LabeledSeries

namespace Projection

/-! ## §1 The meaning of copies -/

/-- The text that a row gives for a source: the label of that name if it is not empty, and
    otherwise, where the source is the value name, the row's value. -/
inductive Gives (row : Row) : String → String → Prop where
  | label {source value : String} (hlabel : row.labels.get? source = some value)
      (hvalue : value ≠ "") : Gives row source value
  | own (hlabel : ∀ value, row.labels.get? "__v__0" = some value → value = "") :
      Gives row "__v__0" (valueText row.sample.value)

/-- What copies leave under a name: what the row gives for the last of the copies to that name that
    it gives anything for, and nothing if there is none. -/
inductive Takes (copies : List (String × String)) (row : Row) (name : String) :
    Option String → Prop where
  | last {before after : List (String × String)} {source value : String}
      (hcopies : copies = before ++ (source, name) :: after) (hgives : Gives row source value)
      (hafter : ∀ other, (other, name) ∈ after → ∀ value, ¬Gives row other value) :
      Takes copies row name (some value)
  | missing (hnone : ∀ other, (other, name) ∈ copies → ∀ value, ¬Gives row other value) :
      Takes copies row name none

/-- What copies make of a row: one with the same sample and what they leave under each name, unless
    the row has none of the sources. -/
inductive Projects (copies : List (String × String)) (row : Row) : Option Row → Prop where
  | kept {labels : Labels} (hascending : Ascending labels.entries)
      (hsource : ∃ copy ∈ copies, (∃ value, row.labels.get? copy.1 = some value ∧ value ≠ "") ∨
        copy.1 = "__v__0")
      (hlabels : ∀ name, Takes copies row name (labels.get? name)) :
      Projects copies row (some ⟨labels, row.sample⟩)
  | dropped (hnone : ∀ copy ∈ copies,
        (∀ value, row.labels.get? copy.1 = some value → value = "") ∧ copy.1 ≠ "__v__0") :
      Projects copies row none

variable {row : Row} {source name : String} {copies : List (String × String)}

/-- A source gives something just if the row has it as a label that is not empty, or it means the
    value. -/
theorem exists_gives_iff :
    (∃ value, Gives row source value) ↔
      (∃ value, row.labels.get? source = some value ∧ value ≠ "") ∨ source = "__v__0" := by
  constructor
  · -- Either way of giving names the source.
    rintro ⟨_, hgives⟩
    cases hgives with
    | label hlabel hvalue => exact .inl ⟨_, hlabel, hvalue⟩
    | own hlabel => exact .inr rfl
  · rintro (⟨value, hlabel, hvalue⟩ | rfl)
    · exact ⟨value, .label hlabel hvalue⟩
    · -- The value counts only where no label of that name does.
      by_cases hempty : ∀ value, row.labels.get? "__v__0" = some value → value = ""
      · exact ⟨_, .own hempty⟩
      · push Not at hempty
        obtain ⟨value, hlabel, hvalue⟩ := hempty
        exact ⟨value, .label hlabel hvalue⟩

theorem source?_eq_some_iff {value : String} :
    source? row source = some value ↔ Gives row source value := by
  rw [source?]
  cases hpresent : row.labels.present? source with
  -- A label that is not empty is given, under the value name as well.
  | some text =>
    obtain ⟨hlabel, htext⟩ := Option.filter_eq_some_iff.mp hpresent
    rw [bne_iff_ne] at htext
    constructor
    · rintro ⟨⟩
      exact .label hlabel htext
    · intro hgives
      cases hgives with
      | label hother => rw [← hlabel, hother]
      | own hempty => exact absurd (hempty text hlabel) htext
  -- Without such a label the row gives its value under the value name, and nothing else.
  | none =>
    have hempty : ∀ value, row.labels.get? source = some value → value = "" := by
      simpa [Labels.present?, Option.filter_eq_none_iff] using hpresent
    constructor
    · intro hown
      obtain ⟨rfl, rfl⟩ : source = ownValue ∧ row.valueText = value := by simpa using hown
      exact .own hempty
    · intro hgives
      cases hgives with
      | label hlabel hvalue => exact absurd (hempty value hlabel) hvalue
      | own => rfl

/-! ## §2 Running copies -/

/-- The labels of a row are what its sources give, stored one after the other. -/
theorem labels_eq_ofList (copies : List (String × String)) (row : Row) :
    labels ⟨copies⟩ row = NameMap.ofList
      (copies.filterMap fun copy => (source? row copy.1).map fun value => (copy.2, value)) := by
  rw [labels, NameMap.ofList, NameMap.insertAll, List.foldl_filterMap]
  congr 1
  funext labels copy
  cases source? row copy.1 <;> rfl

theorem labels_concat (copies : List (String × String)) (copy : String × String) (row : Row) :
    (labels ⟨copies ++ [copy]⟩ row).get? name =
      (if copy.2 = name then source? row copy.1 else none).or
        ((labels ⟨copies⟩ row).get? name) := by
  rw [labels, List.foldl_append]
  cases hsource : source? row copy.1 with
  | none => simp [hsource, labels]
  | some value =>
    by_cases hname : copy.2 = name <;> simp [hsource, hname, labels]

/-- A copy that writes nothing under a name changes nothing there. -/
theorem Takes.concat {taken : Option String} (h : Takes copies row name taken)
    {copy : String × String} (hidle : copy.2 = name → ∀ value, ¬Gives row copy.1 value) :
    Takes (copies ++ [copy]) row name taken := by
  -- The copies so far and this one together still have nothing later for the name.
  have hcopy : ∀ other, (other, name) ∈ [copy] → ∀ value, ¬Gives row other value := by
    intro other hmem
    obtain rfl := List.mem_singleton.mp hmem
    exact hidle rfl
  cases h with
  | last hcopies hgives hafter =>
    refine .last (by rw [hcopies, List.append_assoc, List.cons_append]) hgives fun other hmem => ?_
    exact (List.mem_append.mp hmem).elim (hafter other) (hcopy other)
  | missing hnone =>
    exact .missing fun other hmem => (List.mem_append.mp hmem).elim (hnone other) (hcopy other)

/-- **What copies leave under a name**. -/
theorem takes_labels (copies : List (String × String)) (row : Row) (name : String) :
    Takes copies row name ((labels ⟨copies⟩ row).get? name) := by
  -- Copies run from the first to the last, so the induction adds one at the end.
  induction copies using List.reverseRecOn with
  | nil => exact .missing (by simp)
  | append_singleton copies copy ih =>
    obtain ⟨source, target⟩ := copy
    rw [labels_concat]
    cases hsource : source? row source with
    | none =>
      -- The row has no source for it, so the copy is idle for every name.
      rw [ite_self, Option.none_or]
      refine ih.concat fun _ value hgives => ?_
      rw [source?_eq_some_iff.mpr hgives] at hsource
      cases hsource
    | some value =>
      by_cases hname : target = name
      · -- The newest copy to the name is the last that gives anything.
        subst hname
        simpa using .last rfl (source?_eq_some_iff.mp hsource) (by simp)
      · simpa [hname] using ih.concat fun heq => absurd heq hname

/-- Nothing is left under a name just if the row gives nothing for any copy to it. -/
theorem Takes.eq_none_iff {taken : Option String} (h : Takes copies row name taken) :
    taken = none ↔ ∀ other, (other, name) ∈ copies → ∀ value, ¬Gives row other value := by
  cases h with
  | last hcopies hgives _ =>
    simp only [reduceCtorEq, false_iff, not_forall, not_not]
    exact ⟨_, by simp [hcopies], _, hgives⟩
  | missing hnone => exact iff_of_true rfl hnone

/-- What copies make of a row, if anything. -/
def project (copies : List (String × String)) (row : Row) : Option Row :=
  if (labels ⟨copies⟩ row).isEmpty then none else some (row.withLabels (labels ⟨copies⟩ row))

/-- **Projecting** a row is what the copies say. -/
theorem projects_project (copies : List (String × String)) (row : Row) :
    Projects copies row (project copies row) := by
  -- No label was stored just if no copy gave anything.
  have hempty : (labels ⟨copies⟩ row).isEmpty = true ↔
      ∀ copy ∈ copies, ¬∃ value, Gives row copy.1 value := by
    simp only [NameMap.isEmpty_iff, (takes_labels copies row _).eq_none_iff, not_exists]
    exact ⟨fun h copy hcopy => h copy.2 copy.1 hcopy, fun h name other => h (other, name)⟩
  simp only [exists_gives_iff, not_or, not_exists, not_and, not_not] at hempty
  -- A row without any label is dropped.
  unfold project
  split
  · rename_i h
    exact .dropped (hempty.mp h)
  · rename_i h
    refine .kept (NameMap.ascending _) ?_ (takes_labels copies row)
    by_contra hnone
    push Not at hnone
    exact h (hempty.mpr hnone)

end Projection

/-! ## §3 Names -/

namespace NameSelection

variable {names : List String} {row : Row}

/-- A selection is a projection of names onto themselves. -/
theorem select_eq_run (hown : "__v__0" ∉ names) (rows : InstantVector) :
    select ⟨names⟩ rows = Projection.run ⟨names.map fun name => (name, name)⟩ rows := by
  unfold select Projection.run
  refine List.filterMap_congr fun row _ => ?_
  -- Without the value name a source is a label and nothing else.
  have hsource : ∀ name ∈ names, Projection.source? row name = row.labels.present? name := by
    intro name hname
    have hvalue : name ≠ ownValue := by
      rintro rfl
      exact hown hname
    rw [Projection.source?, if_neg hvalue]
    cases row.labels.present? name <;> rfl
  have hlabels : Projection.labels ⟨names.map fun name => (name, name)⟩ row =
      NameMap.ofList (chosen ⟨names⟩ row.labels) := by
    rw [Projection.labels_eq_ofList, List.filterMap_map]
    -- The same names give the same labels in the same order.
    refine congrArg NameMap.ofList (List.filterMap_congr fun name hname => ?_)
    exact congrArg (Option.map _) (hsource name hname)
  simp only [hlabels, NameMap.isEmpty_ofList]

/-- A vector in two parts, position by position: a row that has one of the names is in the first
    part, narrowed to those of the names that it has, and a row that has none of them is in the
    second part as it is. -/
inductive Splits (names : List String) : InstantVector → InstantVector → InstantVector → Prop where
  | nil : Splits names [] [] []
  | selected {row : Row} {labels : Labels} {rows selected others : InstantVector}
      (hsome : ∃ name ∈ names, ∃ value, row.labels.get? name = some value ∧ value ≠ "")
      (hlabels : ∀ name value, labels.get? name = some value ↔
        name ∈ names ∧ row.labels.get? name = some value ∧ value ≠ "")
      (h : Splits names rows selected others) :
      Splits names (row :: rows) (⟨labels, row.sample⟩ :: selected) others
  | other {row : Row} {rows selected others : InstantVector}
      (hnone : ∀ name ∈ names, ∀ value, row.labels.get? name = some value → value = "")
      (h : Splits names rows selected others) :
      Splits names (row :: rows) selected (row :: others)

theorem Splits.length_add {rows selected others : InstantVector}
    (h : Splits names rows selected others) :
    selected.length + others.length = rows.length := by
  induction h with
  | nil => rfl
  | selected _ _ _ ih | other _ _ ih =>
    simp only [List.length_cons]
    omega

theorem get?_ofList_chosen (names : List String) (labels : Labels) (name : String) :
    (NameMap.ofList (chosen ⟨names⟩ labels)).get? name =
      if name ∈ names then labels.present? name else none := by
  -- A name that is listed twice is stored with the same value both times.
  rw [NameMap.ofList, NameMap.get?_insertAll, NameMap.get?_empty, Option.or_none, chosen,
    ← List.filterMap_reverse, NameMap.lookup_filterMap]
  simp only [List.mem_reverse]

/-- Nothing is chosen from a row just if it is excluded. -/
theorem chosen_eq_nil_iff {labels : Labels} :
    chosen ⟨names⟩ labels = [] ↔ ∀ name ∈ names, labels.value name = "" := by
  simp [chosen, List.filterMap_eq_nil_iff, Labels.present?_eq_if]

/-- **Selection and exclusion** of the same names split a vector. -/
theorem splits_select_without (names : List String) (rows : InstantVector) :
    Splits names rows (select ⟨names⟩ rows) (without ⟨names⟩ rows) := by
  induction rows with
  | nil => exact .nil
  | cons row rows ih =>
    by_cases hnone : ∀ name ∈ names, row.labels.value name = ""
    · -- A row without the names is skipped by one function and kept by the other.
      have hselect : select ⟨names⟩ (row :: rows) = select ⟨names⟩ rows := by
        simp [select, chosen_eq_nil_iff.mpr hnone]
      have hwithout : without ⟨names⟩ (row :: rows) = row :: without ⟨names⟩ rows :=
        List.filter_cons_of_pos (by simpa using hnone)
      rw [hselect, hwithout]
      exact .other (fun name hname => Labels.value_eq_empty_iff.mp (hnone name hname)) ih
    · -- A row with one of the names is narrowed by one function and dropped by the other.
      have hchosen : chosen ⟨names⟩ row.labels ≠ [] := mt chosen_eq_nil_iff.mp hnone
      have hselect : select ⟨names⟩ (row :: rows) =
          row.withLabels (NameMap.ofList (chosen ⟨names⟩ row.labels)) :: select ⟨names⟩ rows := by
        simp [select, hchosen]
      have hwithout : without ⟨names⟩ (row :: rows) = without ⟨names⟩ rows :=
        List.filter_cons_of_neg (by simpa using hnone)
      rw [hselect, hwithout]
      refine .selected ?_ (fun name value => ?_) ih
      · simp only [Labels.value_eq_empty_iff] at hnone
        push Not at hnone
        exact hnone
      · rw [get?_ofList_chosen, Labels.present?, Option.ite_none_right_eq_some,
          Option.filter_eq_some_iff, bne_iff_ne]

/-- Nothing is selected from what is excluded. -/
theorem select_without (names : List String) (rows : InstantVector) :
    select ⟨names⟩ (without ⟨names⟩ rows) = [] := by
  refine List.filterMap_eq_nil_iff.mpr fun row hrow => ?_
  have hnone : ∀ name ∈ names, row.labels.value name = "" := by
    simpa using (List.mem_filter.mp hrow).2
  simp [chosen_eq_nil_iff.mpr hnone]

end NameSelection

/-! ## §4 Calls -/

theorem Parameters.copySpecs_names (function : String) {names : List String}
    (h : ∀ name ∈ names, Text.isLabelName name = true) :
    copySpecs function names = .ok (names.map fun name => (name, name)) := by
  induction names with
  | nil => rfl
  | cons name names ih =>
    -- A name on its own means a copy onto itself.
    rw [List.forall_mem_cons] at h
    have hname : namePair function ':' name = .ok (name, name) :=
      namePair_name (by decide) function h.1
    rw [copySpecs, hname, ih h.2]
    rfl

theorem Projection.call_eq {specs : List String} {copies : List (String × String)}
    (h : Parameters.copySpecs "select1" specs = .ok copies) (time : Int) (rows : InstantVector) :
    Builtin.select1.call time (.vector rows :: specs.map .text) =
      .ok (.vector (run ⟨copies⟩ rows)) := by
  rw [Builtin.call, Builtin.rows_of_texts rfl, Builtin.plan, Builtin.name, ofSpecs, h]
  rfl

namespace NameSelection

variable {names : List String} (h : ∀ name ∈ names, Text.isLabelName name = true)

include h

theorem call_select (time : Int) (rows : InstantVector) :
    Builtin.labelsSelect.call time (.vector rows :: names.map .text) =
      .ok (.vector (select ⟨names⟩ rows)) := by
  rw [Builtin.call, Builtin.rows_of_texts rfl, Builtin.plan, ofNames,
    Parameters.checkNames_eq_ok_iff.mpr h]
  rfl

theorem call_without (time : Int) (rows : InstantVector) :
    Builtin.labelsInvert.call time (.vector rows :: names.map .text) =
      .ok (.vector (without ⟨names⟩ rows)) := by
  rw [Builtin.call, Builtin.rows_of_texts rfl, Builtin.plan, ofNames,
    Parameters.checkNames_eq_ok_iff.mpr h]
  rfl

end NameSelection

/-- **Projections take the last copy**: the function makes each row afresh of what its copies leave
    under each name, and keeps it just if the row has a source of some copy that is not empty, or
    some copy asks for the row's value.  The rows stay in order, with their samples.  Selecting
    label names is the projection that takes each name over, unless one of them is the value
    name. -/
theorem Projection.calls_take_last (time : Int) :
    let call (rows : InstantVector) (specs : List String) : Except Fault Value :=
      Builtin.select1.call time (.vector rows :: specs.map .text)
    (∀ specs copies, Parameters.copySpecs "select1" specs = .ok copies →
      ∃ project : Row → Option Row,
        (∀ rows, call rows specs = .ok (.vector (rows.filterMap project))) ∧
          ∀ row, Projects copies row (project row)) ∧
    ∀ names, (∀ name ∈ names, Text.isLabelName name = true) → "__v__0" ∉ names →
      ∀ rows, Builtin.labelsSelect.call time (.vector rows :: names.map .text) =
        call rows names := by
  intro call
  refine ⟨fun specs copies hspecs => ?_, fun names hnames hown rows => ?_⟩
  · -- Reading the copies is the only step of the call that can fail.
    exact ⟨project copies, fun rows => call_eq hspecs time rows, projects_project copies⟩
  · have hspecs := Parameters.copySpecs_names "select1" hnames
    rw [NameSelection.call_select hnames, NameSelection.select_eq_run hown,
      ← call_eq hspecs time rows]

/-- A later copy to a name counts only where the row has its source, and a label under the value
    name counts before the value. -/
theorem Projection.calls_take_last_of_pods :
    let call (rows : InstantVector) (specs : List String) : Except Fault Value :=
      Builtin.select1.call 0 (.vector rows :: specs.map .text)
    let specs := ["ip:host", " pod : host", "__v__0:usage", "__v__0:usage"]
    let copies := [("ip", "host"), ("pod", "host"), ("__v__0", "usage"), ("__v__0", "usage")]
    let rows : InstantVector := [⟨{ entries := [("ip", "1"), ("pod", "a")] }, ⟨0, 2⟩⟩,
      ⟨{ entries := [("__v__0", "x"), ("ip", "1"), ("pod", "")] }, ⟨0, 3⟩⟩]
    let names := ["pod", "ip", "pod"]
    Parameters.copySpecs "select1" specs = .ok copies ∧
    (∀ name ∈ names, Text.isLabelName name = true) ∧ "__v__0" ∉ names ∧
    (∃ kept : InstantVector, call rows specs = .ok (.vector kept) ∧
      kept.map (fun row => row.labels.entries) =
        [[("host", "a"), ("usage", "2")], [("host", "1"), ("usage", "x")]]) ∧
    (∃ project : Row → Option Row,
      (∀ rows, call rows specs = .ok (.vector (rows.filterMap project))) ∧
        ∀ row, Projects copies row (project row)) ∧
    Builtin.labelsSelect.call 0 (.vector rows :: names.map .text) = call rows names := by
  intro call specs copies rows names
  have hspecs : Parameters.copySpecs "select1" specs = .ok copies := by decide
  have hnames : ∀ name ∈ names, Text.isLabelName name = true := by decide
  have hown : "__v__0" ∉ names := by decide
  exact ⟨hspecs, hnames, hown, ⟨_, call_eq hspecs 0 rows, by decide +kernel⟩,
    (calls_take_last 0).1 specs copies hspecs, (calls_take_last 0).2 names hnames hown rows⟩

/-- **Selection and exclusion part a vector**: with label names neither function fails, and each row
    is taken by just one of them, by the one narrowed to the names and by the other as it is, both
    in order.  So there are as many rows in both parts as in the vector, and nothing is selected
    from the part that is excluded. -/
theorem NameSelection.calls_split (time : Int) {names : List String}
    (h : ∀ name ∈ names, Text.isLabelName name = true) (rows : InstantVector) :
    let select (rows : InstantVector) : Except Fault Value :=
      Builtin.labelsSelect.call time (.vector rows :: names.map .text)
    let invert (rows : InstantVector) : Except Fault Value :=
      Builtin.labelsInvert.call time (.vector rows :: names.map .text)
    ∃ selected others, select rows = .ok (.vector selected) ∧
      invert rows = .ok (.vector others) ∧ Splits names rows selected others ∧
      selected.length + others.length = rows.length ∧ select others = .ok (.vector []) := by
  intro select invert
  have hsplits := splits_select_without names rows
  -- The excluded part is given to the selection again, which finds nothing in it.
  refine ⟨_, _, call_select h time rows, call_without h time rows, hsplits, hsplits.length_add, ?_⟩
  rw [← select_without names rows]
  exact call_select h time _

/-- A name is listed twice, and an empty label does not count. -/
theorem NameSelection.calls_split_of_teams :
    let names := ["owner", "team", "owner"]
    let select (rows : InstantVector) : Except Fault Value :=
      Builtin.labelsSelect.call 0 (.vector rows :: names.map .text)
    let owned : Row := ⟨{ entries := [("owner", "x"), ("pod", "a"), ("team", "")] }, ⟨0, 1⟩⟩
    let other : Row := ⟨{ entries := [("pod", "b"), ("team", "")] }, ⟨0, 2⟩⟩
    (∀ name ∈ names, Text.isLabelName name = true) ∧
    select [other, owned, other] = .ok (.vector [⟨.singleton "owner" "x", ⟨0, 1⟩⟩]) ∧
    ∃ selected others, select [other, owned, other] = .ok (.vector selected) ∧
      Builtin.labelsInvert.call 0 (.vector [other, owned, other] :: names.map .text) =
        .ok (.vector others) ∧
      Splits names [other, owned, other] selected others ∧ selected.length + others.length = 3 ∧
      select others = .ok (.vector []) := by
  intro names select owned other
  have hnames : ∀ name ∈ names, Text.isLabelName name = true := by decide
  have howned : NameMap.ofList [("owner", "x"), ("owner", "x")] = .singleton "owner" "x" := by
    decide
  have hselected :
      NameSelection.select ⟨names⟩ [other, owned, other] = [⟨.singleton "owner" "x", ⟨0, 1⟩⟩] := by
    simp [NameSelection.select, chosen, names, owned, other, Labels.present?,
      NameMap.get?_eq_lookup, NameMap.lookup, Row.withLabels, howned]
  refine ⟨hnames, ?_, calls_split 0 hnames [other, owned, other]⟩
  rw [← hselected]
  exact call_select hnames 0 _

end LabeledSeries
