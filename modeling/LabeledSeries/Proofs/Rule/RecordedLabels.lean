import LabeledSeries.Proofs.Engine.InstantAndRange
import LabeledSeries.Proofs.Fallible
import LabeledSeries.Proofs.Rule.Pipeline

/-!
# The labels of recorded rows

What a rule records is read back by other queries, so its rows have to be label sets like those of
stored series: in the order of their names, as all label sets are, and without empty labels.

§1 `Labels.Clean` is the second property, with one lemma for each way to change a label set.
Storing through `Labels.assign` keeps it whatever is stored; `NameMap.insert` keeps it only if what
is stored is not empty.

§2 Rows that an engine answers with are clean, since empty cells of a table are no labels.

§3 What the filters that look up pods do depends on the one answer that they get
(`Pod.enrich_eq`, `Pod.derive_eq`).  The filters of the library store through `Labels.assign` alone,
so they keep clean labels clean whatever texts they decode and whatever rows their sub-queries
bring.  A run of filters and the labels of the rule do not change that
(`Engine.recorded_labels_clean`).

§4 The name of a recorded row is that of the record, unless the rule labels its rows with another
one (`RecordingRule.recorded_name`).
-/

namespace LabeledSeries

/-! ## §1 Clean label sets -/

/-- Label sets in which no value is empty. -/
def Labels.Clean (labels : Labels) : Prop := ∀ entry ∈ labels.entries, entry.2 ≠ ""

namespace Labels.Clean

variable {labels : Labels}

theorem empty : Labels.Clean NameMap.empty := fun _ hentry => nomatch hentry

theorem insert (h : labels.Clean) (name : String) {text : String} (htext : text ≠ "") :
    Labels.Clean (labels.insert name text) := by
  rintro ⟨other, held⟩ hentry
  rw [NameMap.mem_entries_iff, NameMap.get?_insert] at hentry
  -- The entry is the one that is stored, or it was there before.
  split at hentry
  · cases hentry
    exact htext
  · exact h _ (NameMap.mem_entries_iff.mpr hentry)

theorem erase (h : labels.Clean) (name : String) : Labels.Clean (labels.erase name) := by
  intro entry hentry
  rw [NameMap.entries_erase] at hentry
  exact h entry (List.mem_of_mem_filter hentry)

/-- The empty value removes the label, so nothing empty is stored. -/
theorem assign (h : labels.Clean) (name text : String) :
    Labels.Clean (labels.assign name text) := by
  unfold Labels.assign
  split
  · exact h.erase name
  · rename_i htext
    exact h.insert name htext

theorem assignAll (h : labels.Clean) (entries : List (String × String)) :
    Labels.Clean (labels.assignAll entries) := by
  -- Every assignment keeps the labels clean, whatever its text.
  induction entries generalizing labels with
  | nil => exact h
  | cons entry entries ih => exact ih (h.assign entry.1 entry.2)

theorem insertAll (h : labels.Clean) {entries : List (String × String)}
    (hentries : ∀ entry ∈ entries, entry.2 ≠ "") : Labels.Clean (labels.insertAll entries) := by
  induction entries generalizing labels with
  | nil => exact h
  | cons entry entries ih =>
    obtain ⟨hfirst, hrest⟩ := List.forall_mem_cons.mp hentries
    exact ih (h.insert entry.1 hfirst) hrest

end Labels.Clean

/-! ## §2 Rows of an engine -/

/-- The labels of a row are read off its cells of text that are not empty. -/
theorem Table.clean_labels (table : Table) (row : List Cell) : (table.labels row).Clean := by
  refine Labels.Clean.empty.insertAll fun entry hentry => ?_
  obtain ⟨⟨column, cell⟩, -, hcell⟩ := List.mem_filterMap.mp hentry
  -- Only text can be a label, and only if it is not empty.
  cases cell with
  | text s =>
    dsimp only at hcell
    split at hcell
    · rename_i hlabel
      cases hcell
      simpa using (Bool.and_eq_true_iff.mp hlabel).2
    · cases hcell
  | _ => cases hcell

theorem Table.clean_of_mem_selected {table : Table} {conditions : List Condition}
    {window : Time.Window} {series : Series}
    (h : series ∈ table.selected conditions window) : series.labels.Clean := by
  obtain ⟨row, -, hlabels⟩ := Table.exists_row_of_mem_selected h
  rw [hlabels]
  exact table.clean_labels row

theorem Store.clean_of_select {store : Store} {metric : String} {conditions : List Condition}
    {window : Time.Window} {selected : List Series}
    (h : store.select metric conditions window = .ok selected) :
    ∀ series ∈ selected, series.labels.Clean := by
  unfold Store.select at h
  -- Without the table there are no series.
  split at h
  · cases h
    simp
  · obtain ⟨-, rfl⟩ := Table.select_eq_ok_iff.mp h
    exact fun series => Table.clean_of_mem_selected

namespace Engine

variable {engine : Engine} {time : Int}

theorem clean_of_selectInstant {selector : Query.Selector} {rows : InstantVector}
    -- The rows are the latest samples of series that the store selects.
    (h : engine.selectInstant selector time = .ok rows) : ∀ row ∈ rows, row.labels.Clean := by
  obtain ⟨selected, hselected, rfl⟩ := map_eq_ok_iff.mp h
  obtain ⟨metric, -, hconditions⟩ := bind_eq_ok_iff.mp hselected
  obtain ⟨conditions, -, hseries⟩ := bind_eq_ok_iff.mp hconditions
  intro row hrow
  obtain ⟨series, hmem, hlatest⟩ := List.mem_filterMap.mp hrow
  obtain ⟨sample, -, rfl⟩ := Option.map_eq_some_iff.mp hlatest
  exact Store.clean_of_select hseries series hmem

/-- Whatever expression an engine answers with rows, their labels are clean. -/
theorem clean_of_queryRows {text : String} {rows : InstantVector}
    (h : engine.queryRows text time = .ok rows) : ∀ row ∈ rows, row.labels.Clean := by
  by_cases hrows : rows = []
  · simp [hrows]
  · obtain ⟨_, selector, -, -, hselect⟩ := queryRows_eq_ok h hrows
    exact clean_of_selectInstant hselect

end Engine

/-! ## §3 Filters and rules -/

/-- What is kept when a label is taken out and its text is stored, the decoding of all labels
    keeps. -/
theorem Decode.decodeAll_induction {motive : Labels → Prop} {labels : Labels} (h : motive labels)
    (hstep : ∀ result name plain text, motive result →
      motive (Labels.assign (NameMap.erase result name) plain text)) :
    motive (Decode.decodeAll labels) := by
  -- Decoding is a loop over the labels as they were at first; a step that replaces nothing is idle.
  refine List.foldlRecOn (motive := motive) _ _ h fun result hresult entry _ => ?_
  unfold replace
  dsimp only
  split
  · exact hstep _ _ _ _ hresult
  · exact hresult

/-- Every encoded label is taken out, and its text is stored as by a builder. -/
theorem Decode.clean_decodeAll {labels : Labels} (h : labels.Clean) :
    (Decode.decodeAll labels).Clean :=
  decodeAll_induction h fun _ _ _ _ hresult => (hresult.erase _).assign _ _

/-- A question is answered and recorded, and what comes then is told the answer. -/
theorem Asking.run_ask_bind {α : Type} (query : SubQuery) (expr : String) (time : Int)
    (next : Except Fault InstantVector → Asking α) (asked : List (String × Int)) :
    ((ask expr time >>= next).run query).run asked =
      ((next (query expr time)).run query).run (asked ++ [(expr, time)]) := rfl

namespace Pod

variable {labels : Labels}

/-- The filter that enriches rows asks once for the pod, if the row names one. -/
theorem enrich_eq (query : SubQuery) (time : Int) (labels : Labels) :
    enrich query time labels =
      match name? labels with
      | none => { labels, keep := true, asked := [] }
      | some pod =>
        { labels := (row? (query (selector "kube_pod_labels" pod) time)).elim labels fun row =>
            identify row.labels (copyLabels hashNames row.labels labels)
          keep := true, asked := [(selector "kube_pod_labels" pod, time)] } := by
  unfold enrich Filter.asking
  -- Without a name nothing is asked.
  cases hname : name? labels with
  | none =>
    simp only [hname]
    rfl
  | some pod =>
    simp only [hname, Asking.run_ask_bind]
    cases row? (query (selector "kube_pod_labels" pod) time) <;> rfl

/-- The filter that derives metrics asks once for the pod, if the row has no mark and names one. -/
theorem derive_eq (query : SubQuery) (time : Int) (labels : Labels) :
    derive query time labels =
      if labels.contains derivedLabel then { labels, keep := false, asked := [] }
      else match name? labels with
        | none => { labels, keep := false, asked := [] }
        | some pod =>
          { labels :=
              ((row? (query (selector "kube_pod_labels_ch" pod) time)).elim labels fun row =>
                copyLabels ["pod_template_hash"] row.labels labels).assign derivedLabel derivedValue
            keep := true, asked := [(selector "kube_pod_labels_ch" pod, time)] } := by
  unfold derive Filter.asking
  -- The mark is looked for first, so a marked row asks nothing.
  by_cases hmark : labels.contains derivedLabel
  · simp only [hmark, if_true]
    rfl
  · cases hname : name? labels with
    | none =>
      simp only [hmark, hname, Bool.false_eq_true, if_false]
      rfl
    | some pod =>
      simp only [hmark, hname, Bool.false_eq_true, if_false, Asking.run_ask_bind]
      cases row? (query (selector "kube_pod_labels_ch" pod) time) <;> rfl

theorem clean_identify (h : labels.Clean) (pod : Labels) : (identify pod labels).Clean := by
  unfold identify
  dsimp only
  split_ifs
  · exact h
  · -- Identifying stores one label at most.
    exact h.assign _ _
  · exact h.assign _ _
  · exact h

theorem clean_enrich (h : labels.Clean) (query : SubQuery) (time : Int) :
    (enrich query time labels).labels.Clean := by
  rw [enrich_eq]
  split
  · exact h
  · -- The labels of the pod are copied as by a builder, which stores no empty ones.
    cases row? _ with
    | none => exact h
    | some row => exact clean_identify (h.assignAll _) _

theorem clean_derive (h : labels.Clean) (query : SubQuery) (time : Int) :
    (derive query time labels).labels.Clean := by
  rw [derive_eq]
  split_ifs
  · exact h
  · split
    · exact h
    · cases row? _ with
      | none => exact h.assign _ _
      | some row => exact (h.assignAll _).assign _ _

end Pod

namespace FilterRegistry

/-- The filters of the library by name; a name that is none of theirs changes nothing. -/
theorem apply_builtin (name : String) :
    builtin.apply name =
      if name = "app_label_2_ch" then Decode.filter
      else if name = "app_append_labels" then Pod.enrich
      else if name = "app_define_metric" then Pod.derive
      else fun _ _ labels => { labels, keep := true, asked := [] } := by
  -- The filters are registered under different names, so each is found under its own.
  have hget : builtin.get? name =
      NameMap.lookup name [("app_label_2_ch", Decode.filter), ("app_append_labels", Pod.enrich),
        ("app_define_metric", Pod.derive)] :=
    NameMap.get?_ofList_of_nodup (by simp) name
  unfold apply
  rw [hget]
  split_ifs with hdecode henrich hderive
  · subst hdecode
    rfl
  · subst henrich
    rfl
  · subst hderive
    rfl
  · simp [NameMap.lookup, Ne.symm hdecode, Ne.symm henrich, Ne.symm hderive]

/-- Each filter of the library keeps clean labels clean, whatever its sub-queries answer. -/
theorem clean_apply_builtin (name : String) (query : SubQuery) (time : Int) {labels : Labels}
    (h : labels.Clean) : (builtin.apply name query time labels).labels.Clean := by
  rw [apply_builtin]
  split_ifs
  · exact Decode.clean_decodeAll h
  · exact Pod.clean_enrich h query time
  · exact Pod.clean_derive h query time
  · exact h

end FilterRegistry

namespace RecordingRule

theorem clean_stamp (rule : RecordingRule) {labels : Labels} (h : labels.Clean) :
    (rule.stamp labels).Clean :=
  (h.assign _ _).assignAll _

/-- What a rule records of clean rows is clean. -/
theorem clean_of_mem_eval {rule : RecordingRule} {query : SubQuery} {time : Int}
    {rows : InstantVector} (h : ∀ row ∈ rows, row.labels.Clean) :
    ∀ out ∈ rule.eval FilterRegistry.builtin query time rows, out.labels.Clean := by
  intro out hout
  -- A recorded row is a row that all filters left, stamped with the labels of the rule.
  obtain ⟨row, hrow, rfl⟩ := exists_of_mem_eval hout
  refine rule.clean_stamp (FilterRegistry.left_induction ?_ (h row hrow))
  exact fun name _ _ => FilterRegistry.clean_apply_builtin name query time

end RecordingRule

/-- **Recorded rows are clean**: wherever the expression of a rule is answered with a vector, the
    rows that the rule records of it with the filters of the library have their labels in the order
    of their names, and none of them empty.  The sub-queries of the filters may answer anything. -/
theorem Engine.recorded_labels_clean (engine : Engine) (rule : RecordingRule) (query : SubQuery)
    (time : Int) {rows : InstantVector} (h : engine.queryRows rule.rule.expr time = .ok rows) :
    ∀ row ∈ rule.eval FilterRegistry.builtin query time rows,
      Ascending row.labels.entries ∧ ∀ entry ∈ row.labels.entries, entry.2 ≠ "" := by
  intro row hrow
  exact ⟨row.labels.ascending,
    RecordingRule.clean_of_mem_eval (Engine.clean_of_queryRows h) row hrow⟩

/-- A table with a row of a pod, of which one label is encoded: it is the empty text. -/
def podTable : Table where
  columns := [⟨"app_b64", .text⟩, ⟨"pod_name", .text⟩, ⟨"zone", .text⟩, ⟨timeColumn, .integer⟩,
    ⟨valueColumn, .double⟩]
  rows := [[.text "b64", .text "p", .text "", .integer 1, .double 0.5]]

/-- A rule over that table that runs every filter of the library, and removes a label. -/
def podRule : RecordingRule where
  rule := { record := "pod:up", expr := "up",
            filters := ["app_label_2_ch", "app_append_labels", "app_define_metric"],
            labels := { entries := [("env", "prod"), ("team", "")] } }
  valid := by decide

theorem podTable_wellFormed : podTable.WellFormed where
  nodup_names := by decide
  timeColumn_mem := by decide
  valueColumn_mem := by decide
  rows_fit := by simp [podTable, Cell.fits]

/-- The sample of that row, whose empty cell is no label. -/
theorem podTable_samples : podTable.rows.filterMap podTable.labelledSample? =
    [({ entries := [("app_b64", "b64"), ("pod_name", "p")] }, ⟨1, 0.5⟩)] := by
  have hlabels : NameMap.ofList [("app_b64", "b64"), ("pod_name", "p")] =
      { entries := [("app_b64", "b64"), ("pod_name", "p")] } := by decide
  simp [podTable, Table.labelledSample?, Table.labelSet?, Labels.ofPairs?_eq, Table.textCells,
    Cell.labelText?, Table.sample?, Table.sample, Table.cell, timeColumn, valueColumn,
    Cell.storedInteger, Cell.storedDouble, hlabels]

/-- The pod that is looked up has an empty label. -/
theorem Engine.recorded_labels_clean_of_pod :
    let engine : Engine := ofStore ⟨.singleton "up" podTable⟩ ⟨1000000⟩
    let query : SubQuery := fun _ _ =>
      .ok [⟨{ entries := [("label_app", "web"), ("label_team", "a"), ("label_zone", "")] }, ⟨1, 1⟩⟩]
    let row : Row := ⟨{ entries := [("app_b64", "b64"), ("pod_name", "p")] }, ⟨1, 0.5⟩⟩
    let recorded := podRule.eval FilterRegistry.builtin query 2 [row]
    engine.queryRows "up" 2 = .ok [row] ∧
      recorded.map (fun row => row.labels.entries) = [[("__name__", "pod:up"), ("app", "web"),
        ("env", "prod"), ("mtype", "sys"), ("pod_name", "p")]] ∧
      ∀ row ∈ recorded,
        Ascending row.labels.entries ∧ ∀ entry ∈ row.labels.entries, entry.2 ≠ "" := by
  intro engine query row recorded
  have hrows : engine.queryRows "up" 2 = .ok [row] := by
    -- The metric is written in lower case, so it is the name of its table.
    have htable : engine.store.table? "up" = some podTable := by
      rw [Store.table?_of_lower (by decide) (by simp)]
      exact NameMap.get?_singleton ..
    have hlookback : engine.lookback = 1000 := by decide
    rw [queryRows_named read?_up htable podTable_wellFormed (by rw [hlookback]; decide), hlookback]
    simp [Table.naiveSelect, Table.samplesWithin, podTable_samples, Time.Window.holds, grouped,
      gather, sortOn, List.eraseDups_cons, latestRow?, row]
  refine ⟨hrows, ?_, recorded_labels_clean engine podRule query 2 hrows⟩
  decide

/-! ## §4 Names of recorded rows -/

namespace RecordingRule

variable {rule : RecordingRule} {registry : FilterRegistry} {query : SubQuery} {time : Int}

/-- The metric of a recorded row is that of the record, unless the rule labels it. -/
theorem get?_metricLabel_of_mem_eval {rows : InstantVector} {out : Row}
    (h : out ∈ rule.eval registry query time rows) :
    out.labels.get? metricLabel =
      match rule.rule.labels.get? metricLabel with
      | some text => if text = "" then none else some text
      | none => some rule.rule.record := by
  obtain ⟨row, -, rfl⟩ := exists_of_mem_eval h
  have hstamp := @get?_stamp rule
    (registry.left query time rule.rule.filters row.labels) metricLabel
  rw [if_pos rfl] at hstamp
  exact hstamp

/-- Without registered filters every row is recorded. -/
theorem stamped_mem_eval (rule : RecordingRule) (query : SubQuery) (time : Int) (row : Row) :
    row.withLabels (rule.stamp (FilterRegistry.left NameMap.empty query time rule.rule.filters
        row.labels)) ∈ rule.eval NameMap.empty query time [row] := by
  -- No name is registered, so no filter can drop the row.
  have hkeep : FilterRegistry.AllKeep NameMap.empty query time rule.rule.filters row.labels := by
    rintro before name after - ⟨filter, hget, -⟩
    cases hget
  rw [eval_singleton, evalRow_of_allKeep hkeep]
  exact List.mem_singleton_self _

/-- **Names of recorded rows**: every row that a rule records has the name of the record, unless the
    rule itself labels the metric; then it has that label, or no name if that is empty.  So all rows
    have the name of the record, whatever the filters do, just for the rules that give the metric no
    other name. -/
theorem recorded_name (rule : RecordingRule) :
    (∀ registry query time rows, ∀ row ∈ rule.eval registry query time rows,
      row.labels.get? metricLabel =
        match rule.rule.labels.get? metricLabel with
        | some text => if text = "" then none else some text
        | none => some rule.rule.record) ∧
    ((∀ registry query time rows, ∀ row ∈ rule.eval registry query time rows,
        row.labels.get? metricLabel = some rule.rule.record) ↔
      ∀ text, rule.rule.labels.get? metricLabel = some text → text = rule.rule.record) := by
  refine ⟨fun _ _ _ _ _ => get?_metricLabel_of_mem_eval, ?_, ?_⟩
  · -- A rule without registered filters records a row, and that row is named as it says.
    intro h text htext
    let row : Row := ⟨NameMap.empty, ⟨0, 0⟩⟩
    let query : SubQuery := fun _ _ => .ok []
    have hmem := rule.stamped_mem_eval query 0 row
    have hname := get?_metricLabel_of_mem_eval hmem
    rw [h _ query 0 [row] _ hmem, htext] at hname
    dsimp only at hname
    split at hname
    · cases hname
    · exact (Option.some.inj hname).symm
  · intro h registry query time rows row hrow
    rw [get?_metricLabel_of_mem_eval hrow]
    cases htext : rule.rule.labels.get? metricLabel with
    | none => rfl
    | some text =>
      -- The name that the rule gives is the name of the record, which is not empty.
      dsimp only
      rw [h text htext, if_neg (record_ne_empty rule)]

/-- A filter that renames a row, and one that removes its name, do not matter to what the row is
    recorded as. -/
theorem recorded_name_of_renamed_row :
    let registry : FilterRegistry :=
      { entries := [("mark", fun _ _ labels =>
          { labels := labels.insert metricLabel "other", keep := true, asked := [] }),
        ("unknown", fun _ _ labels =>
          { labels := labels.erase metricLabel, keep := true, asked := [] })] }
    let recorded := hostRule.eval registry (fun _ _ => .ok []) 7
      [⟨{ entries := [("__name__", "up"), ("host", "b")] }, ⟨2, 1.5⟩⟩]
    recorded.length = 1 ∧
      ∀ row ∈ recorded, row.labels.get? metricLabel = some "host:up" := by
  intro registry recorded
  refine ⟨by decide, fun row hrow => ?_⟩
  rw [(recorded_name hostRule).1 registry _ 7 _ row hrow]
  rfl

/-- A rule that labels its rows with the name of another metric. -/
def misnamedRule : RecordingRule where
  rule :=
    { record := "job:up", expr := "up", filters := [], labels := .singleton "__name__" "down" }
  valid := by decide

/-- The row is recorded under the name of the other metric, and not under the record's. -/
theorem recorded_name_of_misnamed_rule :
    misnamedRule.rule.record = "job:up" ∧
      (misnamedRule.eval FilterRegistry.builtin (fun _ _ => .ok []) 1
        [⟨{ entries := [("__name__", "up"), ("job", "a")] }, ⟨1, 1⟩⟩]).map
          (fun row => row.labels.get? metricLabel) = [some "down"] := by
  exact ⟨rfl, by decide⟩

end RecordingRule

end LabeledSeries
