import LabeledSeries.Proofs.Engine.MatcherPartition

/-!
# Looking up pods

The filters that enrich rows ask the engine for the row of a pod by an expression that holds the
name of the pod.  Pods are named by what the sources of the rows send, so the name may be any text.

§1 Rows of a metric, and rows that a matcher selects.

§2 For a quotable name the answer is the rows of all pods less those of other pods, as long as the
rows of all pods can be had (`Engine.queryRows_selector`).  For any other name no row of the answer
is one of that pod (`Engine.value_ne_of_mem_selector`), but it can be one of another pod.

§3 So the look-up is exact for the quotable names only (`Engine.pod_lookup_exact_iff`), since every
name may be that of a pod.
-/

namespace LabeledSeries

/-- The metrics in which `Pod.enrich` and `Pod.derive` look up pods. -/
def Pod.metrics : List String := ["kube_pod_labels", "kube_pod_labels_ch"]

/-- The metrics of pods are names that name metrics. -/
theorem Pod.metrics_named : ∀ metric ∈ Pod.metrics,
    Text.isRecordName metric = true ∧ Query.namesMetric metric [] = true := by
  have hlabels : Query.namesMetric "kube_pod_labels" [] = true :=
    Query.namesMetric_of_keyword "kube_pod_labels" (by decide) (by decide)
  have hchannel : Query.namesMetric "kube_pod_labels_ch" [] = true :=
    Query.namesMetric_of_keyword "kube_pod_labels_ch" (by decide) (by decide)
  simp only [Pod.metrics, List.forall_mem_cons, hlabels, hchannel, and_true]
  exact ⟨by decide, by decide, by simp⟩

namespace Engine

variable {engine : Engine} {time : Int} {metric pod : String} {rows : InstantVector}

/-! ## §1 Rows by matchers -/

/-- The selector of a pod asks the store for one label. -/
theorem select_ofPod (engine : Engine) (metric pod : String) (window : Time.Window) :
    engine.select (Query.Selector.ofPod metric pod) window =
      engine.store.select metric [.equals "pod" pod] window := by
  rfl

theorem read?_name (hmetric : Text.isRecordName metric = true)
    (hnames : Query.namesMetric metric [] = true) :
    Query.Expr.read? metric = some (.instant (Query.Selector.ofName metric)) := by
  rw [Query.Expr.read?, Query.tokens?_name hmetric]
  exact Query.Expr.ofTokens?_word hnames

/-- Every row that a matcher of equality selects has its value. -/
theorem value_of_mem_selectInstant {selector : Query.Selector} {label value : String}
    (hmatcher : ⟨label, .equal, value⟩ ∈ selector.matchers)
    (h : engine.selectInstant selector time = .ok rows) :
    ∀ row ∈ rows, row.labels.value label = value := by
  obtain ⟨selected, hselected, rfl⟩ := map_eq_ok_iff.mp h
  obtain ⟨metric, -, hconditions⟩ := bind_eq_ok_iff.mp hselected
  obtain ⟨conditions, hmade, hseries⟩ := bind_eq_ok_iff.mp hconditions
  -- The matcher became one of the conditions that all series satisfy.
  obtain ⟨condition, hmem, hcondition⟩ :=
    exists_mem_of_forall₂ (forall₂_of_mapM_eq_ok hmade) _ hmatcher
  cases hcondition
  intro row hrow
  obtain ⟨series, hselected, hlatest⟩ := List.mem_filterMap.mp hrow
  obtain ⟨sample, -, rfl⟩ := Option.map_eq_some_iff.mp hlatest
  simpa [Condition.holds] using Store.all_hold_of_select hseries series hselected _ hmem

/-! ## §2 Rows of pods -/

private theorem lower_pod : ∀ c ∈ "pod".toList, c.isUpper = false := by simp

/-- The rows of a pod with a quotable name, where the rows of all pods can be had. -/
theorem queryRows_selector (hmetric : metric ∈ Pod.metrics)
    (hpod : Query.isQuotable pod.toList = true) (h : engine.queryRows metric time = .ok rows) :
    engine.queryRows (Pod.selector metric pod) time =
      .ok (rows.filter fun row => row.labels.value "pod" == pod) := by
  obtain ⟨hname, hnames⟩ := Pod.metrics_named metric hmetric
  rw [queryRows_instant (read?_name hname hnames) rfl] at h
  rw [queryRows_instant (Query.Expr.read?_selector hname hnames hpod) rfl]
  obtain ⟨selected, hselected, rfl⟩ := map_eq_ok_iff.mp h
  -- The engine selects one pod as the store does, whose series are those of all pods, less others.
  have hequals := Store.select_equals pod lower_pod hselected
  refine map_eq_ok_iff.mpr ⟨_, (select_ofPod engine metric pod _).trans hequals, ?_⟩
  exact filterMap_latestRow?_filter selected fun labels => labels.value "pod" == pod

/-- No row that is found for another name is one of the pod of that name. -/
theorem value_ne_of_mem_selector (hmetric : metric ∈ Pod.metrics)
    (hpod : Query.isQuotable pod.toList = false)
    (h : engine.queryRows (Pod.selector metric pod) time = .ok rows) :
    ∀ row ∈ rows, row.labels.value "pod" ≠ pod := by
  obtain ⟨hname, hnames⟩ := Pod.metrics_named metric hmetric
  intro row hrow heq
  obtain ⟨e, selector, hread, hbare, hselect⟩ := queryRows_eq_ok h (List.ne_nil_of_mem hrow)
  obtain ⟨text, htext, hselects⟩ := Query.Expr.exists_matcher_of_read?_selector hname hnames hread
  have hvalue := value_of_mem_selectInstant (hselects selector hbare) hselect row hrow
  -- The row has the text up to the first quote as its label, and that is quotable.
  rw [hvalue] at heq
  rw [← heq, htext] at hpod
  cases hpod

/-! ## §3 Exact look-ups -/

/-- A table with the row of one pod. -/
def prodTable (pod : String) : Table where
  columns := [⟨"pod", .text⟩, ⟨"ns", .text⟩, ⟨timeColumn, .integer⟩, ⟨valueColumn, .double⟩]
  rows := [[.text pod, .text "prod", .integer 0, .double 0]]

/-- An engine that finds pods in that table. -/
def prodEngine (pod : String) : Engine :=
  ofStore ⟨.singleton "kube_pod_labels" (prodTable pod)⟩ ⟨1000000⟩

/-- The row of that table. -/
def prodRow (pod : String) : Row where
  labels.entries := [("ns", "prod"), ("pod", pod)]
  labels.ascending := List.pairwise_pair.mpr (show "ns" < "pod" by decide)
  sample := ⟨0, 0⟩

theorem prodTable_wellFormed (pod : String) : (prodTable pod).WellFormed where
  nodup_names := by simp [prodTable, timeColumn, valueColumn]
  timeColumn_mem := by simp [prodTable]
  valueColumn_mem := by simp [prodTable]
  rows_fit := by simp [prodTable, Cell.fits]

theorem prodTable_samples (hpod : pod ≠ "") :
    (prodTable pod).rows.filterMap (prodTable pod).labelledSample? =
      [((prodRow pod).labels, ⟨0, 0⟩)] := by
  have hlabels : NameMap.ofList [("pod", pod), ("ns", "prod")] = (prodRow pod).labels :=
    NameMap.ofList_of_perm (List.Perm.swap ..)
  simp [prodTable, Table.labelledSample?, Table.labelSet?, Labels.ofPairs?_eq, Table.textCells,
    Cell.labelText?, Table.sample?, Table.sample, Table.cell, timeColumn, valueColumn,
    Cell.storedInteger, Cell.storedDouble, hpod, hlabels]

/-- That sample is in the window of the engine, and makes a series by itself. -/
theorem prodTable_grouped (hpod : pod ≠ "") :
    grouped ((prodTable pod).samplesWithin ⟨0 - 1000, 0⟩) =
      [⟨(prodRow pod).labels, [⟨0, 0⟩], none⟩] := by
  simp [Table.samplesWithin, prodTable_samples hpod, Time.Window.holds, grouped, gather,
    List.eraseDups_cons, prodRow]

/-- What that engine answers to a selector of pods. -/
theorem queryRows_prodEngine (hpod : pod ≠ "") {text : String} {selector : Query.Selector}
    {conditions : List Condition}
    (hread : Query.Expr.read? text = some (.instant selector))
    (hselect : ∀ window, (prodEngine pod).select selector window =
      (prodEngine pod).store.select "kube_pod_labels" conditions window)
    (hcheck : ∀ condition ∈ conditions, (prodTable pod).CanCheck condition) :
    (prodEngine pod).queryRows text 0 =
      .ok ([prodRow pod].filter fun row => conditions.all (·.holds row.labels)) := by
  have htable : (prodEngine pod).store.table? "kube_pod_labels" = some (prodTable pod) := by
    rw [Store.table?_of_lower (by decide) (by simp)]
    exact NameMap.get?_singleton ..
  have hlookback : (prodEngine pod).lookback = 1000 := rfl
  rw [queryRows_table hread hselect htable (prodTable_wellFormed pod) hcheck
    (by rw [hlookback]; decide), hlookback, Table.naiveSelect, prodTable_grouped hpod,
    List.filter_singleton, List.filter_singleton]
  -- The series and the row have the same labels, so both stay or neither does.
  cases conditions.all fun condition => condition.holds (prodRow pod).labels with
  | false => rfl
  | true => simp [sortOn, latestRow?, prodRow]

/-- **Looking up pods**: the row of a pod is looked up as it should be, among the rows of any engine
    whose rows of all pods can be had, just if the name of the pod is quotable.  Then the answer is
    the rows of the pod, in order.  For every other name a row that is found is one of another pod,
    so the pod's own row is never used. -/
theorem pod_lookup_exact_iff (pod : String) :
    ((∀ metric ∈ Pod.metrics, ∀ (engine : Engine) time rows,
        engine.queryRows metric time = .ok rows →
          engine.queryRows (Pod.selector metric pod) time =
            .ok (rows.filter fun row => row.labels.value "pod" == pod)) ↔
      Query.isQuotable pod.toList = true) ∧
    (Query.isQuotable pod.toList = false → ∀ metric ∈ Pod.metrics, ∀ (engine : Engine) time row,
      Pod.row? (engine.queryRows (Pod.selector metric pod) time) = some row →
        row.labels.value "pod" ≠ pod) := by
  have hother : Query.isQuotable pod.toList = false → ∀ metric ∈ Pod.metrics,
      ∀ (engine : Engine) time row,
        Pod.row? (engine.queryRows (Pod.selector metric pod) time) = some row →
          row.labels.value "pod" ≠ pod := by
    intro hpod metric hmetric engine time row hrow
    unfold Pod.row? at hrow
    split at hrow
    · rename_i rows hrows
      exact value_ne_of_mem_selector hmetric hpod hrows row (List.mem_of_mem_head? hrow)
    · cases hrow
  refine ⟨⟨fun hexact => ?_, fun hpod metric hmetric engine time rows =>
    queryRows_selector hmetric hpod⟩, hother⟩
  -- In the table of the pod alone the pod would be found, although it is another one.
  by_contra hquotable
  rw [Bool.not_eq_true] at hquotable
  have hpod : pod ≠ "" := by
    rintro rfl
    cases hquotable
  have hmetric : "kube_pod_labels" ∈ Pod.metrics := List.mem_cons_self ..
  obtain ⟨hname, hnames⟩ := Pod.metrics_named _ hmetric
  have hall := queryRows_prodEngine hpod (read?_name hname hnames) (select_named _ _) (by simp)
  have hfound := hexact _ hmetric _ _ _ hall
  have hvalue : (prodRow pod).labels.value "pod" = pod := by
    simp [prodRow, Labels.value, NameMap.get?_eq_lookup, NameMap.lookup]
  refine hother hquotable _ hmetric (prodEngine pod) 0 (prodRow pod) ?_ hvalue
  rw [hfound]
  simp [Pod.row?, hvalue]

/-- A name that is quoted as it is asks for the pod `web-1` in one namespace, and its row is found,
    although no pod has the name. -/
theorem pod_lookup_not_exact_of_quoted_name :
    let pod := "web-1\",ns=\"prod"
    Query.isQuotable pod.toList = false ∧
      (prodEngine "web-1").queryRows "kube_pod_labels" 0 = .ok [prodRow "web-1"] ∧
      (prodEngine "web-1").queryRows (Pod.selector "kube_pod_labels" pod) 0 =
        .ok [prodRow "web-1"] ∧
      (prodRow "web-1").labels.value "pod" = "web-1" ∧
      [prodRow "web-1"].filter (fun row => row.labels.value "pod" == pod) = [] := by
  intro pod
  have hmetric : "kube_pod_labels" ∈ Pod.metrics := List.mem_cons_self ..
  obtain ⟨hname, hnames⟩ := Pod.metrics_named _ hmetric
  refine ⟨by decide, ?_, ?_, rfl, rfl⟩
  · exact queryRows_prodEngine (by simp) (read?_name hname hnames) (select_named _ _) (by simp)
  · let selector : Query.Selector :=
      { name := some "kube_pod_labels",
        matchers := [⟨"pod", .equal, "web-1"⟩, ⟨"ns", .equal, "prod"⟩] }
    have hread : Query.Expr.read? (Pod.selector "kube_pod_labels" pod) =
        some (.instant selector) := by
      have htokens : Query.tokens? (Pod.selector "kube_pod_labels" pod) =
          some (Query.podTokens "kube_pod_labels" "web-1" ++
            [.sign .comma, .label "ns", .sign .assign, .quoted "prod", .sign .rightBrace]) := by
        decide +kernel
      rw [Query.Expr.read?, htokens]
      refine Query.Expr.ofTokens?_of_primary fun fuel => ?_
      rw [Query.podTokens_append, Query.primary_word (Query.namesMetric_leftBrace hnames _)]
      rfl
    have hselect (window : Time.Window) : (prodEngine "web-1").select selector window =
        (prodEngine "web-1").store.select "kube_pod_labels"
          [.equals "pod" "web-1", .equals "ns" "prod"] window := by
      simp [select, metricName, selector, condition, bind, Except.bind, pure, Except.pure]
    have hcheck : ∀ condition ∈ [Condition.equals "pod" "web-1", .equals "ns" "prod"],
        (prodTable "web-1").CanCheck condition := by
      simp [Table.CanCheck, prodTable, Table.column?, timeColumn, valueColumn]
    rw [queryRows_prodEngine (by simp) hread hselect hcheck]
    rfl

end Engine

end LabeledSeries
