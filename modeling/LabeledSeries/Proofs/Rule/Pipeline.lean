import LabeledSeries.Proofs.NameMap
import LabeledSeries.Rule.Evaluation

/-!
# Rules as pipelines

A rule sends each row through its filters, and what becomes of a row depends on that row alone.  The
filters of the registry are arbitrary here: what one leaves, whether it rejects and what it asks may
depend on the labels it is given in any way.

§1 is about a list of filters as one would describe it: what they leave and ask when all of them run
one after the other.  §2 compares that with a run, which ends at the first filter that rejects
(`FilterRegistry.applyAll_of_allKeep`, `FilterRegistry.applyAll_of_rejects`).  §3 is about the
labels that are stored on a row that stays, and §4 about rules (`RecordingRule.eval_pipeline`).
-/

namespace LabeledSeries

/-! ## §1 Filters one after the other -/

namespace FilterRegistry

section Filters

variable (registry : FilterRegistry) (query : SubQuery) (time : Int)

/-- What filters leave of labels if all of them run. -/
def left : List String → Labels → Labels
  | [], labels => labels
  | name :: names, labels => left names (registry.apply name query time labels).labels

/-- What filters ask if all of them run. -/
def asks : List String → Labels → List (String × Int)
  | [], _ => []
  | name :: names, labels =>
    let outcome := registry.apply name query time labels
    outcome.asked ++ asks names outcome.labels

/-- A filter is registered under a name, and it rejects the labels. -/
def Rejects (name : String) (labels : Labels) : Prop :=
  ∃ filter, registry.get? name = some filter ∧ (filter query time labels).keep = false

/-- No filter of a list rejects what the filters before it left. -/
def AllKeep (names : List String) (labels : Labels) : Prop :=
  ∀ before name after, names = before ++ name :: after →
    ¬ registry.Rejects query time name (registry.left query time before labels)

end Filters

variable {registry : FilterRegistry} {query : SubQuery} {time : Int} {labels : Labels}

/-- What each filter of a list keeps is kept by all of them together. -/
theorem left_induction {motive : Labels → Prop} {names : List String}
    (hstep : ∀ name ∈ names, ∀ labels, motive labels →
      motive (registry.apply name query time labels).labels) (h : motive labels) :
    motive (registry.left query time names labels) := by
  -- Each filter starts from what the one before it left.
  induction names generalizing labels with
  | nil => exact h
  | cons name names ih =>
    obtain ⟨hfirst, hrest⟩ := List.forall_mem_cons.mp hstep
    exact ih hrest (hfirst labels h)

theorem rejects_iff {name : String} :
    registry.Rejects query time name labels ↔
      (registry.apply name query time labels).keep = false := by
  unfold Rejects apply
  -- A name without a filter keeps the labels.
  cases registry.get? name with
  | none => simp
  | some filter => simp

theorem allKeep_cons {name : String} {names : List String} :
    registry.AllKeep query time (name :: names) labels ↔
      ¬ registry.Rejects query time name labels ∧
        registry.AllKeep query time names (registry.apply name query time labels).labels := by
  constructor
  · intro h
    -- What holds at every place of the list holds at the first one, and at all later ones.
    refine ⟨h [] name names rfl, fun before other after heq => ?_⟩
    exact h (name :: before) other after (congrArg (name :: ·) heq)
  · rintro ⟨hfirst, hrest⟩ before other after heq
    cases before with
    -- The filter is the first of the list.
    | nil =>
      cases heq
      exact hfirst
    | cons first before =>
      rw [List.cons_append, List.cons.injEq] at heq
      obtain ⟨rfl, heq⟩ := heq
      exact hrest before other after heq

/-- Where a filter rejects, there is a first one that does. -/
theorem exists_first_rejecting {names : List String}
    (h : ¬ registry.AllKeep query time names labels) :
    ∃ before name after, names = before ++ name :: after ∧
      registry.AllKeep query time before labels ∧
      registry.Rejects query time name (registry.left query time before labels) := by
  induction names generalizing labels with
  | nil => exact absurd (fun before name after heq => by simp at heq) h
  | cons first names ih =>
    by_cases hfirst : registry.Rejects query time first labels
    · -- The first filter rejects, and there are none before it.
      refine ⟨[], first, names, rfl, fun before name after heq => ?_, hfirst⟩
      simp at heq
    · -- The first filter does not reject, so one of the later ones does.
      have hrest : ¬ registry.AllKeep query time names
          (registry.apply first query time labels).labels :=
        fun hrest => h (allKeep_cons.mpr ⟨hfirst, hrest⟩)
      obtain ⟨before, name, after, rfl, hkeep, hrejects⟩ := ih hrest
      exact ⟨first :: before, name, after, rfl, allKeep_cons.mpr ⟨hfirst, hkeep⟩, hrejects⟩

/-! ## §2 Runs of filters -/

/-- What later filters do, after one that does not reject. -/
private theorem applyAll_cons_of_keep {name : String} {names : List String} {later : Outcome}
    (h : ¬ registry.Rejects query time name labels)
    (hlater : registry.applyAll query time names
      (registry.apply name query time labels).labels = later) :
    registry.applyAll query time (name :: names) labels =
      { later with asked := (registry.apply name query time labels).asked ++ later.asked } := by
  rw [rejects_iff, Bool.not_eq_false] at h
  simp only [applyAll, h, if_true, hlater]

/-- If no filter rejects, all of them run. -/
theorem applyAll_of_allKeep {names : List String}
    (h : registry.AllKeep query time names labels) :
    registry.applyAll query time names labels =
      { labels := registry.left query time names labels, keep := true,
        asked := registry.asks query time names labels } := by
  induction names generalizing labels with
  | nil => rfl
  | cons name names ih =>
    -- All filters run, so what they ask is asked in their order.
    obtain ⟨hfirst, hrest⟩ := allKeep_cons.mp h
    rw [applyAll_cons_of_keep hfirst (ih hrest)]
    rfl

/-- A run ends with the first filter that rejects: the filters after it leave and ask nothing. -/
theorem applyAll_of_rejects {before : List String} {name : String} (after : List String)
    (hkeep : registry.AllKeep query time before labels)
    (hrejects : registry.Rejects query time name (registry.left query time before labels)) :
    registry.applyAll query time (before ++ name :: after) labels =
      { labels := registry.left query time (before ++ [name]) labels, keep := false,
        asked := registry.asks query time (before ++ [name]) labels } := by
  induction before generalizing labels with
  | nil =>
    -- The filter that rejects is the last to run.
    have hreject : (registry.apply name query time labels).keep = false := rejects_iff.mp hrejects
    cases houtcome : registry.apply name query time labels with
    | mk rest keep asked => simp_all [applyAll, left, asks]
  | cons first before ih =>
    obtain ⟨hfirst, hrest⟩ := allKeep_cons.mp hkeep
    rw [List.cons_append, applyAll_cons_of_keep hfirst (ih hrest hrejects)]
    rfl

/-- A run keeps the row just if no filter rejects. -/
theorem keep_applyAll_iff {names : List String} :
    (registry.applyAll query time names labels).keep = true ↔
      registry.AllKeep query time names labels := by
  constructor
  · -- If some filter rejected, the run would have ended with the first that does.
    intro h
    by_contra hnot
    obtain ⟨before, name, after, rfl, hkeep, hrejects⟩ := exists_first_rejecting hnot
    rw [applyAll_of_rejects after hkeep hrejects] at h
    cases h
  · intro h
    rw [applyAll_of_allKeep h]

/-- Names that are not registered may be left out. -/
theorem applyAll_filter_contains (registry : FilterRegistry) (names : List String) :
    registry.applyAll query time (names.filter registry.contains) labels =
      registry.applyAll query time names labels := by
  induction names generalizing labels with
  | nil => rfl
  | cons name names ih =>
    cases hget : registry.get? name with
    | none =>
      -- A name without a filter passes the labels on and asks nothing.
      have hcontains : registry.contains name = false := by
        rw [NameMap.contains_eq, hget, Option.isSome_none]
      have happly : registry.apply name query time labels =
          { labels, keep := true, asked := [] } := by
        rw [apply, hget]
      rw [List.filter_cons_of_neg (by simp [hcontains]), ih]
      simp [applyAll, happly]
    | some filter =>
      have hcontains : registry.contains name = true := by
        rw [NameMap.contains_eq, hget, Option.isSome_some]
      rw [List.filter_cons_of_pos hcontains]
      -- A registered filter is run on both sides, and then the others.
      simp only [applyAll, ih]

end FilterRegistry

/-! ## §3 Labels of a recorded row -/

theorem Labels.get?_assign (labels : Labels) (name text other : String) :
    (labels.assign name text).get? other =
      if name = other then (if text = "" then none else some text) else labels.get? other := by
  unfold Labels.assign
  by_cases htext : text = ""
  · simp [htext]
  · simp [htext]

/-- Where no name is stored twice, each has what was stored under it. -/
theorem Labels.get?_assignAll {entries : List (String × String)}
    (h : (entries.map Prod.fst).Nodup) (labels : Labels) (name : String) :
    (labels.assignAll entries).get? name =
      match NameMap.lookup name entries with
      | some text => if text = "" then none else some text
      | none => labels.get? name := by
  induction entries generalizing labels with
  | nil => rfl
  | cons entry entries ih =>
    obtain ⟨hnew, hrest⟩ := List.nodup_cons.mp h
    -- The entries are stored in their order, so the others are stored over the first.
    have hstep : labels.assignAll (entry :: entries) =
        (labels.assign entry.1 entry.2).assignAll entries := rfl
    rw [hstep, ih hrest, Labels.get?_assign]
    by_cases hname : entry.1 = name
    · -- No later entry has the name.
      subst hname
      rw [NameMap.lookup_eq_none_iff.mpr hnew]
      simp [NameMap.lookup]
    · simp [NameMap.lookup, hname]

namespace RecordingRule

variable {rule : RecordingRule}

/-- A rule that passed validation has a name to record under. -/
theorem record_ne_empty (rule : RecordingRule) : rule.rule.record ≠ "" := by
  intro h
  have hvalid := rule.valid
  simp [RecordRule.validate, h] at hvalid

/-- The labels under which a row is recorded: those of the rule, where an empty one removes the
    label, the name of the record, and the labels that the row had. -/
theorem get?_stamp (labels : Labels) (name : String) :
    (rule.stamp labels).get? name =
      match rule.rule.labels.get? name with
      | some text => if text = "" then none else some text
      | none => if name = metricLabel then some rule.rule.record else labels.get? name := by
  -- The labels of the rule are stored over the name, and the name over the labels.
  rw [stamp, Labels.get?_assignAll (NameMap.nodup_names _), Labels.get?_assign,
    if_neg (record_ne_empty rule)]
  simp only [NameMap.get?_eq_lookup, @eq_comm _ metricLabel name]

/-! ## §4 Rules -/

/-- A rule with other filters. -/
def withFilters (rule : RecordingRule) (filters : List String) : RecordingRule where
  rule := { rule.rule with filters }
  valid := rule.valid

section Evaluation

variable {registry : FilterRegistry} {query : SubQuery} {time : Int} {row : Row}

theorem evalRow_of_allKeep
    (h : registry.AllKeep query time rule.rule.filters row.labels) :
    rule.evalRow registry query time row =
      (some (row.withLabels
          (rule.stamp (registry.left query time rule.rule.filters row.labels))),
        registry.asks query time rule.rule.filters row.labels) := by
  rw [evalRow, FilterRegistry.applyAll_of_allKeep h]
  rfl

theorem evalRow_of_rejects {before after : List String} {name : String}
    (hfilters : rule.rule.filters = before ++ name :: after)
    (hkeep : registry.AllKeep query time before row.labels)
    (hrejects : registry.Rejects query time name (registry.left query time before row.labels)) :
    rule.evalRow registry query time row =
      (none, registry.asks query time (before ++ [name]) row.labels) := by
  rw [evalRow, hfilters, FilterRegistry.applyAll_of_rejects after hkeep hrejects]
  rfl

theorem evalRow_eq_some {out : Row} (h : (rule.evalRow registry query time row).1 = some out) :
    out = row.withLabels (rule.stamp (registry.left query time rule.rule.filters row.labels)) := by
  by_cases hkeep : registry.AllKeep query time rule.rule.filters row.labels
  · rw [evalRow_of_allKeep hkeep] at h
    exact (Option.some.inj h).symm
  · -- Otherwise there is a first filter that rejects, and nothing is recorded.
    obtain ⟨before, name, after, hfilters, hbefore, hrejects⟩ :=
      FilterRegistry.exists_first_rejecting hkeep
    rw [evalRow_of_rejects hfilters hbefore hrejects] at h
    cases h

theorem evalRow_eq_none_iff : (rule.evalRow registry query time row).1 = none ↔
    ¬ registry.AllKeep query time rule.rule.filters row.labels := by
  rw [← FilterRegistry.keep_applyAll_iff]
  simp [evalRow]

/-- Every recorded row stands for one of the rows that were evaluated. -/
theorem exists_of_mem_eval {rows : InstantVector} {out : Row}
    (h : out ∈ rule.eval registry query time rows) :
    ∃ row ∈ rows,
      out = row.withLabels
        (rule.stamp (registry.left query time rule.rule.filters row.labels)) := by
  obtain ⟨row, hrow, hout⟩ := List.mem_filterMap.mp h
  exact ⟨row, hrow, evalRow_eq_some hout⟩

theorem eval_singleton (rule : RecordingRule) (registry : FilterRegistry) (query : SubQuery)
    (time : Int) (row : Row) :
    rule.eval registry query time [row] = (rule.evalRow registry query time row).1.toList := by
  rw [eval]
  cases h : (rule.evalRow registry query time row).1 with
  | none => simp [h]
  | some out => simp [h]

theorem evalRow_withFilters_contains (rule : RecordingRule) (registry : FilterRegistry) :
    (rule.withFilters (rule.rule.filters.filter registry.contains)).evalRow registry query time =
      rule.evalRow registry query time := by
  funext row
  -- The run of the filters is the same for every row.
  have happly : registry.applyAll query time (rule.rule.filters.filter registry.contains)
      row.labels = registry.applyAll query time rule.rule.filters row.labels :=
    FilterRegistry.applyAll_filter_contains registry rule.rule.filters
  unfold evalRow
  rw [← happly]
  rfl

theorem asked_singleton (rule : RecordingRule) (registry : FilterRegistry) (query : SubQuery)
    (time : Int) (row : Row) :
    rule.asked registry query time [row] = (rule.evalRow registry query time row).2 := by
  rw [asked, List.flatMap_singleton]

end Evaluation

/-- **Rules are pipelines**: rows are recorded one by one, each at most once and with its own time
    and value.  A row is dropped just if a registered filter of the rule rejects what the filters
    before it left, and the first such filter is the last to ask anything for the row.  Names that
    are not registered may be deleted from the filters.  A recorded row has the labels of the rule,
    without the empty ones, the name of the record unless the rule labels that itself, and else what
    the filters left. -/
theorem eval_pipeline (rule : RecordingRule) (registry : FilterRegistry) (query : SubQuery)
    (time : Int) :
    (∀ v w, rule.eval registry query time (v ++ w) =
      rule.eval registry query time v ++ rule.eval registry query time w) ∧
    (∀ row, (rule.eval registry query time [row]).length ≤ 1 ∧
      ∀ out ∈ rule.eval registry query time [row], out.sample = row.sample) ∧
    (∀ row, rule.eval registry query time [row] = [] ↔
      ∃ before name after, rule.rule.filters = before ++ name :: after ∧
        registry.Rejects query time name (registry.left query time before row.labels)) ∧
    (∀ row before name after, rule.rule.filters = before ++ name :: after →
      registry.AllKeep query time before row.labels →
      registry.Rejects query time name (registry.left query time before row.labels) →
      rule.asked registry query time [row] =
        registry.asks query time (before ++ [name]) row.labels) ∧
    (∀ rows, let known := rule.withFilters (rule.rule.filters.filter registry.contains)
      known.eval registry query time rows = rule.eval registry query time rows ∧
        known.asked registry query time rows = rule.asked registry query time rows) ∧
    (∀ row, ∀ out ∈ rule.eval registry query time [row], ∀ name,
      out.labels.get? name =
        match rule.rule.labels.get? name with
        | some text => if text = "" then none else some text
        | none =>
          if name = metricLabel then some rule.rule.record
          else (registry.left query time rule.rule.filters row.labels).get? name) := by
  refine ⟨fun v w => ?_, fun row => ⟨?_, fun out hout => ?_⟩, fun row => ?_, ?_, fun rows => ?_, ?_⟩
  · -- Rows are evaluated one by one.
    exact List.filterMap_append
  · rw [eval_singleton]
    exact Option.length_toList_le
  · -- A recorded row has the sample of the row that it was made from.
    rw [eval_singleton, Option.mem_toList] at hout
    rw [evalRow_eq_some hout]
    rfl
  · -- A row is dropped just if the run of its filters does not keep it.
    have hkept : registry.AllKeep query time rule.rule.filters row.labels ↔
        rule.eval registry query time [row] ≠ [] := by
      rw [eval_singleton, ← FilterRegistry.keep_applyAll_iff]
      simp [evalRow]
    rw [← not_iff_not, ← ne_eq, ← hkept]
    simp only [FilterRegistry.AllKeep, not_exists, not_and]
  · intro row before name after hfilters hkeep hrejects
    rw [asked_singleton, evalRow_of_rejects hfilters hkeep hrejects]
  · have hrows : (rule.withFilters (rule.rule.filters.filter registry.contains)).evalRow registry
        query time = rule.evalRow registry query time :=
      evalRow_withFilters_contains rule registry
    exact ⟨by simp only [eval, hrows], by simp only [asked, hrows]⟩
  · intro row out hout name
    rw [eval_singleton, Option.mem_toList] at hout
    rw [evalRow_eq_some hout]
    exact get?_stamp _ name

/-- Filters that mark a row with its host, and that reject the mark of one host. -/
def hostRegistry : FilterRegistry :=
  { entries := [("mark", fun _ time labels =>
      { labels := labels.insert "seen" (labels.value "host"), keep := true,
        asked := [("up", time)] }),
    ("refuse", fun _ time labels =>
      { labels, keep := labels.value "seen" != "a", asked := [("down", time)] })] }

/-- A rule that runs these filters, and others that are not registered or come too late. -/
def hostRule : RecordingRule where
  rule := { record := "host:up", expr := "up", filters := ["mark", "unknown", "refuse", "mark"],
            labels := { entries := [("host", ""), ("zone", "z")] } }
  valid := by decide

/-- The row of one host is dropped before its last filter runs.  That of another is recorded without
    its host, which the rule removes. -/
theorem eval_pipeline_of_hosts :
    let query : SubQuery := fun _ _ => .ok []
    let recorded := hostRule.eval hostRegistry query 7 [⟨.singleton "host" "b", ⟨2, 1.5⟩⟩]
    hostRule.eval hostRegistry query 7 [⟨.singleton "host" "a", ⟨1, 0.5⟩⟩] = [] ∧
      hostRule.asked hostRegistry query 7 [⟨.singleton "host" "a", ⟨1, 0.5⟩⟩] =
        [("up", 7), ("down", 7)] ∧
      recorded.length = 1 ∧
      ∀ out ∈ recorded, out.labels.get? "host" = none ∧ out.labels.get? "zone" = some "z" ∧
        out.labels.get? "__name__" = some "host:up" ∧ out.labels.get? "seen" = some "b" := by
  intro query recorded
  obtain ⟨-, -, hdropped, hasked, -, hstored⟩ := eval_pipeline hostRule hostRegistry query 7
  have hkeep : hostRegistry.AllKeep query 7 ["mark", "unknown"] (.singleton "host" "a") :=
    FilterRegistry.keep_applyAll_iff.mp (by decide)
  have hrejects : hostRegistry.Rejects query 7 "refuse"
      (hostRegistry.left query 7 ["mark", "unknown"] (.singleton "host" "a")) := ⟨_, rfl, by decide⟩
  refine ⟨(hdropped _).mpr ⟨["mark", "unknown"], "refuse", ["mark"], rfl, hrejects⟩,
    hasked _ ["mark", "unknown"] "refuse" ["mark"] rfl hkeep hrejects, by decide,
    fun out hout => ?_⟩
  have hout := hstored _ out hout
  exact ⟨hout "host", hout "zone", hout "__name__", (hout "seen").trans (by decide)⟩

end RecordingRule

end LabeledSeries
