import LabeledSeries.Proofs.Rule.DerivedMark
import LabeledSeries.Proofs.Text.ByteOrder
import LabeledSeries.Proofs.Text.Parts

/-!
# The labels that a pod gives to a row

The labels of a pod are copied one after the other, each under the rest of its name after one prefix
or two, and an empty one takes out what was there.  So several labels of the pod may be meant for
one name, and what a row ends with depends on their order.

§1 says which labels of a pod are meant for a name, and §2 what copying all of them leaves under it:
what the last of them holds (`Pod.copied_copyLabels`).  It is an induction over the labels of the
pod, with `Pod.Copied.concat` for one more label.

§3 is about the pod that a row names, and §4 about the filter that copies the labels of that pod and
derives an application identifier from what is left (`FilterRegistry.enriches_exactly`).

§5 is about names that are excluded from the copying.  Their exclusion is decided before the second
prefix is removed, so a label with both prefixes is copied to an excluded name all the same
(`FilterRegistry.excluded_label_stays_iff`).
-/

namespace LabeledSeries

namespace Pod

/-! ## §1 The labels that are meant for a name -/

/-- A label of a pod is meant for a name if its own name is that name after one prefix, unless the
    name is excluded or could be read with the second prefix, or after both prefixes. -/
def IsSource (excluded : List String) (name source : String) : Prop :=
  (source = "label_" ++ name ∧ (∀ rest, name ≠ "k8s_" ++ rest) ∧ name ∉ excluded) ∨
    source = "label_k8s_" ++ name

variable {excluded : List String} {name source : String}

theorem copyName?_label {rest : String} :
    copyName? excluded ("label_" ++ rest) =
      if rest ∈ excluded then none
      else some ((Text.afterLeading "k8s_" rest).getD rest) := by
  have hrest : Text.afterLeading "label_" ("label_" ++ rest) = some rest :=
    Text.afterLeading_eq_some_iff.mpr rfl
  rw [copyName?, hrest]
  by_cases hmem : rest ∈ excluded
  · simp [hmem]
  · -- What is excluded is decided before the second prefix is looked for.
    cases hsecond : Text.afterLeading "k8s_" rest <;> simp [hmem, hsecond]

/-- Where nothing that is excluded starts with the second prefix, the labels that are meant for
    a name are those that are copied to it. -/
theorem copyName?_eq_some_iff (hplain : ∀ name ∈ excluded, Text.afterLeading "k8s_" name = none) :
    copyName? excluded source = some name ↔ IsSource excluded name source := by
  -- One prefix after the other is the longer prefix.
  have hboth : "label_k8s_" ++ name = "label_" ++ ("k8s_" ++ name) := by
    rw [← String.append_assoc]
    rfl
  have hsecond : Text.afterLeading "k8s_" ("k8s_" ++ name) = some name :=
    Text.afterLeading_eq_some_iff.mpr rfl
  constructor
  · intro h
    unfold copyName? at h
    split at h
    · -- The label has no prefix, so it is copied nowhere.
      cases h
    · rename_i rest hfirst
      obtain rfl := Text.afterLeading_eq_some_iff.mp hfirst
      split at h
      · cases h
      · rename_i hmem
        -- The rest is the name, or it has the second prefix in front of the name.
        split at h
        · rename_i _ hrest
          cases h
          rw [Text.afterLeading_eq_some_iff.mp hrest]
          exact .inr hboth.symm
        · rename_i hrest
          cases h
          refine .inl ⟨rfl, fun _ heq => ?_, by simpa using hmem⟩
          rw [Text.afterLeading_eq_some_iff.mpr heq] at hrest
          cases hrest
  · rintro (⟨rfl, hname, hmem⟩ | rfl)
    · have hnone : Text.afterLeading "k8s_" name = none :=
        Option.eq_none_iff_forall_ne_some.mpr fun rest h =>
          hname rest (Text.afterLeading_eq_some_iff.mp h)
      rw [copyName?_label, if_neg hmem, hnone]
      rfl
    · -- With both prefixes no label is excluded.
      have hmem : "k8s_" ++ name ∉ excluded := fun h => by
        rw [hplain _ h] at hsecond
        cases hsecond
      rw [hboth, copyName?_label, if_neg hmem, hsecond]
      rfl

/-! ## §2 What the copying leaves -/

/-- What is left under a name: what the last of the pod's labels that are meant for it holds, where
    an empty one leaves nothing, and what was there if there is no such label. -/
inductive Copied (excluded : List String) (pod labels : Labels) (name : String) :
    Option String → Prop
  | last {source value : String} (hsource : IsSource excluded name source)
      (hvalue : pod.get? source = some value)
      (hlast : ∀ other, IsSource excluded name other → pod.contains other →
        Text.utf8Bytes other ≤ Text.utf8Bytes source) :
      Copied excluded pod labels name (if value = "" then none else some value)
  | kept (hnone : ∀ source, IsSource excluded name source → pod.get? source = none) :
      Copied excluded pod labels name (labels.get? name)

variable {before : List (String × String)} {value : String} {labels : Labels}

/-- One more label, behind all others. -/
theorem Copied.concat (hbefore : Ascending before) (hall : Ascending (before ++ [(source, value)]))
    {left : Option String} (h : Copied excluded ⟨before, hbefore⟩ labels name left)
    (hplain : ∀ name ∈ excluded, Text.afterLeading "k8s_" name = none) :
    Copied excluded ⟨before ++ [(source, value)], hall⟩ labels name
      (if copyName? excluded source = some name then (if value = "" then none else some value)
        else left) := by
  have hget (other : String) : NameMap.get? ⟨before ++ [(source, value)], hall⟩ other =
      (NameMap.get? ⟨before, hbefore⟩ other).or (if source = other then some value else none) := by
    rw [NameMap.get?_eq_lookup, NameMap.get?_eq_lookup, NameMap.lookup_append]
    rfl
  -- All other labels of the pod stand before this one.
  have hlt : ∀ entry ∈ before, entry.1 < source := fun entry hentry =>
    (List.pairwise_append.mp hall).2.2 entry hentry _ (List.mem_singleton_self _)
  split
  · -- The label is the last one that is meant for this name, since it is behind all others.
    rename_i hcopied
    have hnew : NameMap.get? ⟨before, hbefore⟩ source = none := by
      rw [NameMap.get?_eq_lookup]
      refine NameMap.lookup_eq_none_iff.mpr fun hmem => ?_
      obtain ⟨entry, hentry, hname⟩ := List.mem_map.mp hmem
      exact (hlt entry hentry).ne hname
    refine .last ((copyName?_eq_some_iff hplain).mp hcopied)
      (by rw [hget, hnew, if_pos rfl, Option.none_or]) fun other _ hcontains => ?_
    rw [← Text.le_iff_utf8Bytes_le]
    by_cases heq : source = other
    · exact heq.ge
    · rw [NameMap.contains_eq, hget, if_neg heq, Option.or_none] at hcontains
      obtain ⟨held, hheld⟩ := Option.isSome_iff_exists.mp hcontains
      exact (hlt _ (NameMap.mem_entries_iff.mpr hheld)).le
  · -- The label is meant for another name, so nothing changes for this one.
    rename_i hcopied
    rw [copyName?_eq_some_iff hplain] at hcopied
    have hother : ∀ other, IsSource excluded name other →
        NameMap.get? ⟨before ++ [(source, value)], hall⟩ other =
          NameMap.get? ⟨before, hbefore⟩ other := by
      intro other hother
      have hne : source ≠ other := by
        rintro rfl
        exact hcopied hother
      rw [hget, if_neg hne, Option.or_none]
    -- What was the last such label still is, and where there was none there is none.
    cases h with
    | last hsource hvalue hlast =>
      refine .last hsource ((hother _ hsource).trans hvalue) fun other hmeant hcontains => ?_
      rw [NameMap.contains_eq, hother other hmeant, ← NameMap.contains_eq] at hcontains
      exact hlast other hmeant hcontains
    | kept hnone => exact .kept fun other hmeant => (hother other hmeant).trans (hnone other hmeant)

/-- The last label of a pod is copied over what the labels before it left. -/
theorem get?_copyLabels_concat (excluded : List String) (hbefore : Ascending before)
    (hall : Ascending (before ++ [(source, value)])) (labels : Labels) (name : String) :
    (copyLabels excluded ⟨before ++ [(source, value)], hall⟩ labels).get? name =
      if copyName? excluded source = some name then (if value = "" then none else some value)
      else (copyLabels excluded ⟨before, hbefore⟩ labels).get? name := by
  simp only [copyLabels, Labels.assignAll, List.filterMap_append, List.foldl_append]
  cases hcopied : copyName? excluded source with
  -- A label that is copied nowhere leaves what was there.
  | none => simp [hcopied]
  | some target => simp [hcopied, Labels.get?_assign]

/-- **What the copying leaves under a name**. -/
theorem copied_copyLabels (hplain : ∀ name ∈ excluded, Text.afterLeading "k8s_" name = none)
    (pod labels : Labels) (name : String) :
    Copied excluded pod labels name ((copyLabels excluded pod labels).get? name) := by
  obtain ⟨entries, hentries⟩ := pod
  -- The labels are copied in their order, so the last one is taken in last.
  induction entries using List.reverseRecOn with
  | nil => exact .kept fun _ _ => NameMap.get?_empty _
  | append_singleton before entry ih =>
    obtain ⟨source, value⟩ := entry
    have hbefore : Ascending before := (List.pairwise_append.mp hentries).1
    rw [get?_copyLabels_concat excluded hbefore hentries]
    exact (ih hbefore).concat hbefore hentries hplain

/-! ## §3 The pod that a row names -/

/-- A text is the value of the first label, in the order of names, whose name ends in `pod_name`. -/
def NamesPod (labels : Labels) (pod : String) : Prop :=
  ∃ start, labels.get? (start ++ "pod_name") = some pod ∧
    ∀ other, labels.contains (other ++ "pod_name") → start ++ "pod_name" ≤ other ++ "pod_name"

theorem endsIn_of_find? {entry : String × String}
    (h : labels.entries.find? (fun entry => Text.endsIn entry.1 "pod_name") = some entry) :
    ∃ start, entry.1 = start ++ "pod_name" := by
  have hends : Text.endsIn entry.1 "pod_name" = true := by simpa using List.find?_some h
  exact Text.endsIn_iff.mp hends

theorem namesPod_iff {pod : String} : NamesPod labels pod ↔
    ∃ entry, labels.entries.find? (fun entry => Text.endsIn entry.1 "pod_name") = some entry ∧
      entry.2 = pod := by
  constructor
  · -- The label is there, so a search for such a name ends with one; both are the first.
    rintro ⟨start, hget, hfirst⟩
    have hmem := NameMap.mem_entries_iff.mpr hget
    have hends : Text.endsIn (start ++ "pod_name") "pod_name" = true :=
      Text.endsIn_iff.mpr ⟨start, rfl⟩
    have hsome : (labels.entries.find? fun entry => Text.endsIn entry.1 "pod_name").isSome :=
      List.find?_isSome.mpr ⟨(start ++ "pod_name", pod), hmem, hends⟩
    obtain ⟨⟨name, value⟩, hentry⟩ := Option.isSome_iff_exists.mp hsome
    obtain ⟨other, rfl⟩ := endsIn_of_find? hentry
    have hvalue := NameMap.mem_entries_iff.mp (List.mem_of_find?_eq_some hentry)
    have hle := hfirst other (by rw [NameMap.contains_eq, hvalue, Option.isSome_some])
    have heq := le_antisymm hle (NameMap.le_of_find? hentry hmem hends)
    rw [← heq, hget] at hvalue
    exact ⟨_, hentry, (Option.some.inj hvalue).symm⟩
  · rintro ⟨⟨name, value⟩, hentry, rfl⟩
    obtain ⟨start, rfl⟩ := endsIn_of_find? hentry
    -- What the search finds comes before all other names that end so.
    have hmem := List.mem_of_find?_eq_some hentry
    refine ⟨start, NameMap.mem_entries_iff.mp hmem, fun other hother => ?_⟩
    rw [NameMap.contains_eq] at hother
    obtain ⟨held, hheld⟩ := Option.isSome_iff_exists.mp hother
    exact NameMap.le_of_find? hentry (NameMap.mem_entries_iff.mpr hheld)
      (Text.endsIn_iff.mpr ⟨other, rfl⟩)

theorem name?_eq_some_iff {pod : String} :
    name? labels = some pod ↔ NamesPod labels pod ∧ pod ≠ "" := by
  rw [namesPod_iff, name?]
  -- No label ends so, or the first one that does is empty or names the pod.
  cases hfind : labels.entries.find? fun entry => Text.endsIn entry.1 "pod_name" with
  | none => simp
  | some entry =>
    by_cases hempty : entry.2 = ""
    · simp [hempty]
    · simp only [hempty, if_false, Option.some.injEq, exists_eq_left']
      exact ⟨fun heq => ⟨heq, heq ▸ hempty⟩, And.left⟩

theorem row?_eq_some_iff {answer : Except Fault InstantVector} {row : Row} :
    row? answer = some row ↔ ∃ rest, answer = .ok (row :: rest) := by
  unfold row?
  cases answer with
  | error => simp
  | ok rows => simp [List.head?_eq_some_iff]

/-! ## §4 Enriched rows -/

/-- What is left under `appid`, of which the copying left something: that, unless it is missing or
    empty, otherwise an identifier from the template hash of the pod and the cluster of the row, or
    failing that from the revision hash. -/
def appid? (pod result : Labels) (copied : Option String) : Option String :=
  let template := pod.value "label_pod_template_hash"
  let revision := pod.value "label_controller_revision_hash"
  if copied.getD "" ≠ "" then copied
  else if template ≠ "" then
    some ("r" ++ toString (Encoding.textChecksum (template ++ result.value "clusterId")))
  else if revision ≠ "" then some ("r" ++ toString (Encoding.textChecksum revision))
  else copied

/-- The labels of a row are those it had, with the labels of a pod copied over them, and an
    application identifier. -/
structure Enriched (pod labels result : Labels) : Prop where
  ascending : Ascending result.entries
  copied : ∀ name, name ≠ "appid" → Copied hashNames pod labels name (result.get? name)
  identified : ∃ left, Copied hashNames pod labels "appid" left ∧
    result.get? "appid" = appid? pod result left

theorem identifier_ne_empty (text : String) : identifier text ≠ "" := by
  intro h
  have hchars := congrArg String.toList h
  simp [identifier] at hchars

theorem get?_assign_identifier (labels : Labels) (text name : String) :
    (labels.assign "appid" (identifier text)).get? name =
      if name = "appid" then some (identifier text) else labels.get? name := by
  rw [Labels.get?_assign, if_neg (identifier_ne_empty text)]
  simp only [@eq_comm _ "appid" name]

theorem get?_identify (pod labels : Labels) (name : String) :
    (identify pod labels).get? name =
      if name = "appid" then appid? pod labels (labels.get? "appid") else labels.get? name := by
  -- Under other names nothing changes, and under this one the choice is made.
  have hsame : labels.get? name =
      if name = "appid" then labels.get? "appid" else labels.get? name := by
    split_ifs with hname
    · rw [hname]
    · rfl
  unfold identify appid?
  rw [← Labels.value]
  -- The label is kept, or else the first hash that is there makes the identifier.
  by_cases hkept : labels.value "appid" = ""
  · by_cases htemplate : pod.value "label_pod_template_hash" = ""
    · by_cases hrevision : pod.value "label_controller_revision_hash" = ""
      · simpa only [hkept, htemplate, hrevision, ne_eq, not_true_eq_false, if_false] using hsame
      · simp only [hkept, htemplate, hrevision, ne_eq, not_true_eq_false, not_false_eq_true,
          if_true, if_false, get?_assign_identifier]
        rfl
    · simp only [hkept, htemplate, ne_eq, not_true_eq_false, not_false_eq_true, if_true, if_false,
        get?_assign_identifier]
      rfl
  · simpa only [hkept, ne_eq, not_false_eq_true, if_true] using hsame

theorem plain_hashNames : ∀ name ∈ hashNames, Text.afterLeading "k8s_" name = none := by decide

theorem enriched_of_row (pod labels : Labels) :
    Enriched pod labels (identify pod (copyLabels hashNames pod labels)) where
  ascending := NameMap.ascending _
  copied name hname := by
    rw [get?_identify, if_neg hname]
    exact copied_copyLabels plain_hashNames pod labels name
  identified := by
    refine ⟨_, copied_copyLabels plain_hashNames pod labels "appid", ?_⟩
    -- The identifier is not that of the cluster, so the cluster is read as the copying left it.
    have hcluster : (identify pod (copyLabels hashNames pod labels)).value "clusterId" =
        (copyLabels hashNames pod labels).value "clusterId" := by
      rw [Labels.value, get?_identify, if_neg (by decide), Labels.value]
    rw [get?_identify, if_pos rfl, appid?, appid?, hcluster]

variable {query : SubQuery} {time : Int} {pod : String}

theorem enrich_of_nameless (h : name? labels = none) :
    enrich query time labels = { labels, keep := true, asked := [] } := by
  rw [enrich_eq, h]

theorem enrich_of_name (h : name? labels = some pod) :
    enrich query time labels =
      { labels := (row? (query (selector "kube_pod_labels" pod) time)).elim labels fun row =>
          identify row.labels (copyLabels hashNames row.labels labels)
        keep := true, asked := [(selector "kube_pod_labels" pod, time)] } := by
  rw [enrich_eq, h]

end Pod

namespace FilterRegistry

open Pod

theorem apply_enrich (query : SubQuery) (time : Int) (labels : Labels) :
    builtin.apply "app_append_labels" query time labels = enrich query time labels := by
  rw [apply_of_ne _ _ _ (by decide) (by decide), if_pos rfl]

/-- **What the enrichment of a row does**: the row stays, and nothing is asked unless it names a
    pod; then one thing is asked, the row of that pod.  Its labels stay as they are if it names no
    pod, or the empty one, or if no row is found.  Otherwise they are enriched with the labels of
    the first row that is found. -/
theorem enriches_exactly (query : SubQuery) (time : Int) (labels : Labels) :
    let outcome := builtin.apply "app_append_labels" query time labels
    outcome.keep = true ∧ outcome.asked.length ≤ 1 ∧
    ((∀ pod, NamesPod labels pod → pod = "") → outcome.labels = labels ∧ outcome.asked = []) ∧
    ∀ pod, NamesPod labels pod → pod ≠ "" →
      let expr := selector "kube_pod_labels" pod
      outcome.asked = [(expr, time)] ∧
      ((∀ row rest, query expr time ≠ .ok (row :: rest)) → outcome.labels = labels) ∧
      ∀ row rest, query expr time = .ok (row :: rest) →
        Enriched row.labels labels outcome.labels := by
  intro outcome
  have houtcome : outcome = enrich query time labels := apply_enrich query time labels
  cases hname : name? labels with
  | none =>
    -- A row that names no pod asks nothing.
    rw [enrich_of_nameless hname] at houtcome
    have hnone : ∀ pod, NamesPod labels pod → pod = "" := fun pod hpod => by
      by_contra hne
      cases hname.symm.trans (name?_eq_some_iff.mpr ⟨hpod, hne⟩)
    rw [houtcome]
    exact ⟨rfl, Nat.zero_le _, fun _ => ⟨rfl, rfl⟩, fun pod hpod hne => absurd (hnone pod hpod) hne⟩
  | some found =>
    obtain ⟨hfound, hfilled⟩ := name?_eq_some_iff.mp hname
    rw [enrich_of_name hname] at houtcome
    rw [houtcome]
    refine ⟨rfl, le_refl _, ?_, ?_⟩
    · intro hempty
      exact absurd (hempty found hfound) hfilled
    · intro pod hpod hne
      -- A row names one pod at most.
      obtain rfl : found = pod :=
        Option.some.inj (hname.symm.trans (name?_eq_some_iff.mpr ⟨hpod, hne⟩))
      refine ⟨rfl, fun hnone => ?_, fun row rest hrow => ?_⟩
      · -- Without a first row nothing is copied.
        have hrow : row? (query (selector "kube_pod_labels" found) time) = none := by
          refine Option.eq_none_iff_forall_ne_some.mpr fun row h => ?_
          obtain ⟨rest, hrest⟩ := row?_eq_some_iff.mp h
          exact hnone row rest hrest
        rw [hrow, Option.elim_none]
      · -- The first row is the pod's, whatever follows it.
        rw [row?_eq_some_iff.mpr ⟨rest, hrow⟩, Option.elim_some]
        exact enriched_of_row row.labels labels

/-- A row of a pod, in a cluster and without an application. -/
def webLabels : Labels :=
  { entries := [("appid", ""), ("clusterId", "c0"), ("pod_name", "web-1"), ("team", "ops"),
    ("zone", "a")] }

/-- The labels of the pod: two are meant for its team, and one takes out its zone. -/
def webPod : Labels :=
  { entries := [("label_app", "web"), ("label_clusterId", "c1"), ("label_k8s_team", "frontend"),
    ("label_pod_template_hash", "5d8f"), ("label_team", "backend"), ("label_zone", "")] }

/-- Whatever is asked, the answer is the row of the pod. -/
def webAnswer : SubQuery := fun _ _ => .ok [⟨webPod, ⟨0, 1⟩⟩]

theorem enriches_exactly_for_web :
    let outcome := builtin.apply "app_append_labels" webAnswer 7 webLabels
    NamesPod webLabels "web-1" ∧
    outcome.asked = [(selector "kube_pod_labels" "web-1", 7)] ∧
    Enriched webPod webLabels outcome.labels ∧
    outcome.labels = { entries := [("app", "web"), ("appid", "r4010588594"), ("clusterId", "c1"),
      ("pod_name", "web-1"), ("team", "backend")] } := by
  intro outcome
  have hpod : NamesPod webLabels "web-1" :=
    (name?_eq_some_iff.mp (by decide : name? webLabels = some "web-1")).1
  obtain ⟨-, -, -, hasks⟩ := enriches_exactly webAnswer 7 webLabels
  obtain ⟨hasked, -, henriched⟩ := hasks "web-1" hpod (by decide)
  exact ⟨hpod, hasked, henriched _ [] rfl, by decide +kernel⟩

end FilterRegistry

namespace Pod

/-! ## §5 Excluded names -/

/-- The row of the pod that labels name, if a look-up finds one. -/
def found? (metric : String) (query : SubQuery) (time : Int) (labels : Labels) : Option Row :=
  (name? labels).bind fun pod => row? (query (selector metric pod) time)

/-- What the copying leaves of labels, if the row of their pod is found. -/
def copyFound (excluded : List String) (found : Option Row) (labels : Labels) : Labels :=
  match found with
  | none => labels
  | some row => copyLabels excluded row.labels labels

/-- If a row is found, its label with both prefixes holds what is there under a name already, or it
    has no such label. -/
def HasAsFound (found : Option Row) (labels : Labels) (name : String) : Prop :=
  ∀ row, found = some row → ∀ value, row.labels.get? ("label_k8s_" ++ name) = some value →
    labels.get? name = if value = "" then none else some value

/-- Only a label with both prefixes is copied to an excluded name. -/
theorem get?_copyLabels_of_mem (hplain : ∀ name ∈ excluded, Text.afterLeading "k8s_" name = none)
    (hmem : name ∈ excluded) (pod labels : Labels) :
    (copyLabels excluded pod labels).get? name =
      match pod.get? ("label_k8s_" ++ name) with
      | some value => if value = "" then none else some value
      | none => labels.get? name := by
  have hcopied := copied_copyLabels hplain pod labels name
  generalize (copyLabels excluded pod labels).get? name = left at hcopied ⊢
  -- Only the label with both prefixes can be meant for an excluded name.
  cases hcopied with
  | last hsource hvalue =>
    rcases hsource with ⟨-, -, hnot⟩ | rfl
    · exact absurd hmem hnot
    · rw [hvalue]
  | kept hnone => rw [hnone _ (.inr rfl)]

theorem get?_copyFound_eq_iff (hplain : ∀ name ∈ excluded, Text.afterLeading "k8s_" name = none)
    -- Nothing was found, or the label with both prefixes decides.
    (hmem : name ∈ excluded) (found : Option Row) (labels : Labels) :
    (copyFound excluded found labels).get? name = labels.get? name ↔
      HasAsFound found labels name := by
  cases found with
  | none => simp [copyFound, HasAsFound]
  | some row =>
    rw [copyFound, get?_copyLabels_of_mem hplain hmem]
    cases hvalue : row.labels.get? ("label_k8s_" ++ name) with
    | none => simp [HasAsFound, hvalue]
    | some value =>
      simp only [HasAsFound, Option.some.injEq, forall_eq', hvalue]
      exact eq_comm

/-- Apart from the application, an enriched row has what the copying left. -/
theorem get?_enrich (hname : name ≠ "appid") : (enrich query time labels).labels.get? name =
    (copyFound hashNames (found? "kube_pod_labels" query time labels) labels).get? name := by
  cases hpod : name? labels with
  | none => rw [enrich_of_nameless hpod, found?, hpod, Option.bind_none, copyFound]
  | some pod =>
    -- The identifier is stored under another name.
    rw [enrich_of_name hpod, found?, hpod, Option.bind_some]
    cases row? (query (selector "kube_pod_labels" pod) time) with
    | none => rfl
    | some row => exact (get?_identify _ _ name).trans (if_neg hname)

theorem derive_of_marked (h : labels.contains derivedLabel) :
    derive query time labels = { labels, keep := false, asked := [] } := by
  rw [derive_eq, if_pos h]

theorem derive_of_nameless (h : name? labels = none) :
    derive query time labels = { labels, keep := false, asked := [] } := by
  simp [derive_eq, h]

theorem derive_of_name (hmark : ¬ labels.contains derivedLabel) (h : name? labels = some pod) :
    derive query time labels =
      { labels := (copyFound ["pod_template_hash"]
          (row? (query (selector "kube_pod_labels_ch" pod) time)) labels).assign derivedLabel
            derivedValue
        keep := true, asked := [(selector "kube_pod_labels_ch" pod, time)] } := by
  rw [derive_eq, if_neg hmark, h]
  dsimp only
  cases row? (query (selector "kube_pod_labels_ch" pod) time) <;> rfl

/-- Apart from the mark, a derived row has what the copying left. -/
theorem get?_derive (hkeep : (derive query time labels).keep = true) (hname : name ≠ derivedLabel) :
    (derive query time labels).labels.get? name =
      (copyFound ["pod_template_hash"] (found? "kube_pod_labels_ch" query time labels) labels).get?
        name := by
  by_cases hmark : labels.contains derivedLabel
  · rw [derive_of_marked hmark] at hkeep
    cases hkeep
  · cases hpod : name? labels with
    | none =>
      rw [derive_of_nameless hpod] at hkeep
      cases hkeep
    | some pod =>
      rw [derive_of_name hmark hpod, found?, hpod, Option.bind_some, Labels.get?_assign,
        if_neg hname.symm]

end Pod

namespace FilterRegistry

open Pod

/-- **When an excluded label stays as it was**: just if the row of the pod has no label of that name
    with both prefixes, or that label is what was there already. -/
theorem excluded_label_stays_iff (query : SubQuery) (time : Int) (labels : Labels) :
    let enriched := builtin.apply "app_append_labels" query time labels
    let derived := builtin.apply "app_define_metric" query time labels
    (∀ name ∈ ["pod_template_hash", "controller_revision_hash"],
      (enriched.labels.get? name = labels.get? name ↔
        HasAsFound (found? "kube_pod_labels" query time labels) labels name)) ∧
    (derived.keep = true →
      (derived.labels.get? "pod_template_hash" = labels.get? "pod_template_hash" ↔
        HasAsFound (found? "kube_pod_labels_ch" query time labels) labels
          "pod_template_hash")) := by
  intro enriched derived
  have henriched : enriched = enrich query time labels := apply_enrich query time labels
  have hderived : derived = derive query time labels := apply_derive query time labels
  constructor
  · intro name hmem
    have hname : name ≠ "appid" := by
      rintro rfl
      exact absurd hmem (by decide)
    rw [henriched, get?_enrich hname]
    exact get?_copyFound_eq_iff plain_hashNames hmem _ labels
  · intro hkeep
    rw [hderived] at hkeep ⊢
    rw [get?_derive hkeep (by decide)]
    exact get?_copyFound_eq_iff (by decide) (List.mem_singleton_self _) _ labels

/-- A pod with a hash under both prefixes. -/
def hashAnswer : SubQuery := fun _ _ =>
  .ok [⟨.singleton "label_k8s_pod_template_hash" "5d8f", ⟨0, 1⟩⟩]

/-- A row that has the hash of its pod already keeps it. -/
theorem excluded_label_stays_iff_of_hash :
    let labels : Labels := { entries := [("pod_name", "web-1"), ("pod_template_hash", "5d8f")] }
    HasAsFound (found? "kube_pod_labels" hashAnswer 0 labels) labels "pod_template_hash" ∧
      (builtin.apply "app_append_labels" hashAnswer 0 labels).labels.get? "pod_template_hash" =
        labels.get? "pod_template_hash" := by
  intro labels
  have hfound : HasAsFound (found? "kube_pod_labels" hashAnswer 0 labels) labels
      "pod_template_hash" := by
    intro row hrow value hvalue
    cases hrow
    cases hvalue
    decide
  have hstays := (excluded_label_stays_iff hashAnswer 0 labels).1
    "pod_template_hash" (by decide)
  exact ⟨hfound, hstays.mpr hfound⟩

/-- A row without a hash is given that of its pod. -/
theorem not_excluded_label_stays_of_both_prefixes :
    ¬ ∀ (query : SubQuery) (time : Int) (labels : Labels),
      let enriched := builtin.apply "app_append_labels" query time labels
      let derived := builtin.apply "app_define_metric" query time labels
      (∀ name ∈ ["pod_template_hash", "controller_revision_hash"],
        enriched.labels.get? name = labels.get? name) ∧
      (derived.keep = true →
        derived.labels.get? "pod_template_hash" = labels.get? "pod_template_hash") := by
  intro h
  have hstays := (h hashAnswer 0 (.singleton "pod_name" "web-1")).1
    "pod_template_hash" (by decide)
  exact absurd hstays (by decide)

end FilterRegistry

end LabeledSeries
