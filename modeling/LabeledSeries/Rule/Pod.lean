import LabeledSeries.Rule.Record
import LabeledSeries.Rule.Filter

/-!
# Enriching rows with the labels of their pods

Rows of containers name their pod in a label whose name ends in `pod_name`.  The labels of pods are
series of their own, one row for each pod.  Two filters look up the pod of a row and copy its
labels.

## §1 Copying pod labels

A pod carries the label `x` under the name `label_x`, and possibly under `label_k8s_x` as well.

## §2 The application of a row

## §3 User-defined metrics
-/

namespace LabeledSeries.Pod

/-! ## §1 Copying pod labels -/

/-- The value of the first label that names a pod, unless it is empty. -/
def name? (labels : Labels) : Option String :=
  match labels.entries.find? (fun entry => Text.endsIn entry.1 "pod_name") with
  | some (_, value) => if value = "" then none else some value
  | none => none

/-- The expression that selects the row of a pod. -/
def selector (metric pod : String) : String :=
  metric ++ "\x7bpod=\"" ++ pod ++ "\"\x7d"

/-- The name under which a label of a pod is copied, unless it is none of the pod's own labels or is
    excluded. -/
def copyName? (excluded : List String) (name : String) : Option String :=
  match Text.afterLeading "label_" name with
  | none => none
  | some name =>
    if excluded.contains name then none
    else match Text.afterLeading "k8s_" name with
      | some rest => some rest
      | none => some name

/-- Copy the labels of a pod's row, in order; an empty one removes the label it would be copied
    to. -/
def copyLabels (excluded : List String) (pod : Labels) (labels : Labels) : Labels :=
  labels.assignAll (pod.entries.filterMap fun (name, value) =>
    (copyName? excluded name).map fun name => (name, value))

/-- The row of a pod, if a look-up finds one. -/
def row? : Except Fault InstantVector → Option Row
  | .ok rows => rows.head?
  | .error _ => none

/-! ## §2 The application of a row -/

/-- A short identifier of a text. -/
def identifier (text : String) : String := s!"r{Encoding.textChecksum text}"

/-- The hash labels of a pod, which identify no application by themselves. -/
def hashNames : List String := ["pod_template_hash", "controller_revision_hash"]

/-- Give labels an application identifier, unless they have one: from the template hash of the pod
    and the cluster, failing that from the revision hash. -/
def identify (pod labels : Labels) : Labels :=
  if labels.value "appid" ≠ "" then labels
  else
    let template := pod.value "label_pod_template_hash"
    let revision := pod.value "label_controller_revision_hash"
    if template ≠ "" then
      labels.assign "appid" (identifier (template ++ labels.value "clusterId"))
    else if revision ≠ "" then labels.assign "appid" (identifier revision)
    else labels

/-- The filter that adds the labels of its pod and an application identifier to a row.  Every row
    stays; one without a pod, or whose pod is not found, stays as it is. -/
def enrich : Filter := .asking fun time labels => do
  match name? labels with
  | none => return (labels, true)
  | some pod =>
    match row? (← ask (selector "kube_pod_labels" pod) time) with
    | none => return (labels, true)
    | some row => return (identify row.labels (copyLabels hashNames row.labels labels), true)

/-! ## §3 User-defined metrics -/

/-- The filter that derives a user-defined metric from a row of a pod: it adds the labels of the pod
    and the mark of derived series.  Rows with the mark, and rows without a pod, are rejected. -/
def derive : Filter := .asking fun time labels => do
  if labels.contains derivedLabel then return (labels, false)
  else match name? labels with
    | none => return (labels, false)
    | some pod =>
      let copied := match row? (← ask (selector "kube_pod_labels_ch" pod) time) with
        | none => labels
        | some row => copyLabels ["pod_template_hash"] row.labels labels
      return (copied.assign derivedLabel derivedValue, true)

end LabeledSeries.Pod
