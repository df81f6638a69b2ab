import LabeledSeries.Fault

/-!
# Row filters

A filter of a rule changes the labels of a row and decides whether the row stays.  It may ask the
engine for other rows; what it asks is part of its outcome, so a run of filters can be told apart
from another also by its questions.  A filter that is written with `ask` has its questions recorded
as it puts them.

A registry holds filters by name.  A name that it does not know changes nothing.
-/

namespace LabeledSeries

/-- How filters ask for rows: an expression at a time. -/
abbrev SubQuery := String → Int → Except Fault InstantVector

/-- What a filter does with the labels of a row: the new labels, whether the row stays, and what was
    asked, in order. -/
structure Outcome where
  labels : Labels
  keep : Bool
  asked : List (String × Int)

/-- A row filter. -/
abbrev Filter := SubQuery → Int → Labels → Outcome

/-- A computation that may ask for rows.  Its state are the questions so far. -/
abbrev Asking := ReaderT SubQuery (StateM (List (String × Int)))

/-- Ask for the rows of an expression at a time, and record that. -/
def ask (expr : String) (time : Int) : Asking (Except Fault InstantVector) := fun query => do
  modify (· ++ [(expr, time)])
  return query expr time

/-- The filter that computes the new labels of a row and whether it stays. -/
def Filter.asking (act : Int → Labels → Asking (Labels × Bool)) : Filter :=
  fun query time labels =>
    let ((labels, keep), asked) := (act time labels).run query |>.run []
    { labels, keep, asked }

/-- Filters by name. -/
abbrev FilterRegistry := NameMap Filter

namespace FilterRegistry

/-- Run the filter of a name. -/
def apply (registry : FilterRegistry) (name : String) (query : SubQuery) (time : Int)
    (labels : Labels) : Outcome :=
  match registry.get? name with
  | none => { labels, keep := true, asked := [] }
  | some filter => filter query time labels

/-- Run filters one after the other up to the first that rejects the row. -/
def applyAll (registry : FilterRegistry) (query : SubQuery) (time : Int) :
    List String → Labels → Outcome
  | [], labels => { labels, keep := true, asked := [] }
  | name :: names, labels =>
    let outcome := registry.apply name query time labels
    if outcome.keep then
      let later := applyAll registry query time names outcome.labels
      { later with asked := outcome.asked ++ later.asked }
    else outcome

/-- The names of a registry as diagnostics show them. -/
def text (registry : FilterRegistry) : String := Text.quotedSet registry.names

end FilterRegistry

end LabeledSeries
