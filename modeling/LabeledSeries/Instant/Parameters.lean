import LabeledSeries.Fault
import LabeledSeries.Text.Blank

/-!
# Parameters of label functions

Functions on vectors take their parameters as texts.  This module turns such texts into names, pairs
of names and lists of pairs, and faults those that cannot be used.  Nothing here looks at a row: a
function first reads its parameters and then, without further faults, changes its rows.
-/

namespace LabeledSeries.Parameters

/-- Fault a text that is not a label name. -/
def checkName (function name : String) : Except Fault Unit :=
  if Text.isLabelName name then .ok () else .error (.invalidLabelName function name)

/-- Fault the first text of a list that is not a label name. -/
def checkNames (function : String) : List String → Except Fault Unit
  | [] => .ok ()
  | name :: names => do
    checkName function name
    checkNames function names

/-- The first two pieces of a text between separators, without the blanks around them.  A second
    piece that is missing or blank repeats the first. -/
def splitPair (separator : Char) (text : String) : String × String :=
  match Text.pieces separator text with
  | [] => ("", "")
  | [first] => (Text.trim first, Text.trim first)
  | first :: second :: _ =>
    let source := Text.trim first
    let target := Text.trim second
    if target = "" then (source, source) else (source, target)

/-- A pair of label names written with a separator. -/
def namePair (function : String) (separator : Char) (text : String) :
    Except Fault (String × String) := do
  let (first, second) := splitPair separator text
  checkName function first
  checkName function second
  return (first, second)

/-- The copies that a list of `source:target` texts asks for. -/
def copySpecs (function : String) : List String → Except Fault (List (String × String))
  | [] => .ok []
  | spec :: specs => do
    let copy ← namePair function ':' spec
    let copies ← copySpecs function specs
    return copy :: copies

/-- A list cut into pairs; an odd last element is dropped. -/
def pairUp : List String → List (String × String)
  | first :: second :: rest => (first, second) :: pairUp rest
  | _ => []

/-- The pairs of a list of alternating keys and values, which must have even length. -/
def pairs (function : String) (arguments : List String) : Except Fault (List (String × String)) :=
  if arguments.length % 2 = 0 then .ok (pairUp arguments)
  else .error (.invalidParameters function (.unpaired arguments.length))

/-- Label names written between separators, each without the blanks around it. -/
def nameList (function : String) (separator : Char) (text : String) :
    Except Fault (List String) := do
  let names := (Text.pieces separator text).map Text.trim
  checkNames function names
  return names

/-- Fault a list of targets that does not have one for each vector. -/
def checkTargetCount (function : String) (targets vectors : Nat) : Except Fault Unit :=
  if targets = vectors then .ok ()
  else .error (.invalidParameters function (.targetCount targets vectors))

end LabeledSeries.Parameters
