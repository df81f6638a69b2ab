import LabeledSeries.Pattern.Escape

/-!
# Bracketed classes

A class in brackets is a union of characters, ranges, named classes and further classes, possibly
negated, and several unions joined by operators that group to the left.
-/

namespace LabeledSeries.Pattern

/-- The operators between the unions of a class. -/
inductive ClassOp where
  | inter
  | diff
  | symmDiff
  deriving Repr, DecidableEq

/-- The operator at the front of a text. -/
def ClassOp.read? : List Char → Option (ClassOp × List Char)
  | '&' :: '&' :: rest => some (.inter, rest)
  | '-' :: '-' :: rest => some (.diff, rest)
  | '~' :: '~' :: rest => some (.symmDiff, rest)
  | _ => none

/-- The set that an operator makes of two. -/
def ClassOp.apply : ClassOp → CharSet → CharSet → CharSet
  | inter => .inter
  | diff => .diff
  | symmDiff => .symmDiff

/-- A set together with how deep the classes and unions in it are nested. -/
structure Nested where
  set : CharSet
  depth : Nat := 0

/-- The letters of a set in the cases that the modes let match. -/
def Modes.fold (modes : Modes) (set : CharSet) : CharSet :=
  if modes.anyCase then (if modes.unicode then .anyCase set else .anyAsciiCase set) else set

/-- A set or its complement.  Outside Unicode a complement would hold pieces of characters, so there
    is none. -/
def Modes.negate? (modes : Modes) (negated : Bool) (set : CharSet) : Option CharSet :=
  if !negated then some set else if modes.unicode then some (.compl set) else none

/-- The union of the items of a class. -/
def unionOf : List Nested → Nested
  | [] => { set := .nothing }
  | [item] => item
  | items => {
      set := CharSet.unions (items.map (·.set))
      depth := (items.map (·.depth)).foldl max 0 + 1 }

/-- A left operand that waits for its right one. -/
abbrev Held := Option (Nested × ClassOp)

/-- The value of a union with the operand before it. -/
def Modes.join (modes : Modes) (held : Held) (right : Nested) : Nested :=
  match held with
  | none => right
  | some (left, op) => {
      set := op.apply (modes.fold left.set) (modes.fold right.set)
      depth := max left.depth right.depth + 1 }

/-- A named class, after its opening bracket: a colon, the name, a colon and a bracket. -/
def namedClass (modes : Modes) : List Char → Option (Option CharSet × List Char)
  | ':' :: rest =>
    let (negated, rest) := match rest with
      | '^' :: rest => (true, rest)
      | rest => (false, rest)
    let name := rest.takeWhile (· != ':')
    match rest.drop name.length with
    | ':' :: ']' :: rest =>
      (CharSet.named? (String.ofList name)).map fun set =>
        (modes.negate? negated (modes.fold set), rest)
    | _ => none
  | _ => none

/-- One character of a class, written plainly or escaped; no byte beyond ASCII where characters are
    those of ASCII. -/
def classChar (modes : Modes) : List Char → Option (Char × List Char)
  | [] => none
  | '\\' :: rest =>
    match escape modes rest with
    | some (.char c, rest) | some (.byte c, rest) =>
      if modes.unicode || c.toNat < 128 then some (c, rest) else none
    | _ => none
  | c :: rest => if modes.unicode || c.toNat < 128 then some (c, rest) else none

/-- A character or a range of a class.  A hyphen before the closing bracket or before another hyphen
    makes no range. -/
def classRange (modes : Modes) (rest : List Char) : Option (CharSet × List Char) := do
  let (first, rest) ← classChar modes rest
  match modes.skip rest with
  | [] => none
  | '-' :: after =>
    match modes.peek ('-' :: after) with
    | some ']' | some '-' => return (.single first, '-' :: after)
    | _ =>
      let (last, rest) ← classChar modes (modes.skip after)
      if first ≤ last then return (.range first last, rest) else none
  | rest => return (.single first, rest)

/-- The hyphens at the start of a class, which stand for themselves. -/
def leadingHyphens (modes : Modes) : Nat → List Char → Nat × List Char
  | 0, rest => (0, rest)
  | fuel + 1, rest =>
    match rest with
    | '-' :: after =>
      let (count, rest) := leadingHyphens modes fuel (modes.skip after)
      (count + 1, rest)
    | rest => (0, rest)

/-- The start of a class after its opening bracket: whether it is negated, and the hyphens and the
    closing bracket that stand for themselves there. -/
def classStart (modes : Modes) (rest : List Char) : Bool × List Nested × List Char :=
  let (negated, rest) := match modes.skip rest with
    | '^' :: after => (true, modes.skip after)
    | rest => (false, rest)
  let (hyphens, rest) := leadingHyphens modes rest.length rest
  let items : List Nested := List.replicate hyphens { set := .single '-' }
  match items, rest with
  | [], ']' :: after => (negated, [{ set := .single ']' }], modes.skip after)
  | _, _ => (negated, items, rest)

/-- The rest of a class, given the items of its open union, latest first, and the operand before it.
    `fuel` is at least the length of the text. -/
def classRest (modes : Modes) : Nat → (negated : Bool) → Held → List Nested → List Char →
    Option (Nested × List Char)
  | 0, _, _, _, _ => none
  | fuel + 1, negated, held, items, rest =>
    match modes.skip rest with
    | [] => none
    | '[' :: after =>
      match namedClass modes after with
      | some (some set, rest) => classRest modes fuel negated held ({ set } :: items) rest
      | some (none, _) => none
      | none => do
        let (innerNegated, innerItems, rest) := classStart modes after
        let (inner, rest) ← classRest modes fuel innerNegated none innerItems rest
        classRest modes fuel negated held (inner :: items) rest
    | ']' :: rest => do
      let whole := modes.join held (unionOf items)
      let set ← modes.negate? negated (modes.fold whole.set)
      return ({ set, depth := whole.depth + 1 }, rest)
    | c :: after =>
      match ClassOp.read? (c :: after) with
      | some (op, rest) =>
        classRest modes fuel negated (some (modes.join held (unionOf items), op)) [] rest
      | none => do
        let (set, rest) ← classRange modes (c :: after)
        classRest modes fuel negated held ({ set } :: items) rest

/-- A class after its opening bracket. -/
def bracketed (modes : Modes) (rest : List Char) : Option (Nested × List Char) :=
  let (negated, items, rest) := classStart modes rest
  classRest modes (rest.length + 1) negated none items rest

end LabeledSeries.Pattern
