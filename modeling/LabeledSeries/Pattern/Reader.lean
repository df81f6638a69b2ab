import LabeledSeries.Pattern.Class

/-!
# Reading patterns

The written form of a pattern: characters and escapes, classes in brackets, groups, choices
separated by bars, and repetitions after what they repeat.  `Pattern.read?` refuses a text that is
not well-formed, that nests too deep, or whose automaton would be too large.

A group may set modes for itself, `(?i:…)`, or for the rest of the group around it, `(?i)`; the
latter is an item of its own that cannot be repeated.
-/

namespace LabeledSeries.Pattern

/-- A pattern that has been read: how deep it nests, and the names of the groups in it. -/
structure Part where
  pattern : Pattern := .empty
  depth : Nat := 0
  names : List (List Char) := []
  /-- Whether a repetition may follow. -/
  repeatable : Bool := true

/-- Several parts as one, joined two at a time. -/
def Part.joined (join : Pattern → Pattern → Pattern) : List Part → Part
  | [] => {}
  | [part] => part
  | first :: rest => {
      pattern := rest.foldl (fun whole part => join whole part.pattern) first.pattern
      depth := ((first :: rest).map (·.depth)).foldl max 0 + 1
      names := (first :: rest).flatMap (·.names) }

/-- The parts of a sequence, latest first, as one. -/
def Part.sequence (items : List Part) : Part := Part.joined .both items.reverse

/-- The branches of a choice, latest first, as one. -/
def Part.choice (branches : List Part) : Part := Part.joined .either branches.reverse

/-- A part repeated. -/
def Part.times (part : Part) (least : Nat) (most : Option Nat) : Part :=
  { part with pattern := .times part.pattern least most, depth := part.depth + 1 }

/-! ## Characters -/

/-- The characters that stand for a written one under the modes. -/
def Modes.letterSet (modes : Modes) (c : Char) : CharSet :=
  if !modes.anyCase then .single c
  else if modes.unicode then
    (if Text.caseVariants c.toNat == [c.toNat] then .single c else .anyCase (.single c))
  else if c.isAlpha then .anyAsciiCase (.single c) else .single c

/-- The characters that a full stop matches. -/
def Modes.stopSet (modes : Modes) : CharSet :=
  if modes.dotAll then .compl .nothing
  else if modes.returns then .compl (.union (.single '\r') (.single '\n'))
  else .compl (.single '\n')

/-- The place of a caret. -/
def Modes.caret (modes : Modes) : Place :=
  if !modes.lines then .textStart else if modes.returns then .returnLineStart else .lineStart

/-- The place of a dollar sign. -/
def Modes.dollar (modes : Modes) : Place :=
  if !modes.lines then .textEnd else if modes.returns then .returnLineEnd else .lineEnd

/-- A single character, place or class at the front of the text. -/
def single (modes : Modes) : List Char → Option (Part × List Char)
  | [] => none
  | '\\' :: rest => do
    match ← escape modes rest with
    | (.char c, rest) => return ({ pattern := .one (modes.letterSet c) }, rest)
    | (.byte c, rest) =>
      if modes.unicode || c.toNat < 128 then
        return ({ pattern := .one (modes.letterSet c) }, rest)
      else none
    | (.edge edge, rest) => return ({ pattern := .place (.word edge !modes.unicode) }, rest)
  | '.' :: rest => if modes.unicode then some ({ pattern := .one modes.stopSet }, rest) else none
  | '^' :: rest => some ({ pattern := .place modes.caret }, rest)
  | '$' :: rest => some ({ pattern := .place modes.dollar }, rest)
  | '[' :: rest => do
    let (nested, rest) ← bracketed modes rest
    return ({ pattern := .one nested.set, depth := nested.depth }, rest)
  | c :: rest => some ({ pattern := .one (modes.letterSet c) }, rest)

/-! ## Repetitions -/

/-- The largest count of a repetition. -/
def countLimit : Nat := 4294967295

/-- The digits of a count, between which the modes may let blanks stand. -/
def countDigits (modes : Modes) : Nat → (value : Option Nat) → List Char → Option Nat × List Char
  | 0, value, rest => (value, rest)
  | fuel + 1, value, rest =>
    match rest with
    | c :: after =>
      if c.isDigit then
        countDigits modes fuel (some (value.getD 0 * 10 + (c.toNat - 48))) (modes.skip after)
      else (value, rest)
    | [] => (value, rest)

/-- A count with blanks around it. -/
def count (modes : Modes) (rest : List Char) : Option (Nat × List Char) := do
  let rest := rest.dropWhile Text.isBlank
  let (value, rest) := countDigits modes rest.length none rest
  let value ← value
  if countLimit < value then none
  else return (value, modes.skip (rest.dropWhile Text.isBlank))

/-- The bounds of a repetition after its opening brace, up to the closing one. -/
def bounds (modes : Modes) (rest : List Char) : Option ((Nat × Option Nat) × List Char) := do
  let (least, rest) ← count modes (modes.skip rest)
  match rest with
  | '\x7d' :: rest => return ((least, some least), rest)
  | ',' :: rest =>
    match modes.skip rest with
    | '\x7d' :: rest => return ((least, none), rest)
    | rest =>
      let (most, rest) ← count modes rest
      match rest with
      | '\x7d' :: rest => if least ≤ most then return ((least, some most), rest) else none
      | _ => none
  | _ => none

/-- The text after the mark for few rounds, if it is there. -/
def skipBrief : List Char → List Char
  | '?' :: rest => rest
  | rest => rest

/-- A repetition at the front of the text, if there is one: its bounds, or nothing if it is not
    well-formed. -/
def repetition (modes : Modes) : List Char → Option (Option ((Nat × Option Nat) × List Char))
  | '?' :: rest => some (some ((0, some 1), skipBrief rest))
  | '*' :: rest => some (some ((0, none), skipBrief rest))
  | '+' :: rest => some (some ((1, none), skipBrief rest))
  | '\x7b' :: rest => some ((bounds modes rest).map fun (bounds, rest) =>
      (bounds, skipBrief (modes.skip rest)))
  | _ => none

/-! ## Groups -/

/-- The modes after switching one of them. -/
def Modes.switch (modes : Modes) (on : Bool) : Char → Option Modes
  | 'i' => some { modes with anyCase := on }
  | 'm' => some { modes with lines := on }
  | 's' => some { modes with dotAll := on }
  | 'R' => some { modes with returns := on }
  | 'U' => some { modes with brief := on }
  | 'u' => some { modes with unicode := on }
  | 'x' => some { modes with spaced := on }
  | _ => none

/-- The modes after a word of letters, each at most once, of which those after a hyphen are switched
    off. -/
def Modes.switches (modes : Modes) (word : List Char) : Option Modes := do
  if ¬word.Nodup ∨ word.getLast? = some '-' then none
  else
    let on := word.takeWhile (· != '-')
    let off := (word.dropWhile (· != '-')).tail
    let modes ← on.foldlM (fun modes c => modes.switch true c) modes
    off.foldlM (fun modes c => modes.switch false c) modes

/-- Whether a character can begin the name of a group. -/
def isNameStart (c : Char) : Bool := c == '_' || Text.isLetter c

/-- Whether a character can continue the name of a group. -/
def isNameRest (c : Char) : Bool :=
  c == '_' || c == '.' || c == '[' || c == ']' || Text.isLetterOrNumeral c

/-- The name of a group, up to the closing angle bracket. -/
def groupName (rest : List Char) : Option (List Char × List Char) :=
  let name := rest.takeWhile (· != '>')
  match name, rest.drop name.length with
  | c :: more, '>' :: rest =>
    if isNameStart c && more.all isNameRest then some (name, rest) else none
  | _, _ => none

/-- What an opening parenthesis begins. -/
inductive Opening where
  | group (names : List (List Char)) (modes : Modes)
  /-- Modes for the rest of the group around it. -/
  | modes (modes : Modes)

/-- What an opening parenthesis begins, and the text from there.  Conditions on the text around a
    match are refused. -/
def opening (modes : Modes) (rest : List Char) : Option (Opening × List Char) := do
  match modes.skip rest with
  | '?' :: '=' :: _ | '?' :: '!' :: _ | '?' :: '<' :: '=' :: _ | '?' :: '<' :: '!' :: _ => none
  | '?' :: 'P' :: '<' :: rest | '?' :: '<' :: rest =>
    let (name, rest) ← groupName rest
    return (.group [name] modes, rest)
  | '?' :: rest =>
    let word := rest.takeWhile (fun c => c != ':' && c != ')')
    let inner ← modes.switches word
    match rest.drop word.length with
    | ':' :: rest => return (.group [] inner, rest)
    | ')' :: rest => if word.isEmpty then none else return (.modes inner, rest)
    | _ => none
  | rest => return (.group [] modes, rest)

/-- The rest of a group up to its closing parenthesis, or of the whole pattern up to its end, given
    the items of the open branch and the branches before it, both latest first.  `fuel` is more than
    the length of the text. -/
def groupRest : Nat → Modes → (inner : Bool) → (branches items : List Part) → List Char →
    Option (Part × List Char)
  | 0, _, _, _, _, _ => none
  | fuel + 1, modes, inner, branches, items, rest =>
    match modes.skip rest with
    | [] => if inner then none else some (Part.choice (Part.sequence items :: branches), [])
    | ')' :: rest =>
      if inner then some (Part.choice (Part.sequence items :: branches), rest) else none
    | '|' :: rest => groupRest fuel modes inner (Part.sequence items :: branches) [] rest
    | '(' :: rest => do
      match ← opening modes rest with
      | (.modes modes, rest) =>
        groupRest fuel modes inner branches ({ repeatable := false } :: items) rest
      | (.group names innerModes, rest) =>
        let (part, rest) ← groupRest fuel innerModes true [] [] rest
        let group := { part with
          depth := part.depth + 1, names := names ++ part.names, repeatable := true }
        groupRest fuel modes inner branches (group :: items) rest
    | rest =>
      match repetition modes rest, items with
      | some (some ((least, most), rest)), item :: items =>
        if item.repeatable then
          groupRest fuel modes inner branches (item.times least most :: items) rest
        else none
      | some _, _ => none
      | none, _ => do
        let (item, rest) ← single modes rest
        groupRest fuel modes inner branches (item :: items) rest

/-! ## Patterns -/

/-- How deep a pattern may nest. -/
def depthLimit : Nat := 250

/-- The pattern that a text writes. -/
def read? (text : String) : Option Pattern := do
  let chars := text.toList
  let (part, _) ← groupRest (chars.length + 1) {} false [] [] chars
  if part.depth ≤ depthLimit ∧ part.names.Nodup ∧ part.pattern.weight ≤ weightLimit then
    return part.pattern
  else none

/-- The pattern of the texts that match as a whole. -/
def readWhole? (text : String) : Option Pattern := read? ("^(?:" ++ text ++ ")$")

end LabeledSeries.Pattern
