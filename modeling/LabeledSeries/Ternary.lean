import LabeledSeries.Fault

/-!
# Conditional label expressions

A *ternary* `key OP operand ? then : otherwise` tests one label of a row and chooses one of two
outcomes, as in `env==prod?blue:green` or `__v__0>='10'?'high':'low'`.  All comparisons are those of
texts, code point by code point, also where the value of the row is compared.

## §1 Expressions

## §2 Reading

The parts of an expression are cut off from the left.  Each part is the longest run of its
characters, and no part may be followed by a character of its own class, so there is at most one way
to cut.

## §3 Meaning
-/

namespace LabeledSeries

/-! ## §1 Expressions -/

/-- How a label is compared with the operand. -/
inductive Comparison where
  | equal
  | different
  | atLeast
  | atMost
  | above
  | below
  deriving Repr, DecidableEq

/-- The sign of a comparison. -/
def Comparison.sign : Comparison → List Char
  | .equal => ['=', '=']
  | .different => ['!', '=']
  | .atLeast => ['>', '=']
  | .atMost => ['<', '=']
  | .above => ['>']
  | .below => ['<']

/-- What a comparison says of two texts. -/
def Comparison.holds : Comparison → String → String → Bool
  | .equal, a, b => a == b
  | .different, a, b => a != b
  | .atLeast, a, b => decide (b ≤ a)
  | .atMost, a, b => decide (a ≤ b)
  | .above, a, b => decide (b < a)
  | .below, a, b => decide (a < b)

/-- An operand or outcome: quoted text, which stands for itself, or a bare token. -/
inductive Operand where
  | literal (text : String)
  | bare (token : String)
  deriving Repr, DecidableEq

/-- A conditional expression. -/
structure Ternary where
  key : String
  comparison : Comparison
  operand : Operand
  whenTrue : Operand
  whenFalse : Operand
  deriving Repr, DecidableEq

/-- The written form of an operand. -/
def Operand.chars : Operand → List Char
  | .literal text => '\'' :: text.toList ++ ['\'']
  | .bare token => token.toList

/-- The written form of an expression. -/
def Ternary.chars (ternary : Ternary) : List Char :=
  ternary.key.toList ++ ternary.comparison.sign ++ ternary.operand.chars ++
    '?' :: ternary.whenTrue.chars ++ ':' :: ternary.whenFalse.chars

/-! ## §2 Reading -/

namespace Ternary

/-- The characters of keys and outcomes: ASCII letters, digits and the underscore. -/
def isTokenChar (c : Char) : Bool := c.isAlphanum || c == '_'

/-- The characters of operands: those of keys, and the point. -/
def isOperandChar (c : Char) : Bool := isTokenChar c || c == '.'

/-- The longest run of characters of a class, and the rest. -/
def run (isPart : Char → Bool) (text : List Char) : List Char × List Char :=
  (text.takeWhile isPart, text.dropWhile isPart)

/-- A comparison sign and the rest; the longer signs come first. -/
def readComparison : List Char → Option (Comparison × List Char)
  | '=' :: '=' :: rest => some (.equal, rest)
  | '!' :: '=' :: rest => some (.different, rest)
  | '>' :: '=' :: rest => some (.atLeast, rest)
  | '<' :: '=' :: rest => some (.atMost, rest)
  -- Here no equals sign follows.
  | '>' :: rest => some (.above, rest)
  | '<' :: rest => some (.below, rest)
  | _ => none

/-- An operand over a class of characters and the rest: quoted text, which may be empty, or a bare
    token, which may not. -/
def readOperand (isPart : Char → Bool) : List Char → Option (Operand × List Char)
  | '\'' :: text =>
    match run isPart text with
    | (body, '\'' :: rest) => some (.literal (String.ofList body), rest)
    | _ => none
  | text =>
    match run isPart text with
    | ([], _) => none
    | (token, rest) => some (.bare (String.ofList token), rest)

/-- The rest of a text after a given character. -/
def expect (c : Char) : List Char → Option (List Char)
  | [] => none
  | d :: rest => if d = c then some rest else none

/-- The expression that a list of characters writes. -/
def ofChars? (text : List Char) : Option Ternary := do
  let (key, text) := run isTokenChar text
  if key.isEmpty then none
  else
    let (comparison, text) ← readComparison text
    let (operand, text) ← readOperand isOperandChar text
    let text ← expect '?' text
    let (whenTrue, text) ← readOperand isTokenChar text
    let text ← expect ':' text
    let (whenFalse, text) ← readOperand isTokenChar text
    if text.isEmpty then
      some { key := String.ofList key, comparison, operand, whenTrue, whenFalse }
    else none

/-- The expression that a text writes. -/
def read (text : String) : Except Fault Ternary :=
  match ofChars? text.toList with
  | some ternary => .ok ternary
  | none => .error (.notTernary text)

end Ternary

/-! ## §3 Meaning -/

/-- What an operand stands for in a row: quoted text for itself, the value name for the row's value,
    another token for the label of that name, and for itself where there is no such label. -/
def Operand.resolve (operand : Operand) (row : Row) : String :=
  match operand with
  | .literal text => text
  | .bare token => if token = ownValue then row.valueText else (row.labels.get? token).getD token

/-- The text that is tested: the row's value, or a label, which reads as empty where it is
    missing. -/
def Ternary.subject (ternary : Ternary) (row : Row) : String :=
  if ternary.key = ownValue then row.valueText else row.labels.value ternary.key

/-- The outcome of an expression in a row. -/
def Ternary.eval (ternary : Ternary) (row : Row) : String :=
  if ternary.comparison.holds (ternary.subject row) (ternary.operand.resolve row) then
    ternary.whenTrue.resolve row
  else ternary.whenFalse.resolve row

end LabeledSeries
