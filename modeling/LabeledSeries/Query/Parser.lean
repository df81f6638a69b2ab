import LabeledSeries.Query.Formation
import LabeledSeries.Query.Quantity
import LabeledSeries.Query.Token

/-!
# Reading expressions

From tokens to expressions.  Operators bind by their levels; a sign in front of an operand binds
like a product, and what follows an operand, a range or a shift, binds tightest.  Keywords may be
written in any case, and most of them may also name a metric.

Every reader takes the tokens that are left and gives what it read with the tokens after it.
-/

namespace LabeledSeries.Query

/-- A word as keywords are compared. -/
def keyword (word : String) : String := word.map Char.toLower

/-- The aggregation of a keyword. -/
def Aggregator.ofKeyword? : String → Option Aggregator
  | "sum" => some .sum
  | "avg" => some .avg
  | "count" => some .count
  | "min" => some .min
  | "max" => some .max
  | "group" => some .group
  | "stddev" => some .stddev
  | "stdvar" => some .stdvar
  | "topk" => some .topk
  | "bottomk" => some .bottomk
  | "count_values" => some .countValues
  | "quantile" => some .quantile
  | _ => none

/-- The keywords that name no metric. -/
def refusedNames : List String := ["on", "ignoring", "bool", "group_left", "group_right", "atan2"]

/-- The keywords that name a metric, besides those of aggregations. -/
def keywordNames : List String := ["and", "or", "unless", "offset", "by", "without", "start", "end"]

/-- The operator that a token writes. -/
def BinaryOp.ofToken? : Token → Option BinaryOp
  | .sign .equal => some .equal
  | .sign .notEqual => some .notEqual
  | .sign .less => some .less
  | .sign .lessEqual => some .lessEqual
  | .sign .greater => some .greater
  | .sign .greaterEqual => some .greaterEqual
  | .sign .add => some .add
  | .sign .sub => some .sub
  | .sign .mul => some .mul
  | .sign .div => some .div
  | .sign .mod => some .mod
  | .sign .pow => some .pow
  | .word word =>
    match keyword word with
    | "or" => some .union
    | "and" => some .intersection
    | "unless" => some .complement
    | "atan2" => some .atan2
    | _ => none
  | _ => none

/-! ## Matchers -/

/-- The rule that a sign between braces writes. -/
def MatchRule.ofSign? : Sign → Option MatchRule
  | .assign => some .equal
  | .notEqual => some .differs
  | .matching => some .matching
  | .notMatching => some .notMatching
  | _ => none

/-- One matcher and more after it, up to the closing brace, before which a comma may stand. -/
def matcherList : List Token → Option (List Matcher × List Token)
  | .label label :: .sign sign :: .quoted value :: rest => do
    let matcher : Matcher := ⟨label, ← MatchRule.ofSign? sign, value⟩
    match rest with
    | .sign .rightBrace :: rest => return ([matcher], rest)
    | .sign .comma :: .sign .rightBrace :: rest => return ([matcher], rest)
    | .sign .comma :: rest =>
      let (matchers, rest) ← matcherList rest
      return (matcher :: matchers, rest)
    | _ => none
  | _ => none

/-- The matchers after an opening brace. -/
def matchers : List Token → Option (List Matcher × List Token)
  | .sign .rightBrace :: rest => some ([], rest)
  | rest => matcherList rest

/-! ## Lists of labels -/

/-- Whether a word can be a label in a list: `without` and the names of numbers cannot. -/
def isListedLabel (word : String) : Bool :=
  Text.isLabelName word && !(["without", "inf", "nan"].contains (keyword word))

/-- One label and more after it, up to the closing parenthesis, before which a comma may stand. -/
def labelList : List Token → Option (List String × List Token)
  | .word label :: rest =>
    -- A keyword may name a label, unless it is one of the three above.
    if !isListedLabel label then none
    else match rest with
      | .sign .rightParen :: rest => some ([label], rest)
      | .sign .comma :: .sign .rightParen :: rest => some ([label], rest)
      | .sign .comma :: rest => do
        let (labels, rest) ← labelList rest
        return (label :: labels, rest)
      | _ => none
  | _ => none

/-- A list of labels in parentheses. -/
def labels : List Token → Option (List String × List Token)
  | .sign .leftParen :: .sign .rightParen :: rest => some ([], rest)
  | .sign .leftParen :: rest => labelList rest
  | _ => none

/-- The grouping of an aggregation, if there is one. -/
def grouping (tokens : List Token) : Option (Option Grouping × List Token) :=
  let some? (without : Bool) (rest : List Token) : Option (Option Grouping × List Token) := do
    let (labels, rest) ← labels rest
    return (some ⟨without, labels⟩, rest)
  match tokens with
  | .word word :: rest =>
    match keyword word with
    | "by" => some? false rest
    | "without" => some? true rest
    | _ => some (none, tokens)
  | _ => some (none, tokens)

/-- The groups of a pairing, if there are any; a parenthesis after the keyword opens their
    labels. -/
def pairingGroup (pairing : Pairing) (tokens : List Token) : Option (Pairing × List Token) :=
  match tokens with
  | .word word :: rest =>
    if keyword word = "group_left" ∨ keyword word = "group_right" then
      match rest with
      -- Without a parenthesis the keyword itself makes the group, of no labels.
      | .sign .leftParen :: _ => do
        let (labels, rest) ← labels rest
        return ({ pairing with group := some labels }, rest)
      | _ => some ({ pairing with group := some [] }, rest)
    else some (pairing, tokens)
  | _ => some (pairing, tokens)

/-- The labels of a pairing and its groups, if there are any. -/
def pairingLabels (pairing : Pairing) (tokens : List Token) : Option (Pairing × List Token) :=
  let some? (on : Bool) (rest : List Token) : Option (Pairing × List Token) := do
    let (labels, rest) ← labels rest
    pairingGroup { pairing with labels := some (on, labels) } rest
  match tokens with
  | .word word :: rest =>
    match keyword word with
    | "on" => some? true rest
    | "ignoring" => some? false rest
    | _ => some (pairing, tokens)
  | _ => some (pairing, tokens)

/-- The pairing after an operator. -/
def pairing (tokens : List Token) : Option (Pairing × List Token) :=
  match tokens with
  | .word word :: rest =>
    if keyword word = "bool" then pairingLabels { returnsBool := true } rest
    else pairingLabels {} tokens
  | _ => some ({}, tokens)

/-! ## What follows an operand -/

/-- The largest double. -/
def farthest : Float := 1.7976931348623157e308

/-- The pin of a number of seconds, which is less than the largest double in both directions. -/
def pinAt? (x : Float) : Option Pin :=
  if x.abs < farthest then some (.seconds x) else none

/-- The number of a word that names one. -/
def namedNumber? (word : String) : Option Float :=
  if keyword word = "inf" ∨ keyword word = "nan" then number? word else none

/-- A number without a sign. -/
def unsigned : List Token → Option (Float × List Token)
  | .number text :: rest => (number? text).map (·, rest)
  | .word word :: rest => (namedNumber? word).map (·, rest)
  | _ => none

/-- The pin after an at sign. -/
def pin : List Token → Option (Pin × List Token)
  | .word word :: .sign .leftParen :: .sign .rightParen :: rest =>
    match keyword word with
    | "start" => some (.queryStart, rest)
    | "end" => some (.queryEnd, rest)
    | _ => none
  | .sign .sub :: rest => do
    let (x, rest) ← unsigned rest
    return (← pinAt? (-x), rest)
  | .sign .add :: rest => do
    let (x, rest) ← unsigned rest
    return (← pinAt? x, rest)
  | rest => do
    let (x, rest) ← unsigned rest
    return (← pinAt? x, rest)

/-- What may follow an operand, applied to it: ranges, steps and shifts, as many as there are.
    `fuel` is at least the number of tokens. -/
def suffixes : Nat → Expr → List Token → Option (Expr × List Token)
  | 0, e, rest => some (e, rest)
  | fuel + 1, e, tokens =>
    match tokens with
    | .sign .leftBracket :: .duration span :: .sign .rightBracket :: rest => do
      suffixes fuel (← e.range? (← span? span)) rest
    | .sign .leftBracket :: .duration span :: .sign .colon :: .sign .rightBracket :: rest => do
      -- A step may be left out, the colon before it not.
      suffixes fuel (← (Expr.subquery e (← span? span) none {}).check?) rest
    | .sign .leftBracket :: .duration span :: .sign .colon :: .duration step ::
        .sign .rightBracket :: rest => do
      suffixes fuel (← (Expr.subquery e (← span? span) (some (← span? step)) {}).check?) rest
    | .sign .leftBracket :: _ => none
    | .sign .at :: rest => do
      let (pin, rest) ← pin rest
      suffixes fuel (← e.pinned? pin) rest
    | .word word :: rest =>
      if keyword word = "offset" then
        match rest with
        -- The shift of a selector may be written with either sign.
        | .duration span :: rest | .sign .add :: .duration span :: rest => do
          suffixes fuel (← e.moved? false (← span? span)) rest
        | .sign .sub :: .duration span :: rest => do
          suffixes fuel (← e.moved? true (← span? span)) rest
        | _ => none
      else some (e, tokens)
    | _ => some (e, tokens)

/-! ## Expressions -/

/-- A selector whose metric is named by a word. -/
def namedSelector (name : String) : List Token → Option (Expr × List Token)
  | .sign .leftBrace :: rest => do
    let (matchers, rest) ← matchers rest
    return (← (Expr.instant { name := some name, matchers }).check?, rest)
  | rest => some (.instant { name := some name, matchers := [] }, rest)

/-- Whether an aggregation goes on after its keyword. -/
def aggregates : List Token → Bool
  | .sign .leftParen :: _ => true
  | .word word :: _ => keyword word == "by" || keyword word == "without"
  | _ => false

mutual

/-- An expression of operators that bind at least at a level. -/
def expression : Nat → Nat → List Token → Option (Expr × List Token)
  | 0, _, _ => none
  | fuel + 1, level, tokens => do
    let (left, rest) ← operand fuel tokens
    operations fuel level left rest

/-- The operators after a left operand, with their right operands. -/
def operations : Nat → Nat → Expr → List Token → Option (Expr × List Token)
  | 0, _, _, _ => none
  | fuel + 1, level, left, tokens =>
    match tokens with
    | [] => some (left, [])
    | token :: rest =>
      match BinaryOp.ofToken? token with
      | none => some (left, tokens)
      | some op =>
        -- An operator that binds less closely than asked is left to the caller.
        if op.level < level then some (left, tokens)
        else do
          let (pairing, rest) ← pairing rest
          let (right, rest) ← expression fuel op.rightLevel rest
          operations fuel level (← (Expr.binary op pairing left right).check?) rest

/-- An operand with the signs in front of it and what follows it. -/
def operand : Nat → List Token → Option (Expr × List Token)
  | 0, _ => none
  | fuel + 1, tokens =>
    match tokens with
    -- A sign binds less closely than a power, and more closely than all other operators.
    | .sign .add :: rest => expression fuel BinaryOp.pow.level rest
    | .sign .sub :: rest => do
      let (e, rest) ← expression fuel BinaryOp.pow.level rest
      return (← e.negate?, rest)
    | _ => do
      let (e, rest) ← primary fuel tokens
      suffixes rest.length e rest

/-- A literal, a selector, an aggregation, a call, or an expression in parentheses. -/
def primary : Nat → List Token → Option (Expr × List Token)
  | 0, _ => none
  | fuel + 1, tokens =>
    match tokens with
    | .number text :: rest => (number? text).map (.number ·, rest)
    | .quoted s :: rest => some (.text s, rest)
    | .sign .leftBrace :: rest => do
      let (matchers, rest) ← matchers rest
      return (← (Expr.instant { name := none, matchers }).check?, rest)
    | .sign .leftParen :: rest => do
      let (inner, rest) ← expression fuel BinaryOp.union.level rest
      match rest with
      | .sign .rightParen :: rest => return (.paren inner, rest)
      | _ => none
    | .word word :: rest =>
      let key := keyword word
      match Aggregator.ofKeyword? key with
      | some op =>
        -- Without a parenthesis or a grouping behind it, the keyword of an aggregation names a
        -- metric.
        if aggregates rest then do
          let (before, rest) ← grouping rest
          let (args, rest) ← arguments fuel rest
          -- The grouping stands before the arguments or after them, not in both places.
          let (after, rest) ← if before.isSome then some (before, rest) else grouping rest
          return (← (Expr.aggregate op after args).check?, rest)
        else namedSelector word rest
      | none =>
        if refusedNames.contains key then none
        else match namedNumber? word with
          | some x => some (.number x, rest)
          | none =>
            match rest with
            | .sign .leftParen :: _ =>
              if keywordNames.contains key then none
              else do
                let function ← KnownFunction.ofName? word
                let (args, rest) ← arguments fuel rest
                return (← (Expr.call function args).check?, rest)
            | _ => namedSelector word rest
    | _ => none

/-- The arguments of a call in parentheses. -/
def arguments : Nat → List Token → Option (List Expr × List Token)
  | 0, _ => none
  | fuel + 1, tokens =>
    match tokens with
    | .sign .leftParen :: .sign .rightParen :: rest => some ([], rest)
    | .sign .leftParen :: rest => argumentList fuel rest
    | _ => none

/-- One argument and more after it, up to the closing parenthesis. -/
def argumentList : Nat → List Token → Option (List Expr × List Token)
  | 0, _ => none
  | fuel + 1, tokens => do
    let (first, rest) ← expression fuel BinaryOp.union.level tokens
    match rest with
    | .sign .rightParen :: rest => return ([first], rest)
    | .sign .comma :: rest =>
      let (args, rest) ← argumentList fuel rest
      return (first :: args, rest)
    | _ => none

end

/-- The expression that tokens write, all of them.  Between two tokens there are at most four calls
    of readers. -/
def Expr.ofTokens? (tokens : List Token) : Option Expr :=
  match expression (4 * tokens.length + 4) BinaryOp.union.level tokens with
  | some (e, []) => some e
  | _ => none

/-- The expression that a text writes. -/
def Expr.read? (text : String) : Option Expr := tokens? text >>= Expr.ofTokens?

end LabeledSeries.Query
