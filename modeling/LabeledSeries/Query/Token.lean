import LabeledSeries.Text.Digit

/-!
# Tokens of expressions

An expression is a sequence of signs, words, numbers, durations and quoted texts, with blanks and
comments between them.  Blanks are those of ASCII, and a comment runs from a hash to the end of its
line.

What a character means depends on where it stands.  Between braces a word names a label and has no
colons; between brackets only durations and colons stand; everywhere else a word may hold colons.

A quoted text keeps its escapes as they are written; they are only checked.
-/

namespace LabeledSeries.Query

/-- The signs of the language. -/
inductive Sign where
  | leftParen
  | rightParen
  | leftBrace
  | rightBrace
  | leftBracket
  | rightBracket
  | comma
  | colon
  | at
  | assign
  | matching
  | notMatching
  | equal
  | notEqual
  | less
  | lessEqual
  | greater
  | greaterEqual
  | add
  | sub
  | mul
  | div
  | mod
  | pow
  deriving Repr, DecidableEq

/-- A token. -/
inductive Token where
  | sign (sign : Sign)
  /-- A name or a keyword. -/
  | word (text : String)
  /-- A name between braces. -/
  | label (text : String)
  | number (text : String)
  | duration (text : String)
  | quoted (text : String)
  deriving Repr, DecidableEq

/-- Where in an expression a character stands. -/
inductive Region where
  | plain
  | braces
  | brackets
  deriving Repr, DecidableEq

/-- The blanks of expressions. -/
def isSpace (c : Char) : Bool := c == ' ' || c == '\t' || c == '\n' || c == '\r' || c == '\x0c'

/-- Whether a character can begin a name. -/
def isWordStart (c : Char) : Bool := c.isAlpha || c == '_'

/-- Whether a character can continue a name. -/
def isWordPart (c : Char) : Bool := c.isAlphanum || c == '_'

/-! ## Numbers and durations -/

/-- Whether a text does not go on as a word. -/
def endsWord (rest : List Char) : Bool := !(rest.head?.any isWordPart)

/-- The longest start of a text that looks like a number, and the rest: digits, a point with further
    digits, and an exponent, of which any part may be missing; a leading `0x` is followed by
    hexadecimal digits. -/
def scanNumber (text : List Char) : List Char × List Char :=
  let (lead, digit, rest) : List Char × (Char → Bool) × List Char := match text with
    | '0' :: 'x' :: rest => (['0', 'x'], Text.isHexDigit, rest)
    | '0' :: 'X' :: rest => (['0', 'X'], Text.isHexDigit, rest)
    | rest => ([], Char.isDigit, rest)
  let whole := rest.takeWhile digit
  let rest := rest.dropWhile digit
  let (fraction, rest) := match rest with
    | '.' :: rest => ('.' :: rest.takeWhile digit, rest.dropWhile digit)
    | rest => ([], rest)
  let (mark, rest) := match rest with
    | 'e' :: rest => (['e'], rest)
    | 'E' :: rest => (['E'], rest)
    | rest => ([], rest)
  -- A sign is read only behind the mark of an exponent; elsewhere it is an operator.
  let (sign, rest) := match mark, rest with
    | _ :: _, '+' :: rest => (['+'], rest)
    | _ :: _, '-' :: rest => (['-'], rest)
    | _, rest => ([], rest)
  let (power, rest) := match mark with
    | _ :: _ => (rest.takeWhile Char.isDigit, rest.dropWhile Char.isDigit)
    | [] => ([], rest)
  (lead ++ whole ++ fraction ++ mark ++ sign ++ power, rest)

/-- The letters of units. -/
def isUnitLetter (c : Char) : Bool :=
  c == 's' || c == 'm' || c == 'h' || c == 'd' || c == 'w' || c == 'y'

/-- The text of a unit at the front, which may be followed by the letter of seconds. -/
def scanUnit (allowed : Char → Bool) : List Char → Option (List Char × List Char)
  | c :: 's' :: rest => if allowed c then some ([c, 's'], rest) else none
  | c :: rest => if allowed c then some ([c], rest) else none
  | [] => none

/-- Further numbers with units.  `fuel` is at least the length of the text. -/
def scanUnits : Nat → List Char → Option (List Char × List Char)
  | 0, rest => some ([], rest)
  | fuel + 1, rest =>
    match rest.takeWhile Char.isDigit with
    | [] => some ([], rest)
    | digits => do
      -- Years can only come first.
      let laterUnit (c : Char) : Bool := isUnitLetter c && c != 'y'
      let (unit, rest) ← scanUnit laterUnit (rest.dropWhile Char.isDigit)
      let (more, rest) ← scanUnits fuel rest
      return (digits ++ unit ++ more, rest)

/-- A number or a duration at the front of a text. -/
def scanQuantity (text : List Char) : Option (Token × List Char) := do
  let (number, rest) := scanNumber text
  -- A word cannot follow a number at once, so `5m` is a duration or nothing.
  if endsWord rest then return (.number (String.ofList number), rest)
  else
    let (unit, rest) ← scanUnit isUnitLetter rest
    let (more, rest) ← scanUnits rest.length rest
    if endsWord rest then return (.duration (String.ofList (number ++ unit ++ more)), rest)
    else none

/-! ## Quoted texts -/

/-- Whether a character may follow a backslash, besides the quote. -/
def isEscapable (c : Char) : Bool :=
  ['a', 'b', 'f', 'n', 'r', 't', 'v', '\\', '0', '1', '2', '3', '4', '5', '6', '7', 'x', 'u',
    'U'].contains c

/-- A text up to the closing quote. -/
def scanQuoted (quote : Char) : List Char → Option (List Char × List Char)
  | [] => none
  | '\\' :: c :: rest =>
    if c == quote || isEscapable c then
      (scanQuoted quote rest).map fun (text, rest) => ('\\' :: c :: text, rest)
    else none
  | c :: rest =>
    if c == quote then some ([], rest)
    else if c == '\\' then none
    else (scanQuoted quote rest).map fun (text, rest) => (c :: text, rest)

/-- Whether a character is a quote. -/
def isQuote (c : Char) : Bool := c == '"' || c == '\'' || c == '\x60'

/-- The text after a comment. -/
def skipLine (rest : List Char) : List Char := rest.dropWhile (fun c => c != '\n' && c != '\r')

/-! ## Tokens -/

/-- A token outside braces and brackets, and where the rest stands. -/
def plainToken : List Char → Option (Token × Region × List Char)
  | [] => none
  | c :: rest =>
    let sign (s : Sign) (rest : List Char) : Option (Token × Region × List Char) :=
      some (.sign s, .plain, rest)
    match c, rest with
    | '(', _ => sign .leftParen rest
    | ')', _ => sign .rightParen rest
    -- What follows an opening brace or bracket is read by other rules, up to the closing one.
    | '\x7b', _ => some (.sign .leftBrace, .braces, rest)
    | '[', _ => some (.sign .leftBracket, .brackets, rest)
    | ',', _ => sign .comma rest
    | '@', _ => sign .at rest
    | '+', _ => sign .add rest
    | '-', _ => sign .sub rest
    | '*', _ => sign .mul rest
    | '/', _ => sign .div rest
    | '%', _ => sign .mod rest
    | '^', _ => sign .pow rest
    -- Of two signs of which one begins the other, the longer one is read.
    | '=', '=' :: rest => sign .equal rest
    | '!', '=' :: rest => sign .notEqual rest
    | '<', '=' :: rest => sign .lessEqual rest
    | '<', _ => sign .less rest
    | '>', '=' :: rest => sign .greaterEqual rest
    | '>', _ => sign .greater rest
    | _, _ =>
      if isQuote c then
        (scanQuoted c rest).map fun (text, rest) => (.quoted (String.ofList text), .plain, rest)
      -- A point begins a number only before a digit.
      else if c.isDigit || (c == '.' && rest.head?.any Char.isDigit) then
        (scanQuantity (c :: rest)).map fun (token, rest) => (token, .plain, rest)
      else if isWordStart c || c == ':' then
        -- Metrics may have colons in their names, labels may not.
        let inWord := fun c => isWordPart c || c == ':'
        some (.word (String.ofList (c :: rest.takeWhile inWord)), .plain, rest.dropWhile inWord)
      else none

/-- A token between braces, and where the rest stands. -/
def bracesToken : List Char → Option (Token × Region × List Char)
  | [] => none
  | c :: rest =>
    let sign (s : Sign) (rest : List Char) : Option (Token × Region × List Char) :=
      some (.sign s, .braces, rest)
    match c, rest with
    | '\x7d', _ => some (.sign .rightBrace, .plain, rest)
    | ',', _ => sign .comma rest
    | '=', '~' :: rest => sign .matching rest
    | '=', _ => sign .assign rest
    | '!', '~' :: rest => sign .notMatching rest
    | '!', '=' :: rest => sign .notEqual rest
    | _, _ =>
      if isQuote c then
        (scanQuoted c rest).map fun (text, rest) => (.quoted (String.ofList text), .braces, rest)
      else if isWordStart c then
        some (.label (String.ofList (c :: rest.takeWhile isWordPart)), .braces,
          rest.dropWhile isWordPart)
      else none

/-- A token between brackets, and where the rest stands. -/
def bracketsToken : List Char → Option (Token × Region × List Char)
  | ']' :: rest => some (.sign .rightBracket, .plain, rest)
  | ':' :: rest => some (.sign .colon, .brackets, rest)
  | c :: rest =>
    if c.isDigit then (scanQuantity (c :: rest)).map fun (token, rest) => (token, .brackets, rest)
    else none
  | [] => none

/-- The tokens of the rest of an expression.  `fuel` is more than the length of the text. -/
def scanTokens : Nat → Region → List Char → Option (List Token)
  | 0, _, _ => none
  | fuel + 1, region, rest =>
    match rest with
    | [] => if region = .plain then some [] else none
    | c :: after =>
      if isSpace c then scanTokens fuel region after
      -- A comment runs to the end of its line; between brackets there are none.
      else if c = '#' ∧ region ≠ .brackets then scanTokens fuel region (skipLine after)
      else do
        let (token, region, rest) ← match region with
          | .plain => plainToken (c :: after)
          | .braces => bracesToken (c :: after)
          | .brackets => bracketsToken (c :: after)
        return token :: (← scanTokens fuel region rest)

/-- The tokens of an expression. -/
def tokens? (text : String) : Option (List Token) :=
  scanTokens (text.toList.length + 1) .plain text.toList

end LabeledSeries.Query
