import LabeledSeries.Dump.Load

/-!
# Requests on the command line

The words after the program's name ask for one command, with options of the program before its name
and operands and options of the command after it.

A word that starts with hyphens is an option or an error, except `-` alone and the words after `--`.
The value of an option is the rest of its word after an equals sign, or else the next word, which
may not start with a hyphen then.  Every option may be given once.

Words are read in order, and the value of an option is checked when the next option or operand is
met.  So what comes after a call for help is not looked at.
-/

namespace LabeledSeries.CommandLine

/-- What to do with the engine. -/
inductive Command where
  | query (expr : String)
  | call (name : String) (args : List String)
  /-- Evaluate the rules of a file, or only spread them over a number of groups. -/
  | rules (path : String) (shards : Option Nat)
  | list
  deriving Repr, DecidableEq

/-- Options of the program. -/
structure Options where
  samples : Option String := none
  time : Option Int := none
  lookback : Option Nat := none
  deriving Repr, DecidableEq

/-- Where help is asked for. -/
inductive Topic where
  | program
  | query
  | call
  | rules
  | list
  | help
  deriving Repr, DecidableEq

/-- What the words ask for. -/
inductive Request where
  | run (options : Options) (command : Command)
  | help (topic : Topic)
  | version
  /-- The words do not make sense. -/
  | misuse
  deriving Repr, DecidableEq

/-! ## Words -/

/-- A word by its hyphens. -/
inductive Word where
  | plain (text : String)
  | long (name : String) (value : Option String)
  | short (letters : List Char)
  /-- Two hyphens alone: all words after them are plain. -/
  | plainFromHere
  deriving Repr, DecidableEq

/-- The name of a long option, and the value after its first equals sign. -/
def Word.ofLong (chars : List Char) : Word :=
  let name := chars.takeWhile (· != '=')
  match chars.drop name.length with
  | _ :: value => .long (String.ofList name) (some (String.ofList value))
  | [] => .long (String.ofList name) none

/-- The kind of a word. -/
def Word.ofText (text : String) : Word :=
  match text.toList with
  | ['-', '-'] => .plainFromHere
  | '-' :: '-' :: rest => Word.ofLong rest
  | '-' :: c :: rest => .short (c :: rest)
  | _ => .plain text

/-! ## Values -/

/-- A number without a sign, or with a plus sign, up to a limit. -/
def natural? (limit : Nat) (text : String) : Option Nat :=
  let digits := match text.toList with
    | '+' :: digits => digits
    | digits => digits
  if digits.isEmpty || !digits.all Char.isDigit then none
  else
    let value := Decimal.digitsValue digits
    if value ≤ limit then some value else none

/-- The largest lookback. -/
def lookbackLimit : Nat := 18446744073709551615

/-- The largest number of shards. -/
def shardLimit : Int := 4294967295

/-- A number of shards. -/
def shards? (text : String) : Option Nat := do
  let value ← readInteger? text
  if 0 ≤ value ∧ value ≤ shardLimit then return value.toNat else none

/-- A path, which is never empty. -/
def path? (text : String) : Option String := if text = "" then none else some text

/-- Whether the program has an option with a value of this name. -/
def Options.has (name : String) : Bool := name == "samples" || name == "time" || name == "lookback"

/-- Options with the value of one of them given; none if it is given already, or is not of its
    kind. -/
def Options.set? (options : Options) (name value : String) : Option Options :=
  match name with
  | "samples" => do
    -- An option is given once at most.
    if options.samples.isSome then none else return { options with samples := ← path? value }
  | "time" => do
    if options.time.isSome then none else return { options with time := ← readInteger? value }
  | "lookback" => do
    if options.lookback.isSome then none
    else return { options with lookback := ← natural? lookbackLimit value }
  | _ => none

/-- An option whose value was named, and the value if it was met. -/
abbrev Pending := Option (String × Option String)

/-- Options with a pending one settled. -/
def Options.settle? (options : Options) : Pending → Option Options
  | none => some options
  | some (_, none) => none
  | some (name, some value) => options.set? name value

/-- The number of shards with a pending option settled. -/
def settleShards? (shards : Option Nat) : Pending → Option (Option Nat)
  | none => some shards
  | some (_, none) => none
  | some (_, some value) => if shards.isSome then none else (shards? value).map some

/-! ## Commands -/

/-- What may follow the name of a command: the number of operands, if it is limited, and whether
    there is an option for shards. -/
structure Operands where
  topic : Topic
  limit : Option Nat
  takesShards : Bool := false

/-- Read what follows the name of a command: its operands, latest first, and its shards.  An error
    is another request. -/
def readOperands (spec : Operands) : (plain : Bool) → List String → Option Nat → Pending →
    List String → Except Request (List String × Option Nat)
  | _, operands, shards, pending, [] =>
    match settleShards? shards pending with
    | some shards => .ok (operands, shards)
    | none => .error .misuse
  | plain, operands, shards, pending, text :: rest =>
    -- A word after a named option is its value, unless it has hyphens.
    match pending, (if plain then .plain text else Word.ofText text) with
    | some (name, none), .plain text =>
      if plain then .error .misuse
      else readOperands spec plain operands shards (some (name, some text)) rest
    | some (_, none), _ => .error .misuse
    | pending, word =>
      match settleShards? shards pending, word with
      | none, _ => .error .misuse
      | some shards, .plainFromHere => readOperands spec true operands shards none rest
      | some shards, .plain text =>
        if spec.limit.any (operands.length + 1 > ·) then .error .misuse
        else readOperands spec plain (text :: operands) shards none rest
      | some _, .short ('h' :: _) => .error (.help spec.topic)
      | some _, .short _ => .error .misuse
      | some shards, .long name value =>
        if name = "help" ∧ value.isNone then .error (.help spec.topic)
        else if name = "shards" ∧ spec.takesShards then
          match value with
          | none => readOperands spec plain operands shards (some (name, none)) rest
          | some value =>
            match settleShards? shards (some (name, some value)) with
            | some shards => readOperands spec plain operands shards none rest
            | none => .error .misuse
        else .error .misuse

/-- The help that the words after `help` ask for. -/
def readHelp : List String → Request
  | [] => .help .program
  | ["query"] => .help .query
  | ["call"] => .help .call
  | ["rules"] => .help .rules
  | ["list"] => .help .list
  | ["help"] => .help .help
  | _ => .misuse

/-- The command of a name with the words after it. -/
def readCommand (name : String) (rest : List String) : Except Request Command :=
  let read (topic : Topic) (limit : Option Nat) (takesShards : Bool) :=
    let spec : Operands := { topic, limit, takesShards }
    (readOperands spec false [] none none rest).map fun (operands, shards) =>
      (operands.reverse, shards)
  match name with
  | "query" => do
    match ← read .query (some 1) false with
    | ([expr], _) => return .query expr
    | _ => throw .misuse
  | "call" => do
    match ← read .call none false with
    | (name :: args, _) => return .call name args
    | _ => throw .misuse
  | "rules" => do
    match ← read .rules (some 1) true with
    | ([path], shards) => if path = "" then throw .misuse else return .rules path shards
    | _ => throw .misuse
  | "list" => do
    let _ ← read .list (some 0) false
    return .list
  | "help" => throw (readHelp rest)
  | _ => throw .misuse

/-- The request of the words from an option of the program on. -/
def readWords : Options → Pending → List String → Request
  | _, _, [] => .misuse
  | options, pending, text :: rest =>
    match pending, Word.ofText text with
    | some (name, none), .plain value => readWords options (some (name, some value)) rest
    | some (_, none), _ => .misuse
    | pending, .plain name =>
      match readCommand name rest with
      | .error request => request
      | .ok command =>
        match options.settle? pending with
        | some options => .run options command
        | none => .misuse
    | pending, word =>
      match options.settle? pending, word with
      | some _, .short ('h' :: _) => .help .program
      | some _, .short ('V' :: _) => .version
      | some options, .long name value =>
        if name = "help" ∧ value.isNone then .help .program
        else if name = "version" ∧ value.isNone then .version
        else if Options.has name then
          match value with
          | none => readWords options (some (name, none)) rest
          | some value =>
            match options.set? name value with
            | some options => readWords options none rest
            | none => .misuse
        else .misuse
      | _, _ => .misuse

/-- The request of the words after the program's name. -/
def Request.read (words : List String) : Request := readWords {} none words

end LabeledSeries.CommandLine
