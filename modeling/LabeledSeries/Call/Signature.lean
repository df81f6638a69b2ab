import LabeledSeries.Fault

/-!
# Signatures and arguments

A *signature* declares the kinds of a function's arguments.  In a variadic one the last kind may be
repeated any number of times, and left out.

Checking a call against a signature and taking its arguments are two things: a function takes its
arguments one by one, each of the kind it needs there, and ignores what it does not take.
-/

namespace LabeledSeries

/-- The kinds of arguments that a function declares, and the kind of what it returns. -/
structure Signature where
  arguments : List Kind
  variadic : Bool
  returns : Kind
  deriving Repr, DecidableEq

namespace Signature

/-- The kind declared for the argument at a position. -/
def kindAt? (signature : Signature) (index : Nat) : Option Kind :=
  match signature.arguments[index]? with
  | some kind => some kind
  | none => if signature.variadic then signature.arguments.getLast? else none

/-- How many arguments the signature takes. -/
def arity (signature : Signature) : Arity :=
  if signature.variadic then .atLeast (signature.arguments.length - 1)
  else .exactly signature.arguments.length

/-- Fault the first argument, from a position on, that is not of its declared kind. -/
def checkKinds (signature : Signature) (function : String) : Nat → List Value → Except Fault Unit
  | _, [] => .ok ()
  | index, value :: values =>
    match signature.kindAt? index with
    | some kind =>
      if value.isA kind then checkKinds signature function (index + 1) values
      else .error (.argumentKind function index (some kind) value.kind)
    | none => .error (.argumentKind function index none value.kind)

/-- Fault arguments that do not fit the signature in number or kind. -/
def check (signature : Signature) (function : String) (values : List Value) : Except Fault Unit :=
  if signature.arity.admits values.length then signature.checkKinds function 0 values
  else .error (.argumentCount function signature.arity values.length)

end Signature

/-- The arguments of a call that are yet to be taken, and the position of the first of them. -/
structure Arguments where
  position : Nat
  values : List Value

/-- Taking arguments, which may fail. -/
abbrev Taking := StateT Arguments (Except Fault)

namespace Taking

/-- Take the next argument, which has to be of a kind. -/
def next (function : String) (kind : Kind) : Taking Value := fun arguments =>
  match arguments.values with
  | [] =>
    .error (.argumentCount function (.atLeast (arguments.position + 1)) arguments.position)
  | value :: values =>
    if value.isA kind then .ok (value, { position := arguments.position + 1, values })
    else .error (.argumentKind function arguments.position (some kind) value.kind)

/-- The rows of a value passed for a vector. -/
def rowsOf : Value → InstantVector
  | .vector rows => rows
  | _ => []

/-- The series of a value passed for a matrix. -/
def seriesOf : Value → RangeMatrix
  | .matrix series => series
  | _ => []

/-- The text of a value passed for a text. -/
def textOf : Value → String
  | .text s => s
  | _ => ""

/-- Take a vector. -/
def vector (function : String) : Taking InstantVector := rowsOf <$> next function .vector

/-- Take a matrix. -/
def matrix (function : String) : Taking RangeMatrix := seriesOf <$> next function .matrix

/-- Take a text. -/
def text (function : String) : Taking String := textOf <$> next function .text

/-- Take a number of arguments of one kind. -/
def count {α : Type} (take : Taking α) : Nat → Taking (List α)
  | 0 => pure []
  | n + 1 => do
    let first ← take
    let others ← count take n
    return first :: others

/-- Take all arguments that are left, each of one kind. -/
def rest {α : Type} (take : Taking α) : Taking (List α) := do
  count take (← get).values.length

/-- What a function makes of a list of arguments. -/
def of {α : Type} (values : List Value) (taking : Taking α) : Except Fault α :=
  taking.run' { position := 0, values }

end Taking

end LabeledSeries
