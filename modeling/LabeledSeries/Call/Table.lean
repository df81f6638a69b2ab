import LabeledSeries.Call.Builtin

/-!
# Function tables

A function table holds functions by name: those that come with the library and any others, each with
its signature.  Calling a function through the table does not check the signature; `checkArguments`
does.
-/

namespace LabeledSeries

/-- A function: what it declares, and what it makes of a time and arguments. -/
structure Function where
  signature : Signature
  call : Int → List Value → Except Fault Value

/-- Functions by name. -/
abbrev FunctionTable := NameMap Function

namespace FunctionTable

/-- Register a function that comes with the library. -/
def addBuiltin (table : FunctionTable) (function : Builtin) : FunctionTable :=
  table.insert function.name { signature := function.signature, call := function.call }

/-- The functions that come with the library. -/
def builtin : FunctionTable := Builtin.all.foldl addBuiltin NameMap.empty

/-- The signature of a function. -/
def signature? (table : FunctionTable) (name : String) : Option Signature :=
  (table.get? name).map Function.signature

/-- Fault a call whose function is unknown or whose arguments do not fit its signature. -/
def checkArguments (table : FunctionTable) (name : String) (values : List Value) :
    Except Fault Unit :=
  match table.signature? name with
  | none => .error (.unknownFunction name)
  | some signature => signature.check name values

/-- Call a function by name. -/
def call (table : FunctionTable) (name : String) (values : List Value) (time : Int) :
    Except Fault Value :=
  match table.get? name with
  | none => .error (.unknownFunction name)
  | some function => function.call time values

/-- The names of a table as diagnostics show them. -/
def text (table : FunctionTable) : String := Text.quotedSet table.names

end FunctionTable

end LabeledSeries
