import LabeledSeries.Query.Expr

/-!
# The functions of the language

The functions that expressions may call, with their signatures.  In a variadic signature the last
argument may be left out; only `label_join` may repeat it.
-/

namespace LabeledSeries.Query

namespace KnownFunction

/-- A function that takes one vector. -/
def ofVector (name : String) : KnownFunction := ⟨name, [.vector], false, .vector⟩

/-- A function that takes one matrix. -/
def ofMatrix (name : String) : KnownFunction := ⟨name, [.matrix], false, .vector⟩

/-- A function that takes one vector, which may be left out. -/
def ofTimes (name : String) : KnownFunction := ⟨name, [.vector], true, .vector⟩

/-- All functions. -/
def all : List KnownFunction :=
  ["abs", "absent", "acos", "acosh", "asin", "asinh", "atan", "atanh", "ceil", "cos", "cosh", "deg",
    "exp", "floor", "histogram_count", "histogram_sum", "ln", "log10", "log2", "rad", "sgn", "sin",
    "sinh", "sort", "sort_desc", "sqrt", "tan", "tanh", "timestamp"].map ofVector ++
  ["absent_over_time", "avg_over_time", "changes", "count_over_time", "delta", "deriv", "idelta",
    "increase", "irate", "last_over_time", "max_over_time", "min_over_time", "present_over_time",
    "rate", "resets", "stddev_over_time", "stdvar_over_time", "sum_over_time"].map ofMatrix ++
  ["day_of_month", "day_of_week", "day_of_year", "days_in_month", "hour", "minute", "month",
    "year"].map ofTimes ++
  [⟨"clamp", [.vector, .scalar, .scalar], false, .vector⟩,
    ⟨"clamp_max", [.vector, .scalar], false, .vector⟩,
    ⟨"clamp_min", [.vector, .scalar], false, .vector⟩,
    ⟨"histogram_fraction", [.scalar, .scalar, .vector], false, .vector⟩,
    ⟨"histogram_quantile", [.scalar, .vector], false, .vector⟩,
    ⟨"holt_winters", [.matrix, .scalar, .scalar], false, .vector⟩,
    ⟨"label_join", [.vector, .text, .text, .text], true, .vector⟩,
    ⟨"label_replace", [.vector, .text, .text, .text, .text], false, .vector⟩,
    ⟨"pi", [], false, .scalar⟩,
    ⟨"predict_linear", [.matrix, .scalar], false, .vector⟩,
    ⟨"quantile_over_time", [.scalar, .matrix], false, .vector⟩,
    ⟨"round", [.vector, .scalar], true, .vector⟩,
    ⟨"scalar", [.vector], false, .scalar⟩,
    ⟨"time", [], false, .scalar⟩,
    ⟨"vector", [.scalar], false, .vector⟩]

/-- The function of a name. -/
def ofName? (name : String) : Option KnownFunction := all.find? (·.name = name)

/-- Whether a function takes so many arguments. -/
def takes (function : KnownFunction) (count : Nat) : Bool :=
  let declared := function.signature.arguments.length
  if function.signature.variadic then
    declared - 1 ≤ count && (count ≤ declared || function.name == "label_join")
  else count == declared

/-- Whether a function takes arguments of these kinds. -/
def takesKinds (function : KnownFunction) (kinds : List Kind) : Bool :=
  kinds.zipIdx.all fun (kind, index) => function.signature.kindAt? index == some kind

/-- Numbers at which a function of vectors is defined as such: infinities and not-a-number, and for
    logarithms also what is not positive. -/
def definedAt (function : KnownFunction) (x : Float) : Bool :=
  let special := x.isNaN || x.isInf
  if function.name == "exp" then special
  else if ["ln", "log2", "log10"].contains function.name then special || x ≤ 0
  else false

end KnownFunction

end LabeledSeries.Query
