/-!
# The catalog of SQL functions

Each function has a name, the numbers of arguments it takes, and a kind: a scalar function
gives a value per row, an aggregate folds the rows of a group, and a window function works only
over a window. A function is deterministic when the same arguments always give the same value;
only those may stand in an index or a generated column.

A call is matched by name, ignoring ASCII case, and by its number of arguments: a function
takes either exact counts or any count from a least one up. When the name is known but the
count is not, the call has the wrong number of arguments. Of two matches the one with an exact
count wins, so `min(x)` and `max(x)` are aggregates and the same names with more arguments are
scalar functions.
-/
namespace Shipyard.Sql

/-- The kinds of function. -/
inductive FunctionKind where
  | scalar
  | aggregate
  | window
  deriving DecidableEq, Repr, Inhabited

/-- How many arguments a function takes: exactly so many, or at least so many. -/
inductive Arity where
  | exactly (n : Nat)
  | atLeast (n : Nat)
  deriving DecidableEq, Repr, Inhabited

/-- Whether a count of arguments fits. -/
def Arity.accepts : Arity → Nat → Bool
  | .exactly n, k => n == k
  | .atLeast n, k => n ≤ k

/-- A function of the catalog. -/
structure FunctionInfo where
  name : String
  arity : Arity
  kind : FunctionKind := .scalar
  deterministic : Bool := true
  deriving Repr, Inhabited

/-- Scalar functions that take each of the given exact counts. -/
def scalars (names : List String) (counts : List Nat) : List FunctionInfo :=
  names.flatMap fun n => counts.map fun k => { name := n, arity := .exactly k }

/-- The functions. -/
def functionCatalog : List FunctionInfo :=
  scalars ["ltrim", "rtrim", "trim", "unhex"] [1, 2] ++
  scalars ["typeof", "subtype", "length", "octet_length", "unicode", "abs", "upper", "lower",
    "hex", "quote", "zeroblob", "likely", "unlikely", "sign", "soundex", "json", "jsonb",
    "json_error_position", "json_quote", "sqlite_compileoption_used",
    "sqlite_compileoption_get", "ceil", "ceiling", "floor", "trunc", "ln", "log10", "log2",
    "exp", "acos", "asin", "atan", "acosh", "asinh", "atanh", "cos", "sin", "tan", "cosh",
    "sinh", "tanh", "sqrt", "radians", "degrees", "rtreedepth", "fts5"] [1] ++
  scalars ["instr", "ifnull", "nullif", "sqlite_log", "glob", "likelihood", "pow", "power",
    "mod", "atan2", "json_patch", "jsonb_patch", "timediff", "rtreenode", "match"] [2] ++
  scalars ["replace", "iif"] [3] ++
  scalars ["round", "json_array_length", "json_pretty", "json_type", "json_valid", "log",
    "load_extension"] [1, 2] ++
  scalars ["substr", "substring"] [2, 3] ++
  scalars ["like"] [2, 3] ++
  [{ name := "min", arity := .atLeast 1 }, { name := "max", arity := .atLeast 1 },
   { name := "concat", arity := .atLeast 1 }, { name := "concat_ws", arity := .atLeast 2 },
   { name := "coalesce", arity := .atLeast 2 }] ++
  (["printf", "format", "char", "julianday", "unixepoch", "date", "time", "datetime",
    "strftime", "json_array", "jsonb_array", "json_extract", "jsonb_extract", "json_insert",
    "jsonb_insert", "json_object", "jsonb_object", "json_remove", "jsonb_remove",
    "json_replace", "jsonb_replace", "json_set", "jsonb_set", "rtreecheck", "snippet",
    "offsets", "matchinfo", "optimize", "highlight", "bm25"].map fun n =>
      { name := n, arity := .atLeast 0 }) ++
  (["random", "randomblob", "last_insert_rowid", "changes", "total_changes", "sqlite_version",
    "sqlite_source_id", "current_time", "current_date", "current_timestamp",
    "fts5_source_id"].map fun n =>
      { name := n, arity := .exactly (if n == "randomblob" then 1 else 0),
        deterministic := false }) ++
  [{ name := "pi", arity := .exactly 0 }] ++
  ([("avg", 1), ("count", 0), ("count", 1), ("group_concat", 1), ("group_concat", 2),
    ("string_agg", 2), ("max", 1), ("min", 1), ("sum", 1), ("total", 1),
    ("json_group_array", 1), ("jsonb_group_array", 1), ("json_group_object", 2),
    ("jsonb_group_object", 2)].map fun (n, k) =>
      { name := n, arity := .exactly k, kind := .aggregate }) ++
  ([("row_number", 0), ("rank", 0), ("dense_rank", 0), ("percent_rank", 0), ("cume_dist", 0),
    ("ntile", 1), ("lead", 1), ("lead", 2), ("lead", 3), ("lag", 1), ("lag", 2), ("lag", 3),
    ("first_value", 1), ("last_value", 1), ("nth_value", 2)].map fun (n, k) =>
      { name := n, arity := .exactly k, kind := .window })

/-- What a call of a name with some arguments finds. -/
inductive FunctionMatch where
  | found (f : FunctionInfo)
  | wrongCount
  | unknown
  deriving Repr, Inhabited

/-- The function a call finds: an exact count first, then a least count. -/
def findFunction (name : String) (count : Nat) : FunctionMatch :=
  let named := functionCatalog.filter fun f => f.name == name.toLower
  if named.isEmpty then .unknown else
  match named.find? (fun f => f.arity == .exactly count) with
  | some f => .found f
  | none => match named.find? (fun f => f.arity.accepts count) with
    | some f => .found f
    | none => .wrongCount

end Shipyard.Sql
