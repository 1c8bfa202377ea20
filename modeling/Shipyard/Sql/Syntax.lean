import Shipyard.Sql.Value
/-!
# The syntax of SQL expressions, queries and data statements

An expression tree keeps what its evaluation needs and where its names stand in the text, so
that a message about a name can point at it. Queries (`Select`) and expressions refer to each
other, through subqueries, `IN (SELECT …)` and `EXISTS`, and are one family of types.

A query is a series of cores joined by compound operators (`UNION`, `UNION ALL`, `INTERSECT`,
`EXCEPT`), with common table expressions before it and an ordering and a limit after it. A
core is a `SELECT` with its result columns, sources, filter, grouping and group filter, or a
`VALUES` list of rows.

The data statements (`INSERT`, `UPDATE`, `DELETE` and a query) close the module: they are also
the statements that a trigger runs.
-/
namespace Shipyard.Sql

/-- A name as written: its text with quotes undone, the byte offset where it stands, and how it
was quoted. A name in double quotes that names no column is read as a string. -/
structure Name where
  text : String
  offset : Nat
  quoted : Bool := false
  doubleQuoted : Bool := false
  deriving Repr, Inhabited

/-- Names compared without regard to ASCII case. -/
def sameName (a b : String) : Bool := a.toLower == b.toLower

/-- The prefix operators. -/
inductive UnaryOp where
  | neg
  | pos
  | bitNot
  | not
  deriving DecidableEq, Repr, Inhabited

/-- The infix operators, with `IS`, `IS NOT` and the two JSON extraction arrows. -/
inductive BinaryOp where
  | or
  | and
  | eq
  | ne
  | lt
  | le
  | gt
  | ge
  | is
  | isNot
  | bitAnd
  | bitOr
  | shl
  | shr
  | add
  | sub
  | mul
  | div
  | rem
  | concat
  | arrow
  | arrowText
  deriving DecidableEq, Repr, Inhabited

/-- What `RAISE` does in a trigger. -/
inductive RaiseAction where
  | ignore
  | rollback
  | abort
  | fail
  deriving DecidableEq, Repr, Inhabited

/-- How a join combines its two sides. -/
inductive JoinKind where
  | inner
  | left
  | right
  | full
  | cross
  deriving DecidableEq, Repr, Inhabited

/-- The compound operators of queries. -/
inductive CompoundOp where
  | union
  | unionAll
  | intersect
  | except
  deriving DecidableEq, Repr, Inhabited

/-- The text of a compound operator. -/
def CompoundOp.text : CompoundOp → String
  | .union => "UNION"
  | .unionAll => "UNION ALL"
  | .intersect => "INTERSECT"
  | .except => "EXCEPT"

/-- What a window frame counts in: rows, ranges of ordering values, or groups of rows with
equal ordering values. -/
inductive FrameUnit where
  | rows
  | range
  | groups
  deriving DecidableEq, Repr, Inhabited

/-- What a window frame leaves out of itself. -/
inductive FrameExclude where
  | noOthers
  | currentRow
  | group
  | ties
  deriving DecidableEq, Repr, Inhabited

mutual

/-- An expression. -/
inductive Expr where
  /-- A null, string or blob literal. -/
  | literal (v : Value)
  /-- An integer literal, decimal or hexadecimal digits as written (separators removed). -/
  | integer (digits : String) (offset : Nat)
  /-- A real literal as written. -/
  | float (text : String)
  /-- `CURRENT_TIME`, `CURRENT_DATE` or `CURRENT_TIMESTAMP`. -/
  | current (which : String)
  /-- A parameter: `?`, `?N`, `:name`, `@name`, `$name`. -/
  | variable (name : String) (offset : Nat)
  /-- A bare name. -/
  | column (name : Name)
  /-- `table.column`, perhaps with a schema before the table. -/
  | qualified (schema : Option Name) (table : Name) (name : Name)
  | unary (op : UnaryOp) (e : Expr)
  | binary (op : BinaryOp) (a b : Expr)
  | collate (e : Expr) (collation : String)
  | cast (e : Expr) (type : String)
  /-- `e IS NULL` (or `IS NOT NULL` when negated). -/
  | isNull (e : Expr) (negated : Bool)
  | between (e low high : Expr) (negated : Bool)
  /-- `LIKE`, `GLOB`, `REGEXP` or `MATCH`, with the operator as written. -/
  | like (op : Name) (negated : Bool) (e pattern : Expr) (escape : Option Expr)
  | inList (e : Expr) (items : List Expr) (negated : Bool)
  | inSelect (e : Expr) (s : Select) (negated : Bool)
  | inTable (e : Expr) (schema : Option Name) (table : Name) (negated : Bool)
  | exists (s : Select)
  | subquery (s : Select)
  | case (operand : Option Expr) (branches : List Branch) (otherwise : Option Expr)
  /-- A function call; `star` for `count(*)`, `order` for the `ORDER BY` inside the
  parentheses. -/
  | call (name : Name) (args : List Expr) (distinct : Bool) (star : Bool) (order : List Term)
  /-- A row value `(a, b, …)`. -/
  | vector (items : List Expr)
  | raise (action : RaiseAction) (message : String)
  /-- A column resolved to a source: how many scopes out, which source of that scope, and
  which column (none for the row id). -/
  | bound (depth source : Nat) (column : Option Nat)
  /-- A call of an aggregate function, found when names are resolved, with the condition of
  its `FILTER` clause and the order its rows are taken in (the `ORDER BY` inside its
  parentheses; empty for the order they come in). -/
  | aggregate (name : String) (args : List Expr) (distinct : Bool) (star : Bool)
      (filter : Option Expr) (order : List Term)
  /-- A function call with a `FILTER` clause, an `OVER` clause, or both. -/
  | windowCall (name : Name) (args : List Expr) (distinct : Bool) (star : Bool)
      (filter : Option Expr) (window : Option Window) (order : List Term)

/-- One end of a window frame. -/
inductive FrameBound where
  | unboundedPreceding
  | preceding (offset : Expr)
  | currentRow
  | following (offset : Expr)
  | unboundedFollowing

/-- A window frame: its unit, its two ends and what it leaves out. -/
inductive WindowFrame where
  | mk (unit : FrameUnit) (start finish : FrameBound) (exclude : FrameExclude)

/-- A window: how rows are partitioned and ordered, and the frame each row sees (none for the
default frame). -/
inductive Window where
  | spec (partition : List Expr) (order : List Term) (frame : Option WindowFrame)
  /-- A window named in the query's `WINDOW` clause (`OVER name` when `bare`), perhaps
  extended. -/
  | named (name : Name) (partition : List Expr) (order : List Term) (frame : Option WindowFrame)
      (bare : Bool)

/-- `name AS (window)` of a `WINDOW` clause. -/
inductive WindowDef where
  | mk (name : Name) (window : Window)

/-- `WHEN cond THEN result` of a `CASE`. -/
inductive Branch where
  | mk (cond result : Expr)

/-- A query. -/
inductive Select where
  | mk (ctes : List Cte) (recursive : Bool) (first : Core) (rest : List Compound)
      (orderBy : List Term) (limit : Option Expr) (offset : Option Expr)

/-- A core joined to the cores before it. -/
inductive Compound where
  | mk (op : CompoundOp) (core : Core)

/-- One `SELECT` or `VALUES`. -/
inductive Core where
  | select (distinct : Bool) (columns : List ResultColumn) (sources : List Source)
      (filter : Option Expr) (groupBy : List Expr) (having : Option Expr)
      (windows : List WindowDef)
  | values (rows : List (List Expr))

/-- A result column: `*`, `t.*`, or an expression with an optional alias and its text. -/
inductive ResultColumn where
  | all (offset : Nat)
  | allOf (table : Name)
  | expr (e : Expr) (aliasName : Option Name) (span : String)

/-- A source of a `FROM` clause with how it joins the sources before it. -/
inductive Source where
  | mk (natural : Bool) (kind : JoinKind) (item : SourceItem) (on : Option Expr)
      (usingColumns : List Name)

/-- What a source reads: a table or view, a subquery, or a parenthesized join. -/
inductive SourceItem where
  | table (schema : Option Name) (name : Name) (aliasName : Option Name) (args : Option (List Expr))
  | subquery (s : Select) (aliasName : Option Name)
  | nested (sources : List Source) (aliasName : Option Name)
  /-- A stored table found when names are resolved: its schema, its name, and the name it goes
  by in the query. -/
  | stored (schema table aliasName : String)
  /-- A view or a common table expression found when names are resolved: its query, the name it
  goes by, and the names of its columns. -/
  | derived (s : Select) (aliasName : String) (columns : List String)
  /-- A recursive common table expression found when names are resolved. The first `setup`
  cores of its query give its first rows; the cores after them read, as the table `name`, one
  row at a time of the rows found, and give the rows found after them. -/
  | recursive (name : String) (s : Select) (setup : Nat) (aliasName : String) (columns : List String)
  /-- The row of a recursive common table expression that a core of its query reads. -/
  | queued (name aliasName : String) (columns : List String)
  /-- A table-valued function found when names are resolved: its name in lower case, its
  arguments, the name it goes by, and the names of its columns. -/
  | function (name : String) (args : List Expr) (aliasName : String) (columns : List String)

/-- An ordering term: an expression, descending or not, and where nulls go if said. -/
inductive Term where
  | mk (e : Expr) (descending : Bool) (nullsFirst : Option Bool)

/-- A common table expression. -/
inductive Cte where
  | mk (name : Name) (columns : List Name) (select : Select)

end

instance : Inhabited Expr := ⟨.literal .null⟩

instance : Inhabited Core := ⟨.values []⟩

instance : Inhabited Select := ⟨.mk [] false default [] [] none none⟩

namespace Expr

/-- The offset that a message about an expression points at: its own token, or else that of its
leftmost operand. -/
def offset? : Expr → Option Nat
  | .integer _ o => some o
  | .variable _ o => some o
  | .column n => some n.offset
  | .qualified (some s) _ _ => some s.offset
  | .qualified none t _ => some t.offset
  | .call n _ _ _ _ => some n.offset
  | .windowCall n _ _ _ _ _ _ => some n.offset
  | .binary _ a _ => a.offset?
  | .collate e _ => e.offset?
  | .isNull e _ => e.offset?
  | .between e _ _ _ => e.offset?
  | .like _ _ e _ _ => e.offset?
  | .inList e _ _ => e.offset?
  | .inSelect e _ _ => e.offset?
  | .inTable e _ _ _ => e.offset?
  | _ => none

end Expr

/-- What to do when a row breaks a uniqueness or not-null constraint. -/
inductive Conflict where
  | abort
  | fail
  | ignore
  | replace
  | rollback
  deriving DecidableEq, Repr, Inhabited

/-- `col = expr` of an `UPDATE`, or `(a, b) = expr` for several columns. -/
structure Assignment where
  columns : List Name
  value : Expr
  deriving Inhabited

/-- An `ON CONFLICT` clause of an `INSERT`: its target columns and filter, and the update it
does (none for `DO NOTHING`). -/
structure Upsert where
  target : List Term
  targetFilter : Option Expr
  update : Option (List Assignment × Option Expr)
  deriving Inhabited

/-- Where an `INSERT` takes its rows. -/
inductive InsertSource where
  | query (s : Select)
  | defaults
  deriving Inhabited

/-- A table named by a data statement: schema, name and alias. -/
structure Target where
  schema : Option Name
  name : Name
  aliasName : Option Name := none
  deriving Inhabited

/-- The data statements. -/
inductive Dml where
  | insert (ctes : List Cte) (conflict : Conflict) (target : Target)
      (columns : Option (List Name)) (source : InsertSource) (upserts : List Upsert)
      (returning : List ResultColumn)
  | update (ctes : List Cte) (conflict : Conflict) (target : Target)
      (assignments : List Assignment) (sources : List Source) (filter : Option Expr)
      (returning : List ResultColumn)
  | delete (ctes : List Cte) (target : Target) (filter : Option Expr)
      (returning : List ResultColumn)
  | select (s : Select)
  deriving Inhabited

end Shipyard.Sql
