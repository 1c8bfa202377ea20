import Shipyard.Sql.Schema
import Shipyard.Sql.Error
import Shipyard.Sql.Function
import Shipyard.Sql.TableFunction
/-!
# Resolving names

Before a statement runs, every name in it is looked up: tables in the schemas, columns in the
sources of the query that holds them, functions in the catalog. A query is read in two passes.

The first pass expands it: each table of a `FROM` clause is found (a view is read and resolved
in its turn, a common table expression stands for its query), joins that name their columns
(`NATURAL`, `USING`) are checked, and `*` and `t.*` become the columns they stand for. The
cores of a compound are taken from the right, as are subqueries in expressions after the core
that holds them.

The second pass binds names. A column name is looked up in the sources of its own query, then
of the queries around it; it may not be found, or be found twice. A name in double quotes that
names no column is a string, and `true` and `false` are the integers 1 and 0. A core binds its
result columns, its `HAVING`, its `WHERE` (with the `ON` clauses of its joins), its ordering
and its grouping, in that order.

Within one expression every failure is recorded and the walk goes on, so the last message
stands and the first offset stays; a list of expressions stops after the first item that
failed, and a query that cannot be read stops at once. Messages about text kept from an earlier
statement (views and trigger bodies) record no offset.
-/
namespace Shipyard.Sql

/-- Where an expression stands, for the kinds of term it may not hold. -/
inductive Place where
  | query
  | check
  | index
  | partialIndex
  | generated
  deriving DecidableEq, Repr, Inhabited

/-- How messages name a place. -/
def Place.text : Place → String
  | .index => "index expressions"
  | .check => "CHECK constraints"
  | .generated => "generated columns"
  | _ => "partial index WHERE clauses"

/-- A source as names see it: the name it goes by, its schema, its column names, whether its
row id may be named, whether only a qualified name reaches it, and the columns that a `USING`
join merged into a source before it. -/
structure Visible where
  name : String
  schema : String := ""
  columns : List String
  rowid : Bool := false
  qualifiedOnly : Bool := false
  merged : List Nat := []
  /-- The columns that a star leaves out: the hidden columns of a virtual table. -/
  hidden : List Nat := []
  deriving Inhabited

/-- The sources of one query, the aliases of its result columns that names may take, and
whether aggregate functions may stand here. -/
structure Scope where
  sources : List Visible := []
  aliases : List (String × Expr) := []
  allowAgg : Bool := false
  /-- Whether window functions may stand here: in result columns and the ordering. -/
  allowWin : Bool := false
  /-- The windows that the query's `WINDOW` clause names. -/
  windows : List WindowDef := []
  deriving Inhabited

/-- A common table expression in reach. -/
structure CteDef where
  name : String
  columns : List Name
  query : Select
  deriving Inhabited

/-- What resolution reads: the database, the scopes from the innermost out, where the
expressions stand, the table expressions in reach, the views being read (to catch one that is
defined through itself), whether offsets are recorded, the schema that names are fixed to in
view and trigger bodies, and whether subqueries have been expanded already. -/
structure Env where
  db : Database
  scopes : List Scope := []
  place : Place := .query
  ctes : List CteDef := []
  views : List String := []
  /-- The common table expressions whose queries are being expanded, by lower-case name, with
  the failure that a reference to one meets there. -/
  cteErrors : List (String × String) := []
  offsets : Bool := true
  fixed : Option String := none
  expanded : Bool := false
  inTrigger : Bool := false
  deriving Inhabited

/-- What resolution keeps: the failure recorded so far and whether an aggregate was seen. -/
structure ResolveState where
  pending : Option SqlError := none
  hasAgg : Bool := false
  deriving Inhabited

abbrev ResolveM := ReaderT Env (StateT ResolveState (Except SqlError))

namespace ResolveM

/-- Records a failure and goes on. -/
def record (message : String) (offset : Option Nat) : ResolveM Unit := do
  let env ← read
  let e := SqlError.atMaybe message (if env.offsets then offset else none)
  modify fun s => { s with pending := some (match s.pending with
    | none => e
    | some p => p.after e) }

/-- Records a failure and stops. -/
def fail (message : String) (offset : Option Nat) : ResolveM α := do
  record message offset
  match (← get).pending with
  | some e => throw e
  | none => throw (SqlError.plain message)

/-- Stops if a failure was recorded. -/
def checkpoint : ResolveM Unit := do
  match (← get).pending with
  | some e => throw e
  | none => pure ()

/-- Runs with one more scope inside. -/
def inScope (s : Scope) (m : ResolveM α) : ResolveM α :=
  withReader (fun env => { env with scopes := s :: env.scopes }) m

/-- Runs with the innermost scope replaced. -/
def atScope (s : Scope) (m : ResolveM α) : ResolveM α :=
  withReader (fun env => { env with scopes := s :: env.scopes.drop 1 }) m

end ResolveM

open ResolveM

/-- A window of a `WINDOW` clause that extends one defined before it in the clause (the latest
of that name): it takes the partition of that window and its ordering if it has one, and may
add only what that window leaves open. -/
def Window.chain (defs : List WindowDef) : Window → Except SqlError Window
  | .named base partition order frame _ =>
    match defs.reverse.find? (fun (.mk n _) => sameName n.text base.text) with
    | none => throw (.plain ("no such window: " ++ base.text))
    | some (.mk _ found) =>
      let (p, o, f) := match found with
        | .spec p o f => (p, o, f)
        | .named _ p o f _ => (p, o, f)
      if !partition.isEmpty then
        throw (.plain ("cannot override PARTITION clause of window: " ++ base.text))
      else if !o.isEmpty && !order.isEmpty then
        throw (.plain ("cannot override ORDER BY clause of window: " ++ base.text))
      else if f.isSome then
        throw (.plain ("cannot override frame specification of window: " ++ base.text))
      else pure (.spec p (if o.isEmpty then order else o) frame)
  | w => pure w

/-- The frame that a window function fixes for itself, whatever its window says: the ranking
functions count rows, peers or groups from the partition's start or to its end, and `lead` and
`lag` read the rows after or before the current one. -/
def fixedFrame? (name : String) : Option WindowFrame :=
  match name.toLower with
  | "row_number" => some (.mk .rows .unboundedPreceding .currentRow .noOthers)
  | "rank" | "dense_rank" => some (.mk .range .unboundedPreceding .currentRow .noOthers)
  | "percent_rank" => some (.mk .groups .currentRow .unboundedFollowing .noOthers)
  | "cume_dist" => some (.mk .groups (.following (.integer "1" 0)) .unboundedFollowing .noOthers)
  | "ntile" => some (.mk .rows .currentRow .unboundedFollowing .noOthers)
  | "lead" => some (.mk .rows .unboundedPreceding .unboundedFollowing .noOthers)
  | "lag" => some (.mk .rows .unboundedPreceding .currentRow .noOthers)
  | _ => none

/-- The frame of a window that says none: from the partition's start to the current row's last
peer. -/
def defaultFrame : WindowFrame := .mk .range .unboundedPreceding .currentRow .noOthers

/-- Whether a frame end has an offset. -/
def FrameBound.hasOffset : FrameBound → Bool
  | .preceding _ | .following _ => true
  | _ => false

/-- The partition, ordering and frame of a window function's window, with the windows of its
query's `WINDOW` clause. A window named alone is looked up; one that extends a named window is
chained to it; a range frame with an offset needs exactly one ordering term; and a function of
the window kind takes no `FILTER` and fixes its own frame. -/
def windowOf (defs : List WindowDef) (f : FunctionInfo) (filtered : Bool) (w : Window) :
    ResolveM (List Expr × List Term × WindowFrame) := do
  let found (n : Name) := defs.reverse.find? fun (.mk m _) => sameName m.text n.text
  let parts : Window → List Expr × List Term × Option WindowFrame
    | .spec p o fr => (p, o, fr)
    | .named _ p o fr _ => (p, o, fr)
  match w with
  | .named n _ _ _ true =>
    match found n with
    | none =>
      record ("no such window: " ++ n.text) none
      return ([], [], defaultFrame)
    | some (.mk _ d) => settle (parts d)
  | .named _ p o fr false =>
    match Window.chain defs w with
    | .ok c => settle (parts c)
    | .error e =>
      record e.message none
      settle (p, o, fr)
  | .spec p o fr => settle (p, o, fr)
where
  settle : List Expr × List Term × Option WindowFrame → ResolveM (List Expr × List Term × WindowFrame)
    | (p, o, fr) => do
      let frame := fr.getD defaultFrame
      let .mk unit start finish _ := frame
      if unit == .range && (start.hasOffset || finish.hasOffset) && o.length != 1 then
        record "RANGE with offset PRECEDING/FOLLOWING requires one ORDER BY expression" none
        return (p, o, frame)
      if f.kind == .window then
        if filtered then
          record "FILTER clause may only be used with aggregate window functions" none
          return (p, o, frame)
        return (p, o, (fixedFrame? f.name).getD frame)
      return (p, o, frame)

/-- The suffix of an ordinal number: `1st`, `2nd`, `3rd`, `4th`, `11th`, `21st`. -/
def ordinal (n : Nat) : String :=
  let x := n % 10
  let x := if x ≥ 4 || (n / 10) % 10 == 1 then 0 else x
  toString n ++ (match x with
    | 1 => "st"
    | 2 => "nd"
    | 3 => "rd"
    | _ => "th")

/-- Whether a name stands for the row id. -/
def isRowidName (n : String) : Bool :=
  sameName n "rowid" || sameName n "_rowid_" || sameName n "oid"

/-- The table that a schema's catalog is read through, with its five columns. -/
def catalogTable (name : String) : Table :=
  { name, columns := ["type", "name", "tbl_name", "rootpage", "sql"].map fun n =>
      { name := n, type := if n == "rootpage" then "INT" else "TEXT" } }

/-- Whether a name is one under which a schema's catalog is read. -/
def isCatalogName (n : String) (temp : Bool) : Bool :=
  if temp then sameName n "sqlite_temp_master" || sameName n "sqlite_temp_schema" ||
    sameName n "sqlite_master" || sameName n "sqlite_schema"
  else sameName n "sqlite_master" || sameName n "sqlite_schema"

namespace Database

/-- The table of a name, with its schema: a table of a schema, or a schema's catalog. -/
def locate? (db : Database) (n : String) (schema : Option String) : Option (String × Table) :=
  match db.table? n schema with
  | some r => some r
  | none =>
    match schema with
    | some s =>
      let s := if sameName s "main" then "main" else s
      match db.schema? s with
      | some sc => if isCatalogName n (sameName sc.name "temp") then
          some (sc.name, catalogTable (if sameName sc.name "temp" then "sqlite_temp_master"
            else "sqlite_master")) else none
      | none => none
    | none =>
      if sameName n "sqlite_master" || sameName n "sqlite_schema" then
        some ("main", catalogTable "sqlite_master")
      else if sameName n "sqlite_temp_master" || sameName n "sqlite_temp_schema" then
        some ("temp", catalogTable "sqlite_temp_master")
      else none

end Database

/-- A table as names see it. -/
def Table.visible (t : Table) (schema aliasName : String) : Visible :=
  { name := aliasName, schema, columns := t.columns.map (·.name),
    rowid := !t.withoutRowid && !t.isView,
    hidden := (t.columns.zipIdx.filter (·.1.hidden)).map (·.2) }

/-- What looking a column up finds. -/
inductive Lookup where
  | found (e : Expr)
  | ambiguous
  | missing
  deriving Inhabited

/-- Whether a source answers to a qualifier. -/
def Visible.answers (v : Visible) (schema table : Option Name) : Bool :=
  match table with
  | none => !v.qualifiedOnly
  | some t => sameName v.name t.text && (match schema with
    | none => true
    | some s => sameName v.schema s.text)

/-- Looks a column up in the sources of one scope. -/
def Scope.lookup (s : Scope) (depth : Nat) (schema table : Option Name) (col : String)
    (rowidOk : Bool) : Lookup :=
  let cands := s.sources.zipIdx.filter fun (v, _) => v.answers schema table
  let hits := cands.filterMap fun (v, i) =>
    match v.columns.findIdx? (sameName · col) with
    | some j => if table.isNone && v.merged.contains j then none else some (i, j)
    | none => none
  match hits with
  | [(i, j)] => .found (.bound depth i (some j))
  | _ :: _ :: _ => .ambiguous
  | [] =>
    if rowidOk && isRowidName col then
      match cands.filter (·.1.rowid) with
      | [(_, i)] => .found (.bound depth i none)
      | _ :: _ :: _ => .ambiguous
      | [] => .missing
    else .missing

/-- Looks a column up in the scopes from the innermost out; the aliases of the innermost
scope's result columns answer to a bare name that no source has. -/
def findColumn (scopes : List Scope) (schema table : Option Name) (col : String)
    (rowidOk : Bool) : Lookup :=
  let rec go : List Scope → Nat → Lookup
    | [], _ => .missing
    | s :: rest, d =>
      match s.lookup d schema table col rowidOk with
      | .missing =>
        let aliasName := if d == 0 && table.isNone then s.aliases.find? (sameName ·.1 col) else none
        match aliasName with
        | some (_, e) => .found e
        | none => go rest (d + 1)
      | r => r
  go scopes 0

/-- A column name with its qualifiers, as messages write it. -/
def qualifiedText (schema table : Option Name) (col : Name) : String :=
  (match schema with | some s => s.text ++ "." | none => "") ++
  (match table with | some t => t.text ++ "." | none => "") ++ col.text

/-- Resolves a column name: a source's column, an alias, a string in double quotes, a truth
value, or a failure. -/
def lookupName (schema table : Option Name) (col : Name) (orig : Expr) : ResolveM Expr := do
  let env ← read
  let rowidOk := env.place != .index && env.place != .generated
  match findColumn env.scopes schema table col.text rowidOk with
  | .found e => pure e
  | .ambiguous =>
    record ("ambiguous column name: " ++ qualifiedText schema table col) orig.offset?
    pure (.literal .null)
  | .missing =>
    if table.isNone && col.doubleQuoted then pure (.literal (.text col.text))
    else if table.isNone && !col.quoted && sameName col.text "true" then
      pure (.literal (.integer 1))
    else if table.isNone && !col.quoted && sameName col.text "false" then
      pure (.literal (.integer 0))
    else
      record ("no such column: " ++ qualifiedText schema table col) orig.offset?
      pure (.literal .null)


/-- Whether an operator compares. -/
def BinaryOp.compares : BinaryOp → Bool
  | .eq | .ne | .lt | .le | .gt | .ge | .is | .isNot => true
  | _ => false

/-- An expression without the collations around it. -/
def skipCollate : Nat → Expr → Expr
  | 0, e => e
  | fuel + 1, .collate e _ => skipCollate fuel e
  | _, e => e

/-- The integer a term writes, for ordering and grouping by column number. -/
def termInteger? : Expr → Option Int
  | .integer d _ => if d.all Char.isDigit && d.length < 10 then some (digitsValue d.toList) else none
  | .unary .neg (.integer d _) =>
    if d.all Char.isDigit && d.length < 10 then some (-(digitsValue d.toList : Int)) else none
  | .unary .pos e => termInteger? e
  | _ => none

/-- The name of a result column: its alias, the name of a column it reads, or its text;
`columnN` for a truth value's name. -/
def resultName (c : ResultColumn) (i : Nat) : String :=
  let n := match c with
    | .expr _ (some a) _ => a.text
    | .expr e none span => match skipCollate 64 e with
      | .column n => n.text
      | .qualified _ _ n => n.text
      | _ => span
    | _ => ""
  if n.isEmpty || sameName n "true" || sameName n "false" then "column" ++ toString (i + 1)
  else n

/-- Names made distinct, ignoring ASCII case: a repeated name gets `:1`, `:2`, … in place of
any such suffix it had. -/
def uniqueNames (names : List String) : List String :=
  let stem (n : String) : String :=
    let cs := n.toList
    let digits := (cs.reverse.takeWhile Char.isDigit).length
    let rest := cs.take (cs.length - digits)
    if digits > 0 && rest.length > 1 && rest.getLast? == some ':' then
      String.ofList (rest.take (rest.length - 1))
    else n
  let rec pick (taken : List String) (base : String) : Nat → Nat → String
    | 0, k => base ++ ":" ++ toString k
    | fuel + 1, k =>
      let candidate := base ++ ":" ++ toString k
      if taken.any (sameName · candidate) then pick taken base fuel (k + 1) else candidate
  let step := fun (acc : List String) (n : String) =>
    if acc.any (sameName · n) then acc ++ [pick acc (stem n) (acc.length + 1) 1]
    else acc ++ [n]
  names.foldl step []

/-- The column names of a core. -/
def Core.names : Core → List String
  | .values (row :: _) => row.zipIdx.map fun (e, i) => match e with
    | .column n => n.text
    | _ => "column" ++ toString (i + 1)
  | .values [] => []
  | .select _ cols _ _ _ _ _ => cols.zipIdx.map fun (c, i) => resultName c i

/-- The column names of a query: those of its first core, made distinct. -/
def Select.names : Select → List String
  | .mk _ _ first _ _ _ _ => uniqueNames first.names

/-- The number of result columns of a core. -/
def Core.width : Core → Nat
  | .values (row :: _) => row.length
  | .values [] => 0
  | .select _ cols _ _ _ _ _ => cols.length

/-- The number of result columns of a query: those of its first core. -/
def Select.width : Select → Nat
  | .mk _ _ first _ _ _ _ => first.width

/-- How many values an expression stands for: the length of a row value or the width of a
subquery, else one. -/
def vectorSize : Expr → Nat
  | .vector items => items.length
  | .subquery s => s.width
  | _ => 1

/-- Whether a core is a `VALUES` list. -/
def Core.isValues : Core → Bool
  | .values _ => true
  | _ => false

/-- The message for two cores of a compound whose widths differ; the core on the right
decides its wording. -/
def widthMessage (op : CompoundOp) (right : Core) : String :=
  if right.isValues then "all VALUES must have the same number of terms"
  else "SELECTs to the left and right of " ++ op.text ++
    " do not have the same number of result columns"

/-- The common columns of a source and the sources before it, for a `NATURAL` join. -/
def naturalColumns (left : List Visible) (right : Visible) : List String :=
  right.columns.filter fun c => left.any fun v => v.columns.any (sameName · c)

/-- A `FROM` clause as the query `SELECT * FROM …`. -/
def nestedQuery (sources : List Source) : Select :=
  .mk [] false (.select false [.all 0] sources none [] none []) [] [] none none

/-- How names see an expanded source. -/
def sourceVisible (env : Env) : Source → ResolveM Visible
  | .mk _ _ item _ us => do
    let v ← match item with
      | .stored s t a => match env.db.locate? t (some s) with
        | some (_, tbl) => pure (tbl.visible s a)
        | none => fail ("no such table: " ++ s ++ "." ++ t) none
      | .subquery q a => pure { name := (a.map (·.text)).getD "", columns := q.names }
      | .derived _ a cols | .recursive _ _ _ a cols | .queued _ a cols | .function _ _ a cols =>
        pure { name := a, columns := cols }
      | _ => pure { name := "", columns := [] }
    let merged := us.filterMap fun u => v.columns.findIdx? (sameName · u.text)
    return { v with merged }

/-- Whether an expression holds an aggregate call outside its subqueries. -/
def hasAggregate : Nat → Expr → Bool
  | 0, _ => false
  | fuel + 1, e => match e with
    | .aggregate _ _ _ _ _ _ => true
    | .windowCall _ args _ _ f w o => args.any (hasAggregate fuel) ||
        o.any (fun (.mk e _ _) => hasAggregate fuel e) ||
        (match f with | some f => hasAggregate fuel f | none => false) ||
        (match w with
          | some (.spec p o _) | some (.named _ p o _ _) =>
            p.any (hasAggregate fuel) || o.any fun (.mk e _ _) => hasAggregate fuel e
          | none => false)
    | .unary _ a | .collate a _ | .cast a _ | .isNull a _ => hasAggregate fuel a
    | .binary _ a b => hasAggregate fuel a || hasAggregate fuel b
    | .between a l h _ => hasAggregate fuel a || hasAggregate fuel l || hasAggregate fuel h
    | .like _ _ a p x => hasAggregate fuel a || hasAggregate fuel p ||
        (match x with | some x => hasAggregate fuel x | none => false)
    | .inList a items _ => hasAggregate fuel a || items.any (hasAggregate fuel)
    | .inSelect a _ _ | .inTable a _ _ _ => hasAggregate fuel a
    | .case o bs x => (match o with | some o => hasAggregate fuel o | none => false) ||
        bs.any (fun (.mk c r) => hasAggregate fuel c || hasAggregate fuel r) ||
        (match x with | some x => hasAggregate fuel x | none => false)
    | .call _ args _ _ o => args.any (hasAggregate fuel) || o.any fun (.mk e _ _) => hasAggregate fuel e
    | .vector args => args.any (hasAggregate fuel)
    | _ => false

/-- Whether a core is an aggregate query: it groups, or has `HAVING`, or folds an aggregate in
its result columns. -/
def Core.isAggregate : Core → Bool
  | .select _ cols _ _ groupBy having _ =>
    !groupBy.isEmpty || having.isSome || cols.any fun c => match c with
      | .expr e _ _ => hasAggregate 64 e
      | _ => false
  | .values _ => false

/-- Binds the ordering of a compound query to its result columns: by number or by name. -/
def compoundOrder (names : List String) : List Term → Nat → ResolveM (List Term)
  | [], _ => pure []
  | .mk e d n :: rest, i => do
    let bare := skipCollate 64 e
    let k ← match termInteger? bare with
      | some k =>
        if k < 1 || k > names.length then
          fail (ordinal (i + 1) ++ " ORDER BY term out of range - should be between 1 and " ++
            toString names.length) e.offset?
        pure (k.toNat - 1)
      | none =>
        let byName := match bare with
          | .column c => names.findIdx? (sameName · c.text)
          | .qualified _ _ c => names.findIdx? (sameName · c.text)
          | _ => none
        match byName with
        | some k => pure k
        | none => fail (ordinal (i + 1) ++
            " ORDER BY term does not match any column in the result set") none
    return .mk (.bound 0 0 (some k)) d n :: (← compoundOrder names rest (i + 1))

/-- Expands the stars of a result list into the columns they stand for. -/
def expandStars (visibles : List Visible) (cols : List ResultColumn) :
    ResolveM (List ResultColumn) := do
  let columnOf (i j : Nat) (n : String) : ResultColumn :=
    .expr (.bound 0 i (some j)) (some { text := n, offset := 0 }) n
  let mut out : List ResultColumn := []
  for c in cols do
    match c with
    | .all _ =>
      if visibles.isEmpty then fail "no tables specified" none
      for (v, i) in visibles.zipIdx do
        for (n, j) in v.columns.zipIdx do
          if !v.merged.contains j && !v.hidden.contains j then out := out ++ [columnOf i j n]
    | .allOf t =>
      match visibles.zipIdx.find? fun (v, _) => sameName v.name t.text with
      | some (v, i) =>
        for (n, j) in v.columns.zipIdx do
          if !v.hidden.contains j then out := out ++ [columnOf i j n]
      | none => fail ("no such table: " ++ t.text) none
    | other => out := out ++ [other]
  return out

mutual

/-- Expands the subqueries of an expression. -/
def expandExpr : Nat → Expr → ResolveM Expr
  | 0, _ => fail "parser stack overflow" none
  | fuel + 1, e => match e with
    | .unary op a => return .unary op (← expandExpr fuel a)
    | .binary op a b => do
      let a ← expandExpr fuel a
      return .binary op a (← expandExpr fuel b)
    | .collate a c => return .collate (← expandExpr fuel a) c
    | .cast a t => return .cast (← expandExpr fuel a) t
    | .isNull a n => return .isNull (← expandExpr fuel a) n
    | .between a l h n => do
      let a ← expandExpr fuel a
      let l ← expandExpr fuel l
      return .between a l (← expandExpr fuel h) n
    | .like op n a p x => do
      let a ← expandExpr fuel a
      let p ← expandExpr fuel p
      let x ← match x with
        | some x => some <$> expandExpr fuel x
        | none => pure none
      return .like op n a p x
    | .inList a items n => do
      let a ← expandExpr fuel a
      return .inList a (← expandList fuel items) n
    | .inSelect a s n => do
      let a ← expandExpr fuel a
      return .inSelect a (← expandSelect fuel s) n
    | .exists s => return .exists (← expandSelect fuel s)
    | .subquery s => return .subquery (← expandSelect fuel s)
    | .case o bs x => do
      let o ← match o with
        | some o => some <$> expandExpr fuel o
        | none => pure none
      let bs ← expandBranches fuel bs
      let x ← match x with
        | some x => some <$> expandExpr fuel x
        | none => pure none
      return .case o bs x
    | .call n args d s o => return .call n (← expandList fuel args) d s (← expandTerms fuel o)
    | .vector items => return .vector (← expandList fuel items)
    | .aggregate n args d s f o => do
      let args ← expandList fuel args
      let f ← expandOption fuel f
      return .aggregate n args d s f (← expandTerms fuel o)
    | .windowCall n args d s f w o => do
      let args ← expandList fuel args
      let f ← expandOption fuel f
      let o ← expandTerms fuel o
      match w with
      | some w => return .windowCall n args d s f (some (← expandWindow fuel w)) o
      | none => return .windowCall n args d s f none o
    | _ => pure e

/-- Expands the subqueries of an expression that may be left out. -/
def expandOption : Nat → Option Expr → ResolveM (Option Expr)
  | 0, _ => fail "parser stack overflow" none
  | _, none => pure none
  | fuel + 1, some e => some <$> expandExpr fuel e

/-- Expands the subqueries of a window's partition and ordering. -/
def expandWindow : Nat → Window → ResolveM Window
  | 0, _ => fail "parser stack overflow" none
  | fuel + 1, .spec p o f => do
    let p ← expandList fuel p
    return .spec p (← expandTerms fuel o) f
  | fuel + 1, .named n p o f b => do
    let p ← expandList fuel p
    return .named n p (← expandTerms fuel o) f b

/-- Expands the subqueries of a list of expressions. -/
def expandList : Nat → List Expr → ResolveM (List Expr)
  | 0, _ => fail "parser stack overflow" none
  | _, [] => pure []
  | fuel + 1, e :: rest => do
    let e ← expandExpr fuel e
    return e :: (← expandList fuel rest)

/-- Expands the subqueries of `CASE` branches. -/
def expandBranches : Nat → List Branch → ResolveM (List Branch)
  | 0, _ => fail "parser stack overflow" none
  | _, [] => pure []
  | fuel + 1, .mk c r :: rest => do
    let c ← expandExpr fuel c
    let r ← expandExpr fuel r
    return .mk c r :: (← expandBranches fuel rest)

/-- Finds the tables of a `FROM` clause, in order: each source expanded, with how names see
it. -/
def expandSources : Nat → List Visible → List Source → ResolveM (List (Source × Visible))
  | 0, _, _ => fail "parser stack overflow" none
  | _, _, [] => pure []
  | fuel + 1, left, .mk natural kind item on usingCols :: rest => do
    let (item, v) ← expandItem fuel item
    -- a join that names its columns: NATURAL takes the common ones
    if natural && (on.isSome || !usingCols.isEmpty) then
      fail "a NATURAL join may not have an ON or USING clause" none
    let cols : List String := if natural then naturalColumns left v
      else usingCols.map (·.text)
    for c in cols do
      if !(v.columns.any (sameName · c)) || !(left.any fun u => u.columns.any (sameName · c)) then
        fail ("cannot join using column " ++ c ++ " - column not present in both tables") none
    let merged := cols.filterMap fun c => v.columns.findIdx? (sameName · c)
    let v := { v with merged }
    let usingNames := cols.map fun c => ({ text := c, offset := 0 } : Name)
    let here := (Source.mk false kind item on usingNames, v)
    return here :: (← expandSources fuel (left ++ [v]) rest)

/-- How many references a core makes, among its own sources, to a table of this name. -/
def Core.directReferences (name : String) : Core → Nat
  | .select _ _ sources _ _ _ _ => sources.countP fun (.mk _ _ item _ _) => match item with
    | .table none n _ _ => sameName n.text name
    | _ => false
  | .values _ => 0

/-- A core whose own references to a table of this name read the queued row of a recursive
common table expression instead. -/
def queueIn (name : String) (columns : List String) : Core → Core
  | .select distinct cols sources filter groupBy having windows =>
    .select distinct cols (sources.map fun (.mk n k item on us) => match item with
      | .table none t aliasName _ =>
        if sameName t.text name then
          Source.mk n k (.queued name ((aliasName.map (·.text)).getD t.text) columns) on us
        else Source.mk n k item on us
      | _ => Source.mk n k item on us) filter groupBy having windows
  | c => c

/-- How many cores at the end of a common table expression's query are its recursive steps:
those after a `UNION` or `UNION ALL` (the same as the last) that read the expression itself
among their own sources, counted from the last until one does not. A step may read it once. -/
def recursiveSteps (d : CteDef) : ResolveM Nat := do
  let .mk _ _ _ rest _ _ _ := d.query
  let some (.mk lastOp _) := rest.getLast? | return 0
  if lastOp != .unionAll && lastOp != .union then return 0
  let mut steps := 0
  for .mk op c in rest.reverse do
    if op != lastOp then break
    let refs := c.directReferences d.name
    if refs > 1 then fail ("multiple references to recursive table: " ++ d.name) none
    if refs == 0 then break
    steps := steps + 1
  return steps

/-- The names of a common table expression's columns: those it declares, which must be as
many as its query gives, else those of its query. -/
def cteColumns (d : CteDef) (names : List String) : ResolveM (List String) := do
  if d.columns.isEmpty then return names
  if d.columns.length != names.length then
    fail ("table " ++ d.name ++ " has " ++ toString names.length ++
      " values for " ++ toString d.columns.length ++ " columns") none
  return uniqueNames (d.columns.map (·.text))

/-- Finds what one source reads. -/
def expandItem : Nat → SourceItem → ResolveM (SourceItem × Visible)
  | 0, _ => fail "parser stack overflow" none
  | fuel + 1, item => do
    let env ← read
    match item with
    | .table schema name aliasName args =>
      let goesBy := (aliasName.map (·.text)).getD name.text
      let cte := if schema.isNone then env.ctes.find? (sameName ·.name name.text) else none
      match cte with
      | some d =>
        if let some (_, msg) := env.cteErrors.find? (·.1 == d.name.toLower) then fail msg none
        let blocked (msg : String) (e : Env) : Env :=
          { e with cteErrors := (d.name.toLower, msg ++ d.name) :: e.cteErrors }
        let steps ← recursiveSteps d
        if steps == 0 then
          let q ← withReader (blocked "circular reference: ") (expandSelect fuel d.query)
          let cols ← cteColumns d q.names
          return (.derived q goesBy cols, { name := goesBy, columns := cols })
        let .mk ctes rec first rest order limit offset := d.query
        let setup := rest.length + 1 - steps
        let seed ← withReader (blocked "circular reference: ")
          (expandSelect fuel (.mk ctes rec first (rest.take (setup - 1)) [] none none))
        let cols ← cteColumns d seed.names
        let rest := rest.zipIdx.map fun (.mk op c, i) =>
          if i + 1 < setup then Compound.mk op c else Compound.mk op (queueIn d.name cols c)
        let q ← withReader (blocked "multiple recursive references: ")
          (expandSelect fuel (.mk ctes rec first rest order limit offset))
        return (.recursive d.name q setup goesBy cols, { name := goesBy, columns := cols })
      | none =>
        let wanted := schema.map (·.text) |>.orElse fun _ => env.fixed
        match env.db.locate? name.text wanted with
        | none =>
          match TableFunction.lookup? name.text with
          | some f =>
            let given := args.getD []
            if given.length > f.arity then
              fail ("too many arguments on " ++ name.text ++ "() - max " ++ toString f.arity)
                none
            let given ← expandList fuel given
            return (.function name.text.toLower given goesBy f.columns,
              { name := goesBy, columns := f.columns })
          | none =>
            fail ("no such table: " ++ (match wanted with | some s => s ++ "." | none => "") ++
              name.text) none
        | some (sname, t) =>
          if args.isSome && !t.isVirtual then fail ("'" ++ name.text ++ "' is not a function") none
          match t.kind with
          | .view declared q =>
            let key := sname.toLower ++ "." ++ t.name.toLower
            if env.views.contains key then
              fail ("view " ++ t.name ++ " is circularly defined") none
            let viewEnv : Env :=
              { db := env.db, views := key :: env.views, offsets := false, fixed := some sname }
            let (q, names) ← withReader (fun _ => viewEnv) (prepareSelect fuel q)
            let cols := if declared.isEmpty then names else uniqueNames (declared.map (·.text))
            return (.derived q goesBy cols, { name := goesBy, schema := sname, columns := cols })
          | _ => return (.stored sname t.name goesBy, t.visible sname goesBy)
    | .subquery q aliasName =>
      let q ← expandSelect fuel q
      let goesBy := (aliasName.map (·.text)).getD ""
      return (.subquery q aliasName, { name := goesBy, columns := q.names })
    | .nested sources aliasName =>
      let q ← expandSelect fuel (nestedQuery sources)
      let goesBy := (aliasName.map (·.text)).getD ""
      return (.subquery q aliasName, { name := goesBy, columns := q.names })
    | .stored sname tname goesBy =>
      match env.db.locate? tname (some sname) with
      | some (_, t) => return (item, t.visible sname goesBy)
      | none => fail ("no such table: " ++ sname ++ "." ++ tname) none
    | .derived _ goesBy cols | .recursive _ _ _ goesBy cols | .queued _ goesBy cols
    | .function _ _ goesBy cols =>
      return (item, { name := goesBy, columns := cols })

/-- Expands one core: its sources, its stars, then the subqueries of its expressions. -/
def expandCore : Nat → Core → ResolveM Core
  | 0, _ => fail "parser stack overflow" none
  | fuel + 1, .values rows => return .values (← expandRows fuel rows)
  | fuel + 1, .select distinct cols sources filter groupBy having windows => do
    let pairs ← expandSources fuel [] sources
    let visibles := pairs.map (·.2)
    let cols ← expandStars visibles cols
    let cols ← expandColumns fuel cols
    let filter ← match filter with
      | some f => some <$> expandExpr fuel f
      | none => pure none
    let groupBy ← expandList fuel groupBy
    let having ← match having with
      | some h => some <$> expandExpr fuel h
      | none => pure none
    let sources ← pairs.mapM fun (.mk n k item on us, _) => do
      let on ← match on with
        | some o => some <$> expandExpr fuel o
        | none => pure none
      pure (Source.mk n k item on us)
    let windows ← windows.mapM fun (.mk n w) => do pure (WindowDef.mk n (← expandWindow fuel w))
    return .select distinct cols sources filter groupBy having windows

/-- Expands the subqueries of result columns. -/
def expandColumns : Nat → List ResultColumn → ResolveM (List ResultColumn)
  | 0, _ => fail "parser stack overflow" none
  | _, [] => pure []
  | fuel + 1, c :: rest => do
    let c ← match c with
      | .expr e a s => do pure (ResultColumn.expr (← expandExpr fuel e) a s)
      | other => pure other
    return c :: (← expandColumns fuel rest)

/-- Expands the subqueries of `VALUES` rows. -/
def expandRows : Nat → List (List Expr) → ResolveM (List (List Expr))
  | 0, _ => fail "parser stack overflow" none
  | _, [] => pure []
  | fuel + 1, row :: rest => do
    let row ← expandList fuel row
    return row :: (← expandRows fuel rest)

/-- Expands a query: its cores from the right, the last with the ordering and limit. -/
def expandSelect : Nat → Select → ResolveM Select
  | 0, _ => fail "parser stack overflow" none
  | fuel + 1, .mk ctes recursive first rest orderBy limit offset => do
    let defs := ctes.map fun (.mk n cols q) => ({ name := n.text, columns := cols, query := q } :
      CteDef)
    withReader (fun env => { env with ctes := defs.reverse ++ env.ctes }) do
      let cores := first :: rest.map fun (.mk _ c) => c
      let ops := rest.map fun (.mk op _) => op
      let lastIndex := cores.length - 1
      let mut done : List Core := []
      let mut tail : List Term × Option Expr × Option Expr := ([], none, none)
      for (c, i) in cores.zipIdx.reverse do
        let c ← expandCore fuel c
        if i == lastIndex then
          let orderBy ← expandTerms fuel orderBy
          let limit ← match limit with
            | some l => some <$> expandExpr fuel l
            | none => pure none
          let offset ← match offset with
            | some o => some <$> expandExpr fuel o
            | none => pure none
          tail := (orderBy, limit, offset)
        done := c :: done
      match done with
      | c :: cs =>
        return .mk ctes recursive c (ops.zip cs |>.map fun (op, c) => .mk op c) tail.1 tail.2.1
          tail.2.2
      | [] => return .mk ctes recursive first rest orderBy limit offset

/-- Expands the subqueries of ordering terms. -/
def expandTerms : Nat → List Term → ResolveM (List Term)
  | 0, _ => fail "parser stack overflow" none
  | _, [] => pure []
  | fuel + 1, .mk e d n :: rest => do
    let e ← expandExpr fuel e
    return .mk e d n :: (← expandTerms fuel rest)

/-- Binds the names of an expression. -/
def resolveExpr : Nat → Expr → ResolveM Expr
  | 0, _ => fail "parser stack overflow" none
  | fuel + 1, e => do
    let env ← read
    match e with
    | .literal _ | .integer _ _ | .float _ | .current _ | .bound _ _ _ => pure e
    | .variable _ o =>
      if env.place != .query then
        record ("parameters prohibited in " ++ env.place.text) (some o)
        pure (.literal .null)
      else pure e
    | .column n => lookupName none none n e
    | .qualified s t n => lookupName s (some t) n e
    | .unary op a => return .unary op (← resolveExpr fuel a)
    | .binary op a b =>
      if op.compares && vectorSize a != vectorSize b then record "row value misused" e.offset?
      let a ← resolveExpr fuel a
      return .binary op a (← resolveExpr fuel b)
    | .collate a c =>
      if (Collation.ofName? c).isNone then record ("no such collation sequence: " ++ c) none
      return .collate (← resolveExpr fuel a) c
    | .cast a t => return .cast (← resolveExpr fuel a) t
    | .isNull a n => return .isNull (← resolveExpr fuel a) n
    | .between a l h n =>
      if vectorSize a != vectorSize l || vectorSize a != vectorSize h then
        record "row value misused" e.offset?
      let a ← resolveExpr fuel a
      let l ← resolveExpr fuel l
      return .between a l (← resolveExpr fuel h) n
    | .like op n a p x =>
      let fname := op.text.toLower
      let count := if x.isSome then 3 else 2
      match findFunction fname count with
      | .unknown => record ("no such function: " ++ op.text) (some op.offset)
      | .wrongCount =>
        record ("wrong number of arguments to function " ++ op.text ++ "()") (some op.offset)
      | .found _ => pure ()
      let p ← resolveExpr fuel p
      let a ← resolveExpr fuel a
      let x ← match x with
        | some x => some <$> resolveExpr fuel x
        | none => pure none
      return .like op n a p x
    | .inList a items n =>
      let a ← resolveExpr fuel a
      return .inList a (← resolveList fuel items) n
    | .inSelect a s n =>
      if env.place != .query then
        record ("subqueries prohibited in " ++ env.place.text) e.offset?
        pure (.literal .null)
      else
        let s ← subquery fuel s
        let a ← resolveExpr fuel a
        return .inSelect a s n
    | .inTable a schema t n =>
      let a ← resolveExpr fuel a
      let wanted := schema.map (·.text) |>.orElse fun _ => env.fixed
      match env.db.locate? t.text wanted with
      | some _ => return .inTable a schema t n
      | none => fail ("no such table: " ++ (match wanted with | some s => s ++ "." | none => "") ++
          t.text) none
    | .exists s =>
      if env.place != .query then
        record ("subqueries prohibited in " ++ env.place.text) none
        pure (.literal .null)
      else return .exists (← subquery fuel s)
    | .subquery s =>
      if env.place != .query then
        record ("subqueries prohibited in " ++ env.place.text) none
        pure (.literal .null)
      else return .subquery (← subquery fuel s)
    | .case o bs x =>
      let o ← match o with
        | some o => some <$> resolveExpr fuel o
        | none => pure none
      let bs ← resolveBranches fuel bs
      let x ← match x with
        | some x => some <$> resolveExpr fuel x
        | none => pure none
      return .case o bs x
    | .call name args distinct star order =>
      let count := if star then 0 else args.length
      let scope := env.scopes.head?.getD {}
      match findFunction name.text count with
      | .unknown =>
        record ("no such function: " ++ name.text) (some name.offset)
        let _ ← resolveList fuel args
        pure (.literal .null)
      | .wrongCount =>
        record ("wrong number of arguments to function " ++ name.text ++ "()") (some name.offset)
        let _ ← resolveList fuel args
        pure (.literal .null)
      | .found f =>
        if !f.deterministic && (env.place == .index || env.place == .partialIndex ||
            env.place == .generated) then
          record ("non-deterministic functions prohibited in " ++ env.place.text)
            (some name.offset)
        let isAgg := f.kind != .scalar
        if f.kind == .window then
          record ("misuse of window function " ++ name.text ++ "()") (some name.offset)
        else if isAgg && !scope.allowAgg then
          record ("misuse of aggregate function " ++ name.text ++ "()") (some name.offset)
        else if !isAgg && !order.isEmpty then
          record ("ORDER BY may not be used with non-aggregate " ++ name.text ++ "()")
            (some name.offset)
        let allowed := isAgg && scope.allowAgg && f.kind == .aggregate
        let inner := if isAgg then { scope with allowAgg := false, allowWin := false } else scope
        let args ← atScope inner (resolveList fuel args)
        if allowed then
          let order ← atScope inner (resolveOrdering fuel order)
          modify fun st => { st with hasAgg := true }
          if distinct && args.length != 1 then
            record "DISTINCT aggregates must have exactly one argument" none
          return .aggregate name.text args distinct star none order
        else return .call name args distinct star []
    | .windowCall name args distinct star filter window order =>
      let count := if star then 0 else args.length
      let scope := env.scopes.head?.getD {}
      match findFunction name.text count with
      | .unknown =>
        record ("no such function: " ++ name.text) (some name.offset)
        let _ ← resolveList fuel args
        pure (.literal .null)
      | .wrongCount =>
        let scalar := functionCatalog.any fun f => f.name == name.text.toLower && f.kind == .scalar
        if window.isSome && scalar then
          record (name.text ++ "() may not be used as a window function") (some name.offset)
        else
          record ("wrong number of arguments to function " ++ name.text ++ "()") (some name.offset)
        let _ ← resolveList fuel args
        pure (.literal .null)
      | .found f =>
        if !f.deterministic && (env.place == .index || env.place == .partialIndex ||
            env.place == .generated) then
          record ("non-deterministic functions prohibited in " ++ env.place.text)
            (some name.offset)
        if f.kind == .scalar then
          if window.isSome then
            record (name.text ++ "() may not be used as a window function") (some name.offset)
          else
            record ("FILTER may not be used with non-aggregate " ++ name.text ++ "()")
              (some name.offset)
          let _ ← resolveList fuel args
          return .literal .null
        if !scope.allowAgg || (f.kind == .window && window.isNone) ||
            (window.isSome && !scope.allowWin) then
          let what := if f.kind == .window || window.isSome then "window" else "aggregate"
          record ("misuse of " ++ what ++ " function " ++ name.text ++ "()") (some name.offset)
          let _ ← resolveList fuel args
          return .literal .null
        match window with
        | none =>
          let inner := { scope with allowAgg := false, allowWin := false }
          let args ← atScope inner (resolveList fuel args)
          let order ← atScope inner (resolveOrdering fuel order)
          let filter ← atScope inner (resolveOption fuel filter)
          modify fun st => { st with hasAgg := true }
          if distinct && args.length != 1 then
            record "DISTINCT aggregates must have exactly one argument" none
          return .aggregate name.text args distinct star filter order
        | some w =>
          let inner := { scope with allowWin := false }
          let args ← atScope inner (resolveList fuel args)
          if (← get).pending.isSome then
            let filter ← atScope inner (resolveOption fuel filter)
            return .windowCall name args distinct star filter none []
          let (partition, order, frame) ← windowOf scope.windows f filter.isSome w
          let partition ← atScope inner (resolveList fuel partition)
          let order ← atScope inner (resolveOrdering fuel order)
          let filter ← atScope inner (resolveOption fuel filter)
          let frame ← resolveFrame fuel frame
          return .windowCall name args distinct star filter
            (some (.spec partition order (some frame))) []
    | .aggregate n args d s f o =>
      modify fun st => { st with hasAgg := true }
      let args ← resolveList fuel args
      let o ← resolveOrdering fuel o
      return .aggregate n args d s (← resolveOption fuel f) o
    | .vector items => return .vector (← resolveList fuel items)
    | .raise a m =>
      if !env.inTrigger then record "RAISE() may only be used within a trigger-program" none
      return .raise a m

/-- Binds the names of an expression that may be left out. -/
def resolveOption : Nat → Option Expr → ResolveM (Option Expr)
  | 0, _ => fail "parser stack overflow" none
  | _, none => pure none
  | fuel + 1, some e => some <$> resolveExpr fuel e

/-- Binds the names of the expressions of ordering terms, as plain expressions. -/
def resolveOrdering : Nat → List Term → ResolveM (List Term)
  | 0, _ => fail "parser stack overflow" none
  | _, [] => pure []
  | fuel + 1, .mk e d n :: rest => do
    let e ← resolveExpr fuel e
    return .mk e d n :: (← resolveOrdering fuel rest)

/-- Binds a frame's offsets, constants that see no columns (`true` and `false` among them). -/
def resolveFrame : Nat → WindowFrame → ResolveM WindowFrame
  | 0, _ => fail "parser stack overflow" none
  | fuel + 1, .mk unit start finish exclude => do
    let bound (b : FrameBound) : ResolveM FrameBound :=
      withReader (fun e => { e with scopes := [] }) (match b with
        | .preceding x => FrameBound.preceding <$> resolveExpr fuel x
        | .following x => FrameBound.following <$> resolveExpr fuel x
        | other => pure other)
    let start ← bound start
    return .mk unit start (← bound finish) exclude

/-- Binds the names of a list of expressions, all of them. -/
def resolveList : Nat → List Expr → ResolveM (List Expr)
  | 0, _ => fail "parser stack overflow" none
  | _, [] => pure []
  | fuel + 1, e :: rest => do
    let e ← resolveExpr fuel e
    return e :: (← resolveList fuel rest)

/-- Binds the names of `CASE` branches. -/
def resolveBranches : Nat → List Branch → ResolveM (List Branch)
  | 0, _ => fail "parser stack overflow" none
  | _, [] => pure []
  | fuel + 1, .mk c r :: rest => do
    let c ← resolveExpr fuel c
    let r ← resolveExpr fuel r
    return .mk c r :: (← resolveBranches fuel rest)

/-- A subquery in an expression, seen from the scopes around it: expanded first unless the
query holding it was. -/
def subquery : Nat → Select → ResolveM Select
  | 0, _ => fail "parser stack overflow" none
  | fuel + 1, s => do
    let saved := (← get).hasAgg
    let env ← read
    let s ← if env.expanded then resolveSelect fuel s
      else do
        let s ← expandSelect fuel s
        withReader (fun e => { e with expanded := true }) (resolveSelect fuel s)
    modify fun st => { st with hasAgg := saved }
    return s

/-- Expands a query and binds its names: its result columns' names come from the expanded
query. -/
def prepareSelect : Nat → Select → ResolveM (Select × List String)
  | 0, _ => fail "parser stack overflow" none
  | fuel + 1, s => do
    let s ← expandSelect fuel s
    let names := s.names
    let saved := (← get).hasAgg
    let s ← withReader (fun e => { e with expanded := true }) (resolveSelect fuel s)
    modify fun st => { st with hasAgg := saved }
    return (s, names)

/-- Binds the names of a list of result columns, stopping after the first that fails. -/
def resolveColumns : Nat → List ResultColumn → ResolveM (List ResultColumn)
  | 0, _ => fail "parser stack overflow" none
  | _, [] => pure []
  | fuel + 1, c :: rest => do
    let c ← match c with
      | .expr e a s => do pure (ResultColumn.expr (← resolveExpr fuel e) a s)
      | other => pure other
    checkpoint
    return c :: (← resolveColumns fuel rest)

/-- Binds the names of the subqueries among sources. -/
def resolveSources : Nat → List Source → ResolveM (List Source)
  | 0, _ => fail "parser stack overflow" none
  | _, [] => pure []
  | fuel + 1, .mk n k item on us :: rest => do
    let item ← match item with
      | .subquery q a => do
        let saved := (← get).hasAgg
        let q ← resolveSelect fuel q
        modify fun st => { st with hasAgg := saved }
        pure (SourceItem.subquery q a)
      | .derived q a cols => do
        let saved := (← get).hasAgg
        let q ← resolveSelect fuel q
        modify fun st => { st with hasAgg := saved }
        pure (SourceItem.derived q a cols)
      | .recursive n q k a cols => do
        let saved := (← get).hasAgg
        let q ← resolveSelect fuel q
        modify fun st => { st with hasAgg := saved }
        pure (SourceItem.recursive n q k a cols)
      | other => pure other
    return .mk n k item on us :: (← resolveSources fuel rest)

/-- Binds ordering or grouping terms: a column number, an alias (for ordering), or an
expression. -/
def resolveTerms : Nat → String → List ResultColumn → Nat → List Term → ResolveM (List Term)
  | 0, _, _, _, _ => fail "parser stack overflow" none
  | _, _, _, _, [] => pure []
  | fuel + 1, kind, cols, i, .mk e d n :: rest => do
    let bare := skipCollate 64 e
    let byAlias : Option Expr := if kind == "ORDER" then
        match bare with
        | .column name => (cols.findSome? fun c => match c with
            | .expr x (some a) _ => if sameName a.text name.text then some x else none
            | _ => none)
        | _ => none
      else none
    let e ← match byAlias with
      | some x => pure x
      | none => match termInteger? bare with
        | some k =>
          if k < 1 || k > cols.length then
            fail (ordinal (i + 1) ++ " " ++ kind ++ " BY term out of range - should be between 1 and " ++
              toString cols.length) e.offset?
          match cols[k.toNat - 1]? with
          | some (.expr x _ _) => pure x
          | _ => pure (.literal .null)
        | none => do
          let x ← resolveExpr fuel e
          checkpoint
          pure x
    return .mk e d n :: (← resolveTerms fuel kind cols (i + 1) rest)

/-- Binds the names of one expanded core; a lone core also binds its ordering here. -/
def resolveCore : Nat → Core → Option (List Term) → ResolveM (Core × List Term)
  | 0, _, _ => fail "parser stack overflow" none
  | fuel + 1, .values rows, order => do
    let rows ← resolveRows fuel rows
    return (.values rows, order.getD [])
  | fuel + 1, .select distinct cols sources filter groupBy having windows, order => do
    let sources ← resolveSources fuel sources
    let env ← read
    let visibles ← sources.mapM fun src => sourceVisible env src
    let scope : Scope := { sources := visibles, allowAgg := true, allowWin := true, windows }
    modify fun st => { st with hasAgg := false }
    let cols ← inScope scope (resolveColumns fuel cols)
    let isAgg := !groupBy.isEmpty || (← get).hasAgg
    let aliases := cols.filterMap fun c => match c with
      | .expr x (some a) _ => some (a.text, x)
      | _ => none
    let scope := { scope with aliases, allowAgg := isAgg, allowWin := false }
    let having ← match having with
      | some h =>
        if !isAgg then fail "HAVING clause on a non-aggregate query" none
        let h ← inScope scope (resolveExpr fuel h)
        checkpoint
        pure (some h)
      | none => pure none
    let whereScope := { scope with allowAgg := false }
    let filter ← match filter with
      | some f => some <$> inScope whereScope (resolveExpr fuel f)
      | none => pure none
    let sources ← sources.mapM fun (.mk n k item on us) => do
      let item ← match item with
        | .function f args a cols => do
          pure (SourceItem.function f (← inScope whereScope (resolveList fuel args)) a cols)
        | other => pure other
      let on ← match on with
        | some o => some <$> inScope whereScope (resolveExpr fuel o)
        | none => pure none
      pure (Source.mk n k item on us)
    checkpoint
    let orderScope : Scope := { scope with allowAgg := true, allowWin := true }
    let ordering ← match order with
      | some terms =>
        withReader (fun e => { e with scopes := [] })
          (inScope orderScope (resolveTerms fuel "ORDER" cols 0 terms))
      | none => pure []
    let groupScope : Scope := { scope with allowAgg := false }
    let groupBy ← inScope groupScope (resolveGroup fuel cols groupBy)
    return (.select distinct cols sources filter groupBy having windows, ordering)

/-- Binds `VALUES` rows from the right, checking that neighbours have one width. -/
def resolveRows : Nat → List (List Expr) → ResolveM (List (List Expr))
  | 0, _ => fail "parser stack overflow" none
  | _, [] => pure []
  | fuel + 1, row :: rest => do
    let rest ← resolveRows fuel rest
    let row ← inScope { allowAgg := true } (resolveRow fuel row)
    match rest with
    | next :: _ => if next.length != row.length then
        fail "all VALUES must have the same number of terms" none
    | [] => pure ()
    return row :: rest

/-- Binds one row of `VALUES`, stopping after the first item that fails. -/
def resolveRow : Nat → List Expr → ResolveM (List Expr)
  | 0, _ => fail "parser stack overflow" none
  | _, [] => pure []
  | fuel + 1, e :: rest => do
    let e ← resolveExpr fuel e
    checkpoint
    return e :: (← resolveRow fuel rest)

/-- Binds grouping terms; none may hold an aggregate. -/
def resolveGroup : Nat → List ResultColumn → List Expr → ResolveM (List Expr)
  | 0, _, _ => fail "parser stack overflow" none
  | fuel + 1, cols, groupBy => do
    let terms ← resolveTerms fuel "GROUP" cols 0 (groupBy.map fun g => .mk g false none)
    let saved := (← get).hasAgg
    let out := terms.map fun (.mk e _ _) => e
    for g in out do
      if hasAggregate 64 g then
        fail "aggregate functions are not allowed in the GROUP BY clause" none
    modify fun st => { st with hasAgg := saved }
    return out

/-- Binds the names of an expanded query: its limit and offset first, then its cores from the
right, each checked against the core to its right, then the ordering of a compound. -/
def resolveSelect : Nat → Select → ResolveM Select
  | 0, _ => fail "parser stack overflow" none
  | fuel + 1, .mk ctes recursive first rest orderBy limit offset => do
    let limit ← match limit with
      | some l => some <$> withReader (fun e => { e with scopes := [] }) (resolveExpr fuel l)
      | none => pure none
    let offset ← match offset with
      | some o => some <$> withReader (fun e => { e with scopes := [] }) (resolveExpr fuel o)
      | none => pure none
    checkpoint
    let cores := first :: rest.map fun (.mk _ c) => c
    let ops := rest.map fun (.mk op _) => op
    let compound := !rest.isEmpty
    let lastIndex := cores.length - 1
    let mut done : List Core := []
    let mut order : List Term := orderBy
    for (c, i) in cores.zipIdx.reverse do
      let (c, o) ← resolveCore fuel c (if compound then none else some orderBy)
      if !compound then order := o
      match done with
      | right :: _ =>
        if c.width != right.width then
          fail (widthMessage (ops[i]?.getD .union) right) none
      | [] => pure ()
      let _ := lastIndex
      done := c :: done
    match done with
    | c :: cs =>
      let finalOrder ← if compound then compoundOrder c.names order 0 else pure order
      return .mk ctes recursive c (ops.zip cs |>.map fun (op, c) => .mk op c) finalOrder limit
        offset
    | [] => return .mk ctes recursive first rest orderBy limit offset

end

end Shipyard.Sql
