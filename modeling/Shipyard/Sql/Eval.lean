import Shipyard.Sql.Resolve
import Shipyard.Sql.Func
import Shipyard.Sql.Aggregate
import Shipyard.Sql.FullText
import Shipyard.Sql.Window
/-!
# Evaluating expressions and queries

Evaluation works on resolved expressions, where each column is a position: how many scopes
out, which source of that scope, which column. A scope is a frame: the row that each source of
a query stands at. A query with aggregates also has the rows of its current group, over which
an aggregate call folds its arguments.

A comparison first converts its operands under the comparison affinity: when one side is a
column with a numeric affinity, a text on either side that is a number becomes that number;
when one side is a column with text affinity and the other is not a column, numbers become text.
It compares under the collation that an explicit `COLLATE` gives, else that of a column
operand (the left first), else byte by byte.

A query joins its sources from left to right, each row of the left with the rows of the next
source that its `ON` clause and its common columns accept (a `LEFT` join keeps a left row that
matches nothing, with nulls on the right), filters by `WHERE`, groups and folds aggregates,
filters groups by `HAVING`, and yields its result columns, distinct if asked. A compound
combines the rows of its cores from the left; ordering and limits apply last.
-/
namespace Shipyard.Sql

/-- A row of a source as a query sees it: its row id if it has one, its values, and the
affinity and collation of each column. A source of an outer join that matched nothing stands
at a row with no values, whose columns read as null. -/
structure SourceRow where
  rowid : Option Int := none
  values : List Value := []
  affinities : List (Option Affinity) := []
  collations : List Collation := []
  /-- The columns of a full-text table that a query may search. -/
  search : Option FullText.Layout := none
  /-- For each column, whether its value is JSON text, as a JSON function's result is. -/
  marks : List Bool := []
  deriving Inhabited

/-- The rows that the sources of one query stand at. -/
abbrev Frame := List SourceRow

/-- What evaluation reads: the database, what function calls read, the bound parameters, the
frames from the innermost out, and the frames of the current group. -/
structure EvalEnv where
  db : Database
  call : CallEnv := {}
  params : List (String × Value) := []
  frames : List Frame := []
  group : Option (List Frame) := none
  /-- The rows that recursive common table expressions stand at, by name, the innermost
  first. -/
  queued : List (String × List Value) := []
  deriving Inhabited

/-- The source row that a position names. -/
def EvalEnv.source? (env : EvalEnv) (depth source : Nat) : Option SourceRow :=
  (env.frames[depth]?).bind (·[source]?)

/-- The rows of a stored table, or of a schema's catalog. -/
def Database.tableRows (db : Database) (schema table : String) : List Row :=
  if isCatalogName table (sameName schema "temp") then
    match db.schema? schema with
    | some sc => sc.catalog.zipIdx.map fun (e, i) =>
      { rowid := i + 1, values := [.text e.kind.text, .text e.name, .text e.table,
          .integer (if e.kind == .view || e.kind == .trigger then 0 else i + 2), .text e.sql] }
    | none => []
  else db.rowsOf schema table

/-- The source row of a stored row of a table. A table without row ids still keeps one for each
row, out of reach of names, by which a statement finds the row again. -/
def Table.sourceRow (t : Table) (r : Row) : SourceRow :=
  { rowid := some r.rowid, values := r.values,
    affinities := t.columns.map fun c => some c.affinity,
    collations := t.columns.map (·.collation),
    search := match t.kind with
      | .virtual m unindexed =>
        if m.toLower != "fts5" then none
        else
          let names := (t.columns.filter (!·.hidden)).map (·.name)
          some { names, searched := names.map fun n => !unindexed.any (sameName · n) }
      | _ => none }

/-- The value of a hexadecimal digit. -/
def hexDigitValue (c : Char) : Nat :=
  if '0' ≤ c && c ≤ '9' then c.toNat - 48
  else if 'a' ≤ c && c ≤ 'f' then c.toNat - 87
  else if 'A' ≤ c && c ≤ 'F' then c.toNat - 55
  else 0

/-- The value of an integer literal: decimal digits too large for 64 bits read as a real; a
hexadecimal literal is a 64-bit pattern and may have at most sixteen digits. -/
def integerLiteral (digits : String) (offset : Nat) (negated : Bool) : Except SqlError Value :=
  match digits.toList with
  | '0' :: x :: hex =>
    if x == 'x' || x == 'X' then
      if hex.length > 16 then
        throw (.atOffset ("hex literal too big: " ++ (if negated then "-" else "") ++ digits)
          offset)
      else
        let n := hex.foldl (fun acc c => acc * 16 + hexDigitValue c) 0
        let v : Int := if n ≥ 9223372036854775808 then (n : Int) - 18446744073709551616 else n
        pure (.integer (if negated then (if v == minInt then minInt else -v) else v))
    else decimal
  | _ => decimal
where
  decimal : Except SqlError Value :=
    let n := digitsValue digits.toList
    let v : Int := if negated then -(n : Int) else n
    if fitsInt v then pure (.integer v)
    else pure (.real (let r := (readReal digits.toList).1
      if negated then -r else r))

/-- The operands of an expression outside its subqueries, in the order the engine searches them
(for a `COLLATE`, for aggregate calls): the operand before the operator, then the listed
operands (a call's arguments, the items of a list, the branches of a `CASE`, a `LIKE` pattern
before its subject), then the operand after the operator. -/
def Expr.operands : Expr → List Expr
  | .unary _ a | .cast a _ | .isNull a _ | .inSelect a _ _ | .inTable a _ _ _ => [a]
  | .binary _ a b => [a, b]
  | .between a l h _ => [a, l, h]
  | .like _ _ a p x => p :: a :: x.toList
  | .inList a items _ => a :: items
  | .case o bs x => o.toList ++ (bs.flatMap fun (.mk c r) => [c, r]) ++ x.toList
  | .call _ args _ _ _ | .aggregate _ args _ _ _ _ | .windowCall _ args _ _ _ _ _ => args
  | .vector items => items
  | _ => []

/-- The aggregate calls in an expression outside its subqueries, in the order they are met. -/
def Expr.aggregatesIn : Nat → Expr → List Expr
  | 0, _ => []
  | fuel + 1, e => match e with
    | .aggregate .. => [e]
    | _ => e.operands.flatMap (Expr.aggregatesIn fuel)

/-- Whether an expression is a call of the aggregate `min` or `max`. -/
def Expr.isExtremeCall : Expr → Bool
  | .aggregate n [_] _ _ _ _ => n.toLower == "min" || n.toLower == "max"
  | _ => false

/-- The collation that a `COLLATE` inside an expression gives it: the first found, searching
each subexpression that holds one in the order `Expr.operands` gives. -/
def collateIn : Nat → Expr → Option String
  | 0, _ => none
  | fuel + 1, e => match e with
    | .collate _ c => some c
    | _ => (e.operands.map (collateIn fuel)).findSome? id

/-- The collation of an expression, and whether a `COLLATE` written in it gave it: a
`COLLATE` anywhere in it outside subqueries, else that of the column it reads, through casts,
unary plus and the first item of a row value; none for any other expression. -/
def exprCollation (env : EvalEnv) (e : Expr) : Option (Collation × Bool) :=
  match collateIn 64 e with
  | some c => (Collation.ofName? c).map (·, true)
  | none => natural 64 e
where
  natural : Nat → Expr → Option (Collation × Bool)
    | 0, _ => none
    | fuel + 1, e => match e with
      | .bound d s (some j) => ((env.source? d s).bind fun r => r.collations[j]?).map (·, false)
      | .cast a _ | .unary .pos a => natural fuel a
      | .vector (a :: _) => natural fuel a
      | _ => none

/-- The flags of the kinds of values an expression can give, as a compound query weighs them
for the affinity of its columns: `1` a number, `2` a text, `4` a blob, from the affinity of
a column, cast or subquery where the expression is one. -/
def dataTypeOf (aff : Option Affinity) : Nat :=
  match aff with
  | some a => if a.isNumeric then 5 else if a == .text then 6 else 7
  | none => 7

mutual

/-- The affinity of an expression: that of the column it reads, of its cast, or of the first
column of the last core of its subquery. -/
def affinityOf : Nat → EvalEnv → Expr → Option Affinity
  | 0, _, _ => none
  | fuel + 1, env, e => match e with
    | .bound d s (some j) => ((env.source? d s).bind fun r => (r.affinities[j]?).getD none)
    | .bound _ _ none => some .integer
    | .cast _ t => some (Func.castAffinity t)
    | .collate a _ => affinityOf fuel env a
    | .vector (a :: _) => affinityOf fuel env a
    | .subquery (.mk _ _ first rest _ _ _) =>
      let last := (rest.getLast?.map fun (.mk _ c) => c).getD first
      ((coreTraits fuel env last).head?).bind (·.1)
    | _ => none

/-- The kinds of values an expression can give, as flags (see `dataTypeOf`). -/
def dataTypeIn : Nat → EvalEnv → Expr → Nat
  | 0, _, _ => 7
  | fuel + 1, env, e => match e with
    | .collate a _ | .unary .pos a => dataTypeIn fuel env a
    | .literal .null => 0
    | .literal (.text _) => 2
    | .literal (.blob _) => 4
    | .binary .concat _ _ => 6
    | .variable _ _ | .call .. | .aggregate .. | .windowCall .. => 7
    | .bound .. | .subquery _ | .cast .. | .vector _ => dataTypeOf (affinityOf fuel env e)
    | .case _ bs x =>
      let results := bs.map (fun (.mk _ r) => r) ++ x.toList
      results.foldl (fun acc r => acc ||| dataTypeIn fuel env r) 0
    | _ => 1

/-- For each result column of a core: its affinity, its collation, the kinds of values it can
give, and whether it is a cast. The columns it reads are those of its sources as they stand
before any row is read. -/
def coreTraits : Nat → EvalEnv → Core →
    List (Option Affinity × Option (Collation × Bool) × Nat × Bool)
  | 0, _, _ => []
  | fuel + 1, env, core =>
    let (inner, exprs) := match core with
      | .values rows => (env, rows.head?.getD [])
      | .select _ cols sources _ _ _ _ =>
        ({ env with frames := sourceTemplates fuel env sources :: env.frames, group := none },
          cols.filterMap fun (c : ResultColumn) => match c with
            | .expr e _ _ => some e
            | _ => none)
    exprs.map fun e =>
      (affinityOf fuel inner e, exprCollation inner e, dataTypeIn fuel inner e,
        match e with
        | .cast .. => true
        | _ => false)

/-- The rows that sources stand at before any row is read: no values, the affinity and
collation of each column. -/
def sourceTemplates : Nat → EvalEnv → List Source → Frame
  | 0, _, _ => []
  | _, _, [] => []
  | fuel + 1, env, .mk _ _ item _ _ :: rest =>
    sourceTemplate fuel env item :: sourceTemplates fuel env rest

/-- The row a source stands at before any row is read. -/
def sourceTemplate : Nat → EvalEnv → SourceItem → SourceRow
  | 0, _, _ => {}
  | fuel + 1, env, item => match item with
    | .stored s t _ => match env.db.locate? t (some s) with
      | some (_, tbl) => { tbl.sourceRow { rowid := 0, values := [] } with rowid := none }
      | none => {}
    | .subquery q _ | .derived q _ _ | .recursive _ q _ _ _ => selectTemplate fuel env q
    | _ => {}

/-- The row a query stands at as a source before any row is read. Its columns take their
collations from its first core. A column takes its affinity from the first core that gives
its column one; a text column that another core fills with numbers, or a numeric one that
another fills with texts, has none to speak of and compares as a blob. -/
def selectTemplate : Nat → EvalEnv → Select → SourceRow
  | 0, _, _ => {}
  | fuel + 1, env, .mk _ _ first rest _ _ _ =>
    let cores := (first :: rest.map fun (.mk _ c) => c).map (coreTraits fuel env)
    let firsts := cores.head?.getD []
    let affinities := firsts.zipIdx.map fun (_, i) =>
      let column := cores.map fun ts => ts[i]?.getD (none, none, 0, false)
      -- the first core that gives the column an affinity, with the kinds of the cores before
      let (at_, kinds) := column.zipIdx.foldl (fun (found : Option Nat × Nat) (t, k) =>
        match found with
        | (some j, m) => (some j, m)
        | (none, m) => if t.1.isSome then (some k, m) else (none, m ||| t.2.2.1)) (none, 0)
      match at_ with
      | none => none
      | some j =>
        let aff := (column[j]?.bind (·.1))
        let later := (column.drop (j + 1)).foldl (fun m t => m ||| t.2.2.1) kinds
        if column.length ≤ 1 then aff
        else match aff with
          | some .text => if later &&& 1 != 0 then some .blob else aff
          | some a => if a.isNumeric && later &&& 2 != 0 then some .blob
            else if a.isNumeric && (column.head?.map (·.2.2.2)).getD false then some .numeric
            else aff
          | none => none
    { affinities, collations := firsts.map fun t => (t.2.1.map (·.1)).getD .binary }

end

/-- The affinity of an expression: that of the column it reads, of its cast, or of the first
column of the last core of its subquery. -/
def exprAffinity (env : EvalEnv) (e : Expr) : Option Affinity := affinityOf 64 env e

/-- The last core of a query: a reference to the query's columns reads its result columns. -/
def Select.lastCore : Select → Core
  | .mk _ _ first rest _ _ _ => (rest.getLast?.map fun (.mk _ c) => c).getD first

/-- The first core of a query. -/
def Select.firstCore : Select → Core
  | .mk _ _ first _ _ _ _ => first

/-- The result expressions of a core, with the sources they read. -/
def Core.parts : Core → List Expr × List Source
  | .select _ cols sources _ _ _ _ =>
    (cols.filterMap fun (c : ResultColumn) => match c with
      | .expr e _ _ => some e
      | _ => none, sources)
  | .values rows => (rows.head?.getD [], [])

/-- The declared type of the table column an expression reads, followed through subqueries
in `FROM` (to the column of their last core) and scalar subqueries (to their first column):
`INTEGER` for a row id; none for a column declared without a type and for any other
expression. `scopes` are the sources of the cores around the expression, the innermost first. -/
def declaredTypeIn : Nat → Database → List (List Source) → Expr → Option String
  | 0, _, _, _ => none
  | fuel + 1, db, scopes, e => match e with
    | .bound d s col => match (scopes[d]?).bind (·[s]?) with
      | some (.mk _ _ (.stored sch tbl _) _ _) => match db.locate? tbl (some sch), col with
        | some (_, t), some j =>
          (t.columns[j]?).bind fun c => if c.type.isEmpty then none else some c.type
        | some _, none => some "INTEGER"
        | none, _ => none
      | some (.mk _ _ (.subquery q _) _ _) | some (.mk _ _ (.derived q _ _) _ _)
      | some (.mk _ _ (.recursive _ q _ _ _) _ _) => match col with
        | some j =>
          let (es, srcs) := q.lastCore.parts
          (es[j]?).bind (declaredTypeIn fuel db (srcs :: scopes.drop d))
        | none => none
      | _ => none
    | .subquery q =>
      let (es, srcs) := q.lastCore.parts
      es.head?.bind (declaredTypeIn fuel db (srcs :: scopes))
    | _ => none

/-- The type the engine names an affinity by when a column has no declared type that fits:
`NUM`, `INT`, `REAL`, `TEXT` or `BLOB`. -/
def Affinity.typeName : Affinity → String
  | .numeric => "NUM"
  | .integer => "INT"
  | .real => "REAL"
  | .text => "TEXT"
  | .blob => "BLOB"

/-- The declared types a query gives its result columns, as the columns of a view (`dflt`
none) or of a table made from the query (`dflt` blob): the declared type of the table column
that the column of the first core reads, when its affinity is the column's affinity (see
`selectTemplate`, where a column of no affinity takes `dflt`); else the name of that affinity;
else none. With each type, the column's affinity and collation. -/
def resultColumnTypes (fuel : Nat) (db : Database) (q : Select) (dflt : Option Affinity) :
    List (Option String × Option Affinity × Collation) :=
  let template := selectTemplate fuel { db } q
  let (es, srcs) := q.firstCore.parts
  template.affinities.zipIdx.map fun (aff, i) =>
    let aff := aff.orElse fun _ => dflt
    let declared := (es[i]?).bind (declaredTypeIn fuel db [srcs])
    let type := match declared, aff with
      | some ty, some a => if Affinity.ofType ty == a then some ty else some a.typeName
      | _, some a => some a.typeName
      | _, none => none
    (type, aff, (template.collations[i]?).getD .binary)

/-- The names and declared types of a view's columns, from its query resolved as it is when
the view is read; none when the query no longer resolves. -/
def viewColumnTypes (db : Database) (schema : String) (t : Table) : List (String × String) :=
  match t.kind with
  | .view declared q =>
    let key := schema.toLower ++ "." ++ t.name.toLower
    let env : Env := { db, views := [key], offsets := false, fixed := some schema }
    match ((prepareSelect 100000 q).run env).run {} with
    | .ok ((q, names), st) =>
      if st.pending.isSome then []
      else
        let names := if declared.isEmpty then names else uniqueNames (declared.map (·.text))
        names.zip ((resultColumnTypes 100000 db q none).map fun (ty, _, _) => ty.getD "")
    | .error _ => []
  | _ => []

/-- An environment in which a core's sources stand before any row is read, for the affinities
and collations of the expressions that read them. -/
def coreTemplate (fuel : Nat) (env : EvalEnv) : Core → EvalEnv
  | .select _ _ sources _ _ _ _ =>
    { env with frames := sourceTemplates fuel env sources :: env.frames, group := none }
  | .values _ => env

/-- The collations under which a compound query compares the values of its columns: for each
column, that of the first core whose column has one, else binary. -/
def compoundCollations (fuel : Nat) (env : EvalEnv) (cores : List Core) : List Collation :=
  let traits := cores.map (coreTraits fuel env)
  (traits.head?.getD []).zipIdx.map fun (_, i) =>
    (traits.findSome? fun ts => (ts[i]?.bind (·.2.1)).map (·.1)).getD .binary

/-- What a value brings to a comparison besides itself: the affinity of the expression it comes
from, and its collation with whether a `COLLATE` gave it. -/
structure Side where
  affinity : Option Affinity := none
  collation : Option (Collation × Bool) := none
  deriving Inhabited

/-- The side of an expression. -/
def exprSide (env : EvalEnv) (e : Expr) : Side :=
  { affinity := exprAffinity env e, collation := exprCollation env e }

/-- The sides of the result columns of the last core of a query, as a comparison with the
query's rows sees them. -/
def selectSides (fuel : Nat) (env : EvalEnv) : Select → List Side
  | .mk _ _ first rest _ _ _ =>
    let last := (rest.getLast?.map fun (.mk _ c) => c).getD first
    (coreTraits fuel env last).map fun t => { affinity := t.1, collation := t.2.1 }

/-- The affinity a comparison of two sides applies: numeric when both have one and either is
numeric, none (that of a blob) when both have another, else the one that either has. -/
def combineAffinity : Option Affinity → Option Affinity → Option Affinity
  | some x, some y => some (if x.isNumeric || y.isNumeric then .numeric else .blob)
  | some x, none => some x
  | none, some y => some y
  | none, none => none

/-- The collation of a comparison of two sides: one that a `COLLATE` gave, the left's first,
else the left's, else the right's, else binary. -/
def pickCollation : Option (Collation × Bool) → Option (Collation × Bool) → Collation
  | some (c, true), _ => c
  | _, some (c, true) => c
  | some (c, _), _ => c
  | _, some (c, _) => c
  | none, none => .binary

/-- The collation of a comparison of two expressions. -/
def compareCollation (env : EvalEnv) (a b : Expr) : Collation :=
  pickCollation (exprCollation env a) (exprCollation env b)

/-- The affinity of a comparison of two expressions. -/
def compareAffinity (env : EvalEnv) (a b : Expr) : Option Affinity :=
  combineAffinity (exprAffinity env a) (exprAffinity env b)

/-- Two values as compared under an affinity. -/
def applyCompareAffinity (aff : Option Affinity) (a b : Value) : Value × Value :=
  match aff with
  | some x =>
    if x.isNumeric then
      let conv : Value → Value := fun v => match v with
        | .text s => (numericOfText s false).getD v
        | _ => v
      (conv a, conv b)
    else if x == .text then
      let conv : Value → Value := fun v => match v with
        | .integer _ | .real _ => .text ((v.sqlText?).getD default)
        | _ => v
      (conv a, conv b)
    else (a, b)
  | none => (a, b)

/-- The order of two values under a comparison, none when either is null. -/
def compareValues (aff : Option Affinity) (coll : Collation) (a b : Value) : Option Ordering :=
  if a.isNull || b.isNull then none
  else
    let (x, y) := applyCompareAffinity aff a b
    some (Value.compare coll x y)

/-- The truth of a comparison operator on an ordering. -/
def BinaryOp.holds : BinaryOp → Ordering → Bool
  | .eq, o | .is, o => o == .eq
  | .ne, o | .isNot, o => o != .eq
  | .lt, o => o == .lt
  | .le, o => o != .gt
  | .gt, o => o == .gt
  | .ge, o => o != .lt
  | _, _ => false

/-- Three-valued `AND`. -/
def and3 : Option Bool → Option Bool → Option Bool
  | some false, _ | _, some false => some false
  | some true, some true => some true
  | _, _ => none

/-- Three-valued `OR`. -/
def or3 : Option Bool → Option Bool → Option Bool
  | some true, _ | _, some true => some true
  | some false, some false => some false
  | _, _ => none

/-- A truth value as a value. -/
def ofTruth : Option Bool → Value
  | some b => Value.ofBool b
  | none => .null

/-- A shift of a 64-bit integer, as `<<` writes it: a negative count shifts the other way, and
a count of 64 or more leaves 0 (or -1 for a negative value shifted right). -/
def shiftLeft (x : Int) (n : Int) : Int :=
  let wrap (v : Int) : Int :=
    let m := v % 18446744073709551616
    if m ≥ 9223372036854775808 then m - 18446744073709551616 else m
  if n ≥ 64 then 0
  else if n ≥ 0 then wrap (x * Int.pow 2 n.toNat)
  else if n ≤ -64 then (if x < 0 then -1 else 0)
  else
    let d := Int.pow 2 (-n).toNat
    if x ≥ 0 then x / d else -((-x - 1) / d) - 1

/-- The 64-bit bitwise operations. -/
def bitwise (f : Bool → Bool → Bool) (a b : Int) : Int :=
  let ua := (a % 18446744073709551616).toNat
  let ub := (b % 18446744073709551616).toNat
  let bits := (List.range 64).foldl (fun acc i =>
    if f (ua.testBit i) (ub.testBit i) then acc + Nat.pow 2 i else acc) 0
  if bits ≥ 9223372036854775808 then (bits : Int) - 18446744073709551616 else bits

/-- `a MATCH q`: whether the row of a full-text table matches the query, put to the column
named like the table (every searched column) or to one column. `MATCH` anywhere else, or
negated, cannot be computed. -/
def fullTextMatch (env : EvalEnv) (negated : Bool) (a : Expr) (query : Value) :
    Except SqlError Value := do
  if negated then throw Func.matchMisused
  let .bound d s (some j) := a | throw Func.matchMisused
  let some row := env.source? d s | throw Func.matchMisused
  let some layout := row.search | throw Func.matchMisused
  if j > layout.names.length then throw Func.matchMisused
  let column := if j == layout.names.length then none else some j
  match query.text? with
  | none => pure (.integer 0)
  | some q => pure (Value.ofBool (← FullText.rowMatches layout row.values column q))

/-- Whether a source's rows depend on the sources before it: a table-valued function whose
arguments may read them. -/
def SourceItem.readsFrame : SourceItem → Bool
  | .function _ args _ _ => !args.isEmpty
  | _ => false

/-- Whether a source gives its rows one at a time as they are asked for, so that a query that
needs only its first rows leaves the rest uncomputed: a subquery, a view or a common table
expression. -/
def SourceItem.streams : SourceItem → Bool
  | .subquery .. | .derived .. | .recursive .. => true
  | _ => false

/-- The column names of a source item. -/
def sourceItemNames (db : Database) : SourceItem → List String
  | .stored s t _ => ((db.locate? t (some s)).map fun (_, tbl) => tbl.columns.map (·.name)).getD []
  | .subquery q _ => q.names
  | .derived _ _ cols | .recursive _ _ _ _ cols | .queued _ _ cols | .function _ _ _ cols => cols
  | _ => []

/-- The value a row holds at the column of a name with the column's side, if it has that
column. -/
def columnSide (names : List String) (r : SourceRow) (n : String) : Option (Value × Side) :=
  (names.findIdx? (sameName · n)).map fun j =>
    (r.values[j]?.getD .null,
      { affinity := (r.affinities[j]?).getD none, collation := (r.collations[j]?).map (·, false) })

/-- The value a row holds at the column of a name, if it has that column. -/
def columnOf (names : List String) (r : SourceRow) (n : String) : Option Value :=
  (names.findIdx? (sameName · n)).map fun j => r.values[j]?.getD .null

/-- The order of two rows of equal width: value by value, each under the collation of its
column (binary past the collations given), the first difference deciding. -/
def rowOrder : List Collation → List Value → List Value → Ordering
  | cs, x :: xs, y :: ys =>
    match Value.compare (cs.head?.getD .binary) x y with
    | .eq => rowOrder cs.tail xs ys
    | o => o
  | _, _, _ => .eq

/-- Whether two rows hold the same values under the collations of their columns. -/
def sameRow (colls : List Collation) (a b : List Value) : Bool :=
  a.length == b.length && rowOrder colls a b == .eq

/-- Puts a row among rows kept in ascending order without repeats; a row equal to one there
takes its place. -/
def insertKept (colls : List Collation) (rows : List (List Value)) (row : List Value) :
    List (List Value) :=
  match rows with
  | [] => [row]
  | r :: rest =>
    match rowOrder colls row r with
    | .lt => row :: r :: rest
    | .eq => row :: rest
    | .gt => r :: insertKept colls rest row

/-- Rows kept in ascending order without repeats, a later row taking the place of an equal
earlier one. -/
def keptRows (colls : List Collation) (rows : List (List Value)) : List (List Value) :=
  rows.foldl (insertKept colls) []

/-- Combines the rows of two cores by a compound operator, comparing values under the
collations of the columns. `UNION ALL` puts the right rows after the left ones; the others keep
rows in ascending order without repeats: `UNION` the rows of both sides (a later repeat taking
the place of an earlier one), `INTERSECT` the left rows that the right side has, `EXCEPT` those
it does not. -/
def combineRows (colls : List Collation) (op : CompoundOp) (left right : List (List Value)) :
    List (List Value) :=
  match op with
  | .unionAll => left ++ right
  | .union => keptRows colls (left ++ right)
  | .intersect => (keptRows colls left).filter fun r => right.any (sameRow colls r)
  | .except => (keptRows colls left).filter fun r => !right.any (sameRow colls r)

/-- The position of the first least key list under ordering terms. -/
def leastIndex (terms : List (Bool × Option Bool × Collation)) (keys : List (List Value)) : Nat :=
  (keys.zipIdx.foldl (fun (best : Option (List Value × Nat)) (k, i) => match best with
    | some (b, j) => if keysOrder terms k b == .lt then some (k, i) else some (b, j)
    | none => some (k, i)) none).elim 0 (·.2)

/-- How many rows a recursive common table expression gives at most. -/
def recursionLimit : Nat := 1000000

/-- How many rows a query needs from its cores: those its caller wants and its limit allows,
and the rows its offset skips before them. -/
def rowsNeeded (want : Option Nat) (limit : Option Int) (offset : Int) : Option Nat :=
  let allowed := match limit with
    | some l => if l < 0 then none else some l.toNat
    | none => none
  let wanted := match allowed, want with
    | some a, some b => some (min a b)
    | some a, none => some a
    | none, b => b
  wanted.map (· + (max 0 offset).toNat)

/-- A subquery as a single value or a test of existence evaluates it: its limit, if it has one,
becomes whether that limit is not zero, so that it is one row or none. -/
def Select.asSingle : Select → Select
  | .mk ctes r first rest orderBy limit offset =>
    .mk ctes r first rest orderBy
      (limit.map fun l => .binary .ne l (.cast (.integer "0" 0) "NUMERIC")) offset

/-- A limit or offset as an integer; a value that is not one fails. -/
def limitValue (v : Value) : Except SqlError Int :=
  match v with
  | .integer i => pure i
  | .real r => if realIsInt r (realToInt r) then pure (realToInt r)
      else throw { message := "datatype mismatch", code := SqlError.mismatchCode }
  | .text s => match numericOfText s false with
    | some (.integer i) => pure i
    | _ => throw { message := "datatype mismatch", code := SqlError.mismatchCode }
  | _ => throw { message := "datatype mismatch", code := SqlError.mismatchCode }

/-- Whether an expression stands for several values: a row value, or a subquery of several
columns. -/
def Expr.isRow : Expr → Bool
  | .vector _ => true
  | .subquery s => s.width > 1
  | _ => false

/-- One pair of a comparison of rows: the affinity and collation it compares under, and its two
values. -/
structure RowPair where
  affinity : Option Affinity
  collation : Collation
  left : Value
  right : Value

/-- The order of the values of a pair, none when either is null. -/
def RowPair.order (p : RowPair) : Option Ordering :=
  compareValues p.affinity p.collation p.left p.right

/-- Whether the values of a pair are the same as `IS` sees them: two nulls are. -/
def RowPair.same (p : RowPair) : Bool :=
  if p.left.isNull && p.right.isNull then true
  else if p.left.isNull || p.right.isNull then false
  else p.order == some .eq

/-- The pairs of two sides of a comparison of rows, each value with its side. -/
def rowPairs (xs ys : List (Value × Side)) : List RowPair :=
  (xs.zip ys).map fun ((x, a), (y, b)) =>
    { affinity := combineAffinity a.affinity b.affinity,
      collation := pickCollation a.collation b.collation, left := x, right := y }

/-- Whether two rows are equal: false at a pair that differs, else unknown at a pair with a
null, else true. -/
def rowsEqual (pairs : List RowPair) : Option Bool :=
  pairs.foldl (fun acc p => and3 acc (p.order.map (· == .eq))) (some true)

/-- An order between two rows: the first pair that is not equal decides it, a null before it
leaves it unknown, and the last pair decides under the operator itself. -/
def rowsOrder (op : BinaryOp) : List RowPair → Option Bool
  | [] => some (op == .le || op == .ge)
  | [p] => p.order.map op.holds
  | p :: rest => match p.order with
    | none => none
    | some .eq => rowsOrder op rest
    | some o => some (op.holds o)

/-- A comparison operator between two rows of one width. -/
def compareRows (op : BinaryOp) (pairs : List RowPair) : Option Bool :=
  match op with
  | .eq => rowsEqual pairs
  | .ne => (rowsEqual pairs).map (!·)
  | .is => some (pairs.all RowPair.same)
  | .isNot => some !(pairs.all RowPair.same)
  | _ => rowsOrder op pairs

mutual

/-- The value of an expression. -/
def evalExpr : Nat → EvalEnv → Expr → Except SqlError Value
  | 0, _, _ => throw (.plain "expression tree is too large")
  | fuel + 1, env, e => match e with
    | .literal v => pure v
    | .integer d o => integerLiteral d o false
    | .float t => pure (.real (readReal t.toList).1)
    | .current w =>
      let c := env.call.clock
      pure (.text (if w == "CURRENT_DATE" then String.ofList (c.toList.take 10)
        else if w == "CURRENT_TIME" then String.ofList (c.toList.drop 11) else c))
    | .variable n _ => pure (((env.params.find? (·.1 == n)).map (·.2)).getD .null)
    | .column _ | .qualified _ _ _ => pure .null
    | .bound d s col =>
      match env.source? d s with
      | some r => match col with
        | some j => pure (r.values[j]?.getD .null)
        | none => pure ((r.rowid.map Value.integer).getD .null)
      | none => pure .null
    | .unary op a =>
      match op, a with
      | .neg, .integer d o => integerLiteral d o true
      | _, _ => do
        let v ← evalExpr fuel env a
        match op with
        | .neg => pure (if v.isNull then .null else Value.arith .sub (.integer 0) v)
        | .pos => pure v
        | .bitNot => pure (if v.isNull then .null else .integer (-v.toInt - 1))
        | .not => pure (ofTruth (v.truth?.map (!·)))
    | .binary op a b =>
      match op with
      | .and => do
        let x ← evalExpr fuel env a
        if x.truth? == some false then return .integer 0
        let y ← evalExpr fuel env b
        pure (ofTruth (and3 x.truth? y.truth?))
      | .or => do
        let x ← evalExpr fuel env a
        if x.truth? == some true then return .integer 1
        let y ← evalExpr fuel env b
        pure (ofTruth (or3 x.truth? y.truth?))
      | _ => do
        if op.compares && (a.isRow || b.isRow) then
          let xs ← evalRow fuel env a
          let ys ← evalRow fuel env b
          return ofTruth (compareRows op (rowPairs xs ys))
        let x ← evalExpr fuel env a
        let y ← evalExpr fuel env b
        let aff := compareAffinity env a b
        let coll := compareCollation env a b
        match op with
        | .eq | .ne | .lt | .le | .gt | .ge =>
          pure (ofTruth ((compareValues aff coll x y).map op.holds))
        | .is | .isNot =>
          let same := if x.isNull && y.isNull then true
            else if x.isNull || y.isNull then false
            else (compareValues aff coll x y) == some .eq
          pure (Value.ofBool (if op == .is then same else !same))
        | .add => pure (Value.arith .add x y)
        | .sub => pure (Value.arith .sub x y)
        | .mul => pure (Value.arith .mul x y)
        | .div => pure (Value.arith .div x y)
        | .rem => pure (Value.arith .rem x y)
        | .concat =>
          if x.isNull || y.isNull then pure .null
          else pure (.text ⟨x.textBytes ++ y.textBytes⟩)
        | .bitAnd => pure (if x.isNull || y.isNull then .null
            else .integer (bitwise (· && ·) x.toInt y.toInt))
        | .bitOr => pure (if x.isNull || y.isNull then .null
            else .integer (bitwise (· || ·) x.toInt y.toInt))
        | .shl => pure (if x.isNull || y.isNull then .null
            else .integer (shiftLeft x.toInt y.toInt))
        | .shr => pure (if x.isNull || y.isNull then .null
            else .integer (shiftLeft x.toInt (-y.toInt)))
        | .arrow => pure (← jsonExtract .json [{ value := x }, { value := y }]).1
        | .arrowText => pure (← jsonExtract .sql [{ value := x }, { value := y }]).1
        | _ => pure .null
    | .collate a _ => evalExpr fuel env a
    | .cast a t => do pure (Func.cast (← evalExpr fuel env a) t)
    | .isNull a negated => do
      let v ← evalExpr fuel env a
      pure (Value.ofBool (if negated then !v.isNull else v.isNull))
    | .between a lo hi negated => do
      if a.isRow then
        let xs ← evalRow fuel env a
        let ls ← evalRow fuel env lo
        let hs ← evalRow fuel env hi
        let r := and3 (compareRows .ge (rowPairs xs ls)) (compareRows .le (rowPairs xs hs))
        return ofTruth (if negated then r.map (!·) else r)
      let x ← evalExpr fuel env a
      let l ← evalExpr fuel env lo
      let h ← evalExpr fuel env hi
      let ge := (compareValues (compareAffinity env a lo) (compareCollation env a lo) x l).map
        BinaryOp.ge.holds
      let le := (compareValues (compareAffinity env a hi) (compareCollation env a hi) x h).map
        BinaryOp.le.holds
      let r := and3 ge le
      pure (ofTruth (if negated then r.map (!·) else r))
    | .like op negated a p x => do
      let v ← evalExpr fuel env a
      let pat ← evalExpr fuel env p
      let esc ← match x with
        | some x => some <$> evalExpr fuel env x
        | none => pure none
      let r ← match op.text.toUpper with
        | "GLOB" => pure (Func.glob pat v)
        | "LIKE" => Func.like env.call.caseSensitiveLike pat v esc
        | "MATCH" => fullTextMatch env negated a pat
        | _ => pure .null
      pure (if negated then ofTruth (r.truth?.map (!·)) else r)
    | .inList a items negated => do
      if a.isRow then
        let xs ← evalRow fuel env a
        let mut r : Option Bool := some false
        for item in items do
          let ys ← evalRow fuel env item
          r := or3 r (rowsEqual (rowPairs xs ys))
        return ofTruth (if negated then r.map (!·) else r)
      let x ← evalExpr fuel env a
      if items.isEmpty then return Value.ofBool negated
      let vs ← evalList fuel env items
      let r : Option Bool :=
        if x.isNull then none
        else if vs.any fun v =>
          compareValues (exprAffinity env a) (pickCollation (exprCollation env a) none) x v
            == some .eq
        then some true
        else if vs.any (·.isNull) then none
        else some false
      pure (ofTruth (if negated then r.map (!·) else r))
    | .inSelect a s negated => do
      if a.isRow then
        let xs ← evalRow fuel env a
        let rows ← evalSelect fuel env s none
        let r := rows.foldl (fun acc row =>
          or3 acc (rowsEqual (rowPairs xs (row.zip (selectSides fuel env s))))) (some false)
        return ofTruth (if negated then r.map (!·) else r)
      let x ← evalExpr fuel env a
      let rows ← evalSelect fuel env s none
      let vs := rows.map fun r => r.head?.getD .null
      if vs.isEmpty then return Value.ofBool negated
      let left := exprSide env a
      let right := (selectSides fuel env s).head?.getD {}
      let aff := combineAffinity right.affinity left.affinity
      let coll := pickCollation left.collation right.collation
      let r : Option Bool :=
        if x.isNull then none
        else if vs.any fun v => compareValues aff coll x v == some .eq then some true
        else if vs.any (·.isNull) then none
        else some false
      pure (ofTruth (if negated then r.map (!·) else r))
    | .inTable a schema t negated => do
      let x ← evalExpr fuel env a
      let some (sname, tbl) := env.db.locate? t.text (schema.map (·.text)) | pure .null
      let vs := (env.db.tableRows sname t.text).map fun r => r.values.head?.getD .null
      if vs.isEmpty then return Value.ofBool negated
      let left := exprSide env a
      let column := tbl.columns.head?
      let aff := combineAffinity (column.map (·.affinity)) left.affinity
      let coll := pickCollation left.collation (column.map (·.collation, false))
      let r : Option Bool :=
        if x.isNull then none
        else if vs.any fun v => compareValues aff coll x v == some .eq then some true
        else if vs.any (·.isNull) then none
        else some false
      pure (ofTruth (if negated then r.map (!·) else r))
    | .exists s => do
      let rows ← evalSelect fuel env s.asSingle (some 1)
      pure (Value.ofBool !rows.isEmpty)
    | .subquery s => do
      let rows ← evalSelect fuel env s.asSingle (some 1)
      pure ((rows.head?.bind (·.head?)).getD .null)
    | .case operand branches otherwise => do
      let base ← match operand with
        | some o => some <$> evalExpr fuel env o
        | none => pure none
      let mut result : Option Value := none
      for .mk c r in branches do
        if result.isNone then
          let cv ← evalExpr fuel env c
          let hit : Bool := match base with
            | some b => compareValues none .binary b cv == some .eq
            | none => cv.truth? == some true
          if hit then result := some (← evalExpr fuel env r)
      match result with
      | some v => pure v
      | none => match otherwise with
        | some x => evalExpr fuel env x
        | none => pure .null
    | .call name args _ _ _ => do
      let vs ← evalMarkedList fuel env args
      let coll := (args.findSome? fun a => (exprCollation env a).map (·.1)).getD .binary
      match Func.collated name.text.toLower coll (vs.map (·.1)) with
      | some v => pure v
      | none => pure (← Func.call env.call name.text.toLower vs).1
    | .vector items => do
      let vs ← evalList fuel env items
      pure (vs.head?.getD .null)
    | .raise action message =>
      match action with
      | .ignore => throw SqlError.ignoreRow
      | .rollback => throw { message, code := SqlError.triggerCode, rollback := true }
      | .fail => throw { message, code := SqlError.triggerCode, keep := true }
      | .abort => throw { message, code := SqlError.triggerCode }
    | .aggregate name args distinct star filter order => do
      let rows := env.group.getD (env.frames.head?.toList)
      -- `min` and `max` compare their rows, so the order they are taken in does not matter
      let order := if name.toLower == "min" || name.toLower == "max" then [] else order
      let mut taken : List (List (Value × Bool) × List Value) := []
      for fr in rows do
        let inner := { env with frames := fr :: env.frames.drop 1, group := none }
        let counted ← match filter with
          | some f => do pure ((← evalExpr fuel inner f).truth? == some true)
          | none => pure true
        if counted then
          let vals ← evalMarkedList fuel inner args
          let keys ← order.mapM fun (.mk e _ _) => evalExpr fuel inner e
          taken := taken ++ [(vals, keys)]
      let marked (r : List (Value × Bool)) (i : Nat) : JsonArg :=
        match r[i]? with
        | some (v, j) => { value := v, isJson := j }
        | none => { value := .null }
      let firstOf (r : List (Value × Bool)) : Value := (r.head?.map (·.1)).getD .null
      let coll : Collation := match args with
        | a :: _ => ((exprCollation env a).map (·.1)).getD .binary
        | [] => .binary
      let terms := order.map fun (.mk e d n) => (d, n, ((exprCollation env e).map (·.1)).getD .binary)
      let byItself := match args, order with
        | [a], [.mk e _ _] => Expr.alike 64 a e
        | _, _ => false
      let firstOfEqual (rs : List (List (Value × Bool) × List Value)) :=
        rs.foldl (fun acc r =>
          if acc.any fun q => Value.same coll (firstOf q.1) (firstOf r.1) then acc else acc ++ [r]) []
      -- an ordered aggregate takes its rows sorted by its terms, rows of equal keys as they
      -- came; with `DISTINCT` over one argument ordered by itself, the rows are kept by that
      -- key, a later row taking the place of an equal one
      let (collected, distinct) :=
        if order.isEmpty then (taken.map (·.1), distinct)
        else
          let rs := if distinct && byItself then
              taken.foldl (fun acc r => acc.filter (fun q => keysOrder terms q.2 r.2 != .eq) ++ [r]) []
            else if distinct then firstOfEqual taken
            else taken
          ((rs.mergeSort fun a b => keysOrder terms a.2 b.2 != .gt).map (·.1), false)
      let kept := if distinct then (firstOfEqual (collected.map (·, []))).map (·.1) else collected
      match name.toLower with
      | "json_group_array" => pure (← jsonGroupArray (kept.map (marked · 0))).1
      | "jsonb_group_array" => pure (← jsonGroupArray (kept.map (marked · 0)) true).1
      | "json_group_object" =>
        pure (← jsonGroupObject (kept.map fun r => (marked r 0, marked r 1))).1
      | "jsonb_group_object" =>
        pure (← jsonGroupObject (kept.map fun r => (marked r 0, marked r 1)) true).1
      | _ => foldAggregate name coll distinct star (collected.map (·.map (·.1)))
    | .windowCall .. => pure .null

/-- The values of one side of a comparison of rows, each with its side: the items of a row
value, the first row of a subquery (nulls when it has none) with the sides of the result
columns of its last core, or the one value of any other expression. -/
def evalRow : Nat → EvalEnv → Expr → Except SqlError (List (Value × Side))
  | 0, _, _ => throw (.plain "expression tree is too large")
  | fuel + 1, env, e => match e with
    | .vector items => do
      let vs ← evalList fuel env items
      pure (vs.zip (items.map (exprSide env)))
    | .subquery s => do
      let rows ← evalSelect fuel env s.asSingle (some 1)
      let row := rows.head?.getD (List.replicate s.width .null)
      pure (row.zip (selectSides fuel env s))
    | _ => do
      let v ← evalExpr fuel env e
      pure [(v, exprSide env e)]

/-- The value of an expression and whether it is JSON text made by a JSON function: the
result of a JSON function, of `->`, or of a JSON aggregate. -/
def evalMarked : Nat → EvalEnv → Expr → Except SqlError (Value × Bool)
  | 0, _, _ => throw (.plain "expression tree is too large")
  | fuel + 1, env, e => match e with
    | .call name args _ _ _ => do
      let vs ← evalMarkedList fuel env args
      let coll := (args.findSome? fun a => (exprCollation env a).map (·.1)).getD .binary
      match Func.collated name.text.toLower coll (vs.map (·.1)) with
      | some v => pure (v, false)
      | none => Func.call env.call name.text.toLower vs
    | .binary .arrow _ _ => do pure (← evalExpr fuel env e, true)
    | .bound d s (some j) => do
      let mark := ((env.source? d s).bind fun r => r.marks[j]?).getD false
      pure (← evalExpr fuel env e, mark)
    | .aggregate name _ _ _ _ _ => do
      let n := name.toLower
      pure (← evalExpr fuel env e, n == "json_group_array" || n == "json_group_object")
    | _ => do pure (← evalExpr fuel env e, false)

/-- The values of a list of expressions, each marked as `evalMarked` marks it. -/
def evalMarkedList : Nat → EvalEnv → List Expr → Except SqlError (List (Value × Bool))
  | 0, _, _ => throw (.plain "expression tree is too large")
  | _, _, [] => pure []
  | fuel + 1, env, e :: rest => do
    let v ← evalMarked fuel env e
    return v :: (← evalMarkedList fuel env rest)

/-- The values of a list of expressions. -/
def evalList : Nat → EvalEnv → List Expr → Except SqlError (List Value)
  | 0, _, _ => throw (.plain "expression tree is too large")
  | _, _, [] => pure []
  | fuel + 1, env, e :: rest => do
    let v ← evalExpr fuel env e
    return v :: (← evalList fuel env rest)

/-- The rows of a query, of which the caller wants the first `want` (all when none). Rows
come one at a time where the engine makes them so: from a core without aggregates, windows or
ordering, and from cores joined by `UNION ALL` after the last core joined otherwise. There only
the rows wanted are made, so that a failure in a later row is never met and a query over an
endless recursive common table expression ends. Elsewhere every row is made. A limit of zero
makes none, unless a core joined otherwise than by `UNION ALL` must be made first. -/
def evalSelect : Nat → EvalEnv → Select → Option Nat → Except SqlError (List (List Value))
  | 0, _, _, _ => throw (.plain "expression tree is too large")
  | fuel + 1, env, .mk _ _ first rest orderBy limit offset, want => do
    let outer := { env with group := none }
    let lim ← match limit with
      | some l => some <$> (evalExpr fuel outer l >>= fun v => limitValue v)
      | none => pure none
    let off ← match offset with
      | some o => (evalExpr fuel outer o >>= fun v => limitValue v)
      | none => pure 0
    let need := if orderBy.isEmpty then rowsNeeded want lim off else none
    let allAppended := rest.all fun (.mk op _) => op == .unionAll
    if allAppended && rowsNeeded want lim 0 == some 0 then return []
    let rows ← if rest.isEmpty then do
        let keyed ← evalCore fuel outer first orderBy need
        let template := coreTemplate fuel outer first
        let terms := orderBy.map fun (.mk e d n) =>
          (d, n, ((exprCollation template e).map (·.1)).getD .binary)
        pure ((if orderBy.isEmpty then keyed else sortRows terms keyed).map (·.1))
      else do
        let colls := compoundCollations fuel outer (first :: rest.map fun (.mk _ c) => c)
        -- the cores up to the last one joined otherwise than by UNION ALL are made whole
        let whole := rest.length - ((rest.reverse.takeWhile fun (.mk op _) =>
          op == .unionAll).length)
        let firstNeed := if whole == 0 then need else none
        let mut acc ← (·.map (·.1)) <$> evalCore fuel outer first [] firstNeed
        for (.mk op core, i) in rest.zipIdx do
          if i < whole then
            let more ← (·.map (·.1)) <$> evalCore fuel outer core [] none
            acc := combineRows colls op acc more
          else if !need.any (acc.length ≥ ·) then
            let more ← (·.map (·.1)) <$> evalCore fuel outer core []
              (need.map (· - acc.length))
            acc := acc ++ more
        if orderBy.isEmpty then pure acc
        else
          let keyed := acc.map fun r => (r, orderBy.map fun (.mk e _ _) => match e with
            | .bound _ _ (some k) | .collate (.bound _ _ (some k)) _ => r[k]?.getD .null
            | _ => .null)
          let terms := orderBy.map fun (.mk e d n) => (d, n, match e with
            | .collate _ c => (Collation.ofName? c).getD .binary
            | .bound _ _ (some k) => colls[k]?.getD .binary
            | _ => Collation.binary)
          pure ((sortRows terms keyed).map (·.1))
    let rows := rows.drop (max 0 off).toNat
    pure (match lim with
      | some l => if l < 0 then rows else rows.take l.toNat
      | none => rows)

/-- The rows of one core, each with the keys of the ordering terms; of a core without
aggregates or windows only the first `want` (all when none). Such a core reads the rows of its
first source only as far as it needs them: it reads a first few, and when they do not give the
rows wanted it reads twice as many, until they do or the source has no more. A source that
fails after some rows fails the core only if the core needs a row past them: the rows before
the failure are found by halving, since reading fewer rows fails exactly when the failure
comes before them. -/
def evalCore : Nat → EvalEnv → Core → List Term → Option Nat →
    Except SqlError (List (List Value × List Value))
  | 0, _, _, _, _ => throw (.plain "expression tree is too large")
  | fuel + 1, env, .values rows, _, want => do
    let mut out : List (List Value × List Value) := []
    for row in rows do
      if want.any (out.length ≥ ·) then break
      out := out ++ [(← evalList fuel env row, [])]
    pure out
  | fuel + 1, env, core@(.select distinct cols sources filter groupBy having _), order, want => do
    let template := coreTemplate fuel env core
    let exprs := cols.filterMap fun c => match c with
      | .expr e _ _ => some e
      | _ => none
    let orderExprs := order.map fun (.mk e _ _) => e
    let colls := exprs.map fun e => ((exprCollation template e).map (·.1)).getD .binary
    if !core.isAggregate && (windowCalls (exprs ++ orderExprs)).isEmpty then
      match want, sources with
      | some w, .mk _ _ item _ _ :: rest =>
        if item.streams && !item.readsFrame then
          let names := sourceItemNames env.db item
          let mut cap := max w 1
          let mut good := 0
          for _ in [0:64] do
            match sourceRows fuel env item (some cap) with
            | .ok rows =>
              let frames ← joinSources fuel env [names] rest (rows.map fun r => [r])
              let (out, reached) ← frameRows fuel env distinct colls exprs orderExprs filter
                frames want
              if reached || rows.length < cap then return out
              good := cap
              cap := cap * 2
            | .error e =>
              let mut bad := cap
              for _ in [0:64] do
                if bad ≤ good + 1 then break
                let mid := (good + bad) / 2
                match sourceRows fuel env item (some mid) with
                | .ok _ => good := mid
                | .error _ => bad := mid
              let rows ← if good == 0 then pure [] else sourceRows fuel env item (some good)
              let frames ← joinSources fuel env [names] rest (rows.map fun r => [r])
              let (out, reached) ← frameRows fuel env distinct colls exprs orderExprs filter
                frames want
              if reached then return out else throw e
        let frames ← joinSources fuel env [] sources [[]]
        return (← frameRows fuel env distinct colls exprs orderExprs filter frames want).1
      | _, _ =>
        let frames ← joinSources fuel env [] sources [[]]
        return (← frameRows fuel env distinct colls exprs orderExprs filter frames want).1
    let frames ← joinSources fuel env [] sources [[]]
    let mut kept : List Frame := []
    for fr in frames do
      match filter with
      | some f =>
        let v ← evalExpr fuel { env with frames := fr :: env.frames } f
        if v.truth? == some true then kept := kept ++ [fr]
      | none => kept := kept ++ [fr]
    let mut contexts : List EvalEnv := []
    if core.isAggregate then
      let mut groups : List (List Value × List Frame) := []
      if groupBy.isEmpty then groups := [([], kept)]
      else
        let groupColls := groupBy.map fun g => ((exprCollation template g).map (·.1)).getD .binary
        for fr in kept do
          let key ← evalList fuel { env with frames := fr :: env.frames } groupBy
          match groups.findIdx? fun (k, _) => sameRow groupColls k key with
          | some i => groups := groups.modify i fun (k, fs) => (k, fs ++ [fr])
          | none => groups := groups ++ [(key, [fr])]
        let terms := groupColls.map fun c => (false, (none : Option Bool), c)
        groups := groups.mergeSort fun a b => keysOrder terms a.1 b.1 != .gt
      -- the row whose columns stand for its group outside the aggregates: the last row where
      -- the last `min` or `max` call (the calls taken once each, in the order they are met)
      -- took a new value, or a null before it had one; the group's first row when there is no
      -- such call
      let aggs := (exprs ++ orderExprs ++ having.toList).flatMap (Expr.aggregatesIn 64)
      let aggs := aggs.foldl (fun acc c => if acc.any (Expr.alike 64 · c) then acc else acc ++ [c]) []
      let extreme? := (aggs.filter Expr.isExtremeCall).getLast?
      for (_, members) in groups do
        let mut chosen : Option Frame := members.head?
        match extreme? with
        | some (.aggregate n [a] _ _ filter _) =>
          let coll := ((exprCollation template a).map (·.1)).getD .binary
          let largest := n.toLower == "max"
          let mut best : Option Value := none
          for fr in members do
            let renv := { env with frames := fr :: env.frames }
            let counted ← match filter with
              | some f => do pure ((← evalExpr fuel renv f).truth? == some true)
              | none => pure true
            if counted then
              let v ← evalExpr fuel renv a
              match best with
              | none =>
                chosen := some fr
                if !v.isNull then best := some v
              | some b =>
                if !v.isNull then
                  let c := Value.compare coll b v
                  if (largest && c == .lt) || (!largest && c == .gt) then
                    best := some v
                    chosen := some fr
        | _ => pure ()
        let current := chosen.getD (sources.map fun _ => {})
        let genv := { env with frames := current :: env.frames, group := some members }
        let pass ← match having with
          | some h => do pure ((← evalExpr fuel genv h).truth? == some true)
          | none => pure true
        if pass then contexts := contexts ++ [genv]
    else
      contexts := kept.map fun fr => { env with frames := fr :: env.frames }
    let calls := windowCalls (exprs ++ orderExprs)
    let mut out : List (List Value × List Value) := []
    if calls.isEmpty then
      for c in contexts do
        out := out ++ [(← evalList fuel c exprs, ← evalList fuel c orderExprs)]
    else
      let (sequence, table) ← evalWindows fuel contexts calls
      let ctxs := contexts.toArray
      for k in sequence do
        let c := ctxs[k]!
        let filled := fillWindows (table[k]!).toList (exprs ++ orderExprs)
        out := out ++ [(← evalList fuel c (filled.take exprs.length),
          ← evalList fuel c (filled.drop exprs.length))]
    if distinct then
      let mut seen : List (List Value × List Value) := []
      for r in out do
        if !seen.any fun s => sameRow colls s.1 r.1 then seen := seen ++ [r]
      pure seen
    else pure out

/-- The rows a core without aggregates or windows makes of its frames, taken in turn: each
frame its condition keeps gives its values and the keys of its ordering, and under `DISTINCT`
only one whose values were not given before (by the columns' collations), until `want` rows
are given. Says also whether that many were. -/
def frameRows : Nat → EvalEnv → Bool → List Collation → List Expr → List Expr → Option Expr →
    List Frame → Option Nat → Except SqlError (List (List Value × List Value) × Bool)
  | 0, _, _, _, _, _, _, _, _ => throw (.plain "expression tree is too large")
  | fuel + 1, env, distinct, colls, exprs, orderExprs, filter, frames, want => do
    let mut out : List (List Value × List Value) := []
    for fr in frames do
      if want.any (out.length ≥ ·) then break
      let renv := { env with frames := fr :: env.frames }
      let pass ← match filter with
        | some f => do pure ((← evalExpr fuel renv f).truth? == some true)
        | none => pure true
      if pass then
        let vs ← evalList fuel renv exprs
        if !(distinct && out.any fun s => sameRow colls s.1 vs) then
          out := out ++ [(vs, ← evalList fuel renv orderExprs)]
    pure (out, want.any (out.length ≥ ·))

/-- The values of a core's window calls at each of its rows, with the order the rows come out
in: the calls are grouped by window, and the rows are sorted for each window in turn, the last
first, by its partition and then its ordering. -/
def evalWindows : Nat → List EvalEnv → List Expr →
    Except SqlError (List Nat × Array (Array Value))
  | 0, _, _ => throw (.plain "expression tree is too large")
  | fuel + 1, contexts, calls => do
    let ctxs := contexts.toArray
    let callArray := calls.toArray
    let mut sequence := List.range ctxs.size
    let mut table : Array (Array Value) :=
      Array.replicate ctxs.size (Array.replicate calls.length Value.null)
    let some first := contexts.head? | return (sequence, table)
    for (w, members) in (windowLevels calls).reverse do
      let (partition, ordering, frame) := match w with
        | .spec p o f => (p, o, f.getD (.mk .range .unboundedPreceding .currentRow .noOthers))
        | .named _ p o f _ => (p, o, f.getD (.mk .range .unboundedPreceding .currentRow .noOthers))
      let collation (e : Expr) : Collation := ((exprCollation first e).map (·.1)).getD .binary
      let partTerms := partition.map fun e => (false, (none : Option Bool), collation e)
      let orderTerms := ordering.map fun (.mk e d n) => (d, n, collation e)
      let orderExprs := ordering.map fun (.mk e _ _) => e
      let mut keys : Array (List Value × List Value) := #[]
      for c in ctxs do
        let p ← evalList fuel c partition
        keys := keys.push (p, ← evalList fuel c orderExprs)
      sequence := sequence.mergeSort fun a b =>
        keysOrder (partTerms ++ orderTerms) (keys[a]!.1 ++ keys[a]!.2) (keys[b]!.1 ++ keys[b]!.2)
          != .gt
      let parts := sequence.splitBy fun a b => keysOrder partTerms keys[a]!.1 keys[b]!.1 == .eq
      let .mk unit start finish exclude := frame
      let reach (isStart : Bool) (b : FrameBound) : Except SqlError FrameEnd := match b with
        | .unboundedPreceding => pure .unboundedPreceding
        | .currentRow => pure .currentRow
        | .unboundedFollowing => pure .unboundedFollowing
        | .preceding x => do
          .preceding <$> frameOffset unit isStart (← evalExpr fuel first x)
        | .following x => do
          .following <$> frameOffset unit isStart (← evalExpr fuel first x)
      let startEnd ← reach true start
      let spec : FrameSpec := { unit, start := startEnd, finish := ← reach false finish, exclude }
      for k in members do
        match callArray[k]! with
        | .windowCall name args _ star filter _ _ =>
          let mut rows : Array WindowRow := #[]
          for c in ctxs do
            let vs ← evalList fuel c args
            let counted ← match filter with
              | some f => do pure ((← evalExpr fuel c f).truth? == some true)
              | none => pure true
            rows := rows.push { args := vs, counted }
          for part in parts do
            let partRows := part.toArray.map fun i => { rows[i]! with keys := keys[i]!.2 }
            let coll := (args.head?.map collation).getD .binary
            let vals ← partitionValues name.text.toLower coll star spec orderTerms partRows
            for (i, v) in part.zip vals do
              table := table.set! i (table[i]!.set! k v)
        | _ => pure ()
    return (sequence, table)

/-- Joins sources to the frames of the sources before them, whose column names are given. -/
def joinSources : Nat → EvalEnv → List (List String) → List Source → List Frame →
    Except SqlError (List Frame)
  | 0, _, _, _, _ => throw (.plain "expression tree is too large")
  | _, _, _, [], frames => pure frames
  | fuel + 1, env, leftNames, .mk _ kind item on usingCols :: rest, frames => do
    let shared ← if item.readsFrame then pure [] else sourceRows fuel env item none
    let names := sourceItemNames env.db item
    let mut out : List Frame := []
    let mut matchedRight : List Nat := []
    for fr in frames do
      let rows ← if item.readsFrame then
          sourceRows fuel { env with frames := fr :: env.frames } item none
        else pure shared
      let mut any := false
      for (r, ri) in rows.zipIdx do
        let mut ok := true
        for u in usingCols do
          let (rv, rs) := (columnSide names r u.text).getD (.null, {})
          let (lv, ls) := ((leftNames.zip fr).findSome? fun (ns, lr) =>
            columnSide ns lr u.text).getD (.null, {})
          let aff := combineAffinity ls.affinity rs.affinity
          if compareValues aff (pickCollation ls.collation rs.collation) lv rv != some .eq then
            ok := false
        if ok then
          match on with
          | some o =>
            let v ← evalExpr fuel { env with frames := (fr ++ [r]) :: env.frames } o
            if v.truth? != some true then ok := false
          | none => pure ()
        if ok then
          any := true
          matchedRight := matchedRight ++ [ri]
          out := out ++ [fr ++ [r]]
      if !any && (kind == .left || kind == .full) then out := out ++ [fr ++ [{}]]
    if kind == .right || kind == .full then
      for (r, ri) in shared.zipIdx do
        if !matchedRight.contains ri then
          out := out ++ [(List.replicate leftNames.length {}) ++ [r]]
    joinSources fuel env (leftNames ++ [names]) rest out

/-- The rows of one source; of a source that streams, only the first `want` (all when none),
and none at all when no row is wanted. -/
def sourceRows : Nat → EvalEnv → SourceItem → Option Nat → Except SqlError (List SourceRow)
  | 0, _, _, _ => throw (.plain "expression tree is too large")
  | _ + 1, _, _, some 0 => pure []
  | fuel + 1, env, item, want => match item with
    | .stored s t _ =>
      match env.db.locate? t (some s) with
      | some (_, tbl) => pure ((env.db.tableRows s t).map tbl.sourceRow)
      | none => pure []
    | .subquery q _ | .derived q _ _ => do
      let rows ← evalSelect fuel { env with group := none } q want
      let template := selectTemplate fuel env q
      pure (rows.map fun vs => { template with values := vs })
    | .queued name _ _ =>
      pure ((env.queued.find? (sameName ·.1 name)).toList.map fun (_, vs) => { values := vs })
    | .recursive name q setup _ _ => do
      let rows ← recursiveRows fuel { env with group := none } name q setup want
      let template := selectTemplate fuel env q
      pure (rows.map fun vs => { template with values := vs })
    | .function f args _ _ => do
      let vals ← evalList fuel { env with group := none } args
      let found ← TableFunction.rows env.db (viewColumnTypes env.db) f vals
      pure (found.map fun (vs, marks) => { values := vs, marks })
    | _ => pure []

/-- The rows of a recursive common table expression. The rows of its first cores wait in a
queue; one at a time leaves the queue (the least by the query's ordering, else the oldest),
is given (unless the offset skips it), and the later cores, reading it, add their rows to the
queue, until the queue is empty or the limit is reached; or until the rows wanted are given, the
later cores not yet reading the last. Under `UNION` a row that was queued before is not
queued again. -/
def recursiveRows : Nat → EvalEnv → String → Select → Nat → Option Nat →
    Except SqlError (List (List Value))
  | 0, _, _, _, _, _ => throw (.plain "expression tree is too large")
  | fuel + 1, env, name, .mk ctes rec first rest orderBy limit offset, setup, want => do
    let given ← match limit with
      | some l => some <$> (evalExpr fuel env l >>= fun v => limitValue v)
      | none => pure none
    let lim : Option Int := match given, want with
      | some l, some w => if l < 0 then some (w : Int) else some (min l w)
      | some l, none => some l
      | none, w => w.map fun n => (n : Int)
    let off ← match offset with
      | some o => (evalExpr fuel env o >>= fun v => limitValue v)
      | none => pure 0
    if lim == some 0 then return []
    let steps := rest.drop (setup - 1)
    let distinct := steps.any fun (.mk op _) => op == .union
    let colls := compoundCollations fuel env (first :: rest.map fun (.mk _ c) => c)
    let keysOf (r : List Value) : List Value := orderBy.map fun (.mk e _ _) => match e with
      | .bound _ _ (some k) => r[k]?.getD .null
      | _ => .null
    let terms := orderBy.map fun (.mk _ d n) => (d, n, Collation.binary)
    let seeds ← evalSelect fuel env (.mk ctes rec first (rest.take (setup - 1)) [] none none) none
    let mut seen : List (List Value) := []
    let mut queue : List (List Value) := []
    for r in seeds do
      if !(distinct && seen.any (sameRow colls r)) then
        seen := if distinct then seen ++ [r] else seen
        queue := queue ++ [r]
    let mut out : List (List Value) := []
    let mut skip := off
    for _ in [0:recursionLimit] do
      if queue.isEmpty then break
      let next := if orderBy.isEmpty then 0 else leastIndex terms (queue.map keysOf)
      let row := queue[next]?.getD []
      queue := queue.eraseIdx next
      if skip > 0 then skip := skip - 1
      else
        out := out ++ [row]
        if lim.any fun l => l > 0 && out.length ≥ l.toNat then break
      let stepEnv := { env with queued := (name, row) :: env.queued }
      for .mk _ c in steps do
        let found ← evalCore fuel stepEnv c [] none
        for (r, _) in found do
          if !(distinct && seen.any (sameRow colls r)) then
            seen := if distinct then seen ++ [r] else seen
            queue := queue ++ [r]
    pure out

end

end Shipyard.Sql
