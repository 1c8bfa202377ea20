import Shipyard.Sql.Parse.Command
import Shipyard.Sql.Eval
import Shipyard.Sql.Shape
/-!
# Preparing data statements

A data statement is prepared before it runs: the table it names is found, each value is tied to
the column it sets, and the names of its expressions are bound. Preparing fails with the last
message of the checks that failed and the offset of the first failure that recorded one, as
reading does.

A statement prepares with what it sets off. The triggers it may fire are prepared with it, each
body statement in the scope of the trigger's `NEW` and `OLD` rows and with names fixed to the
trigger's schema; so are the foreign keys it must keep: a key whose parent table is missing, or
whose parent columns are no primary key or unique index, makes the statement fail before any
row is written. A trigger does not fire inside its own body, so preparing stops there.
-/
namespace Shipyard.Sql

open ResolveM

/-- Fuel for binding the names of one expression: more than any nesting the parser allows. -/
def exprFuel : Nat := 100000

/-- Runs a resolution: its result, or the failure it recorded or threw. -/
def runResolve (env : Env) (m : ResolveM α) : Except SqlError α :=
  match (m.run env).run {} with
  | .error e => .error e
  | .ok (a, st) => match st.pending with
    | some e => .error e
    | none => .ok a

/-- A name that stands at no place in the text. -/
def nameOf (text : String) : Name := { text, offset := 0 }

/-- Binds the names of an expression that belongs to a table (a check, a generated column, an
index key or filter, a default): the table's columns are its only source. -/
def resolveAtTable (db : Database) (schema : String) (t : Table) (place : Place)
    (offsets : Bool) (e : Expr) : Except SqlError Expr :=
  runResolve { db, scopes := [{ sources := [t.visible schema t.name] }], place, offsets }
    (resolveExpr exprFuel e)

/-- The triggers on a table, in the order they fire: the newest first. -/
def Database.triggersOn (db : Database) (schema table : String) : List Trigger :=
  ((db.schema? schema).map fun s => (s.triggersOf table).reverse).getD []

/-- What a statement does to a row: insert it, change some of its columns (by the names the
statement gives them), or delete it. -/
inductive Change where
  | insert
  | update (columns : List String)
  | delete
  deriving Inhabited

/-- Whether a trigger fires on a change: the same event, and for `UPDATE OF` a column that the
change sets. -/
def Trigger.firesOn (t : Trigger) : Change → Bool
  | .insert => match t.event with
    | .insert => true
    | _ => false
  | .delete => match t.event with
    | .delete => true
    | _ => false
  | .update changed => match t.event with
    | .update cols => cols.isEmpty || cols.any fun c => changed.any (sameName c ·)
    | _ => false

/-- Whether a change has a new row: all but a deletion. -/
def Change.hasNew : Change → Bool
  | .delete => false
  | _ => true

/-- Whether a change has an old row: all but an insertion. -/
def Change.hasOld : Change → Bool
  | .insert => false
  | _ => true

/-- How a trigger's body sees the row it fires on: `NEW` and `OLD`, each only by its
qualified name, and each empty where the change has no such row. -/
def triggerScope (t : Table) (c : Change) : Scope :=
  let cols := t.columns.map (·.name)
  let rowid := !t.withoutRowid && !t.isView
  { sources := [
      { name := "new", columns := if c.hasNew then cols else [], rowid := c.hasNew && rowid,
        qualifiedOnly := true },
      { name := "old", columns := if c.hasOld then cols else [], rowid := c.hasOld && rowid,
        qualifiedOnly := true }] }

/-! ## Foreign keys -/

/-- The parent columns that a foreign key references, one for each child column in the key's
order: the row id alias of the parent, its primary key, or the columns of a unique index over
exactly the named columns with their own collations. None when no key of the parent fits: the
key is then a mismatch. -/
def parentKey? (parent : Table) (indexes : List Index) (k : ForeignKey) : Option (List Nat) :=
  let n := k.columns.length
  let aliasName : Option (List Nat) := match parent.rowidAlias with
    | some i =>
      let named := k.parentColumns.head?.map fun c =>
        (parent.columns[i]?.map fun col => sameName col.name c).getD false
      if n == 1 && k.parentColumns.length ≤ 1 && named.getD true then some [i] else none
    | none => none
  match aliasName with
  | some r => some r
  | none =>
    indexes.findSome? fun ix =>
      let cols := ix.keys.filterMap (·.column)
      if !ix.unique || ix.keys.length != n || ix.filter.isSome || cols.length != n then none
      else if k.parentColumns.isEmpty then
        if ix.origin == .primaryKey then some cols else none
      else
        let fits := ix.keys.all fun key => match key.column with
          | some j => (parent.columns[j]?.map fun c =>
              key.collation == c.collation && k.parentColumns.any (sameName c.name ·)).getD false
          | none => false
        if fits && k.parentColumns.length == n then
          some (k.parentColumns.map fun pc => (parent.columnIndex? pc).getD 0)
        else none

/-- The message for a foreign key that fits no key of its parent. -/
def mismatchMessage (child parent : String) : String :=
  "foreign key mismatch - \"" ++ child ++ "\" referencing \"" ++ parent ++ "\""

/-- The foreign keys of a schema that reference a table, with their child tables, the newest
first. -/
def Schema.referencing (s : Schema) (table : String) : List (Table × ForeignKey) :=
  s.tables.reverse.flatMap fun c =>
    (c.foreignKeys.reverse.filter fun k => sameName k.parent table).map (c, ·)

/-- Whether a change sets a column of a table, by name; a change of the row id counts for the
row id alias. -/
def changesColumn (t : Table) (changed : List String) (column : String) : Bool :=
  changed.any (sameName column ·) ||
    ((t.rowidAlias.bind fun i => t.columns[i]?).map fun c => sameName c.name column).getD false &&
      changed.any fun n => t.isRowidName n

/-- The parent columns of a foreign key by name: those it names, or the parent's primary key. -/
def parentColumnNames (parent : Table) (k : ForeignKey) : List String :=
  if k.parentColumns.isEmpty then
    (parent.columns.filter (·.primaryKey)).map (·.name)
  else k.parentColumns

/-- The checks that foreign keys make when a statement that changes a table is prepared: the
parent of each key of the table that the change touches must exist and fit the key; each key
that references the table and that the change touches must fit it. `eager` says whether an
insert touches keys that reference the table (a statement that may write several rows). -/
def prepareKeys (schema : String) (t : Table) (change : Change) (eager : Bool) : ResolveM Unit := do
  let db := (← read).db
  let indexes := ((db.schema? schema).map (·.indexes)).getD []
  for k in t.foreignKeys do
    let touched := match change with
      | .update cols => sameName k.parent t.name || k.columns.any (changesColumn t cols)
      | _ => true
    if touched then
      match db.table? k.parent (some schema) with
      | none => fail ("no such table: " ++ schema ++ "." ++ k.parent) none
      | some (_, parent) =>
        if (parentKey? parent (indexes.filter fun i => sameName i.table parent.name) k).isNone then
          fail (mismatchMessage t.name k.parent) none
  let own := indexes.filter fun i => sameName i.table t.name
  for (c, k) in ((db.schema? schema).map (·.referencing t.name)).getD [] do
    let touched := match change with
      | .insert => eager || k.deferred
      | .update cols => (parentColumnNames t k).any (changesColumn t cols)
      | .delete => true
    if touched && (parentKey? t own k).isNone then fail (mismatchMessage c.name k.parent) none

/-! ## Data statements -/

/-- Where the rows of an `INSERT` come from. -/
inductive RowSource where
  /-- One row of `VALUES`, bound in an empty scope inside the scopes around the statement. -/
  | row (values : List Expr)
  | query (s : Select)
  | defaults
  deriving Inhabited

/-- An assignment as prepared: the column it sets (none for the row id), the name it was
given, and its value. -/
structure Setting where
  column : Option Nat
  name : String
  value : Expr
  deriving Inhabited

/-- The constraint that an `ON CONFLICT` clause names. -/
inductive ConflictTarget where
  | any
  | rowid
  | index (name : String)
  deriving Inhabited, DecidableEq

/-- An `ON CONFLICT` clause as prepared: the constraint it names, and the assignments and filter
of its update (none for `DO NOTHING`), bound with the table as the first source and `excluded`
as the second. -/
structure UpsertPlan where
  target : ConflictTarget
  update : Option (List Setting × Option Expr)
  deriving Inhabited

/-- A data statement as prepared. -/
inductive DmlPlan where
  /-- An `INSERT`: each supplied value's column (none for the row id). -/
  | insert (schema : String) (table : Table) (targets : List (Option Nat)) (source : RowSource)
      (conflict : Conflict) (upserts : List UpsertPlan)
  /-- An `UPDATE`: its sources are the table first, then those of its `FROM`. -/
  | update (schema : String) (table : Table) (sources : List Source) (settings : List Setting)
      (filter : Option Expr) (conflict : Conflict)
  /-- A `DELETE`: its one source is the table. -/
  | delete (schema : String) (table : Table) (source : Source) (filter : Option Expr)
  | select (s : Select)
  deriving Inhabited

/-- The row of a query that is one row of `VALUES` and nothing else. -/
def singleRow? : Select → Option (List Expr)
  | .mk [] _ (.values [row]) [] [] none none => some row
  | _ => none

/-- Runs with the table expressions of a data statement in reach. -/
def withCtes (ctes : List Cte) (m : ResolveM α) : ResolveM α :=
  let defs := ctes.map fun (.mk n cols q) =>
    ({ name := n.text, columns := cols, query := q } : CteDef)
  withReader (fun env => { env with ctes := defs.reverse ++ env.ctes }) m

/-- The schema and table that a data statement names: in the schema it gives or the schema
names are fixed to, else the first schema that has it. -/
def locateTarget (target : Target) : ResolveM (String × Table) := do
  let env ← read
  let wanted := target.schema.map (·.text) |>.orElse fun _ => env.fixed
  match env.db.locate? target.name.text wanted with
  | some r => pure r
  | none => fail ("no such table: " ++ (match wanted with
      | some s => s ++ "."
      | none => "") ++ target.name.text) none

/-- How messages name the table of a data statement: its alias, else its name with the schema
it was given. -/
def Target.label (t : Target) : String :=
  match t.aliasName with
  | some a => a.text
  | none => (match t.schema with
    | some s => s.text ++ "."
    | none => "") ++ t.name.text

/-- The source that a data statement reads its table through: the stored table, or a view's
query. -/
def targetSource (fuel : Nat) (schema : String) (t : Table) (aliasName : String) :
    ResolveM (SourceItem × Visible) :=
  if t.isView then
    expandItem fuel (.table (some (nameOf schema)) (nameOf t.name) (some (nameOf aliasName)) none)
  else pure (.stored schema t.name aliasName, t.visible schema aliasName)

/-- Fails unless a table may be written by a statement that fires the given triggers: a schema's
catalog may not be, nor a view without an `INSTEAD OF` trigger for the change. -/
def checkWritable (db : Database) (schema : String) (t : Table) (change : Change) :
    ResolveM Unit := do
  if isCatalogName t.name true && t.columns.length == 5 && (db.table? t.name (some schema)).isNone
  then fail ("table " ++ t.name ++ " may not be modified") none
  if t.isView then
    let fires := (db.triggersOn schema t.name).any fun tr =>
      tr.time == .insteadOf && tr.firesOn change
    if !fires then fail ("cannot modify " ++ t.name ++ " because it is a view") none

/-- One column of the first row of a bound query, as a bound scalar subquery that reads the
query as its one source. -/
def Select.columnAt (s : Select) (i : Nat) : Expr :=
  .subquery (.mk [] false
    (.select false [.expr (.bound 0 0 (some i)) none ""] [.mk false .inner (.subquery s none) none []]
      none [] none []) [] [] none none)

/-- The assignments of an `UPDATE` or upsert: each value bound before its column is looked
up; a row value or a subquery of as many columns sets several columns. -/
def planSettings (fuel : Nat) (t : Table) (sets : List Assignment) : ResolveM (List Setting) := do
  let mut out : List Setting := []
  for a in sets do
    let several := a.columns.length > 1
    let pairs ← match a.columns with
      | [c] => pure [(c, a.value)]
      | cs => match a.value with
        | .vector items =>
          if items.length != cs.length then
            fail (toString cs.length ++ " columns assigned " ++ toString items.length ++
              " values") none
          pure (cs.zip items)
        | .subquery _ => pure (cs.map (·, a.value))
        | _ => fail (toString cs.length ++ " columns assigned 1 values") none
    let mut shared : Option Select := none
    for ((c, v), i) in pairs.zipIdx do
      let fromQuery : Bool := several && match v with
        | .subquery _ => true
        | _ => false
      let v ← if fromQuery then
          match shared with
          | some q => pure (q.columnAt i)
          | none => do
            let r ← resolveExpr fuel v
            checkpoint
            match r with
            | .subquery q =>
              if q.width != pairs.length then
                fail (toString pairs.length ++ " columns assigned " ++ toString q.width ++
                  " values") none
              shared := some q
              pure (q.columnAt i)
            | other => pure other
        else do
          let r ← resolveExpr fuel v
          checkpoint
          pure r
      match t.columnIndex? c.text with
      | some j =>
        let col := t.columns[j]?.getD default
        if col.generated.isSome then
          fail ("cannot UPDATE generated column \"" ++ col.name ++ "\"") none
        out := out ++ [{ column := some j, name := c.text, value := v }]
      | none =>
        if !t.isView && t.isRowidName c.text then
          out := out ++ [{ column := none, name := c.text, value := v }]
        else fail ("no such column: " ++ c.text) none
  pure out

/-- The constraint that an upsert's target names: the row id, or a unique index whose columns
are exactly the target's (a target term with a collation must name the index's). -/
def upsertTarget (db : Database) (schema : String) (t : Table) (terms : List Term)
    (bound : List Expr) : Option ConflictTarget :=
  let columnOf (e : Expr) : Option (Option Nat) := match skipCollate 64 e with
    | .bound 0 0 col => some col
    | _ => none
  let cols := bound.map columnOf
  let isRowid := match cols with
    | [some none] => !t.withoutRowid
    | [some (some j)] => t.rowidAlias == some j
    | _ => false
  if isRowid then some .rowid
  else
    let collations := terms.map fun (.mk e _ _) => match e with
      | .collate _ c => Collation.ofName? c
      | _ => none
    let indexes := ((db.schema? schema).map (·.indexesOf t.name)).getD []
    let fits (ix : Index) : Bool :=
      ix.unique && ix.keys.length == cols.length && ix.filter.isNone &&
        ix.keys.all fun key => (cols.zip collations).any fun (c, coll) =>
          key.column.isSome && c == some key.column &&
            (coll.map (· == key.collation)).getD true
    (indexes.find? fits).map fun ix => .index ix.name

/-- The `ON CONFLICT` clauses of an `INSERT`, prepared. -/
def planUpserts (fuel : Nat) (schema : String) (t : Table) (aliasName : String)
    (ups : List Upsert) : ResolveM (List UpsertPlan) := do
  let env ← read
  let tableScope : Scope := { sources := [t.visible schema aliasName] }
  let many := ups.length > 1
  let mut out : List UpsertPlan := []
  for (u, i) in ups.zipIdx do
    let target ← if u.target.isEmpty then pure ConflictTarget.any else do
      let bound ← inScope tableScope do
        let es ← resolveList fuel (u.target.map fun (.mk e _ _) => e)
        checkpoint
        match u.targetFilter with
        | some f =>
          let _ ← resolveExpr fuel f
          checkpoint
        | none => pure ()
        pure es
      match upsertTarget env.db schema t u.target bound with
      | some c => pure c
      | none => fail ((if many then ordinal (i + 1) ++ " " else "") ++
          "ON CONFLICT clause does not match any PRIMARY KEY or UNIQUE constraint") none
    let excluded : Visible :=
      { name := "excluded", columns := t.columns.map (·.name), rowid := !t.withoutRowid,
        qualifiedOnly := true }
    let update ← match u.update with
      | none => pure none
      | some (sets, filter) => inScope { sources := [t.visible schema aliasName, excluded] } do
        let settings ← planSettings fuel t sets
        let filter ← match filter with
          | some f => some <$> resolveExpr fuel f
          | none => pure none
        checkpoint
        pure (some (settings, filter))
    out := out ++ [{ target := target, update := update }]
  pure out

/-- Checks the `RETURNING` clause of a data statement: its expressions may name the columns of
the statement's table and nothing else, and a `table.*` wildcard is refused. -/
def checkReturning (fuel : Nat) (schema : String) (t : Table) (aliasName : String)
    (ret : List ResultColumn) : ResolveM Unit := do
  if ret.isEmpty then return
  inScope { sources := [t.visible schema aliasName] } do
    for rc in ret do
      match rc with
      | .allOf _ => fail "RETURNING may not use \"TABLE.*\" wildcards" none
      | .expr e _ _ => let _ ← resolveExpr fuel e
      | .all _ => pure ()
    checkpoint

/-- Prepares a data statement in the scopes around it (none at the top, the trigger's rows in a
trigger's body). -/
def planDml (fuel : Nat) (dml : Dml) : ResolveM DmlPlan := do
  match dml with
  | .select s =>
    let (s, _) ← prepareSelect fuel s
    pure (.select s)
  | .insert ctes conflict target columns source upserts ret => withCtes ctes do
    let db := (← read).db
    let (schema, t) ← locateTarget target
    let label := target.label
    let names ← if t.isView then do
        let (_, v) ← targetSource fuel schema t t.name
        pure v.columns
      else pure (t.columns.map (·.name))
    checkWritable db schema t .insert
    let t := if t.isView then { t with columns := names.map fun n => { name := n } } else t
    let open_ : List (Option Nat) := if t.isView then (List.range names.length).map some
      else t.columns.zipIdx.filterMap fun (c, j) =>
        if c.generated.isSome || c.hidden then none else some (some j)
    let targets ← match columns with
      | none => pure open_
      | some cs => cs.mapM fun c => do
        match names.findIdx? (sameName · c.text) with
        | some j =>
          let col := t.columns[j]?.getD default
          if col.generated.isSome then
            fail ("cannot INSERT into generated column \"" ++ col.name ++ "\"") none
          pure (some j)
        | none =>
          if !t.isView && t.isRowidName c.text then pure none
          else fail ("table " ++ label ++ " has no column named " ++ c.text) none
    let src ← match source with
      | .defaults => pure RowSource.defaults
      | .query s => match singleRow? s with
        | some row => do
          let r ← inScope {} (resolveRow fuel row)
          pure (RowSource.row r)
        | none => do
          let (q, _) ← prepareSelect fuel s
          pure (RowSource.query q)
    let width := match src with
      | .row r => r.length
      | .query q => q.names.length
      | .defaults => 0
    match columns with
    | none =>
      if width != 0 && width != open_.length then
        fail ("table " ++ label ++ " has " ++ toString open_.length ++ " columns but " ++
          toString width ++ " values were supplied") none
    | some cs =>
      if width != cs.length then
        fail (toString width ++ " values for " ++ toString cs.length ++ " columns") none
    let ups ← planUpserts fuel schema t ((target.aliasName.map (·.text)).getD t.name) upserts
    checkReturning fuel schema t ((target.aliasName.map (·.text)).getD t.name) ret
    pure (.insert schema t targets src conflict ups)
  | .update ctes conflict target sets sources filter ret => withCtes ctes do
    let db := (← read).db
    let (schema, t) ← locateTarget target
    let aliasName := (target.aliasName.map (·.text)).getD t.name
    let (item, v) ← targetSource fuel schema t aliasName
    let change := Change.update (sets.flatMap fun a => a.columns.map (·.text))
    checkWritable db schema t change
    let t := if t.isView then { t with columns := v.columns.map fun n => { name := n } } else t
    let extra ← expandSources fuel [v] sources
    let extra ← resolveSources fuel (extra.map (·.1))
    let renv ← read
    let visibles ← extra.mapM fun s => sourceVisible renv s
    let scope : Scope := { sources := v :: visibles }
    inScope scope do
      let settings ← planSettings fuel t sets
      let filter ← match filter with
        | some f => some <$> resolveExpr fuel f
        | none => pure none
      checkpoint
      checkReturning fuel schema t aliasName ret
      pure (.update schema t (.mk false .inner item none [] :: extra) settings filter conflict)
  | .delete ctes target filter ret => withCtes ctes do
    let db := (← read).db
    let (schema, t) ← locateTarget target
    let aliasName := (target.aliasName.map (·.text)).getD t.name
    let (item, v) ← targetSource fuel schema t aliasName
    checkWritable db schema t .delete
    let t := if t.isView then { t with columns := v.columns.map fun n => { name := n } } else t
    inScope { sources := [v] } do
      let filter ← match filter with
        | some f => some <$> resolveExpr fuel f
        | none => pure none
      checkpoint
      checkReturning fuel schema t aliasName ret
      pure (.delete schema t (.mk false .inner item none []) filter)

/-- The change a prepared statement makes, with its table and schema, and whether it may
write several rows. -/
def DmlPlan.change? : DmlPlan → Option (String × Table × Change × Bool)
  | .insert schema t _ src _ _ => some (schema, t, .insert, match src with
    | .query _ => true
    | _ => false)
  | .update schema t _ settings _ _ => some (schema, t, .update (settings.map (·.name)), true)
  | .delete schema t _ _ => some (schema, t, .delete, true)
  | .select _ => none

/-- Checks the places of a prepared statement that hold one value: its filter, then the values
it writes. -/
def DmlPlan.checkShape : DmlPlan → Except SqlError Unit
  | .select s => Shape.select exprFuel s
  | .insert _ _ _ src _ ups => do
    match src with
    | .row values => Shape.list exprFuel values
    | .query q => Shape.select exprFuel q
    | .defaults => pure ()
    for u in ups do
      match u.update with
      | some (settings, filter) =>
        Shape.list exprFuel (settings.map (·.value))
        Shape.list exprFuel filter.toList
      | none => pure ()
  | .update _ _ sources settings filter _ => do
    Shape.sources exprFuel sources
    Shape.list exprFuel filter.toList
    Shape.list exprFuel (settings.map (·.value))
  | .delete _ _ source filter => do
    Shape.sources exprFuel [source]
    Shape.list exprFuel filter.toList

/-- Stops a preparation at a failure of a later check. -/
def ResolveM.ensure (r : Except SqlError Unit) : ResolveM Unit :=
  match r with
  | .ok () => pure ()
  | .error e => throw e

/-- The environment in which a trigger's body is prepared and run: its rows in scope, offsets
not recorded, and names fixed to its schema unless it is a temporary trigger. -/
def triggerEnv (db : Database) (schema : String) (t : Table) (c : Change) : Env :=
  { db, scopes := [triggerScope t c], offsets := false,
    fixed := if sameName schema "temp" then none else some schema, inTrigger := true }

mutual

/-- Prepares what a change to a table sets off: the triggers that fire before it, the foreign
keys, the triggers that fire after it; `active` are the triggers already firing. -/
def prepareEffects : Nat → Bool → List String → String → Table → Change → Bool → ResolveM Unit
  | 0, _, _, _, _, _, _ => pure ()
  | fuel + 1, keys, active, schema, t, change, eager => do
    let db := (← read).db
    let triggers := (db.triggersOn schema t.name).filter fun tr =>
      tr.firesOn change && !active.contains tr.name.toLower
    for tr in triggers.filter (·.time != .after) do
      prepareTrigger fuel keys active schema t change tr
    if keys then prepareKeys schema t change (eager || !triggers.isEmpty || !active.isEmpty)
    for tr in triggers.filter (·.time == .after) do
      prepareTrigger fuel keys active schema t change tr

/-- Prepares one trigger: its condition, then each statement of its body with what that sets
off. -/
def prepareTrigger : Nat → Bool → List String → String → Table → Change → Trigger →
    ResolveM Unit
  | 0, _, _, _, _, _, _ => pure ()
  | fuel + 1, keys, active, schema, t, change, tr => do
    let db := (← read).db
    withReader (fun _ => triggerEnv db schema t change) do
      match tr.condition with
      | some w =>
        let w ← resolveExpr exprFuel w
        checkpoint
        ResolveM.ensure (Shape.scalar exprFuel w)
      | none => pure ()
      for step in tr.body do
        let p ← planDml exprFuel step
        checkpoint
        ResolveM.ensure p.checkShape
        match p.change? with
        | some (s, u, c, many) =>
          prepareEffects fuel keys (tr.name.toLower :: active) s u c many
        | none => pure ()

end

/-- Prepares a data statement at the top of a statement, with what it sets off. -/
def prepareDml (db : Database) (keys : Bool) (dml : Dml) : Except SqlError DmlPlan :=
  runResolve { db } do
    let p ← planDml exprFuel dml
    checkpoint
    ResolveM.ensure p.checkShape
    match p.change? with
    | some (s, t, c, many) => prepareEffects 64 keys [] s t c many
    | none => pure ()
    pure p

end Shipyard.Sql
