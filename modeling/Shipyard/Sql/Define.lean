import Shipyard.Sql.Write
import Shipyard.Sql.Rename
/-!
# Changing the schema

The statements that make, change and drop tables, views, indexes and triggers. Each keeps the
schema's catalog in step: an entry per object in the order the objects were made, the way the
schema table lists them.

The checks come in the order the engine makes them, so that of several problems the same one
is reported. A table's definition is checked when it ends: a `STRICT` table's column types,
the primary key of a table without row ids, then its checks and generated columns, which must
name its own columns. An index names a table of its own schema; its keys and filter name the
table's columns. Renaming a table or a column first checks that every view and trigger of the
schema still prepares, and reports the first that does not as `error in view v: …`.
-/
namespace Shipyard.Sql

/-- Changes a schema of the database. -/
def modifySchemaNow (schema : String) (f : Schema → Schema) : ExecM Unit :=
  modify fun st => { st with db := st.db.modifySchema schema f }

/-- A catalog entry added at the end. -/
def Schema.addEntry (s : Schema) (e : CatalogEntry) : Schema :=
  { s with catalog := s.catalog ++ [e] }

/-- A failure after an earlier one, if there was one. -/
def SqlError.following (earlier : Option SqlError) (e : SqlError) : SqlError :=
  match earlier with
  | some p => p.after e
  | none => e

/-- The checks made when a table's definition ends, and the table as it is kept. -/
def finishTable (db : Database) (d : TableDraft) : Except SqlError TableDraft := do
  let mut t := d.table
  if d.strict then
    for c in t.columns do
      if c.type.isEmpty then
        throw (.plain ("missing datatype for " ++ t.name ++ "." ++ c.name))
      if !isStandardType c.type.toUpper then
        throw (.plain ("unknown datatype for " ++ t.name ++ "." ++ c.name ++ ": \"" ++ c.type ++
          "\""))
    let aliasName := t.rowidAlias
    t := { t with strict := true, columns := t.columns.zipIdx.map fun (c, j) =>
      if c.primaryKey && aliasName != some j then { c with notNull := true } else c }
  let mut indexes := d.indexes
  if d.withoutRowid then
    if t.autoincrement then throw (.plain "AUTOINCREMENT not allowed on WITHOUT ROWID tables")
    if !t.hasPrimaryKey then throw (.plain ("PRIMARY KEY missing on table " ++ t.name))
    if let some i := t.rowidAlias then
      let c := t.columns[i]?.getD default
      let key : IndexKey := { column := some i, expr := .bound 0 0 (some i), collation := c.collation }
      indexes := indexes ++ [{
        name := "sqlite_autoindex_" ++ t.name ++ "_" ++ toString (indexes.length + 1),
        table := t.name, keys := [key], unique := true, origin := .primaryKey,
        onConflict := t.keyConflict }]
    t := { t with withoutRowid := true, rowidAlias := none,
                  columns := t.columns.map fun c => if c.primaryKey then { c with notNull := true } else c }
  let mut failed : Option SqlError := none
  for ch in t.checks do
    match resolveAtTable db d.schema t .check true ch.expr with
    | .error e =>
      failed := some (SqlError.following failed e)
      break
    | .ok _ => pure ()
  if t.columns.any (·.generated.isSome) then
    for c in t.columns do
      if let some g := c.generated then
        match resolveAtTable db d.schema t .generated true g with
        | .error e => failed := some (SqlError.following failed e)
        | .ok _ => pure ()
    if t.columns.all (·.generated.isSome) then
      throw (SqlError.following failed (.plain "must have at least one non-generated column"))
  match failed with
  | some e => throw e
  | none => pure { d with table := t, indexes }

/-- The type a column of a table made from a query is declared with: the name of its affinity,
none for a blob. -/
def Affinity.declaredName : Affinity → String
  | .text => "TEXT"
  | .numeric => "NUM"
  | .integer => "INT"
  | .real => "REAL"
  | .blob => ""

/-- Whether a name needs quotes in a definition the engine writes: unless it is a word of ASCII
letters, digits and underscores, not starting with a digit, that is no keyword. -/
def needsQuotes (n : String) : Bool :=
  match n.toList with
  | [] => true
  | c :: cs =>
    c.isDigit || !(c :: cs).all (fun x => x.isAlphanum || x == '_') ||
      (keywords ++ ["FILTER", "OVER", "WINDOW"]).contains n.toUpper

/-- A name as the engine writes it in a definition it makes: in double quotes, each quote in it
doubled, when it needs them. -/
def writtenName (n : String) : String :=
  if needsQuotes n then "\"" ++ String.join (n.toList.map fun c =>
    if c == '"' then "\"\"" else c.toString) ++ "\""
  else n

/-- The definition the engine writes for a table made from a query: each column with the
name of its affinity (none for a blob). When the names, each counted with its quotes and five more, come to fifty
bytes or more, each column stands on a line of its own. -/
def queryTableSql (name : String) (columns : List Column) : String :=
  let width (n : String) : Nat := n.utf8ByteSize + (n.toList.filter (· == '"')).length + 2
  let total := width name + (columns.map fun c => width c.name + 5).foldl (· + ·) 0
  let (first, between, close) :=
    if total < 50 then ("", ",", ")") else ("\n  ", ",\n  ", "\n)")
  let cols := columns.map fun c =>
    let ty := c.affinity.declaredName
    writtenName c.name ++ (if ty.isEmpty then "" else " " ++ ty)
  "CREATE TABLE " ++ writtenName name ++ "(" ++ first ++ String.intercalate between cols ++ close

/-- Makes the `sqlite_sequence` table of a schema if it has none. -/
def ensureSequence (schema : String) : ExecM Unit := do
  let db := (← get).db
  if (db.table? "sqlite_sequence" (some schema)).isSome then return
  let t : Table := { name := "sqlite_sequence", columns := [{ name := "name" }, { name := "seq" }] }
  modifySchemaNow schema fun s => ({ s with tables := s.tables ++ [t] }).addEntry
    { kind := .table, name := t.name, table := t.name, sql := "CREATE TABLE sqlite_sequence(name,seq)" }

/-- `CREATE TABLE`: the table, its constraint indexes and its catalog entries; a table made from
a query takes the query's rows. -/
def createTable (d : TableDraft) : ExecM Unit := do
  let db := (← get).db
  let d ← liftExcept (finishTable db d)
  match d.query with
  | some q =>
    let (q, names) ← liftExcept (runResolve { db } (prepareSelect exprFuel q))
    liftExcept (Shape.select exprFuel q)
    let types := resultColumnTypes exprFuel db q (some .blob)
    let columns := names.zipIdx.map fun (n, i) => match types[i]? with
      | some (ty, _, coll) => ({ name := n, type := ty.getD "", collation := coll } : Column)
      | none => ({ name := n } : Column)
    let t : Table := { name := d.table.name, columns }
    modifySchemaNow d.schema fun s => ({ s with tables := s.tables ++ [t] }).addEntry
      { kind := .table, name := t.name, table := t.name, sql := queryTableSql t.name columns }
    let rows ← selectWith [] q
    let stored := rows.zipIdx.map fun (vs, i) =>
      ({ rowid := i + 1, values := (t.columns.zip vs).map fun (c, v) => c.store false v } : Row)
    setRowsNow d.schema t.name stored
  | none =>
    let t := d.table
    modifySchemaNow d.schema fun s =>
      let s := ({ s with tables := s.tables ++ [t], indexes := s.indexes ++ d.indexes }).addEntry
        { kind := .table, name := t.name, table := t.name, sql := d.sql }
      d.indexes.foldl (fun s ix => s.addEntry
        { kind := .index, name := ix.name, table := t.name, sql := "" }) s
    if t.autoincrement then ensureSequence d.schema

/-- The virtual table modules there are. -/
def knownModules : List String := ["fts3", "fts4", "fts5", "rtree", "rtree_i32", "geopoly", "dbstat"]

/-- `CREATE VIRTUAL TABLE`: a table of a known module, whose columns are named by its
arguments (those that are not options `key = value`). A full-text table also has two hidden
columns, one named like the table, through which a query may search every column, and `rank`;
an argument that says `UNINDEXED` makes a column that is kept but not searched. -/
def createVirtual (d : TableDraft) (module : String) (args : List String) : ExecM Unit := do
  if !knownModules.contains module.toLower then throw (.plain ("no such module: " ++ module))
  let declared := args.filterMap fun a =>
    let words := (a.splitOn " ").filter (!·.isEmpty)
    match words with
    | w :: rest =>
      if a.contains '=' then none
      else some (w, rest.any fun r => r.toUpper == "UNINDEXED")
    | [] => none
  let fullText := module.toLower == "fts5"
  let hidden : List Column :=
    if fullText then [{ name := d.table.name, hidden := true }, { name := "rank", hidden := true }]
    else []
  let unindexed := if fullText then (declared.filter (·.2)).map (·.1) else []
  let t : Table := { d.table with
    columns := declared.map (fun (n, _) => ({ name := n } : Column)) ++ hidden,
    kind := .virtual module unindexed }
  modifySchemaNow d.schema fun s => ({ s with tables := s.tables ++ [t] }).addEntry
    { kind := .table, name := t.name, table := t.name, sql := d.sql }

/-- `CREATE INDEX`: the checks in the engine's order, then the index built over the table's
rows, which must not break its uniqueness. -/
def createIndex (schemaTok : Option Token) (nameTok : Token) (table : Name) (keys : List Term)
    (unique ifNotExists : Bool) (filter : Option Expr) (sql : String) : ExecM Unit := do
  let db := (← get).db
  let given ← match schemaTok with
    | some s => match db.schema? s.toName.text with
      | some sc => pure (some sc.name)
      | none => throw (.atOffset ("unknown database " ++ s.text) s.offset)
    | none => pure none
  let schema := match given with
    | some s => s
    | none => match db.locate? table.text none with
      | some (s, _) => if sameName s "temp" then "temp" else "main"
      | none => "main"
  let some (_, t) := db.locate? table.text (some schema)
    | throw (.plain ("no such table: " ++ schema ++ "." ++ table.text))
  if t.name.toLower.startsWith "sqlite_" && !t.name.toLower.startsWith "sqlite_altertab_" then
    throw (.plain ("table " ++ t.name ++ " may not be indexed"))
  if t.isView then throw (.plain "views may not be indexed")
  if t.isVirtual then throw (.plain "virtual tables may not be indexed")
  let name := nameTok.toName.text
  if name.toLower.startsWith "sqlite_" then
    throw (.plain ("object name reserved for internal use: " ++ name))
  if (db.table? name (some schema)).isSome then
    throw (.plain ("there is already a table named " ++ name))
  if (db.index? name (some schema)).isSome then
    if ifNotExists then return
    throw (.plain ("index " ++ name ++ " already exists"))
  if let some f := filter then
    let _ ← liftExcept (resolveAtTable db schema t .partialIndex true f)
  let mut ikeys : List IndexKey := []
  for .mk e desc nulls in keys do
    let e := stringToId e
    let r ← liftExcept (resolveAtTable db schema t .index true e)
    if let some n := nulls then
      throw (.plain ("unsupported use of NULLS " ++ (if n then "FIRST" else "LAST")))
    let column := match skipCollate 64 r with
      | .bound 0 0 (some j) => some j
      | _ => none
    let coll ← match e with
      | .collate _ c => match Collation.ofName? c with
        | some k => pure k
        | none => throw (.plain ("no such collation sequence: " ++ c))
      | _ => pure ((column.bind fun j => t.columns[j]?.map (·.collation)).getD .binary)
    ikeys := ikeys ++ [{ column, expr := e, collation := coll, descending := desc }]
  let ix : Index := { name, table := t.name, keys := ikeys, unique, filter }
  if unique then
    let rows ← rowsNow schema t.name
    let mut seen : List (List Value) := []
    for r in rows do
      if let some k := ← indexKey schema t ix r then
        if seen.any (sameKey ix k) then
          throw (.constraint SqlError.uniqueCode (uniqueMessage t ix))
        seen := seen ++ [k]
  else
    for r in ← rowsNow schema t.name do
      let _ ← indexKey schema t ix r
  modifySchemaNow schema fun s => ({ s with indexes := s.indexes ++ [ix] }).addEntry
    { kind := .index, name, table := t.name, sql }

/-- `CREATE VIEW`: parameters are refused first, then the checks on the name; the query is not
prepared until the view is used. -/
def createView (temp : Bool) (schemaTok : Option Token) (nameTok : Token) (columns : List Name)
    (query : Select) (ifNotExists hasParameters : Bool) (sql : String) : ExecM Unit := do
  if hasParameters then throw (.plain "parameters are not allowed in views")
  let db := (← get).db
  let env : ParseEnv := { tokens := #[], chars := #[], bytes := 0, db }
  match ((ParseM.startTable temp schemaTok nameTok ifNotExists).run env).run {} with
  | .error e => throw e
  | .ok (none, _) => pure ()
  | .ok (some schema, _) =>
    let t : Table := { name := nameTok.toName.text, columns := [], kind := .view columns query }
    modifySchemaNow schema fun s => ({ s with tables := s.tables ++ [t] }).addEntry
      { kind := .view, name := t.name, table := t.name, sql }

/-- `CREATE TRIGGER`, its checks made while it was read. -/
def createTrigger (schema : String) (tr : Trigger) (sql : String) : ExecM Unit :=
  modifySchemaNow schema fun s => ({ s with triggers := s.triggers ++ [tr] }).addEntry
    { kind := .trigger, name := tr.name, table := tr.table, sql }

/-- Whether a table may not be dropped: the engine's own tables, except statistics. -/
def mayNotBeDropped (name : String) : Bool :=
  let n := name.toLower
  n.startsWith "sqlite_" && !n.startsWith "sqlite_stat" && !n.startsWith "sqlite_parameters"

/-- Removes a table or view with its indexes, triggers and catalog entries. -/
def removeTable (schema name : String) : ExecM Unit :=
  modifySchemaNow schema fun s =>
    { s with
      tables := s.tables.filter fun t => !sameName t.name name
      indexes := s.indexes.filter fun i => !sameName i.table name
      triggers := s.triggers.filter fun t => !sameName t.table name
      catalog := s.catalog.filter fun e => !sameName e.table name
      rows := (s.rows.filter fun (n, _) => n != name.toLower).map fun (n, rs) =>
        if n == "sqlite_sequence" then
          (n, rs.filter fun r => match r.values with
            | .text x :: _ => x != name
            | _ => true)
        else (n, rs) }

/-- `DROP TABLE` and `DROP VIEW`. With foreign keys on, a table that keys reference first loses
its rows as a `DELETE` would, with the keys' actions. -/
def dropTable (schemaName : Option Name) (name : Name) (ifExists view : Bool) : ExecM Unit := do
  let db := (← get).db
  let wanted := schemaName.map (·.text)
  let some (schema, t) := db.locate? name.text wanted
    | if ifExists then return
      else throw (.plain ((if view then "no such view: " else "no such table: ") ++
        (match wanted with
          | some s => s ++ "."
          | none => "") ++ name.text))
  if mayNotBeDropped t.name then throw (.plain ("table " ++ t.name ++ " may not be dropped"))
  if view && !t.isView then throw (.plain ("use DROP TABLE to delete table " ++ t.name))
  if !view && t.isView then throw (.plain ("use DROP VIEW to delete view " ++ t.name))
  let st ← get
  if !t.isView && st.foreignKeys then
    let referenced := ((st.db.schema? schema).map fun s => !(s.referencing t.name).isEmpty).getD false
    if referenced then
      for r in ← rowsNow schema t.name do
        removeRow schema t.name r.rowid
        keyActions 1000 [] schema t r none
  removeTable schema t.name

/-- `DROP INDEX`: an index made by a constraint may not be dropped. -/
def dropIndex (schemaName : Option Name) (name : Name) (ifExists : Bool) : ExecM Unit := do
  let db := (← get).db
  let wanted := schemaName.map (·.text)
  let some (schema, ix) := db.index? name.text wanted
    | if ifExists then return
      else throw (.plain ("no such index: " ++ (match wanted with
          | some s => s ++ "."
          | none => "") ++ name.text))
  if ix.origin != .created then
    throw (.plain "index associated with UNIQUE or PRIMARY KEY constraint cannot be dropped")
  modifySchemaNow schema fun s =>
    { s with indexes := s.indexes.filter fun i => !sameName i.name ix.name
             catalog := s.catalog.filter fun e => !(e.kind == .index && sameName e.name ix.name) }

/-- `DROP TRIGGER`. -/
def dropTrigger (schemaName : Option Name) (name : Name) (ifExists : Bool) : ExecM Unit := do
  let db := (← get).db
  let wanted := schemaName.map (·.text)
  let some (schema, tr) := db.trigger? name.text wanted
    | if ifExists then return
      else throw (.plain ("no such trigger: " ++ (match wanted with
          | some s => s ++ "."
          | none => "") ++ name.text))
  modifySchemaNow schema fun s =>
    { s with triggers := s.triggers.filter fun t => !sameName t.name tr.name
             catalog := s.catalog.filter fun e => !(e.kind == .trigger && sameName e.name tr.name) }

/-- The first view or trigger of a schema that no longer prepares, as the failure
`error in view v: …` (with `after` after the name when the change is already made). -/
def checkSchemaObjects (schema : String) (after : String) : ExecM Unit := do
  let db := (← get).db
  let some s := db.schema? schema | return
  let suffix := if after.isEmpty then "" else " " ++ after
  for e in s.catalog do
    match e.kind with
    | .view =>
      if let some t := s.table? e.name then
        if let .view _ q := t.kind then
          let env : Env := { db, offsets := false, fixed := some s.name }
          match runResolve env (prepareSelect exprFuel q) with
          | .error err =>
            throw (.plain ("error in view " ++ e.name ++ suffix ++ ": " ++ err.message))
          | .ok _ => pure ()
    | .trigger =>
      if let some tr := s.trigger? e.name then
        if let some t := s.table? tr.table then
          let change : Change := match tr.event with
            | .insert => .insert
            | .delete => .delete
            | .update cols => .update cols
          let check : ResolveM Unit := do
            match tr.condition with
            | some w =>
              let _ ← resolveExpr exprFuel w
              ResolveM.checkpoint
            | none => pure ()
            for step in tr.body do
              let _ ← planDml exprFuel step
              ResolveM.checkpoint
          match runResolve (triggerEnv db s.name t change) check with
          | .error err =>
            throw (.plain ("error in trigger " ++ e.name ++ suffix ++ ": " ++ err.message))
          | .ok _ => pure ()
    | _ => pure ()

/-- Applies a renaming to the statements kept by a schema: views, triggers, checks, index keys
and filters, defaults and generated columns. -/
def Schema.renameWithin (s : Schema) (r : Renaming) : Schema :=
  let fuel := exprFuel
  { s with
    tables := s.tables.map fun t =>
      { t with
        kind := match t.kind with
          | .view cols q => .view cols (Renaming.select fuel r q)
          | k => k
        checks := t.checks.map fun c => { c with expr := Renaming.expr fuel r c.expr }
        columns := t.columns.map fun c =>
          { c with generated := c.generated.map (Renaming.expr fuel r) } }
    triggers := s.triggers.map fun tr =>
      { tr with condition := tr.condition.map (Renaming.expr fuel r),
                body := tr.body.map (Renaming.dml fuel r) } }

/-- A foreign key whose parent is renamed. -/
def ForeignKey.withParent (k : ForeignKey) (old new : String) : ForeignKey :=
  if sameName k.parent old then { k with parent := new } else k

/-- Names with one of them renamed. -/
def renameIn (names : List String) (old new : String) : List String :=
  names.map fun n => if sameName n old then new else n

/-- A foreign key with a column of its parent renamed. -/
def ForeignKey.withParentColumn (k : ForeignKey) (parent old new : String) : ForeignKey :=
  if sameName k.parent parent then { k with parentColumns := renameIn k.parentColumns old new }
  else k

/-- Whether a table may be changed by `ALTER TABLE`: not one of the engine's own. -/
def checkAlterable (t : Table) : ExecM Unit := do
  if t.name.toLower.startsWith "sqlite_" then
    throw (.plain ("table " ++ t.name ++ " may not be altered"))

/-- `ALTER TABLE … RENAME TO`: the new name must be free in the schema; views and triggers
that name the table follow it, as do the keys that reference it. -/
def renameTable (schemaName : Option Name) (name : Name) (newName : Name) : ExecM Unit := do
  let db := (← get).db
  let wanted := schemaName.map (·.text)
  let some (schema, t) := db.locate? name.text wanted
    | throw (.plain ("no such table: " ++ (match wanted with
        | some s => s ++ "."
        | none => "") ++ name.text))
  let n := newName.text
  if (db.table? n (some schema)).isSome || (db.index? n (some schema)).isSome then
    throw (.plain ("there is already another table or index with this name: " ++ n))
  checkAlterable t
  if n.toLower.startsWith "sqlite_" then
    throw (.plain ("object name reserved for internal use: " ++ n))
  if t.isView then throw (.plain ("view " ++ t.name ++ " may not be altered"))
  checkSchemaObjects schema ""
  let old := t.name
  let r := Renaming.ofTable old n
  let autoName (i : String) : String :=
    let prefix_ := "sqlite_autoindex_" ++ old ++ "_"
    if i.startsWith prefix_ then "sqlite_autoindex_" ++ n ++ "_" ++ String.ofList (i.toList.drop prefix_.length)
    else i
  modifySchemaNow schema fun s =>
    let s := s.renameWithin r
    { s with
      tables := s.tables.map fun u =>
        let u := { u with foreignKeys := u.foreignKeys.map (·.withParent old n) }
        if sameName u.name old then { u with name := n } else u
      indexes := s.indexes.map fun i =>
        if sameName i.table old then { i with table := n, name := autoName i.name } else i
      triggers := s.triggers.map fun tr => if sameName tr.table old then { tr with table := n } else tr
      catalog := s.catalog.map fun e =>
        if sameName e.table old then
          { e with table := n, name := if e.kind == .table then n else autoName e.name }
        else e
      rows := s.rows.map fun (k, rs) =>
        if k == old.toLower then (n.toLower, rs)
        else if k == "sqlite_sequence" then
          (k, rs.map fun row => match row.values with
            | .text x :: rest => if x == old then { row with values := .text n :: rest } else row
            | _ => row)
        else (k, rs) }

/-- Whether a default is a constant that a new column may take: a literal, signed or cast, but no
operator, function or time. -/
def isPlainDefault : Nat → Expr → Bool
  | 0, _ => false
  | fuel + 1, e => match e with
    | .literal _ | .integer _ _ | .float _ => true
    | .column n => !n.quoted && (sameName n.text "true" || sameName n.text "false")
    | .unary .neg a | .unary .pos a | .collate a _ | .cast a _ => isPlainDefault fuel a
    | _ => false

/-- `ALTER TABLE … ADD COLUMN`: the new column may not be a key; on a table with rows its
default must suit it; the rows then take the default. -/
def addColumn (schema table : String) (d : TableDraft) : ExecM Unit := do
  let st ← get
  let some (_, t) := st.db.table? table (some schema)
    | throw (.plain ("no such table: " ++ table))
  let some c := d.table.columns.getLast? | return
  if c.primaryKey then throw (.plain "Cannot add a PRIMARY KEY column")
  if !d.indexes.isEmpty then throw (.plain "Cannot add a UNIQUE column")
  let rows ← rowsNow schema t.name
  let nullDefault := match c.default with
    | none => true
    | some (.literal .null) => true
    | _ => false
  if c.generated.isNone then
    if !rows.isEmpty then
      if st.foreignKeys && !d.table.foreignKeys.isEmpty && !nullDefault then
        throw (.plain "Cannot add a REFERENCES column with non-NULL default value")
      if c.notNull && nullDefault then
        throw (.plain "Cannot add a NOT NULL column with default value NULL")
      if let some e := c.default then
        if !isPlainDefault 64 e then throw (.plain "Cannot add a column with non-constant default")
  else if c.stored && !rows.isEmpty then throw (.plain "cannot add a STORED column")
  let extraChecks := d.table.checks
  let t' : Table := { t with columns := t.columns ++ [c], checks := t.checks ++ extraChecks,
                              foreignKeys := t.foreignKeys ++ d.table.foreignKeys }
  modifySchemaNow schema fun s => s.putTable t'
  let j := t.columns.length
  let mut out : List Row := []
  for r in rows do
    let v ← if c.generated.isSome then pure Value.null else defaultValue c
    let vals := r.values ++ [c.store t.strict v]
    let vals ← computeGenerated schema t' vals r.rowid
    out := out ++ [{ r with values := vals }]
  setRowsNow schema t.name out
  if !extraChecks.isEmpty || (c.notNull && c.generated.isSome) || t.strict then
    let db := (← get).db
    for r in out do
      for ch in extraChecks do
        let e ← liftExcept (resolveAtTable db schema t' .check false ch.expr)
        if (← evalWith [[t'.sourceRow r]] e).truth? == some false then
          throw (.plain "CHECK constraint failed")
      if c.notNull && (r.values[j]?.getD .null).isNull then
        throw (.plain "NOT NULL constraint failed")
      if (strictMismatch? t' r.values).isSome then throw (.plain "type mismatch on DEFAULT")

/-- Whether `ALTER TABLE` may change the columns of a table: not those of a view or a virtual
table. -/
def checkRealTable (t : Table) (drop : Bool) : ExecM Unit := do
  let kind := if t.isView then some "view" else if t.isVirtual then some "virtual table" else none
  if let some k := kind then
    throw (.plain ("cannot " ++ (if drop then "drop column from" else "rename columns of") ++ " " ++
      k ++ " \"" ++ t.name ++ "\""))

/-- `ALTER TABLE … RENAME COLUMN`: the column must exist; the statements of the schema that
name it follow it. -/
def renameColumn (schemaName : Option Name) (name : Name) (old new : Token) : ExecM Unit := do
  let db := (← get).db
  let wanted := schemaName.map (·.text)
  let some (schema, t) := db.locate? name.text wanted
    | throw (.plain ("no such table: " ++ (match wanted with
        | some s => s ++ "."
        | none => "") ++ name.text))
  checkAlterable t
  checkRealTable t false
  let oldName := old.toName.text
  let some j := t.columnIndex? oldName
    | throw (.atOffset ("no such column: \"" ++ old.text ++ "\"") old.offset)
  checkSchemaObjects schema ""
  let newName := new.toName.text
  let col := t.columns[j]?.getD default
  if t.columns.any fun c => sameName c.name newName && !sameName c.name col.name then
    throw (.plain ("error in table " ++ t.name ++ " after rename: duplicate column name: " ++
      newName))
  let own := Renaming.ofColumn t.name [] col.name newName
  let inTriggers := Renaming.ofColumn t.name ["new", "old"] col.name newName
  modifySchemaNow schema fun s =>
    let renamed := { s with
      tables := s.tables.map fun u =>
        if sameName u.name t.name then
          { u with
            columns := u.columns.map fun c =>
              let c := if sameName c.name col.name then { c with name := newName } else c
              { c with generated := c.generated.map (Renaming.expr exprFuel own) }
            checks := u.checks.map fun ch => { ch with expr := Renaming.expr exprFuel own ch.expr }
            foreignKeys := u.foreignKeys.map fun k =>
              ({ k with columns := renameIn k.columns col.name newName }).withParentColumn
                t.name col.name newName }
        else
          { u with foreignKeys := u.foreignKeys.map (·.withParentColumn t.name col.name newName) }
      indexes := s.indexes.map fun ix =>
        if sameName ix.table t.name then
          { ix with keys := ix.keys.map fun k => { k with expr := Renaming.expr exprFuel own k.expr },
                    filter := ix.filter.map (Renaming.expr exprFuel own) }
        else ix
      triggers := s.triggers.map fun tr =>
        if sameName tr.table t.name then
          { tr with
            event := match tr.event with
              | .update cols => .update (renameIn cols col.name newName)
              | e => e
            condition := tr.condition.map (Renaming.expr exprFuel inTriggers)
            body := tr.body.map (Renaming.dml exprFuel inTriggers) }
        else tr }
    renamed

/-- `ALTER TABLE … DROP COLUMN`: not a key column, not the last column; the rows lose it, and
every object of the schema must still prepare without it. -/
def dropColumn (schemaName : Option Name) (name : Name) (colTok : Token) : ExecM Unit := do
  let db := (← get).db
  let wanted := schemaName.map (·.text)
  let some (schema, t) := db.locate? name.text wanted
    | throw (.plain ("no such table: " ++ (match wanted with
        | some s => s ++ "."
        | none => "") ++ name.text))
  checkAlterable t
  checkRealTable t true
  let colName := colTok.toName.text
  let some j := t.columnIndex? colName
    | throw (.atOffset ("no such column: \"" ++ colTok.text ++ "\"") colTok.offset)
  let col := t.columns[j]?.getD default
  if col.primaryKey || col.unique then
    throw (.plain ("cannot drop " ++ (if col.primaryKey then "PRIMARY KEY" else "UNIQUE") ++
      " column: \"" ++ colName ++ "\""))
  if t.columns.length ≤ 1 then
    throw (.plain ("cannot drop column \"" ++ colName ++ "\": no other columns exist"))
  checkSchemaObjects schema ""
  let shift (k : Nat) : Nat := if k > j then k - 1 else k
  let t' : Table := { t with
    columns := t.columns.eraseIdx j
    rowidAlias := t.rowidAlias.map shift }
  -- the table's own definition must still hold without the column
  let after := "after drop column"
  for k in t'.foreignKeys do
    if k.columns.any fun n => sameName n col.name then
      throw (.plain ("error in table " ++ t.name ++ " " ++ after ++ ": unknown column \"" ++
        col.name ++ "\" in foreign key definition"))
  for ch in t'.checks do
    if let .error e := resolveAtTable db schema t' .check false ch.expr then
      throw (.plain ("error in table " ++ t.name ++ " " ++ after ++ ": " ++ e.message))
  for c in t'.columns do
    if let some g := c.generated then
      if let .error e := resolveAtTable db schema t' .generated false g then
        throw (.plain ("error in table " ++ t.name ++ " " ++ after ++ ": " ++ e.message))
  let own := ((db.schema? schema).map fun s => s.indexes.filter fun i => sameName i.table t.name).getD []
  let mut keptIndexes : List Index := []
  for ix in own do
    let mut keys : List IndexKey := []
    for k in ix.keys do
      match k.column with
      | some c =>
        if c == j then
          throw (.plain ("error in index " ++ ix.name ++ " " ++ after ++ ": no such column: " ++
            col.name))
        keys := keys ++ [{ k with column := some (shift c), expr := .bound 0 0 (some (shift c)) }]
      | none =>
        if let .error e := resolveAtTable db schema t' .index false k.expr then
          throw (.plain ("error in index " ++ ix.name ++ " " ++ after ++ ": " ++ e.message))
        keys := keys ++ [k]
    if let some f := ix.filter then
      if let .error e := resolveAtTable db schema t' .partialIndex false f then
        throw (.plain ("error in index " ++ ix.name ++ " " ++ after ++ ": " ++ e.message))
    keptIndexes := keptIndexes ++ [{ ix with keys }]
  modifySchemaNow schema fun s =>
    { s with
      tables := s.tables.map fun u => if sameName u.name t.name then t' else u
      indexes := s.indexes.map fun i =>
        (keptIndexes.find? fun k => k.name == i.name).getD i }
  let rows ← rowsNow schema t.name
  setRowsNow schema t.name (rows.map fun r => { r with values := r.values.eraseIdx j })
  checkSchemaObjects schema after

/-- `ANALYZE`: an object named must be a schema, an index or a table; the statistics table is
made. -/
def analyze (first second : Option Token) : ExecM Unit := do
  let db := (← get).db
  let statsIn (schema : String) : ExecM Unit := do
    if (db.table? "sqlite_stat1" (some schema)).isSome then return
    let t : Table := { name := "sqlite_stat1",
                       columns := [{ name := "tbl" }, { name := "idx" }, { name := "stat" }] }
    modifySchemaNow schema fun s => ({ s with tables := s.tables ++ [t] }).addEntry
      { kind := .table, name := t.name, table := t.name, sql := "CREATE TABLE sqlite_stat1(tbl,idx,stat)" }
  match first, second with
  | none, _ => statsIn "main"
  | some a, none =>
    let n := a.toName.text
    if let some sc := db.schema? n then
      if !sameName sc.name "temp" then statsIn sc.name
    else if let some (s, _) := db.index? n none then statsIn s
    else match db.locate? n none with
      | some (s, _) => statsIn s
      | none => throw (.plain ("no such table: " ++ n))
  | some a, some b =>
    let some sc := db.schema? a.toName.text
      | throw (.atOffset ("unknown database " ++ a.text) a.offset)
    let n := b.toName.text
    if (db.index? n (some sc.name)).isSome then statsIn sc.name
    else match db.locate? n (some sc.name) with
      | some _ => statsIn sc.name
      | none => throw (.plain ("no such table: " ++ sc.name ++ "." ++ n))

/-- `REINDEX`: an object named must be a collation, a table or an index. -/
def reindex (first second : Option Token) : ExecM Unit := do
  let db := (← get).db
  match first, second with
  | none, _ => pure ()
  | some a, none =>
    let n := a.toName.text
    if (Collation.ofName? n).isSome then return
    if (db.table? n none).isSome || (db.index? n none).isSome then return
    throw (.plain "unable to identify the object to be reindexed")
  | some a, some b =>
    let some sc := db.schema? a.toName.text
      | throw (.atOffset ("unknown database " ++ a.text) a.offset)
    let n := b.toName.text
    if (db.table? n (some sc.name)).isSome || (db.index? n (some sc.name)).isSome then return
    throw (.plain "unable to identify the object to be reindexed")

end Shipyard.Sql
