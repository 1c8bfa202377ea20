import Shipyard.Sql.Parse.Table
/-!
# Reading statements

One statement is read from its first token up to, not including, the `;` or the end of the
text that ends it. The statement's first word chooses its form. Most forms only read; the
checks that a form makes while it is read are those of table definitions (see
`Shipyard.Sql.Parse.Table`), the table of `ALTER TABLE … ADD COLUMN` (looked up when `ADD` is
read), and the table of a trigger (looked up when `BEGIN` is read).

A trigger's body holds data statements without schema names on their tables, without
`INDEXED BY` and without `RETURNING`; each ends with `;`.
-/
namespace Shipyard.Sql

namespace ParseM

/-- What a conflict does, after `OR`. -/
def resolveType : ParseM Conflict := do
  let t ← peek
  let c ← if t.isWord "ROLLBACK" then pure Conflict.rollback
    else if t.isWord "ABORT" then pure .abort
    else if t.isWord "FAIL" then pure .fail
    else if t.isWord "IGNORE" then pure .ignore
    else if t.isWord "REPLACE" then pure .replace
    else throw t.syntaxError
  advance
  pure c

/-- Names separated by commas. -/
def idList : ParseM (List Name) := do
  let mut out : List Name := []
  for _ in [0:(← read).tokens.size] do
    out := out ++ [← nm]
    if !(← acceptSymbol ",") then break
  pure out

/-- `OR conflict`, if written. -/
def orConflict : ParseM (Option Conflict) := do
  if ← acceptWord "OR" then some <$> resolveType else pure none

/-- The table of a data statement: a name, perhaps with its schema and an alias. -/
def target (inTrigger : Bool) : ParseM Target := do
  let first ← nm
  let (schema, name) ← if ← acceptSymbol "." then do
      let second ← nm
      if inTrigger then
        throw (.plain ("qualified table names are not allowed on INSERT, UPDATE, and DELETE " ++
          "statements within triggers"))
      pure (some first, second)
    else pure (none, first)
  let aliasName ← if !inTrigger && (← acceptWord "AS") then some <$> nm else pure none
  pure { schema, name, aliasName }

/-- `INDEXED BY name` or `NOT INDEXED`, read and set aside. -/
def indexedBy (inTrigger : Bool) : ParseM Unit := do
  if (← peek).isWord "INDEXED" then
    if inTrigger then
      throw (.plain ("the INDEXED BY clause is not allowed on UPDATE or DELETE statements " ++
        "within triggers"))
    advance
    let _ ← expectWord "BY"
    let _ ← nm
  else if (← peek).isWord "NOT" && (← lookAt 1).isWord "INDEXED" then
    if inTrigger then
      throw (.plain ("the NOT INDEXED clause is not allowed on UPDATE or DELETE statements " ++
        "within triggers"))
    advance
    advance

/-- The assignments of `SET`. -/
def assignments (fuel : Nat) : ParseM (List Assignment) := do
  let mut out : List Assignment := []
  for _ in [0:(← read).tokens.size] do
    let columns ← if ← acceptSymbol "(" then ParseM.nameList fuel else do pure [← nm]
    let _ ← expectSymbol "="
    let value ← ParseM.expr fuel 1
    out := out ++ [{ columns := columns, value := value }]
    if !(← acceptSymbol ",") then break
  pure out

/-- A `RETURNING` clause, if written. -/
def returning (fuel : Nat) (inTrigger : Bool) : ParseM (List ResultColumn) := do
  if !(← acceptWord "RETURNING") then return []
  let cols ← ParseM.resultColumns fuel
  if inTrigger then throw (.plain "cannot use RETURNING in a trigger")
  pure cols

/-- The `ON CONFLICT` clauses of an `INSERT`, then its `RETURNING`. -/
def upserts (fuel : Nat) (inTrigger : Bool) : ParseM (List Upsert × List ResultColumn) := do
  let mut out : List Upsert := []
  for _ in [0:(← read).tokens.size] do
    if !((← peek).isWord "ON" && (← lookAt 1).isWord "CONFLICT") then break
    advance
    advance
    let (terms, filter) ← if ← acceptSymbol "(" then do
        let terms ← ParseM.terms fuel
        let _ ← expectSymbol ")"
        let filter ← if ← acceptWord "WHERE" then some <$> ParseM.expr fuel 1 else pure none
        pure (terms, filter)
      else pure ([], none)
    let _ ← expectWord "DO"
    let update ← if ← acceptWord "NOTHING" then pure none
      else do
        let _ ← expectWord "UPDATE"
        let _ ← expectWord "SET"
        let sets ← assignments fuel
        let filter ← if ← acceptWord "WHERE" then some <$> ParseM.expr fuel 1 else pure none
        pure (some (sets, filter))
    out := out ++ [{ target := terms, targetFilter := filter, update }]
    if terms.isEmpty then break
  pure (out, ← returning fuel inTrigger)

/-- `INSERT` or `REPLACE`, from its first word. -/
def insert (ctes : List Cte) (inTrigger : Bool) : ParseM Dml := do
  let fuel ← fuel
  let first ← next
  let conflict ← if first.isWord "REPLACE" then pure Conflict.replace
    else do pure ((← orConflict).getD .abort)
  let _ ← expectWord "INTO"
  let tgt ← target inTrigger
  let columns ← if ← acceptSymbol "(" then some <$> ParseM.nameList fuel else pure none
  if !inTrigger && (← peek).isWord "DEFAULT" then
    advance
    let _ ← expectWord "VALUES"
    let ret ← returning fuel inTrigger
    return .insert ctes conflict tgt columns .defaults [] ret
  let q ← ParseM.select fuel
  let (ups, ret) ← upserts fuel inTrigger
  return .insert ctes conflict tgt columns (.query q) ups ret

/-- `UPDATE`, from its first word. -/
def update (ctes : List Cte) (inTrigger : Bool) : ParseM Dml := do
  let fuel ← fuel
  let _ ← expectWord "UPDATE"
  let conflict := (← orConflict).getD .abort
  let tgt ← target inTrigger
  indexedBy inTrigger
  let _ ← expectWord "SET"
  let sets ← assignments fuel
  let sources ← if ← acceptWord "FROM" then ParseM.sources fuel true else pure []
  let filter ← if ← acceptWord "WHERE" then some <$> ParseM.expr fuel 1 else pure none
  let ret ← returning fuel inTrigger
  return .update ctes conflict tgt sets sources filter ret

/-- `DELETE`, from its first word. -/
def delete (ctes : List Cte) (inTrigger : Bool) : ParseM Dml := do
  let fuel ← fuel
  let _ ← expectWord "DELETE"
  let _ ← expectWord "FROM"
  let tgt ← target inTrigger
  indexedBy inTrigger
  let filter ← if ← acceptWord "WHERE" then some <$> ParseM.expr fuel 1 else pure none
  let ret ← returning fuel inTrigger
  return .delete ctes tgt filter ret

/-- A data statement or query, from its first word (after any `WITH` clause). -/
def dataStatement (ctes : List Cte) (recursive : Bool) (inTrigger : Bool) : ParseM Dml := do
  let fuel ← fuel
  let t ← peek
  if t.isWord "INSERT" || t.isWord "REPLACE" then insert ctes inTrigger
  else if t.isWord "UPDATE" then update ctes inTrigger
  else if t.isWord "DELETE" then delete ctes inTrigger
  else if t.isWord "SELECT" || t.isWord "VALUES" then
    let (first, order, limit, offset) ← ParseM.core fuel
    let (rest, order, limit, offset) ← ParseM.compounds fuel first order limit offset
    return .select (.mk ctes recursive first rest order limit offset)
  else throw t.syntaxError

/-- The body of a trigger: statements each ended by `;`, up to `END`. -/
def triggerBody : ParseM (List Dml) := do
  let mut out : List Dml := []
  for _ in [0:(← read).tokens.size] do
    let t ← peek
    let d ← if t.isWord "WITH" || t.isWord "SELECT" || t.isWord "VALUES" then do
        pure (Dml.select (← ParseM.select (← fuel)))
      else if t.isWord "INSERT" || t.isWord "REPLACE" || t.isWord "UPDATE" ||
          t.isWord "DELETE" then dataStatement [] false true
      else throw t.syntaxError
    let _ ← expectSymbol ";"
    out := out ++ [d]
    if (← peek).isWord "END" then break
  let _ ← expectWord "END"
  pure out

/-- The checks made when a trigger's `BEGIN` is read: the table must exist, in the trigger's
schema, and suit the trigger's time; the trigger's name must be new. Gives the trigger's
schema, or none when `IF NOT EXISTS` finds one of the name. -/
def beginTrigger (temp : Bool) (schemaTok : Option Token) (nameTok : Token)
    (time : TriggerTime) (tableSchema : Option Name) (table : Name) (ifNotExists : Bool) :
    ParseM (Option (String × String)) := do
  let db := (← read).db
  let schema ← match schemaTok with
    | some s =>
      if temp then throw (.plain "temporary trigger may not have qualified name")
      match db.schema? s.toName.text with
      | some sc => pure sc.name
      | none => throw (.atOffset ("unknown database " ++ s.text) s.offset)
    | none =>
      if temp then pure "temp"
      else
        let found := db.table? table.text (tableSchema.map (·.text))
        match found with
        | some (sname, _) => pure (if sameName sname "temp" then "temp" else "main")
        | none => pure "main"
  if !sameName schema "temp" then
    match tableSchema with
    | some ts =>
      if !(db.schema? ts.text |>.map (sameName ·.name schema) |>.getD false) then
        throw (.plain ("trigger " ++ nameTok.text ++ " cannot reference objects in database " ++
          ts.text))
    | none => pure ()
  let lookIn : Option String := if sameName schema "temp" then tableSchema.map (·.text)
    else some schema
  let some (_, tbl) := db.locate? table.text lookIn
    | throw (.plain ("no such table: " ++ (match lookIn with
        | some s => s ++ "."
        | none => "") ++ table.text))
  if tbl.isVirtual then throw (.plain "cannot create triggers on virtual tables")
  let name := nameTok.toName.text
  if name.toLower.startsWith "sqlite_" then
    throw (.plain ("object name reserved for internal use: " ++ name))
  if ((db.schema? schema).bind (·.trigger? name)).isSome then
    if ifNotExists then return none
    throw (.atOffset ("trigger " ++ nameTok.text ++ " already exists") nameTok.offset)
  if tbl.name.toLower.startsWith "sqlite_" then
    throw (.plain "cannot create trigger on system table")
  if tbl.isView && time != .insteadOf then
    throw (.plain ("cannot create " ++ (if time == .before then "BEFORE" else "AFTER") ++
      " trigger on view: " ++ table.text))
  if !tbl.isView && time == .insteadOf then
    throw (.plain ("cannot create INSTEAD OF trigger on table: " ++ table.text))
  return some (schema, tbl.name)

/-- `CREATE [TEMP] TRIGGER`, after `TRIGGER`. A trigger that is made may not hold parameters in
its condition or its statements. -/
def createTrigger (temp : Bool) (start : Token) : ParseM Command := do
  let fuel ← fuel
  let skipIfExists ← ifNotExists
  let (schemaTok, nameTok) ← qualifiedName
  let time ← if ← acceptWord "BEFORE" then pure TriggerTime.before
    else if ← acceptWord "AFTER" then pure .after
    else if ← acceptWord "INSTEAD" then do
      let _ ← expectWord "OF"
      pure .insteadOf
    else pure .before
  let t ← peek
  let event ← if t.isWord "DELETE" then do advance; pure TriggerEvent.delete
    else if t.isWord "INSERT" then do advance; pure .insert
    else if t.isWord "UPDATE" then do
      advance
      if ← acceptWord "OF" then
        let cols ← idList
        pure (.update (cols.map (·.text)))
      else pure (.update [])
    else throw t.syntaxError
  let _ ← expectWord "ON"
  let first ← nm
  let (tableSchema, table) ← if ← acceptSymbol "." then do
      let second ← nm
      pure (some first, second)
    else pure (none, first)
  let forEachRow ← if ← acceptWord "FOR" then do
      let _ ← expectWord "EACH"
      let _ ← expectWord "ROW"
      pure true
    else pure true
  let before := (← get).parameterCount
  let condition ← if ← acceptWord "WHEN" then some <$> ParseM.expr fuel 1 else pure none
  let target ← checkBefore (fun t => t.isWord "BEGIN")
    (beginTrigger temp schemaTok nameTok time tableSchema table skipIfExists)
  let _ ← expectWord "BEGIN"
  let body ← triggerBody
  let stop := (← get).lastEnd
  let text := String.ofList ((← read).chars.extract start.index stop).toList
  match target with
  | none => pure .nothing
  | some (schema, tableName) =>
    if (← get).parameterCount > before then throw (.plain "trigger cannot use variables")
    pure (.createTrigger schema
      { name := nameTok.toName.text, table := tableName, time, event, forEachRow, condition,
        body } text)

/-- `CREATE [UNIQUE] INDEX`, after `INDEX`. -/
def createIndex (unique : Bool) (start : Token) : ParseM Command := do
  let fuel ← fuel
  let skipIfExists ← ifNotExists
  let (schemaTok, nameTok) ← qualifiedName
  let _ ← expectWord "ON"
  let table ← nm
  let _ ← expectSymbol "("
  let keys ← ParseM.terms fuel
  let _ ← expectSymbol ")"
  let filter ← if ← acceptWord "WHERE" then some <$> ParseM.expr fuel 1 else pure none
  let stop := (← get).lastEnd
  let text := String.ofList ((← read).chars.extract start.index stop).toList
  pure (.createIndex schemaTok nameTok table keys unique skipIfExists filter text)

/-- `CREATE [TEMP] VIEW`, after `VIEW`. -/
def createView (temp : Bool) (start : Token) : ParseM Command := do
  let fuel ← fuel
  let skipIfExists ← ifNotExists
  let (schemaTok, nameTok) ← qualifiedName
  let columns ← if ← acceptSymbol "(" then ParseM.columnNames fuel else pure []
  let _ ← expectWord "AS"
  let before := (← get).parameterCount
  let q ← ParseM.select fuel
  let hasParameters := (← get).parameterCount > before
  let stop := (← get).lastEnd
  let text := String.ofList ((← read).chars.extract start.index stop).toList
  pure (.createView temp schemaTok nameTok columns q skipIfExists hasParameters text)

/-- The arguments of a virtual table: the text of each, split at top-level commas. -/
def moduleArguments : ParseM (List String) := do
  let env ← read
  let mut out : List String := []
  let mut depth := 0
  let mut startAt := (← peek).index
  for _ in [0:env.tokens.size + 1] do
    let t ← peek
    if t.isEnd then throw t.syntaxError
    if depth == 0 && (t.isSymbol "," || t.isSymbol ")") then
      let text ← textBetween startAt t.index
      out := out ++ [text]
      advance
      if t.isSymbol ")" then break
      startAt := (← peek).index
    else
      if t.isSymbol "(" then depth := depth + 1
      if t.isSymbol ")" then depth := depth - 1
      advance
  pure out

/-- `CREATE VIRTUAL TABLE`, after `TABLE`. -/
def createVirtual (start : Token) : ParseM Command := do
  let skipIfExists ← ifNotExists
  let (schemaTok, nameTok) ← qualifiedName
  let _ ← expectWord "USING"
  let moduleTok ← nmToken
  let target ← checkBefore (fun t => t.isSymbol "(" || t.endsStatement)
    (startTable false schemaTok nameTok skipIfExists)
  let args ← if ← acceptSymbol "(" then moduleArguments else pure []
  let stop := (← get).lastEnd
  let text := String.ofList ((← read).chars.extract start.index stop).toList
  match target with
  | none => pure .nothing
  | some schema =>
    let table : Table :=
      { name := nameTok.toName.text, columns := [], kind := .virtual moduleTok.toName.text [] }
    pure (.createVirtual { schema, table, sql := text } moduleTok.toName.text args)

/-- `CREATE …`, after `CREATE`. -/
def create (start : Token) : ParseM Command := do
  let temp ← if (← peek).isWord "TEMP" || (← peek).isWord "TEMPORARY" then do
      advance
      pure true
    else pure false
  let t ← peek
  if t.isWord "TABLE" then
    advance
    createTable temp start
  else if t.isWord "VIEW" then
    advance
    createView temp start
  else if t.isWord "TRIGGER" then
    advance
    createTrigger temp start
  else if !temp && t.isWord "UNIQUE" then
    advance
    let _ ← expectWord "INDEX"
    createIndex true start
  else if !temp && t.isWord "INDEX" then
    advance
    createIndex false start
  else if !temp && t.isWord "VIRTUAL" then
    advance
    let _ ← expectWord "TABLE"
    createVirtual start
  else throw t.syntaxError

/-- `IF EXISTS`, if written. -/
def ifExists : ParseM Bool := do
  if (← peek).isWord "IF" then
    advance
    let _ ← expectWord "EXISTS"
    pure true
  else pure false

/-- A name with an optional schema before it. -/
def fullName : ParseM (Option Name × Name) := do
  let first ← nm
  if ← acceptSymbol "." then
    let second ← nm
    pure (some first, second)
  else pure (none, first)

/-- `DROP …`, after `DROP`. -/
def drop : ParseM Command := do
  let t ← peek
  if t.isWord "TABLE" || t.isWord "VIEW" then
    advance
    let e ← ifExists
    let (s, n) ← fullName
    pure (.dropTable s n e (t.isWord "VIEW"))
  else if t.isWord "INDEX" then
    advance
    let e ← ifExists
    let (s, n) ← fullName
    pure (.dropIndex s n e)
  else if t.isWord "TRIGGER" then
    advance
    let e ← ifExists
    let (s, n) ← fullName
    pure (.dropTrigger s n e)
  else throw t.syntaxError

/-- The checks made when `ADD` is read: the table must exist and be an ordinary table that
may be changed. Gives its schema and the table. -/
def beginAddColumn (schema : Option Name) (name : Name) : ParseM (String × Table) := do
  let db := (← read).db
  let wanted := schema.map (·.text)
  let some (sname, tbl) := db.locate? name.text wanted
    | throw (.plain ("no such table: " ++ (match wanted with
        | some s => s ++ "."
        | none => "") ++ name.text))
  if tbl.isVirtual then throw (.plain "virtual tables may not be altered")
  if tbl.isView then throw (.plain "Cannot add a column to a view")
  if tbl.name.toLower.startsWith "sqlite_" then
    throw (.plain ("table " ++ tbl.name ++ " may not be altered"))
  pure (sname, tbl)

/-- `ALTER TABLE …`, after `ALTER`. -/
def alter : ParseM Command := do
  let fuel ← fuel
  let _ ← expectWord "TABLE"
  let (schema, table) ← fullName
  let t ← peek
  if t.isWord "RENAME" then
    advance
    if ← acceptWord "TO" then
      let newName ← nm
      return .renameTable schema table newName
    let _ ← acceptWord "COLUMN"
    let old ← nmToken
    let _ ← expectWord "TO"
    let new ← nmToken
    return .renameColumn schema table old new
  if t.isWord "DROP" then
    advance
    let _ ← acceptWord "COLUMN"
    let col ← nmToken
    return .dropColumn schema table col
  if t.isWord "ADD" then
    let (sname, tbl) ← beginAddColumn schema table
    advance
    let _ ← acceptWord "COLUMN"
    let copy : Table :=
      { name := "sqlite_altertab_" ++ tbl.name, columns := tbl.columns }
    setDraft (some { schema := sname, table := copy })
    columnDefinition fuel
    let result ← match (← get).draft with
      | some d => pure (Command.addColumn sname tbl.name d)
      | none => pure Command.nothing
    setDraft none
    return result
  throw t.syntaxError

/-- The optional `TRANSACTION [name]` after a transaction word. -/
def transactionWord : ParseM Unit := do
  if ← acceptWord "TRANSACTION" then
    if (← peek).isNm && !(← peek).isWord "TO" then advance

/-- A number, perhaps signed, as a pragma's value. -/
def pragmaValue : ParseM String := do
  let t ← peek
  if t.isSymbol "-" || t.isSymbol "+" then
    advance
    let n ← peek
    if n.kind == .integer || n.kind == .float then
      advance
      return (if t.isSymbol "-" then "-" else "") ++ n.text
    throw n.syntaxError
  if t.kind == .integer || t.kind == .float then
    advance
    return t.text
  if t.isWord "ON" || t.isWord "DELETE" || t.isWord "DEFAULT" then
    advance
    return t.text
  return (← nm).text

/-- `PRAGMA …`, after `PRAGMA`. -/
def pragma : ParseM Command := do
  let first ← nmToken
  let (schema, name) ← if ← acceptSymbol "." then do
      let second ← nm
      pure (some first, second)
    else pure (none, first.toName)
  let value ← if ← acceptSymbol "=" then some <$> pragmaValue
    else if ← acceptSymbol "(" then do
      let v ← pragmaValue
      let _ ← expectSymbol ")"
      pure (some v)
    else pure none
  pure (.pragma schema name value)

/-- An optional name and schema, as after `ANALYZE` and `REINDEX`. -/
def optionalTarget : ParseM (Option Token × Option Token) := do
  let t ← peek
  if !t.isNm then return (none, none)
  advance
  if ← acceptSymbol "." then
    let second ← nmToken
    pure (some t, some second)
  else pure (some t, none)

/-- One statement, without the `;` that ends it. -/
def command : ParseM Command := do
  let fuel ← fuel
  let t ← peek
  if t.isWord "EXPLAIN" then
    advance
    if ← acceptWord "QUERY" then let _ ← expectWord "PLAN"
    let u ← peek
    if u.isWord "EXPLAIN" then throw u.syntaxError
    return .explain (← commandBody fuel)
  commandBody fuel
where
  /-- A statement that is not an `EXPLAIN`. -/
  commandBody (fuel : Nat) : ParseM Command := do
    let t ← peek
    if t.isWord "CREATE" then
      advance
      create t
    else if t.isWord "DROP" then
      advance
      drop
    else if t.isWord "ALTER" then
      advance
      alter
    else if t.isWord "BEGIN" then
      advance
      let kind ← if ← acceptWord "DEFERRED" then pure BeginKind.deferred
        else if ← acceptWord "IMMEDIATE" then pure .immediate
        else if ← acceptWord "EXCLUSIVE" then pure .exclusive
        else pure .deferred
      transactionWord
      pure (.begin kind)
    else if t.isWord "COMMIT" || t.isWord "END" then
      advance
      transactionWord
      pure .commit
    else if t.isWord "ROLLBACK" then
      advance
      let _ ← acceptWord "TRANSACTION"
      if (← peek).isNm && !(← peek).isWord "TO" then advance
      if ← acceptWord "TO" then
        let _ ← acceptWord "SAVEPOINT"
        pure (.rollback (some (← nm)))
      else pure (.rollback none)
    else if t.isWord "SAVEPOINT" then
      advance
      pure (.savepoint (← nm))
    else if t.isWord "RELEASE" then
      advance
      let _ ← acceptWord "SAVEPOINT"
      pure (.release (← nm))
    else if t.isWord "PRAGMA" then
      advance
      pragma
    else if t.isWord "VACUUM" then
      advance
      let u ← peek
      let schema ← if u.isNm && !u.isWord "INTO" then some <$> nmToken else pure none
      if ← acceptWord "INTO" then let _ ← ParseM.expr fuel 1
      pure (.vacuum schema)
    else if t.isWord "ANALYZE" then
      advance
      let (a, b) ← optionalTarget
      pure (.analyze a b)
    else if t.isWord "REINDEX" then
      advance
      let (a, b) ← optionalTarget
      pure (.reindex a b)
    else if t.isWord "ATTACH" then
      advance
      let _ ← acceptWord "DATABASE"
      let file ← ParseM.expr fuel 1
      let _ ← expectWord "AS"
      let name ← ParseM.expr fuel 1
      let key ← if ← acceptWord "KEY" then some <$> ParseM.expr fuel 1 else pure none
      pure (.attach file name key)
    else if t.isWord "DETACH" then
      advance
      let _ ← acceptWord "DATABASE"
      pure (.detach (← ParseM.expr fuel 1))
    else if t.isWord "WITH" then
      let (ctes, recursive) ← ParseM.withClause fuel
      pure (.dml (← dataStatement ctes recursive false))
    else if t.isWord "SELECT" || t.isWord "VALUES" || t.isWord "INSERT" ||
        t.isWord "REPLACE" || t.isWord "UPDATE" || t.isWord "DELETE" then
      pure (.dml (← dataStatement [] false false))
    else throw t.syntaxError

end ParseM

end Shipyard.Sql
