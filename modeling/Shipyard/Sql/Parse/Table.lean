import Shipyard.Sql.Parse.Query
/-!
# Reading table definitions

A `CREATE TABLE` builds its table while it is read, and checks it as it goes:

1. when the name has been read: the schema named must exist, the name may not start with
   `sqlite_`, and no table, view or index of the schema may have it (unless
   `IF NOT EXISTS`, which then reads the rest and makes nothing);
2. each column when its type has been read: its name must be new to the table;
3. each constraint as it is read: a second primary key, an `AUTOINCREMENT` that is not on an
   `INTEGER PRIMARY KEY`, a column list of a `PRIMARY KEY` or `UNIQUE` that names a column the
   table does not have (resolved here, so the message points at it), a foreign key whose
   column counts disagree, a default that is not constant, an unknown collation.

A `PRIMARY KEY` on one column declared `INTEGER` (not descending) makes that column the row
id; any other primary key, and every `UNIQUE`, makes an index named
`sqlite_autoindex_<table>_<n>`, unless an index of the same columns and collations exists.
The checks of `CHECK` constraints and of the table options wait for the end of the
statement.

`ALTER TABLE … ADD COLUMN` reads its column with the same machinery, on a copy of the table
that has no constraints of its own.
-/
namespace Shipyard.Sql

/-- The standard types. -/
def standardTypes : List String := ["ANY", "BLOB", "INT", "INTEGER", "REAL", "TEXT"]

/-- Whether a declared type is one of the standard types. -/
def isStandardType (type : String) : Bool := standardTypes.contains type

/-- A text without blanks at its end. -/
def dropTrailingBlanks (cs : List Char) : List Char := (cs.reverse.dropWhile isSpace).reverse

/-- A type with a trailing `GENERATED ALWAYS` taken off: those words are read as type words
when `AS` follows them. -/
def stripGenerated (type : String) : String :=
  let cs := type.toList
  let lower (xs : List Char) : String := (String.ofList xs).toLower
  if cs.length ≥ 16 && lower (cs.drop (cs.length - 6)) == "always" then
    let cs := dropTrailingBlanks (cs.take (cs.length - 6))
    if cs.length ≥ 9 && lower (cs.drop (cs.length - 9)) == "generated" then
      String.ofList (dropTrailingBlanks (cs.take (cs.length - 9)))
    else String.ofList cs
  else type

/-- The type a column keeps: a standard type in its own spelling, any other with its quotes
undone. -/
def columnType (written : String) : String :=
  let type := stripGenerated written
  let inner := match type.toList with
    | q :: rest =>
      if (q == '\'' || q == '"' || q == '`' || q == '[') && rest.length ≥ 1 then
        let body := rest.take (rest.length - 1)
        if body.any fun c => c == '\'' || c == '"' || c == '`' || c == '[' then type
        else String.ofList body
      else type
    | [] => type
  if type.length ≥ 3 then
    match standardTypes.find? (sameName · inner) with
    | some std => std
    | none => dequote inner
  else dequote type

/-- A column list with the last column changed. -/
def modifyLast (cs : List Column) (f : Column → Column) : List Column :=
  match cs.reverse with
  | c :: rest => (f c :: rest).reverse
  | [] => []

/-- A string used where a column name is wanted stands for that name. -/
def stringToId : Expr → Expr
  | .literal (.text s) => .column { text := s.toString, offset := 0, quoted := true }
  | .collate (.literal (.text s)) c => .collate (.column { text := s.toString, offset := 0, quoted := true }) c
  | e => e

/-- Whether an expression may stand as a default: constants, calls of functions over
constants, `true` and `false`; no names, parameters or subqueries. -/
def isDefaultConstant : Nat → Expr → Bool
  | 0, _ => false
  | fuel + 1, e => match e with
    | .literal _ | .integer _ _ | .float _ | .current _ => true
    | .column n => !n.quoted && (sameName n.text "true" || sameName n.text "false")
    | .unary _ a | .collate a _ | .cast a _ | .isNull a _ => isDefaultConstant fuel a
    | .binary _ a b => isDefaultConstant fuel a && isDefaultConstant fuel b
    | .between a l h _ =>
      isDefaultConstant fuel a && isDefaultConstant fuel l && isDefaultConstant fuel h
    | .like _ _ a p x => isDefaultConstant fuel a && isDefaultConstant fuel p &&
        (x.map (isDefaultConstant fuel)).getD true
    | .inList a items _ => isDefaultConstant fuel a && items.all (isDefaultConstant fuel)
    | .case o bs x => (o.map (isDefaultConstant fuel)).getD true &&
        bs.all (fun (.mk c r) => isDefaultConstant fuel c && isDefaultConstant fuel r) &&
        (x.map (isDefaultConstant fuel)).getD true
    | .call _ args _ _ _ | .vector args => args.all (isDefaultConstant fuel)
    | _ => false

namespace ParseM

/-- The name a `CONSTRAINT` clause gave, quotes undone. -/
def pendingName : ParseM (Option String) := do
  pure ((← get).constraintName.map fun t => t.toName.text)

/-- Changes the table being made, if there is one. -/
def withDraft (f : TableDraft → ParseM TableDraft) : ParseM Unit := do
  match (← get).draft with
  | some d => setDraft (some (← f d))
  | none => pure ()

/-- Resolves an expression against the table being made. -/
def resolveAtDraft (d : TableDraft) (place : Place) (e : Expr) : ParseM Expr := do
  let v : Visible :=
    { name := d.table.name, schema := d.schema, columns := d.table.columns.map (·.name),
      rowid := !d.withoutRowid }
  let env : Env := { db := (← read).db, scopes := [{ sources := [v] }], place }
  match ((resolveExpr 1000 e).run env).run {} with
  | .error err => throw err
  | .ok (r, st) => match st.pending with
    | some err => throw err
    | none => pure r

/-- Adds a column: its name must be new to the table. -/
def addColumn (name : Token) (type : String) : ParseM Unit :=
  withDraft fun d => do
    if d.table.columns.length + 1 > 2000 then
      throw (.plain ("too many columns on " ++ d.table.name))
    let n := name.toName.text
    if d.table.columns.any (sameName ·.name n) then
      throw (.plain ("duplicate column name: " ++ n))
    modify fun s => { s with constraintName := none }
    let col : Column := { name := n, type := columnType type }
    pure { d with table := { d.table with columns := d.table.columns ++ [col] } }

/-- Marks the last column `NOT NULL`. -/
def addNotNull (conflict : Option Conflict) : ParseM Unit :=
  withDraft fun d => pure { d with table := { d.table with
    columns := modifyLast d.table.columns fun c =>
      { c with notNull := true, notNullConflict := conflict } } }

/-- Makes a column part of the primary key; a generated column may not be. -/
def markPrimaryKey (d : TableDraft) (i : Nat) : ParseM TableDraft := do
  match d.table.columns[i]? with
  | some c =>
    if c.generated.isSome then
      throw (.plain "generated columns cannot be part of the PRIMARY KEY")
    pure { d with table := { d.table with
      columns := d.table.columns.set i { c with primaryKey := true } } }
  | none => pure d

/-- An index that a `PRIMARY KEY` or `UNIQUE` constraint makes: over the last column when no
list is given. Its terms must be columns of the table; an index of the same columns and
collations already made takes its place. -/
def constraintIndex (terms : Option (List Term)) (conflict : Option Conflict)
    (origin : IndexOrigin) (descending : Bool) : ParseM Unit :=
  withDraft fun d => do
    match terms with
    | some ts =>
      match ts.find? fun (.mk _ _ n) => n.isSome with
      | some (.mk _ _ n) =>
        throw (.plain ("unsupported use of NULLS " ++ (if n == some true then "FIRST" else "LAST")))
      | none => pure ()
    | none => pure ()
    let mut d := d
    let keys ← match terms with
      | none =>
        let i := d.table.columns.length - 1
        let c := d.table.columns.getLast?.getD default
        d := { d with table := { d.table with
          columns := modifyLast d.table.columns fun c => { c with unique := true } } }
        let key : IndexKey :=
          { column := some i, expr := .bound 0 0 (some i), collation := c.collation,
            descending }
        pure [key]
      | some ts => ts.mapM fun (.mk e desc _) => do
        let e := stringToId e
        let r ← resolveAtDraft d .index e
        match skipCollate 64 r with
        | .bound 0 0 col =>
          let j := match col with
            | some j => some j
            | none => d.table.rowidAlias
          let coll ← match e with
            | .collate _ c => match Collation.ofName? c with
              | some k => pure k
              | none => throw (.plain ("no such collation sequence: " ++ c))
            | _ => pure (match j with
              | some j => (d.table.columns[j]?.map (·.collation)).getD .binary
              | none => .binary)
          pure ({ column := j, expr := r, collation := coll, descending := desc } : IndexKey)
        | _ => throw (.plain "expressions prohibited in PRIMARY KEY and UNIQUE constraints")
    let same (i : Index) : Bool := i.keys.length == keys.length &&
      (i.keys.zip keys).all fun (a, b) => a.column == b.column && a.collation == b.collation
    match d.indexes.find? same with
    | some old =>
      if old.onConflict.isSome && conflict.isSome && old.onConflict != conflict then
        throw (.plain "conflicting ON CONFLICT clauses specified")
      let merged := { old with
        onConflict := old.onConflict.orElse (fun _ => conflict)
        origin := if origin == .primaryKey then .primaryKey else old.origin }
      pure { d with indexes := d.indexes.map fun i => if i.name == old.name then merged else i }
    | none =>
      let name := "sqlite_autoindex_" ++ d.table.name ++ "_" ++ toString (d.indexes.length + 1)
      pure { d with indexes := d.indexes ++
        [{ name, table := d.table.name, keys, unique := true, origin, onConflict := conflict }] }

/-- A `PRIMARY KEY`: of the last column when no list is given. -/
def addPrimaryKey (terms : Option (List Term)) (conflict : Option Conflict) (auto : Bool)
    (descending : Bool) : ParseM Unit := do
  let some d := (← get).draft | return
  if d.table.hasPrimaryKey then
    throw (.plain ("table \"" ++ d.table.name ++ "\" has more than one primary key"))
  let mut d := { d with table := { d.table with hasPrimaryKey := true } }
  let mut found : Option Nat := none
  let mut count := 1
  match terms with
  | none =>
    let i := d.table.columns.length - 1
    d ← markPrimaryKey d i
    found := some i
  | some ts =>
    count := ts.length
    for .mk e _ _ in ts do
      match skipCollate 64 (stringToId e) with
      | .column n =>
        match d.table.columnIndex? n.text with
        | some i =>
          d ← markPrimaryKey d i
          found := some i
        | none => pure ()
      | _ => pure ()
  let isInteger := match found with
    | some i => (d.table.columns[i]?.map (·.type == "INTEGER")).getD false
    | none => false
  if count == 1 && isInteger && !descending then
    let table := { d.table with rowidAlias := found, keyConflict := conflict,
                                autoincrement := auto }
    setDraft (some { d with table })
  else if auto then
    throw (.plain "AUTOINCREMENT is only allowed on an INTEGER PRIMARY KEY")
  else
    setDraft (some d)
    constraintIndex terms conflict .primaryKey descending

/-- A `CHECK` constraint: named by the `CONSTRAINT` before it, or by its text (with the quotes
of a leading quoted part undone). -/
def addCheck (e : Expr) (openTok closeTok : Token) : ParseM Unit := do
  let name ← match ← pendingName with
    | some n => pure n
    | none => do
      let text ← textBetween (openTok.index + 1) closeTok.index
      pure (dequote text)
  withDraft fun d => pure { d with table := { d.table with
    checks := d.table.checks ++ [{ name, expr := e }] } }

/-- A foreign key: from the last column when no list is given. -/
def addForeignKey (from? : Option (List Name)) (parent : Token) (toCols : List Name)
    (actions : FkAction × FkAction) : ParseM Unit :=
  withDraft fun d => do
    let cols ← match from? with
      | none =>
        let last := (d.table.columns.getLast?.map (·.name)).getD ""
        if toCols.length > 1 then
          throw (.atOffset ("foreign key on " ++ last ++
            " should reference only one column of table " ++ parent.text) parent.offset)
        pure [last]
      | some fs =>
        if !toCols.isEmpty && toCols.length != fs.length then
          throw (.plain ("number of columns in foreign key does not match the number of " ++
            "columns in the referenced table"))
        fs.mapM fun f => match d.table.columnIndex? f.text with
          | some i => pure ((d.table.columns[i]?.map (·.name)).getD f.text)
          | none => throw (.plain ("unknown column \"" ++ f.text ++ "\" in foreign key definition"))
    let fk : ForeignKey :=
      { columns := cols, parent := parent.toName.text, parentColumns := toCols.map (·.text),
        onDelete := actions.1, onUpdate := actions.2 }
    pure { d with table := { d.table with foreignKeys := d.table.foreignKeys ++ [fk] } }

/-- Sets whether the last foreign key waits for the commit. -/
def deferLastKey (deferred : Bool) : ParseM Unit :=
  withDraft fun d => pure { d with table := { d.table with
    foreignKeys := match d.table.foreignKeys.reverse with
      | k :: rest => ({ k with deferred } :: rest).reverse
      | [] => [] } }

/-- A collation of the last column; an index already made on that column takes it too. -/
def addCollation (name : String) : ParseM Unit :=
  withDraft fun d => do
    let some coll := Collation.ofName? name
      | throw (.plain ("no such collation sequence: " ++ name))
    let i := d.table.columns.length - 1
    let indexes := d.indexes.map fun ix => match ix.keys with
      | [k] => if k.column == some i then { ix with keys := [{ k with collation := coll }] } else ix
      | _ => ix
    pure { d with indexes, table := { d.table with
      columns := modifyLast d.table.columns fun c => { c with collation := coll } } }

/-- A default of the last column: constant, and not on a generated column. -/
def addDefault (e : Expr) (text : String) : ParseM Unit :=
  withDraft fun d => do
    let some c := d.table.columns.getLast? | pure d
    if !isDefaultConstant 1000 e then
      throw (.plain ("default value of column [" ++ c.name ++ "] is not constant"))
    if c.generated.isSome then throw (.plain "cannot use DEFAULT on a generated column")
    pure { d with table := { d.table with
      columns := modifyLast d.table.columns fun c =>
        { c with default := some e, defaultText := some text } } }

/-- The last column is generated by an expression, stored or not. -/
def addGenerated (e : Expr) (kind : Option Token) : ParseM Unit :=
  withDraft fun d => do
    let some c := d.table.columns.getLast? | pure d
    let bad : SqlError := .plain ("error in generated column \"" ++ c.name ++ "\"")
    if c.default.isSome then throw bad
    let stored ← match kind with
      | none => pure false
      | some t =>
        if t.text.toLower == "virtual" then pure false
        else if t.text.toLower == "stored" then pure true
        else throw bad
    if c.primaryKey then throw (.plain "generated columns cannot be part of the PRIMARY KEY")
    let e := match e with
      | .column _ => Expr.unary .pos e
      | _ => e
    pure { d with table := { d.table with
      columns := modifyLast d.table.columns fun c => { c with generated := some e, stored } } }

/-- `ON CONFLICT` and what it does, if written. -/
def conflictClause : ParseM (Option Conflict) := do
  if !(← acceptWord "ON") then return none
  let _ ← expectWord "CONFLICT"
  let t ← peek
  let c ← if t.isWord "ROLLBACK" then pure Conflict.rollback
    else if t.isWord "ABORT" then pure .abort
    else if t.isWord "FAIL" then pure .fail
    else if t.isWord "IGNORE" then pure .ignore
    else if t.isWord "REPLACE" then pure .replace
    else throw t.syntaxError
  advance
  pure (some c)

/-- What a foreign key does on a change of its parent. -/
def fkAction : ParseM FkAction := do
  let t ← peek
  if t.isWord "SET" then
    advance
    if ← acceptWord "NULL" then return .setNull
    let _ ← expectWord "DEFAULT"
    return .setDefault
  if t.isWord "CASCADE" then advance; return .cascade
  if t.isWord "RESTRICT" then advance; return .restrict
  if t.isWord "NO" then
    advance
    let _ ← expectWord "ACTION"
    return .noAction
  throw t.syntaxError

/-- The clauses after `REFERENCES`: `ON DELETE`, `ON UPDATE`, `ON INSERT` and `MATCH`. -/
def fkClauses : ParseM (FkAction × FkAction) := do
  let mut onDelete := FkAction.noAction
  let mut onUpdate := FkAction.noAction
  for _ in [0:(← read).tokens.size] do
    let t ← peek
    if t.isWord "MATCH" then
      advance
      let _ ← nm
    else if t.isWord "ON" then
      advance
      let u ← peek
      if u.isWord "DELETE" then
        advance
        onDelete ← fkAction
      else if u.isWord "UPDATE" then
        advance
        onUpdate ← fkAction
      else if u.isWord "INSERT" then
        advance
        let _ ← fkAction
      else throw u.syntaxError
    else break
  pure (onDelete, onUpdate)

/-- `[NOT] DEFERRABLE [INITIALLY DEFERRED | INITIALLY IMMEDIATE]`: whether the check waits for
the commit. -/
def deferClause : ParseM Bool := do
  let negated ← acceptWord "NOT"
  let _ ← expectWord "DEFERRABLE"
  let mut deferred := false
  if ← acceptWord "INITIALLY" then
    if ← acceptWord "DEFERRED" then deferred := true
    else let _ ← expectWord "IMMEDIATE"
  pure (!negated && deferred)

/-- `IF NOT EXISTS`, if written. -/
def ifNotExists : ParseM Bool := do
  if (← peek).isWord "IF" then
    advance
    let _ ← expectWord "NOT"
    let _ ← expectWord "EXISTS"
    pure true
  else pure false

/-- The term of a `DEFAULT` clause without parentheses. -/
def defaultTerm : ParseM Expr := do
  let t ← peek
  match t.kind with
  | .string => advance; pure (.literal (.text (dequote t.text)))
  | .integer => advance; pure (.integer t.text t.offset)
  | .float => advance; pure (.float t.text)
  | .blob =>
    advance
    pure (.literal (.blob (hexBytes ((t.text.toList.drop 2).take (t.text.length - 3)))))
  | .separated =>
    advance
    match separatedNumber t with
    | .ok e => pure e
    | .error e => throw e
  | _ =>
    if t.isWord "NULL" then advance; pure (.literal .null)
    else if t.isOneOf currentWords then advance; pure (.current t.upper)
    else throw t.syntaxError

/-- A `DEFAULT` clause, with the text of its value as written: what stands inside the
parentheses, or the sign and the term after it. -/
def defaultClause (fuel : Nat) : ParseM Unit := do
  let t ← peek
  let (e, text) ← if t.isSymbol "(" then do
      advance
      let e ← ParseM.expr fuel 1
      let close ← peek
      let _ ← expectSymbol ")"
      pure (e, ← textBetween (t.index + 1) close.index)
    else if t.isSymbol "+" || t.isSymbol "-" then do
      advance
      let term ← peek
      let e ← defaultTerm
      let text ← textBetween t.index (term.index + term.text.length)
      pure (if t.isSymbol "-" then Expr.unary .neg e else e, text)
    else if t.isId && !(t.isOneOf currentWords) then do
      advance
      let n := t.toName
      if !n.quoted && (sameName n.text "true" || sameName n.text "false") then
        pure (Expr.column n, t.text)
      else pure (Expr.literal (.text n.text), t.text)
    else do
      let e ← defaultTerm
      pure (e, t.text)
  addDefault e text

/-- The constraints of a column, as many as follow. -/
def columnConstraints (fuel : Nat) : ParseM Unit := do
  for _ in [0:(← read).tokens.size] do
    let t ← peek
    if t.isWord "CONSTRAINT" then
      advance
      let n ← nmToken
      modify fun s => { s with constraintName := some n }
    else if t.isWord "DEFAULT" then
      advance
      defaultClause fuel
    else if t.isWord "NULL" then
      advance
      let _ ← conflictClause
    else if t.isWord "NOT" then
      if (← lookAt 1).isWord "DEFERRABLE" then
        deferLastKey (← deferClause)
      else
        advance
        let _ ← expectWord "NULL"
        addNotNull (← conflictClause)
    else if t.isWord "PRIMARY" then
      advance
      let _ ← expectWord "KEY"
      let descending ← if ← acceptWord "DESC" then pure true
        else do let _ ← acceptWord "ASC"; pure false
      let conflict ← conflictClause
      let auto ← acceptWord "AUTOINCREMENT"
      addPrimaryKey none conflict auto descending
    else if t.isWord "UNIQUE" then
      advance
      constraintIndex none (← conflictClause) .unique false
    else if t.isWord "CHECK" then
      advance
      let openTok ← expectSymbol "("
      let e ← ParseM.expr fuel 1
      let closeTok ← expectSymbol ")"
      let _ ← conflictClause
      addCheck e openTok closeTok
    else if t.isWord "REFERENCES" then
      advance
      let parent ← nmToken
      let cols ← if ← acceptSymbol "(" then ParseM.columnNames fuel else pure []
      let actions ← fkClauses
      addForeignKey none parent cols actions
    else if t.isWord "DEFERRABLE" then
      deferLastKey (← deferClause)
    else if t.isWord "COLLATE" then
      advance
      addCollation (← typeWord)
    else if t.isWord "GENERATED" || t.isWord "AS" then
      if t.isWord "GENERATED" then
        advance
        let _ ← expectWord "ALWAYS"
      let _ ← expectWord "AS"
      let _ ← expectSymbol "("
      let e ← ParseM.expr fuel 1
      let _ ← expectSymbol ")"
      let kind ← if (← peek).isPlainId then some <$> next else pure none
      addGenerated e kind
    else break

/-- A column definition: name, type, constraints. -/
def columnDefinition (fuel : Nat) : ParseM Unit := do
  let name ← nmToken
  let type ← typeToken
  checkBefore (fun t => t.isSymbol "," || t.isSymbol ")" || t.endsStatement ||
      t.isOneOf ["CONSTRAINT", "DEFAULT", "NULL", "NOT", "PRIMARY", "UNIQUE", "CHECK",
        "REFERENCES", "DEFERRABLE", "COLLATE", "GENERATED", "AS"])
    (addColumn name type)
  columnConstraints fuel

/-- Whether a token starts a table constraint. -/
def startsTableConstraint (t : Token) : Bool :=
  t.isOneOf ["CONSTRAINT", "PRIMARY", "UNIQUE", "CHECK", "FOREIGN"]

/-- One table constraint. -/
def tableConstraint (fuel : Nat) : ParseM Unit := do
  let t ← peek
  if t.isWord "CONSTRAINT" then
    advance
    let n ← nmToken
    modify fun s => { s with constraintName := some n }
  else if t.isWord "PRIMARY" then
    advance
    let _ ← expectWord "KEY"
    let _ ← expectSymbol "("
    let terms ← ParseM.terms fuel
    let auto ← acceptWord "AUTOINCREMENT"
    let _ ← expectSymbol ")"
    let conflict ← conflictClause
    addPrimaryKey (some terms) conflict auto false
  else if t.isWord "UNIQUE" then
    advance
    let _ ← expectSymbol "("
    let terms ← ParseM.terms fuel
    let _ ← expectSymbol ")"
    constraintIndex (some terms) (← conflictClause) .unique false
  else if t.isWord "CHECK" then
    advance
    let openTok ← expectSymbol "("
    let e ← ParseM.expr fuel 1
    let closeTok ← expectSymbol ")"
    let _ ← conflictClause
    addCheck e openTok closeTok
  else if t.isWord "FOREIGN" then
    advance
    let _ ← expectWord "KEY"
    let _ ← expectSymbol "("
    let fromCols ← ParseM.columnNames fuel
    let _ ← expectWord "REFERENCES"
    let parent ← nmToken
    let toCols ← if ← acceptSymbol "(" then ParseM.columnNames fuel else pure []
    let actions ← fkClauses
    addForeignKey (some fromCols) parent toCols actions
    let u ← peek
    if u.isWord "DEFERRABLE" || (u.isWord "NOT" && (← lookAt 1).isWord "DEFERRABLE") then
      deferLastKey (← deferClause)
  else throw t.syntaxError

/-- The columns and constraints between the parentheses of a `CREATE TABLE`, and the closing
parenthesis. -/
def tableElements (fuel : Nat) : ParseM Unit := do
  columnDefinition fuel
  let size := (← read).tokens.size
  let mut constraints := false
  for _ in [0:size] do
    if !(← peek).isSymbol "," then break
    advance
    if startsTableConstraint (← peek) then
      constraints := true
      break
    columnDefinition fuel
  if constraints then
    tableConstraint fuel
    for _ in [0:size] do
      let t ← peek
      if t.isSymbol "," then
        advance
        modify fun s => { s with constraintName := none }
        tableConstraint fuel
      else if startsTableConstraint t then tableConstraint fuel
      else break
  let _ ← expectSymbol ")"

/-- The options after a table's definition: `WITHOUT ROWID` and `STRICT`. -/
def tableOptions : ParseM Unit := do
  let size := (← read).tokens.size
  let t ← peek
  if !(t.isWord "WITHOUT" || t.isNm) || t.endsStatement then return
  for _ in [0:size] do
    let t ← peek
    if t.isWord "WITHOUT" then
      advance
      let n ← nmToken
      if sameName n.toName.text "rowid" then
        withDraft fun d => pure { d with withoutRowid := true }
      else throw (.plain ("unknown table option: " ++ n.text))
    else
      let n ← nmToken
      if sameName n.toName.text "strict" then
        withDraft fun d => pure { d with strict := true }
      else throw (.plain ("unknown table option: " ++ n.text))
    if !(← acceptSymbol ",") then break

/-- The checks made when a table's (or view's) name has been read: the schema it goes into,
or none when `IF NOT EXISTS` finds one of the name. -/
def startTable (temp : Bool) (schemaTok : Option Token) (nameTok : Token) (ifNotExists : Bool) :
    ParseM (Option String) := do
  let db := (← read).db
  let schema ← match schemaTok with
    | some s =>
      match db.schema? s.toName.text with
      | none => throw (.atOffset ("unknown database " ++ s.text) s.offset)
      | some sc =>
        if temp && !sameName sc.name "temp" then
          throw (.plain "temporary table name must be unqualified")
        pure sc.name
    | none => pure (if temp then "temp" else "main")
  let name := nameTok.toName.text
  if name.toLower.startsWith "sqlite_" then
    throw (.plain ("object name reserved for internal use: " ++ name))
  match db.table? name (some schema) with
  | some (_, t) =>
    if ifNotExists then return none
    throw (.atOffset ((if t.isView then "view " else "table ") ++ nameTok.text ++
      " already exists") nameTok.offset)
  | none => pure ()
  if (db.index? name (some schema)).isSome then
    throw (.plain ("there is already an index named " ++ name))
  return some schema

/-- A schema-qualified name: its schema token, if any, and its name token. -/
def qualifiedName : ParseM (Option Token × Token) := do
  let first ← nmToken
  if ← acceptSymbol "." then
    let second ← nmToken
    pure (some first, second)
  else pure (none, first)

/-- `CREATE [TEMP] TABLE`, after `TABLE`. -/
def createTable (temp : Bool) (start : Token) : ParseM Command := do
  let fuel ← fuel
  let skipIfExists ← ifNotExists
  let (schemaTok, nameTok) ← qualifiedName
  let target ← checkBefore (fun t => t.isSymbol "(" || t.isWord "AS")
    (startTable temp schemaTok nameTok skipIfExists)
  let draft : Option TableDraft := target.map fun schema =>
    { schema, table := { name := nameTok.toName.text, columns := [] } }
  setDraft draft
  if ← acceptWord "AS" then
    let q ← ParseM.select fuel
    withDraft fun d => pure { d with query := some q }
  else
    let _ ← expectSymbol "("
    tableElements fuel
    tableOptions
  let stop := (← get).lastEnd
  let text := String.ofList ((← read).chars.extract start.index stop).toList
  let result ← match (← get).draft with
    | some d => pure (Command.createTable { d with sql := text })
    | none => pure Command.nothing
  setDraft none
  pure result

end ParseM

end Shipyard.Sql
