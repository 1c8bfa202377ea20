import Shipyard.Sql.Define
/-!
# Connections

A connection holds the database, the transaction in progress if any, and its switches. Each
statement runs whole or not at all: when it fails its changes are undone, except that a `FAIL`
keeps the rows written before the failure and a `ROLLBACK` also ends the transaction. At the
end of a statement the foreign keys that do not wait must not have more violations than before
it; those that wait (`DEFERRABLE INITIALLY DEFERRED`, or all under `defer_foreign_keys`) are
counted when the transaction commits, or at the end of a statement outside a transaction.

A text of several statements runs them in order until one fails. Each statement is read from
where the last one ended, so a failure that points into the text counts its offset from there,
and reports the text from there on.
-/
namespace Shipyard.Sql

/-- A transaction in progress: the database when it began, its savepoints with the database
when each was made (the newest first), whether a `SAVEPOINT` began it, and the violations of
waiting keys when it began. -/
structure Transaction where
  start : Database
  savepoints : List (String × Database) := []
  bySavepoint : Bool := false
  waitingAtStart : Nat := 0
  deriving Inhabited

/-- A connection: the state statements run against, the transaction in progress, and its
switches. -/
structure Connection where
  exec : Exec
  txn : Option Transaction := none
  deferKeys : Bool := false
  /-- Whether the temporary schema has held an object, which makes it a database to detach. -/
  tempOpened : Bool := false
  /-- Whether the database file is in write-ahead mode. -/
  wal : Bool := false
  deriving Inhabited

/-- The failure of a foreign key. -/
def foreignKeyFailure : SqlError :=
  { message := "FOREIGN KEY constraint failed", code := SqlError.foreignKeyCode }

namespace Connection

/-- A connection to a database with the given main schema and nothing else. -/
def openOn (main : Schema) (wal : Bool) : Connection :=
  { exec := { db := { schemas := [{ main with name := "main" }, { name := "temp" }] } }, wal }

/-- The violations of the keys that wait for the commit. -/
def waiting (c : Connection) (db : Database) : Nat :=
  if !c.exec.foreignKeys then 0 else keyViolations db fun k => k.deferred || c.deferKeys

/-- The violations of the keys checked at the end of each statement. -/
def immediate (c : Connection) (db : Database) : Nat :=
  if !c.exec.foreignKeys || c.deferKeys then 0 else keyViolations db fun k => !k.deferred

/-- Runs a statement's work: kept when it succeeds and keeps the keys, undone when it fails
(save as `FAIL` and `ROLLBACK` say). -/
def runExec (c : Connection) (m : ExecM Unit) : Connection × Option SqlError :=
  let before := c.exec
  let imm := c.immediate before.db
  let wait := c.waiting before.db
  let (r, st) := (m.run).run before
  match r with
  | .ok () =>
    if c.immediate st.db > imm then (c, some foreignKeyFailure)
    else if c.txn.isNone && c.waiting st.db > wait then (c, some foreignKeyFailure)
    else
      let temp := (st.db.schema? "temp").map fun s => !s.catalog.isEmpty
      ({ c with exec := st, tempOpened := c.tempOpened || temp.getD false }, none)
  | .error e =>
    if e.rollback then
      match c.txn with
      | some t => ({ c with exec := { before with db := t.start }, txn := none }, some e)
      | none => (c, some e)
    else if e.keep then ({ c with exec := { st with call := before.call } }, some e)
    else (c, some e)

/-- The work of a statement that runs against the database. -/
def work (cmd : Command) : ExecM Unit := do
  match cmd with
  | .createTable d => createTable d
  | .createIndex s n t k u e f sql => createIndex s n t k u e f sql
  | .createView temp s n cols q e p sql => createView temp s n cols q e p sql
  | .createTrigger s tr sql => createTrigger s tr sql
  | .createVirtual d m args => createVirtual d m args
  | .dropTable s n e v => dropTable s n e v
  | .dropIndex s n e => dropIndex s n e
  | .dropTrigger s n e => dropTrigger s n e
  | .renameTable s t n => renameTable s t n
  | .addColumn s t d => addColumn s t d
  | .renameColumn s t o n => renameColumn s t o n
  | .dropColumn s t c => dropColumn s t c
  | .dml d =>
    let st ← get
    let p ← liftExcept (prepareDml st.db st.foreignKeys d)
    modify fun st => { st with changed := 0 }
    match p with
    | .select q => let _ ← selectFirst q
    | _ => runPlan 10000 [] [] p
    match p with
    | .select _ => pure ()
    | _ => modify fun st => { st with
        call := { st.call with changes := st.changed,
                               totalChanges := st.call.totalChanges + st.changed } }
  | .analyze a b => analyze a b
  | .reindex a b => reindex a b
  | .explain (.dml d) =>
    let st ← get
    let _ ← liftExcept (prepareDml st.db st.foreignKeys d)
  | _ => pure ()

/-- The text that an `ATTACH` or `DETACH` operand stands for: a bare name is its own text. -/
def operandText (c : Connection) (e : Expr) : Except SqlError String := do
  match e with
  | .column n => pure n.text
  | _ =>
    let r ← runResolve { db := c.exec.db } (resolveExpr exprFuel e)
    let v ← evalExpr exprFuel { db := c.exec.db, call := c.exec.call } r
    pure ((v.text?).getD "")

/-- The 32-bit integer a pragma's value gives: decimal digits after an optional sign, or
hexadecimal digits after `0x`, read as far as they go; zero when there are none or the number
does not fit. -/
def int32Of (v : String) : Int :=
  let hexValue (c : Char) : Nat :=
    if c.isDigit then c.toNat - 48 else if 'a' ≤ c && c ≤ 'f' then c.toNat - 87 else c.toNat - 55
  let isHex (c : Char) : Bool := c.isDigit || ('a' ≤ c && c ≤ 'f') || ('A' ≤ c && c ≤ 'F')
  match v.toList with
  | '0' :: x :: h :: rest =>
    if (x == 'x' || x == 'X') && isHex h then
      let ds := ((h :: rest).dropWhile (· == '0'))
      let digits := ds.takeWhile isHex
      let n := (digits.take 8).foldl (fun acc c => acc * 16 + hexValue c) 0
      if digits.length > 8 || n ≥ 2147483648 then 0 else n
    else decimal false ('0' :: x :: h :: rest)
  | '-' :: rest => decimal true rest
  | '+' :: rest => decimal false rest
  | cs => decimal false cs
where
  decimal (negative : Bool) (cs : List Char) : Int :=
    match cs with
    | c :: _ =>
      if !c.isDigit then 0 else
        let digits := (cs.dropWhile (· == '0')).takeWhile Char.isDigit
        let n : Int := (digits.take 11).foldl (fun acc d => acc * 10 + (d.toNat - 48)) 0
        if digits.length > 10 || n - (if negative then 1 else 0) > 2147483647 then 0
        else if negative then -n else n
    | [] => 0

/-- The number at the start of a pragma's value that starts with a digit, if it fits in 32
bits: hexadecimal digits after `0x` (eight at most), else decimal digits (leading zeros apart,
ten at most). Whatever follows the digits is ignored. -/
def leadingInt32? (v : String) : Option Nat :=
  match v.toList with
  | '0' :: x :: h :: rest =>
    if (x == 'x' || x == 'X') && h.isHexDigit then
      let ds := ((h :: rest).dropWhile (· == '0')).takeWhile Char.isHexDigit
      let n := ds.foldl (fun a d => a * 16 + hexDigitValue d) 0
      if ds.length > 8 || n ≥ 2147483648 then none else some n
    else decimal v.toList
  | cs => decimal cs
where
  decimal (cs : List Char) : Option Nat :=
    let ds := (cs.dropWhile (· == '0')).takeWhile Char.isDigit
    let n := ds.foldl (fun a d => a * 10 + (d.toNat - 48)) 0
    if ds.length > 10 || n > 2147483647 then none else some n

/-- Whether a pragma's value turns a switch on: `on`, `yes` or `true` in any case, or a value
starting with a digit whose number has a low byte other than zero. -/
def switchOn (v : String) : Bool :=
  match v.toList with
  | c :: _ =>
    if c.isDigit then ((leadingInt32? v).getD 0) % 256 != 0
    else ["on", "yes", "true"].contains v.toLower
  | [] => false

/-- A `PRAGMA`: the switches it sets, and the journal mode, which cannot enter or leave
write-ahead mode inside a transaction. -/
def pragma (c : Connection) (schema : Option Token) (name : Name) (value : Option String) :
    Connection × Option SqlError :=
  match schema.bind fun s => if (c.exec.db.schema? s.toName.text).isNone then some s else none with
  | some s => (c, some (.atOffset ("unknown database " ++ s.text) s.offset))
  | none =>
    let target (s : Option Token) : String := (s.map (·.toName.text)).getD "main"
    match name.text.toLower, value with
    | "foreign_keys", some v =>
      if c.txn.isSome then (c, none)
      else ({ c with exec := { c.exec with foreignKeys := switchOn v } }, none)
    | "defer_foreign_keys", some v => ({ c with deferKeys := switchOn v }, none)
    | "recursive_triggers", some v =>
      ({ c with exec := { c.exec with recursiveTriggers := switchOn v } }, none)
    | "case_sensitive_like", some v =>
      ({ c with exec := { c.exec with call := { c.exec.call with
        caseSensitiveLike := switchOn v } } }, none)
    | "ignore_check_constraints", some v =>
      ({ c with exec := { c.exec with ignoreChecks := switchOn v } }, none)
    | "user_version", some v =>
      let db := c.exec.db.modifySchema (target schema) fun s => { s with userVersion := int32Of v }
      ({ c with exec := { c.exec with db } }, none)
    | "application_id", some v =>
      let db := c.exec.db.modifySchema (target schema) fun s =>
        { s with applicationId := int32Of v }
      ({ c with exec := { c.exec with db } }, none)
    | "journal_mode", some v =>
      let toWal := v.toLower == "wal"
      let known := ["delete", "truncate", "persist", "memory", "off", "wal"].contains v.toLower
      if !known || toWal == c.wal then (c, none)
      else if c.txn.isSome then
        (c, some (.plain ("cannot change " ++ (if toWal then "into" else "out of") ++
          " wal mode from within a transaction")))
      else ({ c with wal := toWal }, none)
    | _, _ => (c, none)

/-- Runs one statement on the connection. -/
def run (c : Connection) (cmd : Command) : Connection × Option SqlError :=
  let noSavepoint (n : Name) : SqlError := .plain ("no such savepoint: " ++ n.text)
  match cmd with
  | .nothing => (c, none)
  | .begin _ => match c.txn with
    | some _ => (c, some (.plain "cannot start a transaction within a transaction"))
    | none => ({ c with txn := some { start := c.exec.db, waitingAtStart := c.waiting c.exec.db } },
        none)
  | .commit => match c.txn with
    | none => (c, some (.plain "cannot commit - no transaction is active"))
    | some t =>
      if c.waiting c.exec.db > t.waitingAtStart then (c, some foreignKeyFailure)
      else ({ c with txn := none }, none)
  | .rollback none => match c.txn with
    | none => (c, some (.plain "cannot rollback - no transaction is active"))
    | some t => ({ c with txn := none, exec := { c.exec with db := t.start } }, none)
  | .rollback (some n) => match c.txn with
    | none => (c, some (noSavepoint n))
    | some t => match t.savepoints.findIdx? fun (m, _) => sameName m n.text with
      | none => (c, some (noSavepoint n))
      | some i =>
        let saved := ((t.savepoints[i]?).map (·.2)).getD c.exec.db
        ({ c with exec := { c.exec with db := saved },
                  txn := some { t with savepoints := t.savepoints.drop i } }, none)
  | .savepoint n => match c.txn with
    | none => ({ c with txn := some { start := c.exec.db, savepoints := [(n.text, c.exec.db)],
                                      bySavepoint := true,
                                      waitingAtStart := c.waiting c.exec.db } }, none)
    | some t => ({ c with txn := some { t with savepoints := (n.text, c.exec.db) :: t.savepoints } },
        none)
  | .release n => match c.txn with
    | none => (c, some (noSavepoint n))
    | some t => match t.savepoints.findIdx? fun (m, _) => sameName m n.text with
      | none => (c, some (noSavepoint n))
      | some i =>
        let rest := t.savepoints.drop (i + 1)
        if rest.isEmpty && t.bySavepoint then
          if c.waiting c.exec.db > t.waitingAtStart then (c, some foreignKeyFailure)
          else ({ c with txn := none }, none)
        else ({ c with txn := some { t with savepoints := rest } }, none)
  | .pragma schema name value => c.pragma schema name value
  | .vacuum schema =>
    match schema with
    | some s =>
      match c.exec.db.schema? s.toName.text with
      | none => (c, some (.atOffset ("unknown database " ++ s.text) s.offset))
      | some sc =>
        if sameName sc.name "temp" then (c, none)
        else if c.txn.isSome then (c, some (.plain "cannot VACUUM from within a transaction"))
        else (c, none)
    | none =>
      if c.txn.isSome then (c, some (.plain "cannot VACUUM from within a transaction"))
      else (c, none)
  | .attach file name _ =>
    match c.operandText file, c.operandText name with
    | .error e, _ | _, .error e => (c, some e)
    | .ok _, .ok n =>
      let db := c.exec.db
      if db.schemas.length ≥ 12 then (c, some (.plain "too many attached databases - max 10"))
      else if db.schemas.any (sameName ·.name n) then
        (c, some (.plain ("database " ++ n ++ " is already in use")))
      else ({ c with exec := { c.exec with db := { db with schemas := db.schemas ++ [{ name := n }] } } },
        none)
  | .detach name =>
    match c.operandText name with
    | .error e => (c, some e)
    | .ok n =>
      let db := c.exec.db
      match db.schemas.findIdx? (sameName ·.name n) with
      | none => (c, some (.plain ("no such database: " ++ n)))
      | some 0 => (c, some (.plain ("cannot detach database " ++ n)))
      | some 1 =>
        if c.tempOpened then (c, some (.plain ("cannot detach database " ++ n)))
        else (c, some (.plain ("no such database: " ++ n)))
      | some i => ({ c with exec := { c.exec with db := { db with schemas := db.schemas.eraseIdx i } } },
          none)
  | other => c.runExec (work other)

end Connection

/-- The next statement of a text: none when only blanks, comments and `;` are left; else the
statement and how many characters it takes with the `;` that ends it. -/
def nextStatement (db : Database) (text : String) : Except SqlError (Option (Command × Nat)) :=
  let cs := text.toList.takeWhile (· != '\x00')
  let tokens := (scan text).toArray
  let env : ParseEnv := { tokens, chars := cs.toArray, bytes := byteSize cs, db }
  let start := (tokens.toList.takeWhile fun t => t.kind == .symbol && t.text == ";").length
  if start ≥ tokens.size then .ok none
  else
    let m : ParseM (Command × Nat) := do
      let cmd ← ParseM.command
      let t ← ParseM.peek
      if t.isEnd then pure (cmd, cs.length)
      else if t.isSymbol ";" then pure (cmd, t.index + 1)
      else throw t.syntaxError
    match (m.run env).run { pos := start } with
    | .ok ((cmd, n), _) => .ok (some (cmd, n))
    | .error e => .error e

/-- A failure of a statement, with the text from the start of that statement on. -/
structure StatementFailure where
  error : SqlError
  sql : String
  deriving Inhabited

/-- How a failure reads: a failure that points into the text names the text and the offset;
every failure ends with its result code and what the code means. -/
def StatementFailure.render (f : StatementFailure) : String :=
  match f.error.offset with
  | some n => f.error.message ++ " in " ++ f.sql ++ " at offset " ++ toString n ++
      ": Error code 1: " ++ SqlError.describe 1
  | none => f.error.message ++ ": Error code " ++ toString f.error.code ++ ": " ++
      SqlError.describe f.error.code

namespace Connection

/-- Runs the statements of a text in order until one fails; `fuel` bounds the statements. -/
def batchFrom : Nat → Connection → String → Connection × Option StatementFailure
  | 0, c, _ => (c, none)
  | fuel + 1, c, rest =>
    if rest.isEmpty then (c, none)
    else match nextStatement c.exec.db rest with
      | .error e => (c, some { error := e, sql := rest })
      | .ok none => (c, none)
      | .ok (some (cmd, used)) =>
        match c.run cmd with
        | (c, some e) => (c, some { error := e, sql := rest })
        | (c, none) => batchFrom fuel c (String.ofList (rest.toList.drop used))

/-- Runs the statements of a text in order until one fails. -/
def executeBatch (c : Connection) (text : String) : Connection × Option StatementFailure :=
  batchFrom (text.length + 1) c text

/-- Runs one statement with values bound to its parameters; a query gives its rows. -/
def execute (c : Connection) (sql : String) (params : List (String × Value)) :
    Connection × Except StatementFailure (List (List Value)) :=
  let bound := { c with exec := { c.exec with params } }
  let unbind (d : Connection) : Connection := { d with exec := { d.exec with params := [] } }
  match nextStatement c.exec.db sql with
  | .error e => (c, .error { error := e, sql })
  | .ok none => (c, .ok [])
  | .ok (some (.dml (.select s), _)) =>
    match prepareDml c.exec.db c.exec.foreignKeys (.select s) with
    | .error e => (c, .error { error := e, sql })
    | .ok (.select q) =>
      let env : EvalEnv := { db := c.exec.db, call := c.exec.call, params }
      match evalSelect exprFuel env q none with
      | .ok rows => (c, .ok rows)
      | .error e => (c, .error { error := e, sql })
    | .ok _ => (c, .ok [])
  | .ok (some (cmd, _)) =>
    match bound.run cmd with
    | (d, some e) => (unbind d, .error { error := e, sql })
    | (d, none) => (unbind d, .ok [])

/-- Ends the transaction in progress, if any, undoing it. -/
def rollbackOpen (c : Connection) : Connection :=
  match c.txn with
  | some t => { c with txn := none, exec := { c.exec with db := t.start } }
  | none => c

end Connection

end Shipyard.Sql
