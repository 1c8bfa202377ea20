import Shipyard.Sql.Plan
/-!
# Writing rows

A data statement runs row by row against the database value. Inserting a row builds its values
(the ones supplied, defaults for the rest, generated columns last), converts each by its
column's affinity, fires the `BEFORE` triggers, gives the row its row id, and then checks the
constraints in the order the engine checks them: `NOT NULL` column by column, `CHECK`
constraints, the row id, then the unique indexes, newest first with those that replace last.
A constraint that fails resolves by the statement's `OR` clause, else the constraint's own
`ON CONFLICT`, else by aborting: the statement fails with the constraint's message and code.
`IGNORE` skips the row, `REPLACE` deletes the rows in the way, `FAIL` keeps the rows already
written and `ROLLBACK` also ends the transaction.

Changing and deleting rows fire their triggers around the change in the same way, and carry
out the actions of the foreign keys that reference the table: cascading, setting null or the
default, or refusing. A trigger's body runs with the trigger's row as the outer frame, and a
trigger does not fire within its own body. `RAISE(IGNORE)` ends the work on the current row.
-/
namespace Shipyard.Sql

/-- What statements run against: the database, what function calls read, and the switches of
the connection. -/
structure Exec where
  db : Database
  call : CallEnv := {}
  foreignKeys : Bool := false
  ignoreChecks : Bool := false
  /-- Whether a trigger may fire while it is already firing, and the delete triggers fire for
  the rows that `REPLACE` deletes. -/
  recursiveTriggers : Bool := false
  /-- The values bound to the parameters of the statement. -/
  params : List (String × Value) := []
  /-- The rows that the running program changed: the statement, or the trigger or key action
  it fired. -/
  changed : Int := 0
  deriving Inhabited

/-- Running statements: a failure keeps the state that was reached, for the caller to keep or
undo. -/
abbrev ExecM := ExceptT SqlError (StateM Exec)

/-- A result or failure as a step. -/
def liftExcept (x : Except SqlError α) : ExecM α :=
  match x with
  | .ok a => pure a
  | .error e => throw e

/-- What evaluation reads in the current state, in frames. -/
def envWith (frames : List Frame) : ExecM EvalEnv := do
  let st ← get
  pure { db := st.db, call := st.call, params := st.params, frames }

/-- The value of an expression in frames. -/
def evalWith (frames : List Frame) (e : Expr) : ExecM Value := do
  liftExcept (evalExpr exprFuel (← envWith frames) e)

/-- The values of expressions in frames. -/
def evalAllWith (frames : List Frame) (es : List Expr) : ExecM (List Value) := do
  liftExcept (evalList exprFuel (← envWith frames) es)

/-- The first row of a query, the only one a statement run once as a step of a batch makes
(none when it has no rows). -/
def selectFirst (s : Select) : ExecM (List (List Value)) := do
  liftExcept (evalSelect exprFuel (← envWith []) s (some 1))

/-- The rows of a query in frames. -/
def selectWith (frames : List Frame) (s : Select) : ExecM (List (List Value)) := do
  liftExcept (evalSelect exprFuel (← envWith frames) s none)

/-- Counts a row that the running program inserted, changed or deleted. -/
def noteChange : ExecM Unit := modify fun st => { st with changed := st.changed + 1 }

/-- Runs the body of a trigger or of a key action as a program of its own: the rows it changes
count towards the connection's total when it ends, and not towards the statement that fired
it. -/
def asProgram (body : ExecM α) : ExecM α := do
  let outer := (← get).changed
  modify fun st => { st with changed := 0 }
  let r ← tryCatch body fun e => do
    modify fun st => { st with changed := outer }
    throw e
  modify fun st => { st with
    call := { st.call with totalChanges := st.call.totalChanges + st.changed }, changed := outer }
  pure r

/-- The value a row holds in a column; the row id alias holds the row id. -/
def Table.valueAt (t : Table) (r : Row) (j : Nat) : Value :=
  if t.rowidAlias == some j then .integer r.rowid else r.values[j]?.getD .null

/-- A value as a column stores it: converted by the column's affinity, except that a `STRICT`
column of type `ANY` keeps it as it is. -/
def Column.store (c : Column) (strict : Bool) (v : Value) : Value :=
  if strict && c.type.toUpper == "ANY" then v else v.withAffinity c.affinity

/-- The type name of a value in the messages of `STRICT` tables. -/
def Value.strictName : Value → String
  | .null => "NULL"
  | .integer _ => "INTEGER"
  | .real _ => "REAL"
  | .text _ => "TEXT"
  | .blob _ => "BLOB"

/-- The failure for the first value that a `STRICT` table's column cannot store. -/
def strictMismatch? (t : Table) (vals : List Value) : Option SqlError :=
  if !t.strict then none else
  (t.columns.zip vals).findSome? fun (c, v) =>
    let ty := c.type.toUpper
    let fits := match v with
      | .null => true
      | .integer _ => ty == "ANY" || ty == "INT" || ty == "INTEGER"
      | .real _ => ty == "ANY" || ty == "REAL"
      | .text _ => ty == "ANY" || ty == "TEXT"
      | .blob _ => ty == "ANY" || ty == "BLOB"
    if fits then none
    else some (.constraint SqlError.datatypeCode ("cannot store " ++ v.strictName ++
      " value in " ++ ty ++ " column " ++ t.name ++ "." ++ c.name))

/-- What a failed constraint does: the statement's `OR` clause, else the constraint's own
clause, else `ABORT`. -/
def effectiveConflict (stmt : Conflict) (own : Option Conflict) : Conflict :=
  if stmt != .abort then stmt else own.getD .abort

/-- The failure of a constraint under a conflict resolution. -/
def conflictError (c : Conflict) (code : Nat) (message : String) : SqlError :=
  { message, code, rollback := c == .rollback, keep := c == .fail }

/-- The message of a unique index that a row breaks: its columns, or its name when it has
expressions. -/
def uniqueMessage (t : Table) (ix : Index) : String :=
  if ix.keys.all (·.column.isSome) then
    "UNIQUE constraint failed: " ++ ", ".intercalate (ix.keys.map fun k =>
      t.name ++ "." ++ (((k.column.bind fun j => t.columns[j]?).map (·.name)).getD ""))
  else "UNIQUE constraint failed: index '" ++ ix.name ++ "'"

/-- The rows of a table. -/
def rowsNow (schema table : String) : ExecM (List Row) := do
  pure ((← get).db.rowsOf schema table)

/-- Sets the rows of a table. -/
def setRowsNow (schema table : String) (rs : List Row) : ExecM Unit :=
  modify fun st => { st with db := st.db.setRows schema table rs }

/-- Rows in order of row id with one more row. -/
def insertByRowid (r : Row) : List Row → List Row
  | [] => [r]
  | x :: xs => if r.rowid < x.rowid then r :: x :: xs else x :: insertByRowid r xs

/-- Writes a row, in place of the row of its row id if there is one. -/
def putRow (schema table : String) (r : Row) : ExecM Unit := do
  let rs ← rowsNow schema table
  setRowsNow schema table (insertByRowid r (rs.filter (·.rowid != r.rowid)))

/-- Removes the row of a row id. -/
def removeRow (schema table : String) (rowid : Int) : ExecM Unit := do
  let rs ← rowsNow schema table
  setRowsNow schema table (rs.filter (·.rowid != rowid))

/-- The row of a row id, if it is still there. -/
def rowNow (schema table : String) (rowid : Int) : ExecM (Option Row) := do
  pure ((← rowsNow schema table).find? (·.rowid == rowid))

/-- The value of a column's default: null when it has none. -/
def defaultValue (c : Column) : ExecM Value := do
  match c.default with
  | none => pure .null
  | some e =>
    let st ← get
    let r ← liftExcept (runResolve { db := st.db, offsets := false } (resolveExpr exprFuel e))
    evalWith [] r

/-- The values of a row with its generated columns computed from the others. -/
def computeGenerated (schema : String) (t : Table) (vals : List Value) (rowid : Int) :
    ExecM (List Value) := do
  let mut vs := vals
  for (c, j) in t.columns.zipIdx do
    match c.generated with
    | some g =>
      let st ← get
      let e ← liftExcept (resolveAtTable st.db schema t .generated false g)
      let v ← evalWith [[t.sourceRow { rowid, values := vs }]] e
      vs := vs.set j (c.store t.strict v)
    | none => pure ()
  pure vs

/-- The key of a row in an index, or none when the row is not in the index (its filter fails)
or the key holds a null, which conflicts with nothing. -/
def indexKey (schema : String) (t : Table) (ix : Index) (r : Row) : ExecM (Option (List Value)) := do
  let st ← get
  let frame : List Frame := [[t.sourceRow r]]
  match ix.filter with
  | some f =>
    let e ← liftExcept (resolveAtTable st.db schema t .partialIndex false f)
    if (← evalWith frame e).truth? != some true then return none
  | none => pure ()
  let mut key : List Value := []
  for k in ix.keys do
    let v ← match k.column with
      | some j => pure (t.valueAt r j)
      | none => do
        let e ← liftExcept (resolveAtTable st.db schema t .index false k.expr)
        evalWith frame e
    if v.isNull then return none
    key := key ++ [v]
  pure (some key)

/-- Whether two keys of an index are equal under the collations of its keys. -/
def sameKey (ix : Index) (a b : List Value) : Bool :=
  a.length == b.length && ((ix.keys.zip a).zip b).all fun ((k, x), y) =>
    Value.compare k.collation x y == .eq

/-- The other rows of a table whose key in an index equals a row's. -/
def conflictsIn (schema : String) (t : Table) (ix : Index) (r : Row) : ExecM (List Row) := do
  match ← indexKey schema t ix r with
  | none => pure []
  | some key =>
    let mut out : List Row := []
    for o in ← rowsNow schema t.name do
      if o.rowid != r.rowid then
        if let some k := ← indexKey schema t ix o then
          if sameKey ix key k then out := out ++ [o]
    pure out

/-- The indexes of a table in the order they are checked: newest first, those that replace
last. -/
def checkOrder (db : Database) (schema table : String) : List Index :=
  let ixs := ((db.schema? schema).map (·.indexesOf table)).getD []
  ixs.filter (·.onConflict != some .replace) ++ ixs.filter (·.onConflict == some .replace)

/-- A row id as a value must be: an integer, or something that reads as one. -/
def mustBeInt (v : Value) : ExecM Int :=
  match v.withAffinity .numeric with
  | .integer i => pure i
  | _ => throw { message := "datatype mismatch", code := SqlError.mismatchCode }

/-- A new row id for a table: one past the largest, and past the largest ever used for a table
with `AUTOINCREMENT`, which has no row id left once that is the largest integer. -/
def newRowid (schema : String) (t : Table) : ExecM Int := do
  let rs ← rowsNow schema t.name
  let top := rs.foldl (fun m r => max m r.rowid) 0
  if !t.autoincrement then return top + 1
  let seqs ← rowsNow schema "sqlite_sequence"
  let used := seqs.foldl (fun m r => match r.values with
    | .text n :: v :: _ => if n == t.name then max m v.toInt else m
    | _ => m) 0
  if max top used ≥ 9223372036854775807 then throw SqlError.full
  pure (max top used + 1)

/-- Records a row id used by a table with `AUTOINCREMENT`. -/
def noteSequence (schema : String) (t : Table) (rowid : Int) : ExecM Unit := do
  if !t.autoincrement then return
  let seqs ← rowsNow schema "sqlite_sequence"
  match seqs.find? fun r => match r.values with
    | .text n :: _ => n == t.name
    | _ => false with
  | some r =>
    let old := (r.values[1]?.getD Value.null).toInt
    if rowid > old then putRow schema "sqlite_sequence" { r with values := [.text t.name, .integer rowid] }
  | none =>
    let next := seqs.foldl (fun m r => max m r.rowid) 0 + 1
    putRow schema "sqlite_sequence" { rowid := next, values := [.text t.name, .integer rowid] }

/-- Whether a child row's key has a parent row: the child's values, converted by the parent
columns' affinities, equal under their collations. -/
def parentHas (parent : Table) (prows : List Row) (cols : List Nat) (vals : List Value) : Bool :=
  prows.any fun pr => (cols.zip vals).all fun (j, v) =>
    let c := parent.columns[j]?.getD default
    Value.compare c.collation (v.withAffinity c.affinity) (parent.valueAt pr j) == .eq

/-- The number of child rows whose foreign key (one of those chosen) has no parent row. A key
with a null has nothing to match; a key whose parent table is gone matches nothing. -/
def keyViolations (db : Database) (chosen : ForeignKey → Bool) : Nat :=
  db.schemas.foldl (fun n s => s.tables.foldl (fun n t => t.foreignKeys.foldl (fun n k =>
    if !chosen k then n else
    let crows := s.rowsOf t.name
    let childCols := k.columns.map fun c => (t.columnIndex? c).getD 0
    let keyOf (r : Row) : List Value := childCols.map (t.valueAt r)
    let live := crows.filter fun r => (keyOf r).all (!·.isNull)
    match s.table? k.parent with
    | none => n + live.length
    | some p =>
      match parentKey? p (s.indexes.filter fun i => sameName i.table p.name) k with
      | none => n
      | some pcols =>
        let prows := s.rowsOf p.name
        n + (live.filter fun r => !parentHas p prows pcols (keyOf r)).length) n) n) 0

/-- The rows whose values in some columns match a key under a parent's columns. -/
def rowsMatching (child : Table) (crows : List Row) (childCols : List Nat) (parent : Table)
    (pcols : List Nat) (key : List Value) : List Row :=
  crows.filter fun r => ((childCols.zip pcols).zip key).all fun ((cj, pj), kv) =>
    let pc := parent.columns[pj]?.getD default
    let cv := child.valueAt r cj
    !cv.isNull && Value.compare pc.collation (cv.withAffinity pc.affinity) kv == .eq

/-- The upsert that handles a conflict on a constraint, if any. -/
def upsertFor (ups : List UpsertPlan) (target : ConflictTarget) : Option UpsertPlan :=
  ups.find? fun u => u.target == .any || u.target == target

mutual

/-- Runs a prepared data statement in the frames around it; `active` are the triggers firing. -/
def runPlan : Nat → List String → List Frame → DmlPlan → ExecM Unit
  | 0, _, _, _ => throw (.plain "too many levels of trigger recursion")
  | fuel + 1, active, outer, plan => match plan with
    | .select s => do
      let _ ← selectWith outer s
    | .insert schema t targets src conflict ups => do
      let rows ← match src with
        | .row es => do pure [← evalAllWith ([] :: outer) es]
        | .query q => selectWith outer q
        | .defaults => pure [[]]
      for vals in rows do
        insertRow fuel active outer schema t targets vals conflict ups
    | .update schema t sources settings filter conflict => do
      let env ← envWith outer
      let frames ← liftExcept (joinSources exprFuel env [] sources [[]])
      let mut chosen : List Frame := []
      for fr in frames do
        let pass ← match filter with
          | some f => do pure ((← evalWith (fr :: outer) f).truth? == some true)
          | none => pure true
        let rid := (fr.head?.bind (·.rowid))
        let seen := rid.isSome && chosen.any fun c => (c.head?.bind (·.rowid)) == rid
        if pass && !seen then chosen := chosen ++ [fr]
      let names := settings.map (·.name)
      for fr in chosen do
        let first := fr.head?.getD {}
        if t.isView then
          let vals ← evalAllWith (fr :: outer) (settings.map (·.value))
          let newVals := (settings.zip vals).foldl (fun vs (s, v) => match s.column with
            | some j => vs.set j v
            | none => vs) first.values
          let _ ← fireTriggers fuel active .insteadOf schema t (.update names)
            { values := newVals } first
        else
          match first.rowid with
          | none => pure ()
          | some rid =>
            match ← rowNow schema t.name rid with
            | none => pure ()
            | some cur =>
              let frame := (t.sourceRow cur) :: fr.drop 1
              let vals ← evalAllWith (frame :: outer) (settings.map (·.value))
              let mut newVals := cur.values
              let mut newRowid := cur.rowid
              for (s, v) in settings.zip vals do
                match s.column with
                | some j =>
                  newVals := newVals.set j v
                  if t.rowidAlias == some j then newRowid ← mustBeIntOrKeep v cur.rowid
                | none => newRowid ← mustBeInt v
              updateRow fuel active schema t cur newVals newRowid names conflict
    | .delete schema t source filter => do
      let env ← envWith outer
      let frames ← liftExcept (joinSources exprFuel env [] [source] [[]])
      let mut chosen : List SourceRow := []
      for fr in frames do
        let pass ← match filter with
          | some f => do pure ((← evalWith (fr :: outer) f).truth? == some true)
          | none => pure true
        if pass then chosen := chosen ++ [fr.head?.getD {}]
      for r in chosen do
        if t.isView then
          let _ ← fireTriggers fuel active .insteadOf schema t .delete {} r
        else
          match r.rowid with
          | none => pure ()
          | some rid =>
            match ← rowNow schema t.name rid with
            | none => pure ()
            | some cur => deleteRow fuel active schema t cur

/-- A new value of the row id alias: null keeps the row id. -/
def mustBeIntOrKeep : Value → Int → ExecM Int
  | .null, keep => pure keep
  | v, _ => mustBeInt v

/-- How many triggers may be firing inside one another. -/
def triggerDepthLimit : Nat := 1000

/-- Fires the triggers of one time on a change to one row, the newest first; false when one of
them said `RAISE(IGNORE)`. -/
def fireTriggers : Nat → List String → TriggerTime → String → Table → Change → SourceRow →
    SourceRow → ExecM Bool
  | 0, _, _, _, _, _, _, _ => throw (.plain "too many levels of trigger recursion")
  | fuel + 1, active, time, schema, t, change, newRow, oldRow => do
    let st ← get
    let trs := (st.db.triggersOn schema t.name).filter fun tr =>
      tr.time == time && tr.firesOn change &&
        (st.recursiveTriggers || !active.contains tr.name.toLower)
    for tr in trs do
      if active.length ≥ triggerDepthLimit then
        throw (.plain "too many levels of trigger recursion")
      let ok ← runTrigger fuel active schema t change [newRow, oldRow] tr
      if !ok then return false
    pure true

/-- Runs one trigger on one row: its condition, then its body statements in order; false when
the body said `RAISE(IGNORE)`. -/
def runTrigger : Nat → List String → String → Table → Change → Frame → Trigger → ExecM Bool
  | 0, _, _, _, _, _, _ => throw (.plain "too many levels of trigger recursion")
  | fuel + 1, active, schema, t, change, frame, tr => do
    let st ← get
    match tr.condition with
    | some w =>
      let e ← liftExcept (runResolve (triggerEnv st.db schema t change) (resolveExpr exprFuel w))
      if (← evalWith [frame] e).truth? != some true then return true
    | none => pure ()
    asProgram do
      for step in tr.body do
        let st ← get
        let p ← liftExcept (runResolve (triggerEnv st.db schema t change) (planDml exprFuel step))
        let ok ← tryCatch (do
            runPlan fuel (tr.name.toLower :: active) [frame] p
            pure true)
          fun e => if e.isIgnore then pure false else throw e
        if !ok then return false
      pure true

/-- Inserts one row: `targets` say which column each supplied value sets. -/
def insertRow : Nat → List String → List Frame → String → Table → List (Option Nat) →
    List Value → Conflict → List UpsertPlan → ExecM Unit
  | 0, _, _, _, _, _, _, _, _ => throw (.plain "too many levels of trigger recursion")
  | fuel + 1, active, outer, schema, t, targets, supplied, conflict, ups => do
    if t.isView then
      let vals := (targets.zip supplied).foldl (fun vs (tg, v) => match tg with
        | some j => vs.set j v
        | none => vs) (t.columns.map fun _ => Value.null)
      let _ ← fireTriggers fuel active .insteadOf schema t .insert { values := vals } {}
      return
    let mut vals : List Value := t.columns.map fun _ => .null
    let mut given : List Bool := t.columns.map fun _ => false
    let mut explicitRowid : Option Value := none
    for (tg, v) in targets.zip supplied do
      match tg with
      | none => if explicitRowid.isNone then explicitRowid := some v
      | some j =>
        if !(given[j]?.getD true) then
          vals := vals.set j v
          given := given.set j true
          if t.rowidAlias == some j then explicitRowid := some v
    for (c, j) in t.columns.zipIdx do
      if !(given[j]?.getD false) && c.generated.isNone && t.rowidAlias != some j then
        vals := vals.set j (← defaultValue c)
    vals := (t.columns.zip vals).map fun (c, v) => c.store t.strict v
    let automatic := match explicitRowid with
      | none | some .null => true
      | _ => false
    let provisional : Int := if automatic then -1 else
      match (explicitRowid.getD .null).withAffinity .numeric with
      | .integer i => i
      | _ => -1
    vals ← computeGenerated schema t vals provisional
    let ok ← fireTriggers fuel active .before schema t .insert
      (t.sourceRow { rowid := provisional, values := vals }) {}
    if !ok then return
    let rowid ← if automatic then newRowid schema t else mustBeInt (explicitRowid.getD .null)
    if let some j := t.rowidAlias then vals := vals.set j (.integer rowid)
    -- NOT NULL, column by column
    for (c, j) in t.columns.zipIdx do
      if c.notNull && t.rowidAlias != some j && (vals[j]?.getD .null).isNull then
        match effectiveConflict conflict c.notNullConflict with
        | .ignore => return
        | .replace =>
          let d ← defaultValue c
          if d.isNull then
            throw (conflictError .abort SqlError.notNullCode
              ("NOT NULL constraint failed: " ++ t.name ++ "." ++ c.name))
          vals := vals.set j (c.store t.strict d)
        | k => throw (conflictError k SqlError.notNullCode
            ("NOT NULL constraint failed: " ++ t.name ++ "." ++ c.name))
    let row : Row := { rowid, values := vals }
    let st ← get
    if !t.checks.isEmpty then
      if let some e := strictMismatch? t vals then throw e
    if !st.ignoreChecks then
      for ch in t.checks do
        let e ← liftExcept (resolveAtTable st.db schema t .check false ch.expr)
        if (← evalWith [[t.sourceRow row]] e).truth? == some false then
          match effectiveConflict conflict none with
          | .ignore => return
          | .replace => throw (conflictError .abort SqlError.checkCode
              ("CHECK constraint failed: " ++ ch.name))
          | k => throw (conflictError k SqlError.checkCode ("CHECK constraint failed: " ++ ch.name))
    -- the row id
    if !automatic then
      if let some old := ← rowNow schema t.name rowid then
        match upsertFor ups .rowid with
        | some u =>
          upsertRow fuel active outer schema t u old row
          return
        | none =>
          match effectiveConflict conflict t.keyConflict with
          | .ignore => return
          | .replace => replaceDelete fuel active schema t old
          | k =>
            let label := match t.rowidAlias.bind fun j => t.columns[j]? with
              | some c => t.name ++ "." ++ c.name
              | none => t.name ++ ".rowid"
            throw (conflictError k (if t.rowidAlias.isSome then SqlError.primaryKeyCode else 2579)
              ("UNIQUE constraint failed: " ++ label))
    -- the unique indexes
    for ix in checkOrder (← get).db schema t.name do
      if ix.unique then
        let cs ← conflictsIn schema t ix row
        if let some first := cs.head? then
          match upsertFor ups (.index ix.name) with
          | some u =>
            upsertRow fuel active outer schema t u first row
            return
          | none =>
            match effectiveConflict conflict ix.onConflict with
            | .ignore => return
            | .replace =>
              for o in cs do
                replaceDelete fuel active schema t o
            | k => throw (conflictError k (if ix.origin == .primaryKey then SqlError.primaryKeyCode
                else SqlError.uniqueCode) (uniqueMessage t ix))
    if t.checks.isEmpty then
      if let some e := strictMismatch? t vals then throw e
    putRow schema t.name row
    noteChange
    noteSequence schema t rowid
    modify fun st => { st with call := { st.call with lastRowid := rowid } }
    let _ ← fireTriggers fuel active .after schema t .insert (t.sourceRow row) {}

/-- The update of an upsert on the row in the way of an insert: its assignments, read with the
row first and the row that was to be inserted as `excluded`, if its filter holds. -/
def upsertRow : Nat → List String → List Frame → String → Table → UpsertPlan → Row → Row →
    ExecM Unit
  | 0, _, _, _, _, _, _, _ => throw (.plain "too many levels of trigger recursion")
  | fuel + 1, active, outer, schema, t, u, old, excluded => do
    match u.update with
    | none => pure ()
    | some (settings, filter) =>
      let frame : Frame := [t.sourceRow old, t.sourceRow excluded]
      if let some f := filter then
        if (← evalWith (frame :: outer) f).truth? != some true then return
      let vals ← evalAllWith (frame :: outer) (settings.map (·.value))
      let mut newVals := old.values
      let mut newRowid := old.rowid
      for (s, v) in settings.zip vals do
        match s.column with
        | some j =>
          newVals := newVals.set j v
          if t.rowidAlias == some j then newRowid ← mustBeIntOrKeep v old.rowid
        | none => newRowid ← mustBeInt v
      updateRow fuel active schema t old newVals newRowid (settings.map (·.name)) .abort

/-- Changes one row to new values and row id; `changed` names the columns the statement sets. -/
def updateRow : Nat → List String → String → Table → Row → List Value → Int → List String →
    Conflict → ExecM Unit
  | 0, _, _, _, _, _, _, _, _ => throw (.plain "too many levels of trigger recursion")
  | fuel + 1, active, schema, t, old, newVals, rowid, changed, conflict => do
    let mut vals := (t.columns.zip newVals).map fun (c, v) => c.store t.strict v
    if let some j := t.rowidAlias then vals := vals.set j (.integer rowid)
    vals ← computeGenerated schema t vals rowid
    let ok ← fireTriggers fuel active .before schema t (.update changed)
      (t.sourceRow { rowid, values := vals }) (t.sourceRow old)
    if !ok then return
    if (← rowNow schema t.name old.rowid).isNone then return
    let touched (c : Column) (j : Nat) : Bool :=
      changed.any (sameName c.name ·) || c.generated.isSome ||
        (t.rowidAlias == some j && rowid != old.rowid)
    for (c, j) in t.columns.zipIdx do
      if c.notNull && t.rowidAlias != some j && touched c j && (vals[j]?.getD .null).isNull then
        match effectiveConflict conflict c.notNullConflict with
        | .ignore => return
        | .replace =>
          let d ← defaultValue c
          if d.isNull then
            throw (conflictError .abort SqlError.notNullCode
              ("NOT NULL constraint failed: " ++ t.name ++ "." ++ c.name))
          vals := vals.set j (c.store t.strict d)
        | k => throw (conflictError k SqlError.notNullCode
            ("NOT NULL constraint failed: " ++ t.name ++ "." ++ c.name))
    let row : Row := { rowid, values := vals }
    let st ← get
    if !t.checks.isEmpty then
      if let some e := strictMismatch? t vals then throw e
    if !st.ignoreChecks then
      for ch in t.checks do
        let e ← liftExcept (resolveAtTable st.db schema t .check false ch.expr)
        if (← evalWith [[t.sourceRow row]] e).truth? == some false then
          match effectiveConflict conflict none with
          | .ignore => return
          | .replace => throw (conflictError .abort SqlError.checkCode
              ("CHECK constraint failed: " ++ ch.name))
          | k => throw (conflictError k SqlError.checkCode ("CHECK constraint failed: " ++ ch.name))
    if rowid != old.rowid then
      if let some other := ← rowNow schema t.name rowid then
        match effectiveConflict conflict t.keyConflict with
        | .ignore => return
        | .replace => replaceDelete fuel active schema t other
        | k =>
          let label := match t.rowidAlias.bind fun j => t.columns[j]? with
            | some c => t.name ++ "." ++ c.name
            | none => t.name ++ ".rowid"
          throw (conflictError k (if t.rowidAlias.isSome then SqlError.primaryKeyCode else 2579)
            ("UNIQUE constraint failed: " ++ label))
    let probe : Row := { row with rowid := old.rowid }
    for ix in checkOrder (← get).db schema t.name do
      if ix.unique then
        let cs ← conflictsIn schema t ix probe
        let cs := cs.filter (·.rowid != rowid)
        if !cs.isEmpty then
          match effectiveConflict conflict ix.onConflict with
          | .ignore => return
          | .replace =>
            for o in cs do
              replaceDelete fuel active schema t o
          | k => throw (conflictError k (if ix.origin == .primaryKey then SqlError.primaryKeyCode
              else SqlError.uniqueCode) (uniqueMessage t ix))
    if t.checks.isEmpty then
      if let some e := strictMismatch? t vals then throw e
    removeRow schema t.name old.rowid
    putRow schema t.name row
    noteChange
    keyActions fuel active schema t old (some row)
    let _ ← fireTriggers fuel active .after schema t (.update changed) (t.sourceRow row)
      (t.sourceRow old)

/-- Deletes one row, with its triggers and the actions of the keys that reference it. -/
def deleteRow : Nat → List String → String → Table → Row → ExecM Unit
  | 0, _, _, _, _ => throw (.plain "too many levels of trigger recursion")
  | fuel + 1, active, schema, t, old => do
    let ok ← fireTriggers fuel active .before schema t .delete {} (t.sourceRow old)
    if !ok then return
    if (← rowNow schema t.name old.rowid).isNone then return
    removeRow schema t.name old.rowid
    noteChange
    keyActions fuel active schema t old none
    let _ ← fireTriggers fuel active .after schema t .delete {} (t.sourceRow old)

/-- Deletes a row that stands in the way of a row written under `REPLACE`, with the actions of
the keys that reference it. Its delete triggers fire only while recursive triggers are on, and
the deletion is not counted as a change. -/
def replaceDelete : Nat → List String → String → Table → Row → ExecM Unit
  | 0, _, _, _, _ => throw (.plain "too many levels of trigger recursion")
  | fuel + 1, active, schema, t, old => do
    let fire := (← get).recursiveTriggers
    if fire then
      let ok ← fireTriggers fuel active .before schema t .delete {} (t.sourceRow old)
      if !ok then return
      if (← rowNow schema t.name old.rowid).isNone then return
    removeRow schema t.name old.rowid
    keyActions fuel active schema t old none
    if fire then
      let _ ← fireTriggers fuel active .after schema t .delete {} (t.sourceRow old)

/-- Carries out the actions of the foreign keys that reference a table, for a row deleted
(`updated` none) or changed: on the child rows that referenced the row's old key. -/
def keyActions : Nat → List String → String → Table → Row → Option Row → ExecM Unit
  | 0, _, _, _, _, _ => throw (.plain "too many levels of trigger recursion")
  | fuel + 1, active, schema, t, old, updated => do
    let st ← get
    if !st.foreignKeys then return
    let some s := st.db.schema? schema | return
    let own := s.indexes.filter fun i => sameName i.table t.name
    for (c, k) in s.referencing t.name do
      let some pcols := parentKey? t own k | continue
      let oldKey := pcols.map (t.valueAt old)
      if oldKey.any (·.isNull) then continue
      let newKey := updated.map fun r => pcols.map (t.valueAt r)
      let unchanged : Bool := match newKey with
        | some nk => nk.length == oldKey.length &&
            (nk.zip oldKey).all fun (a, b) => Value.compare .binary a b == .eq
        | none => false
      if unchanged then continue
      let action : FkAction := if updated.isSome then k.onUpdate else k.onDelete
      let childCols := k.columns.map fun n => (c.columnIndex? n).getD 0
      let crows ← rowsNow schema c.name
      let hits := rowsMatching c crows childCols t pcols oldKey
      asProgram do
        match action with
        | .noAction => pure ()
        | .restrict =>
          if !hits.isEmpty then
            throw { message := "FOREIGN KEY constraint failed", code := SqlError.triggerCode }
        | .cascade =>
          for h in hits do
            match ← rowNow schema c.name h.rowid with
            | none => pure ()
            | some cur =>
              match newKey with
              | none => deleteRow fuel active schema c cur
              | some nk =>
                let vals := (childCols.zip nk).foldl (fun vs (j, v) => vs.set j v) cur.values
                let rid := match c.rowidAlias with
                  | some j => if childCols.contains j then ((nk[childCols.idxOf j]?).map
                      Value.toInt).getD cur.rowid else cur.rowid
                  | none => cur.rowid
                updateRow fuel active schema c cur vals rid k.columns .abort
        | .setNull | .setDefault =>
          for h in hits do
            match ← rowNow schema c.name h.rowid with
            | none => pure ()
            | some cur =>
              let mut vals := cur.values
              for j in childCols do
                let v ← if action == .setNull then pure Value.null
                  else defaultValue (c.columns[j]?.getD default)
                vals := vals.set j v
              updateRow fuel active schema c cur vals cur.rowid k.columns .abort

end

end Shipyard.Sql
