import Shipyard.Sql.Schema
import Shipyard.Sql.Error
import Shipyard.Sql.JsonEach
/-!
# Table-valued functions

A table-valued function stands in a `FROM` clause like a table and gives rows computed from its
arguments and the database. Its arguments fill hidden columns in order, so it takes at most as
many as it has hidden columns.

The pragma functions read what a `PRAGMA` of the same name would answer; their last hidden
column names the schema, `main` when it is not given (for those that take a table or an index,
the first schema holding it). A schema that does not exist is an error; a table or index that
does not exist gives no rows. `json_each` and `json_tree` walk a JSON
document; their `value` column holds JSON text for an array or object, and says so as a JSON
function's result does.
-/
namespace Shipyard.Sql

/-- What a table-valued function is: its columns and how many arguments it takes at most. -/
structure TableFunction where
  columns : List String
  arity : Nat
  deriving Inhabited

namespace TableFunction

/-- The table-valued function of a name, if there is one. -/
def lookup? (name : String) : Option TableFunction :=
  match name.toLower with
  | "pragma_user_version" => some ⟨["user_version"], 1⟩
  | "pragma_application_id" => some ⟨["application_id"], 1⟩
  | "pragma_table_info" => some ⟨["cid", "name", "type", "notnull", "dflt_value", "pk"], 2⟩
  | "pragma_table_xinfo" =>
    some ⟨["cid", "name", "type", "notnull", "dflt_value", "pk", "hidden"], 2⟩
  | "pragma_index_list" => some ⟨["seq", "name", "unique", "origin", "partial"], 2⟩
  | "pragma_index_info" => some ⟨["seqno", "cid", "name"], 2⟩
  | "pragma_index_xinfo" => some ⟨["seqno", "cid", "name", "desc", "coll", "key"], 2⟩
  | "pragma_foreign_key_list" =>
    some ⟨["id", "seq", "table", "from", "to", "on_update", "on_delete", "match"], 2⟩
  | "pragma_collation_list" => some ⟨["seq", "name"], 0⟩
  | "json_each" | "json_tree" =>
    some ⟨["key", "value", "type", "atom", "id", "parent", "fullkey", "path"], 2⟩
  | _ => none

/-- The schema a pragma function reads: the one its schema argument names, else `main`. -/
def pragmaSchema? (db : Database) (schemaArg : Option Value) : Option Schema :=
  match schemaArg with
  | some (.text n) => db.schema? n.toString
  | _ => db.schema? "main"

/-- The name of a collation. -/
def collationName : Collation → String
  | .binary => "BINARY"
  | .nocase => "NOCASE"
  | .rtrim => "RTRIM"

/-- The name of a foreign key action. -/
def actionName : FkAction → String
  | .noAction => "NO ACTION"
  | .restrict => "RESTRICT"
  | .setNull => "SET NULL"
  | .setDefault => "SET DEFAULT"
  | .cascade => "CASCADE"

/-- The text of an argument, as a pragma reads it; none for a null. -/
def argText? (v : Option Value) : Option String := v.bind Value.text?

/-- The schema a pragma's schema argument names, checked: none when it names none. -/
def givenSchema (db : Database) (schemaArg : Option Value) : Except SqlError (Option String) :=
  match argText? schemaArg with
  | none => pure none
  | some n => match db.schema? n with
    | some sc => pure (some sc.name)
    | none => throw (.plain ("unknown database " ++ n))

/-- How a column is hidden from `table_info`: 0 not at all, 1 a hidden column of a virtual
table, 2 a generated column that is not stored, 3 a stored one. -/
def hiddenKind (c : Column) : Nat :=
  match c.generated with
  | some _ => if c.stored then 3 else 2
  | none => if c.hidden then 1 else 0

/-- The indexes of a table in the order the engine keeps them: the newest first, those that
replace on conflict last. -/
def keptIndexes (s : Schema) (table : String) : List Index :=
  let ixs := s.indexesOf table
  ixs.filter (·.onConflict != some .replace) ++ ixs.filter (·.onConflict == some .replace)

/-- The rows of `table_info` (and with `extended` those of `table_xinfo`, which add the hidden
columns and say how each is hidden). A view's columns are given with their declared types by
`viewColumns`. A column of the primary key gives its place in the key, or 1 when the key is the
row id; the primary key of a table without row ids makes its columns not null. -/
def tableInfo (s : Schema) (t : Table) (extended : Bool) (viewColumns : List (String × String)) :
    List (List Value) :=
  if t.isView then
    viewColumns.zipIdx.map fun ((n, ty), i) =>
      [.integer i, .text n, .text ty, .integer 0, .null, .integer 0] ++
        (if extended then [.integer 0] else [])
  else
    let pk := (s.indexesOf t.name).find? (·.origin == .primaryKey)
    let (_, rows) := t.columns.zipIdx.foldl (fun (acc : Nat × List (List Value)) (c, i) =>
      let (skipped, rows) := acc
      let h := hiddenKind c
      if h != 0 && !extended then (skipped + 1, rows)
      else
        let place : Nat :=
          if !c.primaryKey then 0
          else match pk with
            | none => 1
            | some ix => ((ix.keys.findIdx? (·.column == some i)).getD ix.keys.length) + 1
        let notNull := c.notNull || (t.withoutRowid && c.primaryKey)
        let dflt : Value := if h ≥ 2 then .null else (c.defaultText.map fun x => Value.text x).getD .null
        (skipped, rows ++ [[.integer (i - skipped), .text c.name, .text c.type,
          .integer (if notNull then 1 else 0), dflt, .integer place] ++
          (if extended then [.integer h] else [])])) (0, [])
    rows

/-- The rows of `index_list`: each index of the table in the order the engine keeps them, with
whether it is unique, what made it (`c` a statement, `u` a unique constraint, `pk` the
primary key) and whether it is partial. -/
def indexList (s : Schema) (t : Table) : List (List Value) :=
  (keptIndexes s t.name).zipIdx.map fun (ix, i) =>
    [.integer i, .text ix.name, .integer (if ix.unique then 1 else 0),
      .text (match ix.origin with
        | .created => "c"
        | .unique => "u"
        | .primaryKey => "pk"),
      .integer (if ix.filter.isSome then 1 else 0)]

/-- The columns an index holds besides its keys: the row id, or for a table without row ids
the columns of its primary key (all the table's columns, for the primary key's own index)
that are not keys already. -/
def indexExtras (s : Schema) (t : Table) (ix : Index) : List (Option Nat) :=
  if !t.withoutRowid then [none]
  else
    let keyCols := ix.keys.filterMap (·.column)
    let pkCols := match (s.indexesOf t.name).find? (·.origin == .primaryKey) with
      | some p => p.keys.filterMap (·.column)
      | none => []
    let wanted := if ix.origin == .primaryKey then List.range t.columns.length else pkCols
    (wanted.filter fun j => !keyCols.contains j).map some

/-- The rows of `index_info` (and with `extended` those of `index_xinfo`, which add the
columns the index holds besides its keys, and each column's direction, collation and whether
it is a key). An expression key has the column number -2, the row id -1. -/
def indexInfo (s : Schema) (t : Table) (ix : Index) (extended : Bool) : List (List Value) :=
  let columnOf (c : Option Nat) : Value × Value := match c with
    | some j => (.integer j, ((t.columns[j]?).map fun col => Value.text col.name).getD .null)
    | none => (.integer (-1), .null)
  let keys := ix.keys.map fun k =>
    let (cid, name) := match k.column with
      | some j => columnOf (some j)
      | none => (.integer (-2), .null)
    (cid, name, k.descending, collationName k.collation, true)
  let extras := if extended then
      (indexExtras s t ix).map fun c =>
        let (cid, name) := columnOf c
        let coll := match c with
          | some j => ((t.columns[j]?).map fun (col : Column) => collationName col.collation).getD
            "BINARY"
          | none => "BINARY"
        (cid, name, false, coll, false)
    else []
  (keys ++ extras).zipIdx.map fun ((cid, name, desc, coll, key), i) =>
    ([Value.integer i, cid, name] ++
      (if extended then [Value.integer (if desc then 1 else 0), Value.text coll,
        Value.integer (if key then 1 else 0)] else []) : List Value)

/-- The rows of `foreign_key_list`: each foreign key, the last declared first, with a row for
each of its columns. A key that names no parent columns has nulls for them. -/
def foreignKeyList (t : Table) : List (List Value) :=
  t.foreignKeys.reverse.zipIdx.flatMap fun (fk, i) =>
    fk.columns.zipIdx.map fun (c, j) =>
      [.integer i, .integer j, .text fk.parent, .text c,
        ((fk.parentColumns[j]?).map fun x => Value.text x).getD .null,
        .text (actionName fk.onUpdate), .text (actionName fk.onDelete), .text "NONE"]

/-- The rows of a table-valued function for its arguments: the values of each row, and for
each value whether it is JSON text. `viewColumns` gives the names and declared types of a
view's columns. -/
def rows (db : Database) (viewColumns : String → Table → List (String × String)) (name : String)
    (args : List Value) : Except SqlError (List (List Value × List Bool)) :=
  let plain (rs : List (List Value)) : List (List Value × List Bool) := rs.map (·, [])
  let tableRows (f : Schema → Table → List (List Value)) :
      Except SqlError (List (List Value × List Bool)) := do
    let schema ← givenSchema db args[1]?
    match argText? args[0]? with
    | none => pure []
    | some n => match db.table? n schema with
      | some (sn, t) => pure (plain (((db.schema? sn).map fun sc => f sc t).getD []))
      | none => pure []
  match name.toLower with
  | "pragma_table_info" => tableRows fun sc t => tableInfo sc t false (viewColumns sc.name t)
  | "pragma_table_xinfo" => tableRows fun sc t => tableInfo sc t true (viewColumns sc.name t)
  | "pragma_index_list" => tableRows fun sc t => if t.isView then [] else indexList sc t
  | "pragma_foreign_key_list" => tableRows fun _ t => foreignKeyList t
  | "pragma_index_info" | "pragma_index_xinfo" => do
    let extended := name.toLower == "pragma_index_xinfo"
    let schema ← givenSchema db args[1]?
    match argText? args[0]? with
    | none => pure []
    | some n => match db.index? n schema with
      | some (sn, ix) => match db.table? ix.table (some sn), db.schema? sn with
        | some (_, t), some sc => pure (plain (indexInfo sc t ix extended))
        | _, _ => pure []
      | none => match db.table? n schema with
        | some (sn, t) =>
          if !t.withoutRowid then pure []
          else match db.schema? sn with
            | some sc => match (sc.indexesOf t.name).find? (·.origin == .primaryKey) with
              | some ix => pure (plain (indexInfo sc t ix extended))
              | none => pure []
            | none => pure []
        | none => pure []
  | "pragma_collation_list" =>
    pure (plain [[.integer 0, .text "RTRIM"], [.integer 1, .text "NOCASE"],
      [.integer 2, .text "BINARY"]])
  | "pragma_user_version" =>
    pure (((pragmaSchema? db args[0]?).map fun s =>
      [([Value.integer s.userVersion], [])]).getD [])
  | "pragma_application_id" =>
    pure (((pragmaSchema? db args[0]?).map fun s =>
      [([Value.integer s.applicationId], [])]).getD [])
  | "json_each" | "json_tree" => do
    let found ← jsonEachRows (name.toLower == "json_tree") (args[0]?.getD .null) args[1]?
    pure (found.map fun r => (r.values, r.marks))
  | _ => pure []

end TableFunction

end Shipyard.Sql
