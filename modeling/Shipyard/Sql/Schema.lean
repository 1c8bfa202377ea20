import Shipyard.Sql.Syntax
/-!
# Schemas and the rows they hold

A database holds schemas: `main`, `temp` and any attached ones. A schema holds tables (views
and virtual tables among them, since they share one name space), indexes, triggers, and the
rows of its tables.

A table's columns carry their declared type (from which their affinity comes), their
constraints (not null, default, collation, primary key) and whether they are generated. A
column declared `INTEGER PRIMARY KEY` is the table's row id. An index lists its keys (columns
or expressions) and says whether it is unique and whether a constraint made it.

Names of tables, indexes and triggers are compared without regard to ASCII case. A name that
names no schema is looked up in `temp`, then `main`, then the attached schemas in the order
they were attached.
-/
namespace Shipyard.Sql

/-- What a foreign key does when its parent row is deleted or its key changes. -/
inductive FkAction where
  | noAction
  | restrict
  | setNull
  | setDefault
  | cascade
  deriving DecidableEq, Repr, Inhabited

/-- A foreign key: child columns, the parent table and its key columns (none named: the
parent's primary key), the actions, and whether the check waits for the commit. -/
structure ForeignKey where
  columns : List String
  parent : String
  parentColumns : List String
  onDelete : FkAction := .noAction
  onUpdate : FkAction := .noAction
  deferred : Bool := false
  deriving Inhabited

/-- A check constraint: its name (the constraint's name, or the text of its expression) and
its expression. -/
structure Check where
  name : String
  expr : Expr
  deriving Inhabited

/-- A column of a table. -/
structure Column where
  name : String
  /-- The declared type as written. -/
  type : String := ""
  notNull : Bool := false
  default : Option Expr := none
  /-- The text of the default as written: the expression inside its parentheses, or the term
  with its sign. -/
  defaultText : Option String := none
  collation : Collation := .binary
  primaryKey : Bool := false
  /-- The expression of a generated column. -/
  generated : Option Expr := none
  /-- Whether a generated column is stored. -/
  stored : Bool := false
  hidden : Bool := false
  /-- Whether a `UNIQUE` constraint of the column itself names it. -/
  unique : Bool := false
  /-- What a `NOT NULL` constraint does on conflict, when it says. -/
  notNullConflict : Option Conflict := none
  deriving Inhabited

/-- The affinity of a column, from its declared type. -/
def Column.affinity (c : Column) : Affinity := Affinity.ofType c.type

/-- What a table is: stored rows, a view over a query, or a table of a module. -/
inductive TableKind where
  | ordinary
  | view (columns : List Name) (query : Select)
  /-- A table of a module; a full-text table also names its columns that are not searched. -/
  | virtual (module : String) (unindexed : List String)
  deriving Inhabited

/-- A table, view or virtual table. -/
structure Table where
  name : String
  columns : List Column
  kind : TableKind := .ordinary
  /-- The column that is the row id, for a table with an `INTEGER PRIMARY KEY`. -/
  rowidAlias : Option Nat := none
  withoutRowid : Bool := false
  strict : Bool := false
  autoincrement : Bool := false
  checks : List Check := []
  foreignKeys : List ForeignKey := []
  /-- Whether a primary key was declared. -/
  hasPrimaryKey : Bool := false
  /-- What a conflict on the row id does, when the `INTEGER PRIMARY KEY` says. -/
  keyConflict : Option Conflict := none
  deriving Inhabited

namespace Table

def isView (t : Table) : Bool := match t.kind with
  | .view _ _ => true
  | _ => false

def isVirtual (t : Table) : Bool := match t.kind with
  | .virtual _ _ => true
  | _ => false

/-- The position of a column named `n`. -/
def columnIndex? (t : Table) (n : String) : Option Nat :=
  t.columns.findIdx? fun c => sameName c.name n

/-- The columns of the primary key, in key order. -/
def primaryKey (t : Table) : List Nat :=
  (t.columns.zipIdx.filter (·.1.primaryKey)).map (·.2)

/-- Whether a name stands for the row id in this table: one of `rowid`, `_rowid_` and `oid`
that no column takes, in a table that has row ids. -/
def isRowidName (t : Table) (n : String) : Bool :=
  !t.withoutRowid && (t.columnIndex? n).isNone &&
    (sameName n "rowid" || sameName n "_rowid_" || sameName n "oid")

end Table

/-- Why an index exists. -/
inductive IndexOrigin where
  | created
  | unique
  | primaryKey
  deriving DecidableEq, Repr, Inhabited

/-- A key of an index: a column, or an expression; its collation and direction. -/
structure IndexKey where
  column : Option Nat
  expr : Expr
  collation : Collation := .binary
  descending : Bool := false
  deriving Inhabited

/-- An index. -/
structure Index where
  name : String
  table : String
  keys : List IndexKey
  unique : Bool
  origin : IndexOrigin := .created
  filter : Option Expr := none
  /-- What a conflict does, when the constraint says. -/
  onConflict : Option Conflict := none
  deriving Inhabited

/-- When a trigger runs. -/
inductive TriggerTime where
  | before
  | after
  | insteadOf
  deriving DecidableEq, Repr, Inhabited

/-- What fires a trigger. -/
inductive TriggerEvent where
  | insert
  | delete
  | update (columns : List String)
  deriving Inhabited

/-- A trigger. -/
structure Trigger where
  name : String
  table : String
  time : TriggerTime
  event : TriggerEvent
  forEachRow : Bool := true
  condition : Option Expr := none
  body : List Dml
  deriving Inhabited

/-- A stored row: its row id and its values in column order. -/
structure Row where
  rowid : Int
  values : List Value
  deriving Inhabited

/-- What kind of object an entry of a schema's catalog describes. -/
inductive ObjectKind where
  | table
  | index
  | view
  | trigger
  deriving DecidableEq, Repr, Inhabited

/-- The word a catalog uses for a kind of object. -/
def ObjectKind.text : ObjectKind → String
  | .table => "table"
  | .index => "index"
  | .view => "view"
  | .trigger => "trigger"

/-- An entry of a schema's catalog: the kind, name and table of an object and the statement
that made it. -/
structure CatalogEntry where
  kind : ObjectKind
  name : String
  table : String
  sql : String
  deriving Inhabited

/-- A schema: its name, its objects, its catalog in the order the objects were made, and its
rows. -/
structure Schema where
  name : String
  tables : List Table := []
  indexes : List Index := []
  triggers : List Trigger := []
  catalog : List CatalogEntry := []
  /-- The rows of each table, by the table's name in lower case. -/
  rows : List (String × List Row) := []
  /-- The numbers that `PRAGMA user_version` and `PRAGMA application_id` keep in the header. -/
  userVersion : Int := 0
  applicationId : Int := 0
  deriving Inhabited

namespace Schema

def table? (s : Schema) (n : String) : Option Table := s.tables.find? fun t => sameName t.name n

def index? (s : Schema) (n : String) : Option Index := s.indexes.find? fun i => sameName i.name n

def trigger? (s : Schema) (n : String) : Option Trigger :=
  s.triggers.find? fun t => sameName t.name n

/-- The rows of a table. -/
def rowsOf (s : Schema) (table : String) : List Row :=
  ((s.rows.find? fun (n, _) => n == table.toLower).map (·.2)).getD []

/-- Sets the rows of a table. -/
def setRows (s : Schema) (table : String) (rs : List Row) : Schema :=
  { s with rows := (table.toLower, rs) :: s.rows.filter (·.1 != table.toLower) }

/-- The indexes of a table, newest first: the order in which uniqueness is checked. -/
def indexesOf (s : Schema) (table : String) : List Index :=
  (s.indexes.filter fun i => sameName i.table table).reverse

/-- The triggers of a table. -/
def triggersOf (s : Schema) (table : String) : List Trigger :=
  s.triggers.filter fun t => sameName t.table table

/-- Replaces the table of the same name. -/
def putTable (s : Schema) (t : Table) : Schema :=
  { s with tables := s.tables.map fun u => if sameName u.name t.name then t else u }

/-- Whether the schema has any table, view or index of this name. -/
def hasName (s : Schema) (n : String) : Bool := (s.table? n).isSome || (s.index? n).isSome

end Schema

/-- The schemas of a connection: `main`, `temp`, then attached ones. -/
structure Database where
  schemas : List Schema := [{ name := "main" }, { name := "temp" }]
  deriving Inhabited

namespace Database

/-- The schema of a name: `main`, `temp` and attached names, ignoring ASCII case. -/
def schema? (db : Database) (n : String) : Option Schema :=
  db.schemas.find? fun s => sameName s.name n

/-- The schemas in the order an unqualified name is looked up: `temp`, `main`, then the
attached ones. -/
def searchOrder (db : Database) : List Schema :=
  match db.schemas with
  | m :: t :: rest => t :: m :: rest
  | ss => ss

/-- Replaces the schema of the same name. -/
def putSchema (db : Database) (s : Schema) : Database :=
  { db with schemas := db.schemas.map fun u => if sameName u.name s.name then s else u }

/-- Changes the schema of a name. -/
def modifySchema (db : Database) (n : String) (f : Schema → Schema) : Database :=
  { db with schemas := db.schemas.map fun u => if sameName u.name n then f u else u }

/-- The table of a name, with the name of its schema: in the schema named, or the first schema
in search order that has it. -/
def table? (db : Database) (n : String) (schema : Option String) : Option (String × Table) :=
  let ss := match schema with
    | some s => (db.schema? s).toList
    | none => db.searchOrder
  ss.findSome? fun s => (s.table? n).map fun t => (s.name, t)

/-- The index of a name, with the name of its schema. -/
def index? (db : Database) (n : String) (schema : Option String) : Option (String × Index) :=
  let ss := match schema with
    | some s => (db.schema? s).toList
    | none => db.searchOrder
  ss.findSome? fun s => (s.index? n).map fun i => (s.name, i)

/-- The trigger of a name, with the name of its schema. -/
def trigger? (db : Database) (n : String) (schema : Option String) :
    Option (String × Trigger) :=
  let ss := match schema with
    | some s => (db.schema? s).toList
    | none => db.searchOrder
  ss.findSome? fun s => (s.trigger? n).map fun t => (s.name, t)

/-- The rows of a table of a schema. -/
def rowsOf (db : Database) (schema table : String) : List Row :=
  ((db.schema? schema).map (·.rowsOf table)).getD []

/-- Sets the rows of a table of a schema. -/
def setRows (db : Database) (schema table : String) (rs : List Row) : Database :=
  db.modifySchema schema (·.setRows table rs)

end Database

end Shipyard.Sql
