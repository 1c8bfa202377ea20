import Shipyard.Sql.Schema
import Shipyard.Sql.Token
/-!
# Statements as read

A statement as the parser leaves it. The checks that the grammar makes while it reads have
been made by then: a `CREATE TABLE` arrives as the table it builds, with the indexes that its
`PRIMARY KEY` and `UNIQUE` constraints make, and a `CREATE TRIGGER` as the trigger. The
statements whose checks come when the whole statement has been read (`CREATE INDEX`,
`CREATE VIEW`, `DROP`, most of `ALTER`, the data statements) carry the names they read, and are
checked when they are prepared.
-/
namespace Shipyard.Sql

/-- How a transaction begins. -/
inductive BeginKind where
  | deferred
  | immediate
  | exclusive
  deriving DecidableEq, Repr, Inhabited

/-- A table being made, by `CREATE TABLE` or by `ALTER TABLE … ADD COLUMN` (which works on a
copy of the table). -/
structure TableDraft where
  schema : String
  table : Table
  /-- The indexes that constraints made, oldest first. -/
  indexes : List Index := []
  /-- The query of `CREATE TABLE … AS`. -/
  query : Option Select := none
  withoutRowid : Bool := false
  strict : Bool := false
  /-- The text of the statement. -/
  sql : String := ""
  deriving Inhabited

/-- A statement as read. -/
inductive Command where
  /-- A statement with nothing to do: one that `IF NOT EXISTS` skips. -/
  | nothing
  | createTable (draft : TableDraft)
  | createIndex (schema : Option Token) (name : Token) (table : Name) (keys : List Term)
      (unique ifNotExists : Bool) (filter : Option Expr) (sql : String)
  | createView (temp : Bool) (schema : Option Token) (name : Token) (columns : List Name)
      (query : Select) (ifNotExists : Bool) (hasParameters : Bool) (sql : String)
  | createTrigger (schema : String) (trigger : Trigger) (sql : String)
  | createVirtual (draft : TableDraft) (module : String) (args : List String)
  | dropTable (schema : Option Name) (name : Name) (ifExists view : Bool)
  | dropIndex (schema : Option Name) (name : Name) (ifExists : Bool)
  | dropTrigger (schema : Option Name) (name : Name) (ifExists : Bool)
  | renameTable (schema : Option Name) (table : Name) (newName : Name)
  /-- `ADD COLUMN`: the table's schema and name, and the copy with the new column last. -/
  | addColumn (schema table : String) (draft : TableDraft)
  | renameColumn (schema : Option Name) (table : Name) (old new : Token)
  | dropColumn (schema : Option Name) (table : Name) (column : Token)
  | dml (d : Dml)
  | begin (kind : BeginKind)
  | commit
  | rollback (savepoint : Option Name)
  | savepoint (name : Name)
  | release (name : Name)
  | pragma (schema : Option Token) (name : Name) (value : Option String)
  | vacuum (schema : Option Token)
  | analyze (first second : Option Token)
  | reindex (first second : Option Token)
  | attach (file name : Expr) (key : Option Expr)
  | detach (name : Expr)
  /-- `EXPLAIN`: the statement is prepared, not run. -/
  | explain (c : Command)
  deriving Inhabited

end Shipyard.Sql
