import Shipyard.Sql.Session
import Shipyard.Error
import Shipyard.Text.Split
import Shipyard.Decimal.Text
/-!
# Migrations of the store's database

The store's tables are made by migrations: numbered SQL texts, each applied once and recorded
by its number. Four migrations come with the store. More may come from a directory, one file
each, named `<number>_<name>.sql` or `<number>.sql`; a file without the `.sql` ending, or whose
number part is not a 64-bit integer (an optional sign, then decimal digits), is passed over.

Opening the database runs the migrations in ascending order of number; among those of one
number, the store's own come first, then files in order of name. A migration whose number is
recorded is passed over, so of several that share a number only the first runs. A migration
runs whole or not at all: when one fails, those before it stay applied, and the opening fails
with the migration's number, name and failure.

Opening works through an `Engine`: the statements it runs on a connection to the database, the
record's and the migrations' own, are the engine's to carry out. The store's engine is
`sqlEngine`.
-/
namespace Shipyard.Store

/-- A numbered SQL text. -/
structure Migration where
  version : Int
  name : String
  sql : String
  deriving Repr

/-- The database file as migrations leave it: its main schema with the rows of its tables, and
whether it is in write-ahead mode. -/
structure Database where
  main : Sql.Schema := { name := "main" }
  wal : Bool := false
  deriving Inhabited

namespace Migration

/-- The migrations that come with the store. -/
def builtIn : List Migration :=
  [⟨1, "identity",
    "CREATE TABLE IF NOT EXISTS workspaces (id TEXT PRIMARY KEY, name TEXT NOT NULL UNIQUE, " ++
    "created_at TEXT NOT NULL); CREATE TABLE IF NOT EXISTS users (id TEXT PRIMARY KEY, " ++
    "email TEXT NOT NULL UNIQUE, display_name TEXT NOT NULL UNIQUE, " ++
    "current_workspace TEXT REFERENCES workspaces(id), created_at TEXT NOT NULL);"⟩,
   ⟨2, "github",
    "CREATE TABLE IF NOT EXISTS installations (id TEXT PRIMARY KEY, " ++
    "vcs_installation_id INTEGER NOT NULL UNIQUE, owner TEXT NOT NULL, " ++
    "workspace_id TEXT REFERENCES workspaces(id) ON DELETE SET NULL, created_at TEXT NOT NULL);" ++
    " CREATE TABLE IF NOT EXISTS repositories (id TEXT PRIMARY KEY, installation_id INTEGER " ++
    "NOT NULL REFERENCES installations(vcs_installation_id) ON DELETE CASCADE, " ++
    "vcs_id INTEGER NOT NULL UNIQUE, full_name TEXT NOT NULL, " ++
    "default_branch TEXT NOT NULL DEFAULT 'main', private INTEGER NOT NULL DEFAULT 0, " ++
    "connected_branch TEXT, webhook_id INTEGER, connected INTEGER NOT NULL DEFAULT 0, " ++
    "created_at TEXT NOT NULL); CREATE INDEX IF NOT EXISTS idx_installations_owner ON " ++
    "installations(owner); CREATE INDEX IF NOT EXISTS idx_repositories_installation ON " ++
    "repositories(installation_id);"⟩,
   ⟨3, "deployments",
    "CREATE TABLE IF NOT EXISTS deployments (id TEXT PRIMARY KEY, repo_id TEXT NOT NULL " ++
    "REFERENCES repositories(id) ON DELETE CASCADE, space TEXT NOT NULL DEFAULT '\x7b\x7d', " ++
    "sha TEXT NOT NULL DEFAULT '', build_tag TEXT NOT NULL DEFAULT '', " ++
    "branch TEXT NOT NULL DEFAULT '', tag TEXT NOT NULL DEFAULT '', " ++
    "message TEXT NOT NULL DEFAULT '', user_display_name TEXT NOT NULL DEFAULT '', " ++
    "status TEXT NOT NULL DEFAULT 'init', error TEXT, rolled_back_from_id TEXT, " ++
    "created_at TEXT NOT NULL, updated_at TEXT NOT NULL); CREATE INDEX IF NOT EXISTS " ++
    "idx_deployments_repo ON deployments(repo_id); CREATE INDEX IF NOT EXISTS " ++
    "idx_deployments_repo_status ON deployments(repo_id, status);"⟩,
   ⟨4, "secrets_and_sessions",
    "CREATE TABLE IF NOT EXISTS repository_secret_keys (workspace_id TEXT NOT NULL, " ++
    "repo_id TEXT NOT NULL REFERENCES repositories(id) ON DELETE CASCADE, key TEXT NOT NULL, " ++
    "created_at TEXT NOT NULL, PRIMARY KEY (workspace_id, repo_id, key)); " ++
    "CREATE TABLE IF NOT EXISTS auth_states (state TEXT PRIMARY KEY, expires_at TEXT NOT NULL);" ++
    " CREATE TABLE IF NOT EXISTS token_pairs (user_id TEXT PRIMARY KEY REFERENCES users(id) " ++
    "ON DELETE CASCADE, access_token TEXT NOT NULL, refresh_token TEXT NOT NULL, " ++
    "updated_at TEXT NOT NULL);"⟩]

/-- The number a file name's number part writes: an optional sign and decimal digits, within
64 bits. -/
def versionOf? (s : String) : Option Int := do
  let (negative, digits) := match s.toList with
    | '-' :: ds => (true, ds)
    | '+' :: ds => (false, ds)
    | ds => (false, ds)
  let n ← Decimal.natOf? digits
  let v : Int := if negative then -(n : Int) else n
  if -Int.pow 2 63 ≤ v && v < Int.pow 2 63 then some v else none

/-- The migration a file holds, if its name is that of a migration. -/
def ofFile? (fileName contents : String) : Option Migration := do
  if !fileName.endsWith ".sql" then none
  let stem := String.ofList (fileName.toList.take (fileName.length - 4))
  let (number, name) := (Text.splitOnce stem "_").getD (stem, "")
  let version ← versionOf? number
  some ⟨version, name, contents⟩

/-- The migrations to run, given the files of a directory (names and contents), if any. -/
def pending (files : Option (List (String × String))) : List Migration :=
  let named := (files.getD []).mergeSort fun a b => !(b.1 < a.1)
  (builtIn ++ named.filterMap fun (n, c) => ofFile? n c).mergeSort
    fun a b => decide (a.version ≤ b.version)

end Migration

namespace Database

/-- A database that no migration has run on. -/
def fresh : Database := {}

/-- The statement that makes the record of applied migrations. -/
def recordTable : String :=
  "CREATE TABLE IF NOT EXISTS schema_migrations (\n" ++
  "                version INTEGER PRIMARY KEY,\n" ++
  "                name TEXT NOT NULL,\n" ++
  "                applied_at TEXT NOT NULL\n" ++
  "            );"

/-- When a migration is recorded as applied. -/
def appliedAt : String := "2000-01-01T00:00:00Z"

/-- The name the engine gives a value's type when a row does not hold the type asked for. -/
def typeName : Sql.Value → String
  | .null => "Null"
  | .integer _ => "Integer"
  | .real _ => "Real"
  | .text _ => "Text"
  | .blob _ => "Blob"

/-- The first value of the first row, read as an integer. -/
def firstInteger (rows : List (List Sql.Value)) (column : String) : Except String Int :=
  match rows.head?.bind (·.head?) with
  | none => .error "Query returned no rows"
  | some (.integer i) => .ok i
  | some v => .error ("Invalid column type " ++ typeName v ++ " at index: 0, name: " ++ column)

/-- What opening asks of a connection to the database: to run one statement with values bound to
its parameters (a query gives its rows), to run a text of statements until one fails, and to undo
the transaction in progress. -/
structure Engine (σ : Type) where
  execute : σ → String → List (String × Sql.Value) →
    σ × Except Sql.StatementFailure (List (List Sql.Value))
  executeBatch : σ → String → σ × Option Sql.StatementFailure
  rollbackOpen : σ → σ

/-- The engine of the store's database file. -/
def sqlEngine : Engine Sql.Connection :=
  ⟨Sql.Connection.execute, Sql.Connection.executeBatch, Sql.Connection.rollbackOpen⟩

/-- The switches a connection is opened with. -/
def pragmas : String := "PRAGMA foreign_keys = ON; PRAGMA busy_timeout = 5000;"

/-- The query that asks whether a version is recorded. -/
def countRecorded : String := "SELECT COUNT(*) > 0 FROM schema_migrations WHERE version = ?1"

/-- The statement that records a migration. -/
def insertRecord : String :=
  "INSERT INTO schema_migrations (version, name, applied_at) VALUES (?1, ?2, ?3)"

/-- The query that reads the recorded versions. -/
def readRecord : String := "SELECT version FROM schema_migrations ORDER BY version"

/-- The values `insertRecord` records a migration with. -/
def recordParams (m : Migration) : List (String × Sql.Value) :=
  [("?1", .integer m.version), ("?2", .text m.name), ("?3", .text appliedAt)]

/-- A failure of running the migrations, with what failed. -/
def runFailure (parts : List String) : Failure := ⟨"Failed to run migrations" :: parts⟩

section Run

variable {σ : Type} (E : Engine σ)

/-- Runs one migration in a transaction with its record; a failure after the transaction began
undoes it. -/
def transact (c : σ) (m : Migration) : σ × Option Failure :=
  let (c, err) := E.executeBatch c "BEGIN DEFERRED"
  match err with
  | some f => (c, some (runFailure [f.render]))
  | none =>
    let (c, err) := E.executeBatch c m.sql
    match err with
    | some f => (E.rollbackOpen c, some (runFailure ["Migration " ++ toString m.version ++ " (" ++
        m.name ++ ") failed", f.render]))
    | none =>
      let (c, r) := E.execute c insertRecord (recordParams m)
      match r with
      | .error f => (E.rollbackOpen c, some (runFailure [f.render]))
      | .ok _ =>
        let (c, err) := E.executeBatch c "COMMIT"
        match err with
        | some f => (E.rollbackOpen c, some (runFailure [f.render]))
        | none => (c, none)

/-- Runs the migrations that are not recorded, each in a transaction with its record, until one
fails. -/
def runAll (c : σ) : List Migration → σ × Option Failure
  | [] => (c, none)
  | m :: rest =>
    let (c, r) := E.execute c countRecorded [("?1", .integer m.version)]
    match r with
    | .error f => (c, some (runFailure [f.render]))
    | .ok rows =>
      match firstInteger rows "COUNT(*) > 0" with
      | .error msg => (c, some (runFailure [msg]))
      | .ok n =>
        if n != 0 then runAll c rest
        else
          match transact E c m with
          | (c, some f) => (c, some f)
          | (c, none) => runAll c rest

/-- The numbers of the applied migrations, ascending, as the record holds them. -/
def recorded (c : σ) : Except Failure (List Int) :=
  match (E.execute c readRecord []).2 with
  | .error f => .error ⟨["Failed to prepare migrations query", f.render]⟩
  | .ok rows =>
    rows.foldr (fun row acc => do
      let tail ← acc
      match firstInteger [row] "version" with
      | .ok i => pure (i :: tail)
      | .error msg => throw ⟨["Failed to read migrations", msg]⟩) (.ok [])

/-- Opening on a connection: switches foreign keys on, makes the record of migrations, runs the
migrations that are not recorded, and reads the record. -/
def openWith (c : σ) (ms : List Migration) : σ × Except Failure (List Int) :=
  let (c, err) := E.executeBatch c pragmas
  match err with
  | some f => (c, .error ⟨["Failed to enable foreign keys", f.render]⟩)
  | none =>
    let (c, err) := E.executeBatch c recordTable
    match err with
    | some f => (c, .error (runFailure [f.render]))
    | none =>
      match runAll E c ms with
      | (c, some f) => (c, .error f)
      | (c, none) => (c, recorded E c)

end Run

/-- Opens the database and runs its migrations. What was committed stays in the file, also when
the opening fails. -/
def migrate (db : Database) (ms : List Migration) : Database × Except Failure (List Int) :=
  let (c, r) := openWith sqlEngine (Sql.Connection.openOn db.main db.wal) ms
  let c := c.rollbackOpen
  ({ main := (c.exec.db.schema? "main").getD db.main, wal := c.wal }, r)

end Database

end Shipyard.Store
