import Shipyard.Store.Rows
import Shipyard.Error
/-!
# The store

The store is one value, `Db`: a list of rows per table, each in the order the rows were
added, and the count of identifiers handed out so far. An operation is a function of the store
that returns a result and the new store, or a `StoreError` and no new store: a failed operation
leaves the store as it was, as a transaction that is rolled back does.

The tables keep these rules, which the operations check before they write:

* no two workspaces share an identifier or a name, no two users an identifier, an e-mail
  address or a display name, and no two installations or repositories a host number;
* every repository's installation exists, and so does the repository of every deployment and
  every secret key, and the user of every token pair. Deleting a repository deletes its
  deployments and secret keys with it, deleting an installation its repositories.

A write that would break one of them fails with the `Violation` it names.
-/
namespace Shipyard

/-- A rule of the tables that a write would break. -/
inductive Violation where
  /-- Two rows of `table` would share the value of `column`. -/
  | unique (table column : String)
  /-- Two rows of `table` would share their identifier `column`. -/
  | primaryKey (table column : String)
  /-- A row would name a row of another table that does not exist. -/
  | foreignKey
  deriving Repr, DecidableEq

namespace Violation

/-- What the rule says was broken. -/
def text : Violation → String
  | .unique t c | .primaryKey t c => "UNIQUE constraint failed: " ++ t ++ "." ++ c
  | .foreignKey => "FOREIGN KEY constraint failed"

/-- The numbered code of the broken rule and its description. -/
def detail : Violation → String
  | .unique .. => "Error code 2067: A UNIQUE constraint failed"
  | .primaryKey .. => "Error code 1555: A PRIMARY KEY constraint failed"
  | .foreignKey => "Error code 787: Foreign key constraint failed"

/-- The store error of a write that broke the rule, under the context of the write. -/
def failure (context : String) (v : Violation) : StoreError :=
  .other ⟨[context, v.text, v.detail]⟩

end Violation

/-- The tables of the store. -/
structure Db where
  workspaces : List Workspace := []
  users : List User := []
  installations : List Installation := []
  repositories : List RepositoryRow := []
  /-- Deployments in the order they were saved. -/
  deployments : List Deployment := []
  secretKeys : List SecretKey := []
  authStates : List AuthState := []
  tokenPairs : List TokenPair := []
  /-- How many identifiers have been handed out. -/
  issued : Nat := 0
  deriving Repr

/-- An operation on the store. -/
abbrev StoreM := StateT Db (Except StoreError)

namespace Store

/-- A new identifier. -/
def freshId : StoreM String :=
  modifyGet fun db => (idText (db.issued + 1), { db with issued := db.issued + 1 })

/-- Fails with `e` unless `b`. -/
def ensure (b : Bool) (e : StoreError) : StoreM Unit :=
  if b then pure () else throw e

/-- The value, or the failure `e` when there is none. -/
def found {α : Type} (e : StoreError) : Option α → StoreM α
  | some a => pure a
  | none => throw e

end Store

namespace Db

/-- The rows of `xs` with `f` applied to those that satisfy `p`. -/
def update {α : Type} (p : α → Bool) (f : α → α) (xs : List α) : List α :=
  xs.map fun x => if p x then f x else x

/-- Deletes the repositories that satisfy `p`, with their deployments and secret keys. -/
def dropRepositories (db : Db) (p : RepositoryRow → Bool) : Db :=
  let gone := (db.repositories.filter p).map (·.id)
  { db with
    repositories := db.repositories.filter (!p ·)
    deployments := db.deployments.filter fun d => !gone.contains d.repoId
    secretKeys := db.secretKeys.filter fun k => !gone.contains k.repoId }

/-- The repositories with their installations, for those that satisfy `p`, in order of full
name (ties in the order the repositories were added). -/
def listed (db : Db) (p : Installation → RepositoryRow → Bool) : List Repository :=
  let joined := db.repositories.filterMap fun r =>
    match db.installations.find? (·.vcsInstallationId == r.installationId) with
    | some i => if p i r then some (i, r) else none
    | none => none
  let read := joined.map fun (i, r) =>
    ({ toRepositoryRow := r, workspaceId := i.workspaceId } : Repository)
  read.mergeSort fun a b => !(b.fullName < a.fullName)

end Db

end Shipyard
