import Shipyard.Store.Basic
/-!
# Users and workspaces

A user is found by e-mail address at sign-in, or made with a workspace of their own. The
workspace takes the user's display name, or, when a workspace already has that name, the
display name and the first eight characters of the workspace's identifier. Installations that
the user's account received before this first sign-in join the new workspace.

A new row is checked against the rules on its table in a fixed order, and the first broken
one is the failure: for a workspace its name, then its identifier; for a user the display name,
the e-mail address, then the identifier.
-/
namespace Shipyard.Store

open Db (update)

/-- The rule a new workspace would break. -/
def workspaceViolation? (db : Db) (w : Workspace) : Option Violation :=
  if db.workspaces.any (·.name == w.name) then some (.unique "workspaces" "name")
  else if db.workspaces.any (·.id == w.id) then some (.primaryKey "workspaces" "id")
  else none

/-- The rule a new user would break. -/
def userViolation? (db : Db) (u : User) : Option Violation :=
  if db.users.any (·.displayName == u.displayName) then some (.unique "users" "display_name")
  else if db.users.any (·.email == u.email) then some (.unique "users" "email")
  else if db.users.any (·.id == u.id) then some (.primaryKey "users" "id")
  else none

/-- Adds a row unless it breaks a rule, which fails under `context`. -/
def insertChecked {α : Type} (context : String) (violation? : Db → α → Option Violation)
    (add : Db → α → Db) (row : α) : StoreM Unit := do
  match violation? (← get) row with
  | some v => throw (v.failure context)
  | none => modify (add · row)

/-- The user with the identifier. -/
def getUser (id : String) : StoreM User := do
  found .userNotFound ((← get).users.find? (·.id == id))

/-- The workspace with the identifier. -/
def getWorkspace (id : String) : StoreM Workspace := do
  found .workspaceNotFound ((← get).workspaces.find? (·.id == id))

/-- The name a new workspace of `displayName` with identifier `id` takes. -/
def workspaceName (db : Db) (displayName id : String) : String :=
  if db.workspaces.any (·.name == displayName) then
    displayName ++ "-" ++ String.ofList (id.toList.take 8)
  else displayName

/-- The user with the e-mail address of `u`, or a new one made of `u` (with a new identifier
when `u`'s is empty) in a new workspace. -/
def getOrCreateUser (u : User) : StoreM User := do
  if let some existing := (← get).users.find? (·.email == u.email) then return existing
  let wsId ← freshId
  let name := workspaceName (← get) u.displayName wsId
  insertChecked "Failed to insert workspace" workspaceViolation?
    (fun db w => { db with workspaces := db.workspaces ++ [w] }) ⟨wsId, name⟩
  let id ← if u.id.isEmpty then freshId else pure u.id
  let user := { u with id, currentWorkspace := wsId }
  insertChecked "Failed to insert user" userViolation?
    (fun db u => { db with users := db.users ++ [u] }) user
  let waiting := fun (i : Installation) => i.owner == u.displayName && i.workspaceId.isNone
  let join := fun (i : Installation) => { i with workspaceId := some wsId }
  modify fun db => { db with installations := update waiting join db.installations }
  getUser id

end Shipyard.Store
