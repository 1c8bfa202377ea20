import Shipyard.Services.Host
import Shipyard.Services.Registry
import Shipyard.Services.Cluster
import Shipyard.Store.Accounts
import Shipyard.Store.Repos
import Shipyard.Store.Deployments
import Shipyard.Store.Sessions
import Shipyard.Progress.Bus
import Shipyard.Auth.Issuer
import Shipyard.Http.Cors
import Shipyard.Rpc.Error
import Shipyard.Cluster.Manifest
/-!
# The application's state

The platform serves requests against one state: its settings, the token issuer, the clock,
the store, the progress bus, the code host, the registry and the cluster, and the deploy runs.

A deploy saves its row at once and queues a run; runs are carried out when the application
settles, after the request that queued them. A run whose build is held waits, parked, until it
is cancelled. The runs in flight are those queued, running or parked, and not cancelled.

Requests are computations in `AppM ε`: a failure keeps the state reached so far, as each store
call commits on its own.
-/
namespace Shipyard.Platform

open Shipyard.Services
open Shipyard.Store

/-- How the platform is set up. -/
structure Settings where
  /-- Whether a new deployment fails the other live deployments of its repository. -/
  supersede : Bool := true
  /-- How long a run may take, in milliseconds. -/
  deployTimeoutMs : Nat := 300000
  cluster : Cluster.Settings := {}
  /-- How long a sign-in state stays valid, in seconds. -/
  stateTtl : Nat := 90
  /-- Where a browser lands after signing in; without it the token is answered as JSON. -/
  redirectUrl : Option String := none
  secureCookies : Bool := false
  /-- The identity providers by name, when an identity server is set up. -/
  providers : Option (List (String × String)) := none
  version : String := "1.2.3"
  /-- The secret webhook bodies are signed with; none turns checking off. -/
  webhookSecret : Option String := some "test-webhook-secret"
  cors : Http.Cors := .origin "http://localhost:3000"

/-- Where a deployment takes its source from. -/
inductive Source where
  /-- Check out a revision, read its manifest, and build the image when it is missing. -/
  | checkout (c : Checkout)
  /-- Reuse the space, commit and build tag of an earlier deployment. -/
  | redeploy (previous : Deployment)
  /-- As `redeploy`, recording the earlier deployment as the one rolled back from. -/
  | rollback (previous : Deployment)

/-- A request to deploy a repository. -/
structure DeployRequest where
  repo : Repository
  /-- The display name of who asked. -/
  user : String
  /-- The workspace of who asked, used when the repository's installation has none. -/
  workspaceHint : Option String
  source : Source

/-- A queued run: the row saved for it and what was asked. -/
structure Run where
  deployment : Deployment
  request : DeployRequest

/-- A run waiting on a held build, with the working trees it owns. -/
structure Parked where
  deploymentId : String
  trees : List String

/-- The state of the platform. -/
structure App where
  settings : Settings
  issuer : Auth.TokenIssuer
  now : Instant
  db : Db := {}
  bus : Progress.Bus := {}
  host : Host := {}
  registry : Registry := {}
  cluster : Cluster := {}
  /-- The runs in flight: deployment and repository identifiers. -/
  running : List (String × String) := []
  queued : List Run := []
  parked : List Parked := []
  /-- How many sign-in states were handed out. -/
  states : Nat := 0

/-- A request's computation on the application. -/
abbrev AppM (ε : Type) := ExceptT ε (StateM App)

namespace App

/-- The number of runs in flight. -/
def inFlight (a : App) : Nat := a.running.length

/-- Publishes a progress message. -/
def publish (a : App) (id : String) (m : ProgressMessage) : App :=
  { a with bus := a.bus.publish id m }

/-- Publishes an info message made now. -/
def info (a : App) (id payload : String) : App := a.publish id (ProgressMessage.info id payload a.now)

/-- Cancels the run of a deployment: it is no longer in flight, and a parked run lets go of its
working trees. -/
def cancel (a : App) (id : String) : App :=
  let trees := ((a.parked.find? (·.deploymentId == id)).map (·.trees)).getD []
  { a with running := a.running.filter (·.1 != id),
           parked := a.parked.filter (·.deploymentId != id),
           host := trees.foldl Host.removeTree a.host }

/-- Cancels the runs of a repository. -/
def cancelRepo (a : App) (repoId : String) : App :=
  (a.running.filter (·.2 == repoId)).foldl (fun a r => a.cancel r.1) a

end App

/-- Runs a store operation on the application's store. -/
def store {ε α : Type} (op : StoreM α) (err : StoreError → ε) : AppM ε α := do
  let a ← get
  match op a.db with
  | .ok (x, db) => set { a with db }; pure x
  | .error e => throw (err e)

/-- Runs a store operation, failing as the store's error does. -/
def stored {α : Type} (op : StoreM α) : AppM RpcError α := store op StoreError.toRpc

/-- Runs a store operation, answering its failure instead of failing; a failure changes
nothing. -/
def attempt {ε α : Type} (op : StoreM α) : AppM ε (Except StoreError α) := do
  let a ← get
  match op a.db with
  | .ok (x, db) => set { a with db }; pure (.ok x)
  | .error e => pure (.error e)

/-- The current time. -/
def now {ε : Type} : AppM ε Instant := do return (← get).now

/-- The workspace a repository deploys into, and the namespace of its service. -/
structure Scope where
  repoId : String
  workspaceId : String
  workspaceName : String

/-- The namespace of a scope. -/
def Scope.clusterNamespace (s : Scope) : String := Cluster.namespaceName s.workspaceName s.repoId

/-- The scope of a repository: its workspace, else `hint`, else the installation's owner with
no workspace. -/
def resolveScope (repo : Repository) (hint : Option String) : StoreM Scope := do
  let chosen := match repo.workspaceId with
    | some w => if w.isEmpty then none else some w
    | none => match hint with
      | some h => if h.isEmpty then none else some h
      | none => none
  match chosen with
  | some id =>
    let w ← getWorkspace id
    return ⟨repo.id, w.id, w.name⟩
  | none =>
    let i ← getInstallation repo.installationId
    return ⟨repo.id, "", i.owner⟩

end Shipyard.Platform
