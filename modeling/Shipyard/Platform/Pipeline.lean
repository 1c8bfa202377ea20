import Shipyard.Platform.App
/-!
# Deploy runs

A deploy saves the deployment's row in `init` and answers it. Unless superseding is off, every
other live deployment of the repository then fails as `superseded`, its run is cancelled, and
its progress ends with the error `SUPERSEDED`. The new run is in flight, its progress starts with
`queued`, and it is queued.

A run then goes through these steps, each reported on the deployment's progress:

1. it resolves the repository's workspace (`WORKSPACE_NOT_FOUND`);
2. for a checkout it fetches the sources: the row moves to `cloning`, a token for the
   installation is issued (`INSTALLATION_NOT_FOUND`), the revision is checked out
   (`FAILED_CLONE`), the manifest is read (`TQ_NOT_FOUND`, `INVALID_SPACE`), and the row records
   space, commit, build tag and message;
3. it looks for the image (`FAILED_INSPECT_IMAGE`); when the registry lacks it, a run without
   sources fetches the recorded commit, the row moves to `building`, and the image is built
   (`INVALID_SPACE`, `SECRET_DOESNT_EXIST`, `FAILED_BUILD`);
4. the row moves to `deploying`, the manifests are made and applied (`FAILED_APPLY`);
5. the row moves to `done`; a rollback marks the later finished deployments rolled back; the
   progress ends with `deployed <image>`.

Before each move of its row and before applying, a run checks that it was not cancelled. A failed run
records the failure on its row and ends its progress with the error's code; a cancelled run,
or one that finds its row already finished, ends silently. A held build parks the run until it
is cancelled, unless the run's time limit passes while the application settles: then it fails
with `DEPLOY_TIMEOUT`. A run that ends is no longer in flight and lets go of its working trees.
-/
namespace Shipyard.Platform

open Shipyard.Services
open Shipyard.Store

/-- The issue of a checkout as a source error. -/
def CheckoutIssue.toSource : CheckoutIssue → SourceError
  | .noneGiven => .noCheckout
  | .severalGiven => .severalCheckouts

/-- The row a deploy saves. -/
def DeployRequest.row (req : DeployRequest) : Deployment :=
  let base : Deployment := { repoId := req.repo.id, userDisplayName := req.user }
  let copy (p : Deployment) : Deployment :=
    { base with space := p.space, sha := p.sha, buildTag := p.buildTag, branch := p.branch,
                tag := p.tag, message := p.message }
  match req.source with
  | .checkout c =>
    { base with branch := c.branchName, tag := c.tagName,
                sha := match c with | .sha s => s | _ => "" }
  | .redeploy p => copy p
  | .rollback p => { copy p with rolledBackFromId := some p.id }

/-- Saves a deployment and queues its run. -/
def deploy (req : DeployRequest) : AppM RpcError Deployment := do
  let t ← now
  let d ← stored (saveDeployment req.row t)
  if (← get).settings.supersede then
    let ids ← stored (supersede d.repoId d.id t)
    for id in ids do
      modify fun a => (a.cancel id).publish id
        (ProgressMessage.failure id "SUPERSEDED" ("superseded by " ++ d.id) t).finished
  modify fun a => { a with running := a.running ++ [(d.id, d.repoId)],
                           queued := a.queued ++ [⟨d, req⟩] }
  modify fun a => a.info d.id "queued"
  return d

/-- Why a run stopped before its end. -/
inductive Stop where
  | failed (code message : String)
  /-- The row was finished by someone else. -/
  | cancelled
  /-- The build waits. -/
  | held

/-- What a run works on: the application, its row as last written, and its working trees. -/
structure RunState where
  app : App
  current : Deployment
  /-- The working trees the run made. -/
  trees : List String := []
  /-- The tree the sources were checked out into. -/
  tree : Option WorkTree := none

/-- A step of a run. -/
abbrev RunM := ExceptT Stop (StateM RunState)

namespace RunM

def fail {α : Type} (code message : String) : RunM α := throw (.failed code message)

/-- Runs a store operation, failing as `onError` says. -/
def store {α : Type} (op : StoreM α) (onError : StoreError → Stop) : RunM α := do
  let s ← get
  match op s.app.db with
  | .ok (x, db) => set { s with app := { s.app with db } }; pure x
  | .error e => throw (onError e)

/-- Reports progress. -/
def say (payload : String) : RunM Unit :=
  modify fun s => { s with app := s.app.info s.current.id payload }

/-- Stops the run if it was cancelled: its deployment is no longer in flight. -/
def checkCancel : RunM Unit := do
  let s ← get
  unless s.app.running.any (·.1 == s.current.id) do throw .cancelled

/-- Moves the row to a status, unless the run was cancelled. -/
def transition (status : DeploymentStatus) : RunM Unit := do
  checkCancel
  modify fun s => { s with current := { s.current with status } }
  let s ← get
  let updated ← store (updateDeployment s.current s.app.now) fun
    | .invalidTransition .. => .cancelled
    | e => .failed "FAILED_UPDATE_DEPLOYMENT" e.message
  modify fun s => { s with current := updated }

end RunM

open RunM

/-- The first line of a text, without a carriage return ending it. -/
def firstLine (s : String) : String :=
  let line := s.toList.takeWhile (· != '\n')
  String.ofList (if line.getLast? == some '\r' then line.dropLast else line)

/-- Whether a relative path stays inside the directory it is joined to: each of its components
is a name or `.`. -/
def staysInside (rel : String) : Bool := (Path.components rel).all Path.Component.staysIn

/-- A path joined to a working tree, as the tree's parent sees it: trailing empty and `.`
components are dropped, all others kept as written. -/
def treePath (dir rel : String) : String :=
  let parts := (dir ++ "/" ++ rel).toList.splitOn '/'
  let kept := (parts.drop 1).reverse.dropWhile fun p => p.isEmpty || p == ['.']
  String.ofList (['/'].intercalate (parts.take 1 ++ kept.reverse))

/-- The manifest's failure as a run failure. -/
def extractFailure (e : SourceError) : Stop :=
  match e with
  | .noManifest | .manifestUnreadable _ => .failed "TQ_NOT_FOUND" e.message
  | .invalidSpace _ => .failed "INVALID_SPACE" e.message
  | _ => .failed "FAILED_EXTRACT_CONFIG" e.message

/-- Checks out a revision of the repository and records what its manifest says. -/
def fetchSource (repo : Repository) (c : Checkout) : RunM Unit := do
  transition .cloning
  if let .error e := (← get).app.host.accessToken repo.installationId then
    fail "INSTALLATION_NOT_FOUND" e.message
  say ("cloning " ++ repo.fullName ++ " at " ++ c.display)
  let s ← get
  match s.app.host.checkout repo.id c with
  | .error e => fail "FAILED_CLONE" e.message
  | .ok (host, co) =>
    set { s with app := { s.app with host }, trees := s.trees ++ [co.tree.dir] }
    say ("checked out " ++ co.sha ++ " " ++ firstLine co.message)
    match co.tree.space with
    | .error e => throw (extractFailure e)
    | .ok space =>
      modify fun s => { s with
        current := { s.current with space := { space with key := repo.id }, sha := co.sha,
                                    buildTag := buildTag co.sha, message := co.message } }
      transition .cloning
      modify fun s => { s with tree := some co.tree }

/-- The build secrets of a service, by key. -/
def buildSecrets (cluster : Cluster) (ns repoId : String) (keys : List String) :
    Except Stop (List (String × String)) :=
  keys.foldlM (fun acc key =>
    match cluster.getSecret ns repoId key with
    | .ok v => .ok (putSorted key v acc)
    | .error .secretNotFound => .error (.failed "SECRET_DOESNT_EXIST" ("build secret " ++ key ++ " is not set"))
    | .error e => .error (.failed "FAILED_GET_SECRETS" e.message)) []

/-- Builds the image of the checked-out sources. -/
def build (ns : String) : RunM Image := do
  let s ← get
  let d := s.current
  let svc := d.space.service
  let dir := (s.tree.map (·.dir)).getD ""
  unless staysInside svc.dockerContext && staysInside svc.dockerfilePath do
    fail "INVALID_SPACE" "dockerContext and dockerfilePath must stay inside the repository"
  let secrets ← match buildSecrets s.app.cluster ns d.repoId svc.buildSecrets with
    | .ok v => pure v
    | .error e => throw e
  say "building image"
  let record : BuildRecord :=
    ⟨d.repoId, d.buildTag, treePath dir svc.dockerContext, treePath dir svc.dockerfilePath,
     svc.buildEnvs, secrets⟩
  let s ← get
  let (registry, outcome) := s.app.registry.build record
  set { s with app := { s.app with registry } }
  say "#1 building"
  match outcome with
  | .built image => pure image
  | .held => throw .held
  | .failed e => fail "FAILED_BUILD" e.message

/-- The image to deploy: the registry's, or a new build. -/
def image (repo : Repository) (ns : String) : RunM Image := do
  let s ← get
  match s.app.registry.inspect s.current.repoId s.current.buildTag with
  | .ok image =>
    say ("image " ++ image.fullPath ++ " already present, skipping build")
    pure image
  | .error .imageNotFound =>
    if s.tree.isNone then
      say "image missing from registry, rebuilding"
      fetchSource repo (.sha s.current.sha)
    transition .building
    build ns
  | .error e => fail "FAILED_INSPECT_IMAGE" e.message

/-- Makes and applies the manifests of the deployment. -/
def applyManifests (repo : Repository) (scope : Scope) (image : Image) (keys : List String) :
    RunM Unit := do
  let s ← get
  let manifest := Cluster.synthesize
    { deploymentId := s.current.id, repoId := repo.id, workspaceName := scope.workspaceName,
      space := s.current.space, image, secretKeys := keys } s.app.settings.cluster
  checkCancel
  say "applying manifests"
  let s ← get
  match s.app.cluster.apply manifest with
  | .error e => fail "FAILED_APPLY" e.message
  | .ok (cluster, _) => set { s with app := { s.app with cluster } }

/-- The steps of a run. -/
def steps (req : DeployRequest) : RunM Unit := do
  let scope ← RunM.store (resolveScope req.repo req.workspaceHint) fun e =>
    .failed "WORKSPACE_NOT_FOUND" e.message
  if let .checkout c := req.source then fetchSource req.repo c
  let image ← image req.repo scope.clusterNamespace
  transition .deploying
  let keys ← RunM.store (secretKeys scope.workspaceId req.repo.id) fun e =>
    .failed "FAILED_GET_SECRETS" e.message
  applyManifests req.repo scope image keys
  transition .done
  let s ← get
  if let some source := s.current.rolledBackFromId then
    if let .ok (_, db) := markRolledBack req.repo.id source s.current.id s.app.now s.app.db then
      set { s with app := { s.app with db } }
  let s ← get
  let done := (ProgressMessage.info s.current.id ("deployed " ++ image.fullPath) s.app.now).finished
  set { s with app := s.app.publish s.current.id done }

/-- The longest time limit that passes while the application settles, in milliseconds. -/
def settleLimitMs : Nat := 5000

/-- The application after a run has ended: the run is no longer in flight and its working trees
are gone. -/
def RunState.finish (s : RunState) : App :=
  { s.app with running := s.app.running.filter (·.1 != s.current.id),
               host := s.trees.foldl Host.removeTree s.app.host }

/-- The application after a run failed: its row records the failure, and its progress ends with
the error. -/
def RunState.failWith (s : RunState) (code message : String) : App :=
  let failed := { s.current with status := .failed, error := some message }
  let a := match updateDeployment failed s.app.now s.app.db with
    | .ok (_, db) => { s.app with db }
    | .error _ => s.app
  let a := a.publish s.current.id (ProgressMessage.failure s.current.id code message a.now).finished
  { s with app := a }.finish

/-- Carries out a queued run. A run cancelled while queued does nothing. -/
def execute (a : App) (run : Run) : App :=
  if !a.running.any (·.1 == run.deployment.id) then a
  else
    let (result, s) := (steps run.request).run { app := a, current := run.deployment } |>.run
    match result with
    | .ok () | .error .cancelled => s.finish
    | .error (.failed code message) => s.failWith code message
    | .error .held =>
      let limit := a.settings.deployTimeoutMs
      if limit ≤ settleLimitMs then
        s.failWith "DEPLOY_TIMEOUT" ("deployment exceeded " ++ toString (limit / 1000) ++ "s")
      else { s.app with parked := s.app.parked ++ [⟨run.deployment.id, s.trees⟩] }

/-- Carries out every queued run, in the order they were queued. -/
def App.settle (a : App) : App :=
  a.queued.foldl execute { a with queued := [] }

end Shipyard.Platform
