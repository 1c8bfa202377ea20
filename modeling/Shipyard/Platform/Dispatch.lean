import Shipyard.Platform.Pipeline
import Shipyard.Webhook.Plan
/-!
# Webhook dispatch

A webhook's plan is carried out on the store and the pipeline:

* a new installation is linked with its repositories, and repositories are added or removed;
* a deleted installation first cancels the runs of each of its known repositories and removes
  their namespaces, then is forgotten (an unknown installation is no failure);
* a push deploys the pushed commit (or the branch, for a push without one) when the repository
  is known and connected, the branch is its connected branch (or, with none, `main` or
  `master`), and the commit is not the one its latest finished deployment has.

The answer lists the deployments started.
-/
namespace Shipyard.Platform

open Shipyard.Store
open Shipyard.Vcs

/-- The branches a connected repository without a connected branch deploys from. -/
def defaultDeployBranches : List String := ["main", "master"]

/-- Whether a push to `branch` deploys the repository. -/
def acceptsPush (r : Repository) (branch : String) : Bool :=
  match r.connectedBranch with
  | some b => if b.isEmpty then defaultDeployBranches.contains branch else b == branch
  | none => defaultDeployBranches.contains branch

/-- Removes the namespaces of an installation's repositories, then the installation. -/
def deleteInstallation (installationId : Int) (repos : List HostRepository) :
    AppM RpcError Unit := do
  for r in repos do
    match ← attempt (getRepoByVcsId r.id) with
    | .error .repoNotFound => pure ()
    | .error e => throw e.toRpc
    | .ok repo =>
      modify (·.cancelRepo repo.id)
      let scope ← stored (resolveScope repo none)
      modify fun a => { a with cluster := a.cluster.removeNamespace scope.clusterNamespace }
  match ← attempt (removeInstallation installationId) with
  | .ok _ | .error .installationNotFound => pure ()
  | .error e => throw e.toRpc

/-- Deploys a push, answering the deployment started. -/
def deployPush (vcsRepoId : Int) (branch sha sender : String) : AppM RpcError (Option String) := do
  match ← attempt (getRepoByVcsId vcsRepoId) with
  | .error .repoNotFound => return none
  | .error e => throw e.toRpc
  | .ok repo =>
    if !repo.connected || !acceptsPush repo branch then return none
    if !sha.isEmpty then
      let ds ← stored (getDeployments repo.id)
      if ((ds.find? (·.status == .done)).map (·.sha == sha)).getD false then return none
    let c : Checkout := if sha.isEmpty then .branch branch else .sha sha
    let d ← deploy { repo, user := sender, workspaceHint := none, source := .checkout c }
    return some d.id

/-- Carries out what a webhook asks, answering the deployments started. -/
def dispatch (p : Webhook.Payload) : AppM RpcError (List String) := do
  match Webhook.plan p with
  | .link i owner repos => discard (stored (linkInstallation i owner repos)); return []
  | .addRepos i owner repos => discard (stored (addRepositories i owner repos)); return []
  | .removeRepos i repos => stored (removeRepositories i repos); return []
  | .deleteInstallation i repos => deleteInstallation i repos; return []
  | .push vcsRepoId branch sha sender => return (← deployPush vcsRepoId branch sha sender).toList
  | .ignore => return []

end Shipyard.Platform
