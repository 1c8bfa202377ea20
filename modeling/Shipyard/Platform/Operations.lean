import Shipyard.Platform.Pipeline
import Shipyard.Secret.Key
import Shipyard.Schema.Basic
/-!
# Operations

The named operations a signed-in caller may call, each reading a JSON request of its own shape
and answering JSON. Every operation but `info` first finds the caller from the `id` claim of the
bearer token; an operation on a repository or a deployment then only sees what the caller's
workspace reaches, and a deployment the caller cannot see is reported as not found.

Repositories deploy into their workspace's namespace; a repository without a workspace deploys
under its installation's owner. Secret values live in the cluster and their keys in the store:
setting a secret writes the value first, removing one forgets the key first.
-/
namespace Shipyard.Platform

open Shipyard.Services
open Shipyard.Store
open Shipyard.Vcs
open Shipyard.Token

/-- A named operation: the shape of its request and what it does for the caller's claims. -/
structure Operation where
  name : String
  input : Schema
  run : Claims → Json → AppM RpcError Json

/-- A text field of a request read by its schema. -/
def field (j : Json) (k : String) : String := (j.fieldStr? k).getD ""

/-- The caller, named by the `id` claim. -/
def currentUser (claims : Claims) : AppM RpcError User := do
  let id := Auth.claimText claims "id"
  if id.isEmpty then throw (.unauthorized "token carries no user id")
  store (getUser id) fun
    | .userNotFound => .unauthorized "unknown user"
    | e => e.toRpc

/-- A repository the user sees. -/
def visibleRepo (u : User) (repoId : String) : AppM RpcError Repository :=
  stored (getRepoById u.id repoId)

/-- A deployment of a repository the user sees. -/
def visibleDeployment (u : User) (id : String) : AppM RpcError Deployment := do
  let d ← stored (getDeployment id)
  let _ ← store (getRepoById u.id d.repoId) fun
    | .repoNotFound => .new "DEPLOYMENT_NOT_FOUND" StoreError.deploymentNotFound.message
    | e => e.toRpc
  return d

/-- The scope of a repository for the user. -/
def userScope (u : User) (r : Repository) : AppM RpcError Scope :=
  stored (resolveScope r (some u.currentWorkspace))

/-- Fails with the error of a code host answer. -/
def hostAnswer {α : Type} : Except SourceError α → AppM RpcError α
  | .ok a => pure a
  | .error e => throw e.toRpc

/-- Fails with the error of a cluster answer. -/
def clusterAnswer {α : Type} : Except ClusterError α → AppM RpcError α
  | .ok a => pure a
  | .error e => throw e.toRpc

/-- The request of an operation on a repository. -/
def repoRequest : Schema := .record "RepoRequest" [Schema.req "repoId" .string ["repoID"]]

/-- The request naming a deployment. -/
def deploymentRequest : Schema :=
  .record "DeploymentRequest" [Schema.req "deploymentId" .string ["deploymentID"]]

/-- The request of a deploy: every field may be left out. -/
def deployRequest : Schema :=
  let blank (n : String) (aliases : List String := []) := Schema.opt n .string (.str "") aliases
  .record "DeployRequestBody"
    [blank "repoId" ["repoID"], blank "branch", blank "sha", blank "tag",
     blank "fromDeploymentId" ["fromDeploymentID"]]

def reposJson (rs : List Repository) : Json := .arr (rs.map Repository.toJson)

/-- `info`: the platform's version. -/
def info (_ : Claims) (_ : Json) : AppM RpcError Json := do
  return .obj [("version", .str (← get).settings.version)]

/-- `getProfile`: the caller and the caller's workspace, if it exists. -/
def getProfile (claims : Claims) (_ : Json) : AppM RpcError Json := do
  let u ← currentUser claims
  let ws ← if u.currentWorkspace.isEmpty then pure Json.null else
    match ← attempt (getWorkspace u.currentWorkspace) with
    | .ok w => pure w.toJson
    | .error .workspaceNotFound => pure Json.null
    | .error e => throw e.toRpc
  return .obj [("userInfo", u.toJson), ("workspace", ws)]

/-- `getRepos`: the repositories the caller sees. -/
def getRepos (claims : Claims) (_ : Json) : AppM RpcError Json := do
  let u ← currentUser claims
  let rs ← stored (getRepositories u.id)
  return .obj [("installation", .bool !rs.isEmpty), ("repos", reposJson rs)]

/-- `getBranches`: the branches of a repository. -/
def getBranches (claims : Claims) (req : Json) : AppM RpcError Json := do
  let u ← currentUser claims
  let _ ← visibleRepo u (field req "repoId")
  return .obj [("branches", Json.ofStrings (← get).host.branches)]

/-- `syncGithubApp`: links every installation the caller's host token reaches. -/
def syncInstallations (claims : Claims) (_ : Json) : AppM RpcError Json := do
  let u ← currentUser claims
  let some _ ← stored (getTokenPair u.id)
    | throw (.unauthorized "GitHub token expired or invalid, please re-authenticate with GitHub")
  let installations ← hostAnswer (← get).host.userInstallations
  if installations.isEmpty then
    throw (.new "NO_INSTALLATIONS_FOUND" "no accessible github app installations found for user")
  for i in installations do
    let repos := (← get).host.repositoriesOf i
    discard (stored (linkInstallation i u.displayName repos))
  let rs ← stored (getRepositories u.id)
  return .obj [("installation", .bool true), ("repos", reposJson rs)]

/-- `connectRepoBranch`: checks the branch's manifest and connects the repository to it. -/
def connectBranch (claims : Claims) (req : Json) : AppM RpcError Json := do
  let u ← currentUser claims
  let repo ← visibleRepo u (field req "repoId")
  let branch := field req "branch"
  hostAnswer ((← get).host.checkBranch branch)
  let repo ← stored (connectRepo u.id repo.id branch)
  return .obj [("repo", repo.toJson)]

/-- A deployment as an answer. -/
def deploymentAnswer (d : Deployment) : Json := .obj [("deployment", d.toJson)]

/-- `deploy`: deploys a revision of a connected repository, or an earlier deployment again. -/
def deployOp (claims : Claims) (req : Json) : AppM RpcError Json := do
  let u ← currentUser claims
  let repo ← visibleRepo u (field req "repoId")
  if !repo.connected then throw (.new "REPO_IS_NOT_CONNECTED" "connect a branch before deploying")
  let branch := field req "branch"
  let sha := field req "sha"
  let tag := field req "tag"
  let source ← if !(field req "fromDeploymentId").isEmpty then do
      let previous ← visibleDeployment u (field req "fromDeploymentId")
      if previous.repoId != repo.id then
        throw (.new "DEPLOYMENT_NOT_FOUND" StoreError.deploymentNotFound.message)
      if previous.sha.isEmpty then
        throw (.new "INVALID_REQUEST" "deployment has no commit to redeploy")
      pure (Source.redeploy previous)
    else if branch.isEmpty && sha.isEmpty && tag.isEmpty then
      pure (Source.checkout (.branch repo.deployBranch))
    else match Checkout.ofParts branch sha tag with
      | .ok c => pure (Source.checkout c)
      | .error issue => throw (CheckoutIssue.toSource issue).toRpc
  let d ← deploy { repo, user := u.displayName, workspaceHint := some u.currentWorkspace, source }
  return deploymentAnswer d

/-- `getDeployment`. -/
def getDeploymentOp (claims : Claims) (req : Json) : AppM RpcError Json := do
  let u ← currentUser claims
  return deploymentAnswer (← visibleDeployment u (field req "deploymentId"))

/-- `getDeployments`: the deployments of a repository, newest first. -/
def getDeploymentsOp (claims : Claims) (req : Json) : AppM RpcError Json := do
  let u ← currentUser claims
  let repo ← visibleRepo u (field req "repoId")
  let ds ← stored (getDeployments repo.id)
  return .obj [("deployments", .arr (ds.map Deployment.toJson))]

/-- `getDeploymentHistory`: the deployments of a repository that started, newest first. -/
def getHistoryOp (claims : Claims) (req : Json) : AppM RpcError Json := do
  let u ← currentUser claims
  let repo ← visibleRepo u (field req "repoId")
  let ds ← stored (getDeploymentHistory repo.id)
  return .obj [("history", .arr (ds.map Deployment.historyJson))]

/-- `rollbackDeployment`: deploys a finished deployment again, as a rollback. -/
def rollbackOp (claims : Claims) (req : Json) : AppM RpcError Json := do
  let u ← currentUser claims
  let source ← visibleDeployment u (field req "deploymentId")
  if !(source.status == .done || source.status == .rolledBack) then
    throw (.new "INVALID_REQUEST" ("cannot roll back to a " ++ source.status.text ++ " deployment"))
  let repo ← visibleRepo u source.repoId
  let d ← deploy { repo, user := u.displayName, workspaceHint := some u.currentWorkspace,
                   source := .rollback source }
  return deploymentAnswer d

/-- `getSecrets`: the keys of a repository's secrets. -/
def getSecretsOp (claims : Claims) (req : Json) : AppM RpcError Json := do
  let u ← currentUser claims
  let repo ← visibleRepo u (field req "repoId")
  let scope ← userScope u repo
  let keys ← stored (secretKeys scope.workspaceId repo.id)
  return .obj [("keys", Json.ofStrings keys)]

/-- `revealSecrets`: the values of secrets, by key. -/
def revealSecretsOp (claims : Claims) (req : Json) : AppM RpcError Json := do
  let u ← currentUser claims
  let repo ← visibleRepo u (field req "repoId")
  let scope ← userScope u repo
  let keys := (((req.field? "keys").bind Json.arr?).getD []).map fun k => (k.str?).getD ""
  let mut values : List (String × String) := []
  for key in keys do
    if !(← stored (secretKeyExists ⟨scope.workspaceId, repo.id, key⟩)) then
      throw ((RpcError.new "SECRET_DOESNT_EXIST" "secret doesn't exist").withMeta "key" key)
    let v ← clusterAnswer ((← get).cluster.getSecret scope.clusterNamespace repo.id key)
    values := putSorted key v values
  return .obj [("values", .obj (values.map fun (k, v) => (k, .str v)))]

/-- `setSecret`: keeps a secret's value in the cluster, then its key in the store. -/
def setSecretOp (claims : Claims) (req : Json) : AppM RpcError Json := do
  let key := field req "key"
  if !Secret.isValidKey key then
    throw (.new "INVALID_SECRET_KEY"
      "secret keys start with a letter and contain letters, digits, '_', '.' or '-'")
  let u ← currentUser claims
  let repo ← visibleRepo u (field req "repoId")
  let scope ← userScope u repo
  let value := field req "value"
  modify fun a => { a with cluster := a.cluster.storeSecret scope.clusterNamespace repo.id key value }
  stored (saveSecret ⟨scope.workspaceId, repo.id, key⟩)
  return .obj []

/-- `removeSecret`: forgets a secret's key, then drops its value if the cluster has it. -/
def removeSecretOp (claims : Claims) (req : Json) : AppM RpcError Json := do
  let u ← currentUser claims
  let repo ← visibleRepo u (field req "repoId")
  let scope ← userScope u repo
  let key := field req "key"
  stored (removeSecret ⟨scope.workspaceId, repo.id, key⟩)
  match (← get).cluster.removeSecret scope.clusterNamespace repo.id key with
  | .ok cluster => modify fun a => { a with cluster }
  | .error .secretNotFound => pure ()
  | .error e => throw e.toRpc
  return .obj []

/-- `getWorkloadStats`: how the repository's service runs. -/
def workloadStatsOp (claims : Claims) (req : Json) : AppM RpcError Json := do
  let u ← currentUser claims
  let repo ← visibleRepo u (field req "repoId")
  let scope ← userScope u repo
  let stats ← clusterAnswer ((← get).cluster.workloadStats scope.clusterNamespace)
  return .obj [("workloadStats", stats.toJson)]

/-- The named operations. -/
def operations : List Operation :=
  [⟨"info", .ignored, info⟩,
   ⟨"getProfile", .ignored, getProfile⟩,
   ⟨"getRepos", .ignored, getRepos⟩,
   ⟨"getBranches", .record "GetBranchesRequest"
      [Schema.req "repoId" .string ["repoID"], Schema.opt "fresh" .bool (.bool false)], getBranches⟩,
   ⟨"syncGithubApp", .ignored, syncInstallations⟩,
   ⟨"connectRepoBranch", .record "ConnectBranchRequest"
      [Schema.req "repoId" .string ["repoID"], Schema.req "branch" .string], connectBranch⟩,
   ⟨"deploy", deployRequest, deployOp⟩,
   ⟨"getDeployment", deploymentRequest, getDeploymentOp⟩,
   ⟨"getDeployments", repoRequest, getDeploymentsOp⟩,
   ⟨"getDeploymentHistory", repoRequest, getHistoryOp⟩,
   ⟨"rollbackDeployment", deploymentRequest, rollbackOp⟩,
   ⟨"getSecrets", repoRequest, getSecretsOp⟩,
   ⟨"revealSecrets", .record "RevealSecretsRequest"
      [Schema.req "repoId" .string ["repoID"], Schema.req "keys" (.list .string)], revealSecretsOp⟩,
   ⟨"setSecret", .record "SetSecretRequest"
      [Schema.req "repoId" .string ["repoID"], Schema.req "key" .string,
       Schema.req "value" .string], setSecretOp⟩,
   ⟨"removeSecret", .record "RemoveSecretRequest"
      [Schema.req "repoId" .string ["repoID"], Schema.req "key" .string], removeSecretOp⟩,
   ⟨"getWorkloadStats", repoRequest, workloadStatsOp⟩]

end Shipyard.Platform
