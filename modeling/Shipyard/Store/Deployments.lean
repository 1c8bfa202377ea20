import Shipyard.Store.Repos
/-!
# Deployments in the store

A deployment is saved in `init`, whatever status it is given, under its own identifier or a new
one, and only for a repository that exists. From then on its status moves only as
`DeploymentStatus.canMove` allows; an update also rewrites its space, commit, message and error,
never its repository, author, rollback origin or creation time.

Lists of a repository's deployments are newest first. Superseding fails every deployment of a
repository that is still live, but the one kept, with the error `superseded`; the identifiers it
answers are ordered by their status's name, then by age. Marking rolled back moves to
`rolledBack` every `done` deployment of the repository saved after the one put back, but the one
kept.
-/
namespace Shipyard.Store

open Db (update)

/-- The deployment with the identifier. -/
def getDeployment (id : String) : StoreM Deployment := do
  found .deploymentNotFound ((← get).deployments.find? (·.id == id))

/-- Saves a new deployment in `init`, made at `now`. -/
def saveDeployment (d : Deployment) (now : Instant) : StoreM Deployment := do
  let id ← if d.id.isEmpty then freshId else pure d.id
  let db ← get
  ensure (!db.deployments.any (·.id == id) && db.repositories.any (·.id == d.repoId)) .repoNotFound
  set { db with deployments := (db.deployments ++
    [{ d with id, status := .init, createdAt := now, updatedAt := now }]) }
  getDeployment id

/-- Moves a deployment to the status of `d`, with the space, commit, message and error of `d`. -/
def updateDeployment (d : Deployment) (now : Instant) : StoreM Deployment := do
  let current ← getDeployment d.id
  ensure (current.status.canMove d.status)
    (.invalidTransition d.id current.status.text d.status.text)
  modify fun db =>
    { db with deployments := (update (·.id == d.id)
        (fun e => { e with space := d.space, sha := d.sha, buildTag := d.buildTag,
                           branch := d.branch, tag := d.tag, message := d.message,
                           status := d.status, error := d.error, updatedAt := now })
        db.deployments) }
  getDeployment d.id

/-- The deployments of a repository, newest first. -/
def getDeployments (repoId : String) : StoreM (List Deployment) := do
  return ((← get).deployments.filter (·.repoId == repoId)).reverse

/-- The deployments of a repository that left `init`, newest first. -/
def getDeploymentHistory (repoId : String) : StoreM (List Deployment) := do
  return (← getDeployments repoId).filter (·.status != .init)

/-- Fails every live deployment of the repository but `keep`; answers their identifiers, by
status name, then oldest first. -/
def supersede (repoId keep : String) (now : Instant) : StoreM (List String) := do
  let hit := fun (d : Deployment) => d.repoId == repoId && d.id != keep && !d.status.isTerminal
  let db ← get
  let ids := ((db.deployments.filter hit).mergeSort
    fun a b => !(b.status.text < a.status.text)).map (·.id)
  set { db with deployments := (update hit
    (fun d => { d with status := .failed, error := some "superseded", updatedAt := now })
    db.deployments) }
  return ids

/-- Marks rolled back the `done` deployments of the repository saved after `source`, but `keep`;
answers how many. -/
def markRolledBack (repoId source keep : String) (now : Instant) : StoreM Nat := do
  let db ← get
  match db.deployments.findIdx? (·.id == source) with
  | none => return 0
  | some k =>
    let later := db.deployments.drop (k + 1)
    let hit := fun (d : Deployment) => d.repoId == repoId && d.status == .done && d.id != keep
    set { db with deployments := (db.deployments.take (k + 1) ++
      update hit (fun d => { d with status := .rolledBack, updatedAt := now }) later) }
    return (later.filter hit).length

end Shipyard.Store
