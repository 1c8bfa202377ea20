import Shipyard.Store.Accounts
import Shipyard.Vcs.Repository
/-!
# Installations and repositories

The host reports which repositories an installation covers; the store keeps them under the
installation's host number. Writing an installation that exists keeps its identifier and its
workspace (the owner's, if it had none yet) and takes the new owner. Writing a repository that
exists, under any installation, keeps its identifier and its connection and takes the
installation, full name, privacy and default branch (`main` when none is given) it is written
with.

A user sees a repository when its installation belongs to the user's workspace or is on the
user's own account. Lists of repositories are in order of full name.
-/
namespace Shipyard.Store

open Db (update listed dropRepositories)
open Shipyard.Vcs

/-- The installation with the host number. -/
def getInstallation (vcsId : Int) : StoreM Installation := do
  found .installationNotFound ((← get).installations.find? (·.vcsInstallationId == vcsId))

/-- Writes an installation of `owner`'s account. -/
def upsertInstallation (vcsId : Int) (owner : String) : StoreM Unit := do
  let ws := ((← get).users.find? (·.displayName == owner)).map (·.currentWorkspace)
  let id ← freshId
  modify fun db =>
    if db.installations.any (·.vcsInstallationId == vcsId) then
      { db with installations := (update (·.vcsInstallationId == vcsId)
          (fun i => { i with owner, workspaceId := i.workspaceId.orElse fun _ => ws })
          db.installations) }
    else { db with installations := db.installations ++ [⟨id, vcsId, owner, ws⟩] }

/-- Writes a repository the host reports under an installation. -/
def upsertRepository (installationId : Int) (r : HostRepository) : StoreM Unit := do
  let id ← freshId
  let branch := r.defaultBranch.getD "main"
  modify fun db =>
    if db.repositories.any (·.vcsId == r.id) then
      { db with repositories := (update (·.vcsId == r.id)
          (fun row => { row with installationId, fullName := r.fullName, isPrivate := r.isPrivate,
                                 defaultBranch := branch })
          db.repositories) }
    else
      { db with repositories := db.repositories ++
          [{ id, installationId, vcsId := r.id, fullName := r.fullName, defaultBranch := branch,
             isPrivate := r.isPrivate }] }

/-- The repository with the host number. -/
def getRepoByVcsId (vcsId : Int) : StoreM Repository := do
  found .repoNotFound ((listed (← get) fun _ r => r.vcsId == vcsId).head?)

/-- Records an installation and exactly the repositories it covers: those it no longer covers
are deleted. -/
def linkInstallation (vcsId : Int) (owner : String) (repos : List HostRepository) :
    StoreM Installation := do
  upsertInstallation vcsId owner
  repos.forM (upsertRepository vcsId)
  let keep := repos.map (·.id)
  modify fun db => dropRepositories db fun r => r.installationId == vcsId && !keep.contains r.vcsId
  getInstallation vcsId

/-- Records an installation and more repositories it covers. -/
def addRepositories (vcsId : Int) (owner : String) (repos : List HostRepository) :
    StoreM (List Repository) := do
  upsertInstallation vcsId owner
  repos.forM (upsertRepository vcsId)
  repos.mapM (getRepoByVcsId ·.id)

/-- Deletes repositories an installation no longer covers. -/
def removeRepositories (vcsId : Int) (repos : List HostRepository) : StoreM Unit := do
  let gone := repos.map (·.id)
  modify fun db => dropRepositories db fun r => r.installationId == vcsId && gone.contains r.vcsId

/-- Deletes an installation and its repositories; answers the repositories it had. -/
def removeInstallation (vcsId : Int) : StoreM (List Repository) := do
  let db ← get
  let repos := listed db fun _ r => r.installationId == vcsId
  ensure (db.installations.any (·.vcsInstallationId == vcsId)) .installationNotFound
  let db := dropRepositories db (·.installationId == vcsId)
  set { db with installations := db.installations.filter (·.vcsInstallationId != vcsId) }
  return repos

/-- The repositories a user sees. -/
def getRepositories (userId : String) : StoreM (List Repository) := do
  let u ← getUser userId
  return listed (← get) fun i _ => u.sees i

/-- The repository with the identifier, if the user sees it. -/
def getRepoById (userId repoId : String) : StoreM Repository := do
  let u ← getUser userId
  found .repoNotFound ((listed (← get) fun i r => r.id == repoId && u.sees i).head?)

/-- Connects a repository the user sees to the branch pushes deploy from. -/
def connectRepo (userId repoId branch : String) : StoreM Repository := do
  let _ ← getRepoById userId repoId
  modify fun db =>
    { db with repositories := (update (·.id == repoId)
        (fun r => { r with connectedBranch := some branch, connected := true }) db.repositories) }
  getRepoById userId repoId

/-- The host number of the installation covering the repository of that full name, among the
installations of the workspace and those of no workspace; those of the workspace first. -/
def getInstallationId (workspaceId fullName : String) : StoreM Int := do
  let db ← get
  let reachable := listed db fun i r =>
    r.fullName == fullName && (i.workspaceId == some workspaceId || i.workspaceId.isNone)
  let own := reachable.filter (·.workspaceId.isSome)
  found .installationNotFound ((own ++ reachable).head?.map (·.installationId))

end Shipyard.Store
