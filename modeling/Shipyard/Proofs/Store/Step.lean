import Shipyard.Proofs.Store.Effect
/-!
# What one operation can do to the store

`Store.Effect db db'` lists every way a successful operation can turn the store `db` into `db'`,
one constructor per kind of write, each with the checks the write passed. `Op.run_effect` is the
only place where the operations are taken apart: a fact of every reachable store is proved by a
case analysis over the constructors of `Effect`, never over the operations themselves.
-/
namespace Shipyard.Store

open Db (update dropRepositories)
open Shipyard.Vcs

/-- The ways one successful operation changes the store. -/
inductive Effect : Db → Db → Prop
  /-- Reads, and writes that find nothing to do. -/
  | keep (db : Db) : Effect db db
  /-- A first sign-in: a workspace and its user, and the user's waiting installations join it. -/
  | addUser (db : Db) (u : User) (wsId name uid : String) (n : Nat) :
      Effect db { db with
        workspaces := db.workspaces ++ [⟨wsId, name⟩]
        users := db.users ++ [{ u with id := uid, currentWorkspace := wsId }]
        installations := update (fun i => i.owner == u.displayName && i.workspaceId.isNone)
          (fun i => { i with workspaceId := some wsId }) db.installations
        issued := n }
  /-- An installation linked with exactly the repositories reported. -/
  | link (db : Db) (vcsId : Int) (owner : String) (repos : List HostRepository) :
      Effect db (dropRepositories
        (repos.foldl (Db.putRepository vcsId) (db.putInstallation vcsId owner))
        fun r => r.installationId == vcsId && !(repos.map (·.id)).contains r.vcsId)
  /-- An installation recorded with more repositories. -/
  | addRepositories (db : Db) (vcsId : Int) (owner : String) (repos : List HostRepository) :
      Effect db (repos.foldl (Db.putRepository vcsId) (db.putInstallation vcsId owner))
  /-- Repositories deleted, with their deployments and secret keys. -/
  | dropRepositories (db : Db) (p : RepositoryRow → Bool) : Effect db (dropRepositories db p)
  /-- An installation deleted with its repositories. -/
  | removeInstallation (db : Db) (vcsId : Int) :
      Effect db { dropRepositories db (·.installationId == vcsId) with
        installations := db.installations.filter (·.vcsInstallationId != vcsId) }
  /-- A repository connected to a branch. -/
  | connect (db : Db) (repoId branch : String) :
      Effect db { db with
        repositories := update (·.id == repoId)
          (fun r => { r with connectedBranch := some branch, connected := true }) db.repositories }
  /-- A deployment saved in `init` under an identifier no row has, for a repository that exists. -/
  | saveDeployment (db : Db) (row : Deployment) (n : Nat)
      (hid : db.deployments.any (·.id == row.id) = false) (hinit : row.status = .init)
      (hrepo : db.repositories.any (·.id == row.repoId) = true) :
      Effect db { db with deployments := db.deployments ++ [row], issued := n }
  /-- The rows of an identifier rewritten by an update the rule allows for the first of them. -/
  | updateDeployment (db : Db) (d cur : Deployment) (now : Instant)
      (hcur : db.deployments.find? (·.id == d.id) = some cur)
      (hmove : cur.status.canMove d.status = true) :
      Effect db { db with deployments := update (·.id == d.id) (d.overwrite now) db.deployments }
  /-- The live rows of a repository but one failed as superseded. -/
  | supersede (db : Db) (repoId keep : String) (now : Instant) :
      Effect db { db with
        deployments := update
          (fun d => d.repoId == repoId && d.id != keep && !d.status.isTerminal)
          (fun d => { d with status := .failed, error := some "superseded", updatedAt := now })
          db.deployments }
  /-- The `done` rows of a repository after the `k`-th row but one marked rolled back. -/
  | markRolledBack (db : Db) (repoId keep : String) (now : Instant) (k : Nat) :
      Effect db { db with
        deployments := db.deployments.take (k + 1) ++
          update (fun d => d.repoId == repoId && d.status == .done && d.id != keep)
            (fun d => { d with status := .rolledBack, updatedAt := now })
            (db.deployments.drop (k + 1)) }
  /-- A secret key listed for a repository that exists. -/
  | saveSecret (db : Db) (k : SecretKey) (hrepo : db.repositories.any (·.id == k.repoId) = true) :
      Effect db { db with secretKeys := db.secretKeys ++ [k] }
  /-- A secret key dropped from the list. -/
  | removeSecret (db : Db) (k : SecretKey) :
      Effect db { db with secretKeys := db.secretKeys.filter (· != k) }
  /-- The sign-in states replaced. -/
  | authStates (db : Db) (states : List AuthState) : Effect db { db with authStates := states }
  /-- A user's host tokens replaced, for a user that exists. -/
  | saveTokenPair (db : Db) (p : TokenPair) (huser : db.users.any (·.id == p.userId) = true) :
      Effect db { db with
        tokenPairs := db.tokenPairs.filter (fun (q : TokenPair) => q.userId != p.userId) ++ [p] }
  /-- A user's host tokens forgotten. -/
  | deleteTokenPair (db : Db) (userId : String) :
      Effect db { db with tokenPairs := db.tokenPairs.filter (·.userId != userId) }

theorem Op.run_effect {o : Op} {db db' : Db} (h : o.run db = .ok ((), db')) : Effect db db' := by
  cases o with
  | getOrCreateUser u =>
    obtain ⟨r, hr⟩ := discard_eq_ok.1 h
    rcases getOrCreateUser_ok hr with rfl | ⟨wsId, name, uid, n, rfl⟩
    · exact .keep _
    · exact .addUser _ u wsId name uid n
  | getUser id =>
    obtain ⟨r, hr⟩ := discard_eq_ok.1 h
    rw [getUser_apply] at hr
    split at hr <;> cases hr
    exact .keep _
  | getWorkspace id =>
    obtain ⟨r, hr⟩ := discard_eq_ok.1 h
    rw [getWorkspace_apply] at hr
    split at hr <;> cases hr
    exact .keep _
  | linkInstallation i owner repos =>
    obtain ⟨r, hr⟩ := discard_eq_ok.1 h
    rw [linkInstallation_apply, getInstallation_apply] at hr
    split at hr <;> cases hr
    exact .link _ i owner repos
  | addRepositories i owner repos =>
    obtain ⟨r, hr⟩ := discard_eq_ok.1 h
    exact addRepositories_ok hr ▸ .addRepositories db i owner repos
  | removeRepositories i repos =>
    rw [Op.run, removeRepositories_apply] at h
    cases h
    exact .dropRepositories db _
  | removeInstallation i =>
    obtain ⟨r, hr⟩ := discard_eq_ok.1 h
    rw [removeInstallation_apply] at hr
    split at hr
    · cases hr
      exact .removeInstallation db i
    · cases hr
  | getInstallation i =>
    obtain ⟨r, hr⟩ := discard_eq_ok.1 h
    rw [getInstallation_apply] at hr
    split at hr <;> cases hr
    exact .keep _
  | getRepositories u =>
    obtain ⟨r, hr⟩ := discard_eq_ok.1 h
    rw [getRepositories_apply] at hr
    split at hr <;> cases hr
    exact .keep _
  | getRepoById u r =>
    obtain ⟨x, hx⟩ := discard_eq_ok.1 h
    exact getRepoById_state hx ▸ .keep db
  | getRepoByVcsId i =>
    obtain ⟨r, hr⟩ := discard_eq_ok.1 h
    rw [getRepoByVcsId_apply] at hr
    split at hr <;> cases hr
    exact .keep _
  | connectRepo u r b =>
    obtain ⟨x, hx⟩ := discard_eq_ok.1 h
    rw [connectRepo_apply] at hx
    split at hx
    · exact getRepoById_state hx ▸ .connect db r b
    · cases hx
  | getInstallationId w n =>
    obtain ⟨r, hr⟩ := discard_eq_ok.1 h
    exact getInstallationId_ok hr ▸ .keep db
  | saveDeployment d now =>
    obtain ⟨r, hr⟩ := discard_eq_ok.1 h
    rw [saveDeployment_apply] at hr
    generalize (if d.id.isEmpty then idText (db.issued + 1) else d.id) = id at hr
    generalize (if d.id.isEmpty then db.issued + 1 else db.issued) = n at hr
    dsimp only at hr
    split at hr
    · rename_i hc
      simp only [Bool.and_eq_true, Bool.not_eq_true'] at hc
      cases hr
      exact .saveDeployment db _ n hc.1 rfl hc.2
    · cases hr
  | updateDeployment d now =>
    obtain ⟨r, hr⟩ := discard_eq_ok.1 h
    rw [updateDeployment_apply] at hr
    split at hr
    · cases hr
    · rename_i cur hcur
      split at hr
      · cases hr
        exact .updateDeployment db d cur now hcur ‹_›
      · cases hr
  | getDeployment id =>
    obtain ⟨r, hr⟩ := discard_eq_ok.1 h
    rw [getDeployment_apply] at hr
    split at hr <;> cases hr
    exact .keep _
  | getDeployments r =>
    obtain ⟨x, hx⟩ := discard_eq_ok.1 h
    cases hx
    exact .keep db
  | getDeploymentHistory r =>
    obtain ⟨x, hx⟩ := discard_eq_ok.1 h
    cases hx
    exact .keep db
  | supersede r keep now =>
    obtain ⟨x, hx⟩ := discard_eq_ok.1 h
    cases hx
    exact .supersede db r keep now
  | markRolledBack r source keep now =>
    obtain ⟨x, hx⟩ := discard_eq_ok.1 h
    rw [markRolledBack_apply] at hx
    split at hx
    · cases hx
      exact .keep db
    · cases hx
      exact .markRolledBack db r keep now _
  | saveSecret k =>
    rw [Op.run, saveSecret_apply] at h
    split at h
    · cases h
      exact .keep db
    · split at h
      · cases h
      · rename_i hrepo
        cases h
        exact .saveSecret db k (by simpa using hrepo)
  | removeSecret k =>
    rw [Op.run, removeSecret_apply] at h
    cases h
    exact .removeSecret db k
  | secretKeyExists k =>
    obtain ⟨x, hx⟩ := discard_eq_ok.1 h
    cases hx
    exact .keep db
  | secretKeys w r =>
    obtain ⟨x, hx⟩ := discard_eq_ok.1 h
    cases hx
    exact .keep db
  | saveAuthState s e now =>
    rw [Op.run, saveAuthState_apply] at h
    cases h
    exact .authStates db _
  | takeAuthState s =>
    obtain ⟨x, hx⟩ := discard_eq_ok.1 h
    cases hx
    exact .authStates db _
  | saveTokenPair p =>
    rw [Op.run, saveTokenPair_apply] at h
    split at h
    · cases h
    · rename_i huser
      cases h
      exact .saveTokenPair db p (by simpa using huser)
  | getTokenPair u =>
    obtain ⟨x, hx⟩ := discard_eq_ok.1 h
    cases hx
    exact .keep db
  | deleteTokenPair u =>
    rw [Op.run, deleteTokenPair_apply] at h
    cases h
    exact .deleteTokenPair db u

/-- A fact of the empty store that every kind of write keeps holds of every reachable store. -/
theorem Reachable.of_effect {P : Db → Prop} (h₀ : P {})
    (hstep : ∀ db db', P db → Effect db db' → P db') {db : Db} (h : Reachable db) : P db :=
  h.induct h₀ fun _ db db' hp hrun => hstep db db' hp (Op.run_effect hrun)

end Shipyard.Store
