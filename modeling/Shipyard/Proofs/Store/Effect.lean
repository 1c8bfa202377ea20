import Shipyard.Proofs.Store.Operation
/-!
# What each operation does to the store

One lemma per operation of the store says what it answers and which store it leaves, in terms
of the tables alone: later proofs rewrite with these and never unfold an operation again. An
operation that only reads leaves the store as it found it; a write names the tables it changes.
-/
namespace Shipyard

namespace DeploymentStatus

/-- A live status may always fail. -/
theorem canMove_failed {s : DeploymentStatus} (h : s.isTerminal = false) :
    s.canMove .failed = true := by
  revert h
  cases s <;> decide

/-- Out of a terminal status the rule allows only `done` to `rolledBack`. -/
theorem canMove_of_isTerminal {a b : DeploymentStatus} (ha : a.isTerminal = true)
    (h : a.canMove b = true) : a = .done ∧ b = .rolledBack := by
  revert ha h
  cases a <;> cases b <;> decide

theorem isTerminal_of_rank_lt {s : DeploymentStatus} (h : s.rank < 4) : s.isTerminal = false := by
  revert h
  cases s <;> decide

/-- The rule allows every forward move from a live status, short of failing. -/
theorem canMove_of_rank_le {a b : DeploymentStatus} (ha : a.rank < 4) (hb : b.rank ≤ 4)
    (hf : b ≠ .failed) (h : a.rank ≤ b.rank) : a.canMove b = true := by
  revert ha hb hf h
  cases a <;> cases b <;> decide

end DeploymentStatus

/-- The row `e` as an update to `d` at `now` writes it: space, commit, message, status and
error from `d`; identifier, repository, author, rollback origin and creation time kept. -/
def Deployment.overwrite (d : Deployment) (now : Instant) (e : Deployment) : Deployment :=
  { e with space := d.space, sha := d.sha, buildTag := d.buildTag, branch := d.branch, tag := d.tag,
           message := d.message, status := d.status, error := d.error, updatedAt := now }

@[simp] theorem Deployment.overwrite_id (d : Deployment) (now : Instant) (e : Deployment) :
    (d.overwrite now e).id = e.id := rfl

/-- The store after the host reports installation `vcsId` on `owner`'s account: a known
installation takes the owner, and the owner's workspace when it had none; an unknown one is added
under a fresh identifier with the owner's workspace, if the owner has signed in. -/
def Db.putInstallation (db : Db) (vcsId : Int) (owner : String) : Db :=
  let ws := (db.users.find? (·.displayName == owner)).map (·.currentWorkspace)
  if db.installations.any (·.vcsInstallationId == vcsId) then
    { db with
      installations := Db.update (·.vcsInstallationId == vcsId)
        (fun i => { i with owner, workspaceId := i.workspaceId.orElse fun _ => ws })
        db.installations
      issued := db.issued + 1 }
  else
    { db with
      installations := db.installations ++ [⟨Store.idText (db.issued + 1), vcsId, owner, ws⟩]
      issued := db.issued + 1 }

/-- The store after the host reports repository `r` under installation `installationId`: a known
repository, under whichever installation, takes the installation, name, privacy and default
branch; an unknown one is added under a fresh identifier. -/
def Db.putRepository (installationId : Int) (db : Db) (r : Vcs.HostRepository) : Db :=
  let branch := r.defaultBranch.getD "main"
  if db.repositories.any (·.vcsId == r.id) then
    { db with
      repositories := Db.update (·.vcsId == r.id)
        (fun row => { row with installationId, fullName := r.fullName, isPrivate := r.isPrivate,
                               defaultBranch := branch })
        db.repositories
      issued := db.issued + 1 }
  else
    { db with
      repositories := db.repositories ++
        [{ id := Store.idText (db.issued + 1), installationId, vcsId := r.id, fullName := r.fullName,
           defaultBranch := branch, isPrivate := r.isPrivate }]
      issued := db.issued + 1 }

/-- Reporting repositories changes only the repositories and the count of identifiers. -/
theorem Db.foldl_putRepository (installationId : Int) (repos : List Vcs.HostRepository)
    (db : Db) : ∃ rs n, repos.foldl (Db.putRepository installationId) db =
      { db with repositories := rs, issued := n } := by
  induction repos generalizing db with
  | nil => exact ⟨db.repositories, db.issued, rfl⟩
  | cons r repos ih =>
    obtain ⟨rs, n, h⟩ := ih (db.putRepository installationId r)
    refine ⟨rs, n, ?_⟩
    rw [List.foldl_cons, h]
    unfold Db.putRepository
    split <;> rfl

end Shipyard

namespace Shipyard.Store

open Db (update dropRepositories listed)
open Shipyard.Vcs

section Rows

variable {α : Type}

theorem find?_append_singleton_of_none {l : List α} {p : α → Bool} {x : α}
    (h : l.find? p = none) (hx : p x) : (l ++ [x]).find? p = some x := by
  simp [List.find?_append, h, hx]

/-- Updating by a test that keeps what it tests finds the updated first match. -/
theorem find?_update (p : α → Bool) (f : α → α) (l : List α) {q : α → Bool}
    (hf : ∀ x, q (f x) = q x) :
    (update p f l).find? q = (l.find? q).map fun x => if p x then f x else x := by
  induction l with
  | nil => rfl
  | cons x l ih =>
    simp only [update, List.map_cons, List.find?_cons] at ih ⊢
    by_cases hq : q x
    · by_cases hp : p x <;> simp [hp, hq, hf]
    · by_cases hp : p x <;> simp [hp, hq, hf, ih]

end Rows

section Accounts

variable {α β : Type}

@[simp] theorem insertChecked_bind_apply (context : String) (violation? : Db → α → Option Violation)
    (add : Db → α → Db) (row : α) (f : Unit → StoreM β) (db : Db) :
    (insertChecked context violation? add row >>= f) db = match violation? db row with
      | some v => .error (v.failure context)
      | none => f () (add db row) := by
  simp only [insertChecked, bind_assoc, get_bind_apply]
  cases violation? db row <;> rfl

theorem getUser_apply (id : String) (db : Db) :
    getUser id db = match db.users.find? (·.id == id) with
      | some u => .ok (u, db)
      | none => .error .userNotFound := by
  simp only [getUser, get_bind_apply, found_apply]
  cases db.users.find? (·.id == id) <;> rfl

theorem getWorkspace_apply (id : String) (db : Db) :
    getWorkspace id db = match db.workspaces.find? (·.id == id) with
      | some w => .ok (w, db)
      | none => .error .workspaceNotFound := by
  simp only [getWorkspace, get_bind_apply, found_apply]
  cases db.workspaces.find? (·.id == id) <;> rfl

/-- A user is found by e-mail address, which changes nothing, or made: a workspace and the user
in it are added, and the installations on the user's account still without a workspace join
it. -/
theorem getOrCreateUser_ok {u r : User} {db db' : Db} (h : getOrCreateUser u db = .ok (r, db')) :
    db' = db ∨
    ∃ wsId name uid n, db' = { db with
      workspaces := db.workspaces ++ [⟨wsId, name⟩]
      users := db.users ++ [{ u with id := uid, currentWorkspace := wsId }]
      installations := update (fun i => i.owner == u.displayName && i.workspaceId.isNone)
        (fun i => { i with workspaceId := some wsId }) db.installations
      issued := n } := by
  simp only [getOrCreateUser, get_bind_apply] at h
  cases hf : db.users.find? (·.email == u.email) with
  | some existing =>
    simp only [hf, pure_apply, Except.ok.injEq, Prod.mk.injEq] at h
    exact .inl h.2.symm
  | none =>
    simp only [hf, freshId, modifyGet_bind_apply, get_bind_apply, insertChecked_bind_apply] at h
    split at h
    · cases h
    · right
      simp only [ite_apply, getUser, pure_bind, get_bind_apply, modifyGet_bind_apply,
        insertChecked_bind_apply, modify_bind_apply, found_apply] at h
      -- a fresh or a given user identifier, then the user's rule check, then the read back
      split at h
      all_goals
        split at h
        · cases h
        · split at h
          · simp only [Except.ok.injEq, Prod.mk.injEq] at h
            exact ⟨_, _, _, _, h.2.symm⟩
          · cases h

end Accounts

section Repositories

theorem getInstallation_apply (vcsId : Int) (db : Db) :
    getInstallation vcsId db = match db.installations.find? (·.vcsInstallationId == vcsId) with
      | some i => .ok (i, db)
      | none => .error .installationNotFound := by
  simp only [getInstallation, get_bind_apply, found_apply]
  cases db.installations.find? (·.vcsInstallationId == vcsId) <;> rfl

theorem upsertInstallation_apply (vcsId : Int) (owner : String) (db : Db) :
    upsertInstallation vcsId owner db = .ok ((), db.putInstallation vcsId owner) := by
  simp only [upsertInstallation, freshId, get_bind_apply, modifyGet_bind_apply, modify_apply,
    Db.putInstallation]

theorem upsertRepository_apply (installationId : Int) (r : HostRepository) (db : Db) :
    upsertRepository installationId r db = .ok ((), db.putRepository installationId r) := by
  simp only [upsertRepository, freshId, modifyGet_bind_apply, modify_apply, Db.putRepository]

theorem forM_upsertRepository (installationId : Int) (repos : List HostRepository) (db : Db) :
    (repos.forM (upsertRepository installationId)) db =
      .ok ((), repos.foldl (Db.putRepository installationId) db) := by
  induction repos generalizing db with
  | nil => rfl
  | cons r repos ih =>
    show (upsertRepository installationId r >>= fun _ => repos.forM _) db = _
    simp only [bind, StateT.bind, upsertRepository_apply]
    exact ih _

theorem getRepoByVcsId_apply (vcsId : Int) (db : Db) :
    getRepoByVcsId vcsId db = match (listed db fun _ r => r.vcsId == vcsId).head? with
      | some r => .ok (r, db)
      | none => .error .repoNotFound := by
  simp only [getRepoByVcsId, get_bind_apply, found_apply]
  cases (listed db fun _ r => r.vcsId == vcsId).head? <;> rfl

/-- Linking records the installation and the repositories reported, deletes the repositories of
the installation no longer reported, and reads the installation back. -/
theorem linkInstallation_apply (vcsId : Int) (owner : String) (repos : List HostRepository)
    (db : Db) :
    linkInstallation vcsId owner repos db =
      getInstallation vcsId (dropRepositories
        (repos.foldl (Db.putRepository vcsId) (db.putInstallation vcsId owner))
        fun r => r.installationId == vcsId && !(repos.map (·.id)).contains r.vcsId) := by
  simp only [linkInstallation, bind, StateT.bind, upsertInstallation_apply,
    forM_upsertRepository]
  rfl

/-- A list of reads by host number leaves the store as it was. -/
theorem mapM_getRepoByVcsId_ok {repos : List HostRepository} {db db' : Db} {rs : List Repository}
    (h : (repos.mapM (getRepoByVcsId ·.id)) db = .ok (rs, db')) : db' = db := by
  induction repos generalizing rs with
  | nil =>
    simp only [List.mapM_nil, pure_apply, Except.ok.injEq, Prod.mk.injEq] at h
    exact h.2.symm
  | cons r repos ih =>
    simp only [List.mapM_cons, bind, StateT.bind, getRepoByVcsId_apply] at h
    cases hr : (listed db fun _ x => x.vcsId == r.id).head? with
    | none => simp [hr, Except.bind] at h
    | some x =>
      simp only [hr, Except.bind] at h
      split at h
      · cases h
      · rename_i v hv
        obtain ⟨vs, db''⟩ := v
        simp only [pure_apply, Except.ok.injEq, Prod.mk.injEq] at h
        obtain ⟨-, rfl⟩ := h
        exact ih hv

/-- Adding repositories records the installation and the repositories reported, then reads
those back. -/
theorem addRepositories_ok {vcsId : Int} {owner : String} {repos : List HostRepository}
    {db db' : Db} {rs : List Repository} (h : addRepositories vcsId owner repos db = .ok (rs, db')) :
    db' = repos.foldl (Db.putRepository vcsId) (db.putInstallation vcsId owner) := by
  simp only [addRepositories, bind, StateT.bind, upsertInstallation_apply,
    forM_upsertRepository] at h
  exact mapM_getRepoByVcsId_ok h

theorem removeRepositories_apply (vcsId : Int) (repos : List HostRepository) (db : Db) :
    removeRepositories vcsId repos db =
      .ok ((), dropRepositories db
        fun r => r.installationId == vcsId && (repos.map (·.id)).contains r.vcsId) :=
  rfl

/-- Removing an installation deletes it and its repositories, with theirs, and answers the
repositories it had; an unknown installation is refused. -/
theorem removeInstallation_apply (vcsId : Int) (db : Db) :
    removeInstallation vcsId db =
      if db.installations.any (·.vcsInstallationId == vcsId) then
        .ok (listed db (fun _ r => r.installationId == vcsId),
          { dropRepositories db (·.installationId == vcsId) with
            installations := db.installations.filter (·.vcsInstallationId != vcsId) })
      else .error .installationNotFound := by
  simp only [removeInstallation, get_bind_apply, ensure_bind_apply]
  split <;> rfl

theorem getRepositories_apply (userId : String) (db : Db) :
    getRepositories userId db = match db.users.find? (·.id == userId) with
      | some u => .ok (listed db (fun i _ => u.sees i), db)
      | none => .error .userNotFound := by
  simp only [getRepositories, getUser, bind_assoc, get_bind_apply, found_bind_apply]
  cases db.users.find? (·.id == userId) <;> rfl

/-- A repository is read by identifier only among those the user sees. -/
theorem getRepoById_apply (userId repoId : String) (db : Db) :
    getRepoById userId repoId db = match db.users.find? (·.id == userId) with
      | some u =>
        match (listed db fun i r => r.id == repoId && u.sees i).head? with
        | some r => .ok (r, db)
        | none => .error .repoNotFound
      | none => .error .userNotFound := by
  simp only [getRepoById, getUser, bind_assoc, get_bind_apply, found_bind_apply, found_apply]
  cases db.users.find? (·.id == userId) with
  | none => rfl
  | some u =>
    dsimp only
    cases (listed db fun i r => r.id == repoId && u.sees i).head? <;> rfl

theorem getRepoById_state {userId repoId : String} {db db' : Db} {r : Repository}
    (h : getRepoById userId repoId db = .ok (r, db')) : db' = db := by
  rw [getRepoById_apply] at h
  split at h
  · split at h
    · cases h
      rfl
    · cases h
  · cases h

/-- Connecting rewrites the repository's branch and connection once the user sees it. -/
theorem connectRepo_apply (userId repoId branch : String) (db : Db) :
    connectRepo userId repoId branch db = match getRepoById userId repoId db with
      | .ok _ => getRepoById userId repoId { db with
          repositories := update (·.id == repoId)
            (fun r => { r with connectedBranch := some branch, connected := true })
            db.repositories }
      | .error e => .error e := by
  simp only [connectRepo, bind, StateT.bind]
  cases h : getRepoById userId repoId db with
  | error e => rfl
  | ok p =>
    obtain ⟨r, db'⟩ := p
    obtain rfl := getRepoById_state h
    rfl

theorem getInstallationId_ok {workspaceId fullName : String} {db db' : Db} {i : Int}
    (h : getInstallationId workspaceId fullName db = .ok (i, db')) : db' = db := by
  simp only [getInstallationId, get_bind_apply, found_apply] at h
  split at h
  · cases h
    rfl
  · cases h

end Repositories

section Sessions

/-- A listed key is kept as it is; a new one needs its repository. -/
theorem saveSecret_apply (k : SecretKey) (db : Db) :
    saveSecret k db =
      if db.secretKeys.contains k then .ok ((), db)
      else if !db.repositories.any (·.id == k.repoId) then
        .error (Violation.foreignKey.failure "Failed to save secret key")
      else .ok ((), { db with secretKeys := db.secretKeys ++ [k] }) := by
  simp only [saveSecret, get_bind_apply]
  split
  · rfl
  · split <;> rfl

theorem removeSecret_apply (k : SecretKey) (db : Db) :
    removeSecret k db = .ok ((), { db with secretKeys := db.secretKeys.filter (· != k) }) :=
  rfl

theorem secretKeyExists_apply (k : SecretKey) (db : Db) :
    secretKeyExists k db = .ok (db.secretKeys.contains k, db) :=
  rfl

theorem secretKeys_apply (workspaceId repoId : String) (db : Db) :
    secretKeys workspaceId repoId db =
      .ok (((db.secretKeys.filter fun k => k.workspaceId == workspaceId && k.repoId == repoId).map
        (·.key)).mergeSort fun a b => !(b < a), db) :=
  rfl

theorem saveAuthState_apply (state : String) (expiresAt now : Instant) (db : Db) :
    saveAuthState state expiresAt now db =
      .ok ((), { db with
        authStates :=
          db.authStates.filter (fun s => !(s.expiresAt < now.text) && s.state != state) ++
            [⟨state, expiresAt.text⟩] }) :=
  rfl

theorem takeAuthState_apply (state : String) (db : Db) :
    takeAuthState state db =
      .ok ((db.authStates.find? (·.state == state)).map (parseTimestamp ·.expiresAt),
        { db with authStates := db.authStates.filter (·.state != state) }) :=
  rfl

/-- Host tokens are kept only for a user that exists, replacing the user's earlier pair. -/
theorem saveTokenPair_apply (p : TokenPair) (db : Db) :
    saveTokenPair p db =
      if !db.users.any (·.id == p.userId) then
        .error (Violation.foreignKey.failure "Failed to save token pair")
      else .ok ((), { db with
        tokenPairs := db.tokenPairs.filter (fun (q : TokenPair) => q.userId != p.userId) ++ [p] }) := by
  simp only [saveTokenPair, get_bind_apply]
  split <;> rfl

theorem getTokenPair_apply (userId : String) (db : Db) :
    getTokenPair userId db = .ok (db.tokenPairs.find? (·.userId == userId), db) :=
  rfl

theorem deleteTokenPair_apply (userId : String) (db : Db) :
    deleteTokenPair userId db =
      .ok ((), { db with tokenPairs := db.tokenPairs.filter (·.userId != userId) }) :=
  rfl

end Sessions

section Reads

variable {α β : Type}

/-- An operation that answers from the store and leaves it as it was. -/
def ReadOnly (x : StoreM α) : Prop := ∀ db a db', x db = .ok (a, db') → db' = db

theorem ReadOnly.bind {x : StoreM α} {f : α → StoreM β} (hx : ReadOnly x)
    (hf : ∀ a, ReadOnly (f a)) : ReadOnly (x >>= f) := by
  intro db b db' h
  change Except.bind (x db) _ = _ at h
  cases hxd : x db with
  | error e => rw [hxd] at h; cases h
  | ok p =>
    obtain ⟨a, db₁⟩ := p
    rw [hxd] at h
    exact (hf a db₁ b db' h).trans (hx db a db₁ hxd)

theorem readOnly_pure (a : α) : ReadOnly (pure a : StoreM α) := by
  intro db b db' h
  cases h
  rfl

theorem getWorkspace_readOnly (id : String) : ReadOnly (getWorkspace id) := by
  intro db w db' h
  rw [getWorkspace_apply] at h
  split at h <;> cases h
  rfl

theorem getInstallation_readOnly (vcsId : Int) : ReadOnly (getInstallation vcsId) := by
  intro db i db' h
  rw [getInstallation_apply] at h
  split at h <;> cases h
  rfl

theorem secretKeys_readOnly (workspaceId repoId : String) :
    ReadOnly (secretKeys workspaceId repoId) := by
  intro db keys db' h
  rw [secretKeys_apply] at h
  cases h
  rfl

end Reads

section Deployments

theorem getDeployment_apply (id : String) (db : Db) :
    getDeployment id db = match db.deployments.find? (·.id == id) with
      | some d => .ok (d, db)
      | none => .error .deploymentNotFound := by
  simp only [getDeployment, get_bind_apply, found_apply]
  cases db.deployments.find? (·.id == id) <;> rfl

/-- Saving appends the row in `init`, under its own identifier or a fresh one, when no row has
that identifier and the repository exists. -/
theorem saveDeployment_apply (d : Deployment) (now : Instant) (db : Db) :
    saveDeployment d now db =
      let id := if d.id.isEmpty then idText (db.issued + 1) else d.id
      let row := { d with id, status := .init, createdAt := now, updatedAt := now }
      if !db.deployments.any (·.id == id) && db.repositories.any (·.id == d.repoId) then
        .ok (row, { db with deployments := db.deployments ++ [row],
                            issued := if d.id.isEmpty then db.issued + 1 else db.issued })
      else .error .repoNotFound := by
  simp only [saveDeployment, getDeployment, freshId, pure_bind, get_bind_apply,
    set_bind_apply, modifyGet_bind_apply, ensure_bind_apply, found_apply, ite_apply]
  by_cases he : d.id.isEmpty <;> simp only [he, if_true, if_false, Bool.false_eq_true]
  all_goals
    split
    · rename_i hc
      simp only [Bool.and_eq_true, Bool.not_eq_true'] at hc
      rw [find?_append_singleton_of_none (List.find?_eq_none.2 (by simpa using hc.1))
        (by simp)]
    · rfl

/-- An update finds the row by identifier and moves it to the new status when the rule allows
it; it rejects a missing row and a forbidden move, and changes nothing else. -/
theorem updateDeployment_apply (d : Deployment) (now : Instant) (db : Db) :
    updateDeployment d now db =
      match db.deployments.find? (·.id == d.id) with
      | none => .error .deploymentNotFound
      | some cur =>
        if cur.status.canMove d.status then
          .ok (d.overwrite now cur,
            { db with deployments := update (·.id == d.id) (d.overwrite now) db.deployments })
        else .error (.invalidTransition d.id cur.status.text d.status.text) := by
  simp only [updateDeployment, getDeployment, bind_assoc, get_bind_apply, found_bind_apply,
    ensure_bind_apply, modify_bind_apply, found_apply]
  cases hcur : db.deployments.find? (·.id == d.id) with
  | none => rfl
  | some cur =>
    by_cases hmove : cur.status.canMove d.status
    · simp only [hmove, if_true]
      have hid : (cur.id == d.id) = true := by simpa using List.find?_some hcur
      rw [find?_update, hcur]
      · simp only [Option.map_some, hid, if_true]
        rfl
      · intro
        rfl
    · simp [hmove]

theorem getDeployments_apply (repoId : String) (db : Db) :
    getDeployments repoId db = .ok ((db.deployments.filter (·.repoId == repoId)).reverse, db) :=
  rfl

theorem getDeploymentHistory_apply (repoId : String) (db : Db) :
    getDeploymentHistory repoId db =
      .ok (((db.deployments.filter (·.repoId == repoId)).reverse.filter (·.status != .init)), db) :=
  rfl

/-- Superseding fails, in place, every live row of the repository but the one kept. -/
theorem supersede_apply (repoId keep : String) (now : Instant) (db : Db) :
    supersede repoId keep now db =
      let hit := fun (d : Deployment) => d.repoId == repoId && d.id != keep && !d.status.isTerminal
      .ok (((db.deployments.filter hit).mergeSort
              fun a b => !(b.status.text < a.status.text)).map (·.id),
        { db with
          deployments := update hit
            (fun d => { d with status := .failed, error := some "superseded", updatedAt := now })
            db.deployments }) :=
  rfl

/-- Marking rolled back moves to `rolledBack`, in place, the `done` rows of the repository saved
after the source, but the one kept; with no source row it changes nothing. -/
theorem markRolledBack_apply (repoId source keep : String) (now : Instant) (db : Db) :
    markRolledBack repoId source keep now db =
      let hit := fun (d : Deployment) => d.repoId == repoId && d.status == .done && d.id != keep
      match db.deployments.findIdx? (·.id == source) with
      | none => .ok (0, db)
      | some k =>
        .ok (((db.deployments.drop (k + 1)).filter hit).length,
          { db with
            deployments := db.deployments.take (k + 1) ++
              update hit (fun d => { d with status := .rolledBack, updatedAt := now })
                (db.deployments.drop (k + 1)) }) := by
  simp only [markRolledBack, get_bind_apply]
  cases db.deployments.findIdx? (·.id == source) <;> rfl

end Deployments

end Shipyard.Store
