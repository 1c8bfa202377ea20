import Shipyard.Proofs.Platform.View
import Shipyard.Platform.Router
/-!
# A request stays in its caller's view

A signed-in caller reaches repositories only through `visibleRepo` and deployments only through
`visibleDeployment`, both of which look among the repositories the caller sees. So every request
by a caller `u`, except the one that links the caller's installations, reads and writes only
what belongs to repositories `u` sees: run on the application cut down to `u`'s view it answers
the same and ends in the cut-down end state, and it leaves everything outside `u`'s view as it
was (`Confined`). A request that names a repository or a deployment `u` does not see fails as
one naming a repository or deployment that does not exist, and changes nothing.
-/
namespace Shipyard

/-- Two documents with the same members, but for perhaps member `k`. -/
def Json.AgreeOff (k : String) (j₁ j₂ : Json) : Prop :=
  ∀ k', k' ≠ k → j₁.field? k' = j₂.field? k'

theorem Json.AgreeOff.field_eq {k k' : String} {j₁ j₂ : Json} (h : Json.AgreeOff k j₁ j₂)
    (hk : k' ≠ k) : Platform.field j₁ k' = Platform.field j₂ k' := by
  unfold Platform.field Json.fieldStr?
  rw [h k' hk]

/-- Whether a document of the schema has a member named `k`. -/
def Schema.hasField : Schema → String → Bool
  | .record _ fields, k | .overlay _ fields, k | .flat _ fields _, k => fields.any (·.name == k)
  | _, _ => false

end Shipyard

namespace Shipyard.Platform

open Shipyard.Store
open Shipyard.Services
open Shipyard.Token

section Steps

variable {ε α β : Type} {v : View} {a a' : App}

/-- A store operation on the application, evaluated. -/
theorem store_run (op : StoreM α) (err : StoreError → ε) (a : App) :
    (store op err).run.run a = match op a.db with
      | .ok (x, db) => (.ok x, { a with db })
      | .error e => (.error (err e), a) := by
  show (match op a.db with
      | .ok (x, db) => (set { a with db } >>= fun _ => pure x : AppM ε α)
      | .error e => throw (err e)).run.run a = _
  cases op a.db with
  | ok p => rfl
  | error e => rfl

/-- A store operation that succeeds writes its new store into the application. -/
theorem store_ok {op : StoreM α} {err : StoreError → ε} {x : α}
    (h : (store op err).run.run a = (.ok x, a')) : ∃ db, op a.db = .ok (x, db) ∧ a' = { a with db } := by
  rw [store_run] at h
  split at h
  · cases h
    exact ⟨_, ‹_›, rfl⟩
  · cases h

/-- A read of the store that succeeds leaves the application as it was. -/
theorem store_ok_of_readOnly {op : StoreM α} {err : StoreError → ε} {x : α} (hop : ReadOnly op)
    (h : (store op err).run.run a = (.ok x, a')) : op a.db = .ok (x, a.db) ∧ a' = a := by
  obtain ⟨db, hdb, rfl⟩ := store_ok h
  obtain rfl := hop _ _ _ hdb
  exact ⟨hdb, rfl⟩

theorem throw_bind_run (e : ε) (f : α → AppM ε β) (a : App) :
    (throw e >>= f).run.run a = (.error e, a) := rfl

/-- A computation that fails at once stays in every view. -/
theorem Confined.throw_bind (e : ε) (f : α → AppM ε β) (y : AppM ε β) :
    Confined v a (throw e >>= f) y := by
  intro r a' h
  rw [throw_bind_run] at h
  cases h

theorem Confined.now : Confined v a (now : AppM ε Instant) now :=
  Confined.get_bind (Confined.pure _)

end Steps

section Caller

variable {ε α : Type} {a a' : App} {u : User} {claims : Claims}

/-- The user a token's `id` claim names is found by its own identifier. -/
theorem find?_self {users : List User} {id : String}
    (hu : users.find? (·.id == id) = some u) : users.find? (·.id == u.id) = some u := by
  have hid : u.id = id := by simpa using List.find?_some hu
  rw [hid]
  exact hu

/-- Finding the caller reads only the users. -/
theorem Confined.currentUser (v : View) (claims : Claims) :
    Confined v a (currentUser claims) (currentUser claims) := by
  unfold Platform.currentUser
  dsimp only
  split
  · exact Confined.throw_bind _ _ _
  · exact Confined.store (Db.Within.getUser _)

/-- The caller a request is by is a user of the store, found by its identifier. -/
theorem currentUser_found (hby : (Platform.currentUser claims).run.run a = (.ok u, a)) :
    a.db.users.find? (·.id == u.id) = some u := by
  unfold Platform.currentUser at hby
  dsimp only at hby
  split at hby
  · rw [throw_bind_run] at hby
    cases hby
  · obtain ⟨db, hdb, -⟩ := store_ok hby
    rw [getUser_apply] at hdb
    split at hdb
    · cases hdb
      exact find?_self ‹_›
    · cases hdb

/-- A request by `u` first finds `u`: what follows stays in `u`'s view when it does from the
same application. -/
theorem Confined.caller (hby : (Platform.currentUser claims).run.run a = (.ok u, a))
    {k : User → AppM RpcError α} (hk : Confined (a.view u) a (k u) (k u)) :
    Confined (a.view u) a (Platform.currentUser claims >>= k) (Platform.currentUser claims >>= k) := by
  refine Confined.bind (Confined.currentUser _ claims) fun r a₁ h₁ => ?_
  rw [hby] at h₁
  cases h₁
  exact hk

/-- A repository found by `visibleRepo` is one the caller sees. -/
theorem App.view_repo_of_mem {r : Repository} {id : String}
    (hr : r ∈ a.db.listed fun i r => r.id == id && u.sees i) : (a.view u).repo r.id = true := by
  obtain ⟨r₀, hr₀, i, hi, hq, rfl⟩ := Db.mem_listed.1 hr
  simp only [Bool.and_eq_true] at hq
  exact a.view_covers u r₀ hr₀ i hi hq.2

theorem Confined.visibleRepo (hu : a.db.users.find? (·.id == u.id) = some u) (id : String) :
    Confined (a.view u) a (visibleRepo u id) (visibleRepo u id) :=
  Confined.store (Db.Within.getRepoById hu (a.view_covers u) id)

/-- `visibleRepo`, evaluated: the store's lookup, which changes nothing. -/
theorem visibleRepo_run (id : String) (b : App) :
    (visibleRepo u id).run.run b = match getRepoById u.id id b.db with
      | .ok (r, _) => (.ok r, b)
      | .error e => (.error e.toRpc, b) := by
  unfold Platform.visibleRepo stored
  rw [store_run]
  cases hr : getRepoById u.id id b.db with
  | ok p =>
    obtain ⟨r, db⟩ := p
    obtain rfl := getRepoById_state hr
    rfl
  | error e => rfl

/-- `visibleRepo` answers a repository the caller sees and changes nothing. -/
theorem visibleRepo_ok {id : String} {r : Repository}
    (hu : a.db.users.find? (·.id == u.id) = some u) (h : (visibleRepo u id).run.run a = (.ok r, a')) :
    a' = a ∧ r ∈ a.db.listed (fun i r => r.id == id && u.sees i) := by
  obtain ⟨hr, rfl⟩ := store_ok_of_readOnly (fun _ _ _ h => getRepoById_state h) h
  refine ⟨rfl, ?_⟩
  rw [getRepoById_apply, hu] at hr
  dsimp only at hr
  split at hr
  · cases hr
    exact List.mem_of_mem_head? ‹_›
  · cases hr

/-- `visibleDeployment`, evaluated: the first deployment with the identifier, if the caller sees
its repository. -/
theorem visibleDeployment_run (id : String) (b : App) :
    (visibleDeployment u id).run.run b = match b.db.deployments.find? (·.id == id) with
      | none => (.error StoreError.deploymentNotFound.toRpc, b)
      | some d => match getRepoById u.id d.repoId b.db with
        | .ok _ => (.ok d, b)
        | .error .repoNotFound =>
          (.error (RpcError.new "DEPLOYMENT_NOT_FOUND" StoreError.deploymentNotFound.message), b)
        | .error e => (.error e.toRpc, b) := by
  unfold Platform.visibleDeployment stored
  rw [AppM.run_bind, store_run, getDeployment_apply]
  cases b.db.deployments.find? (·.id == id) with
  | none => rfl
  | some d =>
    dsimp only
    rw [AppM.run_bind, store_run]
    cases hr : getRepoById u.id d.repoId b.db with
    | ok p =>
      obtain ⟨r, db⟩ := p
      obtain rfl := getRepoById_state hr
      rfl
    | error e => cases e <;> rfl

theorem Confined.visibleDeployment (hu : a.db.users.find? (·.id == u.id) = some u) (id : String) :
    Confined (a.view u) a (visibleDeployment u id) (visibleDeployment u id) := by
  intro d a' h
  rw [visibleDeployment_run] at h ⊢
  cases hd : a.db.deployments.find? (·.id == id) with
  | none => rw [hd] at h; cases h
  | some d₀ =>
    rw [hd] at h
    dsimp only at h
    cases hr : getRepoById u.id d₀.repoId a.db with
    | error e => rw [hr] at h; cases e <;> cases h
    | ok p =>
      rw [hr] at h
      cases h
      obtain ⟨r, db⟩ := p
      have hkept := (Db.Within.getRepoById_kept hu (a.view_covers u) hr).2
      rw [App.only_db, Db.only_deployments, find?_filter_of_find? hd hkept]
      dsimp only
      rw [(Db.Within.getRepoById hu (a.view_covers u) _ _ _ hr).1]
      exact ⟨rfl, rfl⟩

/-- `visibleDeployment` answers a deployment of a repository the caller sees and changes
nothing. -/
theorem visibleDeployment_ok {id : String} {d : Deployment}
    (hu : a.db.users.find? (·.id == u.id) = some u)
    (h : (visibleDeployment u id).run.run a = (.ok d, a')) :
    a' = a ∧ a.db.deployments.find? (·.id == id) = some d ∧ (a.view u).repo d.repoId = true := by
  rw [visibleDeployment_run] at h
  cases hd : a.db.deployments.find? (·.id == id) with
  | none => rw [hd] at h; cases h
  | some d₀ =>
    rw [hd] at h
    dsimp only at h
    cases hr : getRepoById u.id d₀.repoId a.db with
    | error e => rw [hr] at h; cases e <;> cases h
    | ok p =>
      rw [hr] at h
      cases h
      exact ⟨rfl, rfl, (Db.Within.getRepoById_kept hu (a.view_covers u) hr).2⟩

theorem Confined.userScope (r : Repository) :
    Confined (a.view u) a (userScope u r) (userScope u r) :=
  Confined.store (Db.Within.resolveScope _ _)

/-- The scope of a repository, resolved for the caller, changes nothing. -/
theorem userScope_ok {r : Repository} {s : Scope}
    (h : (userScope u r).run.run a = (.ok s, a')) :
    resolveScope r (some u.currentWorkspace) a.db = .ok (s, a.db) ∧ a' = a :=
  store_ok_of_readOnly (resolveScope_readOnly _ _) h

end Caller

section Deploy

variable {v : View} {a : App}

/-- The row a deploy saves belongs to the repository deployed. -/
@[simp] theorem DeployRequest.row_repoId (req : DeployRequest) : req.row.repoId = req.repo.id := by
  unfold DeployRequest.row
  cases req.source <;> rfl

/-- A saved row keeps the repository of the row given. -/
theorem saveDeployment_repoId {d x : Deployment} {now : Instant} {db db' : Db}
    (h : saveDeployment d now db = .ok (x, db')) : x.repoId = d.repoId := by
  rw [saveDeployment_apply] at h
  by_cases he : d.id.isEmpty <;> simp only [he, if_true, if_false, Bool.false_eq_true] at h
  all_goals
    split at h
    · cases h
      rfl
    · cases h

/-- A deploy of a repository in view stays in view: it saves a row of the repository, fails its
other live rows, and queues the run, which touches no store row and no cluster object. -/
theorem Confined.deploy {req : DeployRequest} (hp : v.repo req.repo.id = true) :
    Confined v a (deploy req) (deploy req) := by
  unfold Platform.deploy
  refine Confined.bind Confined.now fun t a₁ _ => ?_
  refine Confined.bind (Confined.store (Db.Within.saveDeployment t (by simpa using hp)))
    fun d a₂ h₂ => ?_
  obtain ⟨db, hdb, -⟩ := store_ok h₂
  have hd : v.repo d.repoId = true := by
    rw [saveDeployment_repoId hdb, DeployRequest.row_repoId]
    exact hp
  refine Confined.get_bind ?_
  -- the join point `tail`: the run is put in flight and queued, and its progress says so
  lift_lets
  extract_lets tail
  have htail : ∀ b, Confined v b (tail ()) (tail ()) := by
    intro b
    simp only [tail]
    refine Confined.bind (Confined.modify_frame (fun _ => ⟨rfl, rfl⟩) (fun _ => rfl))
      fun _ _ _ => ?_
    refine Confined.bind (Confined.modify_frame (fun _ => ⟨rfl, rfl⟩) (fun _ => rfl))
      fun _ _ _ => ?_
    exact Confined.pure d
  rw [App.only_settings]
  split
  · refine Confined.bind (Confined.store (Db.Within.supersede _ _ hd)) fun ids a₃ _ => ?_
    refine Confined.bind (Confined.forIn fun id _ _ b => ?_) fun _ a₄ _ => htail a₄
    exact Confined.bind (Confined.modify_frame (fun _ => ⟨rfl, rfl⟩) (fun _ => rfl))
      fun _ _ _ => Confined.pure _
  · exact htail a₂

end Deploy

section Operations

variable {α : Type} {a a' : App} {u : User} {claims : Claims}

/-- A request by `u` on a repository first finds `u`, then the repository among those `u` sees:
what follows stays in `u`'s view when it does for every repository `u` sees. -/
theorem Confined.caller_repo (hby : (Platform.currentUser claims).run.run a = (.ok u, a)) (id : String)
    {k : User → Repository → AppM RpcError α}
    (hk : ∀ r, r ∈ a.db.listed (fun i r => r.id == id && u.sees i) →
      Confined (a.view u) a (k u r) (k u r)) :
    Confined (a.view u) a (Platform.currentUser claims >>= fun u => Platform.visibleRepo u id >>= k u)
      (Platform.currentUser claims >>= fun u => Platform.visibleRepo u id >>= k u) := by
  refine Confined.caller hby ?_
  refine Confined.bind (Confined.visibleRepo (currentUser_found hby) id) fun r a₂ h₂ => ?_
  obtain ⟨rfl, hr⟩ := visibleRepo_ok (currentUser_found hby) h₂
  exact hk r hr

variable {v : View}

theorem Confined.hostAnswer (e : Except SourceError α) :
    Confined v a (Platform.hostAnswer e) (Platform.hostAnswer e) := by
  cases e with
  | ok x => exact Confined.pure x
  | error e => exact Confined.throw _ _

theorem hostAnswer_state {e : Except SourceError α} {x : α}
    (h : (Platform.hostAnswer e).run.run a = (.ok x, a')) : a' = a := by
  cases e with
  | ok y =>
    cases h
    rfl
  | error e => cases h

theorem Confined.clusterAnswer (e : Except ClusterError α) :
    Confined v a (Platform.clusterAnswer e) (Platform.clusterAnswer e) := by
  cases e with
  | ok x => exact Confined.pure x
  | error e => exact Confined.throw _ _

/-- An attempt at a read of the store that no view cuts down. -/
theorem Confined.attempt {ε : Type} {op : StoreM α}
    (hop : ∀ x db', op a.db = .ok (x, db') → db' = a.db)
    (honly : op (a.db.only v.repo) = (op a.db).map fun r => (r.1, r.2.only v.repo)) :
    Confined v a (attempt op : AppM ε (Except StoreError α)) (attempt op) := by
  unfold Platform.attempt
  refine Confined.get_bind ?_
  rw [App.only_db, honly]
  cases h : op a.db with
  | ok p =>
    obtain ⟨x, db'⟩ := p
    obtain rfl := hop x db' h
    intro r a' hr
    cases hr
    exact ⟨rfl, rfl⟩
  | error e =>
    intro r a' hr
    cases hr
    exact ⟨rfl, rfl⟩

theorem Confined.info (claims : Claims) (req : Json) :
    Confined v a (Platform.info claims req) (Platform.info claims req) :=
  Confined.get_bind (by rw [App.only_settings]; exact Confined.pure _)

theorem Confined.getProfile (hby : (Platform.currentUser claims).run.run a = (.ok u, a)) (req : Json) :
    Confined (a.view u) a (Platform.getProfile claims req) (Platform.getProfile claims req) := by
  unfold Platform.getProfile
  refine Confined.caller hby ?_
  dsimp only
  split
  · exact Confined.bind (Confined.pure _) fun _ _ _ => Confined.pure _
  · refine Confined.bind (Confined.attempt (fun _ _ h => getWorkspace_readOnly _ _ _ _ h)
      (Db.Within.getWorkspace_only _ _ _)) fun w a₁ _ => ?_
    split
    · exact Confined.bind (Confined.pure _) fun _ _ _ => Confined.pure _
    · exact Confined.bind (Confined.pure _) fun _ _ _ => Confined.pure _
    · exact Confined.throw_bind _ _ _

theorem Confined.getRepos (hby : (Platform.currentUser claims).run.run a = (.ok u, a)) (req : Json) :
    Confined (a.view u) a (Platform.getRepos claims req) (Platform.getRepos claims req) := by
  unfold Platform.getRepos
  refine Confined.caller hby ?_
  exact Confined.bind (Confined.store
    (Db.Within.getRepositories (currentUser_found hby) (a.view_covers u))) fun _ _ _ =>
      Confined.pure _

theorem Confined.getBranches (hby : (Platform.currentUser claims).run.run a = (.ok u, a)) (req : Json) :
    Confined (a.view u) a (Platform.getBranches claims req) (Platform.getBranches claims req) := by
  unfold Platform.getBranches
  refine Confined.caller_repo hby _ fun r _ => ?_
  exact Confined.get_bind (by rw [App.only_host]; exact Confined.pure _)

theorem Confined.connectBranch (hby : (Platform.currentUser claims).run.run a = (.ok u, a)) (req : Json) :
    Confined (a.view u) a (Platform.connectBranch claims req) (Platform.connectBranch claims req) := by
  unfold Platform.connectBranch
  refine Confined.caller_repo hby _ fun r _ => ?_
  dsimp only
  refine Confined.get_bind ?_
  rw [App.only_host]
  refine Confined.bind (Confined.hostAnswer _) fun _ a₁ h₁ => ?_
  rw [hostAnswer_state h₁]
  exact Confined.bind (Confined.store (Db.Within.connectRepo (currentUser_found hby)
    (a.view_covers u) _ _)) fun _ _ _ => Confined.pure _

theorem Confined.getDeploymentOp (hby : (Platform.currentUser claims).run.run a = (.ok u, a)) (req : Json) :
    Confined (a.view u) a (Platform.getDeploymentOp claims req) (Platform.getDeploymentOp claims req) := by
  unfold Platform.getDeploymentOp
  refine Confined.caller hby ?_
  exact Confined.bind (Confined.visibleDeployment (currentUser_found hby) _) fun _ _ _ =>
    Confined.pure _

theorem Confined.getDeploymentsOp (hby : (Platform.currentUser claims).run.run a = (.ok u, a))
    (req : Json) :
    Confined (a.view u) a (Platform.getDeploymentsOp claims req) (Platform.getDeploymentsOp claims req) := by
  unfold Platform.getDeploymentsOp
  refine Confined.caller_repo hby _ fun r hr => ?_
  exact Confined.bind (Confined.store (Db.Within.getDeployments (App.view_repo_of_mem hr)))
    fun _ _ _ => Confined.pure _

theorem Confined.getHistoryOp (hby : (Platform.currentUser claims).run.run a = (.ok u, a)) (req : Json) :
    Confined (a.view u) a (Platform.getHistoryOp claims req) (Platform.getHistoryOp claims req) := by
  unfold Platform.getHistoryOp
  refine Confined.caller_repo hby _ fun r hr => ?_
  exact Confined.bind (Confined.store (Db.Within.getDeploymentHistory (App.view_repo_of_mem hr)))
    fun _ _ _ => Confined.pure _

theorem Confined.rollbackOp (hby : (Platform.currentUser claims).run.run a = (.ok u, a)) (req : Json) :
    Confined (a.view u) a (Platform.rollbackOp claims req) (Platform.rollbackOp claims req) := by
  unfold Platform.rollbackOp
  refine Confined.caller hby ?_
  refine Confined.bind (Confined.visibleDeployment (currentUser_found hby) _) fun src a₁ h₁ => ?_
  obtain ⟨rfl, -⟩ := visibleDeployment_ok (currentUser_found hby) h₁
  dsimp only
  split
  · exact Confined.throw_bind _ _ _
  · refine Confined.bind (Confined.visibleRepo (currentUser_found hby) _) fun r a₂ h₂ => ?_
    obtain ⟨rfl, hr⟩ := visibleRepo_ok (currentUser_found hby) h₂
    exact Confined.bind (Confined.deploy (App.view_repo_of_mem hr)) fun _ _ _ => Confined.pure _

theorem Confined.getSecretsOp (hby : (Platform.currentUser claims).run.run a = (.ok u, a)) (req : Json) :
    Confined (a.view u) a (Platform.getSecretsOp claims req) (Platform.getSecretsOp claims req) := by
  unfold Platform.getSecretsOp
  refine Confined.caller_repo hby _ fun r hr => ?_
  refine Confined.bind (Confined.userScope r) fun s a₁ h₁ => ?_
  obtain ⟨-, rfl⟩ := userScope_ok h₁
  exact Confined.bind (Confined.store (Db.Within.secretKeys _ (App.view_repo_of_mem hr)))
    fun _ _ _ => Confined.pure _

theorem Confined.workloadStatsOp (hby : (Platform.currentUser claims).run.run a = (.ok u, a))
    (req : Json) :
    Confined (a.view u) a (Platform.workloadStatsOp claims req) (Platform.workloadStatsOp claims req) := by
  unfold Platform.workloadStatsOp
  refine Confined.caller_repo hby _ fun r hr => ?_
  refine Confined.bind (Confined.userScope r) fun s a₁ h₁ => ?_
  obtain ⟨hs, rfl⟩ := userScope_ok h₁
  refine Confined.get_bind ?_
  rw [App.only_cluster, Cluster.only_workloadStats (App.view_ns hr hs)]
  exact Confined.bind (Confined.clusterAnswer _) fun _ _ _ => Confined.pure _

theorem Confined.revealSecretsOp (hby : (Platform.currentUser claims).run.run a = (.ok u, a))
    (req : Json) :
    Confined (a.view u) a (Platform.revealSecretsOp claims req)
      (Platform.revealSecretsOp claims req) := by
  unfold Platform.revealSecretsOp
  refine Confined.caller_repo hby _ fun r hr => ?_
  have hp := App.view_repo_of_mem hr
  refine Confined.bind (Confined.userScope r) fun s a₁ h₁ => ?_
  obtain ⟨-, rfl⟩ := userScope_ok h₁
  dsimp only
  -- each key is looked up in the store, then its value in the cluster, from any application
  refine Confined.bind (Confined.forIn fun key _ values b => ?_) fun _ _ _ => Confined.pure _
  refine Confined.bind (Confined.store (Db.Within.secretKeyExists hp)) fun found b₁ _ => ?_
  split
  · exact Confined.throw_bind _ _ _
  · refine Confined.get_bind ?_
    rw [App.only_cluster, Cluster.only_getSecret hp]
    exact Confined.bind (Confined.clusterAnswer _) fun _ _ _ => Confined.pure _

theorem Confined.setSecretOp (hby : (Platform.currentUser claims).run.run a = (.ok u, a))
    (req : Json) :
    Confined (a.view u) a (Platform.setSecretOp claims req) (Platform.setSecretOp claims req) := by
  unfold Platform.setSecretOp
  dsimp only
  split
  · exact Confined.throw_bind _ _ _
  · refine Confined.caller_repo hby _ fun r hr => ?_
    have hp := App.view_repo_of_mem hr
    refine Confined.bind (Confined.userScope r) fun s a₁ h₁ => ?_
    obtain ⟨-, ha₁⟩ := userScope_ok h₁
    subst a₁
    obtain ⟨hc, hsec, hobj⟩ := @Cluster.only_storeSecret a.cluster (a.view u) s.clusterNamespace
      r.id (field req "key") (field req "value") hp
    refine Confined.bind (Confined.modify ?_ ?_) fun _ a₂ _ => ?_
    · simp only [App.only, hc]
    · simp only [App.outside, hsec, hobj]
    · exact Confined.bind (Confined.store (Db.Within.saveSecret hp)) fun _ _ _ => Confined.pure _

theorem Confined.removeSecretOp (hby : (Platform.currentUser claims).run.run a = (.ok u, a))
    (req : Json) :
    Confined (a.view u) a (Platform.removeSecretOp claims req)
      (Platform.removeSecretOp claims req) := by
  unfold Platform.removeSecretOp
  refine Confined.caller_repo hby _ fun r hr => ?_
  have hp := App.view_repo_of_mem hr
  refine Confined.bind (Confined.userScope r) fun s a₁ h₁ => ?_
  obtain ⟨-, ha₁⟩ := userScope_ok h₁
  subst a₁
  dsimp only
  refine Confined.bind (Confined.store (Db.Within.removeSecret hp)) fun _ a₂ _ => ?_
  refine Confined.get_bind ?_
  obtain ⟨hrm, hout⟩ := @Cluster.only_removeSecret a₂.cluster (a.view u) s.clusterNamespace r.id
    (field req "key") hp
  rw [App.only_cluster, hrm]
  cases hc : a₂.cluster.removeSecret s.clusterNamespace r.id (field req "key") with
  | ok c' =>
    obtain ⟨hsec, hobj⟩ := hout c' hc
    refine Confined.bind (Confined.modify ?_ ?_) fun _ _ _ => Confined.pure _
    · rfl
    · simp only [App.outside, hsec, hobj]
  | error e =>
    cases e with
    | secretNotFound => exact Confined.pure _
    | _ => exact Confined.throw_bind _ _ _

theorem Confined.deployOp (hby : (Platform.currentUser claims).run.run a = (.ok u, a))
    (req : Json) :
    Confined (a.view u) a (Platform.deployOp claims req) (Platform.deployOp claims req) := by
  unfold Platform.deployOp
  refine Confined.caller_repo hby _ fun r hr => ?_
  have hp := App.view_repo_of_mem hr
  -- every way to a source ends in `tail`, a deploy of the repository found
  lift_lets
  extract_lets branch sha tag tail rest
  have htail : ∀ b src, Confined (a.view u) b (tail src) (tail src) := fun b src =>
    Confined.bind (Confined.deploy hp) fun _ _ _ => Confined.pure _
  split
  · exact Confined.throw_bind _ _ _
  · dsimp only [rest]
    split
    · refine Confined.bind (Confined.visibleDeployment (currentUser_found hby) _)
        fun prev a₁ _ => ?_
      split
      · exact Confined.throw_bind _ _ _
      · split
        · exact Confined.throw_bind _ _ _
        · exact Confined.bind (Confined.pure _) fun src b _ => htail b src
    · split
      · exact Confined.bind (Confined.pure _) fun src b _ => htail b src
      · split
        · exact Confined.bind (Confined.pure _) fun src b _ => htail b src
        · exact Confined.throw_bind _ _ _

/-- Reading a progress subscription touches only the bus. -/
theorem Confined.readSubscription (sub : Progress.Subscription) :
    Confined v a (readSubscription sub) (readSubscription sub) := by
  unfold Platform.readSubscription
  refine Confined.get_bind ?_
  rw [App.only_bus, App.only_now]
  exact Confined.bind (Confined.set rfl rfl) fun _ _ _ => Confined.pure _

theorem Confined.buildProgress (hby : (Platform.currentUser claims).run.run a = (.ok u, a))
    (id : String) :
    Confined (a.view u) a (buildProgress claims id) (buildProgress claims id) := by
  unfold Platform.buildProgress
  refine Confined.caller hby ?_
  refine Confined.bind (Confined.visibleDeployment (currentUser_found hby) _) fun d a₁ _ => ?_
  refine Confined.get_bind ?_
  rw [App.only_bus, App.only_now]
  split
  · exact Confined.bind (Confined.set rfl rfl) fun _ _ _ => Confined.readSubscription _
  · split
    · exact Confined.pure _
    · exact Confined.bind (Confined.set rfl rfl) fun _ _ _ => Confined.readSubscription _

theorem Confined.serviceLogs (hby : (Platform.currentUser claims).run.run a = (.ok u, a))
    (id : String) :
    Confined (a.view u) a (serviceLogs claims id) (serviceLogs claims id) := by
  unfold Platform.serviceLogs
  refine Confined.caller_repo hby _ fun r _ => ?_
  refine Confined.bind (Confined.userScope r) fun _ _ _ => ?_
  exact Confined.get_bind (by rw [App.only_now]; exact Confined.pure _)

end Operations

section Refusal

variable {α : Type} {a : App} {u : User} {claims : Claims} {id : String}

/-- Two computations fail with one error and leave the application as it was. -/
def RefusedAlike {ε α : Type} (a : App) (x y : AppM ε α) : Prop :=
  ∃ e, x.run.run a = (.error e, a) ∧ y.run.run a = (.error e, a)

/-- A deployment the caller cannot reach by its identifier: there is none, or it belongs to a
repository outside the caller's view. -/
def App.HidesDeployment (a : App) (u : User) (id : String) : Prop :=
  ∀ d, a.db.deployments.find? (·.id == id) = some d → (a.view u).repo d.repoId = false

/-- A repository found among those a predicate keeps has the identifier asked for. -/
theorem listed_id {r : Repository} (hr : r ∈ a.db.listed fun i r => r.id == id && u.sees i) :
    r.id = id := by
  obtain ⟨r₀, -, i, -, hq, rfl⟩ := Db.mem_listed.1 hr
  simp only [Bool.and_eq_true, beq_iff_eq] at hq
  exact hq.1

/-- A repository no row has is outside every view. -/
theorem App.view_repo_of_absent (h : ∀ r ∈ a.db.repositories, r.id ≠ id) :
    (a.view u).repo id = false := by
  refine List.any_eq_false.2 fun r hr hid => ?_
  obtain ⟨r₀, hr₀, i, -, -, rfl⟩ := Db.mem_listed.1 hr
  exact h r₀ hr₀ (by simpa using hid)

/-- A deployment no row has is hidden from everyone. -/
theorem App.hidesDeployment_of_absent (h : ∀ d ∈ a.db.deployments, d.id ≠ id) :
    a.HidesDeployment u id := by
  intro d hd
  have hid : d.id = id := by simpa using List.find?_some hd
  exact absurd hid (h d (List.mem_of_find?_eq_some hd))

/-- Looking up a repository the user does not see fails as for one that does not exist. -/
theorem getRepoById_unseen (hu : a.db.users.find? (·.id == u.id) = some u)
    (h : (a.view u).repo id = false) : getRepoById u.id id a.db = .error .repoNotFound := by
  rw [getRepoById_apply, hu]
  dsimp only
  split
  · rename_i r hr
    have hmem := List.mem_of_mem_head? hr
    have hseen := App.view_repo_of_mem hmem
    rw [listed_id hmem, h] at hseen
    cases hseen
  · rfl

theorem visibleRepo_unseen (hu : a.db.users.find? (·.id == u.id) = some u)
    (h : (a.view u).repo id = false) :
    (visibleRepo u id).run.run a = (.error StoreError.repoNotFound.toRpc, a) := by
  unfold Platform.visibleRepo stored
  rw [store_run, getRepoById_unseen hu h]

theorem visibleDeployment_hidden (hu : a.db.users.find? (·.id == u.id) = some u)
    (h : a.HidesDeployment u id) :
    (visibleDeployment u id).run.run a = (.error StoreError.deploymentNotFound.toRpc, a) := by
  rw [visibleDeployment_run]
  cases hd : a.db.deployments.find? (·.id == id) with
  | none => rfl
  | some d =>
    dsimp only
    rw [getRepoById_unseen hu (h d hd)]
    rfl

/-- A request by `u` on a repository `u` does not see fails as one on a repository that does not
exist, before it reads or writes anything else. -/
theorem caller_repo_refused (hby : (Platform.currentUser claims).run.run a = (.ok u, a))
    (h : (a.view u).repo id = false) {k : User → Repository → AppM RpcError α} :
    (Platform.currentUser claims >>= fun u => Platform.visibleRepo u id >>= k u).run.run a =
      (.error StoreError.repoNotFound.toRpc, a) := by
  rw [AppM.run_bind, hby]
  dsimp only
  rw [AppM.run_bind, visibleRepo_unseen (currentUser_found hby) h]

/-- A request by `u` on a deployment hidden from `u` fails as one on a deployment that does not
exist, before it reads or writes anything else. -/
theorem caller_deployment_refused (hby : (Platform.currentUser claims).run.run a = (.ok u, a))
    (h : a.HidesDeployment u id) {k : User → Deployment → AppM RpcError α} :
    (Platform.currentUser claims >>= fun u => Platform.visibleDeployment u id >>= k u).run.run a =
      (.error StoreError.deploymentNotFound.toRpc, a) := by
  rw [AppM.run_bind, hby]
  dsimp only
  rw [AppM.run_bind, visibleDeployment_hidden (currentUser_found hby) h]

/-- `setSecret` checks the key before it finds the caller: two requests with one key, on
repositories the caller does not see, fail alike. -/
theorem setSecretOp_refused {req₁ req₂ : Json}
    (hby : (Platform.currentUser claims).run.run a = (.ok u, a))
    (hkey : field req₁ "key" = field req₂ "key") (h₁ : (a.view u).repo (field req₁ "repoId") = false)
    (h₂ : (a.view u).repo (field req₂ "repoId") = false) :
    RefusedAlike a (Platform.setSecretOp claims req₁) (Platform.setSecretOp claims req₂) := by
  unfold Platform.setSecretOp
  dsimp only
  rw [hkey]
  split
  · exact ⟨_, rfl, rfl⟩
  · exact ⟨_, caller_repo_refused hby h₁, caller_repo_refused hby h₂⟩

/-- A deploy from an earlier deployment hidden from the caller fails as one from a deployment
that does not exist, when the two requests agree on everything else. -/
theorem deployOp_refuses_hidden_source {req₁ req₂ : Json}
    (hby : (Platform.currentUser claims).run.run a = (.ok u, a))
    (hagree : Json.AgreeOff "fromDeploymentId" req₁ req₂)
    (hne₁ : (field req₁ "fromDeploymentId").isEmpty = false)
    (hne₂ : (field req₂ "fromDeploymentId").isEmpty = false)
    (h₁ : a.HidesDeployment u (field req₁ "fromDeploymentId"))
    (h₂ : a.HidesDeployment u (field req₂ "fromDeploymentId")) :
    RefusedAlike a (Platform.deployOp claims req₁) (Platform.deployOp claims req₂) := by
  have hu := currentUser_found hby
  unfold RefusedAlike Platform.deployOp
  rw [AppM.run_bind, AppM.run_bind, hby]
  dsimp only
  -- both look up the same repository, alike
  rw [hagree.field_eq (by decide), AppM.run_bind, AppM.run_bind, visibleRepo_run]
  cases getRepoById u.id (field req₂ "repoId") a.db with
  | error e => exact ⟨_, rfl, rfl⟩
  | ok p =>
    obtain ⟨r, db⟩ := p
    dsimp only
    split
    · exact ⟨_, rfl, rfl⟩
    · -- then both look up the deployment they name, which neither finds
      have hc₁ : (!(field req₁ "fromDeploymentId").isEmpty) = true := by rw [hne₁]; rfl
      have hc₂ : (!(field req₂ "fromDeploymentId").isEmpty) = true := by rw [hne₂]; rfl
      rw [if_pos hc₁, if_pos hc₂, AppM.run_bind, AppM.run_bind, visibleDeployment_hidden hu h₁,
        visibleDeployment_hidden hu h₂]
      exact ⟨_, rfl, rfl⟩

end Refusal

section Requests

variable {a : App} {u : User} {claims : Claims}

/-- Every named operation but `syncGithubApp`, whose installations come from the code host,
stays in its caller's view. -/
theorem operations_confined (hby : (Platform.currentUser claims).run.run a = (.ok u, a))
    {op : Operation} (hop : op ∈ operations) (hsync : op.name ≠ "syncGithubApp") (req : Json) :
    Confined (a.view u) a (op.run claims req) (op.run claims req) := by
  simp only [operations, List.mem_cons, List.not_mem_nil, or_false] at hop
  rcases hop with rfl | rfl | rfl | rfl | rfl | rfl | rfl | rfl | rfl | rfl | rfl | rfl | rfl |
    rfl | rfl | rfl
  · exact Confined.info claims req
  · exact Confined.getProfile hby req
  · exact Confined.getRepos hby req
  · exact Confined.getBranches hby req
  · exact absurd rfl hsync
  · exact Confined.connectBranch hby req
  · exact Confined.deployOp hby req
  · exact Confined.getDeploymentOp hby req
  · exact Confined.getDeploymentsOp hby req
  · exact Confined.getHistoryOp hby req
  · exact Confined.rollbackOp hby req
  · exact Confined.getSecretsOp hby req
  · exact Confined.revealSecretsOp hby req
  · exact Confined.setSecretOp hby req
  · exact Confined.removeSecretOp hby req
  · exact Confined.workloadStatsOp hby req

/-- Every named operation whose request names a repository refuses two requests that agree but
on repositories the caller does not see, alike. -/
theorem operations_refuse_unseen_repo (hby : (Platform.currentUser claims).run.run a = (.ok u, a))
    {op : Operation} (hop : op ∈ operations) (hk : op.input.hasField "repoId" = true)
    {req₁ req₂ : Json} (hagree : Json.AgreeOff "repoId" req₁ req₂)
    (h₁ : (a.view u).repo (field req₁ "repoId") = false)
    (h₂ : (a.view u).repo (field req₂ "repoId") = false) :
    RefusedAlike a (op.run claims req₁) (op.run claims req₂) := by
  simp only [operations, List.mem_cons, List.not_mem_nil, or_false] at hop
  -- a request that names a repository looks it up right after the caller, but for `setSecret`,
  -- which checks its key first
  rcases hop with rfl | rfl | rfl | rfl | rfl | rfl | rfl | rfl | rfl | rfl | rfl | rfl | rfl |
    rfl | rfl | rfl
  all_goals first
    | exact absurd hk (by decide)
    | exact ⟨_, caller_repo_refused hby h₁, caller_repo_refused hby h₂⟩
    | exact setSecretOp_refused hby (hagree.field_eq (by decide)) h₁ h₂

/-- Every named operation whose request names a deployment, by `deploymentId` or as the source of
a deploy, refuses two requests that agree but on deployments hidden from the caller, alike. -/
theorem operations_refuse_hidden_deployment
    (hby : (Platform.currentUser claims).run.run a = (.ok u, a)) {op : Operation}
    (hop : op ∈ operations) {k : String} (hkey : k = "deploymentId" ∨ k = "fromDeploymentId")
    (hk : op.input.hasField k = true) {req₁ req₂ : Json} (hagree : Json.AgreeOff k req₁ req₂)
    (hne₁ : (field req₁ k).isEmpty = false) (hne₂ : (field req₂ k).isEmpty = false)
    (h₁ : a.HidesDeployment u (field req₁ k)) (h₂ : a.HidesDeployment u (field req₂ k)) :
    RefusedAlike a (op.run claims req₁) (op.run claims req₂) := by
  simp only [operations, List.mem_cons, List.not_mem_nil, or_false] at hop
  -- `getDeployment` and `rollbackDeployment` look the deployment up right after the caller;
  -- `deploy` looks up its repository first
  rcases hop with rfl | rfl | rfl | rfl | rfl | rfl | rfl | rfl | rfl | rfl | rfl | rfl | rfl |
    rfl | rfl | rfl <;> rcases hkey with rfl | rfl
  all_goals first
    | exact absurd hk (by decide)
    | exact ⟨_, caller_deployment_refused hby h₁, caller_deployment_refused hby h₂⟩
    | exact deployOp_refuses_hidden_source hby hagree hne₁ hne₂ h₁ h₂

end Requests

/-- Every request of a signed-in caller `u` but `syncGithubApp` stays in `u`'s view: run on the
application cut down to what `u` sees it answers the same, and it leaves everything else as it
was. A request naming a repository or a deployment hidden from `u` is refused as one naming a
repository or deployment that does not exist, and changes nothing. -/
theorem requests_stay_in_callers_view (a : App) (claims : Claims) (u : User)
    (hby : (currentUser claims).run.run a = (.ok u, a)) :
    (∀ op ∈ operations, op.name ≠ "syncGithubApp" → ∀ req,
      Confined (a.view u) a (op.run claims req) (op.run claims req)) ∧
    (∀ id, Confined (a.view u) a (buildProgress claims id) (buildProgress claims id)) ∧
    (∀ id, Confined (a.view u) a (serviceLogs claims id) (serviceLogs claims id)) ∧
    (∀ op ∈ operations, op.input.hasField "repoId" = true → ∀ req₁ req₂,
      Json.AgreeOff "repoId" req₁ req₂ → (a.view u).repo (field req₁ "repoId") = false →
      (∀ r ∈ a.db.repositories, r.id ≠ field req₂ "repoId") →
      RefusedAlike a (op.run claims req₁) (op.run claims req₂)) ∧
    (∀ op ∈ operations, ∀ k, k = "deploymentId" ∨ k = "fromDeploymentId" →
      op.input.hasField k = true → ∀ req₁ req₂, Json.AgreeOff k req₁ req₂ →
      (field req₁ k).isEmpty = false → (field req₂ k).isEmpty = false →
      a.HidesDeployment u (field req₁ k) → (∀ d ∈ a.db.deployments, d.id ≠ field req₂ k) →
      RefusedAlike a (op.run claims req₁) (op.run claims req₂)) ∧
    (∀ id₁ id₂, (a.view u).repo id₁ = false → (∀ r ∈ a.db.repositories, r.id ≠ id₂) →
      RefusedAlike a (serviceLogs claims id₁) (serviceLogs claims id₂)) ∧
    (∀ id₁ id₂, a.HidesDeployment u id₁ → (∀ d ∈ a.db.deployments, d.id ≠ id₂) →
      RefusedAlike a (buildProgress claims id₁) (buildProgress claims id₂)) := by
  refine ⟨fun op hop hsync req => operations_confined hby hop hsync req,
    Confined.buildProgress hby, Confined.serviceLogs hby, ?_, ?_, ?_, ?_⟩
  · intro op hop hk req₁ req₂ hagree h₁ h₂
    exact operations_refuse_unseen_repo hby hop hk hagree h₁ (App.view_repo_of_absent h₂)
  · intro op hop k hkey hk req₁ req₂ hagree hne₁ hne₂ h₁ h₂
    exact operations_refuse_hidden_deployment hby hop hkey hk hagree hne₁ hne₂ h₁
      (App.hidesDeployment_of_absent h₂)
  · intro id₁ id₂ h₁ h₂
    exact ⟨_, caller_repo_refused hby h₁, caller_repo_refused hby (App.view_repo_of_absent h₂)⟩
  · intro id₁ id₂ h₁ h₂
    exact ⟨_, caller_deployment_refused hby h₁,
      caller_deployment_refused hby (App.hidesDeployment_of_absent h₂)⟩

/-- The one user of `soloApp`. -/
def soloUser : User :=
  { id := "u1", email := "ada@host", displayName := "ada", currentWorkspace := "w1" }

/-- An application whose store holds one user and nothing else. -/
def soloApp : App :=
  { settings := {}, issuer := ⟨"", 1, Nat.one_pos, [], []⟩, now := ⟨0⟩,
    db := { users := [soloUser] } }

/-- The rule for the one user of `soloApp`, signed in by a token naming it. -/
theorem solo_caller_stays_in_view :
    (currentUser [("id", .str "u1")]).run.run soloApp = (.ok soloUser, soloApp) ∧
    (∀ op ∈ operations, op.name ≠ "syncGithubApp" → ∀ req,
      Confined (soloApp.view soloUser) soloApp (op.run [("id", .str "u1")] req)
        (op.run [("id", .str "u1")] req)) ∧
    (∀ id, Confined (soloApp.view soloUser) soloApp (buildProgress [("id", .str "u1")] id)
      (buildProgress [("id", .str "u1")] id)) ∧
    (∀ id, Confined (soloApp.view soloUser) soloApp (serviceLogs [("id", .str "u1")] id)
      (serviceLogs [("id", .str "u1")] id)) ∧
    (∀ op ∈ operations, op.input.hasField "repoId" = true → ∀ req₁ req₂,
      Json.AgreeOff "repoId" req₁ req₂ → (soloApp.view soloUser).repo (field req₁ "repoId") = false →
      (∀ r ∈ soloApp.db.repositories, r.id ≠ field req₂ "repoId") →
      RefusedAlike soloApp (op.run [("id", .str "u1")] req₁) (op.run [("id", .str "u1")] req₂)) ∧
    (∀ op ∈ operations, ∀ k, k = "deploymentId" ∨ k = "fromDeploymentId" →
      op.input.hasField k = true → ∀ req₁ req₂, Json.AgreeOff k req₁ req₂ →
      (field req₁ k).isEmpty = false → (field req₂ k).isEmpty = false →
      soloApp.HidesDeployment soloUser (field req₁ k) →
      (∀ d ∈ soloApp.db.deployments, d.id ≠ field req₂ k) →
      RefusedAlike soloApp (op.run [("id", .str "u1")] req₁) (op.run [("id", .str "u1")] req₂)) ∧
    (∀ id₁ id₂, (soloApp.view soloUser).repo id₁ = false →
      (∀ r ∈ soloApp.db.repositories, r.id ≠ id₂) →
      RefusedAlike soloApp (serviceLogs [("id", .str "u1")] id₁)
        (serviceLogs [("id", .str "u1")] id₂)) ∧
    (∀ id₁ id₂, soloApp.HidesDeployment soloUser id₁ →
      (∀ d ∈ soloApp.db.deployments, d.id ≠ id₂) →
      RefusedAlike soloApp (buildProgress [("id", .str "u1")] id₁)
        (buildProgress [("id", .str "u1")] id₂)) :=
  ⟨rfl, requests_stay_in_callers_view soloApp _ soloUser rfl⟩

end Shipyard.Platform
