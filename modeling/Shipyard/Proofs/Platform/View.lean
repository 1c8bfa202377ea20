import Mathlib.Data.List.Basic
import Shipyard.Proofs.Platform.Scope
import Shipyard.Platform.Pipeline
/-!
# What a user's view of the application holds

A user sees a repository when its installation belongs to the user's workspace or is on the
user's own account. What belongs to a repository is its row, its deployments and its secret
keys in the store, and in the cluster its secret values and the objects of its namespace. A
`View` names the repositories and namespaces kept; `App.only v` is the application cut down to
them, everything else left whole, and `App.outside v` is what belongs to those left out.

`Confined v a x y` says that whenever `x` succeeds from `a`, `y` succeeds from `a.only v` with
the same answer and ends in the cut-down end state of `x`, and that `x` left what is outside `v`
as it was. With `y = x` it says that `x` reads and writes only what `v` holds: taking the rest
away changes nothing `x` answers. There is one rule per primitive of the application's monad and
one for `bind`, and each store operation a request uses gets, as `Db.Within`, the condition under
which it stays in view.
-/
namespace Shipyard

open Shipyard.Store
open Shipyard.Services

section Lists

variable {α : Type}

/-- Filtering commutes with an update that keeps what the filter tests. -/
theorem filter_update_of_keep {p q : α → Bool} {f : α → α} (hf : ∀ x, p x = true → q (f x) = q x)
    (l : List α) : (Db.update p f l).filter q = Db.update p f (l.filter q) := by
  induction l with
  | nil => rfl
  | cons x l ih =>
    by_cases hp : p x = true
    · by_cases hq : q x = true
      · simp [Db.update, hp, hq, hf x hp] at ih ⊢
        exact ih
      · simp [Db.update, hp, hq, hf x hp] at ih ⊢
        exact ih
    · by_cases hq : q x = true
      · simp [Db.update, hp, hq] at ih ⊢
        exact ih
      · simp [Db.update, hp, hq] at ih ⊢
        exact ih

/-- An update that hits no row changes nothing. -/
theorem update_eq_self {p : α → Bool} {f : α → α} {l : List α} (h : ∀ x ∈ l, p x = false) :
    Db.update p f l = l := by
  unfold Db.update
  conv_rhs => rw [← List.map_id l]
  exact List.map_congr_left fun x hx => by simp [h x hx]

/-- An update of rows a filter drops, keeping what it tests, leaves the filtered rows alone. -/
theorem filter_update_of_disjoint {p q : α → Bool} {f : α → α}
    (hf : ∀ x, p x = true → q (f x) = q x) (h : ∀ x, p x = true → q x = false) (l : List α) :
    (Db.update p f l).filter q = l.filter q := by
  rw [filter_update_of_keep hf, update_eq_self]
  intro x hx
  have hq := (List.mem_filter.1 hx).2
  cases hpx : p x
  · rfl
  · rw [h x hpx] at hq
    cases hq

/-- An update that keeps what `g` reads leaves the list of what `g` reads alone. -/
theorem map_update_of_keep {β : Type} {p : α → Bool} {f : α → α} {g : α → β}
    (hf : ∀ x, p x = true → g (f x) = g x) (l : List α) : (Db.update p f l).map g = l.map g := by
  unfold Db.update
  rw [List.map_map]
  refine List.map_congr_left fun x _ => ?_
  by_cases hp : p x = true
  · simp [hp, hf x hp]
  · simp [hp]

/-- The first match of a list is the first match of a filter that keeps it. -/
theorem find?_filter_of_find? {l : List α} {P q : α → Bool} {x : α} (h : l.find? P = some x)
    (hq : q x = true) : (l.filter q).find? P = some x := by
  induction l with
  | nil => cases h
  | cons y l ih =>
    by_cases hy : P y = true
    · rw [List.find?_cons_of_pos hy] at h
      cases h
      rw [List.filter_cons_of_pos hq, List.find?_cons_of_pos hy]
    · rw [List.find?_cons_of_neg hy] at h
      by_cases hqy : q y = true
      · rw [List.filter_cons_of_pos hqy, List.find?_cons_of_neg hy]
        exact ih h
      · rw [List.filter_cons_of_neg hqy]
        exact ih h

/-- A filter keeps the first match of a test that implies it. -/
theorem find?_filter_of_imp {l : List α} {P q : α → Bool} (h : ∀ x, P x = true → q x = true) :
    (l.filter q).find? P = l.find? P := by
  rw [List.find?_filter]
  congr 1
  funext x
  by_cases hx : P x = true
  · simp [hx, h x hx]
  · simp [hx]

/-- A rewrite that keeps what a filter tests commutes with the filter. -/
theorem filter_map_of_keep {g : α → α} {q : α → Bool} (hg : ∀ x, q (g x) = q x) (l : List α) :
    (l.map g).filter q = (l.filter q).map g := by
  rw [List.filter_map]
  congr 1
  exact List.filter_congr fun x _ => hg x

/-- A rewrite of rows a filter drops, keeping the rest as they are, leaves the filter alone. -/
theorem filter_map_of_disjoint {g : α → α} {q : α → Bool} (hg : ∀ x, q x = true → g x = x)
    (hq : ∀ x, q (g x) = q x) (l : List α) : (l.map g).filter q = l.filter q := by
  rw [filter_map_of_keep hq]
  conv_rhs => rw [← List.map_id (l.filter q)]
  exact List.map_congr_left fun x hx => hg x (List.mem_filter.1 hx).2

end Lists

/-- The repositories and namespaces a view keeps, as tests on identifiers and names. -/
structure View where
  repo : String → Bool
  ns : String → Bool

namespace Db

/-- The store cut down to the repositories `p` keeps: their rows, deployments and secret keys.
The rest of the store is left whole. -/
def only (db : Db) (p : String → Bool) : Db :=
  { db with
    repositories := db.repositories.filter (p ·.id)
    deployments := db.deployments.filter (p ·.repoId)
    secretKeys := db.secretKeys.filter (p ·.repoId) }

/-- What belongs to the repositories `p` leaves out: their rows, deployments and secret keys. -/
def outside (db : Db) (p : String → Bool) :
    List RepositoryRow × List Deployment × List SecretKey :=
  (db.repositories.filter (!p ·.id), db.deployments.filter (!p ·.repoId),
    db.secretKeys.filter (!p ·.repoId))

section Only

variable (db : Db) (p : String → Bool)

@[simp] theorem only_users : (db.only p).users = db.users := rfl
@[simp] theorem only_workspaces : (db.only p).workspaces = db.workspaces := rfl
@[simp] theorem only_installations : (db.only p).installations = db.installations := rfl
@[simp] theorem only_issued : (db.only p).issued = db.issued := rfl
@[simp] theorem only_repositories :
    (db.only p).repositories = db.repositories.filter (p ·.id) := rfl
@[simp] theorem only_deployments :
    (db.only p).deployments = db.deployments.filter (p ·.repoId) := rfl
@[simp] theorem only_secretKeys :
    (db.only p).secretKeys = db.secretKeys.filter (p ·.repoId) := rfl

end Only

/-- `p` keeps every repository `u` sees. -/
def Covers (db : Db) (u : User) (p : String → Bool) : Prop :=
  ∀ r ∈ db.repositories, ∀ i, db.installations.find? (·.vcsInstallationId == r.installationId) =
    some i → u.sees i = true → p r.id = true

/-- Reading the repositories `u` sees, by any test, reads only what a covering `p` keeps. -/
theorem listed_only {db : Db} {u : User} {p : String → Bool} (hp : db.Covers u p)
    {q : Installation → RepositoryRow → Bool} (hq : ∀ i r, q i r = true → u.sees i = true) :
    (db.only p).listed q = db.listed q := by
  unfold listed
  simp only [only_repositories, only_installations, List.filterMap_filter]
  congr 2
  apply List.filterMap_congr
  intro r hr
  split
  · rfl
  · rename_i hpr
    split
    · rename_i i hi
      split
      · exact absurd (hp r hr i hi (hq i r ‹_›)) hpr
      · rfl
    · rfl

/-- Covering depends only on the repositories' identifiers and installations. -/
theorem Covers.of_repositories {db db' : Db} {u : User} {p : String → Bool} (h : db.Covers u p)
    (hrepo : db'.repositories.map (fun r => (r.id, r.installationId)) =
      db.repositories.map (fun r => (r.id, r.installationId)))
    (hinst : db'.installations = db.installations) : db'.Covers u p := by
  intro r hr i hi hsees
  have hmem : (r.id, r.installationId) ∈ db.repositories.map (fun r => (r.id, r.installationId)) :=
    hrepo ▸ List.mem_map_of_mem hr
  obtain ⟨r', hr', heq⟩ := List.mem_map.1 hmem
  simp only [Prod.mk.injEq] at heq
  rw [← heq.1]
  exact h r' hr' i (by rw [heq.2, ← hinst]; exact hi) hsees

/-- Run from `db`, `op` answers `x` in `db'`: then, run from the rows `p` keeps, it answers the
same in the rows `p` keeps of `db'`, and it left what `p` leaves out as it was. -/
def Within {α : Type} (p : String → Bool) (op : StoreM α) (db : Db) : Prop :=
  ∀ x db', op db = .ok (x, db') → op (db.only p) = .ok (x, db'.only p) ∧
    db'.outside p = db.outside p

namespace Within

variable {α β : Type} {p : String → Bool} {db : Db}

protected theorem pure (x : α) : Within p (pure x : StoreM α) db := by
  intro y db' h
  cases h
  exact ⟨rfl, rfl⟩

protected theorem bind {x : StoreM α} {f : α → StoreM β} (hx : Within p x db)
    (hf : ∀ a db', x db = .ok (a, db') → Within p (f a) db') : Within p (x >>= f) db := by
  intro y db'' h
  change Except.bind (x db) _ = _ at h
  change Except.bind (x (db.only p)) _ = _ ∧ _
  cases hxd : x db with
  | error e => rw [hxd] at h; cases h
  | ok r =>
    obtain ⟨a, db'⟩ := r
    rw [hxd] at h
    obtain ⟨hx', hout⟩ := hx a db' hxd
    obtain ⟨hf', hout'⟩ := hf a db' hxd y db'' h
    rw [hx']
    exact ⟨hf', hout'.trans hout⟩

/-- A read of a table no view cuts down. -/
theorem of_reads {op : StoreM α} (hop : ∀ x db', op db = .ok (x, db') → db' = db)
    (honly : op (db.only p) = (op db).map fun r => (r.1, r.2.only p)) : Within p op db := by
  intro x db' h
  obtain rfl := hop x db' h
  rw [honly, h]
  exact ⟨rfl, rfl⟩

theorem getUser (id : String) : Within p (getUser id) db := by
  refine of_reads (fun x db' h => ?_) ?_
  · rw [getUser_apply] at h
    split at h <;> cases h
    rfl
  · rw [getUser_apply, getUser_apply, only_users]
    split <;> rfl

/-- Workspaces are read whole from any cut-down store. -/
theorem getWorkspace_only (id : String) (p : String → Bool) (db : Db) :
    Store.getWorkspace id (db.only p) = (Store.getWorkspace id db).map fun r => (r.1, r.2.only p) := by
  rw [getWorkspace_apply, getWorkspace_apply, only_workspaces]
  split <;> rfl

theorem getWorkspace (id : String) : Within p (getWorkspace id) db :=
  of_reads (getWorkspace_readOnly id db) (getWorkspace_only id p db)

theorem getInstallation (vcsId : Int) : Within p (getInstallation vcsId) db := by
  refine of_reads (getInstallation_readOnly vcsId db) ?_
  rw [getInstallation_apply, getInstallation_apply, only_installations]
  split <;> rfl

/-- A repository read by identifier for a user whose repositories `p` keeps. -/
theorem getRepoById {u : User} (hu : db.users.find? (·.id == u.id) = some u) (hp : db.Covers u p)
    (repoId : String) : Within p (getRepoById u.id repoId) db := by
  refine of_reads (fun x db' h => getRepoById_state h) ?_
  rw [getRepoById_apply, getRepoById_apply, only_users, hu]
  dsimp only
  rw [listed_only hp (fun i r h => by simp only [Bool.and_eq_true] at h; exact h.2)]
  split <;> rfl

theorem getRepositories {u : User} (hu : db.users.find? (·.id == u.id) = some u)
    (hp : db.Covers u p) : Within p (getRepositories u.id) db := by
  refine of_reads (fun x db' h => ?_) ?_
  · rw [getRepositories_apply, hu] at h
    cases h
    rfl
  · rw [getRepositories_apply, getRepositories_apply, only_users, hu]
    dsimp only
    rw [listed_only hp (fun _ _ h => h)]
    rfl

theorem getDeployments {repoId : String} (hp : p repoId = true) :
    Within p (getDeployments repoId) db := by
  refine of_reads (fun x db' h => by rw [getDeployments_apply] at h; cases h; rfl) ?_
  have hf : (db.deployments.filter (p ·.repoId)).filter (·.repoId == repoId) =
      db.deployments.filter (·.repoId == repoId) := by
    rw [List.filter_filter]
    exact List.filter_congr fun d _ => by by_cases hd : d.repoId = repoId <;> simp [hd, hp]
  rw [getDeployments_apply, getDeployments_apply, only_deployments, hf]
  rfl

theorem getDeploymentHistory {repoId : String} (hp : p repoId = true) :
    Within p (getDeploymentHistory repoId) db := by
  refine of_reads (fun x db' h => by rw [getDeploymentHistory_apply] at h; cases h; rfl) ?_
  have hf : (db.deployments.filter (p ·.repoId)).filter (·.repoId == repoId) =
      db.deployments.filter (·.repoId == repoId) := by
    rw [List.filter_filter]
    exact List.filter_congr fun d _ => by by_cases hd : d.repoId = repoId <;> simp [hd, hp]
  rw [getDeploymentHistory_apply, getDeploymentHistory_apply, only_deployments, hf]
  rfl

theorem secretKeys (workspaceId : String) {repoId : String} (hp : p repoId = true) :
    Within p (Store.secretKeys workspaceId repoId) db := by
  refine of_reads (secretKeys_readOnly workspaceId repoId db) ?_
  have hf : (db.secretKeys.filter (p ·.repoId)).filter
      (fun k => k.workspaceId == workspaceId && k.repoId == repoId) =
      db.secretKeys.filter (fun k => k.workspaceId == workspaceId && k.repoId == repoId) := by
    rw [List.filter_filter]
    exact List.filter_congr fun k _ => by by_cases hk : k.repoId = repoId <;> simp [hk, hp]
  rw [secretKeys_apply, secretKeys_apply, only_secretKeys, hf]
  rfl

theorem secretKeyExists {k : SecretKey} (hp : p k.repoId = true) :
    Within p (secretKeyExists k) db := by
  refine of_reads (fun x db' h => by rw [secretKeyExists_apply] at h; cases h; rfl) ?_
  rw [secretKeyExists_apply, secretKeyExists_apply, only_secretKeys]
  have hc : (db.secretKeys.filter (p ·.repoId)).contains k = db.secretKeys.contains k := by
    rw [Bool.eq_iff_iff, List.contains_iff_mem, List.contains_iff_mem, List.mem_filter]
    exact ⟨fun h => h.1, fun h => ⟨h, hp⟩⟩
  rw [hc]
  rfl

/-- Resolving a scope reads workspaces and installations, which no view cuts down. -/
theorem resolveScope (repo : Repository) (hint : Option String) :
    Within p (Platform.resolveScope repo hint) db := by
  unfold Platform.resolveScope
  dsimp only
  split
  · exact (getWorkspace _).bind fun _ _ _ => Within.pure _
  · exact (getInstallation _).bind fun _ _ _ => Within.pure _

/-- A repository the user sees that `getRepoById` finds is kept by a covering `p`. -/
theorem getRepoById_kept {u : User} {repoId : String} {r : Repository} {db' : Db}
    (hu : db.users.find? (·.id == u.id) = some u) (hp : db.Covers u p)
    (h : Store.getRepoById u.id repoId db = .ok (r, db')) : r.id = repoId ∧ p repoId = true := by
  rw [getRepoById_apply, hu] at h
  dsimp only at h
  split at h
  · rename_i hhead
    cases h
    obtain ⟨r₀, hr₀, i, hi, hq, rfl⟩ := mem_listed.1 (List.mem_of_mem_head? hhead)
    simp only [Bool.and_eq_true, beq_iff_eq] at hq
    refine ⟨hq.1, ?_⟩
    rw [← hq.1]
    exact hp r₀ hr₀ i hi hq.2
  · cases h

/-- Connecting a repository the user sees rewrites only that repository's row. -/
theorem connectRepo {u : User} (hu : db.users.find? (·.id == u.id) = some u) (hp : db.Covers u p)
    (repoId branch : String) : Within p (connectRepo u.id repoId branch) db := by
  intro x db' h
  rw [connectRepo_apply] at h ⊢
  cases hfirst : Store.getRepoById u.id repoId db with
  | error e => rw [hfirst] at h; cases h
  | ok r =>
    obtain ⟨r, db₀⟩ := r
    rw [hfirst] at h
    dsimp only at h
    have hkept := (getRepoById_kept hu hp hfirst).2
    rw [((getRepoById hu hp repoId) r db₀ hfirst).1]
    dsimp only
    -- the row rewritten keeps its identifier and installation, so the view still covers it
    generalize hf : (fun r : RepositoryRow =>
      { r with connectedBranch := some branch, connected := true }) = f at h ⊢
    have hfid : ∀ r, (f r).id = r.id ∧ (f r).installationId = r.installationId := by
      rw [← hf]
      exact fun _ => ⟨rfl, rfl⟩
    have hcov : Db.Covers { db with repositories := Db.update (·.id == repoId) f db.repositories }
        u p :=
      hp.of_repositories (map_update_of_keep (fun r _ => by rw [(hfid r).1, (hfid r).2]) _) rfl
    have key := (@getRepoById p
      { db with repositories := Db.update (·.id == repoId) f db.repositories } u hu hcov repoId
      x db' h).1
    obtain rfl := getRepoById_state h
    refine ⟨?_, ?_⟩
    · rw [← key]
      congr 1
      simp only [Db.only]
      rw [filter_update_of_keep (fun r _ => by simp only [(hfid r).1])]
    · have hout : (Db.update (·.id == repoId) f db.repositories).filter (!p ·.id) =
          db.repositories.filter (!p ·.id) :=
        filter_update_of_disjoint (fun r _ => by simp only [(hfid r).1])
          (fun r hr => by rw [beq_iff_eq.1 hr, hkept]; rfl) _
      simp only [outside, hout]

/-- Saving a deployment of a repository `p` keeps. -/
theorem saveDeployment {d : Deployment} (now : Instant) (hp : p d.repoId = true) :
    Within p (saveDeployment d now) db := by
  intro x db' h
  rw [saveDeployment_apply] at h ⊢
  simp only [only_issued] at h ⊢
  -- the identifier is the row's own or the next fresh one, in both stores alike
  by_cases he : d.id.isEmpty <;> simp only [he, if_true, if_false, Bool.false_eq_true] at h ⊢
  all_goals
    split at h
    · rename_i hc
      cases h
      simp only [Bool.and_eq_true, Bool.not_eq_true', List.any_eq_false, List.any_eq_true,
        beq_iff_eq] at hc
      obtain ⟨hfresh, r, hr, hrid⟩ := hc
      rw [if_pos]
      · refine ⟨?_, ?_⟩
        · simp only [Db.only, List.filter_append, List.filter_singleton, hp, cond_true]
        · simp only [outside, List.filter_append, List.filter_singleton, hp, Bool.not_true,
            cond_false, List.append_nil]
      · simp only [only_deployments, only_repositories, Bool.and_eq_true, Bool.not_eq_true',
          List.any_eq_false, List.any_eq_true, List.mem_filter, beq_iff_eq]
        exact ⟨fun e he => hfresh e he.1, r, ⟨hr, by rw [hrid]; exact hp⟩, hrid⟩
    · cases h

/-- Superseding the deployments of a repository `p` keeps. -/
theorem supersede {repoId : String} (keep : String) (now : Instant) (hp : p repoId = true) :
    Within p (supersede repoId keep now) db := by
  intro x db' h
  rw [supersede_apply] at h ⊢
  cases h
  dsimp only
  have hhit : ∀ d : Deployment,
      (d.repoId == repoId && d.id != keep && !d.status.isTerminal) = true → p d.repoId = true := by
    intro d hd
    simp only [Bool.and_eq_true, beq_iff_eq] at hd
    rw [hd.1.1]
    exact hp
  have hsame : (db.deployments.filter (p ·.repoId)).filter
      (fun d => d.repoId == repoId && d.id != keep && !d.status.isTerminal) =
      db.deployments.filter (fun d => d.repoId == repoId && d.id != keep && !d.status.isTerminal) := by
    rw [List.filter_filter]
    refine List.filter_congr fun d _ => ?_
    cases hd : (d.repoId == repoId && d.id != keep && !d.status.isTerminal)
    · rfl
    · simp [hhit d hd]
  refine ⟨?_, ?_⟩
  · simp only [hsame, Db.only]
    rw [filter_update_of_keep]
    exact fun _ _ => rfl
  · simp only [outside]
    rw [filter_update_of_disjoint]
    · exact fun _ _ => rfl
    · exact fun d hd => by simp [hhit d hd]

/-- Keeping the key of a secret of a repository `p` keeps. -/
theorem saveSecret {k : SecretKey} (hp : p k.repoId = true) : Within p (saveSecret k) db := by
  intro x db' h
  rw [saveSecret_apply] at h ⊢
  have hc : (db.only p).secretKeys.contains k = db.secretKeys.contains k := by
    rw [only_secretKeys, Bool.eq_iff_iff, List.contains_iff_mem, List.contains_iff_mem,
      List.mem_filter]
    exact ⟨fun h => h.1, fun h => ⟨h, hp⟩⟩
  have hr : (db.only p).repositories.any (·.id == k.repoId) =
      db.repositories.any (·.id == k.repoId) := by
    rw [only_repositories, List.any_filter]
    congr 1
    funext r
    by_cases hid : r.id = k.repoId <;> simp [hid, hp]
  rw [hc, hr]
  split at h
  · cases h
    rw [if_pos ‹_›]
    exact ⟨rfl, rfl⟩
  · split at h
    · cases h
    · cases h
      rw [if_neg ‹_›, if_neg ‹_›]
      refine ⟨?_, ?_⟩
      · simp only [Db.only, List.filter_append, List.filter_singleton, hp, cond_true]
      · simp only [outside, List.filter_append, List.filter_singleton, hp, Bool.not_true,
          cond_false, List.append_nil]

/-- Forgetting the key of a secret of a repository `p` keeps. -/
theorem removeSecret {k : SecretKey} (hp : p k.repoId = true) : Within p (removeSecret k) db := by
  intro x db' h
  rw [removeSecret_apply] at h ⊢
  cases h
  refine ⟨?_, ?_⟩
  · simp only [Db.only, List.filter_filter, Bool.and_comm]
  · simp only [outside, List.filter_filter]
    congr 2
    refine List.filter_congr fun k' _ => ?_
    by_cases hk : k' = k
    · subst hk
      simp [hp]
    · simp [hk]

end Within

end Db

/-- The cluster cut down to a view: the secret values of the repositories it keeps and the
objects of the namespaces it keeps. -/
def Services.Cluster.only (c : Cluster) (v : View) : Cluster :=
  { c with
    secrets := c.secrets.filter (v.repo ·.repo)
    objects := c.objects.filter (v.ns ·.ns) }

namespace Services.Cluster

variable {c : Cluster} {v : View} {ns repo key : String}

theorem only_secretValues (hp : v.repo repo = true) :
    (c.only v).secretValues ns repo = c.secretValues ns repo := by
  unfold secretValues
  rw [show (c.only v).secrets = c.secrets.filter (v.repo ·.repo) from rfl, find?_filter_of_imp]
  intro s hs
  simp only [Bool.and_eq_true, beq_iff_eq] at hs
  rw [hs.2]
  exact hp

theorem only_getSecret (hp : v.repo repo = true) :
    (c.only v).getSecret ns repo key = c.getSecret ns repo key := by
  unfold getSecret
  rw [only_secretValues hp]

/-- Rewriting the secret set of one repository the view keeps. -/
theorem only_secrets_map {g : SecretSet → SecretSet} (hg : ∀ s, (g s).repo = s.repo)
    (hkeep : ∀ s, (s.ns == ns && s.repo == repo) = false → g s = s) (hp : v.repo repo = true) :
    ({ c with secrets := c.secrets.map g } : Cluster).only v =
        { c.only v with secrets := (c.only v).secrets.map g } ∧
      (c.secrets.map g).filter (!v.repo ·.repo) = c.secrets.filter (!v.repo ·.repo) := by
  refine ⟨?_, ?_⟩
  · simp only [only]
    rw [filter_map_of_keep]
    intro s
    rw [hg]
  · refine filter_map_of_disjoint (fun s hs => hkeep s ?_) (fun s => by simp only [hg]) _
    simp only [Bool.not_eq_true'] at hs
    cases hr : s.repo == repo
    · simp
    · rw [beq_iff_eq.1 hr, hp] at hs
      cases hs

theorem only_storeSecret (value : String) (hp : v.repo repo = true) :
    (c.storeSecret ns repo key value).only v = (c.only v).storeSecret ns repo key value ∧
      (c.storeSecret ns repo key value).secrets.filter (!v.repo ·.repo) =
        c.secrets.filter (!v.repo ·.repo) ∧
      (c.storeSecret ns repo key value).objects = c.objects := by
  have hany : (c.only v).secrets.any (fun s => s.ns == ns && s.repo == repo) =
      c.secrets.any (fun s => s.ns == ns && s.repo == repo) := by
    rw [show (c.only v).secrets = c.secrets.filter (v.repo ·.repo) from rfl, List.any_filter]
    congr 1
    funext s
    by_cases hr : s.repo = repo <;> simp [hr, hp]
  unfold storeSecret
  rw [hany]
  split
  · obtain ⟨h₁, h₂⟩ := only_secrets_map (c := c) (g := fun s =>
      if s.ns == ns && s.repo == repo then { s with values := putSorted key value s.values } else s)
      (fun s => by split <;> rfl) (fun s hs => if_neg (by rw [hs]; decide)) hp
    exact ⟨h₁, h₂, rfl⟩
  · refine ⟨?_, ?_, rfl⟩
    · simp only [only, List.filter_append, List.filter_singleton, hp, cond_true]
    · simp only [List.filter_append, List.filter_singleton, hp, Bool.not_true, cond_false,
        List.append_nil]

theorem only_removeSecret (hp : v.repo repo = true) :
    (c.only v).removeSecret ns repo key = (c.removeSecret ns repo key).map (·.only v) ∧
      ∀ c', c.removeSecret ns repo key = .ok c' →
        c'.secrets.filter (!v.repo ·.repo) = c.secrets.filter (!v.repo ·.repo) ∧
          c'.objects = c.objects := by
  unfold removeSecret
  rw [only_secretValues hp]
  split
  · obtain ⟨h₁, h₂⟩ := only_secrets_map (c := c) (g := fun s =>
      if s.ns == ns && s.repo == repo then { s with values := s.values.filter (·.1 != key) } else s)
      (fun s => by split <;> rfl) (fun s hs => if_neg (by rw [hs]; decide)) hp
    refine ⟨by rw [Except.map]; exact congrArg Except.ok h₁.symm, fun c' hc' => ?_⟩
    cases hc'
    exact ⟨h₂, rfl⟩
  · exact ⟨rfl, fun c' hc' => by cases hc'⟩

theorem only_workloadStats (hns : v.ns ns = true) :
    (c.only v).workloadStats ns = c.workloadStats ns := by
  unfold workloadStats
  have hany : (c.only v).objects.any (fun p => p.kind == "Deployment" && p.ns == ns) =
      c.objects.any (fun p => p.kind == "Deployment" && p.ns == ns) := by
    rw [show (c.only v).objects = c.objects.filter (v.ns ·.ns) from rfl, List.any_filter]
    congr 1
    funext p
    by_cases hp : p.ns = ns <;> simp [hp, hns]
  rw [hany]

end Services.Cluster

namespace Platform

/-- The application cut down to a view, in its store and in its cluster. -/
def App.only (a : App) (v : View) : App :=
  { a with db := a.db.only v.repo, cluster := a.cluster.only v }

/-- What belongs to the repositories and namespaces a view leaves out: their rows, deployments
and secret keys, their secret values and the objects of their namespaces. -/
def App.outside (a : App) (v : View) :
    (List RepositoryRow × List Deployment × List SecretKey) × List SecretSet × List Placed :=
  (a.db.outside v.repo, a.cluster.secrets.filter (!v.repo ·.repo),
    a.cluster.objects.filter (!v.ns ·.ns))

/-- The view of user `u`: the repositories `u` sees, and the namespaces they resolve to for `u`. -/
def App.view (a : App) (u : User) : View where
  repo id := (a.db.listed fun i _ => u.sees i).any (·.id == id)
  ns n := (a.db.listed fun i _ => u.sees i).any fun r =>
    match resolveScope r (some u.currentWorkspace) a.db with
    | .ok (s, _) => s.clusterNamespace == n
    | .error _ => false

section View

variable {a : App} {u : User}

/-- A user's view keeps every repository the user sees. -/
theorem App.view_covers (a : App) (u : User) : a.db.Covers u (a.view u).repo := by
  intro r hr i hi hsees
  refine List.any_eq_true.2 ⟨{ toRepositoryRow := r, workspaceId := i.workspaceId }, ?_, ?_⟩
  · exact Db.mem_listed.2 ⟨r, hr, i, hi, hsees, rfl⟩
  · exact beq_self_eq_true _

/-- The namespace a repository the user sees resolves to is in the user's view. -/
theorem App.view_ns {r : Repository} {id : String} {s : Scope} {db : Db}
    (hr : r ∈ a.db.listed fun i r => r.id == id && u.sees i)
    (hs : resolveScope r (some u.currentWorkspace) a.db = .ok (s, db)) :
    (a.view u).ns s.clusterNamespace = true := by
  obtain ⟨r₀, hr₀, i, hi, hq, rfl⟩ := Db.mem_listed.1 hr
  simp only [Bool.and_eq_true] at hq
  refine List.any_eq_true.2 ⟨_, Db.mem_listed.2 ⟨r₀, hr₀, i, hi, hq.2, rfl⟩, ?_⟩
  rw [hs]
  exact beq_self_eq_true _

end View

section Only

variable (a : App) (v : View)

@[simp] theorem App.only_db : (a.only v).db = a.db.only v.repo := rfl
@[simp] theorem App.only_cluster : (a.only v).cluster = a.cluster.only v := rfl
@[simp] theorem App.only_settings : (a.only v).settings = a.settings := rfl
@[simp] theorem App.only_host : (a.only v).host = a.host := rfl
@[simp] theorem App.only_bus : (a.only v).bus = a.bus := rfl
@[simp] theorem App.only_now : (a.only v).now = a.now := rfl

end Only

/-- Whenever `x` succeeds from `a`, `y` succeeds from `a.only v` with the same answer, ending in
the cut-down end state of `x`, and `x` left what is outside `v` as it was. -/
def Confined {ε α : Type} (v : View) (a : App) (x y : AppM ε α) : Prop :=
  ∀ r a', x.run.run a = (.ok r, a') →
    y.run.run (a.only v) = (.ok r, a'.only v) ∧ a'.outside v = a.outside v

/-- The outcome of a request, one bind at a time. -/
theorem AppM.run_bind {ε α β : Type} (x : AppM ε α) (f : α → AppM ε β) (a : App) :
    (x >>= f).run.run a = match x.run.run a with
      | (.ok r, a') => (f r).run.run a'
      | (.error e, a') => (.error e, a') := by
  rw [ExceptT.run_bind, StateT.run_bind]
  rcases x.run.run a with ⟨_ | r, a'⟩ <;> rfl

/-- Reading the clock changes nothing. -/
theorem AppM.now_run {ε : Type} (a : App) : (now : AppM ε Instant).run.run a = (.ok a.now, a) :=
  rfl

theorem AppM.get_run {ε : Type} (a : App) : (get : AppM ε App).run.run a = (.ok a, a) := rfl

theorem AppM.modify_run {ε : Type} (f : App → App) (a : App) :
    (modify f : AppM ε Unit).run.run a = (.ok (), f a) := rfl

theorem AppM.pure_run {ε α : Type} (x : α) (a : App) : (pure x : AppM ε α).run.run a = (.ok x, a) :=
  rfl

theorem AppM.set_run {ε : Type} (b a : App) : (set b : AppM ε PUnit).run.run a = (.ok (), b) :=
  rfl

namespace Confined

variable {ε α β γ δ : Type} {v : View} {a : App}

protected theorem pure (r : α) : Confined v a (pure r : AppM ε α) (pure r) := by
  intro r' a' h
  cases h
  exact ⟨rfl, rfl⟩

protected theorem throw (e : ε) (y : AppM ε α) : Confined v a (throw e) y := by
  intro r a' h
  cases h

protected theorem bind {x y : AppM ε α} {f g : α → AppM ε β} (hx : Confined v a x y)
    (hf : ∀ r a', x.run.run a = (.ok r, a') → Confined v a' (f r) (g r)) :
    Confined v a (x >>= f) (y >>= g) := by
  intro s a'' h
  rw [AppM.run_bind] at h ⊢
  cases hxa : x.run.run a with
  | mk res a' =>
    rw [hxa] at h
    cases res with
    | error e => cases h
    | ok r =>
      obtain ⟨hy, hout⟩ := hx r a' hxa
      obtain ⟨hg, hout'⟩ := hf r a' hxa s a'' h
      rw [hy]
      exact ⟨hg, hout'.trans hout⟩

/-- Reading the application: the cut-down run reads the cut-down application. -/
theorem get_bind {f g : App → AppM ε α} (h : Confined v a (f a) (g (a.only v))) :
    Confined v a (get >>= f) (get >>= g) := by
  intro r a' hr
  rw [AppM.run_bind] at hr ⊢
  exact h r a' hr

protected theorem set {b b' : App} (hb : b' = b.only v) (ho : b.outside v = a.outside v) :
    Confined v a (set b : AppM ε PUnit) (set b') := by
  intro r a' h
  cases h
  exact ⟨by rw [hb]; rfl, ho⟩

protected theorem modify {f g : App → App} (hf : g (a.only v) = (f a).only v)
    (ho : (f a).outside v = a.outside v) : Confined v a (modify f : AppM ε Unit) (modify g) := by
  intro r a' h
  cases h
  exact ⟨by rw [← hf]; rfl, ho⟩

/-- A change of the application outside its store and cluster. -/
theorem modify_frame {f : App → App} (hf : ∀ b, (f b).db = b.db ∧ (f b).cluster = b.cluster)
    (hcomm : ∀ b, f (b.only v) = (f b).only v) :
    Confined v a (modify f : AppM ε Unit) (modify f) := by
  refine Confined.modify (hcomm a) ?_
  simp only [App.outside, (hf a).1, (hf a).2]

/-- A store operation that stays in view, run on the application. -/
protected theorem store {op : StoreM α} {err : StoreError → ε} (h : Db.Within v.repo op a.db) :
    Confined v a (store op err) (store op err) := by
  unfold Platform.store
  refine get_bind ?_
  intro r a' hr
  cases hop : op a.db with
  | error e => rw [hop] at hr; cases hr
  | ok p =>
    obtain ⟨x, db'⟩ := p
    rw [hop] at hr
    cases hr
    obtain ⟨hop', hout⟩ := h _ _ hop
    refine ⟨?_, ?_⟩
    · rw [App.only_db, hop']
      rfl
    · simp only [App.outside, hout]

/-- A loop whose every step stays in view, from every application. -/
protected theorem forIn {l : List γ} {b : δ} {f g : γ → δ → AppM ε (ForInStep δ)}
    (h : ∀ x ∈ l, ∀ b a', Confined v a' (f x b) (g x b)) :
    Confined v a (forIn l b f) (forIn l b g) := by
  induction l generalizing a b with
  | nil => exact Confined.pure b
  | cons x l ih =>
    rw [List.forIn_cons, List.forIn_cons]
    refine Confined.bind (h x List.mem_cons_self b a) fun step a' _ => ?_
    cases step with
    | done b' => exact Confined.pure b'
    | yield b' => exact ih (fun y hy => h y (List.mem_cons_of_mem x hy))

end Confined

end Platform

end Shipyard
