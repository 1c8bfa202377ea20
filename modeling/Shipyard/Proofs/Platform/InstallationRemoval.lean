import Shipyard.Proofs.Store.References
import Shipyard.Proofs.Platform.Tenancy
import Shipyard.Proofs.Pipeline.SpaceKey
import Shipyard.Platform.Dispatch
/-!
# Deleting an installation

When the host reports an installation deleted, the platform goes through the repositories the
report lists. For each one the store holds under the listed host number, under whichever
installation, it cancels the repository's runs in flight and removes the namespace of its scope
(`App.tearDown`); then it deletes the installation with its repositories and theirs.

`deleteInstallation_ok` says what a deletion that succeeds leaves: the repositories torn down are
those of the report that the store holds (`Db.reported`), each with the scope it resolves to,
and the store is as deleting the installation leaves it. The main statement,
`installation_deletion_tears_down_reported`, reads this off for a webhook: the store forgets
exactly the installation and what belongs to it, while the namespaces removed and the runs
cancelled are those of the repositories the report lists. A repository of the installation that
the report leaves out keeps its namespace and its runs, and a listed repository of another
installation loses them.
-/
namespace Shipyard

open Shipyard.Store
open Shipyard.Vcs

/-- The repository the store holds under a host number, under whichever installation. -/
def Db.repoOfHost (db : Db) (vcsId : Int) : Option Repository :=
  (db.listed fun _ r => r.vcsId == vcsId).head?

/-- The repositories the store holds under the host numbers of a report, in the report's order. -/
def Db.reported (db : Db) (repos : List HostRepository) : List Repository :=
  repos.filterMap fun r => db.repoOfHost r.id

/-- Deleting repositories that `gone` picks in none of the stored ones changes nothing. -/
theorem Db.Prunes.self {db : Db} {gone : RepositoryRow → Bool}
    (h : ∀ r ∈ db.repositories, gone r = false) : db.Prunes db gone := by
  have hnone : ∀ x : String, (db.repositories.any fun r => gone r && r.id == x) = false :=
    fun x => List.any_eq_false.2 fun r hr => by simp [h r hr]
  exact ⟨(List.filter_eq_self.2 fun r hr => by simp [h r hr]).symm, by simp [hnone],
    by simp [hnone], rfl, rfl, rfl, rfl⟩

namespace Services.Cluster

/-- Removing namespaces one after the other records them in order and drops the objects in them
or named after them; nothing else changes. -/
theorem foldl_removeNamespace (c : Cluster) (nss : List String) :
    nss.foldl removeNamespace c =
      { c with
        objects := c.objects.filter fun o => nss.all fun ns => o.ns != ns && o.name != ns
        removedNamespaces := c.removedNamespaces ++ nss } := by
  induction nss generalizing c with
  | nil => simp
  | cons ns nss ih =>
    rw [List.foldl_cons, ih]
    simp [removeNamespace, List.filter_filter, Bool.and_comm]

end Services.Cluster

namespace Platform

/-- Cancelling runs one after the other stops those of their deployments and touches nothing but
the runs in flight, the parked runs and the working trees. -/
theorem App.foldl_cancel (runs : List (String × String)) (a : App) :
    ∃ parked host, runs.foldl (fun a r => a.cancel r.1) a =
      { a with running := a.running.filter fun e => !(runs.map (·.1)).contains e.1,
               parked, host } := by
  induction runs generalizing a with
  | nil => exact ⟨a.parked, a.host, by simp⟩
  | cons r runs ih =>
    obtain ⟨parked, host, he⟩ := ih (a.cancel r.1)
    refine ⟨parked, host, ?_⟩
    rw [List.foldl_cons, he]
    simp [App.cancel, List.filter_filter, Bool.and_comm, bne]

/-- The runs a repository's cancellation leaves in flight: those whose deployment has no run of
the repository. -/
theorem App.mem_cancelRepo_running (a : App) (repoId : String) (e : String × String) :
    e ∈ (a.cancelRepo repoId).running ↔
      e ∈ a.running ∧ ∀ e' ∈ a.running, e'.1 = e.1 → e'.2 ≠ repoId := by
  obtain ⟨parked, host, he⟩ := App.foldl_cancel (a.running.filter (·.2 == repoId)) a
  unfold App.cancelRepo
  rw [he]
  -- a run goes with the deployment of a run of the repository, which may be itself
  simp only [List.mem_filter, List.contains_eq_mem, List.mem_map, beq_iff_eq,
    Bool.not_eq_eq_eq_not, Bool.not_true, decide_eq_false_iff_not, Prod.exists, Prod.forall,
    and_congr_right_iff]
  intro _
  constructor
  · rintro hnot d r hrun rfl rfl
    exact hnot ⟨_, _, ⟨hrun, rfl⟩, rfl⟩
  · rintro hall ⟨d, r, ⟨hrun, rfl⟩, hd⟩
    exact hall d r hrun hd rfl

/-- Tearing a repository down: its runs in flight cancelled and the namespace of its scope
removed. -/
def App.tearDown (a : App) (repo : Repository) (s : Scope) : App :=
  let a := a.cancelRepo repo.id
  { a with cluster := a.cluster.removeNamespace s.clusterNamespace }

/-- Tearing a repository down stops its runs and removes its namespace, and touches nothing but
the runs in flight, the parked runs, the working trees and the cluster. -/
theorem App.tearDown_eq (a : App) (repo : Repository) (s : Scope) :
    ∃ parked host, a.tearDown repo s =
      { a with running := (a.cancelRepo repo.id).running, parked, host,
               cluster := a.cluster.removeNamespace s.clusterNamespace } := by
  obtain ⟨parked, host, he⟩ := App.foldl_cancel (a.running.filter (·.2 == repo.id)) a
  refine ⟨parked, host, ?_⟩
  unfold App.tearDown App.cancelRepo
  rw [he]

theorem App.cancelRepo_db (a : App) (repoId : String) : (a.cancelRepo repoId).db = a.db := by
  obtain ⟨parked, host, he⟩ := App.foldl_cancel (a.running.filter (·.2 == repoId)) a
  unfold App.cancelRepo
  rw [he]

theorem App.with_db_cancelRepo (a : App) (repoId : String) :
    { a.cancelRepo repoId with db := a.db } = a.cancelRepo repoId := by
  rw [← App.cancelRepo_db a repoId]

theorem App.tearDown_db (a : App) (repo : Repository) (s : Scope) : (a.tearDown repo s).db = a.db := by
  obtain ⟨parked, host, he⟩ := App.tearDown_eq a repo s
  rw [he]

theorem App.foldl_tearDown_db (torn : List (Repository × Scope)) (a : App) :
    (torn.foldl (fun b x => b.tearDown x.1 x.2) a).db = a.db := by
  induction torn generalizing a with
  | nil => rfl
  | cons x torn ih => rw [List.foldl_cons, ih, App.tearDown_db]

/-- Tearing repositories down one after the other removes the namespaces of their scopes in
order, and touches nothing but the runs in flight, the parked runs, the working trees and the
cluster. -/
theorem App.foldl_tearDown_eq (torn : List (Repository × Scope)) (a : App) :
    ∃ running parked host, torn.foldl (fun b x => b.tearDown x.1 x.2) a =
      { a with running, parked, host,
               cluster := (torn.map (·.2.clusterNamespace)).foldl
                 Services.Cluster.removeNamespace a.cluster } := by
  induction torn generalizing a with
  | nil => exact ⟨a.running, a.parked, a.host, rfl⟩
  | cons x torn ih =>
    obtain ⟨running, parked, host, he⟩ := ih (a.tearDown x.1 x.2)
    obtain ⟨parked₁, host₁, hx⟩ := App.tearDown_eq a x.1 x.2
    refine ⟨running, parked, host, ?_⟩
    rw [List.foldl_cons, he, hx]
    rfl

/-- The runs left in flight once repositories are torn down one after the other: those whose
deployment has no run of any of them. -/
theorem App.mem_foldl_tearDown_running (torn : List (Repository × Scope)) (a : App)
    (e : String × String) :
    e ∈ (torn.foldl (fun b x => b.tearDown x.1 x.2) a).running ↔
      e ∈ a.running ∧ ∀ e' ∈ a.running, e'.1 = e.1 → ∀ x ∈ torn, e'.2 ≠ x.1.id := by
  induction torn generalizing a e with
  | nil => simp
  | cons x torn ih =>
    obtain ⟨parked, host, hx⟩ := App.tearDown_eq a x.1 x.2
    have hrun : (a.tearDown x.1 x.2).running = (a.cancelRepo x.1.id).running := by rw [hx]
    rw [List.foldl_cons, ih, hrun, App.mem_cancelRepo_running]
    -- a run of the same deployment as a run kept is itself kept by the first cancellation
    have hsame : ∀ e', e' ∈ a.running → e'.1 = e.1 →
        (∀ e'' ∈ a.running, e''.1 = e.1 → e''.2 ≠ x.1.id) →
        e' ∈ (a.cancelRepo x.1.id).running := fun e' he' h1 hfirst =>
      (App.mem_cancelRepo_running a x.1.id e').2 ⟨he', fun e'' he'' h2 => hfirst e'' he'' (h2.trans h1)⟩
    constructor
    · rintro ⟨⟨he, hfirst⟩, hrest⟩
      refine ⟨he, fun e' he' h1 y hy => ?_⟩
      rcases List.mem_cons.1 hy with rfl | hy
      · exact hfirst e' he' h1
      · exact hrest e' (hsame e' he' h1 hfirst) h1 y hy
    · rintro ⟨he, hall⟩
      refine ⟨⟨he, fun e' he' h1 => hall e' he' h1 x List.mem_cons_self⟩, fun e' he' h1 y hy => ?_⟩
      exact hall e' ((App.mem_cancelRepo_running a x.1.id e').1 he').1 h1 y (List.mem_cons_of_mem _ hy)

/-- A read through `attempt` answers the read's outcome; a read that succeeds installs the store
it leaves, a failed one changes nothing. -/
theorem attempt_run {ε α : Type} (op : StoreM α) (a : App) :
    (attempt op : AppM ε (Except StoreError α)).run.run a = match op a.db with
      | .ok (x, db) => (.ok (.ok x), { a with db })
      | .error e => (.ok (.error e), a) := by
  unfold attempt
  rw [AppM.run_bind, AppM.get_run]
  dsimp only
  cases op a.db <;> rfl

theorem getRepoByVcsId_eq (vcsId : Int) (db : Db) :
    getRepoByVcsId vcsId db = match db.repoOfHost vcsId with
      | some r => .ok (r, db)
      | none => .error .repoNotFound :=
  getRepoByVcsId_apply vcsId db

/-- Deleting an installation as a transaction: the installation, its repositories and theirs go
when the store holds it, and nothing changes when it does not. -/
theorem Op.apply_removeInstallation (vcsId : Int) (db : Db) :
    (Op.removeInstallation vcsId).apply db =
      if db.installations.any (·.vcsInstallationId == vcsId) then
        { db.dropRepositories (·.installationId == vcsId) with
          installations := db.installations.filter (·.vcsInstallationId != vcsId) }
      else db := by
  split
  · rename_i hany
    exact Op.apply_of_ok (Op.discard_eq_ok.2 ⟨_, by rw [removeInstallation_apply, if_pos hany]⟩)
  · rename_i hany
    exact Op.apply_of_error (Op.discard_eq_error.2 (by rw [removeInstallation_apply, if_neg hany]))

/-- A loop whose every round skips a report entry the store does not hold, or tears down the
repository it holds under it, tears down exactly the reported repositories, in order. -/
theorem forIn_tearDown {f : HostRepository → PUnit → AppM RpcError (ForInStep PUnit)}
    (hf : ∀ r (b b' : App) (st : ForInStep PUnit), (f r PUnit.unit).run.run b = (.ok st, b') →
      st = .yield PUnit.unit ∧
      (b.db.repoOfHost r.id = none ∧ b' = b ∨
        ∃ repo s, b.db.repoOfHost r.id = some repo ∧ resolveScope repo none b.db = .ok (s, b.db) ∧
          b' = b.tearDown repo s))
    (L : List HostRepository) (a a' : App)
    (h : (forIn L PUnit.unit f).run.run a = (.ok PUnit.unit, a')) :
    ∃ torn : List (Repository × Scope), torn.map (·.1) = a.db.reported L ∧
      (∀ x ∈ torn, resolveScope x.1 none a.db = .ok (x.2, a.db)) ∧
      a' = torn.foldl (fun b x => b.tearDown x.1 x.2) a := by
  induction L generalizing a with
  | nil =>
    cases h
    exact ⟨[], rfl, fun _ hx => absurd hx List.not_mem_nil, rfl⟩
  | cons r L ih =>
    rw [List.forIn_cons, AppM.run_bind] at h
    rcases hstep : (f r PUnit.unit).run.run a with ⟨_ | st, b⟩
    · rw [hstep] at h
      cases h
    · rw [hstep] at h
      obtain ⟨rfl, hcase⟩ := hf r a b st hstep
      rcases hcase with ⟨hnone, hb⟩ | ⟨repo, s, hsome, hres, hb⟩
      · -- a host number the store does not hold is skipped
        rw [hb] at h
        dsimp only at h
        obtain ⟨torn, hmap, hres, rfl⟩ := ih a h
        exact ⟨torn, by simp [Db.reported, hnone, hmap], hres, rfl⟩
      · -- the repository held under it is torn down first
        rw [hb] at h
        dsimp only at h
        have hdb := App.tearDown_db a repo s
        obtain ⟨torn, hmap, hres', rfl⟩ := ih (a.tearDown repo s) h
        rw [hdb] at hmap hres'
        refine ⟨(repo, s) :: torn, by simp [Db.reported, hsome, hmap], ?_, rfl⟩
        intro x hx
        rcases List.mem_cons.1 hx with rfl | hx
        · exact hres
        · exact hres' x hx

/-- What a deletion of an installation that succeeds leaves: the repositories of the report that
the store holds, in the report's order, each torn down with the scope it resolves to; then the
store as deleting the installation leaves it. -/
theorem deleteInstallation_ok {i : Int} {L : List HostRepository} {a a' : App}
    (h : (deleteInstallation i L).run.run a = (.ok (), a')) :
    ∃ torn : List (Repository × Scope), torn.map (·.1) = a.db.reported L ∧
      (∀ x ∈ torn, resolveScope x.1 none a.db = .ok (x.2, a.db)) ∧
      a' = { torn.foldl (fun b x => b.tearDown x.1 x.2) a with
             db := (Op.removeInstallation i).apply a.db } := by
  unfold deleteInstallation at h
  rw [AppM.run_bind] at h
  split at h
  · rename_i u b hloop
    cases u
    have hloop' := forIn_tearDown ?round L a b hloop
    case round =>
      -- one round: the repository under the listed number, if any, is torn down
      intro r c c' st hrun
      rw [AppM.run_bind] at hrun
      cases hfound : c.db.repoOfHost r.id with
      | none =>
        have hread : (attempt (getRepoByVcsId r.id) : AppM RpcError _).run.run c =
            (.ok (.error .repoNotFound), c) := by
          rw [attempt_run, getRepoByVcsId_eq, hfound]
        rw [hread] at hrun
        cases hrun
        exact ⟨rfl, .inl ⟨rfl, rfl⟩⟩
      | some repo =>
        have hread : (attempt (getRepoByVcsId r.id) : AppM RpcError _).run.run c =
            (.ok (.ok repo), c) := by
          rw [attempt_run, getRepoByVcsId_eq, hfound]
        rw [hread] at hrun
        dsimp only at hrun
        rw [AppM.run_bind, AppM.modify_run] at hrun
        dsimp only at hrun
        rw [AppM.run_bind, stored, store_run, App.cancelRepo_db] at hrun
        cases hres : resolveScope repo none c.db with
        | error e =>
          rw [hres] at hrun
          cases hrun
        | ok p =>
          obtain ⟨sc, db⟩ := p
          obtain rfl := resolveScope_readOnly repo none c.db sc db hres
          rw [hres] at hrun
          dsimp only at hrun
          rw [App.with_db_cancelRepo, AppM.run_bind, AppM.modify_run] at hrun
          cases hrun
          exact ⟨rfl, .inr ⟨repo, sc, rfl, hres, rfl⟩⟩
    obtain ⟨torn, hmap, hres, rfl⟩ := hloop'
    refine ⟨torn, hmap, hres, ?_⟩
    -- then the installation is deleted, when the store holds it
    have hdb := App.foldl_tearDown_db torn a
    rw [AppM.run_bind, attempt_run, removeInstallation_apply, hdb] at h
    rw [Op.apply_removeInstallation]
    by_cases hany : a.db.installations.any (·.vcsInstallationId == i) = true
    · rw [if_pos hany] at h ⊢
      dsimp only at h
      cases h
      rfl
    · rw [if_neg hany] at h ⊢
      dsimp only at h
      cases h
      rw [← hdb]
  · cases h

/-- A webhook that deletes an installation answers no deployment and does exactly the
deletion. -/
theorem dispatch_deleteInstallation {p : Webhook.Payload} {i : Int} {L : List HostRepository}
    {a a' : App} {ids : List String} (hp : Webhook.plan p = .deleteInstallation i L)
    (h : (dispatch p).run.run a = (.ok ids, a')) :
    ids = [] ∧ (deleteInstallation i L).run.run a = (.ok (), a') := by
  unfold dispatch at h
  rw [hp] at h
  dsimp only at h
  rw [AppM.run_bind] at h
  rcases hdel : (deleteInstallation i L).run.run a with ⟨_ | u, b⟩
  · rw [hdel] at h
    cases h
  · rw [hdel] at h
    dsimp only at h
    rw [AppM.pure_run] at h
    cases h
    exact ⟨rfl, rfl⟩

/-- On a reachable store, deleting an installation forgets its row and its repositories with
theirs, whether the store holds it or not. -/
theorem Db.prunes_removeInstallation {db : Db} (hdb : Reachable db) (i : Int) :
    db.Prunes ((Op.removeInstallation i).apply db) (·.installationId == i) ∧
      ((Op.removeInstallation i).apply db).installations =
        db.installations.filter (·.vcsInstallationId != i) := by
  rw [Op.apply_removeInstallation]
  split
  · exact ⟨(Db.prunes_dropRepositories db _).withInstallations _, rfl⟩
  · rename_i hany
    have hother : ∀ x ∈ db.installations, x.vcsInstallationId ≠ i := fun x hx hx' =>
      hany (List.any_eq_true.2 ⟨x, hx, by simp [hx']⟩)
    -- an installation the store does not hold has no repository, by the references
    have hnone : ∀ r ∈ db.repositories, (r.installationId == i) = false := by
      intro r hr
      obtain ⟨x, hx, hid⟩ := List.mem_map.1
        (hdb.references.installation
          (List.mem_map_of_mem hr : r.installationId ∈ db.repositories.map (·.installationId)))
      simpa [← hid] using hother x hx
    exact ⟨Db.Prunes.self hnone,
      (List.filter_eq_self.2 fun x hx => by simpa using hother x hx).symm⟩

/-- What a webhook deleting an installation does to a reachable application, when it succeeds.
The store forgets exactly the installation, its repositories and their deployments and secret
keys. The repositories torn down are those of the report that the store holds under the listed
host numbers, whichever installation they belong to: the namespaces of their scopes are removed
in the report's order, with the objects in them, and the runs in flight left are those whose
deployment has no run of such a repository. Nothing else of the application changes. -/
theorem installation_deletion_tears_down_reported {p : Webhook.Payload} {i : Int}
    {L : List HostRepository} {a a' : App} {ids : List String} (hdb : Reachable a.db)
    (hp : Webhook.plan p = .deleteInstallation i L) (h : (dispatch p).run.run a = (.ok ids, a')) :
    ids = [] ∧ Reachable a'.db ∧
      a.db.Prunes a'.db (·.installationId == i) ∧
      a'.db.installations = a.db.installations.filter (·.vcsInstallationId != i) ∧
      (∃ torn : List (Repository × Scope), torn.map (·.1) = a.db.reported L ∧
        (∀ x ∈ torn, resolveScope x.1 none a.db = .ok (x.2, a.db)) ∧
        a'.cluster = { a.cluster with
          objects := a.cluster.objects.filter fun o =>
            (torn.map (·.2.clusterNamespace)).all fun ns => o.ns != ns && o.name != ns
          removedNamespaces := a.cluster.removedNamespaces ++ torn.map (·.2.clusterNamespace) }) ∧
      (∀ e, e ∈ a'.running ↔
        e ∈ a.running ∧ ∀ e' ∈ a.running, e'.1 = e.1 → ∀ r ∈ a.db.reported L, e'.2 ≠ r.id) ∧
      a'.bus = a.bus ∧ a'.queued = a.queued ∧ a'.registry = a.registry ∧
      a'.settings = a.settings := by
  obtain ⟨rfl, hdel⟩ := dispatch_deleteInstallation hp h
  obtain ⟨torn, hmap, hres, rfl⟩ := deleteInstallation_ok hdel
  obtain ⟨running, parked, host, hfold⟩ := App.foldl_tearDown_eq torn a
  have hrun := App.mem_foldl_tearDown_running torn a
  rw [hfold] at hrun ⊢
  dsimp only at hrun ⊢
  obtain ⟨hprune, hinst⟩ := Db.prunes_removeInstallation hdb i
  refine ⟨rfl, .step _ hdb, hprune, hinst,
    ⟨torn, hmap, hres, Services.Cluster.foldl_removeNamespace _ _⟩, fun e => ?_, rfl, rfl, rfl, rfl⟩
  rw [hrun e, ← hmap]
  simp only [List.forall_mem_map]

/-- An application on `adaStore`, with nothing in flight. -/
def adaApp : App :=
  { settings := {}, issuer := ⟨"", 1, Nat.one_pos, [], []⟩, now := ⟨0⟩, db := adaStore }

/-- The host reports the installation of `adaStore` deleted, listing none of its repositories. -/
def adaDeletion : Webhook.Payload := { action := "deleted", installationId := 42 }

/-- A report that leaves out the installation's repository: the store forgets the repository,
yet no namespace is removed. -/
theorem ada_unlisted_repository_keeps_namespace :
    ∃ a', (dispatch adaDeletion).run.run adaApp = (.ok [], a') ∧
      a'.db.repositories = [] ∧ a'.cluster.removedNamespaces = [] := by
  have hr : Reachable adaApp.db := show Reachable adaStore from .step _ (.step _ .empty)
  have hp : Webhook.plan adaDeletion = .deleteInstallation 42 [] := rfl
  have hrun : (dispatch adaDeletion).run.run adaApp =
      (.ok [], ((dispatch adaDeletion).run.run adaApp).2) := rfl
  obtain ⟨-, -, hprune, -, ⟨torn, hmap, -, hcluster⟩, -⟩ :=
    installation_deletion_tears_down_reported hr hp hrun
  have htorn : torn = [] := List.map_eq_nil_iff.1 hmap
  refine ⟨_, hrun, ?_, ?_⟩
  · rw [hprune.repositories]
    rfl
  · rw [hcluster, htorn]
    rfl

end Platform

end Shipyard
