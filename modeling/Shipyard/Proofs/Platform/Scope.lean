import Shipyard.Proofs.Store.Step
import Shipyard.Platform.App
/-!
# The scope a repository resolves to

A repository's scope is the workspace it deploys into and the name its namespace is made from:
its installation's workspace, else the workspace the caller gives, else the installation's owner
with no workspace. Resolving it reads the workspaces and the installations and writes nothing.

Callers resolve a repository's scope in two ways: a signed-in user's requests give the user's
workspace, while pushes and the deletion of an installation give none. The two agree on every
repository the user sees, in every store the operations reach, because of three facts of those
stores (`Db.ScopesResolve`): every user's workspace exists, every workspace an installation names
exists, and an installation on a user's own account has a workspace. The first sign-in of a user
gives that user's waiting installations the new workspace, and writing an installation takes its
owner's workspace when it has none, so every kind of write keeps the three facts.
-/
namespace Shipyard

open Shipyard.Store

variable {α : Type}

/-- A row after an update is an updated row or a row the update spared. -/
theorem mem_update {p : α → Bool} {f : α → α} {l : List α} {x : α} (h : x ∈ Db.update p f l) :
    ∃ y ∈ l, (p y = true ∧ x = f y) ∨ (p y = false ∧ x = y) := by
  obtain ⟨y, hy, rfl⟩ := List.mem_map.1 h
  refine ⟨y, hy, ?_⟩
  cases hp : p y
  · exact .inr ⟨rfl, by simp⟩
  · exact .inl ⟨rfl, by simp⟩

namespace Db

/-- The repositories with their installations, as read. -/
theorem mem_listed {db : Db} {q : Installation → RepositoryRow → Bool} {x : Repository} :
    x ∈ db.listed q ↔ ∃ r ∈ db.repositories, ∃ i,
      db.installations.find? (·.vcsInstallationId == r.installationId) = some i ∧ q i r = true ∧
        x = { toRepositoryRow := r, workspaceId := i.workspaceId } := by
  unfold listed
  simp only [List.mem_mergeSort, List.mem_map, List.mem_filterMap, Prod.exists]
  constructor
  · rintro ⟨i, r, ⟨r', hr', hsome⟩, rfl⟩
    split at hsome
    · rename_i i' hi
      split at hsome
      · cases hsome
        exact ⟨r, hr', i, hi, ‹_›, rfl⟩
      · cases hsome
    · cases hsome
  · rintro ⟨r, hr, i, hi, hq, rfl⟩
    exact ⟨i, r, ⟨r, hr, by rw [hi]; simp [hq]⟩, rfl⟩

/-- What resolving a repository's scope needs of the store. -/
structure ScopesResolve (db : Db) : Prop where
  /-- Every user's workspace exists. -/
  user_workspace : ∀ u ∈ db.users, ∃ w ∈ db.workspaces, w.id = u.currentWorkspace
  /-- Every workspace an installation names exists. -/
  installation_workspace : ∀ i ∈ db.installations, ∀ id, i.workspaceId = some id →
    ∃ w ∈ db.workspaces, w.id = id
  /-- An installation on a user's own account has a workspace. -/
  owner_workspace : ∀ i ∈ db.installations, ∀ u ∈ db.users, i.owner = u.displayName →
    i.workspaceId.isSome = true

namespace ScopesResolve

variable {db db' : Db}

theorem empty : ScopesResolve {} :=
  ⟨fun _ h => absurd h List.not_mem_nil, fun _ h => absurd h List.not_mem_nil,
    fun _ h => absurd h List.not_mem_nil⟩

/-- Writes that leave the users and the workspaces, and add no installation, keep the facts. -/
theorem mono (h : db.ScopesResolve) (hu : db'.users = db.users)
    (hw : db'.workspaces = db.workspaces) (hi : ∀ i ∈ db'.installations, i ∈ db.installations) :
    db'.ScopesResolve where
  user_workspace u hu' := by
    rw [hw]
    exact h.user_workspace u (hu ▸ hu')
  installation_workspace i hi' id hid := by
    rw [hw]
    exact h.installation_workspace i (hi i hi') id hid
  owner_workspace i hi' u hu' := h.owner_workspace i (hi i hi') u (hu ▸ hu')

/-- A first sign-in keeps the facts: the new user's workspace is added with it, and the user's
installations without a workspace join it. -/
theorem addUser (h : db.ScopesResolve) (u : User) (wsId name uid : String) (n : Nat) :
    ({ db with
        workspaces := db.workspaces ++ [⟨wsId, name⟩]
        users := db.users ++ [{ u with id := uid, currentWorkspace := wsId }]
        installations := Db.update (fun i => i.owner == u.displayName && i.workspaceId.isNone)
          (fun i => { i with workspaceId := some wsId }) db.installations
        issued := n } : Db).ScopesResolve := by
  have hnew : ∃ w ∈ db.workspaces ++ [⟨wsId, name⟩], w.id = wsId :=
    ⟨_, List.mem_append_right _ (List.mem_singleton_self _), rfl⟩
  have hold : ∀ id, (∃ w ∈ db.workspaces, w.id = id) →
      ∃ w ∈ db.workspaces ++ [⟨wsId, name⟩], w.id = id := fun _ ⟨w, hw, hid⟩ =>
    ⟨w, List.mem_append_left _ hw, hid⟩
  refine ⟨fun v hv => ?_, fun i hi id hid => ?_, fun i hi v hv hown => ?_⟩
  · -- the users: those there before, and the new one in the new workspace
    rcases List.mem_append.1 hv with hv | hv
    · exact hold _ (h.user_workspace v hv)
    · rw [List.mem_singleton.1 hv]
      exact hnew
  · -- an installation names the new workspace, or the one it named before
    obtain ⟨j, hj, ⟨-, rfl⟩ | ⟨-, rfl⟩⟩ := mem_update hi
    · cases hid
      exact hnew
    · exact hold id (h.installation_workspace i hj id hid)
  · obtain ⟨j, hj, ⟨-, rfl⟩ | ⟨hp, rfl⟩⟩ := mem_update hi
    · rfl
    · rcases List.mem_append.1 hv with hv | hv
      · exact h.owner_workspace i hj v hv hown
      · -- the new user's installations without a workspace were the ones given one
        rw [List.mem_singleton.1 hv] at hown
        simpa [hown] using hp

/-- Writing an installation keeps the facts: it keeps its workspace, or takes its owner's. -/
theorem putInstallation (h : db.ScopesResolve) (vcsId : Int) (owner : String) :
    (db.putInstallation vcsId owner).ScopesResolve := by
  -- the workspace an installation of `owner` takes: the first user of that name's
  have hws : ∀ id, (db.users.find? (·.displayName == owner)).map (·.currentWorkspace) = some id →
      ∃ w ∈ db.workspaces, w.id = id := by
    intro id hid
    obtain ⟨v, hv, rfl⟩ := Option.map_eq_some_iff.1 hid
    exact h.user_workspace v (List.mem_of_find?_eq_some hv)
  have hsome : ∀ v ∈ db.users, owner = v.displayName →
      ((db.users.find? (·.displayName == owner)).map (·.currentWorkspace)).isSome = true := by
    intro v hv hown
    rw [Option.isSome_map, List.find?_isSome]
    exact ⟨v, hv, by simp [hown]⟩
  unfold Db.putInstallation
  dsimp only
  split
  · refine ⟨h.user_workspace, fun i hi id hid => ?_, fun i hi v hv hown => ?_⟩
    · obtain ⟨j, hj, ⟨-, rfl⟩ | ⟨-, rfl⟩⟩ := mem_update hi
      · cases hj' : j.workspaceId with
        | none => exact hws id (by simpa [hj'] using hid)
        | some w =>
          simp only [hj', Option.orElse_some, Option.some.injEq] at hid
          exact h.installation_workspace j hj id (hj'.trans (congrArg some hid))
      · exact h.installation_workspace i hj id hid
    · obtain ⟨j, hj, ⟨-, rfl⟩ | ⟨-, rfl⟩⟩ := mem_update hi
      · cases hj' : j.workspaceId with
        | none => simpa [hj'] using hsome v hv hown
        | some w => rfl
      · exact h.owner_workspace i hj v hv hown
  · refine ⟨h.user_workspace, fun i hi id hid => ?_, fun i hi v hv hown => ?_⟩
    · rcases List.mem_append.1 hi with hi | hi
      · exact h.installation_workspace i hi id hid
      · rw [List.mem_singleton.1 hi] at hid
        exact hws id hid
    · rcases List.mem_append.1 hi with hi | hi
      · exact h.owner_workspace i hi v hv hown
      · rw [List.mem_singleton.1 hi] at hown ⊢
        exact hsome v hv hown

/-- Recording repositories touches no user, workspace or installation. -/
theorem foldl_putRepository (h : db.ScopesResolve) (vcsId : Int)
    (repos : List Vcs.HostRepository) : (repos.foldl (Db.putRepository vcsId) db).ScopesResolve := by
  obtain ⟨rs, n, he⟩ := Db.foldl_putRepository vcsId repos db
  rw [he]
  exact h.mono rfl rfl fun _ hi => hi

/-- Every kind of write keeps the facts. -/
theorem of_effect (h : db.ScopesResolve) (he : Effect db db') : db'.ScopesResolve := by
  cases he with
  | keep => exact h
  | addUser u wsId name uid n => exact h.addUser u wsId name uid n
  | link vcsId owner repos =>
    exact ((h.putInstallation vcsId owner).foldl_putRepository vcsId repos).mono rfl rfl
      fun _ hi => hi
  | addRepositories vcsId owner repos =>
    exact (h.putInstallation vcsId owner).foldl_putRepository vcsId repos
  | dropRepositories => exact h.mono rfl rfl fun _ hi => hi
  | removeInstallation => exact h.mono rfl rfl fun _ hi => (List.mem_filter.1 hi).1
  | connect => exact h.mono rfl rfl fun _ hi => hi
  | saveDeployment => exact h.mono rfl rfl fun _ hi => hi
  | updateDeployment => exact h.mono rfl rfl fun _ hi => hi
  | supersede => exact h.mono rfl rfl fun _ hi => hi
  | markRolledBack => exact h.mono rfl rfl fun _ hi => hi
  | saveSecret => exact h.mono rfl rfl fun _ hi => hi
  | removeSecret => exact h.mono rfl rfl fun _ hi => hi
  | authStates => exact h.mono rfl rfl fun _ hi => hi
  | saveTokenPair => exact h.mono rfl rfl fun _ hi => hi
  | deleteTokenPair => exact h.mono rfl rfl fun _ hi => hi

end ScopesResolve

end Db

/-- Every store the operations reach has what resolving a scope needs. -/
theorem Store.Reachable.scopesResolve {db : Db} (h : Reachable db) : db.ScopesResolve :=
  Reachable.of_effect .empty (fun _ _ hdb he => hdb.of_effect he) h

namespace Platform

/-- Resolving the scope of a repository only reads the store. -/
theorem resolveScope_readOnly (repo : Repository) (hint : Option String) :
    ReadOnly (resolveScope repo hint) := by
  unfold resolveScope
  dsimp only
  split
  · exact (getWorkspace_readOnly _).bind fun _ => readOnly_pure _
  · exact (getInstallation_readOnly _).bind fun _ => readOnly_pure _

/-- A repository with a workspace resolves to it, or to its installation's owner when the
workspace is named empty, whatever the caller gives. -/
theorem resolveScope_of_workspaceId {r : Repository} {w : String} (h : r.workspaceId = some w)
    (hint : Option String) : resolveScope r hint = resolveScope r none := by
  unfold resolveScope
  simp only [h]

/-- Every scope an operation answers is a scope of the repository `id`. -/
def AnswersFor (id : String) (op : StoreM Scope) : Prop :=
  ∀ db s db', op db = .ok (s, db') → s.repoId = id

/-- Whichever workspace is chosen, the scope answered is built for the repository resolved. -/
theorem resolveScope_answersFor (r : Repository) (hint : Option String) :
    AnswersFor r.id (resolveScope r hint) := by
  unfold resolveScope
  dsimp only
  split
  · intro db s db' h
    rw [getWorkspace, bind_assoc, get_bind_apply, found_bind_apply] at h
    split at h
    · cases h
      rfl
    · cases h
  · intro db s db' h
    rw [getInstallation, bind_assoc, get_bind_apply, found_bind_apply] at h
    split at h
    · cases h
      rfl
    · cases h

theorem resolveScope_repoId {r : Repository} {hint : Option String} {db db' : Db} {s : Scope}
    (h : resolveScope r hint db = .ok (s, db')) : s.repoId = r.id :=
  resolveScope_answersFor r hint db s db' h

/-- On a store with what resolving needs, a repository whose installation has a workspace
resolves. -/
theorem resolveScope_ok {db : Db} {r₀ : RepositoryRow} {i : Installation} {w : String}
    (h : db.ScopesResolve)
    (hi : db.installations.find? (·.vcsInstallationId == r₀.installationId) = some i)
    (hw : i.workspaceId = some w) :
    ∃ s, resolveScope { toRepositoryRow := r₀, workspaceId := some w } none db = .ok (s, db) := by
  unfold resolveScope
  dsimp only
  by_cases he : w.isEmpty = true
  · -- a workspace named empty: the installation's owner
    rw [if_pos he]
    dsimp only
    rw [getInstallation, bind_assoc, get_bind_apply, found_bind_apply, hi]
    exact ⟨_, rfl⟩
  · -- a named workspace, which exists
    obtain ⟨ws, hws, rfl⟩ := h.installation_workspace i (List.mem_of_find?_eq_some hi) w hw
    rw [if_neg he]
    dsimp only
    rw [getWorkspace, bind_assoc, get_bind_apply, found_bind_apply]
    cases hf : db.workspaces.find? (·.id == ws.id) with
    | none => exact absurd (List.find?_eq_none.1 hf ws hws) (by simp)
    | some found => exact ⟨_, rfl⟩

/-- On a store with what resolving needs, a repository a user of the store sees resolves, and
to the same scope whether the user's workspace is given or not. -/
theorem resolveScope_agrees {db : Db} {u : User} {r : Repository} (h : db.ScopesResolve)
    (hu : u ∈ db.users) (hr : r ∈ db.listed fun i _ => u.sees i) :
    ∃ s, resolveScope r (some u.currentWorkspace) db = .ok (s, db) ∧
      resolveScope r none db = .ok (s, db) := by
  obtain ⟨r₀, -, i, hi, hsees, rfl⟩ := Db.mem_listed.1 hr
  cases hw : i.workspaceId with
  | none =>
    -- an installation without a workspace is seen by its owner only, and it has one
    have hown : i.owner = u.displayName := by simpa [User.sees, hw] using hsees
    have hsome := h.owner_workspace i (List.mem_of_find?_eq_some hi) u hu hown
    rw [hw] at hsome
    cases hsome
  | some w =>
    obtain ⟨s, hs⟩ := resolveScope_ok h hi hw
    exact ⟨s, by rw [resolveScope_of_workspaceId rfl, hs], hs⟩

end Platform

end Shipyard
