import Shipyard.Proofs.Pipeline.Triple
import Shipyard.Proofs.Platform.Scope
/-!
# The space a run deploys

A run's manifests are placed in the namespace named from the scope's workspace and the key of the
space on the run's row (`ManifestInput.targetNamespace`); the scope's own namespace is named from
the workspace and the repository. Checking out sources keys the row's space by the repository; a
redeploy or a rollback copies the space of the earlier deployment and checks out only when the
registry lacks its image. So from the image on, the row's space is keyed by the repository, or
the run checked out nothing and keeps the space copied (`Keyed`). A step that touches neither
the row's space nor the tree keeps any such property (`SpaceOnly`).
-/
namespace Shipyard.Platform

open Shipyard.Store
open RunM

/-- The deployment a source copies: the one deployed again, or the one rolled back to. -/
def Source.copied : Source → Option Deployment
  | .checkout _ => none
  | .redeploy p | .rollback p => some p

theorem Source.copied_of_ne_checkout {src : Source} (h : ∀ c, src ≠ .checkout c) :
    ∃ p, src.copied = some p := by
  cases src with
  | checkout c => exact absurd rfl (h c)
  | redeploy p => exact ⟨p, rfl⟩
  | rollback p => exact ⟨p, rfl⟩

theorem DeployRequest.row_space_of_copied {req : DeployRequest} {p : Deployment}
    (h : req.source.copied = some p) : req.row.space = p.space := by
  unfold DeployRequest.row
  cases hs : req.source with
  | checkout c => rw [hs] at h; cases h
  | redeploy q => rw [hs] at h; cases h; rfl
  | rollback q => rw [hs] at h; cases h; rfl

/-- A property of a run state that only its row's space and its checked-out tree decide. -/
def SpaceOnly (P : RunState → Prop) : Prop :=
  ∀ s s', s'.current.space = s.current.space → s'.tree = s.tree → P s → P s'

/-- The space on the row of a run of `req`: keyed by the repository, or, while no sources are
checked out, the space of the deployment the request copies. -/
def Keyed (req : DeployRequest) (s : RunState) : Prop :=
  s.current.space.key = req.repo.id ∨
    s.tree = none ∧ ∃ p, req.source.copied = some p ∧ s.current.space = p.space

theorem Keyed.spaceOnly (req : DeployRequest) : SpaceOnly (Keyed req) := by
  rintro s s' hsp htree (h | ⟨hnone, p, hp, hs⟩)
  · left
    rw [hsp]
    exact h
  · exact .inr ⟨htree.trans hnone, p, hp, hsp.trans hs⟩

theorem updateDeployment_space {d x : Deployment} {now : Instant} {db db' : Db}
    (h : updateDeployment d now db = .ok (x, db')) : x.space = d.space := by
  rw [updateDeployment_apply] at h
  split at h
  · cases h
  · split at h
    · cases h
      rfl
    · cases h

section Rules

variable {α : Type} {P : RunState → Prop} {E : Stop → RunState → Prop}

theorem say_keeps (hP : SpaceOnly P) (payload : String) :
    Triple P (say payload) (fun _ => P) E :=
  fun s hs => hP s _ rfl rfl hs

theorem store_keeps (hP : SpaceOnly P) (op : StoreM α) (onError : StoreError → Stop) :
    Triple P (RunM.store op onError) (fun _ => P) (fun _ _ => True) := by
  refine Triple.of_state fun s₀ h₀ => ?_
  unfold RunM.store
  refine Triple.get_bind_at ?_
  split
  · exact Triple.set_bind_at _ (Triple.pure_at _ (hP s₀ _ rfl rfl h₀))
  · exact Triple.throw_at _ trivial

theorem checkCancel_keeps : Triple P checkCancel (fun _ => P) (fun _ _ => True) :=
  (@Triple.checkCancel_spec P fun _ _ => True).pre fun _ hs => ⟨hs, fun _ => trivial⟩

theorem transition_keeps (hP : SpaceOnly P) (t : DeploymentStatus) :
    Triple P (transition t) (fun _ => P) (fun _ _ => True) := by
  unfold transition
  refine checkCancel_keeps.bind fun _ => Triple.of_state fun s₀ h₀ => ?_
  refine Triple.modify_bind_at _ (Triple.get_bind_at (Triple.store_bind_at
    (fun u db hu => ?_) fun _ _ => trivial))
  have hsp := updateDeployment_space hu
  exact Triple.modify_at _ (hP s₀ _ hsp rfl h₀)

/-- Checking out sources leaves the row's space keyed by the repository, and a tree. -/
theorem fetchSource_keys (repo : Repository) (c : Checkout) :
    Triple (fun _ => True) (fetchSource repo c)
      (fun _ s => s.current.space.key = repo.id ∧ s.tree.isSome = true) (fun _ _ => True) := by
  have htrue : SpaceOnly fun _ => True := fun _ _ _ _ h => h
  have hkey : SpaceOnly fun s => s.current.space.key = repo.id := fun _ s' hsp _ h =>
    show s'.current.space.key = repo.id by rw [hsp]; exact h
  unfold fetchSource
  refine (transition_keeps htrue _).bind fun _ => ?_
  refine Triple.of_state fun s₀ _ => Triple.get_bind_at ?_
  cases s₀.app.host.accessToken repo.installationId with
  | error e => exact Triple.fail_bind_at _ _ trivial
  | ok tok =>
    refine ((say_keeps htrue _).bind fun _ => ?_).atState trivial
    refine Triple.of_state fun s₁ _ => Triple.get_bind_at ?_
    cases s₁.app.host.checkout repo.id c with
    | error e => exact Triple.fail_at _ _ trivial
    | ok p =>
      obtain ⟨host, co⟩ := p
      refine Triple.set_bind_at _ (((say_keeps htrue _).bind fun _ => ?_).atState trivial)
      cases co.tree.space with
      | error e => exact fun _ _ => trivial
      | ok space =>
        -- the space read is written keyed by the repository, and kept by the move
        refine Triple.of_state fun s₂ _ => Triple.modify_bind_at _ ?_
        refine ((transition_keeps hkey _).bind fun _ => ?_).atState rfl
        exact fun _ hs => ⟨hs, rfl⟩

theorem build_keeps (hP : SpaceOnly P) (ns : String) :
    Triple P (build ns) (fun _ => P) (fun _ _ => True) := by
  refine Triple.of_state fun s₀ h₀ => ?_
  unfold build
  refine Triple.get_bind_at ?_
  dsimp only
  split
  · cases buildSecrets s₀.app.cluster ns s₀.current.repoId
      s₀.current.space.service.buildSecrets with
    | error e => exact Triple.throw_bind_at _ trivial
    | ok v =>
      dsimp only
      simp only [pure_bind]
      refine ((say_keeps hP _).bind fun _ => ?_).atState h₀
      refine Triple.of_state fun s₁ h₁ => Triple.get_bind_at ?_
      refine Triple.set_bind_at _ (((say_keeps hP _).bind fun _ => ?_).atState
        (hP s₁ _ rfl rfl h₁))
      split
      · exact fun _ hs => hs
      · exact fun _ _ => trivial
      · exact fun _ _ => trivial
  · exact Triple.fail_bind_at _ _ trivial

theorem applyManifests_keeps (hP : SpaceOnly P) (repo : Repository) (scope : Scope)
    (image : Image) (keys : List String) :
    Triple P (applyManifests repo scope image keys) (fun _ => P) (fun _ _ => True) := by
  refine Triple.of_state fun s₀ h₀ => ?_
  unfold applyManifests
  refine Triple.get_bind_at
    ((checkCancel_keeps.bind fun _ => (say_keeps hP _).bind fun _ => ?_).atState h₀)
  refine Triple.of_state fun s₁ h₁ => Triple.get_bind_at ?_
  split
  · exact Triple.fail_at _ _ trivial
  · exact Triple.set_at _ (hP s₁ _ rfl rfl h₁)

end Rules

/-- Finding the image keeps the row keyed: a run with no tree that must build checks out first. -/
theorem image_keyed (req : DeployRequest) (ns : String) :
    Triple (Keyed req) (image req.repo ns) (fun _ => Keyed req) (fun _ _ => True) := by
  have hK := Keyed.spaceOnly req
  refine Triple.of_state fun s₀ h₀ => ?_
  unfold image
  refine Triple.get_bind_at ?_
  split
  · -- the registry has the image: the row is as it was
    refine ((say_keeps hK _).bind fun _ => ?_).atState h₀
    exact fun _ hs => hs
  · -- it lacks it: the sources when none are checked out yet, then a build
    have hbuild : Triple (Keyed req) (transition .building >>= fun _ => build ns)
        (fun _ => Keyed req) (fun _ _ => True) :=
      (transition_keeps hK _).bind fun _ => build_keeps hK _
    dsimp only
    split
    · refine ((say_keeps hK _).bind fun _ => ?_).atState h₀
      exact ((fetchSource_keys _ _).pre fun _ _ => trivial).bind fun _ =>
        hbuild.pre fun _ hs => .inl hs.1
    · exact hbuild.atState h₀
  · exact Triple.fail_at _ _ trivial

/-- A run from the row its request saved, with no sources yet, keeps its row keyed to the end. -/
theorem steps_keyed (req : DeployRequest) :
    Triple (fun s => s.current.space = req.row.space ∧ s.tree = none) (steps req)
      (fun _ => Keyed req) (fun _ _ => True) := by
  have hK := Keyed.spaceOnly req
  have hstart : SpaceOnly fun s => s.current.space = req.row.space ∧ s.tree = none := by
    rintro s s' hsp htree ⟨hspace, htree₀⟩
    exact ⟨hsp.trans hspace, htree.trans htree₀⟩
  unfold steps
  refine (store_keeps hstart _ _).bind fun scope => ?_
  -- the rest of the run, after the sources of a checkout, is the join point `tail`
  lift_lets
  extract_lets tail
  have htail : ∀ r, Triple (Keyed req) (tail r) (fun _ => Keyed req) (fun _ _ => True) := by
    intro r
    refine (image_keyed req _).bind fun img => ?_
    refine (transition_keeps hK _).bind fun _ => ?_
    refine (store_keeps hK _ _).bind fun keys => ?_
    refine (applyManifests_keeps hK _ _ _ _).bind fun _ => ?_
    refine (transition_keeps hK _).bind fun _ => ?_
    -- the rollback marks and the final message write the store and the bus only
    refine Triple.of_state fun s₄ h₄ => Triple.get_bind_at ?_
    cases s₄.current.rolledBackFromId with
    | none => exact Triple.get_bind_at (Triple.set_at _ (hK s₄ _ rfl rfl h₄))
    | some source =>
      dsimp only
      cases markRolledBack req.repo.id source s₄.current.id s₄.app.now s₄.app.db with
      | error e => exact Triple.get_bind_at (Triple.set_at _ (hK s₄ _ rfl rfl h₄))
      | ok p => exact Triple.set_bind_at _ (Triple.get_bind_at (Triple.set_at _ (hK s₄ _ rfl rfl h₄)))
  clear_value tail
  split
  · -- a checkout: the sources first
    exact ((fetchSource_keys _ _).pre fun _ _ => trivial).bind fun _ =>
      (htail _).pre fun _ hs => .inl hs.1
  · -- a copy: no sources yet, and the space copied
    rename_i hnot
    obtain ⟨p, hp⟩ := Source.copied_of_ne_checkout hnot
    exact (htail _).pre fun _ hs =>
      .inr ⟨hs.2, p, hp, hs.1.trans (DeployRequest.row_space_of_copied hp)⟩

/-- In every store the operations reach, a repository a user of the store sees resolves to one
scope whether the user's workspace is given, as the user's requests give it, or not, as pushes and
the deletion of an installation do: one workspace and one namespace, named from the workspace and
the repository. A run deploying it keeps its row's space keyed by the repository, unless it copies
an earlier deployment and checks out nothing, when the row keeps the space copied, key and all. -/
theorem scope_agrees_and_runs_keep_their_key (db : Db) (hdb : Reachable db) (u : User)
    (hu : u ∈ db.users) (req : DeployRequest)
    (hr : req.repo ∈ db.listed (fun i _ => u.sees i)) :
    (∃ s, resolveScope req.repo (some u.currentWorkspace) db = .ok (s, db) ∧
        resolveScope req.repo none db = .ok (s, db) ∧
        s.clusterNamespace = Cluster.namespaceName s.workspaceName req.repo.id) ∧
      Triple (fun s => s.current.space = req.row.space ∧ s.tree = none) (steps req)
        (fun _ s => s.current.space.key = req.repo.id ∨
          s.tree = none ∧ ∃ p, req.source.copied = some p ∧ s.current.space = p.space)
        (fun _ _ => True) := by
  refine ⟨?_, steps_keyed req⟩
  obtain ⟨s, hsome, hnone⟩ := resolveScope_agrees hdb.scopesResolve hu hr
  refine ⟨s, hsome, hnone, ?_⟩
  unfold Scope.clusterNamespace
  rw [resolveScope_repoId hnone]

/-- The store after the first sign-in of `ada` and the link of an installation on `ada`'s
account covering one repository. -/
def adaStore : Db :=
  (Op.linkInstallation 42 "ada" [{ id := 7, fullName := "ada/app" }]).apply
    ((Op.getOrCreateUser
      { id := "", email := "ada@host", displayName := "ada", currentWorkspace := "" }).apply {})

/-- The user `adaStore` signed in, in the workspace made for it. -/
def adaUser : User :=
  { id := idText 2, email := "ada@host", displayName := "ada", currentWorkspace := idText 1 }

/-- The repository `adaStore` recorded, in `ada`'s workspace. -/
def adaRepo : Repository :=
  { id := idText 4, installationId := 42, vcsId := 7, fullName := "ada/app",
    workspaceId := some (idText 1) }

/-- `ada` deploys the branch `main` of the repository. -/
def adaRequest : DeployRequest :=
  { repo := adaRepo, user := "ada", workspaceHint := some adaUser.currentWorkspace,
    source := .checkout (.branch "main") }

/-- The rule at work on `adaStore`, for its user deploying its repository. -/
theorem ada_deploy_resolves_alike :
    Reachable adaStore ∧ adaUser ∈ adaStore.users ∧
      adaRequest.repo ∈ adaStore.listed (fun i _ => adaUser.sees i) ∧
      (∃ s, resolveScope adaRepo (some adaUser.currentWorkspace) adaStore = .ok (s, adaStore) ∧
        resolveScope adaRepo none adaStore = .ok (s, adaStore) ∧
        s.clusterNamespace = Cluster.namespaceName s.workspaceName adaRepo.id) ∧
      Triple (fun s => s.current.space = adaRequest.row.space ∧ s.tree = none) (steps adaRequest)
        (fun _ s => s.current.space.key = adaRepo.id ∨
          s.tree = none ∧ ∃ p, adaRequest.source.copied = some p ∧ s.current.space = p.space)
        (fun _ _ => True) :=
  have hr : Reachable adaStore := .step _ (.step _ .empty)
  have hu : adaUser ∈ adaStore.users := by decide
  have hrepo : adaRequest.repo ∈ adaStore.listed (fun i _ => adaUser.sees i) :=
    Db.mem_listed.2 ⟨adaRepo.toRepositoryRow, by decide, ⟨idText 3, 42, "ada", some (idText 1)⟩,
      by decide, by decide, rfl⟩
  ⟨hr, hu, hrepo, scope_agrees_and_runs_keep_their_key adaStore hr adaUser hu adaRequest hrepo⟩

end Shipyard.Platform
