import Shipyard.Proofs.Pipeline.Triple
import Shipyard.Proofs.Progress.Entry
import Shipyard.Proofs.Platform.Scope
/-!
# Every run that ends says so once

A run carried out from its saved row, and not waiting on a held build, ends with its row
finished or gone and with one final message: `info` when the row is `done`, an `error` with a
code when it failed or is gone. The run writes its row in the order of `DeploymentStatus.rank`,
so no update of it is refused. Cancelling the runs of a repository publishes nothing and writes
no row, so a run so cancelled ends with no final message.
-/
namespace Shipyard

/-- The row of a deployment: the first with its identifier. -/
def Db.deployment? (db : Db) (id : String) : Option Deployment :=
  db.deployments.find? (·.id == id)

namespace Store

open Db (update)

theorem deployment?_id {db : Db} {id : String} {r : Deployment} (h : db.deployment? id = some r) :
    r.id = id := by
  simpa using List.find?_some h

theorem updateDeployment_of_none {d : Deployment} {now : Instant} {db : Db}
    (h : db.deployment? d.id = none) : updateDeployment d now db = .error .deploymentNotFound := by
  rw [updateDeployment_apply]
  unfold Db.deployment? at h
  rw [h]

theorem updateDeployment_of_canMove {d cur : Deployment} {now : Instant} {db : Db}
    (h : db.deployment? d.id = some cur) (hm : cur.status.canMove d.status = true) :
    updateDeployment d now db = .ok (d.overwrite now cur,
      { db with deployments := update (·.id == d.id) (d.overwrite now) db.deployments }) := by
  rw [updateDeployment_apply]
  unfold Db.deployment? at h
  rw [h]
  dsimp only
  rw [if_pos hm]

theorem deployment?_overwrite {d cur : Deployment} {now : Instant} {db : Db}
    (h : db.deployment? d.id = some cur) :
    Db.deployment? { db with deployments := update (·.id == d.id) (d.overwrite now) db.deployments }
      d.id = some (d.overwrite now cur) := by
  unfold Db.deployment?
  rw [find?_update, show db.deployments.find? (·.id == d.id) = some cur from h]
  · simp [deployment?_id h]
  · intro
    rfl

theorem find?_update_of_spared {α : Type} {p q : α → Bool} {f : α → α} {l : List α}
    (hf : ∀ x, q (f x) = q x) (hq : ∀ x, q x = true → p x = false) :
    (update p f l).find? q = l.find? q := by
  rw [find?_update p f l hf]
  cases hfind : l.find? q with
  | none => rfl
  | some x =>
    have hp := hq x (List.find?_some hfind)
    simp [hp]

theorem deployment?_markRolledBack {repoId source keep : String} {now : Instant} {db db' : Db}
    {n : Nat} (h : markRolledBack repoId source keep now db = .ok (n, db')) :
    db'.deployment? keep = db.deployment? keep := by
  rw [markRolledBack_apply] at h
  split at h
  · cases h
    rfl
  · cases h
    unfold Db.deployment?
    dsimp only
    rw [List.find?_append, find?_update_of_spared, ← List.find?_append, List.take_append_drop]
    · intro
      rfl
    · intro x hx
      simp_all

end Store

namespace Platform

open Store Progress RunM

section Run

variable {id : String} {k : Nat} {s s' : RunState}

/-- A run of deployment `id` under way, its status at most `k` in rank: the row is gone or has
the status the run last wrote, and the progress has not ended. -/
structure Live (id : String) (k : Nat) (s : RunState) : Prop where
  current_id : s.current.id = id
  rank_le : s.current.status.rank ≤ k
  row : ∀ r, s.app.db.deployment? id = some r → r.status = s.current.status
  progress : s.app.bus.Open id
  inFlight : s.app.running.any (·.1 == id) = true

/-- A run of deployment `id` stopped short: the row is gone or still live, and the progress has
not ended. -/
structure Stopped (id : String) (s : RunState) : Prop where
  current_id : s.current.id = id
  row : ∀ r, s.app.db.deployment? id = some r → r.status.isTerminal = false
  progress : s.app.bus.Open id

/-- How a step of the run may stop: for a reason other than finding its row finished. -/
def Halted (id : String) (e : Stop) (s : RunState) : Prop := e ≠ .cancelled ∧ Stopped id s

theorem Live.mono (h : Live id k s) {k' : Nat} (hk : k ≤ k') : Live id k' s :=
  { h with rank_le := Nat.le_trans h.rank_le hk }

/-- What the run does to its working trees, the host, the registry and the cluster, and to the
parts of its row it does not check, keeps it under way. -/
theorem Live.frame (h : Live id k s) (hid : s'.current.id = s.current.id)
    (hst : s'.current.status = s.current.status) (hdb : s'.app.db = s.app.db)
    (hbus : s'.app.bus = s.app.bus) (hrun : s'.app.running = s.app.running) : Live id k s' where
  current_id := hid.trans h.current_id
  rank_le := hst ▸ h.rank_le
  row r hr := hst ▸ h.row r (hdb ▸ hr)
  progress := hbus ▸ h.progress
  inFlight := hrun ▸ h.inFlight

theorem Live.running (h : Live id k s) : s.app.running.any (·.1 == s.current.id) = true := by
  rw [h.current_id]
  exact h.inFlight

theorem Live.say (h : Live id k s) (payload : String) :
    Live id k { s with app := s.app.info s.current.id payload } :=
  { h with progress := h.progress.publish rfl }

theorem Live.stopped (h : Live id k s) (hk : k ≤ 3) : Stopped id s where
  current_id := h.current_id
  row r hr := h.row r hr ▸ DeploymentStatus.isTerminal_of_rank_lt (by have := h.rank_le; omega)
  progress := h.progress

/-- A forward move of the run is never refused: it fails only when the row is gone. -/
theorem transition_spec {t : DeploymentStatus} (hk : k ≤ 3) (hkt : k ≤ t.rank) (ht : t.rank ≤ 4)
    (htf : t ≠ .failed) :
    Triple (Live id k) (transition t)
      (fun _ s => Live id t.rank s ∧ s.current.status = t ∧ (s.app.db.deployment? id).isSome)
      (Halted id) := by
  refine Triple.of_state fun s₀ h₀ => ?_
  obtain ⟨rfl, hrank, hrow, hopen, hfl⟩ := h₀
  -- the row the update finds is the row the run last wrote, and the rule lets it move to `t`
  have hmove : ∀ cur, s₀.app.db.deployment? s₀.current.id = some cur →
      cur.status.canMove t = true := fun cur hcur => by
    rw [hrow cur hcur]
    exact DeploymentStatus.canMove_of_rank_le (by omega) ht htf (by omega)
  unfold transition
  refine Triple.checkCancel_bind_at hfl
    (Triple.modify_bind_at _ (Triple.get_bind_at (Triple.store_bind_at ?_ ?_)))
  · -- the update went through
    intro u db hu
    dsimp only at hu
    cases hcur : s₀.app.db.deployment? s₀.current.id with
    | none =>
      rw [@updateDeployment_of_none { s₀.current with status := t } _ _ hcur] at hu
      cases hu
    | some cur =>
      have hrow' := @deployment?_overwrite { s₀.current with status := t } cur s₀.app.now _ hcur
      rw [@updateDeployment_of_canMove { s₀.current with status := t } cur _ _ hcur
        (hmove cur hcur)] at hu
      cases hu
      refine Triple.modify_at _ ?_
      dsimp only at hrow' ⊢
      refine ⟨⟨@deployment?_id _ _ cur hcur, Nat.le_refl _, fun r hr => ?_, hopen, hfl⟩, rfl, ?_⟩
      · rw [hrow'] at hr
        cases hr
        rfl
      · rw [hrow']
        rfl
  · -- the update was refused: the row is gone
    intro e he
    dsimp only at he
    cases hcur : s₀.app.db.deployment? s₀.current.id with
    | none =>
      rw [@updateDeployment_of_none { s₀.current with status := t } _ _ hcur] at he
      cases he
      refine ⟨nofun, rfl, fun r hr => ?_, hopen⟩
      dsimp only at hr
      rw [hcur] at hr
      cases hr
    | some cur =>
      rw [@updateDeployment_of_canMove { s₀.current with status := t } cur _ _ hcur
        (hmove cur hcur)] at he
      cases he

theorem say_spec {E : Stop → RunState → Prop} (payload : String) :
    Triple (Live id k) (say payload) (fun _ => Live id k) E :=
  fun _ h => h.say payload

theorem extractFailure_ne_cancelled (e : SourceError) : extractFailure e ≠ .cancelled := by
  unfold extractFailure
  split <;> nofun

theorem fetchSource_spec (repo : Repository) (c : Checkout) :
    Triple (Live id 1) (fetchSource repo c) (fun _ => Live id 1) (Halted id) := by
  unfold fetchSource
  refine (transition_spec (by omega) (by decide) (by decide) (by decide)).bind fun _ => ?_
  refine Triple.of_state fun s₀ h₀ => Triple.get_bind_at ?_
  replace h₀ : Live id 1 s₀ := h₀.1
  cases hacc : s₀.app.host.accessToken repo.installationId with
  | error e => exact Triple.fail_bind_at _ _ ⟨nofun, h₀.stopped (by omega)⟩
  | ok tok =>
    refine ((say_spec _).bind fun _ => ?_).atState h₀
    refine Triple.of_state fun s₁ h₁ => Triple.get_bind_at ?_
    cases hco : s₁.app.host.checkout repo.id c with
    | error e => exact Triple.fail_at _ _ ⟨nofun, h₁.stopped (by omega)⟩
    | ok p =>
      obtain ⟨host, co⟩ := p
      refine Triple.set_bind_at _ (((say_spec _).bind fun _ => ?_).atState
        (h₁.frame rfl rfl rfl rfl rfl))
      cases hsp : co.tree.space with
      | error e => exact fun s hs => ⟨extractFailure_ne_cancelled e, hs.stopped (by omega)⟩
      | ok space =>
        refine Triple.of_state fun s₂ h₂ => Triple.modify_bind_at _ ?_
        refine ((transition_spec (by omega) (by decide) (by decide) (by decide)).bind
          fun _ => ?_).atState (h₂.frame rfl rfl rfl rfl rfl)
        exact fun s hs => hs.1.frame rfl rfl rfl rfl rfl

theorem buildSecrets_error_codes (cluster : Services.Cluster) (ns repoId : String)
    (keys : List String) {e : Stop} (h : buildSecrets cluster ns repoId keys = .error e) :
    ∃ m, e = .failed "SECRET_DOESNT_EXIST" m ∨ e = .failed "FAILED_GET_SECRETS" m := by
  unfold buildSecrets at h
  generalize ([] : List (String × String)) = acc at h
  induction keys generalizing acc with
  | nil => cases h
  | cons key keys ih =>
    rw [List.foldlM_cons] at h
    cases hs : cluster.getSecret ns repoId key with
    | ok v => rw [hs] at h; exact ih _ h
    | error e' =>
      rw [hs] at h
      -- a missing secret has its own code, every other failure the read's
      cases e' with
      | secretNotFound => cases h; exact ⟨_, .inl rfl⟩
      | _ => cases h; exact ⟨_, .inr rfl⟩

theorem buildSecrets_ne_cancelled (cluster : Services.Cluster) (ns repoId : String)
    (keys : List String) {e : Stop} (h : buildSecrets cluster ns repoId keys = .error e) :
    e ≠ .cancelled := by
  obtain ⟨m, rfl | rfl⟩ := buildSecrets_error_codes cluster ns repoId keys h <;> nofun

theorem build_spec (ns : String) (hk : k ≤ 3) :
    Triple (Live id k) (build ns) (fun _ => Live id k) (Halted id) := by
  refine Triple.of_state fun s₀ h₀ => ?_
  unfold build
  refine Triple.get_bind_at ?_
  dsimp only
  split
  · cases hsec : buildSecrets s₀.app.cluster ns s₀.current.repoId
      s₀.current.space.service.buildSecrets with
    | error e =>
      exact Triple.throw_bind_at _ ⟨buildSecrets_ne_cancelled _ _ _ _ hsec, h₀.stopped hk⟩
    | ok v =>
      dsimp only
      simp only [pure_bind]
      refine ((say_spec _).bind fun _ => ?_).atState h₀
      refine Triple.of_state fun s₁ h₁ => Triple.get_bind_at ?_
      refine Triple.set_bind_at _ (((say_spec _).bind fun _ => ?_).atState
        (h₁.frame rfl rfl rfl rfl rfl))
      -- the outcome of the build: an image, a hold, or a failure
      split
      · exact fun _ hs => hs
      · exact fun _ hs => ⟨nofun, hs.stopped hk⟩
      · exact fun _ hs => ⟨nofun, hs.stopped hk⟩
  · exact Triple.fail_bind_at _ _ ⟨nofun, h₀.stopped hk⟩

theorem image_spec (repo : Repository) (ns : String) :
    Triple (Live id 1) (image repo ns) (fun _ => Live id 2) (Halted id) := by
  refine Triple.of_state fun s₀ h₀ => ?_
  unfold image
  refine Triple.get_bind_at ?_
  split
  · -- the registry has it
    refine ((say_spec _).bind fun _ => ?_).atState h₀
    exact fun _ hs => hs.mono (by omega)
  · -- the registry lacks it: the sources if need be, then a build
    have hbuild : Triple (Live id 1) (transition .building >>= fun _ => build ns)
        (fun _ => Live id 2) (Halted id) :=
      (transition_spec (by omega) (by decide) (by decide) (by decide)).bind fun _ =>
        (@build_spec id 2 ns (by omega)).pre fun _ hs => hs.1
    dsimp only
    split
    · exact ((say_spec _).bind fun _ => (fetchSource_spec _ _).bind fun _ => hbuild).atState h₀
    · exact hbuild.atState h₀
  · exact Triple.fail_at _ _ ⟨nofun, h₀.stopped (by omega)⟩

theorem applyManifests_spec (repo : Repository) (scope : Scope) (image : Image)
    (keys : List String) (hk : k ≤ 3) :
    Triple (Live id k) (applyManifests repo scope image keys) (fun _ => Live id k) (Halted id) := by
  refine Triple.of_state fun s₀ h₀ => ?_
  unfold applyManifests
  refine Triple.get_bind_at
    (Triple.checkCancel_bind_at h₀.running (((say_spec _).bind fun _ => ?_).atState h₀))
  refine Triple.of_state fun s₁ h₁ => Triple.get_bind_at ?_
  split
  · exact Triple.fail_at _ _ ⟨nofun, h₁.stopped hk⟩
  · exact Triple.set_at _ (h₁.frame rfl rfl rfl rfl rfl)

/-- The run of deployment `id` is at `done`, with its progress still open. -/
structure Done (id : String) (s : RunState) : Prop where
  current_id : s.current.id = id
  row : ∃ r, s.app.db.deployment? id = some r ∧ r.status = .done
  progress : s.app.bus.Open id

theorem Live.done (h : Live id k s) (hst : s.current.status = .done)
    (hrow : (s.app.db.deployment? id).isSome) : Done id s where
  current_id := h.current_id
  row := by
    obtain ⟨r, hr⟩ := Option.isSome_iff_exists.1 hrow
    exact ⟨r, hr, (h.row r hr).trans hst⟩
  progress := h.progress

theorem Done.markRolledBack (h : Done id s) {repoId source : String} {n : Nat} {db : Db}
    (hm : markRolledBack repoId source s.current.id s.app.now s.app.db = .ok (n, db)) :
    Done id { s with app := { s.app with db } } where
  current_id := h.current_id
  row := by
    have hrow := deployment?_markRolledBack hm
    rw [h.current_id] at hrow
    exact hrow ▸ h.row
  progress := h.progress

end Run

/-- The run of deployment `id` has ended on the application `a`: its progress ended with one
final message, `info` exactly when the row is `done`, and an `error` with a code exactly when
the row failed or is gone. -/
def Ended (id : String) (a : App) : Prop :=
  ∃ m, a.bus.EndedWith id m ∧ m.isFinal = true ∧
    ((∃ r, a.db.deployment? id = some r ∧ r.status = .done) ∧ m.level = .info ∨
      (∀ r, a.db.deployment? id = some r → r.status = .failed) ∧ m.level = .error ∧
        m.errorCode.isSome)

section Run

variable {id : String} {k : Nat} {s : RunState}

theorem Done.ended (h : Done id s) (payload : String) :
    Ended id (s.app.publish s.current.id (ProgressMessage.info s.current.id payload s.app.now).finished) := by
  obtain ⟨hid, hrow, hopen⟩ := h
  subst hid
  exact ⟨_, hopen.publish_final rfl, rfl, .inl ⟨hrow, rfl⟩⟩

/-- A run from its saved row reaches `done` and says so, or stops short with its row live or
gone and its progress open; no move it makes is refused. -/
theorem steps_spec (req : DeployRequest) :
    Triple (Live id 0) (steps req) (fun _ s => Ended id s.app) (Halted id) := by
  unfold steps
  refine Triple.of_state fun s₀ h₀ => Triple.store_bind_at (fun scope db hsc => ?_)
    fun _ _ => ⟨nofun, h₀.stopped (by omega)⟩
  have h₁ : Live id 0 { s₀ with app := { s₀.app with db } } :=
    h₀.frame rfl rfl (resolveScope_readOnly _ _ _ _ _ hsc) rfl rfl
  replace h₁ := h₁.mono (show 0 ≤ 1 by omega)
  -- the rest of the run, after the sources of a checkout, is the join point `tail`
  lift_lets
  extract_lets src tail
  have htail : ∀ r, Triple (Live id 1) (tail r) (fun _ s => Ended id s.app) (Halted id) := by
    -- the image, `deploying`, the manifests, `done`, the rollback marks, the final message
    intro r
    refine (image_spec _ _).bind fun img => ?_
    refine (transition_spec (by decide) (by decide) (by decide) (by decide)).bind fun _ => ?_
    refine Triple.of_state fun s₂ h₂ => Triple.store_bind_at (fun keys db hkeys => ?_)
      fun _ _ => ⟨nofun, h₂.1.stopped (by decide)⟩
    have h₃ : Live id 3 { s₂ with app := { s₂.app with db } } :=
      h₂.1.frame rfl rfl (secretKeys_readOnly _ _ _ _ _ hkeys) rfl rfl
    refine ((applyManifests_spec _ _ _ _ (by decide)).bind fun _ => ?_).atState h₃
    refine (transition_spec (by decide) (by decide) (by decide) (by decide)).bind fun _ => ?_
    refine Triple.of_state fun s₄ h₄ => Triple.get_bind_at ?_
    have h₅ : Done id s₄ := h₄.1.done h₄.2.1 h₄.2.2
    -- the rollback marks spare the run's row; then the final message
    cases s₄.current.rolledBackFromId with
    | none => exact Triple.get_bind_at (Triple.set_at _ (h₅.ended _))
    | some source =>
      dsimp only
      cases hm : markRolledBack req.repo.id source s₄.current.id s₄.app.now s₄.app.db with
      | error e => exact Triple.get_bind_at (Triple.set_at _ (h₅.ended _))
      | ok p =>
        obtain ⟨n, db'⟩ := p
        exact Triple.set_bind_at _
          (Triple.get_bind_at (Triple.set_at _ ((h₅.markRolledBack hm).ended _)))
  clear_value tail
  -- the sources first, for a checkout
  split
  · exact ((fetchSource_spec _ _).bind htail).atState h₁
  · exact (htail _).atState h₁

theorem Ended.finish {s : RunState} (h : Ended id s.app) : Ended id s.finish := h

/-- A failure recorded on a stopped run ends it: the row failed or is gone, and the progress
ends with the error and its code. -/
theorem Stopped.failWith (h : Stopped id s) (code message : String) :
    Ended id (s.failWith code message) := by
  obtain ⟨hid, hrow, hopen⟩ := h
  subst hid
  unfold RunState.failWith
  dsimp only
  cases hcur : s.app.db.deployment? s.current.id with
  | none =>
    rw [@updateDeployment_of_none { s.current with status := .failed, error := some message } _ _
      hcur]
    refine ⟨_, hopen.publish_final rfl, rfl, .inr ⟨fun r hr => ?_, rfl, rfl⟩⟩
    change s.app.db.deployment? s.current.id = some r at hr
    rw [hcur] at hr
    cases hr
  | some cur =>
    have hmove : cur.status.canMove .failed = true :=
      DeploymentStatus.canMove_failed (hrow cur hcur)
    rw [@updateDeployment_of_canMove { s.current with status := .failed, error := some message }
      cur _ _ hcur hmove]
    refine ⟨_, hopen.publish_final rfl, rfl, .inr ⟨fun r hr => ?_, rfl, rfl⟩⟩
    have hrow' := @deployment?_overwrite { s.current with status := .failed, error := some message }
      cur s.app.now _ hcur
    dsimp only at hrow'
    change Db.deployment? { s.app.db with
      deployments := Db.update (·.id == s.current.id)
        ({ s.current with status := .failed, error := some message }.overwrite s.app.now)
        s.app.db.deployments } s.current.id = some r at hr
    rw [hrow'] at hr
    cases hr
    rfl

end Run

theorem App.cancelRepo_frame (a : App) (repoId : String) :
    (a.cancelRepo repoId).bus = a.bus ∧ (a.cancelRepo repoId).db = a.db := by
  unfold App.cancelRepo
  generalize a.running.filter (·.2 == repoId) = runs
  induction runs generalizing a with
  | nil => exact ⟨rfl, rfl⟩
  | cons r runs ih => exact ih (a.cancel r.1)

/-- A run carried out from the row its deploy saved, with its progress open, ends with its row
`done`, failed or gone and with exactly one final message on its progress: `info` when the row
is `done`, an `error` with a code when it failed or is gone. The one exception is a build held
past the time the application waits: the run is parked with its progress open, and cancelling
the runs of its repository, the way a parked run ends, publishes nothing and writes no row. -/
theorem run_ends_with_one_final_message (a : App) (run : Run)
    (hflight : a.running.any (·.1 == run.deployment.id) = true)
    (hinit : run.deployment.status = .init)
    (hrow : ∀ r, a.db.deployment? run.deployment.id = some r → r.status = .init)
    (hopen : a.bus.Open run.deployment.id) :
    (Ended run.deployment.id (execute a run) ∨
      settleLimitMs < a.settings.deployTimeoutMs ∧ (execute a run).bus.Open run.deployment.id ∧
        ∃ p ∈ (execute a run).parked, p.deploymentId = run.deployment.id) ∧
    ∀ (b : App) (repoId : String), (b.cancelRepo repoId).bus = b.bus ∧
      (b.cancelRepo repoId).db = b.db := by
  refine ⟨?_, App.cancelRepo_frame⟩
  have h₀ : Live run.deployment.id 0 { app := a, current := run.deployment } :=
    ⟨rfl, by rw [hinit]; decide, fun r hr => (hrow r hr).trans hinit.symm, hopen, hflight⟩
  have hrun := (steps_spec run.request).result h₀
  unfold execute
  rw [if_neg (by simp [hflight])]
  revert hrun
  rcases ((steps run.request).run { app := a, current := run.deployment }).run with ⟨_ | u, s⟩
  · -- the run stopped: a failure, or a held build
    rintro ⟨hne, hs⟩
    rename_i e
    cases e with
    | cancelled => exact absurd rfl hne
    | failed code message => exact .inl (hs.failWith code message)
    | held =>
      dsimp only
      split
      · exact .inl (hs.failWith _ _)
      · refine .inr ⟨by omega, hs.progress, ⟨run.deployment.id, s.trees⟩, ?_, rfl⟩
        exact List.mem_append_right _ (List.mem_singleton_self _)
  · -- the run reached `done`
    exact fun h => .inl h.finish

end Platform

end Shipyard
