import Shipyard.Proofs.Concurrent.Interleaving
import Shipyard.Proofs.Platform.Tenancy
import Shipyard.Proofs.Pipeline.FinalMessage
/-!
# Concurrent deploys of one repository

A deploy makes two store calls: it saves its row in `init`, then, superseding being on, fails
every other live deployment of the repository, keeping the row it saved. A deploy alone is
exactly these two calls (`deploy_is_save_then_supersede`). Deploys run concurrently, so the calls
of several deploys interleave, each call one transaction.

Main statement (`newest_row_superseded_iff_later_supersede`): once every deploy of a repository
has returned, every deployment of the repository but the newest is finished, since the newest
deploy superseded after every save; and the newest row is failed as superseded exactly when
another deploy superseded after that row was saved, and is still in `init` otherwise. Saving and
superseding being two calls, a deploy that saved first and supersedes last fails the newer row,
and then both rows end failed (`race_fails_newest_row`).
-/
namespace Shipyard

/-- The row `d` failed as superseded at `now`. -/
def Deployment.superseded (d : Deployment) (now : Instant) : Deployment :=
  { d with status := .failed, error := some "superseded", updatedAt := now }

@[simp] theorem Deployment.superseded_id (d : Deployment) (now : Instant) :
    (d.superseded now).id = d.id := rfl

/-- Every row of repository `R` but the one with identifier `b` is finished. -/
def Db.OthersFinished (db : Db) (R b : String) : Prop :=
  ∀ e ∈ db.deployments, e.repoId = R → e.id ≠ b → e.status.isTerminal = true

/-- The row of `b` is `b` failed as superseded, at some time. -/
def Db.Superseded (db : Db) (b : Deployment) : Prop :=
  ∃ t, db.deployment? b.id = some (b.superseded t)

namespace Platform

open Shipyard.Store Shipyard.Concurrent

section Supersede

variable {R keep : String} {now : Instant} {db db' : Db} {ids : List String}

/-- The test of the rows a supersede fails. -/
theorem supersede_eq (h : supersede R keep now db = .ok (ids, db')) :
    db' = { db with
      deployments := Db.update (fun d => d.repoId == R && d.id != keep && !d.status.isTerminal)
        (·.superseded now) db.deployments } := by
  rw [supersede_apply] at h
  cases h
  rfl

/-- A supersede that hits one row answers that row's identifier. -/
theorem supersede_of_one_hit {e : Deployment} (hhit : db.deployments.filter
      (fun d => d.repoId == R && d.id != keep && !d.status.isTerminal) = [e]) :
    supersede R keep now db = .ok ([e.id], { db with
      deployments := Db.update (fun d => d.repoId == R && d.id != keep && !d.status.isTerminal)
        (·.superseded now) db.deployments }) := by
  rw [supersede_apply]
  simp only [hhit, List.mergeSort_singleton, List.map]
  rfl

/-- A supersede that hits no row answers no identifier and changes nothing. -/
theorem supersede_of_no_hit (hhit : db.deployments.filter
      (fun d => d.repoId == R && d.id != keep && !d.status.isTerminal) = []) :
    supersede R keep now db = .ok ([], db) := by
  have hkeep : Db.update (fun d => d.repoId == R && d.id != keep && !d.status.isTerminal)
      (fun d => { d with status := .failed, error := some "superseded", updatedAt := now })
      db.deployments = db.deployments := by
    unfold Db.update
    conv_rhs => rw [← List.map_id db.deployments]
    exact List.map_congr_left fun x hx => by simp [List.filter_eq_nil_iff.1 hhit x hx]
  rw [supersede_apply]
  simp only [hhit, List.mergeSort_nil, List.map_nil]
  rw [hkeep]

/-- After a supersede every row of the repository but the one kept is finished. -/
theorem supersede_othersFinished (h : supersede R keep now db = .ok (ids, db')) :
    db'.OthersFinished R keep := by
  rw [supersede_eq h]
  intro e he hR hk
  obtain ⟨x, -, ⟨-, rfl⟩ | ⟨hx, rfl⟩⟩ := mem_update he
  · rfl
  · simpa [hR, hk] using hx

/-- A supersede leaves finished rows finished. -/
theorem othersFinished_supersede {R' b : String} (h : supersede R keep now db = .ok (ids, db'))
    (hfin : db.OthersFinished R' b) : db'.OthersFinished R' b := by
  rw [supersede_eq h]
  intro e he hR hb
  obtain ⟨x, hx, ⟨-, rfl⟩ | ⟨-, rfl⟩⟩ := mem_update he
  · rfl
  · exact hfin _ hx hR hb

/-- The row of an identifier after a supersede: failed when the supersede hit it. -/
theorem deployment?_supersede (h : supersede R keep now db = .ok (ids, db')) (b : String) :
    db'.deployment? b = (db.deployment? b).map fun e =>
      if e.repoId == R && e.id != keep && !e.status.isTerminal then e.superseded now else e := by
  rw [supersede_eq h]
  exact find?_update _ _ _ fun _ => rfl

/-- A supersede spares the row it keeps. -/
theorem deployment?_supersede_kept (h : supersede R keep now db = .ok (ids, db')) :
    db'.deployment? keep = db.deployment? keep := by
  rw [deployment?_supersede h]
  cases hk : db.deployment? keep with
  | none => rfl
  | some e => simp [deployment?_id hk]

/-- A supersede spares a finished row. -/
theorem deployment?_supersede_finished {b : String} {e : Deployment}
    (h : supersede R keep now db = .ok (ids, db')) (hb : db.deployment? b = some e)
    (he : e.status.isTerminal = true) : db'.deployment? b = some e := by
  rw [deployment?_supersede h, hb]
  simp [he]

/-- A supersede keeping another row fails a live row of the repository. -/
theorem deployment?_supersede_live {b : String} {e : Deployment}
    (h : supersede R keep now db = .ok (ids, db')) (hb : db.deployment? b = some e)
    (hR : e.repoId = R) (hk : b ≠ keep) (he : e.status.isTerminal = false) :
    db'.deployment? b = some (e.superseded now) := by
  rw [deployment?_supersede h, hb]
  simp [deployment?_id hb, hR, hk, he]

end Supersede

/-- A saved row is in `init` under an identifier no row had, and is added after the others. -/
theorem saveDeployment_ok {d x : Deployment} {now : Instant} {db db' : Db}
    (h : saveDeployment d now db = .ok (x, db')) :
    x.status = .init ∧ db.deployment? x.id = none ∧ db'.deployments = db.deployments ++ [x] := by
  rw [saveDeployment_apply] at h
  by_cases hempty : d.id.isEmpty <;> simp only [hempty, if_true, if_false, Bool.false_eq_true] at h
  all_goals
    split at h
    · rename_i hc
      cases h
      simp only [Bool.and_eq_true, Bool.not_eq_true', List.any_eq_false] at hc
      exact ⟨rfl, List.find?_eq_none.2 fun e he => by simpa using hc.1 e he, rfl⟩
    · cases h

/-- After a save the saved row is the row of its identifier. -/
theorem deployment?_saveDeployment {d x : Deployment} {now : Instant} {db db' : Db}
    (h : saveDeployment d now db = .ok (x, db')) : db'.deployment? x.id = some x := by
  obtain ⟨-, hfresh, hrows⟩ := saveDeployment_ok h
  unfold Db.deployment?
  rw [hrows]
  exact find?_append_singleton_of_none hfresh (by simp)

/-- Where a deploy is: about to save the row of its request, about to fail the other live
deployments of the repository keeping the row it saved, or returned with the row it saved (none
when the store refused it). -/
inductive DeployCall where
  | save (req : DeployRequest)
  | supersede (d : Deployment)
  | returned (d : Option Deployment)

/-- Whether a deploy has returned. -/
def DeployCall.Returned : DeployCall → Prop
  | .returned _ => True
  | _ => False

/-- The request, or the row, of a deploy is of repository `R`. -/
def DeployCall.OnRepo (R : String) : DeployCall → Prop
  | .save req => req.repo.id = R
  | .supersede d => d.repoId = R
  | .returned _ => True

/-- What a deploy's store call logs: the row saved, the store's refusal, or the row kept by a
supersede with the identifiers it failed. -/
inductive DeployEvent where
  | saved (d : Deployment)
  | refused (e : StoreError)
  | superseded (keep : Deployment) (ids : List String)

/-- Whether a call saved a row. -/
def DeployEvent.IsSave : DeployEvent → Prop
  | .saved _ => True
  | _ => False

/-- Whether a call leaves the row with identifier `id` alone: anything but a supersede keeping
another row. -/
def DeployEvent.Spares (id : String) : DeployEvent → Prop
  | .superseded keep _ => keep.id = id
  | _ => True

/-- One store call of a deploy, at whatever time the store's clock then reads. -/
inductive DeployStep : Db → DeployCall → DeployEvent → Db → DeployCall → Prop
  | save {db db' : Db} {req : DeployRequest} {now : Instant} {d : Deployment} :
      saveDeployment req.row now db = .ok (d, db') →
      DeployStep db (.save req) (.saved d) db' (.supersede d)
  | refuse {db : Db} {req : DeployRequest} {now : Instant} {e : StoreError} :
      saveDeployment req.row now db = .error e →
      DeployStep db (.save req) (.refused e) db (.returned none)
  | supersede {db db' : Db} {d : Deployment} {now : Instant} {ids : List String} :
      Store.supersede d.repoId d.id now db = .ok (ids, db') →
      DeployStep db (.supersede d) (.superseded d ids) db' (.returned (some d))

namespace DeployStep

variable {db db' : Db} {t t' : DeployCall} {l : DeployEvent}

/-- A call keeps a deploy on its repository. -/
theorem onRepo {R : String} (h : DeployStep db t l db' t') (ht : t.OnRepo R) : t'.OnRepo R := by
  cases h with
  | save hs =>
    simp only [DeployCall.OnRepo] at ht ⊢
    rw [saveDeployment_repoId hs, DeployRequest.row_repoId, ht]
  | refuse => trivial
  | supersede => trivial

/-- A call that saves nothing leaves the store as it was, or is a supersede keeping the row its
deploy saved. -/
theorem eq_or_supersede (h : DeployStep db t l db' t') (hl : ¬ l.IsSave) :
    db' = db ∨ ∃ d now ids, t = .supersede d ∧ l = .superseded d ids ∧
      Store.supersede d.repoId d.id now db = .ok (ids, db') := by
  cases h with
  | save => exact absurd trivial hl
  | refuse => exact .inl rfl
  | supersede hs => exact .inr ⟨_, _, _, rfl, rfl, hs⟩

variable {R : String} {b : Deployment}

/-- A call that saves nothing keeps the other rows of a repository finished. -/
theorem othersFinished {b : String} (h : DeployStep db t l db' t') (hl : ¬ l.IsSave)
    (hfin : db.OthersFinished R b) : db'.OthersFinished R b := by
  rcases h.eq_or_supersede hl with rfl | ⟨d, now, ids, -, -, hsup⟩
  · exact hfin
  · exact othersFinished_supersede hsup hfin

/-- A call that saves nothing and spares a row leaves it as it is. -/
theorem deployment?_spared {b : String} (h : DeployStep db t l db' t') (hl : ¬ l.IsSave)
    (hsp : l.Spares b) : db'.deployment? b = db.deployment? b := by
  rcases h.eq_or_supersede hl with rfl | ⟨d, now, ids, -, rfl, hsup⟩
  · rfl
  · have hkeep : d.id = b := hsp
    rw [← hkeep, deployment?_supersede_kept hsup]

/-- A call that saves nothing keeps a row failed as superseded. -/
theorem superseded (h : DeployStep db t l db' t') (hl : ¬ l.IsSave) (hb : db.Superseded b) :
    db'.Superseded b := by
  rcases h.eq_or_supersede hl with rfl | ⟨d, now, ids, -, -, hsup⟩
  · exact hb
  · obtain ⟨t, ht⟩ := hb
    exact ⟨t, deployment?_supersede_finished hsup ht rfl⟩

/-- A supersede of a deploy of the same repository keeping another row fails a new row, or
leaves it failed. -/
theorem superseded_of_not_spares (h : DeployStep db t l db' t') (hl : ¬ l.IsSave)
    (hsp : ¬ l.Spares b.id) (ht : t.OnRepo b.repoId) (hinit : b.status = .init)
    (hb : db.deployment? b.id = some b ∨ db.Superseded b) : db'.Superseded b := by
  cases h with
  | save => exact absurd trivial hl
  | refuse => exact absurd trivial hsp
  | @supersede _ d now ids hsup =>
    have hk : b.id ≠ d.id := fun he => hsp he.symm
    rcases hb with hb | ⟨t, hb⟩
    · exact ⟨now, deployment?_supersede_live hsup hb ht.symm hk (by rw [hinit]; rfl)⟩
    · exact ⟨t, deployment?_supersede_finished hsup hb rfl⟩

/-- A call of a deploy of the same repository that saves nothing leaves a new row as it was or
failed as superseded. -/
theorem saved_or_superseded (h : DeployStep db t l db' t') (hl : ¬ l.IsSave)
    (ht : t.OnRepo b.repoId) (hinit : b.status = .init)
    (hb : db.deployment? b.id = some b ∨ db.Superseded b) :
    db'.deployment? b.id = some b ∨ db'.Superseded b := by
  by_cases hsp : l.Spares b.id
  · have hrow := h.deployment?_spared hl hsp
    rcases hb with hb | ⟨t, hb⟩
    · exact .inl (hrow.trans hb)
    · exact .inr ⟨t, hrow.trans hb⟩
  · exact .inr (h.superseded_of_not_spares hl hsp ht hinit hb)

end DeployStep

end Platform

end Shipyard

namespace Shipyard.Concurrent.Interleaving

open Shipyard.Store Shipyard.Platform

section Deploys

variable {admits : Admits DeployCall} {db db' : Db} {ts ts' : List DeployCall}
  {log : List (Nat × DeployEvent)} {R : String}

theorem onRepo_set {ts : List DeployCall} {i : Nat} {t t' : DeployCall}
    (hts : ∀ u ∈ ts, u.OnRepo R) (ht : ts[i]? = some t) (ht' : t.OnRepo R → t'.OnRepo R) :
    ∀ u ∈ ts.set i t', u.OnRepo R := by
  intro u hu
  rcases List.mem_or_eq_of_mem_set hu with hu | rfl
  · exact hts u hu
  · exact ht' (hts _ (List.mem_of_getElem? ht))

/-- Every deploy of an interleaving stays on the repository it started on. -/
theorem onRepo (h : Interleaving DeployStep admits db ts log db' ts')
    (h₀ : ∀ t ∈ ts, t.OnRepo R) : ∀ t ∈ ts', t.OnRepo R :=
  h.inv (I := fun _ ts => ∀ t ∈ ts, t.OnRepo R) h₀
    fun _ _ _ _ _ _ _ _ hts ht _ hs => onRepo_set hts ht hs.onRepo

/-- A fact of the store that every call of a deploy of `R` keeps holds after an interleaving of
deploys of `R`. -/
theorem store_inv {P : Db → Prop} (h : Interleaving DeployStep admits db ts log db' ts')
    (hon : ∀ t ∈ ts, t.OnRepo R) (h₀ : P db)
    (hstep : ∀ s i t l s' t', (i, l) ∈ log → t.OnRepo R → DeployStep s t l s' t' → P s → P s') :
    P db' :=
  (h.inv (I := fun s us => (∀ u ∈ us, u.OnRepo R) ∧ P s) ⟨hon, h₀⟩
    fun _ _ _ _ _ _ _ hl ⟨hus, hp⟩ hu _ hs =>
      ⟨onRepo_set hus hu hs.onRepo, hstep _ _ _ _ _ _ hl (hus _ (List.mem_of_getElem? hu)) hs hp⟩).2

/-- Calls that save nothing and each spare a row leave it as it is. -/
theorem deployment?_spared {b : String} (h : Interleaving DeployStep admits db ts log db' ts')
    (hnosave : ∀ e ∈ log, ¬ e.2.IsSave) (hsp : ∀ e ∈ log, e.2.Spares b) :
    db'.deployment? b = db.deployment? b :=
  h.inv (I := fun s _ => s.deployment? b = db.deployment? b) rfl
    fun _ _ _ _ _ _ _ hl hrow _ _ hs => (hs.deployment?_spared (hnosave _ hl) (hsp _ hl)).trans hrow

/-- A deploy about to supersede keeping its row `b`, among deploys of `b`'s repository that save
nothing more and have all returned by the end, leaves every other row of the repository
finished: it supersedes, and every call after that keeps the others finished. -/
theorem othersFinished_of_returned {i : Nat} {b : Deployment}
    (h : Interleaving DeployStep admits db ts log db' ts') (hon : ∀ u ∈ ts, u.OnRepo b.repoId)
    (hi : ts[i]? = some (.supersede b)) (hret : ∀ t ∈ ts', t.Returned)
    (hnosave : ∀ e ∈ log, ¬ e.2.IsSave) : db'.OthersFinished b.repoId b.id := by
  have hmoved : ts'[i]? ≠ ts[i]? := by
    rw [hi]
    intro hend
    exact hret _ (List.mem_of_getElem? hend)
  obtain ⟨l, hl⟩ := h.exists_call_of_moved hmoved
  obtain ⟨_, _, _, _, _, _, _, _, rfl, _, hpre, hu₀, hu, _, hsu, hrest⟩ := h.first_call hl
  rw [hi] at hu₀
  cases hu₀
  cases hsu with
  | supersede hsup =>
    refine Interleaving.store_inv hrest (onRepo_set (hpre.onRepo hon) hu fun _ => trivial)
      (supersede_othersFinished hsup) fun _ _ _ _ _ _ hl _ hs hfin => hs.othersFinished ?_ hfin
    exact hnosave _ (List.mem_append_right _ (List.mem_cons_of_mem _ hl))

/-- Among deploys of `b`'s repository that save nothing more, a new row `b` that some call does
not spare ends failed as superseded: it is as saved or failed up to that call, failed by it, and
kept failed after it. -/
theorem superseded_of_not_spares {b : Deployment}
    (h : Interleaving DeployStep admits db ts log db' ts') (hon : ∀ u ∈ ts, u.OnRepo b.repoId)
    (hnosave : ∀ e ∈ log, ¬ e.2.IsSave) (hinit : b.status = .init)
    (hrow : db.deployment? b.id = some b) (hhit : ∃ e ∈ log, ¬ e.2.Spares b.id) :
    db'.Superseded b := by
  obtain ⟨⟨j, l⟩, he, hne⟩ := hhit
  obtain ⟨q₁, q₂, rfl⟩ := List.append_of_mem he
  obtain ⟨r₁, rs₁, h₁, h₂⟩ := h.split
  rw [← List.singleton_append] at h₂
  obtain ⟨r₂, rs₂, h₃, h₄⟩ := h₂.split
  obtain ⟨u, u', hu, -, hsu, rfl⟩ := h₃.of_single
  have hon₁ := h₁.onRepo hon
  have hbefore : r₁.deployment? b.id = some b ∨ r₁.Superseded b :=
    Interleaving.store_inv h₁ hon (.inl hrow) fun _ _ _ _ _ _ hl ht hs hb =>
      hs.saved_or_superseded (hnosave _ (List.mem_append_left _ hl)) ht hinit hb
  have hat : r₂.Superseded b :=
    hsu.superseded_of_not_spares (hnosave _ (List.mem_append_right _ (List.mem_cons_self ..)))
      hne (hon₁ _ (List.mem_of_getElem? hu)) hinit hbefore
  exact Interleaving.store_inv h₄ (onRepo_set hon₁ hu hsu.onRepo) hat
    fun _ _ _ _ _ _ hl _ hs hb =>
      hs.superseded (hnosave _ (List.mem_append_right _ (List.mem_cons_of_mem _ hl))) hb

end Deploys

end Shipyard.Concurrent.Interleaving

namespace Shipyard.Platform

open Shipyard.Store Shipyard.Concurrent

/-- Deploys of one repository run in any interleaving of their store calls: once all have
returned, every deployment of the repository but the newest is finished, and the newest row is
failed as superseded when a deploy superseded after it was saved keeping another row, and still
in `init` when none did. -/
theorem newest_row_superseded_iff_later_supersede {R : String} {reqs : List DeployRequest}
    (hR : ∀ req ∈ reqs, req.repo.id = R) {db db' : Db} {log : List (Nat × DeployEvent)}
    {ts : List DeployCall} (h : Interleaving DeployStep anyOrder db (reqs.map .save) log db' ts)
    (hret : ∀ t ∈ ts, t.Returned) {pre post : List (Nat × DeployEvent)} {i : Nat} {b : Deployment}
    (hlog : log = pre ++ (i, .saved b) :: post) (hnewest : ∀ e ∈ post, ¬ e.2.IsSave) :
    db'.OthersFinished R b.id ∧
      ((∀ e ∈ post, e.2.Spares b.id) → db'.deployment? b.id = some b ∧ b.status = .init) ∧
      ((∃ e ∈ post, ¬ e.2.Spares b.id) → db'.Superseded b) := by
  -- the calls before the newest row's save, that save, and the calls after it
  subst hlog
  obtain ⟨s₁, ts₁, h₁, h₂⟩ := h.split
  rw [← List.singleton_append] at h₂
  obtain ⟨s₂, ts₂, h₃, h₄⟩ := h₂.split
  obtain ⟨t, t', ht, -, hs, rfl⟩ := h₃.of_single
  have hon₁ : ∀ u ∈ ts₁, u.OnRepo R :=
    Interleaving.onRepo h₁ (by simpa [DeployCall.OnRepo] using hR)
  cases hs with
  | save hsave =>
    have hinit := (saveDeployment_ok hsave).1
    have hrow := deployment?_saveDeployment hsave
    have hbR : b.repoId = R := by
      rw [saveDeployment_repoId hsave, DeployRequest.row_repoId]
      exact hon₁ _ (List.mem_of_getElem? ht)
    subst hbR
    have hon₂ : ∀ u ∈ ts₁.set i (.supersede b), u.OnRepo b.repoId :=
      Interleaving.onRepo_set hon₁ ht fun _ => rfl
    have hself : (ts₁.set i (.supersede b))[i]? = some (.supersede b) :=
      List.getElem?_set_self (List.getElem?_eq_some_iff.1 ht).1
    exact ⟨h₄.othersFinished_of_returned hon₂ hself hret hnewest,
      fun hsp => ⟨(h₄.deployment?_spared hnewest hsp).trans hrow, hinit⟩,
      h₄.superseded_of_not_spares hon₂ hnewest hinit hrow⟩

/-- A loop of changes to the application that leave its store alone runs through and leaves the
store alone. -/
theorem forIn_modify_db {γ ε : Type} {l : List γ} {f : γ → App → App}
    (hf : ∀ x b, (f x b).db = b.db) (a : App) : ∃ b, (forIn l PUnit.unit fun x _ => do
        modify (f x)
        pure (ForInStep.yield PUnit.unit) : AppM ε PUnit).run.run a = (.ok PUnit.unit, b) ∧
      b.db = a.db := by
  induction l generalizing a with
  | nil => exact ⟨a, rfl, rfl⟩
  | cons x l ih =>
    obtain ⟨b, hb, hdb⟩ := ih (f x a)
    refine ⟨b, ?_, hdb.trans (hf x a)⟩
    rw [List.forIn_cons, AppM.run_bind]
    exact hb

/-- A deploy alone, superseding on, makes the two store calls of `DeployStep`: it saves its row,
then fails the other live rows keeping it; nothing else it does touches the store. -/
theorem deploy_is_save_then_supersede {req : DeployRequest} {a a' : App} {d : Deployment}
    (hon : a.settings.supersede = true) (h : (deploy req).run.run a = (.ok d, a')) :
    ∃ db ids, DeployStep a.db (.save req) (.saved d) db (.supersede d) ∧
      DeployStep db (.supersede d) (.superseded d ids) a'.db (.returned (some d)) := by
  unfold Platform.deploy at h
  simp only [AppM.run_bind, AppM.now_run, stored, store_run] at h
  cases hsave : saveDeployment req.row a.now a.db with
  | error e => rw [hsave] at h; cases h
  | ok p =>
    obtain ⟨d₁, db₁⟩ := p
    simp only [hsave, AppM.get_run, hon, if_true, AppM.run_bind, store_run] at h
    cases hsup : supersede d₁.repoId d₁.id a.now db₁ with
    | error e => rw [hsup] at h; cases h
    | ok p =>
      obtain ⟨ids, db₂⟩ := p
      rw [hsup] at h
      dsimp only at h
      obtain ⟨b, hb, hdb⟩ := forIn_modify_db (ε := RpcError)
        (f := fun id a₁ => (a₁.cancel id).publish id
          (ProgressMessage.failure id "SUPERSEDED" ("superseded by " ++ d₁.id) a.now).finished)
        (fun _ _ => rfl) { a with db := db₂ }
      replace hdb : b.db = db₂ := hdb
      rw [hb] at h
      cases h
      exact ⟨db₁, ids, .save hsave, .supersede (hdb ▸ hsup)⟩

/-- A store holding one repository, `r`. -/
def raceStore : Db :=
  { repositories := [{ id := "r", installationId := 1, vcsId := 7, fullName := "ada/app" }] }

/-- A deploy of commit `sha` of the repository of `raceStore`. -/
def raceRequest (sha : String) : DeployRequest :=
  { repo :=
      { id := "r", installationId := 1, vcsId := 7, fullName := "ada/app", workspaceId := none }
    user := "ada", workspaceHint := none, source := .checkout (.sha sha) }

/-- The row the store saves for the deploy of `sha`, under its `n`-th identifier. -/
def raceRow (n : Nat) (sha : String) : Deployment := { (raceRequest sha).row with id := idText n }

/-- `raceStore` with the rows saved by the deploys of `a`, then `b`. -/
def raceSaved : Db :=
  { raceStore with deployments := [raceRow 1 "a", raceRow 2 "b"], issued := 2 }

/-- Two deploys save, then supersede, in the same order. -/
def raceLog : List (Nat × DeployEvent) :=
  [(0, .saved (raceRow 1 "a")), (1, .saved (raceRow 2 "b")),
   (0, .superseded (raceRow 1 "a") [idText 2]), (1, .superseded (raceRow 2 "b") [idText 1])]

/-- Two deploys that save, then supersede, in the same order fail both rows: the newer one is
failed by the older deploy's supersede. -/
theorem race_fails_newest_row :
    ∃ db' ts, Interleaving DeployStep anyOrder raceStore
        ([raceRequest "a", raceRequest "b"].map .save) raceLog db' ts ∧ (∀ t ∈ ts, t.Returned) ∧
      db'.OthersFinished "r" (idText 2) ∧ db'.Superseded (raceRow 2 "b") := by
  have h₁ : Interleaving DeployStep anyOrder raceStore
      ([raceRequest "a", raceRequest "b"].map .save) [(0, .saved (raceRow 1 "a"))]
      { raceStore with deployments := [raceRow 1 "a"], issued := 1 }
      [.supersede (raceRow 1 "a"), .save (raceRequest "b")] :=
    .snoc .nil rfl trivial (@DeployStep.save _ _ _ ⟨0⟩ _ rfl)
  have h₂ : Interleaving DeployStep anyOrder raceStore
      ([raceRequest "a", raceRequest "b"].map .save)
      [(0, .saved (raceRow 1 "a")), (1, .saved (raceRow 2 "b"))] raceSaved
      [.supersede (raceRow 1 "a"), .supersede (raceRow 2 "b")] :=
    .snoc h₁ rfl trivial (@DeployStep.save _ _ _ ⟨0⟩ _ rfl)
  -- each supersede hits the one other row, still in `init`
  have hs₁ : supersede "r" (idText 1) ⟨0⟩ raceSaved =
      .ok ([idText 2], { raceSaved with
        deployments := [raceRow 1 "a", (raceRow 2 "b").superseded ⟨0⟩] }) := by
    rw [supersede_of_one_hit (e := raceRow 2 "b") (by decide)]
    rfl
  have hs₂ : supersede "r" (idText 2) ⟨0⟩
      { raceSaved with deployments := [raceRow 1 "a", (raceRow 2 "b").superseded ⟨0⟩] } =
      .ok ([idText 1], { raceSaved with
        deployments := [(raceRow 1 "a").superseded ⟨0⟩, (raceRow 2 "b").superseded ⟨0⟩] }) := by
    rw [supersede_of_one_hit (e := raceRow 1 "a") (by decide)]
    rfl
  have h₃ : Interleaving DeployStep anyOrder raceStore
      ([raceRequest "a", raceRequest "b"].map .save)
      [(0, .saved (raceRow 1 "a")), (1, .saved (raceRow 2 "b")),
       (0, .superseded (raceRow 1 "a") [idText 2])]
      { raceSaved with deployments := [raceRow 1 "a", (raceRow 2 "b").superseded ⟨0⟩] }
      [.returned (some (raceRow 1 "a")), .supersede (raceRow 2 "b")] :=
    .snoc h₂ rfl trivial (@DeployStep.supersede _ _ _ ⟨0⟩ _ hs₁)
  have h : Interleaving DeployStep anyOrder raceStore
      ([raceRequest "a", raceRequest "b"].map .save) raceLog
      { raceSaved with
        deployments := [(raceRow 1 "a").superseded ⟨0⟩, (raceRow 2 "b").superseded ⟨0⟩] }
      [.returned (some (raceRow 1 "a")), .returned (some (raceRow 2 "b"))] :=
    .snoc h₃ rfl trivial (@DeployStep.supersede _ _ _ ⟨0⟩ _ hs₂)
  have hret : ∀ t ∈ [DeployCall.returned (some (raceRow 1 "a")), .returned (some (raceRow 2 "b"))],
      t.Returned := by
    simp [DeployCall.Returned]
  obtain ⟨hfin, -, hsup⟩ := newest_row_superseded_iff_later_supersede (R := "r")
    (by simp [raceRequest]) h hret
    (show raceLog = [(0, .saved (raceRow 1 "a"))] ++ (1, .saved (raceRow 2 "b")) ::
      [(0, .superseded (raceRow 1 "a") [idText 2]), (1, .superseded (raceRow 2 "b") [idText 1])]
      from rfl)
    (by simp [DeployEvent.IsSave])
  exact ⟨_, _, h, hret, hfin,
    hsup ⟨(0, .superseded (raceRow 1 "a") [idText 2]), by simp,
      by simp [DeployEvent.Spares]; decide⟩⟩

end Shipyard.Platform
