import Shipyard.Proofs.Store.Step
import Mathlib.Data.List.Forall2
/-!
# How a deployment row lives in the store

Four writers change a deployment's status: an update, which checks `DeploymentStatus.canMove`,
superseding, which fails live rows, marking rolled back, which moves `done` rows on, and the
deletions of repositories, which take rows away. Whatever the operations, a row of the store
after one of them is the row of the store before it with the same identifier, on the same
repository, by the same author, from the same rollback origin and made at the same time, whose
status stayed or made one move the rule allows; or it is a new row in `init` under an identifier
the store did not have. An update the rule forbids, or that names no row, changes nothing.

The argument says once, in `DeploymentsStep`, what an operation can do to the table: drop rows,
move every row on in place, or add a fresh row. Identifiers stay unique along every history, and
that is what lets an update's check on the first row with its identifier speak for every row
it rewrites.
-/
namespace Shipyard

namespace Deployment

/-- `e'` is the row `e` after at most one write: the columns fixed at insertion are kept, and the
status stays or makes one move the rule allows. -/
structure Next (e e' : Deployment) : Prop where
  id : e'.id = e.id
  repoId : e'.repoId = e.repoId
  userDisplayName : e'.userDisplayName = e.userDisplayName
  rolledBackFromId : e'.rolledBackFromId = e.rolledBackFromId
  createdAt : e'.createdAt = e.createdAt
  status : e'.status = e.status ∨ e.status.canMove e'.status = true

theorem Next.refl (e : Deployment) : e.Next e := ⟨rfl, rfl, rfl, rfl, rfl, .inl rfl⟩

/-- A terminal row keeps its status, or goes from `done` to `rolledBack`. -/
theorem Next.status_of_isTerminal {e e' : Deployment} (h : e.Next e')
    (ht : e.status.isTerminal = true) :
    e'.status = e.status ∨ e.status = .done ∧ e'.status = .rolledBack :=
  h.status.imp_right (DeploymentStatus.canMove_of_isTerminal ht)

theorem next_overwrite (d : Deployment) (now : Instant) {e : Deployment}
    (h : e.status.canMove d.status = true) : e.Next (d.overwrite now e) :=
  ⟨rfl, rfl, rfl, rfl, rfl, .inr h⟩

end Deployment

namespace Store

open Db (update)

section Rows

variable {l l' : List Deployment}

/-- No two rows share an identifier. -/
def IdsUnique (l : List Deployment) : Prop := (l.map (·.id)).Nodup

/-- With unique identifiers, the first row with a row's identifier is that row. -/
theorem IdsUnique.find?_id {e : Deployment} (hu : IdsUnique l) (he : e ∈ l) :
    l.find? (·.id == e.id) = some e := by
  induction l with
  | nil => cases he
  | cons x l ih =>
    unfold IdsUnique at hu
    rw [List.map_cons, List.nodup_cons] at hu
    rcases List.mem_cons.1 he with rfl | he
    · simp
    · have hx : x.id ≠ e.id := fun h => hu.1 (h ▸ List.mem_map_of_mem he)
      simp [hx, ih hu.2 he]

/-- Rows moved on in place keep their identifiers. -/
theorem ids_of_forall₂_next (h : List.Forall₂ Deployment.Next l l') :
    l'.map (·.id) = l.map (·.id) := by
  have h' : List.Forall₂ (· = ·) (l'.map (·.id)) (l.map (·.id)) := by
    rw [List.forall₂_map_left_iff, List.forall₂_map_right_iff]
    exact h.flip.imp fun _ _ hn => hn.id
  rwa [List.forall₂_eq_eq_eq] at h'

/-- A row moved on in place comes from some row. -/
theorem exists_next_of_forall₂ {e' : Deployment} (h : List.Forall₂ Deployment.Next l l')
    (he : e' ∈ l') : ∃ e ∈ l, e.Next e' := by
  induction h with
  | nil => cases he
  | @cons e e'' l l' hn _ ih =>
    rcases List.mem_cons.1 he with rfl | he
    · exact ⟨e, List.mem_cons_self, hn⟩
    · obtain ⟨x, hx, hxn⟩ := ih he
      exact ⟨x, List.mem_cons_of_mem _ hx, hxn⟩

/-- Rewriting the rows that satisfy `p` moves every row on in place, when each rewrite does. -/
theorem forall₂_next_update {p : Deployment → Bool} {f : Deployment → Deployment}
    (h : ∀ x ∈ l, p x = true → x.Next (f x)) : List.Forall₂ Deployment.Next l (update p f l) := by
  refine List.forall₂_map_right_iff.2 (List.forall₂_same.2 fun x hx => ?_)
  split
  · exact h x hx ‹_›
  · exact .refl x

end Rows

/-- What one operation can do to the deployments table. -/
inductive DeploymentsStep : List Deployment → List Deployment → Prop
  /-- Rows deleted, the others kept as they were. -/
  | drop {l l' : List Deployment} : l'.Sublist l → DeploymentsStep l l'
  /-- Every row moved on in place. -/
  | move {l l' : List Deployment} : List.Forall₂ Deployment.Next l l' → DeploymentsStep l l'
  /-- A row in `init` added under an identifier no row has. -/
  | add {l : List Deployment} (row : Deployment) : l.any (·.id == row.id) = false →
      row.status = .init → DeploymentsStep l (l ++ [row])

/-- Every row of `l'` is the row of `l` with its identifier, moved on by at most one step, or a
new row in `init` under an identifier no row of `l` has. -/
def DeploymentsFollow (l l' : List Deployment) : Prop :=
  ∀ e' ∈ l', (∃ e, l.find? (·.id == e'.id) = some e ∧ e.Next e') ∨
    (l.find? (·.id == e'.id) = none ∧ e'.status = .init)

namespace DeploymentsStep

variable {l l' : List Deployment}

theorem idsUnique (h : DeploymentsStep l l') (hu : IdsUnique l) : IdsUnique l' := by
  unfold IdsUnique at hu ⊢
  cases h with
  | drop hs => exact hu.sublist (hs.map _)
  | move hm => rwa [ids_of_forall₂_next hm]
  | add row hid _ =>
    rw [List.map_append, List.nodup_append]
    refine ⟨hu, by simp, ?_⟩
    simpa using hid

/-- Over unique identifiers, a step's rows follow the rows before it. -/
theorem follow (h : DeploymentsStep l l') (hu : IdsUnique l) : DeploymentsFollow l l' := by
  intro e' he'
  cases h with
  | drop hs => exact .inl ⟨e', hu.find?_id (hs.subset he'), .refl e'⟩
  | move hm =>
    obtain ⟨e, he, hn⟩ := exists_next_of_forall₂ hm he'
    exact .inl ⟨e, hn.id ▸ hu.find?_id he, hn⟩
  | add row hid hinit =>
    rcases List.mem_append.1 he' with he' | he'
    · exact .inl ⟨e', hu.find?_id he', .refl e'⟩
    · rw [List.mem_singleton] at he'
      subst he'
      exact .inr ⟨List.find?_eq_none.2 (by simpa using hid), hinit⟩

end DeploymentsStep

/-- What the host reports touches no deployment. -/
@[simp] theorem putInstallation_deployments (db : Db) (vcsId : Int) (owner : String) :
    (db.putInstallation vcsId owner).deployments = db.deployments := by
  unfold Db.putInstallation
  split <;> rfl

@[simp] theorem foldl_putRepository_deployments (i : Int) (repos : List Vcs.HostRepository)
    (db : Db) : (repos.foldl (Db.putRepository i) db).deployments = db.deployments := by
  obtain ⟨rs, n, h⟩ := Db.foldl_putRepository i repos db
  rw [h]

theorem dropRepositories_deployments_sublist (db : Db) (p : RepositoryRow → Bool) :
    (Db.dropRepositories db p).deployments.Sublist db.deployments :=
  List.filter_sublist

/-- Each kind of write does one of the three things to the deployments; an update rewrites only
the row it checked, since no other row has its identifier. -/
theorem Effect.deploymentsStep {db db' : Db} (h : Effect db db')
    (hu : IdsUnique db.deployments) : DeploymentsStep db.deployments db'.deployments := by
  cases h with
  | keep | addUser | addRepositories | connect | saveSecret | removeSecret | authStates
  | saveTokenPair | deleteTokenPair =>
    simpa using .drop (List.Sublist.refl _)
  | link vcsId owner repos =>
    refine .drop ((dropRepositories_deployments_sublist _ _).trans ?_)
    simp
  | dropRepositories p => exact .drop (dropRepositories_deployments_sublist db p)
  | removeInstallation vcsId => exact .drop (dropRepositories_deployments_sublist db _)
  | saveDeployment row n hid hinit _ => exact .add row hid hinit
  | updateDeployment d cur now hcur hmove =>
    refine .move (forall₂_next_update fun x hx hid => ?_)
    have hx : x = cur := by
      have hfind := hu.find?_id hx
      rw [show x.id = d.id by simpa using hid, hcur] at hfind
      exact (Option.some.inj hfind).symm
    subst hx
    exact Deployment.next_overwrite d now hmove
  | supersede repoId keep now =>
    refine .move (forall₂_next_update fun x _ hx => ?_)
    simp only [Bool.and_eq_true, Bool.not_eq_true'] at hx
    exact ⟨rfl, rfl, rfl, rfl, rfl, .inr (DeploymentStatus.canMove_failed hx.2)⟩
  | markRolledBack repoId keep now k =>
    -- the rows up to the origin are kept, the later ones rewritten
    refine .move ?_
    nth_rewrite 1 [← List.take_append_drop (k + 1) db.deployments]
    refine List.rel_append (List.forall₂_same.2 fun x _ => .refl x)
      (forall₂_next_update fun x _ hx => ?_)
    simp only [Bool.and_eq_true, beq_iff_eq] at hx
    exact ⟨rfl, rfl, rfl, rfl, rfl, .inr (by rw [hx.1.2]; rfl)⟩

theorem Op.deploymentsStep (o : Op) {db : Db} (hu : IdsUnique db.deployments) :
    DeploymentsStep db.deployments (o.apply db).deployments := by
  unfold Op.apply
  split
  · exact (Op.run_effect ‹_›).deploymentsStep hu
  · exact .drop (List.Sublist.refl _)

/-- No two deployments of a reachable store share an identifier. -/
theorem Reachable.idsUnique {db : Db} (h : Reachable db) : IdsUnique db.deployments :=
  h.of_effect List.nodup_nil fun _ _ hu he => (he.deploymentsStep hu).idsUnique hu

/-- An update is rejected when no row has its identifier or the rule forbids its move. -/
theorem updateDeployment_rejected {d : Deployment} {now : Instant} {db : Db}
    (h : ¬∃ cur, db.deployments.find? (·.id == d.id) = some cur ∧
      cur.status.canMove d.status = true) :
    updateDeployment d now db = .error .deploymentNotFound ∨
      ∃ cur, db.deployments.find? (·.id == d.id) = some cur ∧ updateDeployment d now db =
        .error (.invalidTransition d.id cur.status.text d.status.text) := by
  rw [updateDeployment_apply]
  cases hcur : db.deployments.find? (·.id == d.id) with
  | none => exact .inl rfl
  | some cur =>
    have hmove : cur.status.canMove d.status = false := by
      simpa using fun hm => h ⟨cur, hcur, hm⟩
    exact .inr ⟨cur, rfl, by simp [hmove]⟩

/-- Along every history of the store, each operation leaves every deployment row as the row with
its identifier before it, with the same repository, author, rollback origin and creation time and
a status that stayed or made one move `DeploymentStatus.canMove` allows, or as a new row in
`init`; and an update with no row to move, or a move the rule forbids, leaves the store as it
was. -/
theorem deployment_rows_follow_canMove {db : Db} (hdb : Reachable db) (o : Op) :
    DeploymentsFollow db.deployments (o.apply db).deployments ∧
      ∀ d now, (¬∃ cur, db.deployments.find? (·.id == d.id) = some cur ∧
        cur.status.canMove d.status = true) → (Op.updateDeployment d now).apply db = db := by
  have hu := hdb.idsUnique
  refine ⟨(o.deploymentsStep hu).follow hu, fun d now hrej => ?_⟩
  have hfail : ∃ e, updateDeployment d now db = .error e := by
    rcases updateDeployment_rejected hrej with he | ⟨_, _, he⟩ <;> exact ⟨_, he⟩
  obtain ⟨e, he⟩ := hfail
  exact Op.apply_of_error (by simp only [Op.run, Op.discard_eq_error]; exact he)

/-- The rule at work on the empty store, for a deployment saved into it. -/
theorem save_into_empty_store_follows :
    DeploymentsFollow ({} : Db).deployments
      ((Op.saveDeployment ⟨"", "r", {}, "", "", "", "", "", "ada", .done, none, none, ⟨0⟩, ⟨0⟩⟩
        ⟨0⟩).apply {}).deployments ∧
      ∀ d now, (¬∃ cur, ({} : Db).deployments.find? (·.id == d.id) = some cur ∧
        cur.status.canMove d.status = true) → (Op.updateDeployment d now).apply {} = {} :=
  deployment_rows_follow_canMove .empty _

end Store

end Shipyard
