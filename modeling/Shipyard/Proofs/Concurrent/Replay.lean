import Shipyard.Proofs.Concurrent.Supersede
import Shipyard.Proofs.Store.DeploymentRows
/-!
# A push delivered twice

A push of commit `S` is dispatched by reading the repository's deployments, newest first, and
deploying unless the newest `done` one is of `S`. A dispatch that reads such a list makes no
deployment, queues no run and builds nothing (`deployPush_skips_deployed_commit`).

The read and the deploy are separate store calls, and the runs the dispatches start write their
rows in store calls of their own, so the calls of several dispatches of one push and of their
runs interleave. A run is modelled by its writes of its own row, keeping its commit (a checkout
of a commit checks out that commit): whatever it does in between touches no row. Each deploy is
a save and a supersede (`DeployStep`).

What a call does to the store is said once: to the rows (`PushStep.rows`) and to the status of
one row (`PushStep.statusOf_cases`). From it, `PushSound` holds along every run: every row added
since the start is of the pushed repository and commit, so a dispatch that reads on sees none of
them `done` (`PushSound.not_done_of_read`); and a failed row stays failed
(`Interleaving.dead`).

Main statement (`replayed_push_done_twice_only_in_window`): when a dispatch saves its row after
another row of the dispatches was saved, and that older row ends `done`, the older row was not
`done` in the list the newer dispatch read, the newer dispatch's supersede did not fail it, and
the older run wrote `done` between that read and that supersede. Two deliveries of one push can
so leave two `done` deployments (`replayed_push_deploys_twice`).
-/
namespace Shipyard

/-- The status of the row of `id`, if there is one. -/
def Db.statusOf (db : Db) (id : String) : Option DeploymentStatus :=
  (db.deployment? id).map (·.status)

/-- The row of `id` is failed or rolled back: no update moves it on, so it is never `done`
again. -/
def Db.Dead (db : Db) (id : String) : Prop :=
  db.statusOf id = some .failed ∨ db.statusOf id = some .rolledBack

namespace Platform

open Shipyard.Store Shipyard.Concurrent

section Rows

variable {d x : Deployment} {now : Instant} {db db' : Db}

/-- A saved row is the row given, under its identifier, in `init`, made at `now`. -/
theorem saveDeployment_row (h : saveDeployment d now db = .ok (x, db')) :
    ∃ id, x = { d with id, status := .init, createdAt := now, updatedAt := now } := by
  rw [saveDeployment_apply] at h
  by_cases he : d.id.isEmpty <;> simp only [he, if_true, if_false, Bool.false_eq_true] at h
  all_goals
    split at h
    · cases h
      exact ⟨_, rfl⟩
    · cases h

/-- An update that goes through moved the row of its identifier by a move the rule allows, and
rewrote the rows of that identifier. -/
theorem updateDeployment_ok (h : updateDeployment d now db = .ok (x, db')) :
    ∃ cur, db.deployment? d.id = some cur ∧ cur.status.canMove d.status = true ∧
      db' = { db with
        deployments := Db.update (·.id == d.id) (d.overwrite now) db.deployments } := by
  rw [updateDeployment_apply] at h
  unfold Db.deployment?
  split at h
  · cases h
  · rename_i cur hcur
    split at h
    · cases h
      exact ⟨cur, hcur, ‹_›, rfl⟩
    · cases h

/-- A supersede answers identifiers of live rows of the repository. -/
theorem supersede_mem_ids {R keep b : String} {ids : List String}
    (h : supersede R keep now db = .ok (ids, db')) (hb : b ∈ ids) :
    ∃ e ∈ db.deployments, e.id = b ∧ e.status.isTerminal = false := by
  rw [supersede_apply] at h
  simp only [Except.ok.injEq, Prod.mk.injEq] at h
  obtain ⟨rfl, -⟩ := h
  obtain ⟨e, he, rfl⟩ := List.mem_map.1 hb
  obtain ⟨hmem, hhit⟩ := List.mem_filter.1 (List.mem_mergeSort.1 he)
  simp only [Bool.and_eq_true, Bool.not_eq_true'] at hhit
  exact ⟨e, hmem, rfl, hhit.2⟩

/-- An identifier with no row is not among the identifiers of the rows. -/
theorem not_mem_ids_of_deployment? {b : String} (h : db.deployment? b = none) :
    b ∉ db.deployments.map (·.id) := by
  intro hb
  obtain ⟨e, he, rfl⟩ := List.mem_map.1 hb
  simpa using List.find?_eq_none.1 h e he

/-- Rows rewritten in place keep the identifiers. -/
theorem ids_map {g : Deployment → Deployment} (hg : ∀ x, (g x).id = x.id) (l : List Deployment) :
    (l.map g).map (·.id) = l.map (·.id) := by
  rw [List.map_map]
  exact List.map_congr_left fun x _ => hg x

end Rows

/-- The commit of the newest `done` deployment of a list given newest first. -/
def latestDoneSha (ds : List Deployment) : Option String :=
  (ds.find? (·.status == .done)).map (·.sha)

/-- A `done` row ahead of the rest of a list, among rows all of commit `S`, makes `S` the commit
of the newest `done` one. -/
theorem latestDoneSha_of_done {A B : List Deployment} {S : String} (hA : ∀ z ∈ A, z.sha = S)
    {x : Deployment} (hx : x ∈ A) (hdone : x.status = .done) : latestDoneSha (A ++ B) = some S := by
  obtain ⟨z, hz⟩ : ∃ z, A.find? (·.status == .done) = some z :=
    Option.isSome_iff_exists.1 (List.find?_isSome.2 ⟨x, hx, by simp [hdone]⟩)
  simp [latestDoneSha, List.find?_append, hz, hA z (List.mem_of_find?_eq_some hz)]

/-- A dispatch of a push of `sha` to a known repository whose newest `done` deployment is of `sha`
changes nothing and starts no deployment. -/
theorem deployPush_skips_deployed_commit {vcsRepoId : Int} {branch sha sender : String} {a : App}
    {repo : Repository} (hrepo : getRepoByVcsId vcsRepoId a.db = .ok (repo, a.db))
    (hsha : sha ≠ "")
    (hdone : latestDoneSha ((a.db.deployments.filter (·.repoId == repo.id)).reverse) = some sha) :
    (deployPush vcsRepoId branch sha sender).run.run a = (.ok none, a) := by
  have hfound : ((((a.db.deployments.filter (·.repoId == repo.id)).reverse.find?
      (·.status == .done)).map (·.sha == sha)).getD false) = true := by
    unfold latestDoneSha at hdone
    cases hd : ((a.db.deployments.filter (·.repoId == repo.id)).reverse.find? (·.status == .done))
    · rw [hd] at hdone
      cases hdone
    · rw [hd] at hdone
      cases hdone
      simp
  have hne : sha.isEmpty = false := by simpa using hsha
  unfold deployPush attempt
  simp only [AppM.run_bind, AppM.get_run, hrepo, AppM.set_run, AppM.pure_run]
  by_cases hacc : (!repo.connected || !acceptsPush repo branch) = true
  · simp only [hacc, if_true]
    rfl
  · simp only [hacc, hne, Bool.not_false, if_true, if_false, Bool.false_eq_true, AppM.run_bind,
      stored, store_run, getDeployments_apply, hfound]
    rfl

/-- The request a dispatch of a push of commit `sha` by `sender` deploys. -/
def pushRequest (repo : Repository) (sender sha : String) : DeployRequest :=
  { repo, user := sender, workspaceHint := none, source := .checkout (.sha sha) }

/-- Where a dispatch of a push is: about to read the repository's deployments for request `req` of
commit `sha`, in its deploy, running the row it saved, or returned with the row it saved, if
any. -/
inductive PushCall where
  | read (req : DeployRequest) (sha : String)
  | deploy (t : DeployCall)
  | run (d : Deployment)
  | returned (d : Option Deployment)

namespace PushCall

/-- A dispatch after a call of its deploy: still deploying, running the row it saved, or returned
when the store refused the row. -/
def ofDeploy : DeployCall → PushCall
  | .returned (some d) => .run d
  | .returned none => .returned none
  | t => .deploy t

/-- A dispatch of a push of commit `S` to repository `R`: its request and its row are of `R` and
`S`. -/
def Of (R S : String) : PushCall → Prop
  | .read req sha => req.repo.id = R ∧ req.row.sha = S ∧ sha = S
  | .deploy (.save req) => req.repo.id = R ∧ req.row.sha = S
  | .deploy (.supersede d) | .run d => d.repoId = R ∧ d.sha = S
  | _ => True

/-- The dispatch has returned. -/
def Returned : PushCall → Prop
  | .returned _ => True
  | _ => False

end PushCall

/-- What a call of a dispatch logs: the deployments it read, a call of its deploy, a write of its
row by its run, or the end of the run. -/
inductive PushEvent where
  | read (ds : List Deployment)
  | deploy (e : DeployEvent)
  | updated (e : Deployment)
  | finished

/-- One store call of a dispatch of a push, or of the run it started, at whatever time the store's
clock then reads. -/
inductive PushStep : Db → PushCall → PushEvent → Db → PushCall → Prop
  | skip {db : Db} {req : DeployRequest} {sha : String} {ds : List Deployment} :
      getDeployments req.repo.id db = .ok (ds, db) → latestDoneSha ds = some sha →
      PushStep db (.read req sha) (.read ds) db (.returned none)
  | go {db : Db} {req : DeployRequest} {sha : String} {ds : List Deployment} :
      getDeployments req.repo.id db = .ok (ds, db) → latestDoneSha ds ≠ some sha →
      PushStep db (.read req sha) (.read ds) db (.deploy (.save req))
  | deploy {db db' : Db} {t t' : DeployCall} {l : DeployEvent} :
      DeployStep db t l db' t' → PushStep db (.deploy t) (.deploy l) db' (.ofDeploy t')
  | update {db db' : Db} {d e x : Deployment} {now : Instant} :
      e.id = d.id → e.sha = d.sha → updateDeployment e now db = .ok (x, db') →
      PushStep db (.run d) (.updated e) db' (.run d)
  | finish {db : Db} {d : Deployment} : PushStep db (.run d) .finished db (.returned (some d))

namespace PushStep

variable {db db' : Db} {t t' : PushCall} {l : PushEvent}

/-- A returned dispatch makes no call. -/
theorem not_returned {r : Option Deployment} : ¬ PushStep db (.returned r) l db' t' := by
  rintro ⟨⟩

/-- The first call of a dispatch reads the deployments of its repository and changes nothing; it
returns when the newest `done` one is of its commit, and deploys otherwise. -/
theorem read_inv {req : DeployRequest} {sha : String} (h : PushStep db (.read req sha) l db' t') :
    db' = db ∧ ∃ ds, l = .read ds ∧ getDeployments req.repo.id db = .ok (ds, db) ∧
      (latestDoneSha ds = some sha ∧ t' = .returned none ∨
        latestDoneSha ds ≠ some sha ∧ t' = .deploy (.save req)) := by
  cases h with
  | skip hds hdone => exact ⟨rfl, _, rfl, hds, .inl ⟨hdone, rfl⟩⟩
  | go hds hnew => exact ⟨rfl, _, rfl, hds, .inr ⟨hnew, rfl⟩⟩

/-- A call that logs a saved row is the save of a deploy, which goes on to supersede keeping the
row. -/
theorem saved_inv {x : Deployment} (h : PushStep db t (.deploy (.saved x)) db' t') :
    ∃ req now, t = .deploy (.save req) ∧ t' = .deploy (.supersede x) ∧
      saveDeployment req.row now db = .ok (x, db') := by
  cases h with
  | deploy hd =>
    cases hd with
    | save hs => exact ⟨_, _, rfl, rfl, hs⟩

/-- A dispatch about to supersede supersedes keeping its row, then runs it. -/
theorem supersede_inv {d : Deployment} (h : PushStep db (.deploy (.supersede d)) l db' t') :
    ∃ now ids, l = .deploy (.superseded d ids) ∧ t' = .run d ∧
      supersede d.repoId d.id now db = .ok (ids, db') := by
  cases h with
  | deploy hd =>
    cases hd with
    | supersede hs => exact ⟨_, _, rfl, rfl, hs⟩

/-- A call keeps a dispatch a dispatch of its push. -/
theorem of {R S : String} (h : PushStep db t l db' t') (ht : t.Of R S) : t'.Of R S := by
  cases h with
  | skip | finish => trivial
  | go => exact ⟨ht.1, ht.2.1⟩
  | update => exact ht
  | deploy hd =>
    cases hd with
    | save hs =>
      obtain ⟨id, rfl⟩ := saveDeployment_row hs
      exact ⟨(DeployRequest.row_repoId _).trans ht.1, ht.2⟩
    | refuse => trivial
    | supersede => exact ht

/-- What a call does to the deployments: every row rewritten in place, keeping its identifier and
repository, and its commit or that of the dispatch's running row; or the row of the dispatch's
request added under a fresh identifier. -/
theorem rows (h : PushStep db t l db' t') :
    (∃ g : Deployment → Deployment, (∀ x, (g x).id = x.id ∧ (g x).repoId = x.repoId ∧
        ((g x).sha = x.sha ∨ ∃ d, t = .run d ∧ (g x).sha = d.sha)) ∧
      db'.deployments = db.deployments.map g) ∨
    (∃ req x, t = .deploy (.save req) ∧ db.deployment? x.id = none ∧ x.repoId = req.repo.id ∧
      x.sha = req.row.sha ∧ db'.deployments = db.deployments ++ [x]) := by
  have hkeep : ∃ g : Deployment → Deployment, (∀ x, (g x).id = x.id ∧ (g x).repoId = x.repoId ∧
      ((g x).sha = x.sha ∨ ∃ d, t = .run d ∧ (g x).sha = d.sha)) ∧
      db.deployments = db.deployments.map g :=
    ⟨id, fun _ => ⟨rfl, rfl, .inl rfl⟩, List.map_id _ |>.symm⟩
  cases h with
  | skip | go | finish => exact .inl hkeep
  | deploy hd =>
    cases hd with
    | save hs =>
      obtain ⟨-, hfresh, hrows⟩ := saveDeployment_ok hs
      obtain ⟨id, rfl⟩ := saveDeployment_row hs
      exact .inr ⟨_, _, rfl, hfresh, DeployRequest.row_repoId _, rfl, hrows⟩
    | refuse => exact .inl hkeep
    | supersede hs =>
      rw [supersede_eq hs]
      refine .inl ⟨_, fun x => ?_, rfl⟩
      split <;> exact ⟨rfl, rfl, .inl rfl⟩
  | @update _ d e _ _ _ hsha hu =>
    obtain ⟨cur, -, -, rfl⟩ := updateDeployment_ok hu
    refine .inl ⟨_, fun x => ?_, rfl⟩
    split
    · exact ⟨rfl, rfl, .inr ⟨d, rfl, hsha⟩⟩
    · exact ⟨rfl, rfl, .inl rfl⟩

/-- A call adds rows after the others and keeps every identifier in its place. -/
theorem ids_prefix (h : PushStep db t l db' t') :
    db.deployments.map (·.id) <+: db'.deployments.map (·.id) := by
  rcases h.rows with ⟨g, hg, hrows⟩ | ⟨_, _, -, -, -, -, hrows⟩
  · have hids := ids_map (fun x => (hg x).1) db.deployments
    rw [← hrows] at hids
    exact hids ▸ List.prefix_refl _
  · rw [hrows, List.map_append]
    exact List.prefix_append _ _

/-- What a call does to the status of one row: nothing; a row added in `init`; a live row failed
by a supersede; or a move the rule allows, made by the run of the row. -/
theorem statusOf_cases (h : PushStep db t l db' t') (b : String) :
    db'.statusOf b = db.statusOf b ∨
    (db.statusOf b = none ∧ db'.statusOf b = some .init) ∨
    (∃ st, db.statusOf b = some st ∧ st.isTerminal = false ∧ db'.statusOf b = some .failed) ∨
    (∃ e st, l = .updated e ∧ e.id = b ∧ db.statusOf b = some st ∧
      st.canMove e.status = true ∧ db'.statusOf b = some e.status) := by
  cases h with
  | skip | go | finish => exact .inl rfl
  | deploy hd =>
    cases hd with
    | @save _ _ _ x hs =>
      obtain ⟨hinit, -, hrows⟩ := saveDeployment_ok hs
      unfold Db.statusOf Db.deployment?
      rw [hrows, List.find?_append]
      cases hfind : db.deployments.find? (·.id == b) with
      | some y => exact .inl rfl
      | none =>
        by_cases hx : x.id = b
        · exact .inr (.inl ⟨rfl, by simp [hx, hinit]⟩)
        · exact .inl (by simp [hx])
    | refuse => exact .inl rfl
    | @supersede _ d now _ hs =>
      unfold Db.statusOf
      rw [deployment?_supersede hs]
      cases hfind : db.deployment? b with
      | none => exact .inl rfl
      | some y =>
        cases hhit : (y.repoId == d.repoId && y.id != d.id && !y.status.isTerminal)
        · exact .inl (by simp only [Option.map_some, hhit, Bool.false_eq_true, if_false])
        · refine .inr (.inr (.inl ⟨y.status, rfl, ?_, ?_⟩))
          · simp only [Bool.and_eq_true, Bool.not_eq_true'] at hhit
            exact hhit.2
          · simp only [Option.map_some, hhit, if_true]
            rfl
  | @update _ d e _ now _ _ hu =>
    obtain ⟨cur, hcur, hmove, rfl⟩ := updateDeployment_ok hu
    by_cases hb : e.id = b
    · subst hb
      refine .inr (.inr (.inr ⟨e, cur.status, rfl, rfl, by simp [Db.statusOf, hcur], hmove, ?_⟩))
      simp [Db.statusOf, deployment?_overwrite hcur, Deployment.overwrite]
    · refine .inl ?_
      unfold Db.statusOf Db.deployment?
      dsimp only
      rw [find?_update_of_spared (f := e.overwrite now) (fun _ => rfl) fun x hx => ?_]
      rw [beq_iff_eq.1 hx]
      exact beq_false_of_ne (Ne.symm hb)

/-- A failed or rolled-back row stays so: a supersede spares it and the rule lets no update move
it. -/
theorem dead {b : String} (h : PushStep db t l db' t') (hd : db.Dead b) : db'.Dead b := by
  rcases h.statusOf_cases b with
    h' | ⟨hnone, -⟩ | ⟨st, hst, hlive, -⟩ | ⟨e, st, -, -, hst, hmove, -⟩
  · rwa [Db.Dead, h']
  · rcases hd with hd | hd <;> simp [hd] at hnone
  · rcases hd with hd | hd <;> rw [hd] at hst <;> cases hst <;> cases hlive
  · rcases hd with hd | hd <;> rw [hd] at hst <;> cases hst <;>
      exact absurd (DeploymentStatus.canMove_of_isTerminal rfl hmove).1 (by decide)

/-- A row that is there stays there. -/
theorem isSome_statusOf {b : String} (h : PushStep db t l db' t') (hb : (db.statusOf b).isSome) :
    (db'.statusOf b).isSome := by
  rcases h.statusOf_cases b with h' | ⟨_, h'⟩ | ⟨_, _, _, h'⟩ | ⟨_, _, _, _, _, _, h'⟩ <;>
    simp [h', hb]

/-- A row that turns `done` is moved there by an update that this call logs. -/
theorem updated_of_done {b : String} (h : PushStep db t l db' t')
    (hnot : db.statusOf b ≠ some .done) (hdone : db'.statusOf b = some .done) :
    ∃ e, l = .updated e ∧ e.id = b ∧ e.status = .done := by
  rcases h.statusOf_cases b with h' | ⟨-, h'⟩ | ⟨-, -, -, h'⟩ | ⟨e, -, hl, hb, -, -, h'⟩
  · exact absurd (h'.symm.trans hdone) hnot
  · rw [h'] at hdone
    cases hdone
  · rw [h'] at hdone
    cases hdone
  · rw [h'] at hdone
    exact ⟨e, hl, hb, Option.some.inj hdone⟩

end PushStep

/-- What every state of dispatches of a push of commit `S` to repository `R`, run from the store
`db₀`, keeps: every dispatch is of `R` and `S`, identifiers are unique, the rows of `db₀` keep
their places and identifiers, and every row added since is of `R` and `S`. -/
structure PushSound (db₀ : Db) (R S : String) (db : Db) (ts : List PushCall) : Prop where
  calls : ∀ t ∈ ts, t.Of R S
  unique : IdsUnique db.deployments
  kept : db₀.deployments.map (·.id) <+: db.deployments.map (·.id)
  added : ∀ x ∈ db.deployments.drop db₀.deployments.length, x.repoId = R ∧ x.sha = S

namespace PushSound

variable {db₀ db db' : Db} {R S : String} {ts : List PushCall}

theorem init (hu : IdsUnique db₀.deployments) (hts : ∀ t ∈ ts, t.Of R S) :
    PushSound db₀ R S db₀ ts :=
  ⟨hts, hu, List.prefix_refl _, by simp⟩

/-- Every call keeps `PushSound`. -/
theorem step {i : Nat} {t t' : PushCall} {l : PushEvent} (hs : PushSound db₀ R S db ts)
    (ht : ts[i]? = some t) (h : PushStep db t l db' t') : PushSound db₀ R S db' (ts.set i t') := by
  have hof := hs.calls t (List.mem_of_getElem? ht)
  have hcalls : ∀ u ∈ ts.set i t', u.Of R S := fun u hu => by
    rcases List.mem_or_eq_of_mem_set hu with hu | rfl
    · exact hs.calls u hu
    · exact h.of hof
  have hlen : db₀.deployments.length ≤ db.deployments.length := by
    simpa using hs.kept.length_le
  rcases h.rows with ⟨g, hg, hrows⟩ | ⟨req, x, rfl, hfresh, hR, hS, hrows⟩
  · -- rows rewritten in place
    have hids := ids_map (fun x => (hg x).1) db.deployments
    refine ⟨hcalls, ?_, ?_, fun y hy => ?_⟩
    · unfold IdsUnique
      rw [hrows, hids]
      exact hs.unique
    · rw [hrows, hids]
      exact hs.kept
    · rw [hrows, ← List.map_drop] at hy
      obtain ⟨z, hz, rfl⟩ := List.mem_map.1 hy
      obtain ⟨hzR, hzS⟩ := hs.added z hz
      obtain ⟨-, hgR, hgS⟩ := hg z
      refine ⟨hgR.trans hzR, ?_⟩
      rcases hgS with hgS | ⟨d, rfl, hgS⟩
      · exact hgS.trans hzS
      · exact hgS.trans hof.2
  · -- a row of the dispatch added
    refine ⟨hcalls, ?_, ?_, fun y hy => ?_⟩
    · unfold IdsUnique
      rw [hrows, List.map_append, List.nodup_append]
      refine ⟨hs.unique, by simp, fun a ha b hb hab => not_mem_ids_of_deployment? hfresh ?_⟩
      rw [List.mem_singleton.1 hb] at hab
      rwa [hab] at ha
    · rw [hrows, List.map_append]
      exact hs.kept.trans (List.prefix_append _ _)
    · rw [hrows, List.drop_append_of_le_length hlen] at hy
      rcases List.mem_append.1 hy with hy | hy
      · exact hs.added y hy
      · rw [List.mem_singleton.1 hy]
        exact ⟨hR.trans hof.1, hS.trans hof.2⟩

/-- A row not among the rows of `db₀` was added since. -/
theorem mem_added (hs : PushSound db₀ R S db ts) {x : Deployment} (hx : x ∈ db.deployments)
    (hnew : x.id ∉ db₀.deployments.map (·.id)) :
    x ∈ db.deployments.drop db₀.deployments.length := by
  rw [← List.take_append_drop db₀.deployments.length db.deployments] at hx
  rcases List.mem_append.1 hx with hx | hx
  · refine absurd ?_ hnew
    have hkept := List.prefix_iff_eq_take.1 hs.kept
    rw [hkept, List.length_map, ← List.map_take]
    exact List.mem_map_of_mem hx
  · exact hx

/-- A dispatch that reads on sees no row added since `db₀` `done`: the newest `done` row would be
such a row, of the pushed commit. -/
theorem not_done_of_read (hs : PushSound db₀ R S db ts)
    (hnew : latestDoneSha ((db.deployments.filter (·.repoId == R)).reverse) ≠ some S)
    {x : Deployment} (hx : x ∈ db.deployments) (hid : x.id ∉ db₀.deployments.map (·.id)) :
    x.status ≠ .done := by
  intro hdone
  have hadded := hs.mem_added hx hid
  apply hnew
  rw [← List.take_append_drop db₀.deployments.length db.deployments, List.filter_append,
    List.reverse_append]
  refine latestDoneSha_of_done (fun z hz => ?_) (x := x) ?_ hdone
  · exact (hs.added z (List.mem_filter.1 (List.mem_reverse.1 hz)).1).2
  · simp [hadded, (hs.added x hadded).1]

end PushSound

end Platform

end Shipyard

namespace Shipyard.Concurrent.Interleaving

open Shipyard.Platform Shipyard.Store

section Pushes

variable {admits : Admits PushCall} {db db' : Db} {ts ts' : List PushCall}
  {log : List (Nat × PushEvent)}

/-- `PushSound` holds along every run. -/
theorem pushSound {db₀ : Db} {R S : String} (h : Interleaving PushStep admits db ts log db' ts')
    (h₀ : PushSound db₀ R S db ts) : PushSound db₀ R S db' ts' :=
  h.inv h₀ fun _ _ _ _ _ _ _ _ hs ht _ hstep => hs.step ht hstep

/-- Rows keep their places and identifiers along every run. -/
theorem ids_prefix (h : Interleaving PushStep admits db ts log db' ts') :
    db.deployments.map (·.id) <+: db'.deployments.map (·.id) := by
  induction h with
  | nil => exact List.prefix_refl _
  | snoc _ _ _ hs ih => exact ih.trans hs.ids_prefix

/-- A failed or rolled-back row stays so along every run. -/
theorem dead {b : String} (h : Interleaving PushStep admits db ts log db' ts') (hd : db.Dead b) :
    db'.Dead b :=
  h.shared_inv hd fun _ _ _ _ _ hd hs => hs.dead hd

/-- A row that is there stays there along every run. -/
theorem isSome_statusOf {b : String} (h : Interleaving PushStep admits db ts log db' ts')
    (hb : (db.statusOf b).isSome) : (db'.statusOf b).isSome :=
  h.shared_inv hb fun _ _ _ _ _ hb hs => hs.isSome_statusOf hb

/-- A row that turns `done` along a run is moved there by an update the run logs. -/
theorem updated_of_done {b : String} (h : Interleaving PushStep admits db ts log db' ts')
    (hnot : db.statusOf b ≠ some .done) (hdone : db'.statusOf b = some .done) :
    ∃ k e, (k, .updated e) ∈ log ∧ e.id = b ∧ e.status = .done := by
  induction h with
  | nil => exact absurd hdone hnot
  | @snoc s₁ _ _ _ k _ _ _ _ _ _ hs ih =>
    by_cases h₁ : s₁.statusOf b = some .done
    · obtain ⟨k', e, he, hb, hst⟩ := ih h₁
      exact ⟨k', e, List.mem_append_left _ he, hb, hst⟩
    · obtain ⟨e, rfl, hb, hst⟩ := hs.updated_of_done h₁ hdone
      exact ⟨k, e, List.mem_append_right _ (List.mem_singleton_self _), hb, hst⟩

/-- A row saved along a run has an identifier that no row of the start had, and is there at the
end. -/
theorem saved_row {k : Nat} {x : Deployment} (h : Interleaving PushStep admits db ts log db' ts')
    (hk : (k, .deploy (.saved x)) ∈ log) :
    x.id ∉ db.deployments.map (·.id) ∧ (db'.statusOf x.id).isSome := by
  induction h with
  | nil => cases hk
  | @snoc s₁ s₂ _ _ _ _ _ _ h₁ _ _ hs ih =>
    rcases List.mem_append.1 hk with hk | hk
    · obtain ⟨hnew, hsome⟩ := ih hk
      exact ⟨hnew, hs.isSome_statusOf hsome⟩
    · obtain ⟨-, rfl⟩ := Prod.mk.inj (List.mem_singleton.1 hk)
      obtain ⟨_, _, -, -, hsave⟩ := hs.saved_inv
      refine ⟨fun hx => not_mem_ids_of_deployment? (saveDeployment_ok hsave).2.1
        (h₁.ids_prefix.subset hx), ?_⟩
      simp [Db.statusOf, deployment?_saveDeployment hsave]

/-- A dispatch that got from its read to its save read on: the log splits at its read, made at a
store where its repository's newest `done` row is not of its commit. -/
theorem read_of_save_pending {j : Nat} {req req' : DeployRequest} {sha : String}
    (h : Interleaving PushStep admits db ts log db' ts') (h₀ : ts[j]? = some (.read req sha))
    (hend : ts'[j]? = some (.deploy (.save req'))) :
    ∃ pre ds mid s₁ ts₁, log = pre ++ (j, .read ds) :: mid ∧
      Interleaving PushStep admits db ts pre s₁ ts₁ ∧
      getDeployments req.repo.id s₁ = .ok (ds, s₁) ∧ latestDoneSha ds ≠ some sha ∧
      Interleaving PushStep admits s₁ (ts₁.set j (.deploy (.save req))) mid db' ts' := by
  have hmoved : ts'[j]? ≠ ts[j]? := by
    rw [h₀, hend]
    intro heq
    cases heq
  obtain ⟨l, hl⟩ := h.exists_call_of_moved hmoved
  obtain ⟨pre, _, mid, s₁, ts₁, _, _, _, rfl, _, hpre, ht, ht₁, _, hs, hmid⟩ := h.first_call hl
  rw [h₀] at ht
  cases ht
  have hj :=
    List.getElem?_set_self (a := PushCall.returned none) (List.getElem?_eq_some_iff.1 ht₁).1
  obtain ⟨rfl, ds, rfl, hds, ⟨-, rfl⟩ | ⟨hnew, rfl⟩⟩ := hs.read_inv
  · -- a dispatch that skipped has returned, and stays so
    have hstays := hmid.getElem?_of_not_mem
      (hmid.not_mem_of_stuck hj fun _ _ _ _ => PushStep.not_returned)
    rw [hend, hj] at hstays
    cases hstays
  · exact ⟨pre, ds, mid, _, ts₁, rfl, hpre, hds, hnew, hmid⟩

/-- A dispatch about to supersede that has returned by the end of a run superseded: the log splits
at its supersede. -/
theorem supersede_of_returned {j : Nat} {d : Deployment}
    (h : Interleaving PushStep admits db ts log db' ts')
    (h₀ : ts[j]? = some (.deploy (.supersede d))) (hend : ∀ t, ts'[j]? = some t → t.Returned) :
    ∃ mid now ids post s₁ ts₁ s₂, log = mid ++ (j, .deploy (.superseded d ids)) :: post ∧
      Interleaving PushStep admits db ts mid s₁ ts₁ ∧ ts₁[j]? = some (.deploy (.supersede d)) ∧
      supersede d.repoId d.id now s₁ = .ok (ids, s₂) ∧
      Interleaving PushStep admits s₂ (ts₁.set j (.run d)) post db' ts' := by
  have hmoved : ts'[j]? ≠ ts[j]? := fun heq => hend _ (heq.trans h₀)
  obtain ⟨l, hl⟩ := h.exists_call_of_moved hmoved
  obtain ⟨mid, _, post, s₁, ts₁, s₂, _, _, rfl, _, hmid, ht, ht₁, _, hs, hpost⟩ := h.first_call hl
  rw [h₀] at ht
  cases ht
  obtain ⟨now, ids, rfl, rfl, hsup⟩ := hs.supersede_inv
  exact ⟨mid, now, ids, post, s₁, ts₁, s₂, rfl, hmid, ht₁, hsup, hpost⟩

end Pushes

end Shipyard.Concurrent.Interleaving

namespace Shipyard.Platform

open Shipyard.Store Shipyard.Concurrent

/-- A finished status short of `done` is failed or rolled back. -/
theorem DeploymentStatus.eq_failed_or_rolledBack {st : DeploymentStatus}
    (ht : st.isTerminal = true) (hne : st ≠ .done) : st = .failed ∨ st = .rolledBack := by
  cases st <;> simp_all [DeploymentStatus.isTerminal]

/-- A supersede keeping another row of the repository, at a store where a row added since `db₀`
is there and after which that row is not failed or rolled back, finds that row `done` and spares
it. -/
theorem supersede_spares_done_row {db₀ db db₁ : Db} {R S b : String} {ts : List PushCall}
    {d : Deployment} {now : Instant} {ids : List String} (hs : PushSound db₀ R S db ts)
    (hsup : supersede R d.id now db = .ok (ids, db₁)) (hb : b ≠ d.id)
    (hnew : b ∉ db₀.deployments.map (·.id)) (hthere : (db.statusOf b).isSome)
    (hlive : ¬ db₁.Dead b) : db.statusOf b = some .done ∧ b ∉ ids := by
  obtain ⟨y, hy⟩ := Option.isSome_iff_exists.1 (by simpa [Db.statusOf] using hthere)
  have hyid : y.id = b := deployment?_id hy
  have hymem : y ∈ db.deployments := List.mem_of_find?_eq_some hy
  have hyR : y.repoId = R := (hs.added y (hs.mem_added hymem (hyid ▸ hnew))).1
  have hdone : y.status = .done := by
    by_contra hne
    apply hlive
    cases hterm : y.status.isTerminal
    · -- a live row is failed by the supersede
      left
      simp [Db.statusOf, deployment?_supersede_live hsup hy hyR hb hterm, Deployment.superseded]
    · -- a finished row short of `done` is spared as it is
      have hsame := deployment?_supersede_finished hsup hy hterm
      rcases DeploymentStatus.eq_failed_or_rolledBack hterm hne with hst | hst
      · exact .inl (by simp [Db.statusOf, hsame, hst])
      · exact .inr (by simp [Db.statusOf, hsame, hst])
  refine ⟨by simp [Db.statusOf, hy, hdone], fun hmem => ?_⟩
  -- a row the supersede hit is live, and identifiers are unique
  obtain ⟨e, he, heid, hlive'⟩ := supersede_mem_ids hsup hmem
  have hfind : db.deployment? b = some e := heid ▸ hs.unique.find?_id he
  rw [hy] at hfind
  cases hfind
  rw [hdone] at hlive'
  cases hlive'

/-- Dispatches of a push of a non-empty commit `S`, delivered any number of times, run with the
runs they start in any interleaving of their store calls from a store with unique identifiers: a
dispatch that reads the newest `done` deployment at `S` makes no deployment and leaves the
application as it was; and once all have returned, when a dispatch saved its row `d₂` after
another row `d₁` of the dispatches was saved and `d₁` ends `done`, the list the dispatch read did
not show `d₁` `done`, its supersede did not fail `d₁`, and a run wrote `d₁` `done` between that
read and that supersede. So both rows end `done` only when the older run finishes in that
window. -/
theorem replayed_push_done_twice_only_in_window {repo : Repository} {sender S : String}
    (hS : S ≠ "") :
    (∀ {vcsRepoId : Int} {branch : String} {a : App},
      getRepoByVcsId vcsRepoId a.db = .ok (repo, a.db) →
      latestDoneSha ((a.db.deployments.filter (·.repoId == repo.id)).reverse) = some S →
      (deployPush vcsRepoId branch S sender).run.run a = (.ok none, a)) ∧
    (∀ {n : Nat} {db₀ db' : Db} {log l₁ l₂ : List (Nat × PushEvent)} {ts' : List PushCall}
      {i j : Nat} {d₁ d₂ : Deployment},
      IdsUnique db₀.deployments →
      Interleaving PushStep anyOrder db₀ (List.replicate n (.read (pushRequest repo sender S) S))
        log db' ts' →
      (∀ t ∈ ts', t.Returned) →
      log = l₁ ++ (j, .deploy (.saved d₂)) :: l₂ → (i, .deploy (.saved d₁)) ∈ l₁ →
      db'.statusOf d₁.id = some .done →
      ∃ pre ds mid ids post,
        log = pre ++ (j, .read ds) :: (mid ++ (j, .deploy (.superseded d₂ ids)) :: post) ∧
        (∀ x ∈ ds, x.id = d₁.id → x.status ≠ .done) ∧ d₁.id ∉ ids ∧
        ∃ k e, (k, .updated e) ∈ mid ∧ e.id = d₁.id ∧ e.status = .done) := by
  refine ⟨fun hrepo hdone => deployPush_skips_deployed_commit hrepo hS hdone, ?_⟩
  intro n db₀ db' log l₁ l₂ ts' i j d₁ d₂ hu h hret hlog hold hdone
  subst hlog
  have h₀ : PushSound db₀ repo.id S db₀
      (List.replicate n (.read (pushRequest repo sender S) S)) :=
    .init hu fun t ht => by
      rw [List.eq_of_mem_replicate ht]
      exact ⟨rfl, rfl, rfl⟩
  -- the calls before the newer row's save, that save, and the calls after it
  obtain ⟨sQ, tsQ, hA, hB⟩ := h.split
  rw [← List.singleton_append] at hB
  obtain ⟨sQ', tsQ', hsave, hC⟩ := hB.split
  obtain ⟨t, t', ht, -, hst, rfl⟩ := hsave.of_single
  obtain ⟨req', now, rfl, rfl, hs⟩ := hst.saved_inv
  have hj : j < n := by
    have hlt := (List.getElem?_eq_some_iff.1 ht).1
    rwa [hA.length_eq, List.length_replicate] at hlt
  -- the older row has an identifier new since the start, and is there at the newer one's save
  obtain ⟨hnew₁, hthere⟩ := hA.saved_row hold
  have hne : d₁.id ≠ d₂.id := by
    intro heq
    obtain ⟨-, hfresh, -⟩ := saveDeployment_ok hs
    rw [heq] at hthere
    simp [Db.statusOf, hfresh] at hthere
  have hsQ := hA.pushSound h₀
  -- the newer dispatch read on before its save, and superseded after it
  obtain ⟨pre, ds, midR, s₁, ts₁, rfl, hpre, hds, hread, hmidR⟩ :=
    hA.read_of_save_pending (by rw [List.getElem?_replicate, if_pos hj]) ht
  obtain ⟨midS, now', ids, post, sU, tsU, sU', rfl, hmidS, htU, hsup, hpost⟩ :=
    hC.supersede_of_returned (List.getElem?_set_self (List.getElem?_eq_some_iff.1 ht).1)
      fun t ht' => hret t (List.mem_of_getElem? ht')
  have hds' : ds = (s₁.deployments.filter (·.repoId == repo.id)).reverse := by
    rw [getDeployments_apply] at hds
    cases hds
    rfl
  rw [hds'] at hread
  -- at the read, no row added since the start is `done`
  have hs₁ := hpre.pushSound h₀
  have hnotdone₁ : s₁.statusOf d₁.id ≠ some .done := by
    intro hd₁
    obtain ⟨y, hy, hyst⟩ := Option.map_eq_some_iff.1 hd₁
    exact hs₁.not_done_of_read hread (List.mem_of_find?_eq_some hy)
      ((deployment?_id hy).symm ▸ hnew₁) hyst
  -- at the supersede, the older row is there and `done`, and it stays out of the failed ones
  have hsU := hmidS.pushSound (hsQ.step ht hst)
  have hR : d₂.repoId = repo.id := (hsU.calls _ (List.mem_of_getElem? htU)).1
  have hlive : ¬ sU'.Dead d₁.id := fun hd => by
    rcases hpost.dead hd with hd | hd <;> rw [hd] at hdone <;> cases hdone
  obtain ⟨hdoneU, hspared⟩ := supersede_spares_done_row hsU (hR ▸ hsup) hne hnew₁
    (hmidS.isSome_statusOf (hst.isSome_statusOf hthere)) hlive
  obtain ⟨k, e, hk, he⟩ := ((hmidR.trans (Interleaving.single ht trivial hst)).trans
    hmidS).updated_of_done hnotdone₁ hdoneU
  refine ⟨pre, ds, midR ++ (j, .deploy (.saved d₂)) :: midS, ids, post, by simp, ?_, hspared,
    k, e, by simpa using hk, he⟩
  intro x hx hxid
  rw [hds'] at hx
  exact hs₁.not_done_of_read hread (List.mem_filter.1 (List.mem_reverse.1 hx)).1 (hxid ▸ hnew₁)

/-- A dispatch of a push of commit `a` of the repository of `raceStore` by its owner. -/
def replayDispatch : PushCall := .read (pushRequest (raceRequest "a").repo "ada" "a") "a"

/-- The `n`-th row saved for commit `a`, moved to `done` by its run. -/
def replayDone (n : Nat) : Deployment := { raceRow n "a" with status := .done }

/-- Two dispatches of one push: the first reads, saves, supersedes; the second reads while the
first row is still in `init`; the first run finishes; the second dispatch saves and supersedes,
and its run finishes. -/
def replayLog : List (Nat × PushEvent) :=
  [(0, .read []), (0, .deploy (.saved (raceRow 1 "a"))),
   (0, .deploy (.superseded (raceRow 1 "a") [])), (1, .read [raceRow 1 "a"]),
   (0, .updated (replayDone 1)), (1, .deploy (.saved (raceRow 2 "a"))),
   (1, .deploy (.superseded (raceRow 2 "a") [])), (1, .updated (replayDone 2)),
   (0, .finished), (1, .finished)]

/-- `raceStore` with the first row saved. -/
def replayOne : Db := { raceStore with deployments := [raceRow 1 "a"], issued := 1 }

/-- `raceStore` with the first row `done` and the second saved. -/
def replayTwo : Db := { raceStore with deployments := [replayDone 1, raceRow 2 "a"], issued := 2 }

/-- Two deliveries of one push can leave two `done` deployments: in `replayLog` the first run
finishes between the second dispatch's read and its supersede, and the window of
`replayed_push_done_twice_only_in_window` is that stretch. -/
theorem replayed_push_deploys_twice :
    ∃ db' ts, Interleaving PushStep anyOrder raceStore (List.replicate 2 replayDispatch) replayLog
        db' ts ∧ (∀ t ∈ ts, t.Returned) ∧
      db'.statusOf (idText 1) = some .done ∧ db'.statusOf (idText 2) = some .done ∧
      ∃ pre ds mid ids post,
        replayLog = pre ++ (1, .read ds) ::
          (mid ++ (1, .deploy (.superseded (raceRow 2 "a") ids)) :: post) ∧
        (∀ x ∈ ds, x.id = idText 1 → x.status ≠ .done) ∧ idText 1 ∉ ids ∧
        ∃ k e, (k, .updated e) ∈ mid ∧ e.id = idText 1 ∧ e.status = .done := by
  let req := pushRequest (raceRequest "a").repo "ada" "a"
  have h₁ : Interleaving PushStep anyOrder raceStore (List.replicate 2 replayDispatch)
      [(0, .read [])] raceStore [.deploy (.save req), replayDispatch] :=
    .snoc .nil rfl trivial (.go rfl (by decide))
  have h₂ : Interleaving PushStep anyOrder raceStore (List.replicate 2 replayDispatch)
      (replayLog.take 2) replayOne [.deploy (.supersede (raceRow 1 "a")), replayDispatch] :=
    .snoc h₁ rfl trivial (.deploy (@DeployStep.save _ _ _ ⟨0⟩ _ rfl))
  have h₃ : Interleaving PushStep anyOrder raceStore (List.replicate 2 replayDispatch)
      (replayLog.take 3) replayOne [.run (raceRow 1 "a"), replayDispatch] :=
    .snoc h₂ rfl trivial
      (.deploy (@DeployStep.supersede _ _ _ ⟨0⟩ _ (supersede_of_no_hit (by decide))))
  have h₄ : Interleaving PushStep anyOrder raceStore (List.replicate 2 replayDispatch)
      (replayLog.take 4) replayOne [.run (raceRow 1 "a"), .deploy (.save req)] :=
    .snoc h₃ rfl trivial (.go rfl (by decide))
  have h₅ : Interleaving PushStep anyOrder raceStore (List.replicate 2 replayDispatch)
      (replayLog.take 5) { replayOne with deployments := [replayDone 1] }
      [.run (raceRow 1 "a"), .deploy (.save req)] :=
    .snoc h₄ rfl trivial (@PushStep.update _ _ _ _ (replayDone 1) ⟨0⟩ rfl rfl rfl)
  have h₆ : Interleaving PushStep anyOrder raceStore (List.replicate 2 replayDispatch)
      (replayLog.take 6) replayTwo [.run (raceRow 1 "a"), .deploy (.supersede (raceRow 2 "a"))] :=
    .snoc h₅ rfl trivial (.deploy (@DeployStep.save _ _ _ ⟨0⟩ _ rfl))
  have h₇ : Interleaving PushStep anyOrder raceStore (List.replicate 2 replayDispatch)
      (replayLog.take 7) replayTwo [.run (raceRow 1 "a"), .run (raceRow 2 "a")] :=
    .snoc h₆ rfl trivial
      (.deploy (@DeployStep.supersede _ _ _ ⟨0⟩ _ (supersede_of_no_hit (by decide))))
  have h₈ : Interleaving PushStep anyOrder raceStore (List.replicate 2 replayDispatch)
      (replayLog.take 8) { replayTwo with deployments := [replayDone 1, replayDone 2] }
      [.run (raceRow 1 "a"), .run (raceRow 2 "a")] :=
    .snoc h₇ rfl trivial (@PushStep.update _ _ _ _ (replayDone 2) ⟨0⟩ rfl rfl rfl)
  have h : Interleaving PushStep anyOrder raceStore (List.replicate 2 replayDispatch) replayLog
      { replayTwo with deployments := [replayDone 1, replayDone 2] }
      [.returned (some (raceRow 1 "a")), .returned (some (raceRow 2 "a"))] :=
    .snoc (.snoc h₈ rfl trivial .finish) rfl trivial .finish
  have hret : ∀ t ∈ [PushCall.returned (some (raceRow 1 "a")), .returned (some (raceRow 2 "a"))],
      t.Returned := by
    simp [PushCall.Returned]
  have hdone₁ : Db.statusOf { replayTwo with deployments := [replayDone 1, replayDone 2] }
      (idText 1) = some .done := by decide
  refine ⟨_, _, h, hret, hdone₁, by decide, ?_⟩
  exact (replayed_push_done_twice_only_in_window (by decide)).2
    (show IdsUnique raceStore.deployments from List.nodup_nil) h hret
    (show replayLog = replayLog.take 5 ++ (1, .deploy (.saved (raceRow 2 "a"))) :: replayLog.drop 6
      from rfl)
    (show (0, .deploy (.saved (raceRow 1 "a"))) ∈ replayLog.take 5 from .tail _ (.head _)) hdone₁

end Shipyard.Platform
