import Shipyard.Proofs.Store.References
/-!
# Linking an installation replaces its repositories

The host reports an installation with the repositories it covers. Linking writes the
installation, then each reported repository in turn, then deletes the installation's
repositories that were not reported. What it leaves is read off the reports alone (`Linked`):
the installation covers exactly the reported repositories; each repository the store knew,
under whichever installation, keeps its identifier and its connection and takes the name,
privacy and default branch of its last report (`RepositoryRow.refreshed`); the repositories of
other installations that were not reported are untouched; and a known installation keeps its
identifier and its workspace. Linking never fails, so no part of it is ever left half written
(`linkInstallation_replaces_repositories`).

The reports are followed one at a time: a report rewrites the rows of a known repository in
place or appends a row for a new one (`putRepository_repositories`). After all of them the
known rows stand refreshed where they were, followed by one new row for each reported
repository the store did not know (`NewRows`, carried through the reports by
`foldl_putRepository_repositories`).
-/
namespace Shipyard

open Shipyard.Vcs

/-- The last report of the repository with host number `x`: the one the store is left with. -/
def lastReport (repos : List HostRepository) (x : Int) : Option HostRepository :=
  repos.reverse.find? (·.id == x)

namespace RepositoryRow

/-- A row as a report `r` under installation `installationId` rewrites it: the installation,
name, privacy and default branch are the report's; the identifier and the connection stay. -/
def reported (installationId : Int) (r : HostRepository) (row : RepositoryRow) : RepositoryRow :=
  { row with installationId, fullName := r.fullName, isPrivate := r.isPrivate,
             defaultBranch := r.defaultBranch.getD "main" }

/-- A row after a list of reports under one installation: rewritten by its last report, or as
it was when no report names it. -/
def refreshed (installationId : Int) (repos : List HostRepository) (row : RepositoryRow) :
    RepositoryRow :=
  match lastReport repos row.vcsId with
  | some r => row.reported installationId r
  | none => row

end RepositoryRow

namespace Db

/-- The host numbers of the repositories installation `vcsId` covers. -/
def coveredIds (db : Db) (vcsId : Int) : List Int :=
  (db.repositories.filter (·.installationId == vcsId)).map (·.vcsId)

/-- The repositories of installations other than `vcsId` whose host numbers are not in `ids`. -/
def otherRepositories (db : Db) (vcsId : Int) (ids : List Int) : List RepositoryRow :=
  db.repositories.filter fun row => row.installationId != vcsId && !ids.contains row.vcsId

end Db

/-- What linking installation `vcsId` of `owner` with the reports `repos` leaves: the store
`db'` after `db`, answering the installation `inst`. -/
structure Linked (vcsId : Int) (owner : String) (repos : List HostRepository) (db db' : Db)
    (inst : Installation) : Prop where
  /-- The answer is the installation the store holds under the host number. -/
  found : db'.installations.find? (·.vcsInstallationId == vcsId) = some inst
  takesOwner : inst.owner = owner
  /-- A known installation keeps its identifier and any workspace it had. -/
  kept : ∀ i, db.installations.find? (·.vcsInstallationId == vcsId) = some i →
    inst.id = i.id ∧ ∀ w, i.workspaceId = some w → inst.workspaceId = some w
  /-- The installation covers exactly the reported repositories. -/
  covers : ∀ x, x ∈ db'.coveredIds vcsId ↔ x ∈ repos.map (·.id)
  /-- Every known row of a reported repository stays, rewritten by its last report. -/
  known : ∀ row ∈ db.repositories, ∀ r, lastReport repos row.vcsId = some r →
    row.reported vcsId r ∈ db'.repositories
  /-- Every row of a reported repository holds its last report. -/
  current : ∀ row ∈ db'.repositories, row.refreshed vcsId repos = row
  /-- The repositories of other installations that were not reported are untouched. -/
  others : db'.otherRepositories vcsId (repos.map (·.id)) =
    db.otherRepositories vcsId (repos.map (·.id))

/-! ## Last reports -/

theorem lastReport_cons (r : HostRepository) (rs : List HostRepository) (x : Int) :
    lastReport (r :: rs) x = (lastReport rs x).or (if r.id = x then some r else none) := by
  simp only [lastReport, List.reverse_cons, List.find?_append, List.find?_singleton, beq_iff_eq]

theorem lastReport_eq_none_iff {repos : List HostRepository} {x : Int} :
    lastReport repos x = none ↔ x ∉ repos.map (·.id) := by
  simp [lastReport, List.find?_eq_none]

theorem exists_lastReport {repos : List HostRepository} {x : Int} (h : x ∈ repos.map (·.id)) :
    ∃ r, lastReport repos x = some r := by
  rw [← Option.isSome_iff_exists, Option.isSome_iff_ne_none, Ne, lastReport_eq_none_iff]
  exact not_not.2 h

theorem mem_of_lastReport {repos : List HostRepository} {x : Int} {r : HostRepository}
    (h : lastReport repos x = some r) : x ∈ repos.map (·.id) := by
  by_contra hx
  rw [← lastReport_eq_none_iff] at hx
  rw [hx] at h
  cases h

/-! ## Rows after reports -/

namespace RepositoryRow

variable {v : Int} {r : HostRepository} {rs repos : List HostRepository} {row : RepositoryRow}

@[simp] theorem reported_vcsId : (row.reported v r).vcsId = row.vcsId := rfl

@[simp] theorem reported_installationId : (row.reported v r).installationId = v := rfl

/-- A second report overwrites all that the first wrote. -/
@[simp] theorem reported_reported (r' : HostRepository) :
    (row.reported v r).reported v r' = row.reported v r' := rfl

@[simp] theorem refreshed_vcsId : (row.refreshed v repos).vcsId = row.vcsId := by
  unfold refreshed
  split <;> rfl

@[simp] theorem refreshed_nil : row.refreshed v [] = row := rfl

theorem refreshed_of_lastReport (h : lastReport repos row.vcsId = some r) :
    row.refreshed v repos = row.reported v r := by
  simp [refreshed, h]

theorem refreshed_of_not_mem (h : row.vcsId ∉ repos.map (·.id)) : row.refreshed v repos = row := by
  simp [refreshed, lastReport_eq_none_iff.2 h]

/-- A reported repository's row is under the installation the reports came with. -/
theorem refreshed_installationId (h : row.vcsId ∈ repos.map (·.id)) :
    (row.refreshed v repos).installationId = v := by
  obtain ⟨r, hr⟩ := exists_lastReport h
  rw [refreshed_of_lastReport hr, reported_installationId]

theorem refreshed_refreshed : (row.refreshed v repos).refreshed v repos = row.refreshed v repos := by
  cases hr : lastReport repos row.vcsId with
  | none => rw [refreshed, refreshed_vcsId, hr]
  | some r => rw [refreshed_of_lastReport (by rwa [refreshed_vcsId]), refreshed_of_lastReport hr,
      reported_reported]

/-- A report of another repository does not touch the row. -/
theorem refreshed_cons_of_ne (h : row.vcsId ≠ r.id) :
    row.refreshed v (r :: rs) = row.refreshed v rs := by
  simp only [refreshed, lastReport_cons, if_neg (Ne.symm h), Option.or_none]

/-- The row's own report, followed by later ones. -/
theorem refreshed_cons_self (h : row.vcsId = r.id) :
    row.refreshed v (r :: rs) = (row.reported v r).refreshed v rs := by
  simp only [refreshed, reported_vcsId, lastReport_cons, if_pos h.symm]
  cases lastReport rs row.vcsId <;> rfl

end RepositoryRow

open RepositoryRow

/-- Rewriting the rows of a reported repository in place, then following the later reports, is
following all the reports. -/
theorem map_refreshed_update (v : Int) (r : HostRepository) (rs : List HostRepository)
    (rows : List RepositoryRow) :
    (Db.update (·.vcsId == r.id) (reported v r) rows).map (refreshed v rs) =
      rows.map (refreshed v (r :: rs)) := by
  rw [Db.update, List.map_map]
  refine List.map_congr_left fun row _ => ?_
  by_cases h : row.vcsId = r.id
  · simp [h, refreshed_cons_self]
  · simp [h, refreshed_cons_of_ne]

/-- A report rewrites the rows of a known repository in place, or appends a row for a new one
under a fresh identifier. -/
theorem putRepository_repositories (v : Int) (db : Db) (r : HostRepository) :
    (db.putRepository v r).repositories =
      if db.repositories.any (·.vcsId == r.id) then
        Db.update (·.vcsId == r.id) (reported v r) db.repositories
      else db.repositories ++ [reported v r
        { id := Store.idText (db.issued + 1), installationId := v, vcsId := r.id,
          fullName := r.fullName }] := by
  unfold Db.putRepository
  split <;> rfl

/-! ## The rows the reports add -/

/-- The rows reports appended to a store that knew the host numbers `known`: they are reported,
were unknown, hold their last reports, and there is one for each reported repository that was
unknown. -/
structure NewRows (v : Int) (repos : List HostRepository) (known : List Int)
    (added : List RepositoryRow) : Prop where
  reported : ∀ a ∈ added, a.vcsId ∈ repos.map (·.id)
  fresh : ∀ a ∈ added, a.vcsId ∉ known
  current : ∀ a ∈ added, a.refreshed v repos = a
  cover : ∀ x ∈ repos.map (·.id), x ∉ known → ∃ a ∈ added, a.vcsId = x

namespace NewRows

variable {v : Int} {r : HostRepository} {rs : List HostRepository} {known : List Int}
  {added : List RepositoryRow}

theorem nil (v : Int) (known : List Int) : NewRows v [] known [] :=
  ⟨by simp, by simp, by simp, by simp⟩

/-- A report of a known repository adds no row. -/
theorem cons_known (h : NewRows v rs known added) (hr : r.id ∈ known) :
    NewRows v (r :: rs) known added where
  reported a ha := by
    rw [List.map_cons]
    exact List.mem_cons_of_mem _ (h.reported a ha)
  fresh := h.fresh
  current a ha := by
    have hne : a.vcsId ≠ r.id := fun he => h.fresh a ha (he ▸ hr)
    rw [refreshed_cons_of_ne hne, h.current a ha]
  cover x hx hxk := by
    rw [List.map_cons, List.mem_cons] at hx
    rcases hx with rfl | hx
    · exact absurd hr hxk
    · exact h.cover x hx hxk

/-- A report of an unknown repository adds its row, which the later reports refresh. -/
theorem cons_unknown (h : NewRows v rs (known ++ [r.id]) added) (hr : r.id ∉ known)
    (base : RepositoryRow) (hbase : base.vcsId = r.id) :
    NewRows v (r :: rs) known (base.refreshed v (r :: rs) :: added) where
  reported a ha := by
    rw [List.map_cons]
    rcases List.mem_cons.1 ha with rfl | ha
    · rw [refreshed_vcsId, hbase]
      exact List.mem_cons_self
    · exact List.mem_cons_of_mem _ (h.reported a ha)
  fresh a ha := by
    rcases List.mem_cons.1 ha with rfl | ha
    · rwa [refreshed_vcsId, hbase]
    · exact fun hk => h.fresh a ha (List.mem_append_left _ hk)
  current a ha := by
    rcases List.mem_cons.1 ha with rfl | ha
    · exact refreshed_refreshed
    · have hne : a.vcsId ≠ r.id := fun he =>
        h.fresh a ha (List.mem_append_right _ (List.mem_singleton.2 he))
      rw [refreshed_cons_of_ne hne, h.current a ha]
  cover x hx hxk := by
    by_cases hxr : x = r.id
    · exact ⟨_, List.mem_cons_self, by rw [refreshed_vcsId, hbase, hxr]⟩
    · rw [List.map_cons, List.mem_cons] at hx
      have hx' := hx.resolve_left hxr
      have hxk' : x ∉ known ++ [r.id] := by simp [hxk, hxr]
      obtain ⟨a, ha, hax⟩ := h.cover x hx' hxk'
      exact ⟨a, List.mem_cons_of_mem _ ha, hax⟩

end NewRows

/-- After a list of reports the known rows stand where they were, each refreshed by its last
report, followed by the rows the reports added. -/
theorem foldl_putRepository_repositories (v : Int) (repos : List HostRepository) (db : Db) :
    ∃ added, (repos.foldl (Db.putRepository v) db).repositories =
        db.repositories.map (refreshed v repos) ++ added ∧
      NewRows v repos (db.repositories.map (·.vcsId)) added := by
  induction repos generalizing db with
  | nil =>
    refine ⟨[], ?_, NewRows.nil v _⟩
    rw [List.foldl_nil, List.append_nil]
    conv_lhs => rw [← List.map_id db.repositories]
    exact List.map_congr_left fun _ _ => refreshed_nil.symm
  | cons r rs ih =>
    obtain ⟨added, hrows, hnew⟩ := ih (db.putRepository v r)
    rw [List.foldl_cons, hrows]
    rw [putRepository_repositories] at hnew ⊢
    split
    · -- a known repository: rewritten in place, the host numbers stay
      rename_i hknown
      rw [if_pos hknown, @map_update_of_keep RepositoryRow Int (·.vcsId == r.id) (reported v r)
        (·.vcsId) (fun _ _ => rfl)] at hnew
      exact ⟨added, by rw [map_refreshed_update], hnew.cons_known (mem_map_of_any hknown)⟩
    · -- an unknown repository: appended, and no known row is its
      rename_i hunknown
      rw [if_neg hunknown, List.map_append] at hnew
      have hr : r.id ∉ db.repositories.map (·.vcsId) := fun hr =>
        hunknown (List.any_eq_true.2 (by simpa using hr))
      have hold : db.repositories.map (refreshed v rs) =
          db.repositories.map (refreshed v (r :: rs)) :=
        List.map_congr_left fun row hrow =>
          (refreshed_cons_of_ne fun he => hr (List.mem_map.2 ⟨row, hrow, he⟩)).symm
      refine ⟨_, ?_, hnew.cons_unknown hr
        { id := Store.idText (db.issued + 1), installationId := v, vcsId := r.id,
          fullName := r.fullName } rfl⟩
      rw [List.map_append, hold, List.map_singleton, List.append_assoc, List.singleton_append,
        ← refreshed_cons_self rfl]

/-! ## The deletion of the unreported repositories -/

section Deletion

variable {v : Int} {repos : List HostRepository} {rows added : List RepositoryRow}

/-- The rows that stay when the installation's unreported repositories are deleted. -/
theorem mem_filter_unreported {row : RepositoryRow} :
    row ∈ rows.filter (fun x => !(x.installationId == v && !(repos.map (·.id)).contains x.vcsId)) ↔
      row ∈ rows ∧ (row.installationId = v → row.vcsId ∈ repos.map (·.id)) := by
  simp [List.mem_filter, Bool.not_and, imp_iff_not_or]

theorem refreshed_of_mem_reports (hnew : NewRows v repos (rows.map (·.vcsId)) added)
    {row : RepositoryRow} (h : row ∈ rows.map (refreshed v repos) ++ added) :
    row.refreshed v repos = row := by
  rcases List.mem_append.1 h with h | h
  · obtain ⟨x, -, rfl⟩ := List.mem_map.1 h
    exact refreshed_refreshed
  · exact hnew.current row h

/-- Every reported repository has a row under the installation once the reports are followed. -/
theorem exists_covered (hnew : NewRows v repos (rows.map (·.vcsId)) added) {x : Int}
    (hx : x ∈ repos.map (·.id)) :
    ∃ row ∈ rows.map (refreshed v repos) ++ added, row.installationId = v ∧ row.vcsId = x := by
  by_cases hk : x ∈ rows.map (·.vcsId)
  · obtain ⟨row, hrow, rfl⟩ := List.mem_map.1 hk
    exact ⟨row.refreshed v repos, List.mem_append_left _ (List.mem_map_of_mem hrow),
      refreshed_installationId hx, refreshed_vcsId⟩
  · obtain ⟨a, ha, rfl⟩ := hnew.cover x hx hk
    have hcur := hnew.current a ha
    exact ⟨a, List.mem_append_right _ ha, by rw [← hcur, refreshed_installationId hx], rfl⟩

/-- A row that is neither under the installation nor reported is not refreshed, and refreshing
keeps a row out of that set when it is not in it. -/
theorem other_refreshed (row : RepositoryRow) :
    ((row.refreshed v repos).installationId != v &&
      !(repos.map (·.id)).contains (row.refreshed v repos).vcsId) =
      (row.installationId != v && !(repos.map (·.id)).contains row.vcsId) := by
  by_cases hx : row.vcsId ∈ repos.map (·.id)
  · simp [refreshed_installationId hx, hx]
  · rw [refreshed_of_not_mem hx]

/-- The deletion and the reports leave the other installations' unreported rows as they were. -/
theorem filter_other_reports (hnew : NewRows v repos (rows.map (·.vcsId)) added) :
    ((rows.map (refreshed v repos) ++ added).filter
        (fun x => !(x.installationId == v && !(repos.map (·.id)).contains x.vcsId))).filter
      (fun x => x.installationId != v && !(repos.map (·.id)).contains x.vcsId) =
      rows.filter fun x => x.installationId != v && !(repos.map (·.id)).contains x.vcsId := by
  rw [List.filter_filter]
  -- an unreported row of another installation is never deleted, so the deletion drops out
  have hdel : ∀ x : RepositoryRow,
      ((x.installationId != v && !(repos.map (·.id)).contains x.vcsId) &&
        !(x.installationId == v && !(repos.map (·.id)).contains x.vcsId)) =
      (x.installationId != v && !(repos.map (·.id)).contains x.vcsId) := by
    intro x
    simp only [bne]
    cases x.installationId == v <;> simp
  simp only [hdel, List.filter_append]
  -- the added rows are all reported
  have hadded : added.filter (fun x => x.installationId != v &&
      !(repos.map (·.id)).contains x.vcsId) = [] :=
    List.filter_eq_nil_iff.2 fun a ha => by simp [hnew.reported a ha]
  rw [hadded, List.append_nil, List.filter_map]
  simp only [Function.comp_def, other_refreshed]
  conv_rhs => rw [← List.map_id (List.filter _ rows)]
  refine List.map_congr_left fun row hrow => ?_
  have hx : row.vcsId ∉ repos.map (·.id) := by
    intro hmem
    have hout := (List.mem_filter.1 hrow).2
    rw [List.contains_iff_mem.2 hmem] at hout
    simp at hout
  exact refreshed_of_not_mem hx

end Deletion

/-! ## Linking -/

open Store

/-- Writing an installation finds it under its host number with the new owner; a known one
keeps its identifier and any workspace it had. -/
theorem find?_putInstallation (db : Db) (vcsId : Int) (owner : String) :
    ∃ inst, (db.putInstallation vcsId owner).installations.find? (·.vcsInstallationId == vcsId) =
        some inst ∧ inst.owner = owner ∧
      ∀ i, db.installations.find? (·.vcsInstallationId == vcsId) = some i →
        inst.id = i.id ∧ ∀ w, i.workspaceId = some w → inst.workspaceId = some w := by
  unfold Db.putInstallation
  dsimp only
  split <;> dsimp only
  · rename_i hany
    obtain ⟨i, hi⟩ := Option.isSome_iff_exists.1 (List.find?_isSome.2 (List.any_eq_true.1 hany))
    have hpi : i.vcsInstallationId = vcsId := by simpa using List.find?_some hi
    rw [find?_update, hi]
    · refine ⟨_, rfl, by simp [hpi], fun i' hi' => ?_⟩
      obtain rfl : i = i' := Option.some.inj hi'
      refine ⟨by simp [hpi], fun w hw => ?_⟩
      simp [hpi, hw]
    · intro x
      rfl
  · rename_i hany
    have hnone : db.installations.find? (·.vcsInstallationId == vcsId) = none :=
      List.find?_eq_none.2 fun i hi hp => hany (List.any_eq_true.2 ⟨i, hi, hp⟩)
    refine ⟨_, find?_append_singleton_of_none hnone (by simp), rfl, fun i hi => ?_⟩
    rw [hnone] at hi
    cases hi

theorem Linked.of_reports {vcsId : Int} {owner : String} {repos : List HostRepository}
    {db : Db} {inst : Installation} {added : List RepositoryRow}
    (hfound : (db.putInstallation vcsId owner).installations.find?
      (·.vcsInstallationId == vcsId) = some inst) (howner : inst.owner = owner)
    (hkept : ∀ i, db.installations.find? (·.vcsInstallationId == vcsId) = some i →
      inst.id = i.id ∧ ∀ w, i.workspaceId = some w → inst.workspaceId = some w)
    (hrows : (repos.foldl (Db.putRepository vcsId) (db.putInstallation vcsId owner)).repositories =
      db.repositories.map (refreshed vcsId repos) ++ added)
    (hnew : NewRows vcsId repos (db.repositories.map (·.vcsId)) added) :
    Linked vcsId owner repos db
      (Db.dropRepositories (repos.foldl (Db.putRepository vcsId) (db.putInstallation vcsId owner))
        fun r => r.installationId == vcsId && !(repos.map (·.id)).contains r.vcsId) inst := by
  obtain ⟨rs, n, hfold⟩ := Db.foldl_putRepository vcsId repos (db.putInstallation vcsId owner)
  have hinst : (Db.dropRepositories (repos.foldl (Db.putRepository vcsId)
      (db.putInstallation vcsId owner)) fun r => r.installationId == vcsId &&
        !(repos.map (·.id)).contains r.vcsId).installations =
      (db.putInstallation vcsId owner).installations := by
    rw [hfold]
    rfl
  refine ⟨by rw [hinst, hfound], howner, hkept, fun x => ?_, fun row hrow r hr => ?_,
    fun row hrow => ?_, ?_⟩
  · -- the covered host numbers: what stays under the installation is reported, and every
    -- reported repository has a row under it that stays
    simp only [Db.coveredIds, Db.dropRepositories, hrows, List.filter_filter, List.mem_map,
      List.mem_filter]
    constructor
    · rintro ⟨row, ⟨-, hkeep⟩, rfl⟩
      simp only [Bool.and_eq_true, beq_iff_eq] at hkeep
      simpa [hkeep.1] using hkeep.2
    · intro hx
      obtain ⟨row, hrow, hv, rfl⟩ := exists_covered hnew (List.mem_map.2 hx)
      exact ⟨row, ⟨hrow, by simp [hv, hx]⟩, rfl⟩
  · have hx := mem_of_lastReport hr
    simp only [Db.dropRepositories, hrows, mem_filter_unreported]
    refine ⟨List.mem_append_left _ ?_, fun _ => hx⟩
    rw [← refreshed_of_lastReport hr]
    exact List.mem_map_of_mem hrow
  · simp only [Db.dropRepositories, hrows, mem_filter_unreported] at hrow
    exact refreshed_of_mem_reports hnew hrow.1
  · simp only [Db.otherRepositories, Db.dropRepositories, hrows]
    exact filter_other_reports hnew

/-- Linking an installation never fails. It leaves the installation covering exactly the
reported repositories: known rows keep their identifiers and connections and take their last
reports, new ones are added, the installation's other repositories are deleted, other
installations' unreported repositories are untouched, and a known installation keeps its
workspace. -/
theorem linkInstallation_replaces_repositories (vcsId : Int) (owner : String)
    (repos : List HostRepository) (db : Db) :
    ∃ inst db', linkInstallation vcsId owner repos db = .ok (inst, db') ∧
      Linked vcsId owner repos db db' inst := by
  obtain ⟨inst, hfound, howner, hkept⟩ := find?_putInstallation db vcsId owner
  obtain ⟨added, hrows, hnew⟩ :=
    foldl_putRepository_repositories vcsId repos (db.putInstallation vcsId owner)
  -- writing the installation leaves the repositories as they were
  obtain ⟨is, n, hput⟩ := Db.putInstallation_eq db vcsId owner
  have hrepos : (db.putInstallation vcsId owner).repositories = db.repositories := by rw [hput]
  rw [hrepos] at hrows hnew
  have hlinked := Linked.of_reports hfound howner hkept hrows hnew
  refine ⟨inst, _, ?_, hlinked⟩
  rw [linkInstallation_apply, getInstallation_apply, hlinked.found]

end Shipyard
