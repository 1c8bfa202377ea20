import Shipyard.Proofs.Platform.View
/-!
# References between the tables of the store

A row that names a row of another table names one the store holds (`Db.References`): a
repository names its installation by host number, a deployment and a secret key name their
repository, and a pair of host tokens names its user. The writes check a reference before they
add it, a repository is written only under an installation written first, and deleting a row
deletes the rows that name it; so every kind of write keeps the references
(`References.of_effect`), and every store the operations reach has them. With the users'
workspaces (`Db.ScopesResolve`) these are all the references of the tables.

Deleting repositories deletes exactly their deployments and secret keys with them, and no other
row (`Db.Prunes`): deleting an installation does so for its repositories, linking for those the
host no longer reports, and removing repositories for those named.
-/
namespace Shipyard

open Shipyard.Store

section Lists

variable {α β : Type}

/-- An update that keeps a column leaves no new value in it. -/
theorem map_update_subset {p : α → Bool} {f : α → α} {g : α → β}
    (hf : ∀ x, p x = true → g (f x) = g x) (l : List α) : (Db.update p f l).map g ⊆ l.map g :=
  (map_update_of_keep hf l).symm ▸ List.Subset.refl _

/-- An update that keeps a column loses no value of it. -/
theorem subset_map_update {p : α → Bool} {f : α → α} {g : α → β}
    (hf : ∀ x, p x = true → g (f x) = g x) (l : List α) : l.map g ⊆ (Db.update p f l).map g :=
  (map_update_of_keep hf l).symm ▸ List.Subset.refl _

/-- A value some row has in a column is among the column's values. -/
theorem mem_map_of_any {l : List α} {g : α → β} [BEq β] [LawfulBEq β] {x : β}
    (h : l.any (g · == x) = true) : x ∈ l.map g := by
  obtain ⟨y, hy, he⟩ := List.any_eq_true.1 h
  exact List.mem_map.2 ⟨y, hy, by simpa using he⟩

/-- Adding a row whose column value is among `m` keeps the column within `m`. -/
theorem map_append_subset {l : List α} {g : α → β} {x : α} {m : List β} (hl : l.map g ⊆ m)
    (hx : g x ∈ m) : (l ++ [x]).map g ⊆ m := by
  rw [List.map_append, List.append_subset]
  exact ⟨hl, List.cons_subset.2 ⟨hx, List.nil_subset _⟩⟩

end Lists

namespace Db

/-- Every row that names a row of another table names one the store holds. -/
structure References (db : Db) : Prop where
  installation :
    db.repositories.map (·.installationId) ⊆ db.installations.map (·.vcsInstallationId)
  deployment : db.deployments.map (·.repoId) ⊆ db.repositories.map (·.id)
  secretKey : db.secretKeys.map (·.repoId) ⊆ db.repositories.map (·.id)
  tokenPair : db.tokenPairs.map (·.userId) ⊆ db.users.map (·.id)

/-- The identifiers of the repositories that `gone` picks. -/
theorem contains_gone_ids (l : List RepositoryRow) (gone : RepositoryRow → Bool) (x : String) :
    ((l.filter gone).map (·.id)).contains x = l.any fun r => gone r && r.id == x := by
  rw [Bool.eq_iff_iff]
  simp [List.any_eq_true, and_assoc]

section Writes

variable (db : Db)

/-- Writing an installation changes only the installations and the count of identifiers. -/
theorem putInstallation_eq (vcsId : Int) (owner : String) :
    ∃ is n, db.putInstallation vcsId owner = { db with installations := is, issued := n } := by
  unfold Db.putInstallation
  split <;> exact ⟨_, _, rfl⟩

/-- An installation written is stored under its host number, and every host number stays. -/
theorem putInstallation_keys (vcsId : Int) (owner : String) :
    vcsId ∈ (db.putInstallation vcsId owner).installations.map (·.vcsInstallationId) ∧
    db.installations.map (·.vcsInstallationId) ⊆
      (db.putInstallation vcsId owner).installations.map (·.vcsInstallationId) := by
  unfold Db.putInstallation
  split
  · rename_i hany
    dsimp only
    rw [map_update_of_keep]
    · obtain ⟨i, hi, hid⟩ := List.any_eq_true.1 hany
      exact ⟨List.mem_map.2 ⟨i, hi, by simpa using hid⟩, List.Subset.refl _⟩
    · exact fun _ _ => rfl
  · exact ⟨by simp, by simp⟩

/-- Writing a repository changes only the repositories and the count of identifiers. -/
theorem putRepository_eq (installationId : Int) (r : Vcs.HostRepository) :
    ∃ rs n, db.putRepository installationId r = { db with repositories := rs, issued := n } := by
  unfold Db.putRepository
  split <;> exact ⟨_, _, rfl⟩

/-- A repository written keeps every identifier, and names the installation it is written under
or the one it named. -/
theorem putRepository_keys (installationId : Int) (r : Vcs.HostRepository) :
    db.repositories.map (·.id) ⊆ (db.putRepository installationId r).repositories.map (·.id) ∧
    (db.putRepository installationId r).repositories.map (·.installationId) ⊆
      installationId :: db.repositories.map (·.installationId) := by
  unfold Db.putRepository
  split
  · dsimp only
    refine ⟨?_, fun n hn => ?_⟩
    · rw [map_update_of_keep]
      · exact List.Subset.refl _
      · exact fun _ _ => rfl
    · obtain ⟨x, hx, rfl⟩ := List.mem_map.1 hn
      obtain ⟨y, hy, ⟨-, rfl⟩ | ⟨-, rfl⟩⟩ := mem_update hx
      · exact List.mem_cons_self
      · exact List.mem_cons_of_mem _ (List.mem_map_of_mem hy)
  · exact ⟨by simp, by simp⟩

end Writes

namespace References

variable {db db' : Db}

theorem empty : References {} :=
  ⟨List.nil_subset _, List.nil_subset _, List.nil_subset _, List.nil_subset _⟩

/-- A write keeps the references when the rows that are named stay, and the rows that name others
name nothing new. -/
theorem mono (h : db.References)
    (hi : db.installations.map (·.vcsInstallationId) ⊆ db'.installations.map (·.vcsInstallationId))
    (hr : db.repositories.map (·.id) ⊆ db'.repositories.map (·.id))
    (hu : db.users.map (·.id) ⊆ db'.users.map (·.id))
    (hri : db'.repositories.map (·.installationId) ⊆ db.repositories.map (·.installationId))
    (hd : db'.deployments.map (·.repoId) ⊆ db.deployments.map (·.repoId))
    (hk : db'.secretKeys.map (·.repoId) ⊆ db.secretKeys.map (·.repoId))
    (hp : db'.tokenPairs.map (·.userId) ⊆ db.tokenPairs.map (·.userId)) : db'.References :=
  ⟨List.Subset.trans hri (List.Subset.trans h.installation hi),
    List.Subset.trans hd (List.Subset.trans h.deployment hr),
    List.Subset.trans hk (List.Subset.trans h.secretKey hr),
    List.Subset.trans hp (List.Subset.trans h.tokenPair hu)⟩

theorem putInstallation (h : db.References) (vcsId : Int) (owner : String) :
    (db.putInstallation vcsId owner).References := by
  have hkeys := (putInstallation_keys db vcsId owner).2
  obtain ⟨is, n, he⟩ := putInstallation_eq db vcsId owner
  rw [he] at hkeys ⊢
  exact h.mono hkeys (.refl _) (.refl _) (.refl _) (.refl _) (.refl _) (.refl _)

/-- A repository written under a stored installation keeps the references. -/
theorem putRepository (h : db.References) {installationId : Int}
    (hi : installationId ∈ db.installations.map (·.vcsInstallationId)) (r : Vcs.HostRepository) :
    (db.putRepository installationId r).References := by
  obtain ⟨hids, hinst⟩ := putRepository_keys db installationId r
  obtain ⟨rs, n, he⟩ := putRepository_eq db installationId r
  rw [he] at hids hinst ⊢
  refine ⟨fun k hk => ?_, List.Subset.trans h.deployment hids, List.Subset.trans h.secretKey hids,
    h.tokenPair⟩
  -- a repository names the installation it was written under, or the one it named
  rcases List.mem_cons.1 (hinst hk) with rfl | hk
  · exact hi
  · exact h.installation hk

/-- Repositories written under a stored installation keep the references. -/
theorem foldl_putRepository (h : db.References) {installationId : Int}
    (hi : installationId ∈ db.installations.map (·.vcsInstallationId))
    (repos : List Vcs.HostRepository) :
    (repos.foldl (Db.putRepository installationId) db).References := by
  induction repos generalizing db with
  | nil => exact h
  | cons r repos ih =>
    obtain ⟨rs, n, he⟩ := putRepository_eq db installationId r
    exact ih (h.putRepository hi r) (by rw [he]; exact hi)

/-- Deleting repositories with their deployments and secret keys keeps the references: what is
left of either names a repository that is left. -/
theorem dropRepositories (h : db.References) (p : RepositoryRow → Bool) :
    (db.dropRepositories p).References := by
  -- a row whose repository is not among those deleted names a repository that stays
  have hkept : ∀ id ∈ db.repositories.map (·.id),
      ((db.repositories.filter p).map (·.id)).contains id = false →
      id ∈ (db.dropRepositories p).repositories.map (·.id) := by
    intro id hid hgone
    obtain ⟨r, hr, rfl⟩ := List.mem_map.1 hid
    rw [contains_gone_ids] at hgone
    have hp : p r = false := by
      simpa using List.any_eq_false.1 hgone r hr
    exact List.mem_map_of_mem (List.mem_filter.2 ⟨hr, by simp [hp]⟩)
  refine ⟨?_, fun id hid => ?_, fun id hid => ?_, h.tokenPair⟩
  · exact List.Subset.trans (List.map_subset _ (List.filter_subset_self _)) h.installation
  · obtain ⟨d, hd, rfl⟩ := List.mem_map.1 hid
    have hd' := List.mem_filter.1 hd
    exact hkept _ (h.deployment (List.mem_map_of_mem hd'.1)) (by simpa using hd'.2)
  · obtain ⟨k, hk, rfl⟩ := List.mem_map.1 hid
    have hk' := List.mem_filter.1 hk
    exact hkept _ (h.secretKey (List.mem_map_of_mem hk'.1)) (by simpa using hk'.2)

/-- Deleting an installation with its repositories keeps the references: a repository left names
another installation, which is left too. -/
theorem removeInstallation (h : db.References) (vcsId : Int) :
    ({ db.dropRepositories (·.installationId == vcsId) with
        installations := db.installations.filter (·.vcsInstallationId != vcsId) } : Db).References := by
  have hd := h.dropRepositories (·.installationId == vcsId)
  refine ⟨fun n hn => ?_, hd.deployment, hd.secretKey, hd.tokenPair⟩
  obtain ⟨r, hr, rfl⟩ := List.mem_map.1 hn
  have hr' := List.mem_filter.1 hr
  obtain ⟨i, hi, hid⟩ := List.mem_map.1 (h.installation (List.mem_map_of_mem hr'.1))
  exact List.mem_map.2 ⟨i, List.mem_filter.2 ⟨hi, by simpa [hid] using hr'.2⟩, hid⟩

/-- Every kind of write keeps the references. -/
theorem of_effect (h : db.References) (he : Effect db db') : db'.References := by
  cases he with
  | keep => exact h
  | addUser u wsId name uid n =>
    exact h.mono (subset_map_update (fun _ _ => by rfl) _) (.refl _) (by simp) (.refl _) (.refl _)
      (.refl _) (.refl _)
  | link vcsId owner repos =>
    exact ((h.putInstallation vcsId owner).foldl_putRepository
      (putInstallation_keys db vcsId owner).1 repos).dropRepositories _
  | addRepositories vcsId owner repos =>
    exact (h.putInstallation vcsId owner).foldl_putRepository
      (putInstallation_keys db vcsId owner).1 repos
  | dropRepositories p => exact h.dropRepositories p
  | removeInstallation vcsId => exact h.removeInstallation vcsId
  | connect repoId branch =>
    exact h.mono (.refl _) (subset_map_update (fun _ _ => by rfl) _) (.refl _)
      (map_update_subset (fun _ _ => by rfl) _) (.refl _) (.refl _) (.refl _)
  | saveDeployment row n hid hinit hrepo =>
    exact ⟨h.installation, map_append_subset h.deployment (mem_map_of_any hrepo), h.secretKey,
      h.tokenPair⟩
  | updateDeployment d cur now hcur hmove =>
    exact h.mono (.refl _) (.refl _) (.refl _) (.refl _) (map_update_subset (fun _ _ => by rfl) _)
      (.refl _) (.refl _)
  | supersede repoId keep now =>
    exact h.mono (.refl _) (.refl _) (.refl _) (.refl _) (map_update_subset (fun _ _ => by rfl) _)
      (.refl _) (.refl _)
  | markRolledBack repoId keep now k =>
    -- the rows after the `k`-th are rewritten in place, each keeping its repository
    have hrows : (db.deployments.take (k + 1) ++
        Db.update (fun d => d.repoId == repoId && d.status == .done && d.id != keep)
          (fun d => { d with status := .rolledBack, updatedAt := now })
          (db.deployments.drop (k + 1))).map (·.repoId) = db.deployments.map (·.repoId) := by
      rw [List.map_append, map_update_of_keep (fun _ _ => by rfl), ← List.map_append,
        List.take_append_drop]
    exact h.mono (.refl _) (.refl _) (.refl _) (.refl _) (hrows ▸ List.Subset.refl _) (.refl _)
      (.refl _)
  | saveSecret k hrepo =>
    exact ⟨h.installation, h.deployment, map_append_subset h.secretKey (mem_map_of_any hrepo),
      h.tokenPair⟩
  | removeSecret k =>
    exact h.mono (.refl _) (.refl _) (.refl _) (.refl _) (.refl _)
      (List.map_subset _ (List.filter_subset_self _)) (.refl _)
  | authStates states =>
    exact h.mono (.refl _) (.refl _) (.refl _) (.refl _) (.refl _) (.refl _) (.refl _)
  | saveTokenPair p huser =>
    exact ⟨h.installation, h.deployment, h.secretKey,
      map_append_subset (List.Subset.trans (List.map_subset _ (List.filter_subset_self _)) h.tokenPair)
        (mem_map_of_any huser)⟩
  | deleteTokenPair userId =>
    exact h.mono (.refl _) (.refl _) (.refl _) (.refl _) (.refl _) (.refl _)
      (List.map_subset _ (List.filter_subset_self _))

end References

end Db

namespace Db

/-- `db'` is `db` with the repositories that `gone` picks deleted, and with them exactly their
deployments and secret keys, those whose repository is among the deleted ones, each table left in
its order; the workspaces, users, sign-in states and host tokens are kept. -/
structure Prunes (db db' : Db) (gone : RepositoryRow → Bool) : Prop where
  repositories : db'.repositories = db.repositories.filter (!gone ·)
  deployments : db'.deployments =
    db.deployments.filter fun d => !db.repositories.any fun r => gone r && r.id == d.repoId
  secretKeys : db'.secretKeys =
    db.secretKeys.filter fun k => !db.repositories.any fun r => gone r && r.id == k.repoId
  workspaces : db'.workspaces = db.workspaces
  users : db'.users = db.users
  authStates : db'.authStates = db.authStates
  tokenPairs : db'.tokenPairs = db.tokenPairs

theorem prunes_dropRepositories (db : Db) (gone : RepositoryRow → Bool) :
    db.Prunes (db.dropRepositories gone) gone where
  repositories := rfl
  deployments := by simp only [dropRepositories, contains_gone_ids]
  secretKeys := by simp only [dropRepositories, contains_gone_ids]
  workspaces := rfl
  users := rfl
  authStates := rfl
  tokenPairs := rfl

/-- Pruning says nothing of the installations. -/
theorem Prunes.withInstallations {db db' : Db} {gone : RepositoryRow → Bool}
    (h : db.Prunes db' gone) (is : List Installation) :
    db.Prunes { db' with installations := is } gone :=
  ⟨h.repositories, h.deployments, h.secretKeys, h.workspaces, h.users, h.authStates, h.tokenPairs⟩

end Db

/-- Every store the operations reach keeps the references between its tables. -/
theorem Store.Reachable.references {db : Db} (h : Reachable db) : db.References :=
  Reachable.of_effect .empty (fun _ _ hdb he => hdb.of_effect he) h

open Shipyard.Vcs in
/-- In every store the operations reach, each repository's installation, each deployment's and
each secret key's repository, each pair of host tokens' user and each user's workspace is stored.
Deleting an installation, the repositories a link no longer reports, or repositories the host
removed deletes exactly the deployments and secret keys of the repositories deleted and leaves
every other row as it was; saving a deployment for a repository that is not stored fails with
`repoNotFound` and changes nothing. -/
theorem references_hold_and_deletions_cascade :
    (∀ db, Reachable db →
      db.References ∧ ∀ u ∈ db.users, ∃ w ∈ db.workspaces, w.id = u.currentWorkspace) ∧
    (∀ vcsId db rs db', removeInstallation vcsId db = .ok (rs, db') →
      db.Prunes db' (·.installationId == vcsId) ∧
      db'.installations = db.installations.filter (·.vcsInstallationId != vcsId)) ∧
    (∀ vcsId owner (repos : List HostRepository) db i db',
      linkInstallation vcsId owner repos db = .ok (i, db') →
      (repos.foldl (Db.putRepository vcsId) (db.putInstallation vcsId owner)).Prunes db'
        (fun r => r.installationId == vcsId && !(repos.map (·.id)).contains r.vcsId) ∧
      db'.installations = (db.putInstallation vcsId owner).installations) ∧
    (∀ vcsId (repos : List HostRepository) db, ∃ db', removeRepositories vcsId repos db = .ok ((), db') ∧
      db.Prunes db' (fun r => r.installationId == vcsId && (repos.map (·.id)).contains r.vcsId) ∧
      db'.installations = db.installations) ∧
    (∀ d now db, db.repositories.any (·.id == d.repoId) = false →
      saveDeployment d now db = .error .repoNotFound ∧ (Op.saveDeployment d now).apply db = db) := by
  refine ⟨fun db h => ⟨h.references, h.scopesResolve.user_workspace⟩, ?_, ?_, ?_, ?_⟩
  · -- deleting an installation: its repositories with theirs, then the installation's row
    intro vcsId db rs db' h
    rw [removeInstallation_apply] at h
    split at h
    · cases h
      exact ⟨(db.prunes_dropRepositories _).withInstallations _, rfl⟩
    · cases h
  · -- linking: the repositories written, then those no longer reported deleted
    intro vcsId owner repos db i db' h
    rw [linkInstallation_apply] at h
    obtain rfl := getInstallation_readOnly vcsId _ i db' h
    obtain ⟨rs, n, he⟩ := Db.foldl_putRepository vcsId repos (db.putInstallation vcsId owner)
    exact ⟨Db.prunes_dropRepositories _ _, by rw [he]; rfl⟩
  · intro vcsId repos db
    exact ⟨_, removeRepositories_apply vcsId repos db, Db.prunes_dropRepositories _ _, rfl⟩
  · intro d now db hrepo
    have hsave : saveDeployment d now db = .error .repoNotFound := by
      rw [saveDeployment_apply]
      simp only [hrepo, Bool.and_false, Bool.false_eq_true, if_false]
    exact ⟨hsave, Op.apply_of_error (Op.discard_eq_error.2 hsave)⟩

/-- The store of one linked installation keeps its references, deleting the installation prunes
its repository, and a deployment of an unknown repository is refused. -/
theorem ada_installation_removed_cleanly :
    ((Op.linkInstallation 42 "ada" [{ id := 7, fullName := "ada/app" }]).apply {}).References ∧
    (∃ rs db', removeInstallation 42
        ((Op.linkInstallation 42 "ada" [{ id := 7, fullName := "ada/app" }]).apply {}) =
          .ok (rs, db') ∧
      ((Op.linkInstallation 42 "ada" [{ id := 7, fullName := "ada/app" }]).apply {}).Prunes db'
        (·.installationId == 42)) ∧
    saveDeployment { repoId := "r", userDisplayName := "ada" } ⟨0⟩ {} = .error .repoNotFound :=
  ⟨(references_hold_and_deletions_cascade.1 _ (.step _ .empty)).1,
    ⟨_, _, rfl, (references_hold_and_deletions_cascade.2.1 _ _ _ _ rfl).1⟩,
    (references_hold_and_deletions_cascade.2.2.2.2 _ _ {} rfl).1⟩

end Shipyard
