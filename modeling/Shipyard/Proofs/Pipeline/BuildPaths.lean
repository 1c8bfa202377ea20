import Mathlib
import Shipyard.Proofs.Pipeline.FinalMessage
import Shipyard.Proofs.Cluster.ManifestSplit
/-!
# Build paths stay in the clone

The Dockerfile path and the build context of a space are joined onto the directory the sources
were checked out into. Two checks read them by their components (`Path.components`): the
manifest check refuses a path with a drive, the root or a parent component
(`escapesRepository`), and the build refuses one with any component but a name or `.`
(`staysInside`). A Unix path has no drive, so the two checks agree on every text
(`staysInside_eq_not_escapesRepository`): a space the manifest check accepted passes the
build's check, and never fails the build with `INVALID_SPACE` (`build_passes_checked_space`).

What the build asks the builder for is the tree's path of each joined path (`treePath`). When
the path stays inside, its components are the directory's followed by names only
(`components_treePath`): it names the directory or a place beneath it, read by components
alone. Whatever the space, checked or copied from a stored deployment, every request the build
makes is of that kind (`build_requests_beneath`).
-/
namespace Shipyard

namespace Path

/-! ## Components -/

/-- A path names `dir` or a place beneath it, read by components alone: its components are
those of `dir` followed by names only. -/
def Beneath (dir path : String) : Prop :=
  ∃ names : List String, components path = components dir ++ names.map .normal

/-- A directory one of whose components is a name, as a checkout's directory always is. -/
def HasName (dir : String) : Prop := ∃ name, Component.normal name ∈ components dir

theorem mem_partComponent {part : List Char} {c : Component} (h : partComponent part = some c) :
    c = .parentDir ∨ ∃ name, c = .normal name := by
  unfold partComponent at h
  split at h
  · cases h
  · split at h
    · exact .inl (Option.some.inj h).symm
    · exact .inr ⟨_, (Option.some.inj h).symm⟩

theorem mem_leading {cs : List Char} {c : Component} (h : c ∈ leading cs) :
    c = .rootDir ∨ c = .curDir := by
  unfold leading at h
  split at h
  · exact .inl (List.mem_singleton.mp h)
  · split at h
    · exact .inr (List.mem_singleton.mp h)
    · cases h

/-- A Unix path has no drive. -/
theorem ne_drive_of_mem_components {p : String} {c : Component} (h : c ∈ components p)
    (text : String) : c ≠ .drive text := by
  rintro rfl
  rcases List.mem_append.mp h with h | h
  · rcases mem_leading h with h | h <;> cases h
  · obtain ⟨part, -, hpart⟩ := List.mem_filterMap.mp h
    rcases mem_partComponent hpart with h | ⟨_, h⟩ <;> cases h

theorem staysIn_eq_not_escapes {c : Component} (hc : ∀ text, c ≠ .drive text) :
    c.staysIn = !c.escapes := by
  cases c with
  | drive text => exact absurd rfl (hc text)
  | _ => rfl

/-! ## Joining onto a directory -/

theorem partComponent_of_junk {part : List Char} (h : (part.isEmpty || part == ['.']) = true) :
    partComponent part = none := by
  simp [partComponent, h]

/-- Dropping trailing empty and `.` parts drops no component. -/
theorem filterMap_dropTrailing (l : List (List Char)) :
    ((l.reverse.dropWhile fun p => p.isEmpty || p == ['.']).reverse).filterMap partComponent =
      l.filterMap partComponent := by
  have hjunk : ((l.reverse.takeWhile fun p => p.isEmpty || p == ['.']).reverse).filterMap
      partComponent = [] :=
    List.filterMap_eq_nil_iff.mpr fun part hp => partComponent_of_junk (by
      simpa using List.mem_takeWhile_imp (List.mem_reverse.mp hp))
  conv_rhs => rw [← List.reverse_reverse l,
    ← List.takeWhile_append_dropWhile (p := fun p => p.isEmpty || p == ['.']) (l := l.reverse)]
  rw [List.reverse_append, List.filterMap_append, hjunk, List.append_nil]

/-- The leading component is fixed by the first part and, when that part is empty, by whether a
separator follows it. -/
theorem leading_append {first rest : List Char} (hf : '/' ∉ first)
    (hr : rest = [] ∨ rest.head? = some '/') :
    leading (first ++ rest) =
      if first = [] then (if rest = [] then [] else [.rootDir])
      else if first = ['.'] then [.curDir] else [] := by
  -- a separator follows the first part, or nothing does
  obtain rfl | ⟨r, rfl⟩ : rest = [] ∨ ∃ r, rest = '/' :: r := by
    rcases hr with h | h
    · exact .inl h
    · cases rest with
      | nil => cases h
      | cons c r => exact .inr ⟨r, by simpa using h⟩
  all_goals
    match first, hf with
    | [], _ => rfl
    | ['.'], _ => rfl
    | c :: d :: more, hf =>
      have hc : c ≠ '/' := fun e => hf (e ▸ List.mem_cons_self)
      have hd : d ≠ '/' := fun e => hf (e ▸ List.mem_cons_of_mem c List.mem_cons_self)
      simp [leading, hc, hd]
    | [c], hf =>
      by_cases hdot : c = '.'
      · subst hdot
        rfl
      · have hc : c ≠ '/' := fun e => hf (e ▸ List.mem_cons_self)
        simp [leading, hc, hdot]

/-- The leading component of parts joined with separators. -/
theorem leading_intercalate {first : List Char} (hf : '/' ∉ first) (more : List (List Char)) :
    leading (['/'].intercalate (first :: more)) =
      if first = [] then (if more = [] then [] else [.rootDir])
      else if first = ['.'] then [.curDir] else [] := by
  cases more with
  | nil => simpa using leading_append hf (.inl rfl)
  | cons part more =>
    rw [List.intercalate_cons_of_ne_nil (List.cons_ne_nil _ _), List.append_assoc,
      leading_append hf (.inr rfl)]
    simp

/-- Components that are all names are the names of a list. -/
theorem exists_names {cs : List Component} (h : ∀ c ∈ cs, ∃ name, c = .normal name) :
    ∃ names : List String, cs = names.map .normal := by
  induction cs with
  | nil => exact ⟨[], rfl⟩
  | cons c cs ih =>
    obtain ⟨name, rfl⟩ := h c List.mem_cons_self
    obtain ⟨names, rfl⟩ := ih fun d hd => h d (List.mem_cons_of_mem _ hd)
    exact ⟨name :: names, rfl⟩

end Path

namespace Platform

/-- The build's check and the manifest check agree on every path. -/
theorem staysInside_eq_not_escapesRepository (p : String) : staysInside p = !escapesRepository p := by
  rw [staysInside, escapesRepository, Bool.eq_iff_iff, Bool.not_eq_true', List.all_eq_true,
    List.any_eq_false]
  refine forall₂_congr fun c hc => ?_
  rw [Path.staysIn_eq_not_escapes (Path.ne_drive_of_mem_components hc), Bool.not_eq_true']
  exact Bool.eq_false_iff

/-- The components after the start of a path that stays inside are names. -/
theorem exists_names_of_staysInside {rel : String} (hin : staysInside rel = true) :
    ∃ names : List String, (rel.toList.splitOn '/').filterMap Path.partComponent =
      names.map .normal := by
  refine Path.exists_names fun c hc => ?_
  obtain ⟨part, -, hpart⟩ := List.mem_filterMap.mp hc
  have hstays : c.staysIn = true :=
    List.all_eq_true.mp hin c (List.mem_append_right _ hc)
  rcases Path.mem_partComponent hpart with rfl | hname
  · cases hstays
  · exact hname

/-- A path that stays inside, joined onto a directory with a name, names that directory or a
place beneath it. -/
theorem treePath_beneath {dir rel : String} (hdir : Path.HasName dir)
    (hin : staysInside rel = true) : Path.Beneath dir (treePath dir rel) := by
  -- the parts of the joined text: the directory's, then the relative path's
  obtain ⟨first, ds, hD⟩ : ∃ first ds, dir.toList.splitOn '/' = first :: ds := by
    cases h : dir.toList.splitOn '/' with
    | nil => exact absurd h (List.splitOn_ne_nil _ _)
    | cons first ds => exact ⟨first, ds, rfl⟩
  have hparts : (dir ++ "/" ++ rel).toList.splitOn '/' = first :: (ds ++ rel.toList.splitOn '/') := by
    rw [String.toList_append, String.toList_append, show "/".toList = ['/'] by simp,
      List.append_assoc, List.singleton_append, List.splitOn_append_cons_self, hD,
      List.cons_append]
  -- the kept parts: all but the trailing empty and `.` ones
  set kept := ((ds ++ rel.toList.splitOn '/').reverse.dropWhile
    fun p => p.isEmpty || p == ['.']).reverse with hkept
  have htree : (treePath dir rel).toList = ['/'].intercalate (first :: kept) := by
    simp only [treePath, hparts, String.toList_ofList, List.take_succ_cons, List.take_zero,
      List.drop_succ_cons, List.drop_zero, List.singleton_append]
    rw [hkept]
  have hnoslash : ∀ q ∈ first :: kept, '/' ∉ q := by
    intro q hq
    rcases List.mem_cons.mp hq with rfl | hq
    · exact Text.not_mem_of_mem_splitOn (hD ▸ List.mem_cons_self)
    · have hq' : q ∈ ds ++ rel.toList.splitOn '/' :=
        List.mem_reverse.mp ((List.dropWhile_sublist _).subset (List.mem_reverse.mp hq))
      rcases List.mem_append.mp hq' with hq' | hq'
      · exact Text.not_mem_of_mem_splitOn (hD ▸ List.mem_cons_of_mem first hq')
      · exact Text.not_mem_of_mem_splitOn hq'
  have hsplit : (treePath dir rel).toList.splitOn '/' = first :: kept := by
    rw [htree]
    exact List.splitOn_intercalate '/' hnoslash (List.cons_ne_nil _ _)
  have hbody : (first :: kept).filterMap Path.partComponent =
      (first :: ds).filterMap Path.partComponent ++
        (rel.toList.splitOn '/').filterMap Path.partComponent := by
    rw [List.filterMap_cons, List.filterMap_cons, hkept, Path.filterMap_dropTrailing,
      List.filterMap_append]
    split <;> rfl
  -- the start is the directory's: when the directory's first part is empty, a named part
  -- follows it, and is kept
  have hdirText : dir.toList = ['/'].intercalate (first :: ds) := by
    rw [← hD, List.intercalate_splitOn]
  have hfirst : '/' ∉ first := hnoslash first List.mem_cons_self
  have hmore : first = [] → (kept = [] ↔ ds = []) := by
    rintro rfl
    obtain ⟨name, hname⟩ := hdir
    rw [Path.components, hD] at hname
    have hin_ds : Path.Component.normal name ∈ ds.filterMap Path.partComponent := by
      rcases List.mem_append.mp hname with h | h
      · rcases Path.mem_leading h with h | h <;> cases h
      · simpa [Path.partComponent] using h
    have hkept_ne : kept ≠ [] := by
      rintro hnil
      have hk : kept.filterMap Path.partComponent = [] := by rw [hnil]; rfl
      rw [hkept, Path.filterMap_dropTrailing, List.filterMap_append] at hk
      exact List.not_mem_nil (hk ▸ List.mem_append_left _ hin_ds)
    have hds_ne : ds ≠ [] := by
      rintro rfl
      exact List.not_mem_nil hin_ds
    exact iff_of_false hkept_ne hds_ne
  have hlead : Path.leading (treePath dir rel).toList = Path.leading dir.toList := by
    rw [htree, hdirText, Path.leading_intercalate hfirst, Path.leading_intercalate hfirst]
    by_cases h0 : first = []
    · simp only [h0, if_true, hmore h0]
    · simp only [h0, if_false]
  obtain ⟨names, hnames⟩ := exists_names_of_staysInside hin
  refine ⟨names, ?_⟩
  rw [Path.components, Path.components, hlead, hsplit, hbody, hD, hnames, List.append_assoc]

/-! ## The checks of a space and of a build -/

/-- A space the manifest check accepts has both build paths inside the repository. -/
theorem validate_paths_inside {raw sp : Space} (h : raw.validate = .ok sp) :
    escapesRepository sp.service.dockerContext = false ∧
      escapesRepository sp.service.dockerfilePath = false := by
  simp only [Space.validate] at h
  split at h
  · cases h
  split at h
  · cases h
  split at h
  · cases h
  split at h
  · cases h
  split at h
  · cases h
  rename_i hdf
  split at h
  · cases h
  rename_i hctx
  split at h
  · cases h
  · cases h
    exact ⟨by simpa using hctx, by simpa using hdf⟩

/-- A path of a space joined onto a tree's directory: the path has only names and `.` for
components, and the joined path names the directory or a place beneath it. -/
def JoinedInside (dir rel joined : String) : Prop :=
  joined = treePath dir rel ∧ staysInside rel = true ∧ Path.Beneath dir joined

/-- What a build has asked the builder for since `s₀`: nothing, or the context and the
Dockerfile of the space of `s₀`, each joined inside `dir`. -/
def Requested (s₀ : RunState) (dir : String) (s : RunState) : Prop :=
  s.app.registry = s₀.app.registry ∨
    ∃ r, s.app.registry.lastBuild = some r ∧
      JoinedInside dir s₀.current.space.service.dockerContext r.context ∧
      JoinedInside dir s₀.current.space.service.dockerfilePath r.dockerfile

theorem lastBuild_build (r : Services.Registry) (b : Services.BuildRecord) :
    (r.build b).1.lastBuild = some b := by
  simp only [Services.Registry.build]
  split
  · rfl
  · split <;> rfl

open RunM in
/-- Every request a build makes of the builder names the tree's directory or a place beneath it,
whatever the space. -/
theorem build_requests_beneath (ns : String) {s₀ : RunState} {t : Services.WorkTree} (ht : s₀.tree = some t)
    (hdir : Path.HasName t.dir) :
    Triple (· = s₀) (build ns) (fun _ => Requested s₀ t.dir) (fun _ => Requested s₀ t.dir) := by
  unfold build
  refine Triple.get_bind_at ?_
  dsimp only
  split
  · rename_i hin
    rw [Bool.and_eq_true] at hin
    cases buildSecrets s₀.app.cluster ns s₀.current.repoId s₀.current.space.service.buildSecrets with
    | error e => exact Triple.throw_bind_at _ (.inl rfl)
    | ok v =>
      dsimp only
      simp only [pure_bind]
      refine Triple.say_bind_at _ (Triple.get_bind_at (Triple.set_bind_at _ (Triple.say_bind_at _ ?_)))
      -- the record asks for both paths joined onto the tree
      have hjoined :
          JoinedInside t.dir s₀.current.space.service.dockerContext
            (treePath ((s₀.tree.map (·.dir)).getD "") s₀.current.space.service.dockerContext) ∧
          JoinedInside t.dir s₀.current.space.service.dockerfilePath
            (treePath ((s₀.tree.map (·.dir)).getD "") s₀.current.space.service.dockerfilePath) := by
        simp only [ht, Option.map_some, Option.getD_some]
        exact ⟨⟨rfl, hin.1, treePath_beneath hdir hin.1⟩, ⟨rfl, hin.2, treePath_beneath hdir hin.2⟩⟩
      split
      · exact Triple.pure_at _ (.inr ⟨_, lastBuild_build _ _, hjoined⟩)
      · exact Triple.throw_at _ (.inr ⟨_, lastBuild_build _ _, hjoined⟩)
      · exact Triple.fail_at _ _ (.inr ⟨_, lastBuild_build _ _, hjoined⟩)
  · exact Triple.fail_bind_at _ _ (.inl rfl)

open RunM in
/-- A space whose paths the manifest check accepts never fails the build's check: the build
stops only as its secrets, or the builder, make it. -/
theorem build_passes_checked_space (ns : String) {s₀ : RunState}
    (hctx : escapesRepository s₀.current.space.service.dockerContext = false)
    (hdf : escapesRepository s₀.current.space.service.dockerfilePath = false) :
    Triple (· = s₀) (build ns) (fun _ _ => True) (fun e _ => ∀ m, e ≠ .failed "INVALID_SPACE" m) := by
  have hin : (staysInside s₀.current.space.service.dockerContext &&
      staysInside s₀.current.space.service.dockerfilePath) = true := by
    rw [staysInside_eq_not_escapesRepository, staysInside_eq_not_escapesRepository, hctx, hdf]
    rfl
  unfold build
  refine Triple.get_bind_at ?_
  dsimp only
  rw [if_pos hin]
  cases hsec : buildSecrets s₀.app.cluster ns s₀.current.repoId
      s₀.current.space.service.buildSecrets with
  | error e =>
    obtain ⟨m, rfl | rfl⟩ := buildSecrets_error_codes _ _ _ _ hsec <;>
      exact Triple.throw_bind_at _ fun _ h => by simp at h
  | ok v =>
    dsimp only
    simp only [pure_bind]
    refine Triple.say_bind_at _ (Triple.get_bind_at (Triple.set_bind_at _ (Triple.say_bind_at _ ?_)))
    split
    · exact Triple.pure_at _ trivial
    · exact Triple.throw_at _ fun _ h => by cases h
    · exact Triple.fail_at _ _ fun _ h => by simp at h

/-- Build paths stay in the clone. The build's check and the manifest check agree on every path
(no Unix path has a drive); a space the manifest check accepted passes the build's check, and a
build from it never fails with `INVALID_SPACE`; and whatever the space, checked or copied from a
stored deployment, every request a build makes of the builder asks for the space's context and
Dockerfile joined onto the checkout's directory, each a path of names and `.` only, which names
the directory or a place beneath it by components alone. -/
theorem build_paths_stay_in_clone :
    (∀ p, staysInside p = !escapesRepository p) ∧
    (∀ raw sp : Space, raw.validate = .ok sp →
      staysInside sp.service.dockerContext = true ∧ staysInside sp.service.dockerfilePath = true) ∧
    (∀ (ns : String) (raw sp : Space) (s : RunState), raw.validate = .ok sp →
      s.current.space.service = sp.service →
      RunM.Triple (· = s) (build ns) (fun _ _ => True)
        (fun e _ => ∀ m, e ≠ .failed "INVALID_SPACE" m)) ∧
    (∀ (ns : String) (s : RunState) (t : Services.WorkTree), s.tree = some t →
      Path.HasName t.dir →
      RunM.Triple (· = s) (build ns) (fun _ => Requested s t.dir) (fun _ => Requested s t.dir)) := by
  refine ⟨staysInside_eq_not_escapesRepository, fun raw sp h => ?_, fun ns raw sp s h hs => ?_,
    fun ns s t ht hdir => build_requests_beneath ns ht hdir⟩
  · obtain ⟨hctx, hdf⟩ := validate_paths_inside h
    rw [staysInside_eq_not_escapesRepository, staysInside_eq_not_escapesRepository, hctx, hdf]
    exact ⟨rfl, rfl⟩
  · obtain ⟨hctx, hdf⟩ := validate_paths_inside h
    rw [← hs] at hctx hdf
    exact build_passes_checked_space ns hctx hdf

/-- The manifest of the repository's own test, a context `./services/api` and a Dockerfile
under it, checked and built in the checkout `r1-0`. -/
theorem nested_paths_build_in_clone :
    let raw : Space :=
      { service :=
          { name := "web", httpPort := 8080, dockerContext := "./services/api",
            dockerfilePath := "services/api/Dockerfile" } }
    let sp : Space := { service := { raw.service with replicas := 1, compute := ⟨1000, 2048, 20⟩ } }
    let s : RunState :=
      { app := { settings := {}, issuer := ⟨"", 1, Nat.one_pos, [], []⟩, now := ⟨0⟩ },
        current := { id := "d", repoId := "r1", userDisplayName := "ada", space := sp },
        tree := some ⟨"r1-0", none⟩ }
    raw.validate = .ok sp ∧ Path.HasName "r1-0" ∧
      RunM.Triple (· = s) (build "ns") (fun _ _ => True)
        (fun e _ => ∀ m, e ≠ .failed "INVALID_SPACE" m) ∧
      RunM.Triple (· = s) (build "ns") (fun _ => Requested s "r1-0") (fun _ => Requested s "r1-0") := by
  intro raw sp s
  have hv : raw.validate = .ok sp := by decide
  have hname : Path.HasName "r1-0" := ⟨"r1-0", by decide⟩
  exact ⟨hv, hname, build_paths_stay_in_clone.2.2.1 "ns" raw sp s hv rfl,
    build_paths_stay_in_clone.2.2.2 "ns" s ⟨"r1-0", none⟩ rfl hname⟩

end Platform

end Shipyard
