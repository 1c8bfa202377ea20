import Mathlib
import Shipyard.Store.Migration
/-!
# Opening runs each unrecorded migration once

Opening the store's database runs, in ascending order of number, the pending migrations whose
numbers the record does not hold, each in a transaction with its record, until one fails. The
engine is SQLite, which is not part of the program, so the statements hold for every engine that
answers the runner's own statements as SQLite does (`Keeps`). A migration's own statements are
assumed to keep their transaction open and, when they succeed, the record as it was
(`Contained`): a migration whose text ends its transaction has its record committed on its own,
and the opening fails with its number recorded.

Main statement (`opening_runs_first_unrecorded`): of each unrecorded number the first migration
runs, the store's own before the files and the files in order of name, in ascending order, until
one fails; the record then holds the numbers it held and those that ran, and a successful
opening answers the recorded numbers ascending.
-/
namespace Shipyard.Store

namespace Migration

/-! ## Which migrations run -/

/-- The store's migrations, then those of the files in order of file name: among migrations of
one number, the order they are taken in. -/
def sources (files : Option (List (String × String))) : List Migration :=
  builtIn ++ ((files.getD []).mergeSort fun a b => !(b.1 < a.1)).filterMap fun (n, c) => ofFile? n c

/-- The order of `pending`: by number only. -/
def byVersion (a b : Migration) : Bool := decide (a.version ≤ b.version)

theorem byVersion_trans (a b c : Migration) : byVersion a b → byVersion b c → byVersion a c := by
  simp only [byVersion, decide_eq_true_eq]
  omega

theorem byVersion_total (a b : Migration) : (byVersion a b || byVersion b a) = true := by
  simp only [byVersion, Bool.or_eq_true, decide_eq_true_eq]
  omega

theorem pending_eq (files : Option (List (String × String))) :
    pending files = (sources files).mergeSort byVersion := rfl

/-- The migrations a run carries out when the record holds `vs`: of each number not recorded,
the first, in the order given. -/
def firstUnrecorded : Finset Int → List Migration → List Migration
  | _, [] => []
  | vs, m :: ms =>
    if m.version ∈ vs then firstUnrecorded vs ms
    else m :: firstUnrecorded (insert m.version vs) ms

variable {vs : Finset Int} {ms : List Migration} {m : Migration}

theorem mem_firstUnrecorded :
    m ∈ firstUnrecorded vs ms ↔ m.version ∉ vs ∧ ms.find? (·.version == m.version) = some m := by
  induction ms generalizing vs with
  | nil => simp [firstUnrecorded]
  | cons x ms ih =>
    by_cases hv : x.version = m.version
    · -- `x` is the first of `m`'s number: it runs, unless the number is recorded
      rw [List.find?_cons_of_pos (by simpa using hv)]
      by_cases hx : x.version ∈ vs
      · have hm : m.version ∈ vs := hv ▸ hx
        simp only [firstUnrecorded, if_pos hx, ih, hm, not_true_eq_false, false_and]
      · have hm : m.version ∉ vs := hv ▸ hx
        rw [firstUnrecorded, if_neg hx, List.mem_cons]
        constructor
        · rintro (rfl | h)
          · exact ⟨hm, rfl⟩
          · exact absurd (Finset.mem_insert.mpr (Or.inl hv.symm)) (ih.mp h).1
        · rintro ⟨-, h⟩
          exact Or.inl (Option.some.inj h).symm
    · rw [List.find?_cons_of_neg (by simpa using hv)]
      have hmx : m ≠ x := fun h => hv (h ▸ rfl)
      unfold firstUnrecorded
      split
      · exact ih
      · rw [List.mem_cons, ih, Finset.mem_insert]
        simp only [hmx, Ne.symm hv, false_or]

theorem firstUnrecorded_sublist : (firstUnrecorded vs ms).Sublist ms := by
  induction ms generalizing vs with
  | nil => exact List.Sublist.slnil
  | cons x ms ih =>
    unfold firstUnrecorded
    split
    · exact ih.cons x
    · exact ih.cons_cons x

theorem pairwise_firstUnrecorded :
    (firstUnrecorded vs ms).Pairwise fun a b => a.version ≠ b.version := by
  induction ms generalizing vs with
  | nil => exact List.Pairwise.nil
  | cons x ms ih =>
    unfold firstUnrecorded
    split
    · exact ih
    · refine List.Pairwise.cons (fun b hb => ?_) ih
      -- what runs after `x` has a number not recorded once `x` is
      have := (mem_firstUnrecorded.mp hb).1
      simp only [Finset.mem_insert, not_or] at this
      exact Ne.symm this.1

/-- Sorted by number, the migrations that run have strictly ascending numbers. -/
theorem firstUnrecorded_ascending (h : ms.Pairwise fun a b => a.version ≤ b.version) :
    (firstUnrecorded vs ms).Pairwise fun a b => a.version < b.version :=
  ((h.sublist firstUnrecorded_sublist).and pairwise_firstUnrecorded).imp
    fun h => lt_of_le_of_ne h.1 h.2

theorem pending_ascending (files : Option (List (String × String))) :
    (pending files).Pairwise fun a b => a.version ≤ b.version := by
  have h := List.pairwise_mergeSort byVersion_trans byVersion_total (sources files)
  rw [pending_eq]
  simpa only [byVersion, decide_eq_true_eq] using h

/-- Sorting by number keeps the order of the migrations of one number: the first of a number in
`pending` is the first of it in `sources`. -/
theorem find?_pending (files : Option (List (String × String))) (v : Int) :
    (pending files).find? (·.version == v) = (sources files).find? (·.version == v) := by
  let p : Migration → Bool := (·.version == v)
  let same := (sources files).filter p
  have hsame : same.Pairwise fun a b => byVersion a b = true := by
    refine List.pairwise_of_forall_sublist fun {a b} hab => ?_
    have ha : a ∈ same := hab.subset (by simp)
    have hb : b ∈ same := hab.subset (by simp)
    simp only [same, p, List.mem_filter, beq_iff_eq] at ha hb
    simp [byVersion, ha.2, hb.2]
  -- the migrations of number `v` keep their order through the sort, and there are no others
  have hsub : same.Sublist ((pending files).filter p) := by
    have h := (List.sublist_mergeSort byVersion_trans byVersion_total hsame
      (List.filter_sublist : same.Sublist (sources files))).filter p
    rwa [List.filter_filter, List.filter_congr (fun _ _ => Bool.and_self _)] at h
  have hlen : same.length = ((pending files).filter p).length :=
    ((List.mergeSort_perm _ _).filter p).length_eq.symm
  rw [← List.head?_filter, ← List.head?_filter, ← hsub.eq_of_length hlen]

/-- A migration that runs is one of the store's own, or one of a number none of those has. -/
theorem builtIn_or_of_mem_firstUnrecorded {files : Option (List (String × String))}
    (h : m ∈ firstUnrecorded vs (pending files)) :
    m ∈ builtIn ∨ ∀ b ∈ builtIn, b.version ≠ m.version := by
  have hf := (mem_firstUnrecorded.mp h).2
  rw [find?_pending, sources, List.find?_append] at hf
  cases hb : builtIn.find? (·.version == m.version) with
  | some b =>
    rw [hb, Option.some_or, Option.some.injEq] at hf
    exact Or.inl (hf ▸ List.mem_of_find?_eq_some hb)
  | none =>
    refine Or.inr fun b hbm hv => ?_
    simpa [hv] using List.find?_eq_none.mp hb b hbm

/-- A file's migration runs the file's text. -/
theorem ofFile?_sql {n c : String} (h : ofFile? n c = some m) : m.sql = c := by
  unfold ofFile? at h
  split at h
  · cases h
  · simp only [Option.bind_eq_bind, Option.bind_eq_some_iff] at h
    obtain ⟨v, -, hv⟩ := h
    rw [← Option.some.inj hv]

end Migration

namespace Database

open Migration

/-! ## The engine, as the runner relies on it -/

variable {σ : Type}

/-- What the runner's statements see of an engine's state: the numbers the record holds, when
the record is there in the form `recordTable` makes; the state the open transaction began at,
when one is open; and whether nothing is named as the record yet. -/
structure Ledger (σ : Type) where
  record : σ → Option (Finset Int)
  begun : σ → Option σ
  absent : σ → Prop

/-- SQLite's answers to the runner's own statements. -/
structure Keeps (E : Engine σ) (L : Ledger σ) : Prop where
  /-- The connection's switches change nothing the runner sees. -/
  switches : ∀ {c}, L.begun c = none → ∃ c', E.executeBatch c pragmas = (c', none) ∧
    L.begun c' = none ∧ L.record c' = L.record c ∧ (L.absent c' ↔ L.absent c)
  /-- Making the record keeps one that is there, and makes an empty one where nothing has its
  name. -/
  create : ∀ {c vs}, L.begun c = none → (L.absent c ∧ vs = ∅ ∨ L.record c = some vs) →
    ∃ c', E.executeBatch c recordTable = (c', none) ∧ L.begun c' = none ∧ L.record c' = some vs
  /-- The count query says whether the record holds a number, and changes nothing. -/
  count : ∀ {c vs v}, L.record c = some vs →
    E.execute c countRecorded [("?1", .integer v)] = (c, .ok [[.integer (if v ∈ vs then 1 else 0)]])
  /-- `BEGIN` opens a transaction at the state it finds. -/
  begin : ∀ {c vs}, L.begun c = none → L.record c = some vs →
    ∃ c', E.executeBatch c "BEGIN DEFERRED" = (c', none) ∧ L.begun c' = some c ∧
      L.record c' = some vs
  /-- Recording a number the record does not hold adds it, within the open transaction. -/
  insert : ∀ {c b vs} {m : Migration}, L.begun c = some b → L.record c = some vs →
    m.version ∉ vs → L.begun (E.execute c insertRecord (recordParams m)).1 = some b ∧
      ∀ rows, (E.execute c insertRecord (recordParams m)).2 = .ok rows →
        L.record (E.execute c insertRecord (recordParams m)).1 = some (insert m.version vs)
  /-- `COMMIT` ends the transaction with the record as it is, or fails and leaves it open. -/
  commit : ∀ {c b}, L.begun c = some b →
    ((E.executeBatch c "COMMIT").2 = none → L.begun (E.executeBatch c "COMMIT").1 = none ∧
      L.record (E.executeBatch c "COMMIT").1 = L.record c) ∧
    ((E.executeBatch c "COMMIT").2 ≠ none → L.begun (E.executeBatch c "COMMIT").1 = some b)
  /-- Rolling back returns to the state the transaction began at. -/
  rollback : ∀ {c b}, L.begun c = some b → E.rollbackOpen c = b
  /-- The ordered read gives the recorded numbers ascending. -/
  read : ∀ {c vs}, L.record c = some vs → ∃ ws : List Int,
    (E.execute c readRecord []).2 = .ok (ws.map fun v => [.integer v]) ∧
      ws.Pairwise (· < ·) ∧ ∀ v, v ∈ ws ↔ v ∈ vs

/-- A migration's text keeps the transaction it runs in open, and when it succeeds it leaves the
record as it was. -/
def Contained (E : Engine σ) (L : Ledger σ) (sql : String) : Prop :=
  ∀ c b vs, L.begun c = some b → L.record c = some vs →
    L.begun (E.executeBatch c sql).1 = some b ∧
      ((E.executeBatch c sql).2 = none → L.record (E.executeBatch c sql).1 = some vs)

/-- Runs migrations each in its transaction with its record, without asking the record first,
until one fails. -/
def transactAll (E : Engine σ) (c : σ) : List Migration → σ × Option Failure
  | [] => (c, none)
  | m :: rest =>
    match transact E c m with
    | (c, some f) => (c, some f)
    | (c, none) => transactAll E c rest

variable {E : Engine σ} {L : Ledger σ} {c : σ} {vs : Finset Int} {m : Migration}

/-! ## One migration, then a run -/

/-- A migration whose number is not recorded either runs and is recorded, ending its
transaction, or fails and leaves the state as it was. -/
theorem transact_spec (hE : Keeps E L) (hc : L.begun c = none) (hr : L.record c = some vs)
    (hv : m.version ∉ vs) (hm : Contained E L m.sql) :
    ((transact E c m).2 = none → L.begun (transact E c m).1 = none ∧
      L.record (transact E c m).1 = some (insert m.version vs)) ∧
    ((transact E c m).2 ≠ none → (transact E c m).1 = c) := by
  obtain ⟨c₁, hb, hb₁, hr₁⟩ := hE.begin hc hr
  obtain ⟨hm₁, hm₂⟩ := hm c₁ c vs hb₁ hr₁
  rcases hs : E.executeBatch c₁ m.sql with ⟨c₂, _ | f⟩
  · -- the migration's statements succeeded: its record, then the commit
    rw [hs] at hm₁ hm₂
    obtain ⟨hi₁, hi₂⟩ := hE.insert hm₁ (hm₂ rfl) hv
    rcases hi : E.execute c₂ insertRecord (recordParams m) with ⟨c₃, f | rows⟩
    · rw [hi] at hi₁
      simp [transact, hb, hs, hi, hE.rollback hi₁]
    · rw [hi] at hi₁ hi₂
      obtain ⟨hk₁, hk₂⟩ := hE.commit hi₁
      rcases hk : E.executeBatch c₃ "COMMIT" with ⟨c₄, _ | f⟩
      · rw [hk] at hk₁
        obtain ⟨hb₄, hr₄⟩ := hk₁ rfl
        simp [transact, hb, hs, hi, hk, hb₄, hr₄.trans (hi₂ rows rfl)]
      · rw [hk] at hk₂
        simp [transact, hb, hs, hi, hk, hE.rollback (hk₂ (by simp))]
  · rw [hs] at hm₁
    simp [transact, hb, hs, hE.rollback hm₁]

/-- Asking the record first skips exactly the migrations `firstUnrecorded` leaves out: the
runner runs the first of each unrecorded number, in the order given, until one fails. -/
theorem runAll_eq_transactAll (hE : Keeps E L) {ms : List Migration}
    (hms : ∀ m ∈ ms, Contained E L m.sql) :
    ∀ {c vs}, L.begun c = none → L.record c = some vs →
      runAll E c ms = transactAll E c (firstUnrecorded vs ms) := by
  induction ms with
  | nil => intro c vs _ _; rfl
  | cons m ms ih =>
    intro c vs hc hr
    have hms' : ∀ m' ∈ ms, Contained E L m'.sql := fun m' hm' => hms m' (List.mem_cons_of_mem m hm')
    rw [runAll, hE.count hr]
    by_cases hv : m.version ∈ vs
    · -- recorded: the count query answers one and the runner moves on
      simp only [firstInteger, hv, if_true, firstUnrecorded]
      exact ih hms' hc hr
    · simp only [firstInteger, hv, if_false, firstUnrecorded, transactAll]
      have hspec := transact_spec hE hc hr hv (hms m List.mem_cons_self)
      rcases ht : transact E c m with ⟨c', _ | f⟩
      · rw [ht] at hspec
        obtain ⟨hc', hr'⟩ := hspec.1 rfl
        exact ih hms' hc' hr'
      · rfl

/-- A run of migrations of distinct unrecorded numbers stops at the first that fails, with the
record holding the numbers of those before it, and no transaction open. -/
theorem transactAll_spec (hE : Keeps E L) {ms : List Migration}
    (hms : ∀ m ∈ ms, Contained E L m.sql)
    (hd : ms.Pairwise fun a b => a.version ≠ b.version) :
    ∀ {c vs}, L.begun c = none → L.record c = some vs → (∀ m ∈ ms, m.version ∉ vs) →
      ∃ done rest, ms = done ++ rest ∧ L.begun (transactAll E c ms).1 = none ∧
        L.record (transactAll E c ms).1 = some (vs ∪ (done.map (·.version)).toFinset) ∧
        ((transactAll E c ms).2 = none ↔ rest = []) := by
  induction ms with
  | nil =>
    intro c vs hc hr _
    exact ⟨[], [], rfl, hc, by simpa [transactAll] using hr, by simp [transactAll]⟩
  | cons m ms ih =>
    intro c vs hc hr hfresh
    rw [List.pairwise_cons] at hd
    have hspec := transact_spec hE hc hr (hfresh m List.mem_cons_self) (hms m List.mem_cons_self)
    rcases ht : transact E c m with ⟨c', _ | f⟩
    · -- `m` ran: the rest runs from a record that also holds its number
      rw [ht] at hspec
      obtain ⟨hc', hr'⟩ := hspec.1 rfl
      have hfresh' : ∀ m' ∈ ms, m'.version ∉ insert m.version vs := by
        intro m' hm'
        simp only [Finset.mem_insert, not_or]
        exact ⟨Ne.symm (hd.1 m' hm'), hfresh m' (List.mem_cons_of_mem m hm')⟩
      obtain ⟨done, rest, hms', hb, hr'', hend⟩ :=
        ih (fun m' hm' => hms m' (List.mem_cons_of_mem m hm')) hd.2 hc' hr' hfresh'
      have hT : transactAll E c (m :: ms) = transactAll E c' ms := by simp only [transactAll, ht]
      refine ⟨m :: done, rest, by rw [hms']; rfl, by rw [hT]; exact hb, ?_, by rw [hT]; exact hend⟩
      rw [hT, hr'']
      congr 1
      ext v
      simp only [Finset.mem_union, Finset.mem_insert, List.mem_toFinset, List.map_cons,
        List.mem_cons, or_assoc, or_left_comm]
    · -- `m` failed: the state is as it was, and the run stops there
      rw [ht] at hspec
      have hc' : c' = c := hspec.2 (by simp)
      have hT : transactAll E c (m :: ms) = (c, some f) := by simp only [transactAll, ht, hc']
      exact ⟨[], m :: ms, rfl, by rw [hT]; exact hc, by rw [hT]; simpa using hr,
        by rw [hT]; simp⟩

/-- The record read back as the numbers it holds, ascending. -/
theorem recorded_spec (hE : Keeps E L) (hr : L.record c = some vs) :
    ∃ ws, recorded E c = .ok ws ∧ ws.Pairwise (· < ·) ∧ ∀ v, v ∈ ws ↔ v ∈ vs := by
  obtain ⟨ws, hread, hs, hmem⟩ := hE.read hr
  refine ⟨ws, ?_, hs, hmem⟩
  clear hs hmem
  rw [recorded, hread]
  dsimp only
  clear hread
  -- each row is one integer, read back in order
  induction ws with
  | nil => rfl
  | cons v ws ih => rw [List.map_cons, List.foldr_cons, ih]; rfl

/-- Before the migrations, opening keeps or makes the record and opens no transaction; it ends
where the run of the migrations ends, with the run's failure or the record read back. -/
theorem openWith_eq (hE : Keeps E L) (hc : L.begun c = none)
    (hstart : L.absent c ∧ vs = ∅ ∨ L.record c = some vs) (ms : List Migration) :
    ∃ c₀, L.begun c₀ = none ∧ L.record c₀ = some vs ∧
      (openWith E c ms).1 = (runAll E c₀ ms).1 ∧
      (openWith E c ms).2 = (runAll E c₀ ms).2.elim (recorded E (runAll E c₀ ms).1) .error := by
  obtain ⟨c₁, hs, hb₁, hr₁, ha₁⟩ := hE.switches hc
  have hstart₁ : L.absent c₁ ∧ vs = ∅ ∨ L.record c₁ = some vs := by
    rw [ha₁, hr₁]
    exact hstart
  obtain ⟨c₀, hk, hb₀, hr₀⟩ := hE.create hb₁ hstart₁
  refine ⟨c₀, hb₀, hr₀, ?_⟩
  simp only [openWith, hs, hk]
  rcases runAll E c₀ ms with ⟨c', _ | f⟩ <;> exact ⟨rfl, rfl⟩

/-! ## Opening -/

/-- What opening with the migrations of `files` does from `c`, whose record holds `vs`. -/
structure RunsOnce (E : Engine σ) (L : Ledger σ) (c : σ) (vs : Finset Int)
    (files : Option (List (String × String))) : Prop where
  /-- Of each number not recorded, the first migration runs: the store's own before the files,
  the files in order of name. -/
  chosen : ∀ m, m ∈ firstUnrecorded vs (pending files) ↔
    m.version ∉ vs ∧ (sources files).find? (·.version == m.version) = some m
  /-- They run in ascending order of number, each number once. -/
  ascending : (firstUnrecorded vs (pending files)).Pairwise fun a b => a.version < b.version
  /-- A file whose number is one of the store's own never runs. -/
  unshadowed : ∀ m ∈ firstUnrecorded vs (pending files),
    m ∈ builtIn ∨ ∀ b ∈ builtIn, b.version ≠ m.version
  /-- Opening runs exactly these, each in its transaction, until one fails; the record then
  holds the numbers it held and those of the migrations that ran, none of the rest; a
  successful opening answers the recorded numbers ascending, a failed one its failure. -/
  ran : ∃ c₀ done rest, firstUnrecorded vs (pending files) = done ++ rest ∧
    runAll E c₀ (pending files) = transactAll E c₀ (firstUnrecorded vs (pending files)) ∧
    (openWith E c (pending files)).1 = (runAll E c₀ (pending files)).1 ∧
    L.begun (openWith E c (pending files)).1 = none ∧
    L.record (openWith E c (pending files)).1 = some (vs ∪ (done.map (·.version)).toFinset) ∧
    (∀ m ∈ rest, m.version ∉ vs ∪ (done.map (·.version)).toFinset) ∧
    (rest = [] → ∃ ws, (openWith E c (pending files)).2 = .ok ws ∧ ws.Pairwise (· < ·) ∧
      ∀ v, v ∈ ws ↔ v ∈ vs ∪ (done.map (·.version)).toFinset) ∧
    (rest ≠ [] → ∃ f, (openWith E c (pending files)).2 = .error f)

/-- Opening the database with no transaction open and the record holding `vs` (or no record,
and `vs` empty) runs the first migration of each unrecorded number once, in ascending order,
until one fails. A later opening starts from the record this one leaves. -/
theorem opening_runs_first_unrecorded (hE : Keeps E L) (hc : L.begun c = none)
    (hstart : L.absent c ∧ vs = ∅ ∨ L.record c = some vs)
    (files : Option (List (String × String)))
    (hms : ∀ m ∈ pending files, Contained E L m.sql) :
    RunsOnce E L c vs files := by
  have hchosen : ∀ m, m ∈ firstUnrecorded vs (pending files) ↔
      m.version ∉ vs ∧ (sources files).find? (·.version == m.version) = some m := by
    intro m
    rw [mem_firstUnrecorded, find?_pending]
  refine ⟨hchosen, firstUnrecorded_ascending (pending_ascending files),
    fun m hm => builtIn_or_of_mem_firstUnrecorded hm, ?_⟩
  obtain ⟨c₀, hb₀, hr₀, hopen₁, hopen₂⟩ := openWith_eq hE hc hstart (pending files)
  have hrun := runAll_eq_transactAll hE hms hb₀ hr₀
  have hms' : ∀ m ∈ firstUnrecorded vs (pending files), Contained E L m.sql :=
    fun m hm => hms m (firstUnrecorded_sublist.subset hm)
  obtain ⟨done, rest, hsplit, hb, hr, hend⟩ := transactAll_spec hE hms' pairwise_firstUnrecorded
    hb₀ hr₀ fun m hm => ((hchosen m).mp hm).1
  rw [hrun] at hopen₁ hopen₂
  -- the migrations that did not run have numbers neither recorded nor run
  have hrest : ∀ m ∈ rest, m.version ∉ vs ∪ (done.map (·.version)).toFinset := by
    intro m hm
    have hmr : m ∈ firstUnrecorded vs (pending files) := hsplit ▸ List.mem_append_right _ hm
    have hd := @pairwise_firstUnrecorded vs (pending files)
    rw [hsplit, List.pairwise_append] at hd
    simp only [Finset.mem_union, List.mem_toFinset, List.mem_map, not_or, not_exists, not_and]
    exact ⟨((hchosen m).mp hmr).1, fun d hdm hv => hd.2.2 d hdm m hm hv⟩
  refine ⟨c₀, done, rest, hsplit, hrun, by rw [hopen₁, hrun], by rw [hopen₁]; exact hb,
    by rw [hopen₁]; exact hr, hrest, fun hnil => ?_, fun hne => ?_⟩
  · obtain ⟨ws, hws, hs, hmem⟩ := recorded_spec hE hr
    refine ⟨ws, ?_, hs, hmem⟩
    rw [hopen₂, hend.mpr hnil, Option.elim_none, hws]
  · obtain ⟨f, hf⟩ := Option.ne_none_iff_exists'.mp fun h => hne (hend.mp h)
    exact ⟨f, by rw [hopen₂, hf, Option.elim_some]⟩

/-- An engine that keeps the record of migrations and nothing else: the record, and the record
as it was when the open transaction began. Every other statement succeeds and changes nothing. -/
structure RecordOnly where
  record : Option (Finset Int)
  saved : Option (Option (Finset Int))

/-- The statements of `RecordOnly`, answered as SQLite answers them on the record. -/
def recordOnly : Engine RecordOnly where
  execute t sql params :=
    if sql = countRecorded then
      (t, .ok [[.integer (match params with
        | [(_, .integer v)] => if v ∈ t.record.getD ∅ then 1 else 0
        | _ => 0)]])
    else if sql = insertRecord then
      match params with
      | (_, .integer v) :: _ => ({ t with record := t.record.map (insert v) }, .ok [])
      | _ => (t, .ok [])
    else if sql = readRecord then
      (t, .ok (((t.record.getD ∅).sort (· ≤ ·)).map fun v => [.integer v]))
    else (t, .ok [])
  executeBatch t sql :=
    if sql = "BEGIN DEFERRED" then ({ t with saved := some t.record }, none)
    else if sql = "COMMIT" then ({ t with saved := none }, none)
    else if sql = recordTable then ({ t with record := some (t.record.getD ∅) }, none)
    else (t, none)
  rollbackOpen t :=
    match t.saved with
    | some r => ⟨r, none⟩
    | none => t

/-- What the runner sees of `RecordOnly`. -/
def recordOnlyLedger : Ledger RecordOnly where
  record t := t.record
  begun t := t.saved.map fun r => ⟨r, none⟩
  absent t := t.record = none

/-- The runner's own statements are told apart by their texts. -/
theorem runner_texts_differ :
    pragmas ≠ "BEGIN DEFERRED" ∧ pragmas ≠ "COMMIT" ∧ pragmas ≠ recordTable ∧
      recordTable ≠ "BEGIN DEFERRED" ∧ recordTable ≠ "COMMIT" ∧
      insertRecord ≠ countRecorded ∧ readRecord ≠ countRecorded ∧ readRecord ≠ insertRecord := by
  decide

theorem keeps_recordOnly : Keeps recordOnly recordOnlyLedger where
  switches {c} hc := by
    obtain ⟨h₁, h₂, h₃, -⟩ := runner_texts_differ
    exact ⟨c, by simp only [recordOnly, if_neg h₁, if_neg h₂, if_neg h₃], hc, rfl, Iff.rfl⟩
  create {c vs} hc hstart := by
    obtain ⟨-, -, -, h₁, h₂, -⟩ := runner_texts_differ
    refine ⟨{ c with record := some (c.record.getD ∅) },
      by simp only [recordOnly, if_neg h₁, if_neg h₂, if_true], hc, ?_⟩
    rcases hstart with ⟨habs, rfl⟩ | hr
    · simp only [recordOnlyLedger] at habs ⊢
      rw [habs]
      rfl
    · simp only [recordOnlyLedger] at hr ⊢
      rw [hr]
      rfl
  count {c vs v} hr := by
    simp only [recordOnlyLedger] at hr
    simp [recordOnly, hr]
  begin {c vs} hc hr := by
    simp only [recordOnlyLedger, Option.map_eq_none_iff] at hc hr
    refine ⟨{ c with saved := some c.record }, by simp [recordOnly], ?_, hr⟩
    cases c
    simp_all [recordOnlyLedger]
  insert {c b vs m} hb hr _ := by
    obtain ⟨-, -, -, -, -, h, -⟩ := runner_texts_differ
    simp only [recordOnlyLedger] at hb hr ⊢
    simp [recordOnly, if_neg h, recordParams, hb, hr]
  commit {c b} hb := by
    simp [recordOnly, recordOnlyLedger]
  rollback {c b} hb := by
    simp only [recordOnlyLedger, Option.map_eq_some_iff] at hb
    obtain ⟨r, hr, rfl⟩ := hb
    simp [recordOnly, hr]
  read {c vs} hr := by
    obtain ⟨-, -, -, -, -, -, h₁, h₂⟩ := runner_texts_differ
    simp only [recordOnlyLedger] at hr
    refine ⟨vs.sort (· ≤ ·), ?_, (Finset.sortedLT_sort vs).pairwise, fun v => Finset.mem_sort _⟩
    simp [recordOnly, if_neg h₁, if_neg h₂, hr]

/-- A text that is none of the runner's transaction and record statements does nothing on
`RecordOnly`, so it keeps its transaction and the record. -/
theorem contained_recordOnly {sql : String} (h₁ : sql ≠ "BEGIN DEFERRED") (h₂ : sql ≠ "COMMIT")
    (h₃ : sql ≠ recordTable) : Contained recordOnly recordOnlyLedger sql := by
  intro c b vs hb hr
  simp only [recordOnly, if_neg h₁, if_neg h₂, if_neg h₃]
  exact ⟨hb, fun _ => hr⟩

/-- One migration file besides the store's own. -/
def extraFiles : Option (List (String × String)) :=
  some [("0005_extra.sql", "CREATE TABLE extra (x INTEGER);")]

/-- Opening a new database with the store's migrations and one file, on an engine that answers
alike on the record. -/
theorem opening_new_database_runs_extra_once :
    Keeps recordOnly recordOnlyLedger ∧ recordOnlyLedger.begun ⟨none, none⟩ = none ∧
      (recordOnlyLedger.absent ⟨none, none⟩ ∧ (∅ : Finset Int) = ∅) ∧
      (∀ m ∈ pending extraFiles, Contained recordOnly recordOnlyLedger m.sql) ∧
      RunsOnce recordOnly recordOnlyLedger ⟨none, none⟩ ∅ extraFiles := by
  have hms : ∀ m ∈ pending extraFiles, Contained recordOnly recordOnlyLedger m.sql := by
    intro m hm
    rw [pending_eq, List.mem_mergeSort, sources, List.mem_append] at hm
    rcases hm with hb | hf
    · have : m.sql ≠ "BEGIN DEFERRED" ∧ m.sql ≠ "COMMIT" ∧ m.sql ≠ recordTable := by
        revert m
        decide
      exact contained_recordOnly this.1 this.2.1 this.2.2
    · simp only [extraFiles, Option.getD_some, List.mergeSort_singleton, List.filterMap_cons,
        List.filterMap_nil] at hf
      split at hf
      · cases hf
      · rename_i hfile
        rw [List.mem_singleton] at hf
        subst hf
        rw [ofFile?_sql hfile]
        exact contained_recordOnly (by decide) (by decide) (by decide)
  have habs : recordOnlyLedger.absent ⟨none, none⟩ := rfl
  exact ⟨keeps_recordOnly, rfl, ⟨habs, rfl⟩, hms,
    opening_runs_first_unrecorded keeps_recordOnly rfl (Or.inl ⟨habs, rfl⟩) extraFiles hms⟩

end Database

end Shipyard.Store
