import Mathlib
import Shipyard.Workload.Stats
/-!
# Counting pods by phase and by version

`aggregateWorkload` folds the pods twice: into the counts of each phase, and into a table of
versions kept in ascending order. Each pod adds one to the count of its phase, so the overall
counts are the number of pods in each phase (`count_counts`). The table holds exactly the
versions the pods carry, each once and in ascending order, and under each version the counts of
the pods that carry it (`VersionTable`, kept by each pod added, `versionTable_versions`). The
health is read from the counts: failing when a pod failed, degraded when one is pending or fewer
run than desired, healthy otherwise.
-/
namespace Shipyard

/-- The count of one phase. -/
def PhaseCounts.count (c : PhaseCounts) : PodPhase → Int
  | .running => c.running
  | .pending => c.pending
  | .failed => c.failed

namespace PhaseCounts

@[simp] theorem count_add (c : PhaseCounts) (p q : PodPhase) :
    (c.add p).count q = c.count q + if p = q then 1 else 0 := by
  cases p <;> cases q <;> simp [add, count]

@[simp] theorem count_empty (q : PodPhase) : ({} : PhaseCounts).count q = 0 := by
  cases q <;> rfl

end PhaseCounts

/-! ## Versions of images -/

/-- An image with no `:` has the version `latest`. -/
theorem imageVersion_of_not_mem {image : String} (h : ':' ∉ image.toList) :
    imageVersion image = "latest" := by
  simp [imageVersion, Text.splitLastChar_of_not_mem h]

/-- The version of an image is the text after its last `:`. -/
theorem imageVersion_append (pre : String) {tag : String} (h : ':' ∉ tag.toList) :
    imageVersion (pre ++ ":" ++ tag) = tag := by
  have hsep : (":" : String) = String.singleton ':' := rfl
  rw [imageVersion, hsep, Text.splitLastChar_append h]

/-! ## The version table -/

section Table

variable {v w : String} {p : PodPhase} {T : List (String × PhaseCounts)}

theorem lookup_cons_ne {β : Type} {u : String} {b : β} {rest : List (String × β)} (h : w ≠ u) :
    ((u, b) :: rest).lookup w = rest.lookup w := by
  have hb : (w == u) = false := by simpa using h
  simp only [List.lookup_cons, hb]

theorem mem_keys_bumpVersion :
    w ∈ (bumpVersion v p T).map (·.1) ↔ w = v ∨ w ∈ T.map (·.1) := by
  induction T with
  | nil => simp [bumpVersion]
  | cons e rest ih =>
    obtain ⟨u, c⟩ := e
    simp only [bumpVersion]
    split_ifs with hlt heq
    · simp
    · have hvu : v = u := by simpa using heq
      subst hvu
      simp
    · simp only [List.map_cons, List.mem_cons, ih]
      tauto

/-- A table whose versions ascend has no entry before a version below all of them. -/
theorem lookup_eq_none_of_lt (h : ∀ u ∈ T.map (·.1), v < u) : T.lookup v = none := by
  induction T with
  | nil => rfl
  | cons e rest ih =>
    obtain ⟨u, c⟩ := e
    have hvu : v ≠ u := ne_of_lt (h u (by simp))
    rw [lookup_cons_ne hvu]
    exact ih fun u' hu' => h u' (by simp [hu'])

theorem bumpVersion_sorted (h : (T.map (·.1)).Pairwise (· < ·)) :
    ((bumpVersion v p T).map (·.1)).Pairwise (· < ·) := by
  induction T with
  | nil => simp [bumpVersion]
  | cons e rest ih =>
    obtain ⟨u, c⟩ := e
    rw [List.map_cons, List.pairwise_cons] at h
    simp only [bumpVersion]
    split_ifs with hlt heq
    · simp only [List.map_cons, List.pairwise_cons, List.mem_cons]
      exact ⟨fun x hx => hx.elim (· ▸ hlt) (lt_trans hlt ∘ h.1 x), h.1, h.2⟩
    · simpa using h
    · have huv : u < v := lt_of_le_of_ne (not_lt.mp hlt) (fun e => heq (by simp [e]))
      simp only [List.map_cons, List.pairwise_cons, mem_keys_bumpVersion]
      exact ⟨fun x hx => hx.elim (· ▸ huv) (h.1 x), ih h.2⟩

/-- Adding a pod of version `v` adds one to the count of its phase under `v`, opening `v` with
empty counts when it is new, and leaves every other version's counts as they were. -/
theorem lookup_bumpVersion (h : (T.map (·.1)).Pairwise (· < ·)) :
    (bumpVersion v p T).lookup w =
      if w = v then some (((T.lookup v).getD {}).add p) else T.lookup w := by
  induction T with
  | nil =>
    by_cases hw : w = v
    · subst hw; simp [bumpVersion]
    · simp [bumpVersion, lookup_cons_ne hw, hw]
  | cons e rest ih =>
    obtain ⟨u, c⟩ := e
    rw [List.map_cons, List.pairwise_cons] at h
    by_cases hlt : v < u
    · -- `v` is new: it sorts below every version of the table
      have hnone : ((u, c) :: rest).lookup v = none :=
        lookup_eq_none_of_lt fun x hx => by
          simp only [List.map_cons, List.mem_cons] at hx
          exact hx.elim (· ▸ hlt) (lt_trans hlt ∘ h.1 x)
      rw [bumpVersion, if_pos hlt]
      by_cases hw : w = v
      · subst hw; simp [hnone]
      · simp [lookup_cons_ne hw, hw]
    · by_cases hvu : v = u
      · subst hvu
        rw [bumpVersion, if_neg hlt, if_pos (by simp)]
        by_cases hw : w = v
        · subst hw; simp
        · simp [lookup_cons_ne hw, hw]
      · rw [bumpVersion, if_neg hlt, if_neg (by simpa using hvu)]
        by_cases hw : w = u
        · subst hw; simp [Ne.symm hvu]
        · simp [lookup_cons_ne hw, lookup_cons_ne hvu, ih h.2]

theorem lookup_of_mem {c : PhaseCounts} (h : (T.map (·.1)).Pairwise (· < ·)) (hm : (v, c) ∈ T) :
    T.lookup v = some c := by
  induction T with
  | nil => cases hm
  | cons e rest ih =>
    obtain ⟨u, d⟩ := e
    rw [List.map_cons, List.pairwise_cons] at h
    rcases List.mem_cons.mp hm with he | hrest
    · cases he; simp
    · have hvu : v ≠ u := ne_of_gt (h.1 v (List.mem_map_of_mem hrest))
      rw [lookup_cons_ne hvu]
      exact ih h.2 hrest

theorem sum_bumpVersion (q : PodPhase) :
    ((bumpVersion v p T).map (·.2.count q)).sum = (T.map (·.2.count q)).sum + if p = q then 1 else 0 := by
  induction T with
  | nil => simp [bumpVersion]
  | cons e rest ih =>
    obtain ⟨u, c⟩ := e
    by_cases hlt : v < u
    · rw [bumpVersion, if_pos hlt]
      simp only [List.map_cons, List.sum_cons, PhaseCounts.count_add, PhaseCounts.count_empty]
      ring
    · by_cases hvu : (v == u) = true
      · rw [bumpVersion, if_neg hlt, if_pos hvu]
        simp only [List.map_cons, List.sum_cons, PhaseCounts.count_add]
        ring
      · rw [bumpVersion, if_neg hlt, if_neg hvu]
        simp only [List.map_cons, List.sum_cons, ih]
        ring

end Table

/-! ## The fold over the pods -/

section Fold

variable (name : String) (desired : Int) (pods : List (PodPhase × String)) (x : PodPhase × String)

theorem counts_append_singleton :
    (aggregateWorkload name desired (pods ++ [x])).counts =
      (aggregateWorkload name desired pods).counts.add x.1 := by
  simp [aggregateWorkload]

theorem versions_append_singleton :
    (aggregateWorkload name desired (pods ++ [x])).versions =
      bumpVersion (imageVersion x.2) x.1 (aggregateWorkload name desired pods).versions := by
  simp [aggregateWorkload]

/-- The overall count of a phase is the number of pods in it. -/
theorem count_counts (q : PodPhase) :
    (aggregateWorkload name desired pods).counts.count q = pods.countP (·.1 = q) := by
  induction pods using List.reverseRecOn with
  | nil => simp [aggregateWorkload]
  | append_singleton init y ih =>
    rw [counts_append_singleton, PhaseCounts.count_add, ih, List.countP_append]
    simp

end Fold

/-- The pods of the three phases together are all the pods that `r` picks. -/
theorem countP_phases (r : PodPhase × String → Bool) (pods : List (PodPhase × String)) :
    pods.countP (fun x => x.1 = .running ∧ r x) + pods.countP (fun x => x.1 = .pending ∧ r x) +
      pods.countP (fun x => x.1 = .failed ∧ r x) = pods.countP r := by
  induction pods with
  | nil => rfl
  | cons x rest ih =>
    simp only [List.countP_cons]
    rw [← ih]
    cases hx : x.1 <;> by_cases hr : r x <;> simp [hr] <;> omega

/-- The version table of a list of pods: versions in ascending order, exactly those the pods
carry, and under each the counts of the pods that carry it. -/
structure VersionTable (pods : List (PodPhase × String)) (T : List (String × PhaseCounts)) :
    Prop where
  sorted : (T.map (·.1)).Pairwise (· < ·)
  keys : ∀ v, v ∈ T.map (·.1) ↔ ∃ x ∈ pods, imageVersion x.2 = v
  counts : ∀ v q, ((T.lookup v).getD {}).count q =
    pods.countP (fun x => x.1 = q ∧ imageVersion x.2 = v)

theorem VersionTable.nil : VersionTable [] [] where
  sorted := List.Pairwise.nil
  keys := by simp
  counts := by simp

theorem VersionTable.snoc {pods : List (PodPhase × String)} {T : List (String × PhaseCounts)}
    (h : VersionTable pods T) (x : PodPhase × String) :
    VersionTable (pods ++ [x]) (bumpVersion (imageVersion x.2) x.1 T) where
  sorted := bumpVersion_sorted h.sorted
  keys v := by
    rw [mem_keys_bumpVersion, h.keys]
    simp only [List.mem_append, List.mem_singleton]
    constructor
    · rintro (rfl | ⟨y, hy, rfl⟩)
      · exact ⟨x, Or.inr rfl, rfl⟩
      · exact ⟨y, Or.inl hy, rfl⟩
    · rintro ⟨y, hy | rfl, rfl⟩
      · exact Or.inr ⟨y, hy, rfl⟩
      · exact Or.inl rfl
  counts v q := by
    rw [lookup_bumpVersion h.sorted, List.countP_append]
    by_cases hv : v = imageVersion x.2
    · subst hv
      simp only [if_pos, Option.getD_some, PhaseCounts.count_add, h.counts]
      simp
    · rw [if_neg hv, h.counts]
      simp [Ne.symm hv]

theorem versionTable_versions (name : String) (desired : Int) (pods : List (PodPhase × String)) :
    VersionTable pods (aggregateWorkload name desired pods).versions := by
  induction pods using List.reverseRecOn with
  | nil => exact VersionTable.nil
  | append_singleton init x ih =>
    rw [versions_append_singleton]
    exact ih.snoc x

theorem sum_versions (name : String) (desired : Int) (pods : List (PodPhase × String)) (q : PodPhase) :
    ((aggregateWorkload name desired pods).versions.map (·.2.count q)).sum =
      (aggregateWorkload name desired pods).counts.count q := by
  induction pods using List.reverseRecOn with
  | nil => simp [aggregateWorkload]
  | append_singleton init x ih =>
    rw [versions_append_singleton, counts_append_singleton, sum_bumpVersion, ih,
      PhaseCounts.count_add]

/-- Under each version listed, the counts of the pods that carry it; there is at least one. -/
theorem versions_counts {name : String} {desired : Int} {pods : List (PodPhase × String)}
    {vc : String × PhaseCounts} (hvc : vc ∈ (aggregateWorkload name desired pods).versions) :
    (∀ q, vc.2.count q = pods.countP (fun x => x.1 = q ∧ imageVersion x.2 = vc.1)) ∧
      0 < vc.2.running + vc.2.pending + vc.2.failed := by
  have ht := versionTable_versions name desired pods
  have hlookup := lookup_of_mem ht.sorted hvc
  have hcount : ∀ q, vc.2.count q = pods.countP (fun x => x.1 = q ∧ imageVersion x.2 = vc.1) := by
    intro q
    rw [← ht.counts, hlookup, Option.getD_some]
  obtain ⟨x, hx, hxv⟩ := (ht.keys vc.1).mp (List.mem_map_of_mem hvc)
  have hpos : 0 < pods.countP (fun x => imageVersion x.2 = vc.1) :=
    List.countP_pos_iff.mpr ⟨x, hx, by simpa using hxv⟩
  refine ⟨hcount, ?_⟩
  have hsum := countP_phases (fun x => imageVersion x.2 = vc.1) pods
  have hr := hcount .running
  have hp := hcount .pending
  have hf := hcount .failed
  simp only [PhaseCounts.count, decide_eq_true_eq] at hr hp hf hsum
  omega

theorem health_eq (name : String) (desired : Int) (pods : List (PodPhase × String)) :
    (aggregateWorkload name desired pods).health =
      if ∃ x ∈ pods, x.1 = .failed then .failing
      else if (∃ x ∈ pods, x.1 = .pending) ∨ (pods.countP (·.1 = .running) : Int) < desired then
        .degraded
      else .healthy := by
  have hf := count_counts name desired pods .failed
  have hp := count_counts name desired pods .pending
  have hr := count_counts name desired pods .running
  simp only [PhaseCounts.count] at hf hp hr
  have hf' : 0 < (aggregateWorkload name desired pods).counts.failed ↔ ∃ x ∈ pods, x.1 = .failed := by
    rw [hf, Nat.cast_pos, List.countP_pos_iff]
    simp
  have hp' : 0 < (aggregateWorkload name desired pods).counts.pending ↔ ∃ x ∈ pods, x.1 = .pending := by
    rw [hp, Nat.cast_pos, List.countP_pos_iff]
    simp
  simp only [aggregateWorkload] at hf' hp' hr ⊢
  simp only [gt_iff_lt, hf', hr, Bool.or_eq_true, decide_eq_true_eq, hp']

/-- Workload statistics count every pod once: overall in its phase, and under the version of its
image (the text after the image's last `:`, or `latest`), the versions listed once each in
ascending order, each with a pod, their counts adding up to the overall ones. The workload is
failing when a pod failed, else degraded when one is pending or fewer run than desired, else
healthy. -/
theorem aggregateWorkload_counts_every_pod (name : String) (desired : Int)
    (pods : List (PodPhase × String)) :
    let s := aggregateWorkload name desired pods
    (∀ image : String, ':' ∉ image.toList → imageVersion image = "latest") ∧
    (∀ pre tag : String, ':' ∉ tag.toList → imageVersion (pre ++ ":" ++ tag) = tag) ∧
    (∀ q, s.counts.count q = pods.countP (·.1 = q)) ∧
    s.counts.running + s.counts.pending + s.counts.failed = pods.length ∧
    (s.versions.map (·.1)).Pairwise (· < ·) ∧
    (∀ v, v ∈ s.versions.map (·.1) ↔ ∃ x ∈ pods, imageVersion x.2 = v) ∧
    (∀ vc ∈ s.versions, ∀ q, vc.2.count q = pods.countP (fun x => x.1 = q ∧ imageVersion x.2 = vc.1)) ∧
    (∀ vc ∈ s.versions, 0 < vc.2.running + vc.2.pending + vc.2.failed) ∧
    (∀ q, (s.versions.map (·.2.count q)).sum = s.counts.count q) ∧
    s.health = if ∃ x ∈ pods, x.1 = .failed then .failing
      else if (∃ x ∈ pods, x.1 = .pending) ∨ (pods.countP (·.1 = .running) : Int) < desired then
        .degraded
      else .healthy := by
  intro s
  have ht := versionTable_versions name desired pods
  have htotal : s.counts.running + s.counts.pending + s.counts.failed = pods.length := by
    have hr := count_counts name desired pods .running
    have hp := count_counts name desired pods .pending
    have hf := count_counts name desired pods .failed
    have hsum := countP_phases (fun _ => true) pods
    simp only [PhaseCounts.count, and_true, List.countP_true] at hr hp hf hsum
    simp only [s, hr, hp, hf]
    omega
  exact ⟨fun _ => imageVersion_of_not_mem, fun pre _ => imageVersion_append pre,
    count_counts name desired pods, htotal, ht.sorted, ht.keys,
    fun _ hvc => (versions_counts hvc).1, fun _ hvc => (versions_counts hvc).2,
    sum_versions name desired pods, health_eq name desired pods⟩

end Shipyard
