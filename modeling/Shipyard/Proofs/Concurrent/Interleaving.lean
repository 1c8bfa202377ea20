import Mathlib.Data.List.Basic
/-!
# Interleavings of atomic calls

Requests and deploy runs run concurrently and meet only in the services they call: the store,
each of whose calls is one transaction behind one lock, and the cluster. Each such call is atomic,
so a thread of the platform is a state machine whose transitions are its calls: `Step σ τ ℓ`
relates the shared state and a thread's own state before a call to the label the call leaves in
the log, the shared state after it and the thread's next state.

An interleaving runs a list of threads one call at a time, each time a call of a thread the
scheduler admits, and logs each call's label with the index of the thread that made it. The
scheduler `anyOrder` admits every thread and so gives every order the platform may run its
threads in; a scheduler that holds some threads back gives the runs of a locking discipline.

A fact of every state an interleaving reaches follows from one that every call keeps
(`Interleaving.inv`); a fact about a stretch of the log, from splitting the interleaving there
(`Interleaving.split`); and what a thread did after a point, from its first call after it
(`Interleaving.first_call`). A log that grows by one call at a time is split at one of its entries
by `append_cons_eq_append_singleton`: the entry is the last call, or the split is in the log
before it.
-/
namespace Shipyard.Concurrent

/-- One atomic call of a thread: the shared state and the thread's own state before it, the label
it logs, and the shared state and the thread's state after it. -/
abbrev Step (σ τ ℓ : Type) := σ → τ → ℓ → σ → τ → Prop

/-- Which thread a scheduler may run next, given the state of every thread. -/
abbrev Admits (τ : Type) := List τ → Nat → Prop

/-- The scheduler that may run any thread at any time. -/
def anyOrder {τ : Type} : Admits τ := fun _ _ => True

section

variable {σ τ ℓ : Type} (step : Step σ τ ℓ) (admits : Admits τ) (s : σ) (ts : List τ)

/-- From shared state `s` and threads `ts`, the calls of `log` lead to `s'` and `ts'`: each entry
`(i, l)` is a call of the `i`-th thread, admitted by the scheduler when it was made, that logged
`l`. -/
inductive Interleaving : List (Nat × ℓ) → σ → List τ → Prop
  | nil : Interleaving [] s ts
  | snoc {s₁ s₂ : σ} {ts₁ : List τ} {log : List (Nat × ℓ)} {i : Nat} {t t' : τ} {l : ℓ} :
      Interleaving log s₁ ts₁ → ts₁[i]? = some t → admits ts₁ i → step s₁ t l s₂ t' →
      Interleaving (log ++ [(i, l)]) s₂ (ts₁.set i t')

end

namespace Interleaving

variable {σ τ ℓ : Type} {step : Step σ τ ℓ} {admits : Admits τ}
variable {s s' s₁ s₂ : σ} {ts ts' ts₁ ts₂ : List τ} {log l₁ l₂ : List (Nat × ℓ)}

/-- Threads are neither started nor dropped. -/
theorem length_eq (h : Interleaving step admits s ts log s' ts') : ts'.length = ts.length := by
  induction h with
  | nil => rfl
  | snoc _ _ _ _ ih => rw [List.length_set, ih]

/-- One admitted call is an interleaving. -/
theorem single {i : Nat} {t t' : τ} {l : ℓ} (ht : ts[i]? = some t) (ha : admits ts i)
    (hs : step s t l s' t') : Interleaving step admits s ts [(i, l)] s' (ts.set i t') :=
  .snoc .nil ht ha hs

/-- An interleaving followed by another from where it ended. -/
theorem trans (h₁ : Interleaving step admits s ts l₁ s₁ ts₁)
    (h₂ : Interleaving step admits s₁ ts₁ l₂ s₂ ts₂) :
    Interleaving step admits s ts (l₁ ++ l₂) s₂ ts₂ := by
  induction h₂ with
  | nil => rwa [List.append_nil]
  | snoc _ ht ha hs ih =>
    rw [← List.append_assoc]
    exact .snoc ih ht ha hs

/-- An interleaving splits wherever its log does. -/
theorem split (h : Interleaving step admits s ts (l₁ ++ l₂) s₂ ts₂) :
    ∃ s₁ ts₁, Interleaving step admits s ts l₁ s₁ ts₁ ∧
      Interleaving step admits s₁ ts₁ l₂ s₂ ts₂ := by
  generalize hlog : l₁ ++ l₂ = log at h
  induction h generalizing l₂ with
  | nil =>
    obtain ⟨rfl, rfl⟩ := List.append_eq_nil_iff.1 hlog
    exact ⟨s, ts, .nil, .nil⟩
  | @snoc s₁ s₂ ts₁ log i t t' l h₁ ht ha hs ih =>
    rcases List.eq_nil_or_concat l₂ with rfl | ⟨l₂, e, rfl⟩
    · rw [List.append_nil] at hlog
      subst hlog
      exact ⟨s₂, _, .snoc h₁ ht ha hs, .nil⟩
    · rw [List.concat_eq_append, ← List.append_assoc] at hlog
      obtain ⟨hl, he⟩ := List.append_inj' hlog rfl
      obtain rfl : e = (i, l) := List.singleton_inj.1 he
      obtain ⟨r₁, rs₁, hr₁, hr₂⟩ := ih hl
      refine ⟨r₁, rs₁, hr₁, ?_⟩
      rw [List.concat_eq_append]
      exact .snoc hr₂ ht ha hs

/-- An interleaving with no call changes nothing. -/
theorem eq_of_nil (h : Interleaving step admits s ts [] s' ts') : s' = s ∧ ts' = ts := by
  generalize hlog : ([] : List (Nat × ℓ)) = log at h
  cases h with
  | nil => exact ⟨rfl, rfl⟩
  | snoc => simp at hlog

/-- The one call of a one-entry interleaving. -/
theorem of_single {i : Nat} {l : ℓ} (h : Interleaving step admits s ts [(i, l)] s' ts') :
    ∃ t t', ts[i]? = some t ∧ admits ts i ∧ step s t l s' t' ∧ ts' = ts.set i t' := by
  generalize hlog : [(i, l)] = log at h
  cases h with
  | nil => cases hlog
  | snoc h₁ ht ha hs =>
    rcases List.singleton_eq_append_iff.1 hlog with ⟨rfl, he⟩ | ⟨-, he⟩
    · obtain ⟨rfl, rfl⟩ := h₁.eq_of_nil
      obtain ⟨rfl, rfl⟩ := Prod.mk.inj (List.singleton_inj.1 he)
      exact ⟨_, _, ht, ha, hs, rfl⟩
    · simp at he

/-- A fact of the shared state and the threads that holds at the start and that every call of the
log keeps holds at the end. -/
theorem inv {I : σ → List τ → Prop} (h : Interleaving step admits s ts log s' ts') (h₀ : I s ts)
    (hstep : ∀ s ts i t l s' t', (i, l) ∈ log → I s ts → ts[i]? = some t → admits ts i →
      step s t l s' t' → I s' (ts.set i t')) : I s' ts' := by
  induction h with
  | nil => exact h₀
  | snoc _ ht ha hs ih =>
    refine hstep _ _ _ _ _ _ _ (List.mem_append_right _ (List.mem_singleton_self _)) ?_ ht ha hs
    exact ih fun s ts i t l s' t' hl => hstep s ts i t l s' t' (List.mem_append_left _ hl)

/-- A fact of the shared state that every call keeps holds at the end. -/
theorem shared_inv {P : σ → Prop} (h : Interleaving step admits s ts log s' ts') (h₀ : P s)
    (hstep : ∀ s t l s' t', P s → step s t l s' t' → P s') : P s' :=
  h.inv (I := fun s _ => P s) h₀ fun _ _ _ t l _ t' _ hP _ _ hs => hstep _ t l _ t' hP hs

/-- A thread that makes no call keeps its state. -/
theorem getElem?_of_not_mem {i : Nat} (h : Interleaving step admits s ts log s' ts')
    (hi : ∀ l, (i, l) ∉ log) : ts'[i]? = ts[i]? := by
  induction h with
  | nil => rfl
  | @snoc _ _ _ _ j _ _ l _ _ _ _ ih =>
    have hj : j ≠ i := by
      rintro rfl
      exact hi l (List.mem_append_right _ (List.mem_singleton_self _))
    rw [List.getElem?_set_ne hj]
    exact ih fun l hl => hi l (List.mem_append_left _ hl)

/-- A thread whose state changed made a call. -/
theorem exists_call_of_moved {i : Nat} (h : Interleaving step admits s ts log s' ts')
    (hmoved : ts'[i]? ≠ ts[i]?) : ∃ l, (i, l) ∈ log := by
  by_contra hnone
  exact hmoved (h.getElem?_of_not_mem fun l hl => hnone ⟨l, hl⟩)

/-- The log splits at a thread's first call, which the thread makes from the state it started
in. -/
theorem first_call {i : Nat} {l₀ : ℓ} (h : Interleaving step admits s ts log s' ts')
    (hi : (i, l₀) ∈ log) :
    ∃ l₁ l l₂ s₁ ts₁ s₂ t t', log = l₁ ++ (i, l) :: l₂ ∧ (∀ l', (i, l') ∉ l₁) ∧
      Interleaving step admits s ts l₁ s₁ ts₁ ∧ ts[i]? = some t ∧ ts₁[i]? = some t ∧
      admits ts₁ i ∧ step s₁ t l s₂ t' ∧ Interleaving step admits s₂ (ts₁.set i t') l₂ s' ts' := by
  induction h generalizing l₀ with
  | nil => simp at hi
  | @snoc s₁ s₂ ts₁ log j u u' l h₁ hu ha hs ih =>
    by_cases hbefore : ∃ l', (i, l') ∈ log
    · obtain ⟨l', hl'⟩ := hbefore
      obtain ⟨k₁, k, k₂, r₁, rs₁, r₂, t, r', rfl, hk₁, hk, ht, hr, hra, hrs, hrest⟩ := ih hl'
      exact ⟨k₁, k, k₂ ++ [(j, l)], r₁, rs₁, r₂, t, r', by simp, hk₁, hk, ht, hr, hra, hrs,
        .snoc hrest hu ha hs⟩
    · -- the thread's first call is the last one
      have hnone : ∀ l', (i, l') ∉ log := fun l' hl' => hbefore ⟨l', hl'⟩
      have hji : j = i := by
        rcases List.mem_append.1 hi with hl | hl
        · exact absurd hl (hnone l₀)
        · exact (Prod.mk.inj (List.mem_singleton.1 hl)).1.symm
      subst hji
      have hkept := h₁.getElem?_of_not_mem hnone
      exact ⟨log, l, [], s₁, ts₁, s₂, u, u', rfl, hnone, h₁, hkept ▸ hu, hu, ha, hs, .nil⟩

/-- A thread in a state from which no call can be made makes none. -/
theorem not_mem_of_stuck {i : Nat} {t : τ} (h : Interleaving step admits s ts log s' ts')
    (ht : ts[i]? = some t) (hstuck : ∀ s l s' t', ¬ step s t l s' t') (l : ℓ) : (i, l) ∉ log := by
  intro hl
  obtain ⟨_, _, _, _, _, _, u, _, _, _, _, hu, _, _, hs, _⟩ := h.first_call hl
  rw [ht] at hu
  cases hu
  exact hstuck _ _ _ _ hs

/-- A scheduler that admits more threads has every interleaving of one that admits fewer. -/
theorem mono {admits' : Admits τ} (h : Interleaving step admits s ts log s' ts')
    (hmore : ∀ ts i, admits ts i → admits' ts i) : Interleaving step admits' s ts log s' ts' := by
  induction h with
  | nil => exact .nil
  | snoc _ ht ha hs ih => exact .snoc ih ht (hmore _ _ ha) hs

end Interleaving

/-! ## Splitting a log -/

/-- A list that ends with `x`, split at an element: the element is `x`, or the split is inside the
list before `x`. -/
theorem append_cons_eq_append_singleton {α : Type} {l pre mid : List α} {x y : α}
    (h : pre ++ y :: mid = l ++ [x]) :
    (pre = l ∧ y = x ∧ mid = []) ∨ ∃ mid₀, l = pre ++ y :: mid₀ ∧ mid = mid₀ ++ [x] := by
  rcases List.eq_nil_or_concat mid with rfl | ⟨mid₀, z, rfl⟩
  · left
    obtain ⟨hpre, hy⟩ := List.append_inj' h rfl
    exact ⟨hpre, (List.cons.inj hy).1, rfl⟩
  · right
    have h' : (pre ++ y :: mid₀) ++ [z] = l ++ [x] := by
      simpa only [List.append_assoc, List.cons_append, List.concat_eq_append] using h
    obtain ⟨hl, hz⟩ := List.append_inj' h' rfl
    exact ⟨mid₀, hl.symm, by rw [(List.cons.inj hz).1, List.concat_eq_append]⟩

/-- Where a list has an element with `P` and none after it, that element's place is unique. -/
theorem last_of_append_cons {α : Type} {P : α → Prop} {p₁ p₂ m₁ m₂ : List α} {x₁ x₂ : α}
    (h : p₁ ++ x₁ :: m₁ = p₂ ++ x₂ :: m₂) (h₁ : P x₁) (h₂ : P x₂) (hm₁ : ∀ y ∈ m₁, ¬ P y)
    (hm₂ : ∀ y ∈ m₂, ¬ P y) : x₁ = x₂ := by
  rcases List.append_eq_append_iff.mp h with ⟨c, rfl, hc⟩ | ⟨c, rfl, hc⟩
  · cases c with
    | nil => exact (List.cons.inj hc).1
    | cons z c =>
      obtain ⟨-, rfl⟩ := List.cons.inj hc
      exact absurd h₂ (hm₁ x₂ (by simp))
  · cases c with
    | nil => exact (List.cons.inj hc).1.symm
    | cons z c =>
      obtain ⟨-, rfl⟩ := List.cons.inj hc
      exact absurd h₁ (hm₂ x₁ (by simp))

end Shipyard.Concurrent
