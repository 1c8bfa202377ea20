import Mathlib
import Shipyard.Platform.Retry
/-!
# How many times a retried step runs

A step is observed through the answers of its runs: run `i` (counted from 0) answers `rs i`,
whatever the step does besides. `scripted rs` is that step in a state monad that counts the runs,
and `recordWait` records each wait, so a run of `withRetry recordWait (scripted rs)` from the
empty log shows how often the loop ran the step and how long it waited in between.

Main statement: with `k` the number of leading retryable failures in `rs` (`⊤` when every answer
is one), the loop runs the step `min (k + 1) (maxRetries + 1)` times and answers what the last run
answered: the first answer that is not a retryable failure, or the third failure in a row
(`withRetry_runs_until_settled`). It ends even on a step that never stops failing, since each retry
raises the attempt towards `maxRetries`. The proof is one lemma for an attempt that settles the
loop, one for an attempt that is retried, and an induction over the attempts between them.
-/
namespace Shipyard.Platform

variable {ε α : Type}

/-- What a caller sees of a retry loop: how many times the step ran, and the waits between the
runs, in milliseconds. -/
structure CallLog where
  calls : Nat
  waits : List Nat
  deriving DecidableEq, Repr

/-- The step whose run number `n` (counted from 0) answers `rs n`. -/
def scripted (rs : Nat → Except ε α) : StateM CallLog (Except ε α) :=
  modifyGet fun l => (rs l.calls, { l with calls := l.calls + 1 })

/-- A wait, recorded. -/
def recordWait (ms : Nat) : StateM CallLog Unit :=
  modify fun l => { l with waits := l.waits ++ [ms] }

variable {rs : Nat → Except ε α}

/-- The step runs once, and what follows runs from the log that counts it. -/
theorem scripted_bind_run {β : Type} (f : Except ε α → StateM CallLog β) (l : CallLog) :
    (scripted rs >>= f).run l = (f (rs l.calls)).run { l with calls := l.calls + 1 } := rfl

/-- A wait is recorded, and what follows runs from the log that records it. -/
theorem recordWait_bind_run {β : Type} (ms : Nat) (f : Unit → StateM CallLog β) (l : CallLog) :
    (recordWait ms >>= f).run l = (f ()).run { l with waits := l.waits ++ [ms] } := rfl

section

variable [Retryable ε]

/-- Whether an answer is a failure that the loop may retry. -/
def retryableAnswer : Except ε α → Bool
  | .error e => Retryable.isRetryable e
  | .ok _ => false

open Classical in
/-- The number of leading retryable failures among the answers `rs`; `⊤` when every answer is
one. -/
noncomputable def leadingRetryable (rs : Nat → Except ε α) : ℕ∞ :=
  if h : ∃ i, retryableAnswer (rs i) = false then (Nat.find h : ℕ∞) else ⊤

/-- An answer that settles the loop: one that is not a retryable failure, or any answer once the
retries are spent. The step ran once more, and nothing was waited for. -/
theorem retryFrom_settled {a : Nat} {waits : List Nat}
    (h : retryableAnswer (rs a) = false ∨ maxRetries ≤ a) :
    (retryFrom recordWait (scripted rs) a).run ⟨a, waits⟩ = (rs a, ⟨a + 1, waits⟩) := by
  rw [retryFrom, scripted_bind_run]
  cases hr : rs a with
  | ok x => rfl
  | error e =>
    -- the failure is not retryable, or no retry is left
    have hstop : ¬ (Retryable.isRetryable e = true ∧ a < maxRetries) := by
      rintro ⟨he, ha⟩
      rw [hr, retryableAnswer, he] at h
      rcases h with h | h
      · cases h
      · omega
    simp only [hstop, dite_false]
    rfl

/-- A retryable failure with retries left: the loop waits `retryDelayMs a` and goes on from the
next attempt. -/
theorem retryFrom_retried {a : Nat} {waits : List Nat}
    (h : retryableAnswer (rs a) = true) (ha : a < maxRetries) :
    (retryFrom recordWait (scripted rs) a).run ⟨a, waits⟩ =
      (retryFrom recordWait (scripted rs) (a + 1)).run ⟨a + 1, waits ++ [retryDelayMs a]⟩ := by
  rw [retryFrom, scripted_bind_run]
  cases hr : rs a with
  | ok x => rw [hr] at h; cases h
  | error e =>
    have hgo : Retryable.isRetryable e = true ∧ a < maxRetries := by
      rw [hr] at h
      exact ⟨h, ha⟩
    simp only [hgo, and_self, dite_true]
    rw [recordWait_bind_run]

/-- The loop from attempt `a`, after `a` runs and their waits, when the answers before `n` are
retryable failures and answer `n` settles the loop: it ends after run `n`, with run `n`'s
answer, having waited once after each run before it. The induction is on the attempts left
before `n`. -/
theorem retryFrom_run {n a : Nat} (hn : n ≤ maxRetries)
    (hr : ∀ i < n, retryableAnswer (rs i) = true)
    (hs : retryableAnswer (rs n) = false ∨ n = maxRetries) (ha : a ≤ n) :
    (retryFrom recordWait (scripted rs) a).run ⟨a, (List.range a).map retryDelayMs⟩ =
      (rs n, ⟨n + 1, (List.range n).map retryDelayMs⟩) := by
  induction hd : n - a generalizing a with
  | zero =>
    obtain rfl : a = n := by omega
    exact retryFrom_settled (hs.imp_right fun h => Nat.le_of_eq h.symm)
  | succ d ih =>
    have hw : (List.range a).map retryDelayMs ++ [retryDelayMs a] =
        (List.range (a + 1)).map retryDelayMs := by
      rw [List.range_succ, List.map_append, List.map_singleton]
    rw [retryFrom_retried (hr a (by omega)) (by omega), hw]
    exact ih (by omega) (by omega)

/-- The first `n` answers are retryable failures: there are at least `n` leading ones. -/
theorem le_leadingRetryable {n : Nat} (hr : ∀ i < n, retryableAnswer (rs i) = true) :
    (n : ℕ∞) ≤ leadingRetryable rs := by
  unfold leadingRetryable
  split
  · next h =>
    refine Nat.cast_le.mpr ((Nat.le_find_iff h n).mpr fun i hi => ?_)
    rw [hr i hi]
    decide
  · exact le_top

/-- An answer that is not a retryable failure ends the leading ones. -/
theorem leadingRetryable_le {i : Nat} (h : retryableAnswer (rs i) = false) :
    leadingRetryable rs ≤ i := by
  unfold leadingRetryable
  rw [dif_pos ⟨i, h⟩]
  exact Nat.cast_le.mpr (Nat.find_min' _ h)

/-- Some attempt settles the loop: the first whose answer is not a retryable failure, or the
last one allowed. -/
theorem exists_settling_attempt (rs : Nat → Except ε α) :
    ∃ n ≤ maxRetries, (∀ i < n, retryableAnswer (rs i) = true) ∧
      (retryableAnswer (rs n) = false ∨ n = maxRetries) := by
  have hex : ∃ n, retryableAnswer (rs n) = false ∨ n = maxRetries := ⟨maxRetries, .inr rfl⟩
  refine ⟨Nat.find hex, Nat.find_min' hex (.inr rfl), fun i hi => ?_, Nat.find_spec hex⟩
  have hi' := Nat.find_min hex hi
  rw [not_or, Bool.not_eq_false] at hi'
  exact hi'.1

/-- The loop that settles at attempt `n` runs the step `n + 1` times: for `k` leading retryable
failures that is `min (k + 1) (maxRetries + 1)`. -/
theorem settling_attempt_succ {n : Nat} (hn : n ≤ maxRetries)
    (hr : ∀ i < n, retryableAnswer (rs i) = true)
    (hs : retryableAnswer (rs n) = false ∨ n = maxRetries) :
    ((n + 1 : Nat) : ℕ∞) = min (leadingRetryable rs + 1) ((maxRetries + 1 : Nat) : ℕ∞) := by
  have hle : (n : ℕ∞) + 1 ≤ leadingRetryable rs + 1 := add_le_add_left (le_leadingRetryable hr) 1
  push_cast
  rcases hs with hs | rfl
  · -- answer `n` is the first one that is not a retryable failure
    have hk : leadingRetryable rs = n :=
      le_antisymm (leadingRetryable_le hs) (le_leadingRetryable hr)
    rw [hk, min_eq_left (by exact_mod_cast Nat.succ_le_succ hn)]
  · -- every retry was spent
    exact (min_eq_right hle).symm

/-- Retrying a step whose runs answer `rs 0`, `rs 1`, …: the loop runs it `n + 1` times, where
`n + 1 = min (k + 1) (maxRetries + 1)` for the number `k` of leading retryable failures in `rs`
(`⊤` when every answer is one), answers what its last run answered, and waits
`retryDelayMs i` after each run `i` before the last. -/
theorem withRetry_runs_until_settled (rs : Nat → Except ε α) :
    ∃ n : Nat,
      ((n + 1 : Nat) : ℕ∞) = min (leadingRetryable rs + 1) ((maxRetries + 1 : Nat) : ℕ∞) ∧
        (withRetry recordWait (scripted rs)).run ⟨0, []⟩ =
          (rs n, ⟨n + 1, (List.range n).map retryDelayMs⟩) := by
  obtain ⟨n, hn, hr, hs⟩ := exists_settling_attempt rs
  exact ⟨n, settling_attempt_succ hn hr hs, retryFrom_run hn hr hs (Nat.zero_le n)⟩

/-- Two transport failures, then an answer: three runs, with waits of 200 and 400 ms. -/
example : (withRetry recordWait (scripted fun n =>
    if n < 2 then .error (SourceError.transport "reset") else .ok n)).run ⟨0, []⟩ =
    (.ok 2, ⟨3, [200, 400]⟩) := by
  cbv

end

end Shipyard.Platform
