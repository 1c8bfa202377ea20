import Mathlib
import Shipyard.Proofs.Time.Timestamp
import Shipyard.Proofs.Concurrent.Interleaving
import Shipyard.Proofs.Platform.Tenancy
import Shipyard.Platform.SignIn
/-!
# Sign-in states over a run

A sign-in hands out a state (`beginSignIn`), keeps it in the store with its expiry as text, and
takes it back when the browser returns (`completeSignIn`, through `checkState`). A run is a list of
such calls at any clock readings (`SignInCall`); `signInLog` pairs each call with what it did.

The kept states answer to the log (`StatesLedger`): each was handed out by an entry of the log and
neither handed out again nor taken since, and each state handed out stays kept until one of those
happens or a begin sweeps it. From that ledger a completion passes the checks only for a state
handed out before and not taken since, no later than its expiry (`issued_of_passes`), once per
time the state was handed out (`issued_between_passes`); and it does pass them in that case
(`passes_of_issued`), as long as the expiry is before the year 10000: from there on the expiry text
starts with a sign, which sorts before every clock's text and which the reader refuses.
-/
namespace Shipyard.Platform

open Shipyard.Store

/-- A begin hands out the next state and keeps it, after sweeping the states whose expiry text
sorts before the clock's and any earlier copy of the same state. -/
theorem beginSignIn_run (a : App) :
    (beginSignIn.run.run a).2 = { a with
      states := a.states + 1
      db := { a.db with authStates :=
        a.db.authStates.filter (fun s => !(s.expiresAt < a.now.text) && s.state != stateText (a.states + 1)) ++
          [⟨stateText (a.states + 1), (a.now.addMicros (a.settings.stateTtl * 1000000)).text⟩] } } := by
  rfl

/-- The answer of checking a state taken from the store, against the clock. -/
def checkedAnswer (taken : Option (Except StoreError Instant)) (now : Instant) : Except RpcError Unit :=
  match taken with
  | none => .error (.new "STATE_DOESNT_MATCH" "auth state is unknown or already used")
  | some (.error e) => .error e.toRpc
  | some (.ok e) => if e < now then .error (.new "STATE_EXPIRED" "auth state expired") else .ok ()

/-- With the cookie equal to a non-empty state, the check takes the state from the store and
answers by the expiry it was kept with. -/
theorem checkState_run_same {state : String} (a : App) (h : state ≠ "") :
    (checkState (some state) state).run.run a =
      (checkedAnswer ((a.db.authStates.find? (·.state == state)).map (parseTimestamp ·.expiresAt)) a.now,
       { a with db := { a.db with authStates := a.db.authStates.filter (·.state != state) } }) := by
  have hc : (state.isEmpty || state != state) = false := by simpa using h
  unfold checkState
  simp only [hc, Bool.false_eq_true, if_false]
  rw [AppM.run_bind, stored, store_run, takeAuthState_apply]
  dsimp only
  cases (a.db.authStates.find? (·.state == state)).map (parseTimestamp ·.expiresAt) with
  | none => rfl
  | some r =>
    cases r with
    | error e => rfl
    | ok e =>
      rw [AppM.run_bind, AppM.get_run]
      by_cases he : e < a.now
      · simp only [checkedAnswer, if_pos he]
        rfl
      · simp only [checkedAnswer, if_neg he]
        rfl

/-- Any other cookie is refused before the store is read. -/
theorem checkState_run_refused {cookie : Option String} {state : String} (a : App)
    (h : ¬(cookie = some state ∧ state ≠ "")) :
    ∃ e, (checkState cookie state).run.run a = (.error e, a) := by
  cases cookie with
  | none => exact ⟨_, rfl⟩
  | some c =>
    have hc : (state.isEmpty || c != state) = true := by
      by_cases hs : state = ""
      · simp [hs]
      · have hne : c ≠ state := fun he => h ⟨by rw [he], hs⟩
        simp [hne]
    unfold checkState
    simp only [hc, if_true]
    exact ⟨_, rfl⟩

/-- A computation that leaves the kept sign-in states and the settings as they were. -/
def KeepsSignIn {ε α : Type} (m : AppM ε α) : Prop :=
  ∀ a, (m.run.run a).2.db.authStates = a.db.authStates ∧ (m.run.run a).2.settings = a.settings

namespace KeepsSignIn

variable {ε α β : Type}

theorem pure (x : α) : KeepsSignIn (pure x : AppM ε α) := fun _ => ⟨rfl, rfl⟩

theorem throw (e : ε) : KeepsSignIn (throw e : AppM ε α) := fun _ => ⟨rfl, rfl⟩

theorem get : KeepsSignIn (get : AppM ε App) := fun _ => ⟨rfl, rfl⟩

theorem throw_bind (e : ε) (f : α → AppM ε β) :
    KeepsSignIn ((MonadExcept.throw e : AppM ε α) >>= f) := fun _ => ⟨rfl, rfl⟩

theorem bind {x : AppM ε α} {f : α → AppM ε β} (hx : KeepsSignIn x)
    (hf : ∀ r, KeepsSignIn (f r)) : KeepsSignIn (x >>= f) := by
  intro a
  rw [AppM.run_bind]
  rcases h : x.run.run a with ⟨_ | r, a'⟩
  · have hxa := hx a
    rw [h] at hxa
    exact hxa
  · obtain ⟨h₁, h₂⟩ := hx a
    rw [h] at h₁ h₂
    obtain ⟨h₃, h₄⟩ := hf r a'
    exact ⟨h₃.trans h₁, h₄.trans h₂⟩

/-- What follows a first computation keeps what that computation left. -/
theorem run_bind_of_keeps {x : AppM ε α} {f : α → AppM ε β} (hf : ∀ r, KeepsSignIn (f r))
    (a : App) :
    ((x >>= f).run.run a).2.db.authStates = (x.run.run a).2.db.authStates ∧
      ((x >>= f).run.run a).2.settings = (x.run.run a).2.settings := by
  rw [AppM.run_bind]
  rcases x.run.run a with ⟨_ | r, a'⟩
  · exact ⟨rfl, rfl⟩
  · exact hf r a'

/-- A store call that keeps the sign-in states. -/
theorem stored {op : StoreM α}
    (h : ∀ db x db', op db = .ok (x, db') → db'.authStates = db.authStates) :
    KeepsSignIn (Platform.stored op) := by
  intro a
  rw [Platform.stored, store_run]
  split
  · rename_i x db hop
    exact ⟨h _ _ _ hop, rfl⟩
  · exact ⟨rfl, rfl⟩

end KeepsSignIn

/-- Signing a user in touches users and tokens, not sign-in states. -/
theorem signIn_keeps (code : String) : KeepsSignIn (signIn code) := by
  unfold signIn
  dsimp only
  split
  · exact .throw_bind _ _
  refine .bind (.stored fun db x db' h => ?_) fun u => ?_
  · rcases getOrCreateUser_ok h with rfl | ⟨_, _, _, _, rfl⟩ <;> rfl
  refine .bind (.stored fun db x db' h => ?_) fun _ => ?_
  · rw [saveTokenPair_apply] at h
    split at h
    · cases h
    · cases h; rfl
  refine .bind .get fun a => ?_
  split
  · exact .pure _
  · exact .throw _

/-- A completion leaves the sign-in states as its check of the state left them. -/
theorem completeSignIn_after_check (cookie : Option String) (code state : String) (a : App) :
    ((completeSignIn cookie code state).run.run a).2.db.authStates =
        ((checkState cookie state).run.run a).2.db.authStates ∧
      ((completeSignIn cookie code state).run.run a).2.settings =
        ((checkState cookie state).run.run a).2.settings := by
  unfold completeSignIn
  refine KeepsSignIn.run_bind_of_keeps (fun _ => ?_) a
  dsimp only
  split
  · exact .throw_bind _ _
  refine .bind (signIn_keeps code) fun _ => .bind .get fun _ => .bind .get fun _ => .pure _

/-! ## Runs of the sign-in protocol -/

/-- The expiry a begin at `now` gives the state it hands out. -/
def stateExpiry (a : App) (now : Instant) : Instant := now.addMicros (a.settings.stateTtl * 1000000)

/-- A call of the sign-in protocol at a clock reading: handing out a state, or completing a
sign-in with the state cookie, the state and the code the host sent back. -/
inductive SignInCall where
  | begin (now : Instant)
  | complete (now : Instant) (cookie : Option String) (state code : String)

/-- What a call did to the sign-in states: the state a begin handed out with the expiry it kept
for it, or whether a completion got past the checks of its state. -/
inductive SignInEvent where
  | issued (state : String) (expiry : Instant)
  | checked (passed : Bool)
  deriving DecidableEq

namespace SignInCall

/-- The clock reading of a call. -/
def clock : SignInCall → Instant
  | .begin now => now
  | .complete now _ _ _ => now

/-- A call's event and the application after it. -/
def step (a : App) : SignInCall → SignInEvent × App
  | .begin now =>
    (.issued (stateText (a.states + 1)) (stateExpiry a now),
     (beginSignIn.run.run { a with now }).2)
  | .complete now cookie state code =>
    (.checked ((checkState cookie state).run.run { a with now }).1.toBool,
     ((completeSignIn cookie code state).run.run { a with now }).2)

end SignInCall

/-- The calls from `a` on, each with what it did. -/
def signInLog (a : App) : List SignInCall → List (SignInCall × SignInEvent)
  | [] => []
  | c :: cs => (c, (c.step a).1) :: signInLog (c.step a).2 cs

/-- The application after the calls. -/
def afterCalls (a : App) : List SignInCall → App
  | [] => a
  | c :: cs => afterCalls (c.step a).2 cs

theorem signInLog_append_singleton (a : App) (cs : List SignInCall) (c : SignInCall) :
    signInLog a (cs ++ [c]) = signInLog a cs ++ [(c, (c.step (afterCalls a cs)).1)] := by
  induction cs generalizing a with
  | nil => rfl
  | cons c' cs ih => simp only [List.cons_append, signInLog, afterCalls, ih]

theorem afterCalls_append_singleton (a : App) (cs : List SignInCall) (c : SignInCall) :
    afterCalls a (cs ++ [c]) = (c.step (afterCalls a cs)).2 := by
  induction cs generalizing a with
  | nil => rfl
  | cons c' cs ih => simp only [List.cons_append, afterCalls, ih]

theorem toBool_eq_true_iff {ε : Type} (x : Except ε Unit) : x.toBool = true ↔ x = .ok () := by
  cases x <;> simp [Except.toBool]

theorem checkedAnswer_eq_ok_iff (taken : Option (Except StoreError Instant)) (now : Instant) :
    checkedAnswer taken now = .ok () ↔ ∃ e, taken = some (.ok e) ∧ ¬ e < now := by
  unfold checkedAnswer
  rcases taken with _ | _ | e
  · simp
  · simp
  · by_cases he : e < now <;> simp [he]

namespace SignInCall

variable (a : App) (now : Instant)

theorem step_settings (c : SignInCall) : (c.step a).2.settings = a.settings := by
  cases c with
  | begin now => rfl
  | complete now cookie state code =>
    rw [step, (completeSignIn_after_check cookie code state _).2]
    by_cases h : cookie = some state ∧ state ≠ ""
    · obtain ⟨rfl, hs⟩ := h
      rw [checkState_run_same _ hs]
    · obtain ⟨e, he⟩ := checkState_run_refused { a with now } h
      rw [he]

/-- A begin sweeps every kept state whose expiry text sorts before its clock's and the state it
hands out, then keeps that state with its expiry. -/
theorem step_begin_states :
    ((begin now).step a).2.db.authStates =
      a.db.authStates.filter
          (fun r => !(r.expiresAt < now.text) && r.state != stateText (a.states + 1)) ++
        [⟨stateText (a.states + 1), (stateExpiry a now).text⟩] := by
  rw [step, beginSignIn_run]
  rfl

/-- A completion whose cookie is its state takes that state from the store; any other leaves the
kept states alone. -/
theorem step_complete_states (cookie : Option String) (state code : String) :
    ((complete now cookie state code).step a).2.db.authStates =
      if cookie = some state ∧ state ≠ "" then a.db.authStates.filter (·.state != state)
      else a.db.authStates := by
  rw [step, (completeSignIn_after_check cookie code state _).1]
  by_cases h : cookie = some state ∧ state ≠ ""
  · obtain ⟨rfl, hs⟩ := h
    rw [checkState_run_same _ hs, if_pos ⟨rfl, hs⟩]
  · obtain ⟨e, he⟩ := checkState_run_refused { a with now } h
    rw [he, if_neg h]

/-- A completion gets past the checks exactly when its cookie is its state, that state is kept,
and its expiry text reads as an instant not before the clock. -/
theorem step_complete_passes_iff (cookie : Option String) (state code : String) :
    ((complete now cookie state code).step a).1 = .checked true ↔
      cookie = some state ∧ state ≠ "" ∧ ∃ r, a.db.authStates.find? (·.state == state) = some r ∧
        ∃ e, parseTimestamp r.expiresAt = .ok e ∧ ¬ e < now := by
  simp only [step, SignInEvent.checked.injEq]
  by_cases h : cookie = some state ∧ state ≠ ""
  · obtain ⟨rfl, hs⟩ := h
    rw [checkState_run_same _ hs, toBool_eq_true_iff, checkedAnswer_eq_ok_iff]
    simp only [Option.map_eq_some_iff, true_and, ne_eq, hs, not_false_eq_true]
    constructor
    · rintro ⟨e, ⟨r, hr, he⟩, hlt⟩
      exact ⟨r, hr, e, he, hlt⟩
    · rintro ⟨r, hr, e, he, hlt⟩
      exact ⟨e, ⟨r, hr, he⟩, hlt⟩
  · obtain ⟨e, he⟩ := checkState_run_refused { a with now } h
    rw [he]
    simp only [Except.toBool, Bool.false_eq_true, false_iff]
    exact fun h' => h ⟨h'.1, h'.2.1⟩

end SignInCall

/-! ## What the log records -/

/-- An entry of the log: a call with what it did. -/
abbrev SignInEntry := SignInCall × SignInEvent

/-- The entry hands out state `s`. -/
def Issues (s : String) (x : SignInEntry) : Prop := ∃ e, x.2 = .issued s e

/-- The entry is a completion with `s` as its cookie and as its state: it takes `s` from the store,
whether or not it gets past the checks. -/
def Takes (s : String) (x : SignInEntry) : Prop := ∃ t code, x.1 = .complete t (some s) s code

/-- The entry is a begin whose clock's text sorts after the expiry text of `e`: it sweeps a state
kept until `e`. -/
def Sweeps (e : Instant) (x : SignInEntry) : Prop := ∃ t, x.1 = .begin t ∧ e.text < t.text

theorem stateText_ne_empty (n : Nat) : stateText n ≠ "" := by
  intro h
  have hlen := congrArg String.length h
  simp [stateText, Store.hexDigits_length] at hlen

namespace SignInCall

variable (a : App)

/-- A state kept after a call was kept before it, and the call neither handed it out again nor
took it; or it is the state the call handed out, with the expiry the call gave it. -/
theorem mem_step_states {c : SignInCall} {r : AuthState}
    (hne : ∀ r ∈ a.db.authStates, r.state ≠ "") (hr : r ∈ (c.step a).2.db.authStates) :
    (r ∈ a.db.authStates ∧ ¬ Issues r.state (c, (c.step a).1) ∧
        ¬ Takes r.state (c, (c.step a).1)) ∨
      ∃ e, (c.step a).1 = .issued r.state e ∧ r.expiresAt = e.text := by
  cases c with
  | begin now =>
    rw [step_begin_states] at hr
    rcases List.mem_append.mp hr with hr | hr
    · left
      simp only [List.mem_filter, Bool.and_eq_true, Bool.not_eq_true', bne_iff_ne, ne_eq] at hr
      refine ⟨hr.1, ?_, ?_⟩
      · rintro ⟨e, he⟩
        simp only [step, SignInEvent.issued.injEq] at he
        exact hr.2.2 he.1.symm
      · rintro ⟨t, code, h⟩
        cases h
    · right
      rw [List.mem_singleton] at hr
      subst hr
      exact ⟨_, rfl, rfl⟩
  | complete now cookie state code =>
    left
    rw [step_complete_states] at hr
    have hi : ¬ Issues r.state
        (complete now cookie state code, ((complete now cookie state code).step a).1) := by
      rintro ⟨e, he⟩
      simp only [step, reduceCtorEq] at he
    split_ifs at hr with hc
    · rw [List.mem_filter] at hr
      refine ⟨hr.1, hi, ?_⟩
      rintro ⟨t, code', h⟩
      obtain ⟨-, -, rfl, -⟩ := complete.inj h
      simp at hr
    · refine ⟨hr, hi, ?_⟩
      rintro ⟨t, code', h⟩
      obtain ⟨-, rfl, rfl, -⟩ := complete.inj h
      exact hc ⟨rfl, hne r hr⟩

/-- A kept state stays kept through a call that neither hands it out again, nor takes it, nor
sweeps it. -/
theorem mem_step_states_of {c : SignInCall} {r : AuthState} (hr : r ∈ a.db.authStates)
    (hi : ¬ Issues r.state (c, (c.step a).1)) (ht : ¬ Takes r.state (c, (c.step a).1))
    (hs : ∀ t, c = .begin t → ¬ r.expiresAt < t.text) : r ∈ (c.step a).2.db.authStates := by
  cases c with
  | begin now =>
    rw [step_begin_states]
    refine List.mem_append_left _ (List.mem_filter.mpr ⟨hr, ?_⟩)
    have hne : stateText (a.states + 1) ≠ r.state := fun h => hi ⟨_, by rw [step, h]⟩
    simp [hs now rfl, Ne.symm hne]
  | complete now cookie state code =>
    rw [step_complete_states]
    split_ifs with hc
    · refine List.mem_filter.mpr ⟨hr, ?_⟩
      have hne : state ≠ r.state := by
        rintro rfl
        exact ht ⟨now, code, by rw [hc.1]⟩
      simp [Ne.symm hne]
    · exact hr

/-- The state a begin hands out is kept after it, with the expiry it was given. -/
theorem issued_mem_step {c : SignInCall} {s : String} {e : Instant} (h : (c.step a).1 = .issued s e) :
    ⟨s, e.text⟩ ∈ (c.step a).2.db.authStates := by
  cases c with
  | begin now =>
    simp only [step, SignInEvent.issued.injEq] at h
    obtain ⟨rfl, rfl⟩ := h
    rw [step_begin_states]
    exact List.mem_append_right _ (List.mem_singleton_self _)
  | complete now cookie state code =>
    simp only [step, reduceCtorEq] at h

end SignInCall

/-! ## The ledger of kept states -/

/-- What the kept sign-in states owe to the log of the calls that made them. -/
structure StatesLedger (log : List SignInEntry) (rows : List AuthState) : Prop where
  /-- Each kept state was handed out by an entry of the log with the expiry text kept for it, and
  since then no call handed it out again or took it. -/
  kept : ∀ r ∈ rows, r.state ≠ "" ∧ ∃ pre x mid e, log = pre ++ x :: mid ∧
    x.2 = .issued r.state e ∧ r.expiresAt = e.text ∧ ∀ y ∈ mid, ¬ Issues r.state y ∧ ¬ Takes r.state y
  /-- A state handed out stays kept with its expiry text while no call hands it out again, takes
  it or sweeps it. -/
  persists : ∀ pre x mid s e, log = pre ++ x :: mid → x.2 = .issued s e →
    (∀ y ∈ mid, ¬ Issues s y ∧ ¬ Takes s y ∧ ¬ Sweeps e y) → (⟨s, e.text⟩ : AuthState) ∈ rows

namespace StatesLedger

theorem nil : StatesLedger [] [] where
  kept := by simp
  persists := by simp

variable {log : List SignInEntry} {a : App}

theorem kept_step (h : StatesLedger log a.db.authStates) (c : SignInCall) :
    ∀ r ∈ (c.step a).2.db.authStates, r.state ≠ "" ∧ ∃ pre x mid e,
      log ++ [(c, (c.step a).1)] = pre ++ x :: mid ∧ x.2 = .issued r.state e ∧ r.expiresAt = e.text ∧
        ∀ y ∈ mid, ¬ Issues r.state y ∧ ¬ Takes r.state y := by
  intro r hr
  rcases c.mem_step_states a (fun r hr => (h.kept r hr).1) hr with ⟨hr, hi, ht⟩ | ⟨e, he, hexp⟩
  · -- kept before: the entry that handed it out stays where it was
    obtain ⟨hne, pre, x, mid, e, hlog, hx, hexp, hmid⟩ := h.kept r hr
    refine ⟨hne, pre, x, mid ++ [(c, (c.step a).1)], e, by simp [hlog], hx, hexp, ?_⟩
    intro y hy
    rcases List.mem_append.mp hy with hy | hy
    · exact hmid y hy
    · rw [List.mem_singleton.mp hy]
      exact ⟨hi, ht⟩
  · -- handed out by this call
    have hne : r.state ≠ "" := by
      cases c with
      | begin now =>
        simp only [SignInCall.step, SignInEvent.issued.injEq] at he
        rw [← he.1]
        exact stateText_ne_empty _
      | complete => simp only [SignInCall.step, reduceCtorEq] at he
    exact ⟨hne, log, _, [], e, rfl, he, hexp, by simp⟩

theorem persists_step (h : StatesLedger log a.db.authStates) (c : SignInCall) :
    ∀ pre x mid s e, log ++ [(c, (c.step a).1)] = pre ++ x :: mid → x.2 = .issued s e →
      (∀ y ∈ mid, ¬ Issues s y ∧ ¬ Takes s y ∧ ¬ Sweeps e y) →
        (⟨s, e.text⟩ : AuthState) ∈ (c.step a).2.db.authStates := by
  intro pre x mid s e hlog hx hmid
  rcases Concurrent.append_cons_eq_append_singleton hlog.symm with ⟨-, rfl, -⟩ | ⟨mid₀, hlog₀, rfl⟩
  · -- handed out by this call
    exact c.issued_mem_step a hx
  · -- handed out before: kept until this call, which leaves it alone
    have hr := h.persists pre x mid₀ s e hlog₀ hx (fun y hy => hmid y (by simp [hy]))
    obtain ⟨hi, ht, hs⟩ := hmid (c, (c.step a).1) (by simp)
    refine c.mem_step_states_of a hr hi ht ?_
    rintro t rfl
    exact fun hlt => hs ⟨t, rfl, hlt⟩

theorem step (h : StatesLedger log a.db.authStates) (c : SignInCall) :
    StatesLedger (log ++ [(c, (c.step a).1)]) (c.step a).2.db.authStates :=
  ⟨h.kept_step c, h.persists_step c⟩

end StatesLedger

/-- Over any run from an application that keeps no sign-in states, the kept states answer to the
log of the run. -/
theorem statesLedger_afterCalls {a : App} (h₀ : a.db.authStates = []) (cs : List SignInCall) :
    StatesLedger (signInLog a cs) (afterCalls a cs).db.authStates := by
  induction cs using List.reverseRecOn with
  | nil => simpa only [signInLog, afterCalls, h₀] using StatesLedger.nil
  | append_singleton cs c ih =>
    rw [signInLog_append_singleton, afterCalls_append_singleton]
    exact ih.step c

/-- Only begins hand out states, each with the expiry the state lifetime gives from its clock. -/
theorem issued_of_mem_signInLog {a : App} {cs : List SignInCall} {x : SignInEntry} {s : String}
    {e : Instant} (hx : x ∈ signInLog a cs) (he : x.2 = .issued s e) :
    ∃ t, x.1 = .begin t ∧ e = stateExpiry a t := by
  induction cs generalizing a with
  | nil => simp [signInLog] at hx
  | cons c cs ih =>
    rcases List.mem_cons.mp hx with rfl | hx
    · cases c with
      | begin t =>
        simp only [SignInCall.step, SignInEvent.issued.injEq] at he
        exact ⟨t, rfl, he.2.symm⟩
      | complete => simp only [SignInCall.step, reduceCtorEq] at he
    · obtain ⟨t, h₁, h₂⟩ := ih hx
      exact ⟨t, h₁, by rw [h₂, stateExpiry, stateExpiry, SignInCall.step_settings]⟩

/-- A completion of the log that got past the checks had its state as its cookie. -/
theorem cookie_of_mem_signInLog {a : App} {cs : List SignInCall} {t : Instant}
    {cookie : Option String} {s code : String}
    (hx : (SignInCall.complete t cookie s code, SignInEvent.checked true) ∈ signInLog a cs) :
    cookie = some s := by
  induction cs generalizing a with
  | nil => simp [signInLog] at hx
  | cons c cs ih =>
    rcases List.mem_cons.mp hx with hx | hx
    · obtain ⟨rfl, hp⟩ := Prod.mk.inj hx
      exact ((SignInCall.step_complete_passes_iff a t cookie s code).mp hp.symm).1
    · exact ih hx

/-- The kept row of a state handed out, and since then neither handed out again, taken nor swept,
is the one with the expiry it was handed out with. -/
theorem StatesLedger.find_state {log : List SignInEntry} {rows : List AuthState}
    (h : StatesLedger log rows) {pre mid : List SignInEntry} {x : SignInEntry} {s : String} {e : Instant}
    (hlog : log = pre ++ x :: mid) (hx : x.2 = .issued s e)
    (hmid : ∀ y ∈ mid, ¬ Issues s y ∧ ¬ Takes s y ∧ ¬ Sweeps e y) :
    rows.find? (·.state == s) = some ⟨s, e.text⟩ := by
  have hmem := h.persists pre x mid s e hlog hx hmid
  obtain ⟨r, hr⟩ : ∃ r, rows.find? (·.state == s) = some r :=
    Option.isSome_iff_exists.mp (List.find?_isSome.mpr ⟨_, hmem, by simp⟩)
  have hrs : r.state = s := by simpa using List.find?_some hr
  -- the row found was handed out by the last entry that handed `s` out, which is `x`
  obtain ⟨-, pre', x', mid', e', hlog', hx', hexp, hmid'⟩ := h.kept r (List.mem_of_find?_eq_some hr)
  rw [hrs] at hx' hmid'
  have hxx : x' = x :=
    Concurrent.last_of_append_cons (P := Issues s) (hlog'.symm.trans hlog) ⟨e', hx'⟩ ⟨e, hx⟩
    (fun y hy => (hmid' y hy).1) (fun y hy => (hmid y hy).1)
  rw [hxx, hx, SignInEvent.issued.injEq] at hx'
  rw [hr, ← hrs, hx'.2, ← hexp]

/-! ## Completions over a run -/

section Runs

variable {a₀ : App} (h₀ : a₀.db.authStates = [])
include h₀

/-- A completion that gets past the checks of state `s` has `s` as its cookie; the last entry that
handed `s` out is a begin whose expiry is no earlier than the completion's clock and before the year
10000, and no completion took `s` since. -/
theorem issued_of_passes {cs : List SignInCall} {t : Instant} {cookie : Option String} {s code : String}
    (hp : ((SignInCall.complete t cookie s code).step (afterCalls a₀ cs)).1 = .checked true) :
    cookie = some s ∧ ∃ pre tb mid,
      signInLog a₀ cs = pre ++ (.begin tb, .issued s (stateExpiry a₀ tb)) :: mid ∧
      (∀ y ∈ mid, ¬ Issues s y ∧ ¬ Takes s y) ∧
      ¬ stateExpiry a₀ tb < t ∧
      stateExpiry a₀ tb < Instant.tenThousand := by
  obtain ⟨hc, -, r, hr, e, he, hlt⟩ := (SignInCall.step_complete_passes_iff _ _ _ _ _).mp hp
  have hrs : r.state = s := by simpa using List.find?_some hr
  obtain ⟨-, pre, x, mid, e₀, hlog, hx, hexp, hmid⟩ :=
    (statesLedger_afterCalls h₀ cs).kept r (List.mem_of_find?_eq_some hr)
  obtain ⟨tb, hx₁, rfl⟩ := issued_of_mem_signInLog (by rw [hlog]; simp) hx
  -- the expiry read back is the one written, which the reader takes only before the year 10000
  rw [hexp] at he
  obtain ⟨hfar, rfl⟩ := Instant.parseTimestamp_text_eq he
  obtain ⟨c, ev⟩ := x
  dsimp only at hx₁ hx
  subst hx₁ hx
  rw [hrs] at hlog hmid
  exact ⟨hc, pre, tb, mid, hlog, hmid, hlt, hfar⟩

/-- Once a completion got past the checks of `s`, a later one does only after a begin handed `s` out
again. -/
theorem issued_between_passes {cs : List SignInCall} {pre post : List SignInEntry} {t t' : Instant}
    {cookie cookie' : Option String} {s code code' : String}
    (hlog : signInLog a₀ cs = pre ++ (.complete t cookie s code, .checked true) :: post)
    (hp : ((SignInCall.complete t' cookie' s code').step (afterCalls a₀ cs)).1 = .checked true) :
    ∃ y ∈ post, Issues s y := by
  obtain ⟨-, pre', tb, mid', hlog', hmid', -⟩ := issued_of_passes h₀ hp
  have hmem : (SignInCall.complete t cookie s code, SignInEvent.checked true) ∈ signInLog a₀ cs := by
    rw [hlog]
    simp
  have hc : cookie = some s := cookie_of_mem_signInLog hmem
  -- the first completion took `s`, so it stands before the begin that handed `s` out last
  rcases List.append_eq_append_iff.mp (hlog.symm.trans hlog') with ⟨c, -, hc'⟩ | ⟨c, -, hc'⟩
  · cases c with
    | nil => simp at hc'
    | cons z c =>
      obtain ⟨-, rfl⟩ := List.cons.inj hc'
      exact ⟨(.begin tb, .issued s (stateExpiry a₀ tb)),
        by simp [List.append_eq], _, rfl⟩
  · cases c with
    | nil => simp at hc'
    | cons z c =>
      obtain ⟨-, rfl⟩ := List.cons.inj hc'
      exact ((hmid' (.complete t cookie s code, .checked true) (by simp [List.append_eq])).2
        ⟨t, code, by rw [hc]⟩).elim

/-- A state handed out by a begin, with an expiry before the year 10000, gets past the checks of a
completion with it as cookie and state at a clock no later than that expiry, when since that begin
no call handed it out again or took it, and none came after the completion's clock. -/
theorem passes_of_issued {cs : List SignInCall} {pre mid : List SignInEntry} {tb t : Instant}
    {s code : String}
    (hlog : signInLog a₀ cs = pre ++ (.begin tb, .issued s (stateExpiry a₀ tb)) :: mid)
    (hfar : stateExpiry a₀ tb < Instant.tenThousand)
    (ht : ¬ stateExpiry a₀ tb < t)
    (hmid : ∀ y ∈ mid, ¬ Issues s y ∧ ¬ Takes s y ∧ ¬ t < y.1.clock) :
    ((SignInCall.complete t (some s) s code).step (afterCalls a₀ cs)).1 = .checked true := by
  have hled := statesLedger_afterCalls h₀ cs
  -- no begin since swept it: each came no later than the expiry, and before the year 10000 texts
  -- sort as their instants
  have hclean : ∀ y ∈ mid, ¬ Issues s y ∧ ¬ Takes s y ∧
      ¬ Sweeps (stateExpiry a₀ tb) y := by
    intro y hy
    obtain ⟨hi, htk, hclock⟩ := hmid y hy
    refine ⟨hi, htk, ?_⟩
    rintro ⟨tk, hy₁, hlt⟩
    rw [hy₁, SignInCall.clock] at hclock
    have hle : tk.micros ≤ (stateExpiry a₀ tb).micros :=
      Nat.le_trans (Nat.le_of_not_lt hclock) (Nat.le_of_not_lt ht)
    have hfar' : tk < Instant.tenThousand := Nat.lt_of_le_of_lt hle hfar
    exact Nat.not_lt_of_le hle ((Instant.text_lt_text_iff hfar hfar').mp hlt)
  have hfind := hled.find_state hlog rfl hclean
  rw [SignInCall.step_complete_passes_iff]
  exact ⟨rfl, (hled.kept _ (List.mem_of_find?_eq_some hfind)).1, _, hfind, _,
    Instant.parseTimestamp_text hfar, ht⟩

end Runs

/-- Over any run of begins and completions from a store that keeps no sign-in states, a completion
gets past the state checks only with its state as its cookie, after a begin handed that state out,
no later than the expiry that begin gave it, which is before the year 10000; once for each time the
state was handed out; and it does get past them in that case when no call since came after its
clock. Before the year 10000 is needed: a state lifetime long enough to carry the expiry past it
makes the state unusable at once. -/
theorem signIn_state_checks {a₀ : App} (h₀ : a₀.db.authStates = []) :
    (∀ cs t cookie s code,
      ((SignInCall.complete t cookie s code).step (afterCalls a₀ cs)).1 = .checked true →
      cookie = some s ∧ ∃ pre tb mid,
        signInLog a₀ cs = pre ++ (.begin tb, .issued s (stateExpiry a₀ tb)) :: mid ∧
        (∀ y ∈ mid, ¬ Issues s y ∧ ¬ Takes s y) ∧
        ¬ stateExpiry a₀ tb < t ∧
        stateExpiry a₀ tb < Instant.tenThousand) ∧
    (∀ cs pre post t t' cookie cookie' s code code',
      signInLog a₀ cs = pre ++ (.complete t cookie s code, .checked true) :: post →
      ((SignInCall.complete t' cookie' s code').step (afterCalls a₀ cs)).1 = .checked true →
      ∃ y ∈ post, Issues s y) ∧
    (∀ cs pre tb mid t s code,
      signInLog a₀ cs = pre ++ (.begin tb, .issued s (stateExpiry a₀ tb)) :: mid →
      stateExpiry a₀ tb < Instant.tenThousand →
      ¬ stateExpiry a₀ tb < t →
      (∀ y ∈ mid, ¬ Issues s y ∧ ¬ Takes s y ∧ ¬ t < y.1.clock) →
      ((SignInCall.complete t (some s) s code).step (afterCalls a₀ cs)).1 = .checked true) :=
  ⟨fun _ _ _ _ _ hp => issued_of_passes h₀ hp,
   fun _ _ _ _ _ _ _ _ _ _ hlog hp => issued_between_passes h₀ hlog hp,
   fun _ _ _ _ _ _ _ hlog hfar ht hmid => passes_of_issued h₀ hlog hfar ht hmid⟩

/-- With a state lifetime of a million million seconds, a state handed out at the epoch would expire
after the year 10000, and a completion with it right away does not get past the checks. -/
theorem far_state_expiry_refused :
    let a : App :=
      { settings := { stateTtl := 1000000000000 }, issuer := ⟨"", 1, Nat.one_pos, [], []⟩, now := ⟨0⟩ }
    a.db.authStates = [] ∧
      ((SignInCall.complete ⟨0⟩ (some (stateText 1)) (stateText 1) "carol").step
        (afterCalls a [.begin ⟨0⟩])).1 ≠ .checked true := by
  intro a
  refine ⟨rfl, fun hp => ?_⟩
  obtain ⟨-, pre, tb, mid, hlog, -, -, hfar⟩ :=
    (signIn_state_checks (show a.db.authStates = [] from rfl)).1 _ _ _ _ _ hp
  -- the run's log is the one begin at the epoch, whose expiry is past the year 10000
  have hone : signInLog a [.begin ⟨0⟩] =
      [(.begin ⟨0⟩, .issued (stateText 1) (stateExpiry a ⟨0⟩))] := rfl
  rw [hone] at hlog
  cases pre with
  | nil =>
    obtain ⟨hb, -⟩ := List.cons.inj hlog
    obtain ⟨rfl⟩ := (Prod.mk.inj hb).1
    exact absurd hfar (by decide)
  | cons z pre => simp at hlog

end Shipyard.Platform
