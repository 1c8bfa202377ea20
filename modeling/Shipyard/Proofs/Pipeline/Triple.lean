import Shipyard.Platform.Pipeline
/-!
# What a step of a run promises

A step of a run is a computation in `RunM`: from a run state it returns an answer, or stops
with a reason, in a new run state. `RunM.Triple P x Q E` says that from every state where `P`
holds, `x` returns `a` in a state where `Q a` holds, or stops with `e` in a state where `E e`
holds: one postcondition for each way out, as in the exception monad of seL4's specifications.

There is one rule per primitive, stated for any postcondition, and one for `bind`; a step's
promise is assembled from those of its parts, and a caller cites the promise of a step without
unfolding it again.
-/
namespace Shipyard.Platform

namespace RunM

/-- From a state where `P` holds, `x` returns into `Q` or stops into `E`. -/
def Triple {α : Type} (P : RunState → Prop) (x : RunM α) (Q : α → RunState → Prop)
    (E : Stop → RunState → Prop) : Prop :=
  ∀ s, P s → match x.run.run s with
    | (.ok a, s') => Q a s'
    | (.error e, s') => E e s'

namespace Triple

variable {α β : Type} {P P' : RunState → Prop} {Q : α → RunState → Prop}
  {E : Stop → RunState → Prop}

protected theorem pure (a : α) : Triple (Q a) (pure a) Q E := fun _ h => h

protected theorem throw (e : Stop) : Triple (E e) (throw e : RunM α) Q E := fun _ h => h

protected theorem fail (code message : String) :
    Triple (E (.failed code message)) (fail code message : RunM α) Q E := fun _ h => h

protected theorem get {Q : RunState → RunState → Prop} : Triple (fun s => Q s s) get Q E :=
  fun _ h => h

protected theorem set (t : RunState) {Q : Unit → RunState → Prop} :
    Triple (fun _ => Q () t) (set t) Q E := fun _ h => h

protected theorem modify (f : RunState → RunState) {Q : Unit → RunState → Prop} :
    Triple (fun s => Q () (f s)) (modify f) Q E := fun _ h => h

/-- A step's outcome, one bind at a time. -/
theorem run_bind (x : RunM α) (f : α → RunM β) (s : RunState) :
    (x >>= f).run.run s = match x.run.run s with
      | (.ok a, s') => (f a).run.run s'
      | (.error e, s') => (.error e, s') := by
  rw [ExceptT.run_bind, StateT.run_bind]
  rcases x.run.run s with ⟨_ | a, s'⟩ <;> rfl

protected theorem bind {x : RunM α} {f : α → RunM β} {R : α → RunState → Prop}
    {Q : β → RunState → Prop} (hx : Triple P x R E) (hf : ∀ a, Triple (R a) (f a) Q E) :
    Triple P (x >>= f) Q E := by
  intro s hs
  have h := hx s hs
  rw [run_bind]
  revert h
  rcases x.run.run s with ⟨_ | a, s'⟩
  · exact id
  · exact hf a s'

/-- A promise read at the outcome of running a step, as a caller of the step writes it. -/
theorem result {s : RunState} (h : Triple P x Q E) (hs : P s) : match (x.run s).run with
    | (.ok a, s') => Q a s'
    | (.error e, s') => E e s' := h s hs

theorem pre (h : Triple P' x Q E) (hp : ∀ s, P s → P' s) : Triple P x Q E :=
  fun s hs => h s (hp s hs)

/-- A promise is proved from every starting state on its own. -/
theorem of_state {x : RunM α} (h : ∀ s₀, P s₀ → Triple (· = s₀) x Q E) : Triple P x Q E :=
  fun s hs => h s hs s rfl

/-- Reading the state, then going on knowing it. -/
theorem get_bind {f : RunState → RunM β} {Q : β → RunState → Prop}
    (h : ∀ s₀, P s₀ → Triple (· = s₀) (f s₀) Q E) : Triple P (get >>= f) Q E := by
  intro s hs
  rw [run_bind]
  exact h s hs s rfl

/-- The cancellation check goes on with the state as it was, or stops the run as cancelled. -/
theorem checkCancel_spec :
    Triple (fun s => P s ∧ (s.app.running.any (·.1 == s.current.id) = false → E .cancelled s))
      checkCancel (fun _ => P) E := by
  refine get_bind fun s₀ h₀ s hs => ?_
  rw [hs]
  cases hf : s₀.app.running.any (·.1 == s₀.current.id)
  · exact h₀.2 hf
  · exact h₀.1

section Fixed

variable {γ : Type} {s₀ : RunState} {Q : β → RunState → Prop}

/-- Symbolic execution: a step from one known state, one primitive at a time. -/
theorem pure_at (a : β) (h : Q a s₀) : Triple (· = s₀) (pure a) Q E := fun _ hs => hs ▸ h

theorem throw_at (e : Stop) (h : E e s₀) : Triple (· = s₀) (throw e : RunM β) Q E :=
  fun _ hs => hs ▸ h

theorem fail_at (code message : String) (h : E (.failed code message) s₀) :
    Triple (· = s₀) (fail code message : RunM β) Q E := fun _ hs => hs ▸ h

theorem throw_bind_at (e : Stop) {f : γ → RunM β} (h : E e s₀) :
    Triple (· = s₀) (throw e >>= f) Q E := by
  intro s hs
  subst hs
  rw [run_bind]
  exact h

theorem fail_bind_at (code message : String) {f : γ → RunM β} (h : E (.failed code message) s₀) :
    Triple (· = s₀) (fail code message >>= f) Q E := throw_bind_at _ h

theorem get_bind_at {f : RunState → RunM β} (h : Triple (· = s₀) (f s₀) Q E) :
    Triple (· = s₀) (get >>= f) Q E := get_bind fun _ hs => hs ▸ h

theorem set_bind_at (t : RunState) {f : Unit → RunM β} (h : Triple (· = t) (f ()) Q E) :
    Triple (· = s₀) (set t >>= f) Q E := by
  intro s hs
  rw [run_bind]
  exact h t rfl

theorem modify_bind_at (g : RunState → RunState) {f : Unit → RunM β}
    (h : Triple (· = g s₀) (f ()) Q E) : Triple (· = s₀) (modify g >>= f) Q E := by
  intro s hs
  subst hs
  rw [run_bind]
  exact h _ rfl

theorem set_at (t : RunState) {Q : Unit → RunState → Prop} (h : Q () t) :
    Triple (· = s₀) (set t) Q E := fun _ _ => h

theorem modify_at (g : RunState → RunState) {Q : Unit → RunState → Prop} (h : Q () (g s₀)) :
    Triple (· = s₀) (modify g) Q E := fun _ hs => hs ▸ h

theorem say_bind_at (payload : String) {f : Unit → RunM β}
    (h : Triple (· = { s₀ with app := s₀.app.info s₀.current.id payload }) (f ()) Q E) :
    Triple (· = s₀) (say payload >>= f) Q E := modify_bind_at _ h

/-- A run still in flight passes the cancellation check. -/
theorem checkCancel_bind_at {f : Unit → RunM β}
    (hf : s₀.app.running.any (·.1 == s₀.current.id) = true) (h : Triple (· = s₀) (f ()) Q E) :
    Triple (· = s₀) (checkCancel >>= f) Q E := by
  refine ((@checkCancel_spec (· = s₀) E).bind fun _ => h).pre fun s hs => ⟨hs, ?_⟩
  subst hs
  simp [hf]

/-- A promise used at one state it holds of. -/
theorem atState {x : RunM β} (hx : Triple P x Q E) (h₀ : P s₀) : Triple (· = s₀) x Q E :=
  fun _ hs => hs ▸ hx s₀ h₀

theorem store_bind_at {op : StoreM γ} {onError : StoreError → Stop} {f : γ → RunM β}
    (hok : ∀ x db, op s₀.app.db = .ok (x, db) →
      Triple (· = { s₀ with app := { s₀.app with db } }) (f x) Q E)
    (herr : ∀ e, op s₀.app.db = .error e → E (onError e) s₀) :
    Triple (· = s₀) (store op onError >>= f) Q E := by
  unfold store
  rw [bind_assoc]
  refine get_bind_at ?_
  cases hop : op s₀.app.db with
  | error e => exact throw_bind_at _ (herr e hop)
  | ok p =>
    obtain ⟨x, db⟩ := p
    rw [bind_assoc]
    exact set_bind_at _ (by simpa only [pure_bind] using hok x db hop)

end Fixed

end Triple

end RunM

end Shipyard.Platform
