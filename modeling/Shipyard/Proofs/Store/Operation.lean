import Shipyard.Store.Sessions
/-!
# The store's operations as data

A store operation is a function of the store that answers and gives the new store, or fails
and gives none. The operations callers may use are collected as `Store.Op`, one constructor
each, with the arguments they are called with; `Op.apply` runs one as a transaction: the new
store when it succeeds, the old one when it fails. A store is reachable when a sequence of
operations leads to it from the empty store, so a fact of every reachable store is a fact of
every history of calls.

The equations `get_bind_apply`, `ensure_bind_apply`, … evaluate an operation on a given store,
one primitive at a time, so that with `bind_assoc` an operation's effect is read off by
`simp only` and `split`, with no monad left in the goal.
-/
namespace Shipyard.Store

open Shipyard.Vcs

section Evaluation

variable {α β : Type}

@[simp] theorem get_bind_apply (f : Db → StoreM β) (db : Db) : (get >>= f) db = f db db := rfl

@[simp] theorem set_bind_apply (s : Db) (f : Unit → StoreM β) (db : Db) :
    (set s >>= f) db = f () s := rfl

@[simp] theorem modify_bind_apply (g : Db → Db) (f : Unit → StoreM β) (db : Db) :
    (modify g >>= f) db = f () (g db) := rfl

@[simp] theorem modifyGet_bind_apply (g : Db → α × Db) (f : α → StoreM β) (db : Db) :
    (modifyGet g >>= f) db = f (g db).1 (g db).2 := rfl

@[simp] theorem throw_bind_apply (e : StoreError) (f : α → StoreM β) (db : Db) :
    ((throw e : StoreM α) >>= f) db = .error e := rfl

@[simp] theorem ensure_bind_apply (b : Bool) (e : StoreError) (f : Unit → StoreM β) (db : Db) :
    (ensure b e >>= f) db = if b then f () db else .error e := by
  cases b <;> rfl

@[simp] theorem found_bind_apply (e : StoreError) (o : Option α) (f : α → StoreM β) (db : Db) :
    (found e o >>= f) db = match o with
      | some a => f a db
      | none => .error e := by
  cases o <;> rfl

@[simp] theorem ite_bind_apply (c : Prop) [Decidable c] (x y : StoreM α) (f : α → StoreM β)
    (db : Db) : ((if c then x else y) >>= f) db = if c then (x >>= f) db else (y >>= f) db := by
  split <;> rfl

@[simp] theorem get_apply (db : Db) : (get : StoreM Db) db = .ok (db, db) := rfl

@[simp] theorem set_apply (db db' : Db) : (set db' : StoreM Unit) db = .ok ((), db') := rfl

@[simp] theorem modify_apply (f : Db → Db) (db : Db) :
    (modify f : StoreM Unit) db = .ok ((), f db) := rfl

@[simp] theorem modifyGet_apply (f : Db → α × Db) (db : Db) :
    (modifyGet f : StoreM α) db = .ok (f db) := rfl

@[simp] theorem pure_apply (a : α) (db : Db) : (pure a : StoreM α) db = .ok (a, db) := rfl

@[simp] theorem throw_apply (e : StoreError) (db : Db) : (throw e : StoreM α) db = .error e :=
  rfl

@[simp] theorem ite_apply (c : Prop) [Decidable c] (x y : StoreM α) (db : Db) :
    (if c then x else y) db = if c then x db else y db := by
  split <;> rfl

@[simp] theorem ensure_apply (b : Bool) (e : StoreError) (db : Db) :
    ensure b e db = if b then .ok ((), db) else .error e := by
  cases b <;> rfl

@[simp] theorem found_apply (e : StoreError) (o : Option α) (db : Db) :
    found e o db = match o with
      | some a => .ok (a, db)
      | none => .error e := by
  cases o <;> rfl

end Evaluation

/-- The operations of the store, each with the arguments it is called with. -/
inductive Op where
  | getOrCreateUser (u : User)
  | getUser (id : String)
  | getWorkspace (id : String)
  | linkInstallation (vcsId : Int) (owner : String) (repos : List HostRepository)
  | addRepositories (vcsId : Int) (owner : String) (repos : List HostRepository)
  | removeRepositories (vcsId : Int) (repos : List HostRepository)
  | removeInstallation (vcsId : Int)
  | getInstallation (vcsId : Int)
  | getRepositories (userId : String)
  | getRepoById (userId repoId : String)
  | getRepoByVcsId (vcsId : Int)
  | connectRepo (userId repoId branch : String)
  | getInstallationId (workspaceId fullName : String)
  | saveDeployment (d : Deployment) (now : Instant)
  | updateDeployment (d : Deployment) (now : Instant)
  | getDeployment (id : String)
  | getDeployments (repoId : String)
  | getDeploymentHistory (repoId : String)
  | supersede (repoId keep : String) (now : Instant)
  | markRolledBack (repoId source keep : String) (now : Instant)
  | saveSecret (k : SecretKey)
  | removeSecret (k : SecretKey)
  | secretKeyExists (k : SecretKey)
  | secretKeys (workspaceId repoId : String)
  | saveAuthState (state : String) (expiresAt now : Instant)
  | takeAuthState (state : String)
  | saveTokenPair (p : TokenPair)
  | getTokenPair (userId : String)
  | deleteTokenPair (userId : String)

namespace Op

/-- An operation's effect on the store, its answer dropped. -/
def run : Op → StoreM Unit
  | .getOrCreateUser u => do let _ ← Store.getOrCreateUser u
  | .getUser id => do let _ ← Store.getUser id
  | .getWorkspace id => do let _ ← Store.getWorkspace id
  | .linkInstallation i owner repos => do let _ ← Store.linkInstallation i owner repos
  | .addRepositories i owner repos => do let _ ← Store.addRepositories i owner repos
  | .removeRepositories i repos => Store.removeRepositories i repos
  | .removeInstallation i => do let _ ← Store.removeInstallation i
  | .getInstallation i => do let _ ← Store.getInstallation i
  | .getRepositories u => do let _ ← Store.getRepositories u
  | .getRepoById u r => do let _ ← Store.getRepoById u r
  | .getRepoByVcsId i => do let _ ← Store.getRepoByVcsId i
  | .connectRepo u r b => do let _ ← Store.connectRepo u r b
  | .getInstallationId w n => do let _ ← Store.getInstallationId w n
  | .saveDeployment d now => do let _ ← Store.saveDeployment d now
  | .updateDeployment d now => do let _ ← Store.updateDeployment d now
  | .getDeployment id => do let _ ← Store.getDeployment id
  | .getDeployments r => do let _ ← Store.getDeployments r
  | .getDeploymentHistory r => do let _ ← Store.getDeploymentHistory r
  | .supersede r keep now => do let _ ← Store.supersede r keep now
  | .markRolledBack r source keep now => do let _ ← Store.markRolledBack r source keep now
  | .saveSecret k => Store.saveSecret k
  | .removeSecret k => Store.removeSecret k
  | .secretKeyExists k => do let _ ← Store.secretKeyExists k
  | .secretKeys w r => do let _ ← Store.secretKeys w r
  | .saveAuthState s e now => Store.saveAuthState s e now
  | .takeAuthState s => do let _ ← Store.takeAuthState s
  | .saveTokenPair p => Store.saveTokenPair p
  | .getTokenPair u => do let _ ← Store.getTokenPair u
  | .deleteTokenPair u => Store.deleteTokenPair u

/-- An operation as a transaction: the store it leaves, or the store as it was when it fails. -/
def apply (o : Op) (db : Db) : Db :=
  match o.run db with
  | .ok (_, db') => db'
  | .error _ => db

/-- An operation whose answer is dropped succeeds when the operation does, on the same store. -/
@[simp] theorem discard_eq_ok {α : Type} {x : StoreM α} {db db' : Db} :
    (x >>= fun _ => pure ()) db = .ok ((), db') ↔ ∃ a, x db = .ok (a, db') := by
  show Except.bind _ _ = _ ↔ _
  cases x db with
  | error e => simp [Except.bind]
  | ok p =>
    show Except.ok ((), p.2) = _ ↔ _
    simp [Prod.ext_iff]

/-- An operation whose answer is dropped fails when the operation does, with its error. -/
@[simp] theorem discard_eq_error {α : Type} {x : StoreM α} {db : Db} {e : StoreError} :
    (x >>= fun _ => pure ()) db = .error e ↔ x db = .error e := by
  show Except.bind _ _ = _ ↔ _
  cases x db with
  | error e' => simp [Except.bind]
  | ok p =>
    show Except.ok ((), p.2) = _ ↔ _
    simp

theorem apply_of_ok {o : Op} {db db' : Db} (h : o.run db = .ok ((), db')) : o.apply db = db' := by
  simp [apply, h]

theorem apply_of_error {o : Op} {db : Db} {e : StoreError} (h : o.run db = .error e) :
    o.apply db = db := by
  simp [apply, h]

end Op

/-- The stores some sequence of operations leads to from the empty store. -/
inductive Reachable : Db → Prop
  | empty : Reachable {}
  | step {db : Db} (o : Op) : Reachable db → Reachable (o.apply db)

/-- A property of the empty store that every successful operation keeps holds of every
reachable store. -/
theorem Reachable.induct {P : Db → Prop} (h₀ : P {})
    (hstep : ∀ (o : Op) db db', P db → o.run db = .ok ((), db') → P db') {db : Db}
    (h : Reachable db) : P db := by
  induction h with
  | empty => exact h₀
  | @step db o _ ih =>
    unfold Op.apply
    split
    · exact hstep o db _ ih ‹_›
    · exact ih

end Shipyard.Store
