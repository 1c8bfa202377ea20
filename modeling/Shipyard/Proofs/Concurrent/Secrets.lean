import Shipyard.Proofs.Concurrent.Interleaving
import Shipyard.Proofs.Platform.Tenancy
/-!
# Secrets under concurrent requests

A `setSecret` request makes two calls: it keeps the value in the cluster, then records the key in
the store. A `removeSecret` request forgets the key in the store, then drops the value from the
cluster. Requests run concurrently, and any call may fail, the request then returning at once. A
failed call changes nothing: the store's calls are transactions, and a cluster call that failed
after writing ends as the same call succeeding, followed by a failure of the request's next call.

For requests on one key made one after another, this order keeps a value in the cluster for every
key the store lists, whatever fails. Overlapping requests on one key break it: a set keeps its
value, a whole remove runs, then the set records its key. That key is listed with no value
(`unlocked_set_outlives_remove`), and `getSecrets` lists a key that a later remove forgot.

Main statement (`secrets_coupled_under_key_lock`): under a lock per key, held by a request between
its two calls, every state reached keeps a value for every listed key. After a set of `k` to `v`
that succeeded, with no later call on `k`, revealing `k` answers `v`. After a remove of `k` that
succeeded, with no later set of `k` keeping a value, `getSecrets` omits `k`, and revealing `k`
fails with `SECRET_DOESNT_EXIST`.
-/
namespace Shipyard.Services

theorem lookup_cons_ite (j k v : String) (l : List (String × String)) :
    ((k, v) :: l).lookup j = if j = k then some v else l.lookup j := by
  by_cases h : j = k
  · simp [h]
  · simp only [List.lookup_cons, beq_false_of_ne h, if_neg h]

/-- Putting a key answers its value for it, and every other key as before. -/
theorem lookup_putSorted (k v j : String) (l : List (String × String)) :
    (putSorted k v l).lookup j = if j = k then some v else l.lookup j := by
  induction l with
  | nil => exact lookup_cons_ite j k v []
  | cons p l ih =>
    obtain ⟨k', v'⟩ := p
    by_cases hlt : k < k'
    · simp only [putSorted, if_pos hlt, lookup_cons_ite]
    by_cases heq : k = k'
    · subst heq
      simp only [putSorted, if_neg hlt, beq_self_eq_true, if_true, lookup_cons_ite]
      by_cases hj : j = k <;> simp [hj]
    · simp only [putSorted, if_neg hlt, beq_false_of_ne heq, Bool.false_eq_true, if_false,
        lookup_cons_ite, ih]
      by_cases hj : j = k
      · subst hj
        simp [heq]
      · simp [hj]

/-- Dropping a key answers nothing for it, and every other key as before. -/
theorem lookup_filter_ne (k j : String) (l : List (String × String)) :
    (l.filter (·.1 != k)).lookup j = if j = k then none else l.lookup j := by
  induction l with
  | nil => simp
  | cons p l ih =>
    obtain ⟨k', v'⟩ := p
    by_cases hk : k' = k
    · subst hk
      have hdrop : ¬ ((k', v').1 != k') = true := by simp
      rw [List.filter_cons_of_neg (p := fun x : String × String => x.1 != k') hdrop, ih,
        lookup_cons_ite]
      by_cases hj : j = k' <;> simp [hj]
    · have hkeep : ((k', v').1 != k) = true := by simpa using hk
      rw [List.filter_cons_of_pos (p := fun x : String × String => x.1 != k) hkeep,
        lookup_cons_ite, lookup_cons_ite, ih]
      by_cases hj : j = k
      · subst hj
        simp [Ne.symm hk]
      · simp [hj]

namespace Cluster

variable (c : Cluster) (ns repo : String)

/-- Keeping a value puts it among the values of the repository's secret set. -/
theorem secretValues_storeSecret (k v : String) :
    (c.storeSecret ns repo k v).secretValues ns repo = putSorted k v (c.secretValues ns repo) := by
  unfold storeSecret secretValues
  split
  · rename_i hany
    obtain ⟨s, hs⟩ := Option.isSome_iff_exists.1 (List.find?_isSome.2 (List.any_eq_true.1 hany))
    have hp : s.ns = ns ∧ s.repo = repo := by simpa using List.find?_some hs
    have hsame : ((fun s : SecretSet => s.ns == ns && s.repo == repo) ∘ fun s =>
        if (s.ns == ns && s.repo == repo) = true then { s with values := putSorted k v s.values }
        else s) = fun s => s.ns == ns && s.repo == repo := by
      funext s
      simp only [Function.comp]
      split <;> rfl
    rw [List.find?_map, hsame, hs]
    simp [hp]
  · rename_i hany
    have hnone : c.secrets.find? (fun s => s.ns == ns && s.repo == repo) = none := by
      simpa [List.find?_eq_none, List.any_eq_true] using hany
    rw [List.find?_append, hnone]
    simp [putSorted]

/-- Dropping a value takes it out of the values of the repository's secret set. -/
theorem secretValues_removeSecret {k : String} {c' : Cluster}
    (h : c.removeSecret ns repo k = .ok c') :
    c'.secretValues ns repo = (c.secretValues ns repo).filter (·.1 != k) := by
  unfold removeSecret at h
  split at h
  · cases h
    unfold secretValues
    have hsame : ((fun s : SecretSet => s.ns == ns && s.repo == repo) ∘ fun s =>
        if (s.ns == ns && s.repo == repo) = true then
          { s with values := s.values.filter (·.1 != k) }
        else s) = fun s => s.ns == ns && s.repo == repo := by
      funext s
      simp only [Function.comp]
      split <;> rfl
    rw [List.find?_map, hsame]
    cases hs : c.secrets.find? (fun s => s.ns == ns && s.repo == repo) with
    | none => rfl
    | some s =>
      have hp : s.ns = ns ∧ s.repo = repo := by simpa using List.find?_some hs
      simp [hp]
  · cases h

end Cluster

end Shipyard.Services

namespace Shipyard.Platform

open Shipyard.Store Shipyard.Services Shipyard.Concurrent Shipyard.Token

section Keys

variable {s : Scope} {a : App} {db : Db} {c : Cluster} {j k v : String}

/-- The store lists key `k` for the repository of scope `s`. -/
def App.Lists (a : App) (s : Scope) (k : String) : Prop :=
  ⟨s.workspaceId, s.repoId, k⟩ ∈ a.db.secretKeys

instance (a : App) (s : Scope) (k : String) : Decidable (a.Lists s k) :=
  inferInstanceAs (Decidable (_ ∈ a.db.secretKeys))

/-- The value the cluster keeps for key `k` of the repository of scope `s`. -/
def App.secretValue (a : App) (s : Scope) (k : String) : Option String :=
  (a.cluster.secretValues s.clusterNamespace s.repoId).lookup k

/-- Every key the store lists for the repository has a value in the cluster. -/
def App.KeysHaveValues (a : App) (s : Scope) : Prop :=
  ∀ k, a.Lists s k → (a.secretValue s k).isSome

@[simp] theorem App.lists_cluster : ({ a with cluster := c } : App).Lists s k ↔ a.Lists s k :=
  Iff.rfl

@[simp] theorem App.secretValue_db :
    ({ a with db := db } : App).secretValue s k = a.secretValue s k :=
  rfl

theorem App.secretValue_storeSecret :
    ({ a with cluster := a.cluster.storeSecret s.clusterNamespace s.repoId k v } : App).secretValue
      s j = if j = k then some v else a.secretValue s j := by
  simp only [App.secretValue, Cluster.secretValues_storeSecret, lookup_putSorted]

theorem App.secretValue_removeSecret
    (h : a.cluster.removeSecret s.clusterNamespace s.repoId k = .ok c) :
    ({ a with cluster := c } : App).secretValue s j =
      if j = k then none else a.secretValue s j := by
  simp only [App.secretValue, Cluster.secretValues_removeSecret _ _ _ h, lookup_filter_ne]

theorem App.lists_saveSecret (h : saveSecret ⟨s.workspaceId, s.repoId, k⟩ a.db = .ok ((), db)) :
    ({ a with db := db } : App).Lists s j ↔ a.Lists s j ∨ j = k := by
  rw [saveSecret_apply] at h
  simp only [App.Lists]
  split at h
  · cases h
    rename_i hc
    constructor
    · exact Or.inl
    · rintro (hj | rfl)
      · exact hj
      · exact List.contains_iff_mem.1 hc
  · split at h
    · cases h
    · cases h
      simp

theorem App.lists_removeSecret (h : removeSecret ⟨s.workspaceId, s.repoId, k⟩ a.db = .ok ((), db)) :
    ({ a with db := db } : App).Lists s j ↔ a.Lists s j ∧ j ≠ k := by
  rw [removeSecret_apply] at h
  cases h
  simp [App.Lists]

end Keys

/-- Where a secret request is: about to keep value `v` of key `k` in the cluster, then about to
record the key; about to forget key `k`, then about to drop its value; or returned, successfully
or not. -/
inductive SecretCall where
  | set (k v : String)
  | record (k v : String)
  | remove (k : String)
  | drop (k : String)
  | returned (ok : Bool)

namespace SecretCall

/-- The key a request is about, until it returns. -/
def key : SecretCall → Option String
  | .set k _ | .record k _ | .remove k | .drop k => some k
  | .returned _ => none

/-- The key whose lock a request holds: the one it is about, between its two calls. -/
def holds : SecretCall → Option String
  | .record k _ | .drop k => some k
  | _ => none

/-- A request that has made no call yet. -/
def Fresh : SecretCall → Prop
  | .set _ _ | .remove _ => True
  | _ => False

/-- What a request between its two calls relies on: a set about to record its key has kept its
value in the cluster, and a remove about to drop the value has forgotten the key. -/
def Promise (s : Scope) (a : App) : SecretCall → Prop
  | .record k v => a.secretValue s k = some v
  | .drop k => ¬ a.Lists s k
  | _ => True

end SecretCall

/-- What a call of a secret request logs: the value kept, the key recorded, the key forgotten,
the value dropped (or found absent), or a failure, each with its key. -/
inductive SecretEvent where
  | wrote (k v : String)
  | recorded (k v : String)
  | forgot (k : String)
  | dropped (k : String)
  | failed (k : String)
  deriving DecidableEq

/-- The key a call is about. -/
def SecretEvent.key : SecretEvent → String
  | .wrote k _ | .recorded k _ | .forgot k | .dropped k | .failed k => k

/-- One call of a secret request on the repository of scope `s`. -/
inductive SecretStep (s : Scope) : App → SecretCall → SecretEvent → App → SecretCall → Prop
  | write {a : App} {k v : String} :
      SecretStep s a (.set k v) (.wrote k v)
        { a with cluster := a.cluster.storeSecret s.clusterNamespace s.repoId k v } (.record k v)
  | record {a : App} {db : Db} {k v : String} :
      saveSecret ⟨s.workspaceId, s.repoId, k⟩ a.db = .ok ((), db) →
      SecretStep s a (.record k v) (.recorded k v) { a with db := db } (.returned true)
  | forget {a : App} {db : Db} {k : String} :
      removeSecret ⟨s.workspaceId, s.repoId, k⟩ a.db = .ok ((), db) →
      SecretStep s a (.remove k) (.forgot k) { a with db := db } (.drop k)
  | drop {a : App} {c : Cluster} {k : String} :
      a.cluster.removeSecret s.clusterNamespace s.repoId k = .ok c →
      SecretStep s a (.drop k) (.dropped k) { a with cluster := c } (.returned true)
  | dropAbsent {a : App} {k : String} :
      a.cluster.removeSecret s.clusterNamespace s.repoId k = .error .secretNotFound →
      SecretStep s a (.drop k) (.dropped k) a (.returned true)
  | fail {a : App} {t : SecretCall} {k : String} :
      t.key = some k → SecretStep s a t (.failed k) a (.returned false)

/-- The lock of each key: a request may make its first call only while no request holds the lock
of its key. -/
def keyLock : Admits SecretCall := fun ts i =>
  ∀ t ∈ ts[i]?, t.holds = none → ∀ k, t.key = some k → ∀ u ∈ ts, u.holds ≠ some k

/-- No two requests hold the lock of one key. -/
def Exclusive (ts : List SecretCall) : Prop :=
  ∀ (i j : Nat) (t u : SecretCall) (k : String),
    ts[i]? = some t → ts[j]? = some u → t.holds = some k → u.holds = some k → i = j

/-- What holds of the application and the requests under the lock of each key. -/
structure SecretsSound (s : Scope) (a : App) (ts : List SecretCall) : Prop where
  coupled : a.KeysHaveValues s
  promises : ∀ t ∈ ts, t.Promise s a
  exclusive : Exclusive ts

namespace Exclusive

variable {ts : List SecretCall} {i : Nat} {t t' u : SecretCall} {k : String}

/-- A request holding the lock of a key is the only one holding it. -/
theorem eq_of_holds (hex : Exclusive ts) (ht : ts[i]? = some t) (htk : t.holds = some k)
    (hu : u ∈ ts) (huk : u.holds = some k) : u = t := by
  obtain ⟨j, hj, rfl⟩ := List.getElem_of_mem hu
  obtain rfl := hex i j t ts[j] k ht (List.getElem?_eq_getElem hj) htk huk
  exact Option.some.inj ((List.getElem?_eq_getElem hj).symm.trans ht)

/-- A request that takes a lock no request holds keeps the locks exclusive. -/
theorem set (hex : Exclusive ts)
    (hfree : ∀ k, t'.holds = some k → ∀ j u, j ≠ i → ts[j]? = some u → u.holds ≠ some k) :
    Exclusive (ts.set i t') := by
  intro j₁ j₂ u₁ u₂ k h₁ h₂ hk₁ hk₂
  rw [List.getElem?_set] at h₁ h₂
  by_cases e₁ : i = j₁ <;> by_cases e₂ : i = j₂
  · exact e₁.symm.trans e₂
  · rw [if_pos e₁] at h₁
    have : u₁ = t' := by split at h₁ <;> simp_all
    subst this
    exact absurd hk₂ (hfree k hk₁ j₂ u₂ (Ne.symm e₂) (by rwa [if_neg e₂] at h₂))
  · rw [if_pos e₂] at h₂
    have : u₂ = t' := by split at h₂ <;> simp_all
    subst this
    exact absurd hk₁ (hfree k hk₂ j₁ u₁ (Ne.symm e₁) (by rwa [if_neg e₁] at h₁))
  · rw [if_neg e₁] at h₁
    rw [if_neg e₂] at h₂
    exact hex j₁ j₂ u₁ u₂ k h₁ h₂ hk₁ hk₂

end Exclusive

namespace SecretCall

variable {s : Scope} {a a' : App} {u : SecretCall}

/-- A request holds no lock or the lock of its own key. -/
theorem holds_eq (u : SecretCall) : u.holds = none ∨ u.holds = u.key := by
  cases u <;> simp [holds, key]

/-- A promise is about the key whose lock the request holds: it carries over to any application
that lists that key and keeps its value alike. -/
theorem Promise.of_agree (hp : u.Promise s a)
    (hk : ∀ k, u.holds = some k → (a'.Lists s k ↔ a.Lists s k) ∧
      a'.secretValue s k = a.secretValue s k) : u.Promise s a' := by
  cases u with
  | record k v =>
    rw [Promise, (hk k rfl).2]
    exact hp
  | drop k =>
    rw [Promise, (hk k rfl).1]
    exact hp
  | _ => trivial

end SecretCall

namespace SecretStep

variable {s : Scope} {a a' : App} {t t' : SecretCall} {l : SecretEvent}

/-- A call is about the key of its request. -/
theorem key_eq (h : SecretStep s a t l a' t') : t.key = some l.key := by
  cases h <;> simp_all [SecretCall.key, SecretEvent.key]

/-- A request takes a lock only by its first call, the lock of its own key. -/
theorem takes_lock {k : String} (h : SecretStep s a t l a' t') (hk : t'.holds = some k) :
    t.holds = none ∧ t.key = some k := by
  cases h <;> simp_all [SecretCall.holds, SecretCall.key]

/-- A call changes the store's list and the cluster's values only at its own key. -/
theorem frame {j : String} (h : SecretStep s a t l a' t') (hj : j ≠ l.key) :
    (a'.Lists s j ↔ a.Lists s j) ∧ a'.secretValue s j = a.secretValue s j := by
  cases h <;> simp only [SecretEvent.key] at hj
  case write => simp [App.secretValue_storeSecret, hj]
  case record hsave => simp [App.lists_saveSecret hsave, hj]
  case forget hrem => simp [App.lists_removeSecret hrem, hj]
  case drop hc => simp [App.secretValue_removeSecret hc, hj]
  all_goals exact ⟨Iff.rfl, rfl⟩

/-- The request making a call keeps the promise of its state before the call. -/
theorem promise_self (h : SecretStep s a t l a' t') (hp : t.Promise s a) : t.Promise s a' := by
  cases h with
  | record | drop | dropAbsent | fail => exact hp
  | write | forget => trivial

/-- The request making a call promises what its next call relies on. -/
theorem promise_next (h : SecretStep s a t l a' t') : t'.Promise s a' := by
  cases h with
  | write => simp [SecretCall.Promise, App.secretValue_storeSecret]
  | forget hrem => simp [SecretCall.Promise, App.lists_removeSecret hrem]
  | record | drop | dropAbsent | fail => trivial

/-- A call keeps every listed key with a value, given its request's promise. -/
theorem keysHaveValues (h : SecretStep s a t l a' t') (hkv : a.KeysHaveValues s)
    (hp : t.Promise s a) : a'.KeysHaveValues s := by
  intro j hj
  cases h with
  | @write k v =>
    rw [App.secretValue_storeSecret]
    split
    · rfl
    · exact hkv j hj
  | @record _ k v hsave =>
    rcases (App.lists_saveSecret hsave).1 hj with hj | rfl
    · exact hkv j hj
    · rw [App.secretValue_db, show a.secretValue s j = some v from hp]
      rfl
  | forget hrem => exact hkv j ((App.lists_removeSecret hrem).1 hj).1
  | @drop _ k hc =>
    have hjk : j ≠ k := by
      rintro rfl
      exact hp hj
    rw [App.secretValue_removeSecret hc, if_neg hjk]
    exact hkv j hj
  | dropAbsent | fail => exact hkv j hj

/-- A call other than a set keeping a value of `k` keeps `k` unlisted and no request about to
record it. -/
theorem unlisted {k : String} (h : SecretStep s a t l a' t') (hl : ∀ v, l ≠ .wrote k v)
    (ht : ∀ v, t ≠ .record k v) (hk : ¬ a.Lists s k) : ¬ a'.Lists s k ∧ ∀ v, t' ≠ .record k v := by
  cases h with
  | @write k' v' =>
    have hk' : k' ≠ k := by
      rintro rfl
      exact hl v' rfl
    exact ⟨hk, by simp [hk']⟩
  | @record _ k' v' hsave =>
    have hk' : k ≠ k' := by
      rintro rfl
      exact ht v' rfl
    refine ⟨?_, by simp⟩
    rw [App.lists_saveSecret hsave]
    exact fun h => h.elim hk hk'
  | forget hrem => exact ⟨fun h => hk ((App.lists_removeSecret hrem).1 h).1, by simp⟩
  | drop | dropAbsent | fail => exact ⟨hk, by simp⟩

end SecretStep

namespace SecretsSound

variable {s : Scope} {a a' : App} {ts : List SecretCall} {i : Nat} {t t' : SecretCall}
  {l : SecretEvent}

/-- Requests that have made no call yet, on an application keeping a value for every listed
key. -/
theorem fresh (hkv : a.KeysHaveValues s) (hfresh : ∀ t ∈ ts, t.Fresh) : SecretsSound s a ts where
  coupled := hkv
  promises t ht := by
    have := hfresh t ht
    cases t <;> simp_all [SecretCall.Fresh, SecretCall.Promise]
  exclusive i j t u k ht hu htk huk := by
    have := hfresh t (List.mem_of_getElem? ht)
    cases t <;> simp_all [SecretCall.Fresh, SecretCall.holds]

/-- The only request holding the lock of a call's key is the one making the call. -/
theorem holder_eq (hI : SecretsSound s a ts) (ht : ts[i]? = some t) (hlock : keyLock ts i)
    (h : SecretStep s a t l a' t') {u : SecretCall} (hu : u ∈ ts) (huk : u.holds = some l.key) :
    u = t := by
  rcases t.holds_eq with hnone | hheld
  · exact absurd huk (hlock t ht hnone l.key h.key_eq u hu)
  · exact hI.exclusive.eq_of_holds ht (hheld.trans h.key_eq) hu huk

/-- One call under the lock of each key keeps the invariant. -/
theorem step (hI : SecretsSound s a ts) (ht : ts[i]? = some t) (hlock : keyLock ts i)
    (h : SecretStep s a t l a' t') : SecretsSound s a' (ts.set i t') where
  coupled := h.keysHaveValues hI.coupled (hI.promises t (List.mem_of_getElem? ht))
  promises u hu := by
    rcases List.mem_or_eq_of_mem_set hu with hu | rfl
    · -- a request whose lock is on another key is not disturbed; one on the call's key is the
      -- request making the call
      by_cases hk : u.holds = some l.key
      · obtain rfl := hI.holder_eq ht hlock h hu hk
        exact h.promise_self (hI.promises u hu)
      · exact (hI.promises u hu).of_agree fun k hk' =>
          h.frame fun hkl => hk (hkl ▸ hk')
    · exact h.promise_next
  exclusive := hI.exclusive.set fun k hk _ u _ hu => by
    obtain ⟨hnone, hkey⟩ := h.takes_lock hk
    exact hlock t ht hnone k hkey u (List.mem_of_getElem? hu)

end SecretsSound

end Shipyard.Platform

namespace Shipyard.Concurrent.Interleaving

open Shipyard.Store Shipyard.Platform

/-- Every state an interleaving under the lock of each key reaches keeps the invariant. -/
theorem secretsSound {s : Scope} {a a' : App} {ts ts' : List SecretCall}
    {log : List (Nat × SecretEvent)} (h : Interleaving (SecretStep s) keyLock a ts log a' ts')
    (h₀ : SecretsSound s a ts) : SecretsSound s a' ts' :=
  h.inv h₀ fun _ _ _ _ _ _ _ _ hI ht hlock hs => hI.step ht hlock hs

section Logs

variable {s : Scope} {adm : Admits SecretCall} {a a' : App} {ts ts' : List SecretCall}
  {log pre post : List (Nat × SecretEvent)} {i : Nat} {k v : String}

/-- Calls on other keys leave a key's listing and value as they were. -/
theorem key_untouched (h : Interleaving (SecretStep s) adm a ts log a' ts')
    (hk : ∀ e ∈ log, e.2.key ≠ k) :
    (a'.Lists s k ↔ a.Lists s k) ∧ a'.secretValue s k = a.secretValue s k := by
  refine h.inv (I := fun b _ => (b.Lists s k ↔ a.Lists s k) ∧ b.secretValue s k = a.secretValue s k)
    ⟨Iff.rfl, rfl⟩ fun _ _ _ _ l _ _ hl hb _ _ hs => ?_
  obtain ⟨hlist, hval⟩ := hs.frame (Ne.symm (hk _ hl))
  exact ⟨hlist.trans hb.1, hval.trans hb.2⟩

/-- After a set of `k` to `v` recorded its key, with no later call on `k`, the store lists `k`
and the cluster keeps `v` for it. -/
theorem value_after_set (h : Interleaving (SecretStep s) keyLock a ts log a' ts')
    (h₀ : SecretsSound s a ts) (hlog : log = pre ++ (i, .recorded k v) :: post)
    (hpost : ∀ e ∈ post, e.2.key ≠ k) : a'.Lists s k ∧ a'.secretValue s k = some v := by
  subst hlog
  obtain ⟨a₁, ts₁, h₁, h₂⟩ := h.split
  rw [← List.singleton_append] at h₂
  obtain ⟨a₂, ts₂, h₃, h₄⟩ := h₂.split
  obtain ⟨t, t', ht, -, hs, rfl⟩ := h₃.of_single
  have hI := h₁.secretsSound h₀
  -- the set held the lock of `k` since keeping `v`, so its promise stands when it records
  have hrec : a₂.Lists s k ∧ a₂.secretValue s k = some v := by
    cases hs with
    | record hsave =>
      have hp : a₁.secretValue s k = some v := hI.promises _ (List.mem_of_getElem? ht)
      exact ⟨(App.lists_saveSecret hsave).2 (Or.inr rfl), hp⟩
  obtain ⟨hlist, hval⟩ := h₄.key_untouched hpost
  exact ⟨hlist.2 hrec.1, hval.trans hrec.2⟩

/-- After a remove of `k` dropped its value, with no later set keeping a value of `k`, the store
does not list `k`. -/
theorem unlisted_after_remove
    (h : Interleaving (SecretStep s) keyLock a ts log a' ts') (h₀ : SecretsSound s a ts)
    (hlog : log = pre ++ (i, .dropped k) :: post) (hpost : ∀ e ∈ post, ∀ v, e.2 ≠ .wrote k v) :
    ¬ a'.Lists s k := by
  subst hlog
  obtain ⟨a₁, ts₁, h₁, h₂⟩ := h.split
  rw [← List.singleton_append] at h₂
  obtain ⟨a₂, ts₂, h₃, h₄⟩ := h₂.split
  obtain ⟨t, t', ht, -, hs, rfl⟩ := h₃.of_single
  have hI := h₁.secretsSound h₀
  have hmem := List.mem_of_getElem? ht
  -- the remove held the lock of `k` since forgetting it: the key is still unlisted, and no set
  -- is between its calls on `k`
  have hstart : ¬ a₂.Lists s k ∧ ∀ u ∈ ts₁.set i t', ∀ v, u ≠ .record k v := by
    have hnoset : ∀ u ∈ ts₁, ∀ v, u ≠ .record k v := by
      rintro u hu v rfl
      have := hI.exclusive.eq_of_holds ht (by cases hs <;> rfl) hu rfl
      cases hs <;> cases this
    have hgone : ¬ a₁.Lists s k := by
      have hp := hI.promises t hmem
      cases hs <;> exact hp
    refine ⟨by cases hs <;> exact hgone, fun u hu v => ?_⟩
    rcases List.mem_or_eq_of_mem_set hu with hu | rfl
    · exact hnoset u hu v
    · cases hs <;> simp
  refine (h₄.inv (I := fun b us => ¬ b.Lists s k ∧ ∀ u ∈ us, ∀ v, u ≠ .record k v) hstart
    fun _ _ _ _ _ _ _ hl hb ht _ hs => ?_).1
  obtain ⟨hk, hnext⟩ := hs.unlisted (hpost _ hl) (hb.2 _ (List.mem_of_getElem? ht)) hb.1
  refine ⟨hk, fun u hu => ?_⟩
  rcases List.mem_or_eq_of_mem_set hu with hu | rfl
  · exact hb.2 u hu
  · exact hnext

end Logs

end Shipyard.Concurrent.Interleaving

namespace Shipyard.Platform

open Shipyard.Store Shipyard.Services Shipyard.Concurrent Shipyard.Token

section Requests

variable {claims : Claims} {id : String} {a : App} {u : User} {r : Repository} {s : Scope}

/-- A request of `claims` naming repository `id` finds its caller `u`, the repository `r` and its
scope `s`, leaving the application as it was. -/
def Resolves (claims : Claims) (id : String) (a : App) (u : User) (r : Repository) (s : Scope) :
    Prop :=
  (currentUser claims).run.run a = (.ok u, a) ∧ (visibleRepo u id).run.run a = (.ok r, a) ∧
    (userScope u r).run.run a = (.ok s, a)

/-- The scope a request resolves to is the repository's. -/
theorem Resolves.repoId (h : Resolves claims id a u r s) : s.repoId = r.id :=
  resolveScope_repoId (userScope_ok h.2.2).1

/-- A request naming repository `id`. -/
def secretsRequest (id : String) : Json := .obj [("repoId", .str id)]

/-- A request naming repository `id` and `keys`. -/
def revealRequest (id : String) (keys : List String) : Json :=
  .obj [("repoId", .str id), ("keys", .arr (keys.map .str))]

/-- Revealing one key: `SECRET_DOESNT_EXIST` for a key the store does not list, else the value
the cluster keeps for it. -/
theorem revealSecretsOp_one (h : Resolves claims id a u r s) (k : String) :
    (revealSecretsOp claims (revealRequest id [k])).run.run a =
      if a.Lists s k then
        match a.secretValue s k with
        | some v => (.ok (.obj [("values", .obj [(k, .str v)])]), a)
        | none => (.error ClusterError.secretNotFound.toRpc, a)
      else
        (.error
          ((RpcError.new "SECRET_DOESNT_EXIST" "secret doesn't exist").withMeta "key" k), a) := by
  obtain ⟨hu, hr, hs⟩ := h
  have hrepo := Resolves.repoId ⟨hu, hr, hs⟩
  unfold revealSecretsOp
  have hid : field (revealRequest id [k]) "repoId" = id := by
    simp [revealRequest, field, Json.fieldStr?, Json.field?, Json.str?]
  have hkeys : ((((revealRequest id [k]).field? "keys").bind Json.arr?).getD []).map
      (fun j => (j.str?).getD "") = [k] := by
    simp [revealRequest, Json.field?, Json.arr?, Json.str?]
  simp only [AppM.run_bind, hu, hid, hr, hs, hkeys, List.forIn_cons, List.forIn_nil, stored,
    store_run, secretKeyExists_apply]
  have hval : a.secretValue s k = (a.cluster.secretValues s.clusterNamespace r.id).lookup k := by
    rw [App.secretValue, hrepo]
  by_cases hmem : a.Lists s k
  · have hc : a.db.secretKeys.contains ⟨s.workspaceId, r.id, k⟩ = true :=
      List.contains_iff_mem.2 (hrepo ▸ hmem)
    simp only [hc, Bool.not_true, Bool.false_eq_true, if_false, if_pos hmem, hval, AppM.run_bind,
      AppM.get_run, Cluster.getSecret]
    cases (a.cluster.secretValues s.clusterNamespace r.id).lookup k <;> rfl
  · have hc : a.db.secretKeys.contains ⟨s.workspaceId, r.id, k⟩ = false := by
      rw [App.Lists, hrepo] at hmem
      simpa using hmem
    simp only [hc, Bool.not_false, if_true, if_neg hmem, AppM.run_bind]
    rfl

/-- `getSecrets` answers the keys the store lists for the repository. -/
theorem getSecretsOp_keys (h : Resolves claims id a u r s) :
    ∃ keys, (getSecretsOp claims (secretsRequest id)).run.run a =
      (.ok (.obj [("keys", Json.ofStrings keys)]), a) ∧ ∀ k, k ∈ keys ↔ a.Lists s k := by
  obtain ⟨hu, hr, hs⟩ := h
  have hrepo := Resolves.repoId ⟨hu, hr, hs⟩
  unfold getSecretsOp
  have hid : field (secretsRequest id) "repoId" = id := by
    simp [secretsRequest, field, Json.fieldStr?, Json.field?, Json.str?]
  simp only [AppM.run_bind, hu, hid, hr, hs, stored, store_run, secretKeys_apply]
  refine ⟨_, rfl, fun k => ?_⟩
  rw [App.Lists, hrepo, List.mem_mergeSort]
  simp only [List.mem_map, List.mem_filter, Bool.and_eq_true, beq_iff_eq]
  constructor
  · rintro ⟨⟨w, r', k'⟩, ⟨hx, rfl, rfl⟩, rfl⟩
    exact hx
  · intro hx
    exact ⟨_, ⟨hx, rfl, rfl⟩, rfl⟩

/-- A `setSecret` request alone, its key valid and its repository resolved, makes the two calls of
`SecretStep`: it keeps the value in the cluster, then records the key, and succeeds exactly when
recording does. -/
theorem setSecretOp_calls {req : Json} {res : Except RpcError Json} {a' : App}
    (h : Resolves claims (field req "repoId") a u r s)
    (hkey : Secret.isValidKey (field req "key") = true)
    (hrun : (setSecretOp claims req).run.run a = (res, a')) :
    ∃ a₁ l ok, SecretStep s a (.set (field req "key") (field req "value"))
        (.wrote (field req "key") (field req "value")) a₁
        (.record (field req "key") (field req "value")) ∧
      SecretStep s a₁ (.record (field req "key") (field req "value")) l a' (.returned ok) ∧
      res.toBool = ok := by
  obtain ⟨hu, hr, hs⟩ := h
  have hrepo := Resolves.repoId ⟨hu, hr, hs⟩
  unfold setSecretOp at hrun
  simp only [hkey, Bool.not_true, Bool.false_eq_true, if_false, AppM.run_bind, hu, hr, hs,
    AppM.modify_run, stored, store_run, ← hrepo] at hrun
  cases hsave : saveSecret ⟨s.workspaceId, s.repoId, field req "key"⟩ a.db with
  | ok p =>
    rw [hsave] at hrun
    cases hrun
    exact ⟨_, _, _, .write, .record hsave, rfl⟩
  | error e =>
    rw [hsave] at hrun
    cases hrun
    exact ⟨_, _, _, .write, .fail rfl, rfl⟩

/-- A `removeSecret` request alone, its repository resolved, makes the two calls of `SecretStep`:
it forgets the key, then drops the value, and succeeds exactly when dropping does. -/
theorem removeSecretOp_calls {req : Json} {res : Except RpcError Json} {a' : App}
    (h : Resolves claims (field req "repoId") a u r s)
    (hrun : (removeSecretOp claims req).run.run a = (res, a')) :
    ∃ a₁ l ok, SecretStep s a (.remove (field req "key")) (.forgot (field req "key")) a₁
        (.drop (field req "key")) ∧
      SecretStep s a₁ (.drop (field req "key")) l a' (.returned ok) ∧ res.toBool = ok := by
  obtain ⟨hu, hr, hs⟩ := h
  have hrepo := Resolves.repoId ⟨hu, hr, hs⟩
  unfold removeSecretOp at hrun
  simp only [AppM.run_bind, hu, hr, hs, stored, store_run, removeSecret_apply, AppM.get_run,
    ← hrepo] at hrun
  have hforget := removeSecret_apply ⟨s.workspaceId, s.repoId, field req "key"⟩ a.db
  cases hc : a.cluster.removeSecret s.clusterNamespace s.repoId (field req "key") with
  | ok c =>
    rw [hc] at hrun
    cases hrun
    exact ⟨_, _, _, .forget hforget, .drop hc, rfl⟩
  | error e =>
    rw [hc] at hrun
    cases e with
    | secretNotFound =>
      cases hrun
      exact ⟨_, _, _, .forget hforget, .dropAbsent hc, rfl⟩
    | _ =>
      cases hrun
      exact ⟨_, _, _, .forget hforget, .fail rfl, rfl⟩

end Requests

section Main

/-- Secret requests on one repository under the lock of each key, in any interleaving and with
any call failing. Every listed key keeps a value. After a set of `k` to `v` that recorded its key,
with no later call on `k`, revealing `k` answers `v`. After a remove of `k` that dropped its value,
with no later set keeping a value of `k`, `getSecrets` omits `k` and revealing it fails with
`SECRET_DOESNT_EXIST`. -/
theorem secrets_coupled_under_key_lock {s : Scope} {a a' : App} {ts ts' : List SecretCall}
    {log : List (Nat × SecretEvent)} (h : Interleaving (SecretStep s) keyLock a ts log a' ts')
    (h₀ : a.KeysHaveValues s) (hfresh : ∀ t ∈ ts, t.Fresh) :
    a'.KeysHaveValues s ∧
      (∀ pre i k v post, log = pre ++ (i, .recorded k v) :: post → (∀ e ∈ post, e.2.key ≠ k) →
        ∀ claims id u r, Resolves claims id a' u r s →
          (revealSecretsOp claims (revealRequest id [k])).run.run a' =
            (.ok (.obj [("values", .obj [(k, .str v)])]), a')) ∧
      (∀ pre i k post, log = pre ++ (i, .dropped k) :: post →
        (∀ e ∈ post, ∀ v, e.2 ≠ .wrote k v) →
        ∀ claims id u r, Resolves claims id a' u r s →
          (∃ keys, (getSecretsOp claims (secretsRequest id)).run.run a' =
            (.ok (.obj [("keys", Json.ofStrings keys)]), a') ∧ k ∉ keys) ∧
          (revealSecretsOp claims (revealRequest id [k])).run.run a' =
            (.error ((RpcError.new "SECRET_DOESNT_EXIST" "secret doesn't exist").withMeta "key" k),
              a')) := by
  have hI := SecretsSound.fresh h₀ hfresh
  refine ⟨(h.secretsSound hI).coupled, ?_, ?_⟩
  · intro pre i k v post hlog hpost claims id u r hres
    obtain ⟨hlist, hval⟩ := h.value_after_set hI hlog hpost
    rw [revealSecretsOp_one hres, if_pos hlist, hval]
  · intro pre i k post hlog hpost claims id u r hres
    have hgone := h.unlisted_after_remove hI hlog hpost
    obtain ⟨keys, hrun, hkeys⟩ := getSecretsOp_keys hres
    refine ⟨⟨keys, hrun, fun hk => hgone ((hkeys k).1 hk)⟩, ?_⟩
    rw [revealSecretsOp_one hres, if_neg hgone]

/-- An application whose store holds one repository, `r`, and no secret. -/
def secretsApp : App :=
  { settings := {}, issuer := ⟨"", 1, Nat.one_pos, [], []⟩, now := ⟨0⟩,
    db := { repositories :=
      [{ id := "r", installationId := 1, vcsId := 7, fullName := "ada/app" }] } }

/-- The scope of repository `r` in workspace `w` of `ada`. -/
def secretsScope : Scope := ⟨"r", "w", "ada"⟩

/-- A set of `K`, then a remove of `K`, one after the other under the lock of `K`. -/
theorem locked_set_then_remove_keeps_values :
    ∃ a' ts', Interleaving (SecretStep secretsScope) keyLock secretsApp [.set "K" "v", .remove "K"]
        [(0, .wrote "K" "v"), (0, .recorded "K" "v"), (1, .forgot "K"), (1, .dropped "K")] a' ts' ∧
      a'.KeysHaveValues secretsScope := by
  have h := Interleaving.snoc (Interleaving.snoc (Interleaving.snoc (Interleaving.snoc
    (@Interleaving.nil _ _ _ (SecretStep secretsScope) keyLock secretsApp
      [.set "K" "v", .remove "K"])
    (i := 0) rfl (by simp [keyLock, SecretCall.holds, SecretCall.key]) .write)
    (i := 0) rfl (by simp [keyLock, SecretCall.holds]) (.record rfl))
    (i := 1) rfl (by simp [keyLock, SecretCall.holds, SecretCall.key]) (.forget rfl))
    (i := 1) rfl (by simp [keyLock, SecretCall.holds]) (.drop rfl)
  exact ⟨_, _, h, (secrets_coupled_under_key_lock h
    (by simp [App.KeysHaveValues, App.Lists, secretsApp]) (by simp [SecretCall.Fresh])).1⟩

/-- Without the lock, a set that kept its value, then a whole remove, then the set's record of its
key leave `K` listed with no value, although the remove dropped `K` after the set's only value was
kept. -/
theorem unlocked_set_outlives_remove :
    ∃ a' ts', Interleaving (SecretStep secretsScope) anyOrder secretsApp
        [.set "K" "v", .remove "K"]
        [(0, .wrote "K" "v"), (1, .forgot "K"), (1, .dropped "K"), (0, .recorded "K" "v")] a' ts' ∧
      a'.Lists secretsScope "K" ∧ a'.secretValue secretsScope "K" = none := by
  have h := Interleaving.snoc (Interleaving.snoc (Interleaving.snoc (Interleaving.snoc
    (@Interleaving.nil _ _ _ (SecretStep secretsScope) anyOrder secretsApp
      [.set "K" "v", .remove "K"])
    (i := 0) rfl trivial .write)
    (i := 1) rfl trivial (.forget rfl))
    (i := 1) rfl trivial (.drop rfl))
    (i := 0) rfl trivial (.record rfl)
  exact ⟨_, _, h, by decide, rfl⟩

end Main

end Shipyard.Platform
