import Shipyard.Progress.Bus
/-!
# The final message of a deployment's progress

An entry of the bus is open until its final message comes, and publishing to a finished entry
does nothing. So a deployment's progress accepts at most one final message: once `EndedWith b id
m` holds, it holds after every later publish, and the entry's last message stays `m`. Publishing
a message that is not final keeps every entry open that was open; publishing a final message to
an open entry ends it with that message.
-/
namespace Shipyard.Progress

namespace Bus

variable {b : Bus} {id id' : String} {m m' : ProgressMessage}

/-- No final message has come for the deployment. -/
def Open (b : Bus) (id : String) : Prop := ∀ e, b.entry? id = some e → e.finished = false

/-- The deployment's final message came, and it is `m`, the last message of its entry. -/
def EndedWith (b : Bus) (id : String) (m : ProgressMessage) : Prop :=
  ∃ e, b.entry? id = some e ∧ e.finished = true ∧ e.buffer.getLast? = some m

section Lookup

variable {l : List (String × Entry)} {e : Entry}

theorem lookup_cons_of_ne {k : String} {v : Entry} (h : k ≠ id') :
    ((k, v) :: l).lookup id' = l.lookup id' := by
  have hb : (id' == k) = false := by simpa using Ne.symm h
  simp only [List.lookup_cons, hb]

theorem lookup_set_self (h : l.any (·.1 == id) = true) :
    (l.map fun (k, v) => if k == id then (k, e) else (k, v)).lookup id = some e := by
  induction l with
  | nil => cases h
  | cons p l ih =>
    obtain ⟨k, v⟩ := p
    by_cases hk : k = id
    · subst hk
      simp
    · have hl : l.any (·.1 == id) = true := by simpa [hk] using h
      rw [List.map_cons]
      dsimp only
      rw [if_neg (by simpa using hk), lookup_cons_of_ne hk]
      exact ih hl

theorem lookup_set_of_ne (h : id' ≠ id) :
    (l.map fun (k, v) => if k == id then (k, e) else (k, v)).lookup id' = l.lookup id' := by
  induction l with
  | nil => rfl
  | cons p l ih =>
    obtain ⟨k, v⟩ := p
    by_cases hk : k = id
    · subst hk
      rw [List.map_cons]
      dsimp only
      rw [if_pos (by simp), lookup_cons_of_ne (Ne.symm h), lookup_cons_of_ne (Ne.symm h), ih]
    · rw [List.map_cons]
      dsimp only
      rw [if_neg (by simpa using hk)]
      by_cases hk' : k = id'
      · subst hk'
        rw [List.lookup_cons_self, List.lookup_cons_self]
      · rw [lookup_cons_of_ne hk', lookup_cons_of_ne hk', ih]

theorem lookup_append_fresh (h : l.any (·.1 == id) = false) :
    (l ++ [(id, e)]).lookup id' = if id' = id then some e else l.lookup id' := by
  induction l with
  | nil =>
    by_cases hid : id' = id
    · subst hid
      simp
    · rw [List.nil_append, lookup_cons_of_ne (Ne.symm hid), if_neg hid]
  | cons p l ih =>
    obtain ⟨k, v⟩ := p
    have hk : k ≠ id := by simpa using (List.any_eq_false.1 h (k, v) List.mem_cons_self)
    have hl : l.any (·.1 == id) = false := by simpa [hk] using h
    by_cases hk' : k = id'
    · subst hk'
      rw [List.cons_append, List.lookup_cons_self, List.lookup_cons_self, if_neg hk]
    · rw [List.cons_append, lookup_cons_of_ne hk', lookup_cons_of_ne hk', ih hl]

end Lookup

@[simp] theorem entry?_setEntry_self (e : Entry) : entry? (b.setEntry id e) id = some e := by
  unfold setEntry entry?
  split <;> rename_i hany
  · exact lookup_set_self hany
  · rw [lookup_append_fresh (Bool.eq_false_iff.2 hany), if_pos rfl]

theorem entry?_setEntry_of_ne (e : Entry) (h : id' ≠ id) :
    entry? (b.setEntry id e) id' = b.entry? id' := by
  unfold setEntry entry?
  split <;> rename_i hany
  · exact lookup_set_of_ne h
  · rw [lookup_append_fresh (Bool.eq_false_iff.2 hany), if_neg h]

@[simp] theorem entry?_setChannel (n : Nat) (c : Channel) :
    entry? (b.setChannel n c) id = b.entry? id := rfl

/-- The entry a publish finds: the deployment's own, or a new empty one. -/
theorem openEntry_entry? : entry? (b.openEntry id).1 id = some (b.openEntry id).2 := by
  unfold openEntry
  split
  · assumption
  · exact entry?_setEntry_self _

theorem openEntry_entry?_of_ne (h : id' ≠ id) : entry? (b.openEntry id).1 id' = b.entry? id' := by
  unfold openEntry
  split
  · rfl
  · rw [entry?_setEntry_of_ne _ h]
    rfl

/-- A new entry has not ended. -/
theorem Open.openEntry_finished (h : b.Open id) : (b.openEntry id).2.finished = false := by
  unfold openEntry
  split
  · exact h _ ‹_›
  · rfl

/-- Publishing opens the deployment's entry and pushes the message, unless the entry ended. -/
theorem publish_eq : b.publish id m =
    if (b.openEntry id).2.finished then (b.openEntry id).1
    else (b.openEntry id).1.push id (b.openEntry id).2 { m with deploymentId := id } := by
  unfold publish
  rcases b.openEntry id with ⟨b', e⟩
  rfl

theorem entry?_push_of_ne {e : Entry} (h : id' ≠ id) : entry? (b.push id e m) id' = b.entry? id' := by
  unfold push
  rw [entry?_setChannel, entry?_setEntry_of_ne _ h]

/-- Publishing leaves the entries of other deployments as they were. -/
theorem entry?_publish_of_ne (h : id' ≠ id) : entry? (b.publish id m) id' = b.entry? id' := by
  rw [publish_eq]
  split
  · exact openEntry_entry?_of_ne h
  · rw [entry?_push_of_ne h, openEntry_entry?_of_ne h]

/-- What publishing to an open entry leaves: the message last, and the entry ended exactly when
the message is final. -/
theorem Open.entry?_publish (h : b.Open id) : ∃ e, entry? (b.publish id m) id = some e ∧
    e.finished = m.isFinal ∧ e.buffer.getLast? = some { m with deploymentId := id } := by
  rw [publish_eq, if_neg (by simpa using h.openEntry_finished)]
  unfold push
  exact ⟨_, by rw [entry?_setChannel, entry?_setEntry_self], rfl, by simp⟩

/-- A message that is not final keeps every open entry open. -/
theorem Open.publish (h : b.Open id') (hm : m.isFinal = false) : (b.publish id m).Open id' := by
  intro e he
  by_cases hid : id' = id
  · subst hid
    obtain ⟨e', he', hfin, -⟩ := h.entry?_publish (m := m)
    rw [he'] at he
    cases he
    exact hfin.trans hm
  · rw [entry?_publish_of_ne hid] at he
    exact h e he

/-- A final message ends an open entry with itself. -/
theorem Open.publish_final (h : b.Open id) (hm : m.isFinal = true) :
    (b.publish id m).EndedWith id { m with deploymentId := id } := by
  obtain ⟨e, he, hfin, hlast⟩ := h.entry?_publish (m := m)
  exact ⟨e, he, hfin.trans hm, hlast⟩

/-- An ended entry stays ended with the same final message, whatever is published after. -/
theorem EndedWith.publish (h : b.EndedWith id m) (id'' : String) (m'' : ProgressMessage) :
    (b.publish id'' m'').EndedWith id m := by
  obtain ⟨e, he, hfin, hlast⟩ := h
  by_cases hid : id = id''
  · subst hid
    have hb : b.openEntry id = (b, e) := by
      unfold openEntry
      rw [show b.entry? id = some e from he]
    refine ⟨e, ?_, hfin, hlast⟩
    rw [publish_eq, hb, if_pos hfin]
    exact he
  · exact ⟨e, by rw [entry?_publish_of_ne hid, he], hfin, hlast⟩

end Bus

end Shipyard.Progress
