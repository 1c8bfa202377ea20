import Mathlib
import Shipyard.Proofs.Progress.Entry
import Shipyard.Proofs.Concurrent.Interleaving
/-!
# Subscriptions over a run of the bus

A run of the bus is any sequence of publishes, subscribes, closes, cancels, let-gos and polls,
in any order (`BusCall`, `BusRun.step`). Beside the bus, a run keeps what an observer sees: every
message an entry accepted, with the channel of that entry, and for each subscriber the replay it
was given, how many messages its entry had accepted when it subscribed, and every answer of its
polls. A closed entry leaves the registry; publishing again opens a new entry on a new channel,
so a subscriber's channel names the entry it follows.

`BusRun.Sound` is what holds along every run: entries own distinct channels; an entry's buffer is
the last `replaySize` messages it accepted, and it is finished exactly when the last of them is
final; and each subscriber is `Subscriber.Sound`. That one says that what the subscriber was
given, followed by what its replay and its channel still hold for it, lies in order in its
entry's messages, and is all of them from its replay on when it never fell behind. A channel
holds only its last `channelCapacity` messages, so a reader that falls behind is told it missed
some and moves on; `Channel.Aligned` keeps the messages a reader has left to read equal to the
last messages of its entry.

Each call keeps a run sound (`BusRun.Sound.step`), so every run is (`BusRun.sound_run`), and
`BusRun.subscriptions_yield_accepted` reads off it what every subscriber is given.
-/
namespace Shipyard.Progress

open scoped List

/-! ## Runs of the bus -/

/-- The message a poll gave, when it gave one of the deployment's messages. -/
def Poll.message? : Poll → Option ProgressMessage
  | .message m => some m
  | _ => none

/-- The poll answered that messages were missed. -/
def Poll.isDropped : Poll → Bool
  | .dropped _ => true
  | _ => false

/-- A subscriber in a run of the bus: its subscription, whether it was let go, and what the run
knows of it: the channel of the entry it subscribed to, the replay it got, how many messages that
entry had accepted by then, and every answer its polls gave. -/
structure Subscriber where
  sub : Subscription
  released : Bool := false
  channel : Nat
  start : List ProgressMessage
  seen : Nat
  answers : List Poll := []

namespace Subscriber

/-- The messages the subscriber was given, without the markers of messages it missed. -/
def yielded (x : Subscriber) : List ProgressMessage := x.answers.filterMap Poll.message?

/-- The subscriber fell behind its channel at least once. -/
def Lagged (x : Subscriber) : Prop := ∃ d, Poll.dropped d ∈ x.answers

theorem lagged_iff {x : Subscriber} : x.Lagged ↔ x.answers.any Poll.isDropped = true := by
  simp only [Lagged, List.any_eq_true]
  constructor
  · rintro ⟨d, hd⟩
    exact ⟨_, hd, rfl⟩
  · rintro ⟨p, hp, hd⟩
    cases p with
    | dropped d => exact ⟨d, hp⟩
    | _ => cases hd

instance : DecidablePred Lagged := fun _ => decidable_of_iff _ lagged_iff.symm

/-- The subscriber is held and follows channel `n`: it counts among the channel's receivers. -/
def follows (n : Nat) (x : Subscriber) : Bool := !x.released && x.sub.live.map (·.1) == some n

/-- The subscriber after one poll of its subscription, with the answer kept. -/
def polled (x : Subscriber) (b : Bus) (now : Instant) : Subscriber :=
  { x with sub := (x.sub.poll b now).1, answers := x.answers ++ [(x.sub.poll b now).2] }

end Subscriber

/-- A run of the bus: the bus, its subscribers by number, and every message an entry accepted,
with the channel of that entry, in order. -/
structure BusRun where
  bus : Bus := {}
  subscribers : List Subscriber := []
  accepted : List (Nat × ProgressMessage) := []

/-- A call on the bus, as any number of producers and subscribers make them. -/
inductive BusCall where
  | publish (id : String) (m : ProgressMessage)
  | subscribe (id : String)
  | subscribeExisting (id : String)
  | close (id : String) (now : Instant)
  | cancel (k : Nat)
  | release (k : Nat)
  | recv (k : Nat) (now : Instant)

/-- The final message `close` writes when the final message has not come. -/
def closedMessage (id : String) (now : Instant) : ProgressMessage :=
  (ProgressMessage.info id "closed" now).finished

namespace BusRun

/-- The messages the entry on channel `n` accepted, in order. -/
def acceptedOn (r : BusRun) (n : Nat) : List ProgressMessage :=
  (r.accepted.filter (·.1 == n)).map (·.2)

/-- The subscriber a subscription to the entry on channel `n` makes. -/
def joined (r : BusRun) (n : Nat) (s : Subscription) : Subscriber :=
  { sub := s, channel := n, start := s.replay, seen := (r.acceptedOn n).length }

/-- Adds the subscription a subscribe gave, to the entry on channel `n`. -/
def enrol (r : BusRun) (n : Nat) (bs : Bus × Subscription) : BusRun :=
  { r with bus := bs.1, subscribers := r.subscribers ++ [r.joined n bs.2] }

/-- Changes subscriber `k` when it is held. -/
def withHeld (r : BusRun) (k : Nat) (f : Subscriber → BusRun) : BusRun :=
  match r.subscribers[k]? with
  | some x => if x.released then r else f x
  | none => r

/-- One call. A subscriber that was let go is not polled or let go again. -/
def step (r : BusRun) : BusCall → BusRun
  | .publish id m =>
    let e := (r.bus.openEntry id).2
    { r with
      bus := r.bus.publish id m
      accepted := if e.finished then r.accepted
        else r.accepted ++ [(e.channel, { m with deploymentId := id })] }
  | .subscribe id => r.enrol (r.bus.openEntry id).2.channel (r.bus.subscribe id)
  | .subscribeExisting id =>
    match r.bus.entry? id, r.bus.subscribeExisting id with
    | some e, (b, some s) => r.enrol e.channel (b, s)
    | _, (b, _) => { r with bus := b }
  | .close id now =>
    { r with
      bus := r.bus.close id now
      accepted := match r.bus.entry? id with
        | some e => if e.finished then r.accepted else r.accepted ++ [(e.channel, closedMessage id now)]
        | none => r.accepted }
  | .cancel k =>
    match r.subscribers[k]? with
    | some x => { r with subscribers := r.subscribers.set k { x with sub.cancelled := true } }
    | none => r
  | .release k => r.withHeld k fun x =>
    { r with bus := r.bus.release x.sub, subscribers := r.subscribers.set k { x with released := true } }
  | .recv k now => r.withHeld k fun x =>
    { r with subscribers := r.subscribers.set k (x.polled r.bus now) }

end BusRun

/-! ## The last messages of a list -/

section Lists

variable {α : Type} {l : List α} {j k : Nat}

theorem length_rtake (l : List α) (k : Nat) : (l.rtake k).length = min k l.length := by
  simp only [List.rtake, List.length_drop]
  omega

theorem rtake_rtake (h : j ≤ k) : (l.rtake k).rtake j = l.rtake j := by
  simp only [List.rtake, List.drop_drop, List.length_drop]
  congr 1
  omega

theorem rtake_of_length_le (h : l.length ≤ k) : l.rtake k = l := by
  simp [List.rtake, Nat.sub_eq_zero_of_le h]

theorem rtake_succ (h : k < l.length) :
    l.rtake (k + 1) = l[l.length - (k + 1)] :: l.rtake k := by
  rw [List.rtake, List.rtake, List.drop_eq_getElem_cons (by omega)]
  congr 2
  omega

end Lists

/-! ## Final messages -/

/-- A final message, if there is one, is the last. -/
def FinalLast (l : List ProgressMessage) : Prop :=
  ∀ pre m post, l = pre ++ m :: post → m.isFinal = true → post = []

theorem FinalLast.nil : FinalLast [] := by
  intro pre m post h
  simp at h

/-- A message added after a last message that is not final keeps the final message last. -/
theorem FinalLast.snoc {l : List ProgressMessage} (h : FinalLast l)
    (hl : ∀ m, l.getLast? = some m → m.isFinal = false) (m' : ProgressMessage) :
    FinalLast (l ++ [m']) := by
  intro pre m post hsplit hm
  rcases Concurrent.append_cons_eq_append_singleton hsplit.symm with ⟨-, -, rfl⟩ | ⟨post₀, hl', rfl⟩
  · rfl
  · exfalso
    have hpost := h pre m post₀ hl' hm
    subst hpost
    have hlast := hl m (by rw [hl']; simp)
    rw [hm] at hlast
    cases hlast

/-- In a list whose final message is last, a final message is the last. -/
theorem FinalLast.getLast? {l : List ProgressMessage} (h : FinalLast l) {m : ProgressMessage}
    (hm : m ∈ l) (hf : m.isFinal = true) : l.getLast? = some m := by
  obtain ⟨pre, post, rfl⟩ := List.append_of_mem hm
  rw [h pre m post rfl hf]
  simp

/-- Nothing comes after a final message in a sublist of a list whose final message is last. -/
theorem FinalLast.of_sublist {l : List ProgressMessage} (h : FinalLast l)
    {pre post : List ProgressMessage} {m : ProgressMessage} (hs : pre ++ m :: post <+ l)
    (hf : m.isFinal = true) : post = [] := by
  obtain ⟨l₁, l₂, rfl, -, hs₂⟩ := List.append_sublist_iff.mp hs
  obtain ⟨r₁, r₂, rfl, hm, hpost⟩ := List.cons_sublist_iff.mp hs₂
  obtain ⟨c₁, c₂, rfl⟩ := List.append_of_mem hm
  have := h (l₁ ++ c₁) m (c₂ ++ r₂) (by simp) hf
  rw [List.append_eq_nil_iff] at this
  rw [this.2] at hpost
  exact List.eq_nil_of_sublist_nil hpost

/-! ## Channels and entries -/

namespace Bus

variable {b : Bus} {id : String} {e : Entry} {n n' : Nat}

/-- No entry of the bus can accept a message on channel `n` any more. -/
def Sealed (b : Bus) (n : Nat) : Prop :=
  ∀ id e, b.entry? id = some e → e.channel = n → e.finished = true

@[simp] theorem channels_setChannel (c : Channel) :
    (b.setChannel n c).channels.length = b.channels.length := List.length_set

theorem channel_setChannel_self (h : n < b.channels.length) (c : Channel) :
    (b.setChannel n c).channel n = c := by
  simp [channel, setChannel, h]

theorem channel_setChannel_of_ne (h : n' ≠ n) (c : Channel) :
    (b.setChannel n c).channel n' = b.channel n' := by
  simp [channel, setChannel, List.getElem?_set_ne (Ne.symm h)]

theorem channel_of_length_le (h : b.channels.length ≤ n) : b.channel n = {} := by
  simp [channel, h]

@[simp] theorem channels_setEntry (e : Entry) : (b.setEntry id e).channels = b.channels := by
  unfold setEntry
  split <;> rfl

theorem openEntry_of_some (h : b.entry? id = some e) : b.openEntry id = (b, e) := by
  unfold openEntry
  rw [h]

theorem openEntry_of_none (h : b.entry? id = none) :
    b.openEntry id = (Bus.setEntry { b with channels := b.channels ++ [{}] } id
      { channel := b.channels.length }, { channel := b.channels.length }) := by
  unfold openEntry
  rw [h]

end Bus

/-- The messages held by a channel that a reader at `next` has not read are the last messages of
`acc`. -/
def Channel.Aligned (c : Channel) (next : Nat) (acc : List ProgressMessage) : Prop :=
  c.held.rtake (min c.held.length (c.written - next)) = acc.rtake (min c.held.length (c.written - next))

/-- Every answer after a final message is `ended`, and the subscription is done. -/
def FinalAnswers (answers : List Poll) (done : Bool) : Prop :=
  ∀ pre m post, answers = pre ++ .message m :: post → m.isFinal = true →
    done = true ∧ ∀ p ∈ post, p = .ended

namespace Subscriber

/-- What the subscriber would still be given were it not to fall behind: the rest of its replay,
then the last messages of its entry that its channel wrote after its position. -/
def rest (x : Subscriber) (b : Bus) (acc : List ProgressMessage) : List ProgressMessage :=
  x.sub.replay ++ match x.sub.live with
    | some (_, next) => acc.rtake ((b.channel x.channel).written - next)
    | none => []

/-- What holds of a subscriber while it is held, against the messages `acc` of its entry. -/
structure Reading (x : Subscriber) (b : Bus) (acc : List ProgressMessage) : Prop where
  rest_sublist : x.yielded ++ x.rest b acc <+ x.start ++ acc.drop x.seen
  rest_eq : ¬ x.Lagged → x.yielded ++ x.rest b acc = x.start ++ acc.drop x.seen
  ended : x.sub.done = true → x.sub.cancelled = false → b.Sealed x.channel ∧ x.rest b acc = []
  replayed : x.sub.live = none → b.Sealed x.channel ∧ acc.drop x.seen = []
  live : ∀ n next, x.sub.live = some (n, next) →
    n = x.channel ∧ next ≤ (b.channel x.channel).written ∧ (b.channel x.channel).Aligned next acc

/-- What holds of every subscriber, against the messages `acc` of its entry. -/
structure Sound (x : Subscriber) (b : Bus) (acc : List ProgressMessage) : Prop where
  channel_lt : x.channel < b.channels.length
  seen_le : x.seen ≤ acc.length
  start_eq : x.start = (acc.take x.seen).rtake replaySize
  yielded_sublist : x.yielded <+ x.start ++ acc.drop x.seen
  yielded_prefix : ¬ x.Lagged → x.yielded <+: x.start ++ acc.drop x.seen
  final : FinalAnswers x.answers x.sub.done
  reading : x.released = false → x.Reading b acc

end Subscriber

namespace BusRun

/-- What holds along every run of the bus. -/
structure Sound (r : BusRun) : Prop where
  entry_lt : ∀ id e, r.bus.entry? id = some e → e.channel < r.bus.channels.length
  entry_inj : ∀ id id' e e', r.bus.entry? id = some e → r.bus.entry? id' = some e' →
    e.channel = e'.channel → id = id'
  accepted_lt : ∀ a ∈ r.accepted, a.1 < r.bus.channels.length
  buffer : ∀ id e, r.bus.entry? id = some e → e.buffer = (r.acceptedOn e.channel).rtake replaySize
  finished : ∀ id e, r.bus.entry? id = some e →
    e.finished = (r.acceptedOn e.channel).getLast?.any (·.isFinal)
  finalLast : ∀ n, FinalLast (r.acceptedOn n)
  held_le : ∀ n, (r.bus.channel n).held.length ≤ (r.bus.channel n).written
  closed : ∀ n, (r.bus.channel n).closed = true → r.bus.Sealed n
  receivers : ∀ n, r.subscribers.countP (Subscriber.follows n) ≤ (r.bus.channel n).receivers
  subscribers : ∀ x ∈ r.subscribers, x.Sound r.bus (r.acceptedOn x.channel)

end BusRun

/-! ## A subscriber's answers -/

namespace FinalAnswers

variable {a : List Poll}

theorem nil (d : Bool) : FinalAnswers [] d := by
  intro pre m post h
  simp at h

/-- A done subscription answers `ended`. -/
theorem snoc_ended (h : FinalAnswers a true) : FinalAnswers (a ++ [.ended]) true := by
  intro pre m post hsplit hm
  rcases Concurrent.append_cons_eq_append_singleton hsplit.symm with ⟨-, hp, -⟩ | ⟨post₀, ha, rfl⟩
  · cases hp
  · refine ⟨rfl, fun p hp => ?_⟩
    rcases List.mem_append.mp hp with hp | hp
    · exact (h pre m post₀ ha hm).2 p hp
    · exact List.mem_singleton.mp hp

/-- Before it is done, a subscription has given no final message; an answer that is a final
message makes it done. -/
theorem snoc_open (h : FinalAnswers a false) {p : Poll} {d : Bool}
    (hp : ∀ m, p = .message m → m.isFinal = true → d = true) : FinalAnswers (a ++ [p]) d := by
  intro pre m post hsplit hm
  rcases Concurrent.append_cons_eq_append_singleton hsplit.symm with ⟨-, rfl, rfl⟩ | ⟨post₀, ha, rfl⟩
  · exact ⟨hp m rfl hm, by simp⟩
  · cases (h pre m post₀ ha hm).1

end FinalAnswers

@[simp] theorem filterMap_message?_append_message (a : List Poll) (m : ProgressMessage) :
    (a ++ [Poll.message m]).filterMap Poll.message? = a.filterMap Poll.message? ++ [m] := by
  simp [Poll.message?]

theorem filterMap_message?_append_of_ne {a : List Poll} {p : Poll} (hp : ∀ m, p ≠ .message m) :
    (a ++ [p]).filterMap Poll.message? = a.filterMap Poll.message? := by
  cases p with
  | message m => exact absurd rfl (hp m)
  | _ => simp [Poll.message?]

/-! ## One poll -/

namespace Subscription

variable {s : Subscription} {b : Bus} {now : Instant}

theorem poll_of_done (h : s.done = true) : s.poll b now = (s, .ended) := by
  simp [poll, h]

theorem poll_replay {m : ProgressMessage} {rest : List ProgressMessage} (h : s.done = false)
    (hr : s.replay = m :: rest) :
    s.poll b now = ({ s with replay := rest, done := m.isFinal }, .message m) := by
  simp [poll, h, hr]

theorem poll_unfollowed (h : s.done = false) (hr : s.replay = []) (hl : s.live = none) :
    s.poll b now = ({ s with done := true }, .ended) := by
  simp [poll, h, hr, hl]

theorem poll_cancelled {n next : Nat} (h : s.done = false) (hr : s.replay = [])
    (hl : s.live = some (n, next)) (hc : s.cancelled = true) :
    s.poll b now = ({ s with done := true }, .ended) := by
  simp [poll, h, hr, hl, hc]

theorem poll_dropped {n next : Nat} (h : s.done = false) (hr : s.replay = [])
    (hl : s.live = some (n, next)) (hc : s.cancelled = false) (hn : next < (b.channel n).oldest) :
    s.poll b now = ({ s with live := some (n, (b.channel n).oldest) },
      .dropped { deploymentId := s.deploymentId, payload := droppedPayload, level := .warn,
                 time := now }) := by
  simp [poll, h, hr, hl, hc, hn]

theorem poll_live {n next : Nat} {m : ProgressMessage} (h : s.done = false) (hr : s.replay = [])
    (hl : s.live = some (n, next)) (hc : s.cancelled = false) (hn : ¬ next < (b.channel n).oldest)
    (hm : (b.channel n).held[next - (b.channel n).oldest]? = some m) :
    s.poll b now = ({ s with live := some (n, next + 1), done := m.isFinal }, .message m) := by
  simp [poll, h, hr, hl, hc, hn, hm]

theorem poll_closed {n next : Nat} (h : s.done = false) (hr : s.replay = [])
    (hl : s.live = some (n, next)) (hc : s.cancelled = false) (hn : ¬ next < (b.channel n).oldest)
    (hm : (b.channel n).held[next - (b.channel n).oldest]? = none)
    (hcl : (b.channel n).closed = true) :
    s.poll b now = ({ s with done := true }, .ended) := by
  simp [poll, h, hr, hl, hc, hn, hm, hcl]

theorem poll_pending {n next : Nat} (h : s.done = false) (hr : s.replay = [])
    (hl : s.live = some (n, next)) (hc : s.cancelled = false) (hn : ¬ next < (b.channel n).oldest)
    (hm : (b.channel n).held[next - (b.channel n).oldest]? = none)
    (hcl : (b.channel n).closed = false) :
    s.poll b now = (s, .pending) := by
  simp [poll, h, hr, hl, hc, hn, hm, hcl]

end Subscription

namespace Channel

variable {c : Channel} {next : Nat} {acc : List ProgressMessage}

/-- A reader at the held message `m` reads the first of the last messages it has still to read. -/
theorem Aligned.read (h : c.Aligned next acc) (hle : c.held.length ≤ c.written)
    (hn : ¬ next < c.oldest) {m : ProgressMessage} (hm : c.held[next - c.oldest]? = some m) :
    acc.rtake (c.written - next) = m :: acc.rtake (c.written - (next + 1)) ∧
      c.Aligned (next + 1) acc := by
  unfold oldest at hn hm
  obtain ⟨hi, rfl⟩ := List.getElem?_eq_some_iff.mp hm
  have hk : c.written - next = (c.written - (next + 1)) + 1 := by omega
  have hmin : min c.held.length (c.written - next) = (c.written - (next + 1)) + 1 := by omega
  unfold Aligned at h ⊢
  rw [hmin] at h
  have hmin' : min c.held.length (c.written - (next + 1)) = c.written - (next + 1) := by omega
  rw [hmin']
  -- the held messages from `next` on start with the one read
  have hheld : c.held.rtake ((c.written - (next + 1)) + 1) =
      c.held[next - (c.written - c.held.length)] :: c.held.rtake (c.written - (next + 1)) := by
    rw [rtake_succ (by omega)]
    congr 2
    omega
  have hacc : acc.rtake (c.written - (next + 1)) = c.held.rtake (c.written - (next + 1)) := by
    rw [← rtake_rtake (Nat.le_succ _), ← h, rtake_rtake (Nat.le_succ _)]
  refine ⟨?_, hacc.symm⟩
  rw [hk, ← h, hheld, hacc]

/-- A reader that fell behind moves to the oldest held message and stays aligned. -/
theorem Aligned.skip (h : c.Aligned next acc) (hle : c.held.length ≤ c.written)
    (hn : next < c.oldest) : c.Aligned c.oldest acc := by
  unfold oldest at hn ⊢
  unfold Aligned at h ⊢
  have h₁ : min c.held.length (c.written - next) = c.held.length := by omega
  have h₂ : min c.held.length (c.written - (c.written - c.held.length)) = c.held.length := by omega
  rw [h₁] at h
  rw [h₂, h]

end Channel

/-- A reader whose held message at its position is missing has read all that was written. -/
theorem Channel.caught_up {c : Channel} {next : Nat} (hle : c.held.length ≤ c.written)
    (hn : ¬ next < c.oldest) (hm : c.held[next - c.oldest]? = none) : c.written - next = 0 := by
  unfold Channel.oldest at hn hm
  rw [List.getElem?_eq_none_iff] at hm
  omega

/-- A reader at a held message is behind what was written. -/
theorem Channel.lt_written {c : Channel} {next : Nat} (hle : c.held.length ≤ c.written)
    (hn : ¬ next < c.oldest)
    {m : ProgressMessage} (hm : c.held[next - c.oldest]? = some m) : next < c.written := by
  unfold Channel.oldest at hn hm
  have := (List.getElem?_eq_some_iff.mp hm).1
  omega

namespace Subscriber

variable {x : Subscriber} {b : Bus} {acc : List ProgressMessage} {now : Instant}

/-- `x` with its subscription moved to `s` and one more answer `p`. -/
abbrev answer (x : Subscriber) (s : Subscription) (p : Poll) : Subscriber :=
  { x with sub := s, answers := x.answers ++ [p] }

theorem polled_eq : x.polled b now = x.answer (x.sub.poll b now).1 (x.sub.poll b now).2 := rfl

theorem lagged_answer {s : Subscription} {p : Poll} :
    (x.answer s p).Lagged ↔ x.Lagged ∨ ∃ d, p = .dropped d := by
  simp only [Lagged, List.mem_append, List.mem_singleton]
  constructor
  · rintro ⟨d, hd | rfl⟩
    · exact .inl ⟨d, hd⟩
    · exact .inr ⟨d, rfl⟩
  · rintro (⟨d, hd⟩ | ⟨d, rfl⟩)
    · exact ⟨d, .inl hd⟩
    · exact ⟨d, .inr rfl⟩

/-- The messages of its entry a subscriber was given and would still be given, replay first, lie
in the entry's messages. -/
theorem full_sublist (h : x.start <:+ acc.take x.seen) : x.start ++ acc.drop x.seen <+ acc := by
  have := h.sublist.append (List.Sublist.refl (acc.drop x.seen))
  rwa [List.take_append_drop] at this

/-- An answer that is neither a message nor a marker changes nothing a reader has read. -/
theorem Reading.answer_quiet (h : x.Reading b acc) {p : Poll} (hm : ∀ m, p ≠ .message m)
    (hd : ∀ d, p ≠ .dropped d) : (x.answer x.sub p).Reading b acc := by
  have hy : (x.answer x.sub p).yielded = x.yielded := filterMap_message?_append_of_ne hm
  have hl : ¬ (x.answer x.sub p).Lagged ↔ ¬ x.Lagged := by
    rw [lagged_answer]
    simp [hd]
  exact ⟨by rw [hy]; exact h.rest_sublist, fun hn => by rw [hy]; exact h.rest_eq (hl.mp hn),
    h.ended, h.replayed, h.live⟩

/-- A subscription that ends: nothing more to give unless it was cancelled. -/
theorem Reading.answer_done (h : x.Reading b acc)
    (hend : x.sub.cancelled = false → b.Sealed x.channel ∧ x.rest b acc = []) :
    (x.answer { x.sub with done := true } .ended).Reading b acc := by
  have hy : (x.answer { x.sub with done := true } .ended).yielded = x.yielded :=
    filterMap_message?_append_of_ne (by simp)
  have hl : ¬ (x.answer { x.sub with done := true } .ended).Lagged ↔ ¬ x.Lagged := by
    rw [lagged_answer]
    simp
  exact ⟨by rw [hy]; exact h.rest_sublist, fun hn => by rw [hy]; exact h.rest_eq (hl.mp hn),
    fun _ hc => hend hc, h.replayed, h.live⟩

/-- A subscriber that fell behind skips to the oldest held message. -/
theorem Reading.answer_dropped (h : x.Reading b acc)
    (hle : (b.channel x.channel).held.length ≤ (b.channel x.channel).written)
    (hd : x.sub.done = false) (hr : x.sub.replay = []) {n next : Nat}
    (hl : x.sub.live = some (n, next)) (hn : next < (b.channel n).oldest) (d : ProgressMessage) :
    (x.answer { x.sub with live := some (n, (b.channel n).oldest) } (.dropped d)).Reading b acc := by
  obtain ⟨rfl, -, hal⟩ := h.live n next hl
  have hy : (x.answer { x.sub with live := some (x.channel, (b.channel x.channel).oldest) }
      (.dropped d)).yielded = x.yielded := filterMap_message?_append_of_ne (by simp)
  -- what is left to read after the skip is the end of what was left before it
  have hrest : (x.answer { x.sub with live := some (x.channel, (b.channel x.channel).oldest) }
      (.dropped d)).rest b acc <:+ x.rest b acc := by
    simp only [rest, hr, hl, List.nil_append]
    rw [← rtake_rtake (show (b.channel x.channel).written - (b.channel x.channel).oldest ≤
      (b.channel x.channel).written - next by omega)]
    exact List.drop_suffix _ _
  refine ⟨?_, fun hn' => absurd (lagged_answer.mpr (.inr ⟨d, rfl⟩)) hn', ?_, ?_, ?_⟩
  · rw [hy]
    exact (List.Sublist.append (List.Sublist.refl _) hrest.sublist).trans h.rest_sublist
  · intro hd'
    rw [hd] at hd'
    cases hd'
  · intro hl'
    cases hl'
  · intro n' next' hl'
    cases hl'
    refine ⟨rfl, ?_, hal.skip hle hn⟩
    show (b.channel x.channel).oldest ≤ (b.channel x.channel).written
    unfold Channel.oldest
    omega

/-- A message given: the first of what was left. -/
theorem Reading.answer_message (h : x.Reading b acc) (hstart : x.start <:+ acc.take x.seen)
    (hfin : FinalLast acc) (hsealed : ∀ m ∈ acc, m.isFinal = true → b.Sealed x.channel)
    {s : Subscription} {m : ProgressMessage}
    (hrest : x.rest b acc = m :: (x.answer s (.message m)).rest b acc)
    (hdone : s.done = m.isFinal) (hreplayed : s.live = none → x.sub.live = none)
    (hlive : ∀ n next, s.live = some (n, next) → n = x.channel ∧
      next ≤ (b.channel x.channel).written ∧ (b.channel x.channel).Aligned next acc) :
    (x.answer s (.message m)).Reading b acc := by
  have hy : (x.answer s (.message m)).yielded = x.yielded ++ [m] :=
    filterMap_message?_append_message _ _
  have hl : ¬ (x.answer s (.message m)).Lagged ↔ ¬ x.Lagged := by
    rw [lagged_answer]
    simp
  have hsplit : (x.answer s (.message m)).yielded ++ (x.answer s (.message m)).rest b acc =
      x.yielded ++ x.rest b acc := by
    rw [hy, hrest, List.append_assoc, List.singleton_append]
  refine ⟨by rw [hsplit]; exact h.rest_sublist, fun hn => by rw [hsplit]; exact h.rest_eq (hl.mp hn),
    ?_, fun hl' => h.replayed (hreplayed hl'), hlive⟩
  -- a final message given leaves nothing to give, and its entry accepts nothing more
  intro hd _
  have hm : m.isFinal = true := hdone ▸ hd
  have hsub : x.yielded ++ m :: (x.answer s (.message m)).rest b acc <+ acc := by
    rw [← hrest]
    exact h.rest_sublist.trans (full_sublist hstart)
  exact ⟨hsealed m (hsub.subset (by simp)) hm, hfin.of_sublist hsub hm⟩

end Subscriber

namespace Subscriber

variable {x : Subscriber} {b : Bus} {acc : List ProgressMessage} {now : Instant}

theorem Sound.start_suffix (hx : x.Sound b acc) : x.start <:+ acc.take x.seen := by
  rw [hx.start_eq]
  exact List.drop_suffix _ _

theorem Sound.answer (hx : x.Sound b acc) {s : Subscription} {p : Poll}
    (hr : (x.answer s p).Reading b acc) (hf : FinalAnswers (x.answers ++ [p]) s.done) :
    (x.answer s p).Sound b acc where
  channel_lt := hx.channel_lt
  seen_le := hx.seen_le
  start_eq := hx.start_eq
  yielded_sublist := (List.sublist_append_left _ _).trans hr.rest_sublist
  yielded_prefix hn := ⟨_, hr.rest_eq hn⟩
  final := hf
  reading _ := hr

/-- A held subscriber stays sound through a poll, on a bus whose entry's messages end with their
final message, whose entry is sealed once that came or once its channel closed. -/
theorem Sound.polled (hx : x.Sound b acc) (hheld : x.released = false) (hfin : FinalLast acc)
    (hsealed : ∀ m ∈ acc, m.isFinal = true → b.Sealed x.channel)
    (hclosed : (b.channel x.channel).closed = true → b.Sealed x.channel)
    (hle : (b.channel x.channel).held.length ≤ (b.channel x.channel).written) :
    (x.polled b now).Sound b acc := by
  have h := hx.reading hheld
  rw [polled_eq]
  cases hd : x.sub.done
  case true =>
    rw [Subscription.poll_of_done hd]
    have hft : FinalAnswers x.answers true := hd ▸ hx.final
    exact hx.answer (h.answer_quiet (by simp) (by simp)) (hd ▸ hft.snoc_ended)
  case false =>
  have hfa : FinalAnswers x.answers false := hd ▸ hx.final
  cases hr : x.sub.replay with
  | cons m more =>
    rw [Subscription.poll_replay hd hr]
    refine hx.answer (h.answer_message hx.start_suffix hfin hsealed ?_ rfl id
      (fun n next hl => h.live n next hl)) (hfa.snoc_open fun m' hm' hf => ?_)
    · simp [rest, hr]
    · cases hm'
      exact hf
  | nil =>
    cases hl : x.sub.live with
    | none =>
      rw [Subscription.poll_unfollowed hd hr hl]
      refine hx.answer (h.answer_done fun _ => ⟨(h.replayed hl).1, by simp [rest, hr, hl]⟩)
        (hfa.snoc_open (by simp))
    | some p =>
      obtain ⟨n, next⟩ := p
      obtain ⟨rfl, hnext, hal⟩ := h.live n next hl
      cases hc : x.sub.cancelled
      case true =>
        rw [Subscription.poll_cancelled hd hr hl hc]
        refine hx.answer (h.answer_done fun hc' => ?_) (hfa.snoc_open (by simp))
        rw [hc] at hc'
        cases hc'
      case false =>
      by_cases hn : next < (b.channel x.channel).oldest
      · rw [Subscription.poll_dropped hd hr hl hc hn]
        exact hx.answer (h.answer_dropped hle hd hr hl hn _) (hfa.snoc_open (by simp))
      · cases hm : (b.channel x.channel).held[next - (b.channel x.channel).oldest]? with
        | some m =>
          rw [Subscription.poll_live hd hr hl hc hn hm]
          obtain ⟨hcons, hal'⟩ := hal.read hle hn hm
          refine hx.answer (h.answer_message hx.start_suffix hfin hsealed ?_ rfl
            (fun hl' => by cases hl') ?_) (hfa.snoc_open fun m' hm' hf => ?_)
          · simp only [rest, hr, hl, List.nil_append]
            exact hcons
          · intro n' next' hl'
            cases hl'
            exact ⟨rfl, Channel.lt_written hle hn hm, hal'⟩
          · cases hm'
            exact hf
        | none =>
          have hzero := Channel.caught_up hle hn hm
          cases hcl : (b.channel x.channel).closed
          case false =>
            rw [Subscription.poll_pending hd hr hl hc hn hm hcl]
            exact hx.answer (h.answer_quiet (by simp) (by simp)) (hfa.snoc_open (by simp))
          case true =>
            rw [Subscription.poll_closed hd hr hl hc hn hm hcl]
            refine hx.answer (h.answer_done fun _ => ⟨hclosed hcl, ?_⟩) (hfa.snoc_open (by simp))
            simp [rest, hr, hl, hzero]

end Subscriber

/-! ## Writing to a channel -/

namespace Channel

variable {c c' : Channel} {next : Nat} {acc : List ProgressMessage}

/-- A channel with receivers writes the message and holds the last `channelCapacity`. -/
theorem send_of_pos (h : 0 < c.receivers) (m : ProgressMessage) :
    c.send m = { c with written := c.written + 1, held := (c.held ++ [m]).rtake channelCapacity } := by
  unfold send
  rw [if_neg (by simpa using Nat.pos_iff_ne_zero.mp h), List.rtake_eq_reverse_take_reverse]

theorem Aligned.congr (h : c.Aligned next acc) (hw : c'.written = c.written) (hh : c'.held = c.held) :
    c'.Aligned next acc := by
  unfold Aligned at h ⊢
  rw [hw, hh]
  exact h

/-- A message written to a channel with receivers keeps every reader aligned with the entry's
messages, the message last. -/
theorem Aligned.send (h : c.Aligned next acc) (hnext : next ≤ c.written) (hpos : 0 < c.receivers)
    (m : ProgressMessage) : (c.send m).Aligned next (acc ++ [m]) := by
  rw [send_of_pos hpos]
  unfold Aligned at h ⊢
  dsimp only
  rw [length_rtake, List.length_append, List.length_singleton]
  -- what the reader has left is one more than before, up to what the channel holds
  have hk : min (min channelCapacity (c.held.length + 1)) (c.written + 1 - next) =
      min (min (channelCapacity - 1) c.held.length) (c.written - next) + 1 := by
    unfold channelCapacity
    omega
  have hj : min (min (channelCapacity - 1) c.held.length) (c.written - next) ≤
      min c.held.length (c.written - next) := by omega
  rw [hk, rtake_rtake (by unfold channelCapacity; omega), List.rtake_concat_succ,
    List.rtake_concat_succ, ← rtake_rtake hj, h, rtake_rtake hj]

end Channel

namespace Subscriber

variable {x : Subscriber} {b b' : Bus} {acc : List ProgressMessage}

/-- A subscriber stays sound through a move of the bus that leaves its channel's messages alone
and its entry sealed when it was. -/
theorem Sound.frame (hx : x.Sound b acc) (hlen : b.channels.length ≤ b'.channels.length)
    (hw : (b'.channel x.channel).written = (b.channel x.channel).written)
    (hh : (b'.channel x.channel).held = (b.channel x.channel).held)
    (hs : b.Sealed x.channel → b'.Sealed x.channel) : x.Sound b' acc := by
  have hrest : x.rest b' acc = x.rest b acc := by
    unfold rest
    rw [hw]
  refine { hx with channel_lt := Nat.lt_of_lt_of_le hx.channel_lt hlen, reading := fun hheld => ?_ }
  have h := hx.reading hheld
  refine ⟨hrest ▸ h.rest_sublist, fun hn => hrest ▸ h.rest_eq hn, fun hd hc => ?_,
    fun hl => ⟨hs (h.replayed hl).1, (h.replayed hl).2⟩, fun n next hl => ?_⟩
  · exact ⟨hs (h.ended hd hc).1, hrest.trans (h.ended hd hc).2⟩
  · obtain ⟨hn, hnext, hal⟩ := h.live n next hl
    exact ⟨hn, hw ▸ hnext, hal.congr hw hh⟩

/-- A subscriber stays sound through a message its own entry accepts: the channel writes it, for
the subscriber is among its receivers while it is held. -/
theorem Sound.write (hx : x.Sound b acc) {m : ProgressMessage}
    (hlen : b.channels.length ≤ b'.channels.length) (hopen : ¬ b.Sealed x.channel)
    (hrecv : x.follows x.channel = true → 0 < (b.channel x.channel).receivers)
    (hc : b'.channel x.channel = (b.channel x.channel).send m) : x.Sound b' (acc ++ [m]) := by
  have hdrop : (acc ++ [m]).drop x.seen = acc.drop x.seen ++ [m] :=
    List.drop_append_of_le_length hx.seen_le
  refine ⟨Nat.lt_of_lt_of_le hx.channel_lt hlen, ?_, ?_, ?_, ?_, hx.final, fun hheld => ?_⟩
  · rw [List.length_append]
    exact Nat.le_succ_of_le hx.seen_le
  · rw [List.take_append_of_le_length hx.seen_le]
    exact hx.start_eq
  · rw [hdrop, ← List.append_assoc]
    exact hx.yielded_sublist.trans (List.sublist_append_left _ _)
  · intro hn
    rw [hdrop, ← List.append_assoc]
    exact (hx.yielded_prefix hn).trans (List.prefix_append _ _)
  have h := hx.reading hheld
  -- a subscriber that reads nothing live, or has ended, has a sealed entry: not this one
  cases hl : x.sub.live with
  | none => exact absurd (h.replayed hl).1 hopen
  | some p =>
  obtain ⟨n, next⟩ := p
  obtain ⟨rfl, hnext, hal⟩ := h.live n next hl
  have hpos : 0 < (b.channel x.channel).receivers := hrecv (by simp [follows, hheld, hl])
  have hrest : x.rest b' (acc ++ [m]) = x.rest b acc ++ [m] := by
    simp only [rest, hl, hc, Channel.send_of_pos hpos, List.append_assoc]
    rw [show (b.channel x.channel).written + 1 - next = ((b.channel x.channel).written - next) + 1 by
      omega,
      List.rtake_concat_succ]
  refine ⟨?_, fun hn => ?_, fun hd hcan => absurd (h.ended hd hcan).1 hopen, fun hl' => ?_,
    fun n' next' hl' => ?_⟩
  · rw [hrest, hdrop, ← List.append_assoc, ← List.append_assoc]
    exact h.rest_sublist.append (List.Sublist.refl _)
  · rw [hrest, hdrop, ← List.append_assoc, h.rest_eq hn, List.append_assoc]
  · rw [hl] at hl'
    cases hl'
  · rw [hl] at hl'
    cases hl'
    refine ⟨rfl, ?_, ?_⟩
    · rw [hc, Channel.send_of_pos hpos]
      exact Nat.le_succ_of_le hnext
    · rw [hc]
      exact hal.send hnext hpos m

end Subscriber

/-! ## Moves of the bus -/

namespace Bus

variable {b : Bus} {id id' : String} {e : Entry} {n n' : Nat}

theorem channel_setEntry (e : Entry) : (b.setEntry id e).channel n = b.channel n := by
  simp [channel]

/-- The entry a push leaves. -/
def pushed (e : Entry) (m : ProgressMessage) : Entry :=
  { e with buffer := (if e.buffer.length ≥ replaySize then e.buffer.drop 1 else e.buffer) ++ [m],
           finished := m.isFinal }

@[simp] theorem channel_pushed (m : ProgressMessage) : (pushed e m).channel = e.channel := rfl

theorem entry?_push_self (m : ProgressMessage) : Bus.entry? (b.push id e m) id = some (pushed e m) := by
  unfold push
  rw [entry?_setChannel, entry?_setEntry_self]
  rfl

@[simp] theorem channels_push (m : ProgressMessage) :
    (b.push id e m).channels.length = b.channels.length := by
  unfold push
  simp

theorem channel_push_self (h : e.channel < b.channels.length) (m : ProgressMessage) :
    (b.push id e m).channel e.channel = (b.channel e.channel).send m := by
  unfold push
  dsimp only
  rw [channel_setChannel_self (by simpa using h), channel_setEntry]

theorem channel_push_of_ne (h : n ≠ e.channel) (m : ProgressMessage) :
    (b.push id e m).channel n = b.channel n := by
  unfold push
  dsimp only
  rw [channel_setChannel_of_ne h, channel_setEntry]

/-- A push keeps every other channel's entry sealed. -/
theorem Sealed.push (h : b.Sealed n) (hne : e.channel ≠ n) (m : ProgressMessage) :
    (b.push id e m).Sealed n := by
  intro id' e' he' hc
  by_cases hid : id' = id
  · subst hid
    rw [entry?_push_self] at he'
    cases he'
    exact absurd hc hne
  · rw [entry?_push_of_ne hid] at he'
    exact h id' e' he' hc

/-- Opening an entry keeps every channel there was sealed when it was. -/
theorem Sealed.openEntry (h : b.Sealed n) (hn : n < b.channels.length) :
    (b.openEntry id).1.Sealed n := by
  intro id' e' he' hc
  cases hb : b.entry? id with
  | some e₀ =>
    rw [openEntry_of_some hb] at he'
    exact h id' e' he' hc
  | none =>
    rw [openEntry_of_none hb] at he'
    by_cases hid : id' = id
    · subst hid
      rw [entry?_setEntry_self] at he'
      cases he'
      exact absurd hc (by dsimp only; omega)
    · rw [entry?_setEntry_of_ne _ hid] at he'
      exact h id' e' he' hc

theorem channels_openEntry_le (id : String) :
    b.channels.length ≤ (b.openEntry id).1.channels.length := by
  unfold openEntry
  split
  · exact le_rfl
  · simp

theorem channel_openEntry (hn : n < b.channels.length) : (b.openEntry id).1.channel n = b.channel n := by
  unfold openEntry
  split
  · rfl
  · rw [channel_setEntry]
    simp [channel, List.getElem?_append_left hn]

end Bus

theorem Bus.channel_openEntry_of_le {b : Bus} {n : Nat} (id : String)
    (hn : b.channels.length ≤ n) : (b.openEntry id).1.channel n = {} := by
  unfold Bus.openEntry
  split
  · exact Bus.channel_of_length_le hn
  · rw [Bus.channel_setEntry]
    rcases Nat.lt_or_eq_of_le hn with hlt | rfl
    · exact Bus.channel_of_length_le (by simp; omega)
    · simp [Bus.channel]

namespace BusRun

variable {r : BusRun}

theorem acceptedOn_snoc {r' : BusRun} {n : Nat} {m : ProgressMessage}
    (h : r'.accepted = r.accepted ++ [(n, m)]) (n' : Nat) :
    r'.acceptedOn n' = if n' = n then r.acceptedOn n' ++ [m] else r.acceptedOn n' := by
  unfold acceptedOn
  rw [h]
  by_cases h : n' = n
  · subst h
    simp
  · simp [h, Ne.symm h]

/-- No entry accepted a message on a channel the bus has not opened. -/
theorem Sound.acceptedOn_of_le (h : r.Sound) {n : Nat} (hn : r.bus.channels.length ≤ n) :
    r.acceptedOn n = [] := by
  unfold acceptedOn
  rw [List.map_eq_nil_iff, List.filter_eq_nil_iff]
  intro a ha
  have := h.accepted_lt a ha
  simp only [beq_iff_eq]
  omega

/-- Opening an entry keeps a run sound: the new entry has a channel of its own, which nothing
was written to and nobody follows. -/
theorem Sound.openEntry (h : r.Sound) (id : String) :
    ({ r with bus := (r.bus.openEntry id).1 } : BusRun).Sound := by
  cases hb : r.bus.entry? id with
  | some e =>
    rw [Bus.openEntry_of_some hb]
    exact h
  | none =>
  have hlen := Bus.channels_openEntry_le (b := r.bus) id
  -- the entry of `id` is new, on the channel after the last one
  have hnew : Bus.entry? (r.bus.openEntry id).1 id = some { channel := r.bus.channels.length } := by
    rw [Bus.openEntry_of_none hb, Bus.entry?_setEntry_self]
  have hold : ∀ id', id' ≠ id → Bus.entry? (r.bus.openEntry id).1 id' = r.bus.entry? id' :=
    fun id' hid => Bus.openEntry_entry?_of_ne hid
  have hlen' : (r.bus.openEntry id).1.channels.length = r.bus.channels.length + 1 := by
    rw [Bus.openEntry_of_none hb]
    simp
  have hentry : ∀ id' e', Bus.entry? (r.bus.openEntry id).1 id' = some e' →
      (id' = id ∧ e' = { channel := r.bus.channels.length }) ∨ (id' ≠ id ∧ r.bus.entry? id' = some e') := by
    intro id' e' he'
    by_cases hid : id' = id
    · subst hid
      rw [hnew] at he'
      exact .inl ⟨rfl, (Option.some.inj he').symm⟩
    · exact .inr ⟨hid, (hold id' hid) ▸ he'⟩
  have hempty := h.acceptedOn_of_le (le_refl r.bus.channels.length)
  refine ⟨fun id' e' he' => ?_, fun id₁ id₂ e₁ e₂ he₁ he₂ hc => ?_, fun a ha => ?_,
    fun id' e' he' => ?_, fun id' e' he' => ?_, h.finalLast, fun n => ?_, fun n hcl => ?_,
    fun n => ?_, fun x hx => ?_⟩
  · rcases hentry id' e' he' with ⟨-, rfl⟩ | ⟨-, he'⟩
    · rw [hlen']
      exact Nat.lt_succ_self _
    · exact Nat.lt_of_lt_of_le (h.entry_lt id' e' he') hlen
  · rcases hentry id₁ e₁ he₁ with ⟨rfl, rfl⟩ | ⟨-, hold₁⟩ <;>
      rcases hentry id₂ e₂ he₂ with ⟨rfl, rfl⟩ | ⟨-, hold₂⟩
    · rfl
    · exact absurd hc (Nat.ne_of_gt (h.entry_lt id₂ e₂ hold₂))
    · exact absurd hc (Nat.ne_of_lt (h.entry_lt id₁ e₁ hold₁))
    · exact h.entry_inj id₁ id₂ e₁ e₂ hold₁ hold₂ hc
  · exact Nat.lt_of_lt_of_le (h.accepted_lt a ha) hlen
  · rcases hentry id' e' he' with ⟨-, rfl⟩ | ⟨-, he'⟩
    · show [] = (r.acceptedOn r.bus.channels.length).rtake replaySize
      rw [hempty]
      rfl
    · exact h.buffer id' e' he'
  · rcases hentry id' e' he' with ⟨-, rfl⟩ | ⟨-, he'⟩
    · show false = (r.acceptedOn r.bus.channels.length).getLast?.any (·.isFinal)
      rw [hempty]
      rfl
    · exact h.finished id' e' he'
  · by_cases hn : n < r.bus.channels.length
    · rw [Bus.channel_openEntry hn]
      exact h.held_le n
    · rw [Bus.channel_openEntry_of_le id (Nat.le_of_not_lt hn)]
      exact le_rfl
  · by_cases hn : n < r.bus.channels.length
    · rw [Bus.channel_openEntry hn] at hcl
      exact (h.closed n hcl).openEntry hn
    · rw [Bus.channel_openEntry_of_le id (Nat.le_of_not_lt hn)] at hcl
      cases hcl
  · by_cases hn : n < r.bus.channels.length
    · rw [Bus.channel_openEntry hn]
      exact h.receivers n
    · have h₀ := h.receivers n
      rw [Bus.channel_of_length_le (Nat.le_of_not_lt hn)] at h₀
      exact Nat.le_trans h₀ (Nat.zero_le _)
  · have hsx := h.subscribers x hx
    have hch : (r.bus.openEntry id).1.channel x.channel = r.bus.channel x.channel :=
      Bus.channel_openEntry hsx.channel_lt
    exact hsx.frame hlen (by rw [hch]) (by rw [hch]) fun hs => hs.openEntry hsx.channel_lt

end BusRun

namespace Channel

variable {c : Channel} {m : ProgressMessage}

@[simp] theorem send_closed : (c.send m).closed = c.closed := by
  unfold send
  split <;> rfl

@[simp] theorem send_receivers : (c.send m).receivers = c.receivers := by
  unfold send
  split <;> rfl

theorem send_held_le (h : c.held.length ≤ c.written) : (c.send m).held.length ≤ (c.send m).written := by
  unfold send
  split
  · exact h
  · dsimp only
    rw [List.length_reverse, List.length_take, List.length_reverse, List.length_append,
      List.length_singleton]
    omega

end Channel

/-- The replay buffer of an entry after a push is the last `replaySize` messages, the new one
last. -/
theorem buffer_pushed {l : List ProgressMessage} {e : Entry} (h : e.buffer = l.rtake replaySize)
    (m : ProgressMessage) : (Bus.pushed e m).buffer = (l ++ [m]).rtake replaySize := by
  unfold Bus.pushed replaySize at *
  dsimp only
  rw [h, show (100 : Nat) = 99 + 1 from rfl, List.rtake_concat_succ, length_rtake]
  congr 1
  split
  · rw [List.rtake, List.rtake, List.drop_drop]
    congr 1
    omega
  · rw [rtake_of_length_le (by omega), rtake_of_length_le (by omega)]

namespace BusRun

variable {r : BusRun}

/-- An entry that has not ended accepting a message keeps a run sound. -/
theorem Sound.push (h : r.Sound) {id : String} {e : Entry} (he : r.bus.entry? id = some e)
    (hf : e.finished = false) (m : ProgressMessage) :
    ({ r with bus := r.bus.push id e m, accepted := r.accepted ++ [(e.channel, m)] } : BusRun).Sound := by
  have hlt := h.entry_lt id e he
  have hopen : ¬ r.bus.Sealed e.channel := fun hs => by
    rw [hs id e he rfl] at hf
    cases hf
  have hentry : ∀ id' e', Bus.entry? (r.bus.push id e m) id' = some e' →
      (id' = id ∧ e' = Bus.pushed e m) ∨ (id' ≠ id ∧ r.bus.entry? id' = some e') := by
    intro id' e' he'
    by_cases hid : id' = id
    · subst hid
      rw [Bus.entry?_push_self] at he'
      exact .inl ⟨rfl, (Option.some.inj he').symm⟩
    · exact .inr ⟨hid, (Bus.entry?_push_of_ne hid) ▸ he'⟩
  -- another entry has another channel, whose messages are as they were
  have hother : ∀ id' e', id' ≠ id → r.bus.entry? id' = some e' → e'.channel ≠ e.channel :=
    fun id' e' hid he' hc => hid (h.entry_inj id' id e' e he' he hc)
  have hlast : ∀ m', (r.acceptedOn e.channel).getLast? = some m' → m'.isFinal = false := by
    intro m' hm'
    have := h.finished id e he
    rw [hf, hm'] at this
    simpa using this.symm
  refine ⟨fun id' e' he' => ?_, fun id₁ id₂ e₁ e₂ he₁ he₂ hc => ?_, fun a ha => ?_,
    fun id' e' he' => ?_, fun id' e' he' => ?_, fun n => ?_, fun n => ?_, fun n hcl => ?_,
    fun n => ?_, fun x hx => ?_⟩
  · rcases hentry id' e' he' with ⟨-, rfl⟩ | ⟨-, he'⟩
    · simpa using hlt
    · simpa using h.entry_lt id' e' he'
  · rcases hentry id₁ e₁ he₁ with ⟨rfl, rfl⟩ | ⟨h₁, hold₁⟩ <;>
      rcases hentry id₂ e₂ he₂ with ⟨rfl, rfl⟩ | ⟨h₂, hold₂⟩
    · rfl
    · exact absurd hc.symm (hother id₂ e₂ h₂ hold₂)
    · exact absurd hc (hother id₁ e₁ h₁ hold₁)
    · exact h.entry_inj id₁ id₂ e₁ e₂ hold₁ hold₂ hc
  · rcases List.mem_append.mp ha with ha | ha
    · simpa using h.accepted_lt a ha
    · rw [List.mem_singleton] at ha
      subst ha
      simpa using hlt
  · rw [acceptedOn_snoc (r := r) rfl]
    rcases hentry id' e' he' with ⟨-, rfl⟩ | ⟨hid, he'⟩
    · rw [Bus.channel_pushed, if_pos rfl]
      exact buffer_pushed (h.buffer id e he) m
    · rw [if_neg (hother id' e' hid he')]
      exact h.buffer id' e' he'
  · rw [acceptedOn_snoc (r := r) rfl]
    rcases hentry id' e' he' with ⟨-, rfl⟩ | ⟨hid, he'⟩
    · rw [Bus.channel_pushed, if_pos rfl]
      simp [Bus.pushed]
    · rw [if_neg (hother id' e' hid he')]
      exact h.finished id' e' he'
  · rw [acceptedOn_snoc (r := r) rfl]
    split
    · rename_i hn
      subst hn
      exact (h.finalLast e.channel).snoc hlast m
    · exact h.finalLast n
  · by_cases hn : n = e.channel
    · subst hn
      rw [Bus.channel_push_self hlt]
      exact Channel.send_held_le (h.held_le _)
    · rw [Bus.channel_push_of_ne hn]
      exact h.held_le n
  · by_cases hn : n = e.channel
    · subst hn
      rw [Bus.channel_push_self hlt, Channel.send_closed] at hcl
      exact absurd (h.closed _ hcl) hopen
    · rw [Bus.channel_push_of_ne hn] at hcl
      exact (h.closed n hcl).push (Ne.symm hn) m
  · by_cases hn : n = e.channel
    · subst hn
      rw [Bus.channel_push_self hlt, Channel.send_receivers]
      exact h.receivers _
    · rw [Bus.channel_push_of_ne hn]
      exact h.receivers n
  · have hsx := h.subscribers x hx
    rw [acceptedOn_snoc (r := r) rfl]
    split
    · rename_i hn
      refine hsx.write (by simp) (hn ▸ hopen) (fun hfx => ?_) (by rw [hn, Bus.channel_push_self hlt])
      have hpos : 0 < r.subscribers.countP (Subscriber.follows x.channel) :=
        List.countP_pos_iff.mpr ⟨x, hx, hfx⟩
      exact Nat.lt_of_lt_of_le hpos (h.receivers _)
    · rename_i hn
      have hch : (r.bus.push id e m).channel x.channel = r.bus.channel x.channel :=
        Bus.channel_push_of_ne hn m
      exact hsx.frame (by simp) (by rw [hch]) (by rw [hch]) fun hs => hs.push (Ne.symm hn) m

end BusRun

namespace BusRun

variable {r : BusRun} {id : String} {e : Entry}

/-- A new subscriber, replaying its entry's buffer and reading its channel from where it is, is
sound. -/
theorem Sound.enrolled (h : r.Sound) (he : r.bus.entry? id = some e) {b' : Bus} {s : Subscription}
    (hlen : r.bus.channels.length ≤ b'.channels.length) (hreplay : s.replay = e.buffer)
    (hdone : s.done = false) (hnone : s.live = none → b'.Sealed e.channel)
    (hsome : ∀ n next, s.live = some (n, next) →
      n = e.channel ∧ next = (b'.channel e.channel).written) :
    (r.joined e.channel s).Sound b' (r.acceptedOn e.channel) := by
  have hdrop : (r.acceptedOn e.channel).drop (r.acceptedOn e.channel).length = [] := List.drop_length
  -- nothing was written to its channel after its position
  have hrest : (r.joined e.channel s).rest b' (r.acceptedOn e.channel) = s.replay := by
    unfold Subscriber.rest joined
    dsimp only
    cases hl : s.live with
    | none => simp
    | some p =>
      obtain ⟨n, next⟩ := p
      obtain ⟨-, rfl⟩ := hsome n next hl
      simp [List.rtake_zero]
  have hyield : (r.joined e.channel s).yielded = [] := rfl
  have hfull : (r.joined e.channel s).start ++
      (r.acceptedOn e.channel).drop (r.joined e.channel s).seen = s.replay := by
    simp only [joined, hdrop, List.append_nil]
  refine ⟨Nat.lt_of_lt_of_le (h.entry_lt id e he) hlen, le_rfl, ?_, ?_, ?_, FinalAnswers.nil _,
    fun _ => ⟨?_, fun _ => ?_, fun hd => ?_, fun hl => ⟨hnone hl, hdrop⟩, fun n next hl => ?_⟩⟩
  · show s.replay = ((r.acceptedOn e.channel).take (r.acceptedOn e.channel).length).rtake replaySize
    rw [List.take_length, hreplay, h.buffer id e he]
  · rw [hyield]
    exact List.nil_sublist _
  · intro _
    rw [hyield]
    exact List.nil_prefix
  · rw [hyield, hrest, hfull, List.nil_append]
  · rw [hyield, hrest, hfull, List.nil_append]
  · have hd' : s.done = true := hd
    rw [hdone] at hd'
    cases hd'
  · obtain ⟨rfl, rfl⟩ := hsome n next hl
    refine ⟨rfl, le_rfl, ?_⟩
    unfold Channel.Aligned
    simp [List.rtake_zero, joined]

end BusRun

/-- Replacing an element by one the predicate fails on counts it out. -/
theorem countP_set_of_false {α : Type} {p : α → Bool} {l : List α} {k : Nat} {x y : α}
    (hk : l[k]? = some x) (hy : p y = false) :
    (l.set k y).countP p = l.countP p - (if p x then 1 else 0) := by
  obtain ⟨hlt, rfl⟩ := List.getElem?_eq_some_iff.mp hk
  rw [List.countP_set hlt, hy]
  simp

/-- Replacing an element by one the predicate holds of alike keeps the count. -/
theorem countP_set_of_eq {α : Type} {p : α → Bool} {l : List α} {k : Nat} {x y : α}
    (hk : l[k]? = some x) (hp : p y = p x) : (l.set k y).countP p = l.countP p := by
  obtain ⟨hlt, rfl⟩ := List.getElem?_eq_some_iff.mp hk
  rw [List.countP_set hlt, hp]
  split
  · have : 0 < l.countP p := List.countP_pos_iff.mpr ⟨_, List.getElem_mem hlt, by assumption⟩
    omega
  · rfl

theorem Subscription.poll_live_fst {s : Subscription} {b : Bus} {now : Instant} :
    (s.poll b now).1.live.map (·.1) = s.live.map (·.1) := by
  unfold Subscription.poll
  split
  · rfl
  split
  · rfl
  split
  · rfl
  · rename_i n next hl
    split
    · rfl
    dsimp only
    split
    · simp [hl]
    split
    · simp [hl]
    split <;> rfl

/-! ## Calls that only count receivers or move subscribers -/

namespace BusRun

variable {r r' : BusRun}

/-- `r'` has the bus of `r` up to how many receivers its channels count, and the same accepted
messages. -/
structure Retuned (r r' : BusRun) : Prop where
  accepted : r'.accepted = r.accepted
  entries : r'.bus.entries = r.bus.entries
  length : r'.bus.channels.length = r.bus.channels.length
  held : ∀ n, (r'.bus.channel n).held = (r.bus.channel n).held
  written : ∀ n, (r'.bus.channel n).written = (r.bus.channel n).written
  closed : ∀ n, (r'.bus.channel n).closed = (r.bus.channel n).closed

namespace Retuned

theorem entry? (h : Retuned r r') (id : String) : r'.bus.entry? id = r.bus.entry? id := by
  unfold Bus.entry?
  rw [h.entries]

theorem sealed_iff (h : Retuned r r') (n : Nat) : r'.bus.Sealed n ↔ r.bus.Sealed n := by
  simp only [Bus.Sealed, h.entry?]

theorem acceptedOn (h : Retuned r r') (n : Nat) : r'.acceptedOn n = r.acceptedOn n := by
  unfold BusRun.acceptedOn
  rw [h.accepted]

/-- A subscriber sound on the first bus is sound on the second. -/
theorem subscriber {x : Subscriber} (h : Retuned r r') (hx : x.Sound r.bus (r.acceptedOn x.channel)) :
    x.Sound r'.bus (r'.acceptedOn x.channel) := by
  rw [h.acceptedOn]
  exact hx.frame h.length.ge (h.written _) (h.held _) (h.sealed_iff _).mpr

end Retuned

/-- A run whose bus only counts receivers differently is sound once the counts cover the
followers and its subscribers are sound. -/
theorem Sound.retune (h : r.Sound) (ht : Retuned r r')
    (hrecv : ∀ n, r'.subscribers.countP (Subscriber.follows n) ≤ (r'.bus.channel n).receivers)
    (hsubs : ∀ x ∈ r'.subscribers, x.Sound r'.bus (r'.acceptedOn x.channel)) : r'.Sound where
  entry_lt id e he := ht.length ▸ h.entry_lt id e (ht.entry? id ▸ he)
  entry_inj id id' e e' he he' := h.entry_inj id id' e e' (ht.entry? id ▸ he) (ht.entry? id' ▸ he')
  accepted_lt a ha := ht.length ▸ h.accepted_lt a (ht.accepted ▸ ha)
  buffer id e he := ht.acceptedOn e.channel ▸ h.buffer id e (ht.entry? id ▸ he)
  finished id e he := ht.acceptedOn e.channel ▸ h.finished id e (ht.entry? id ▸ he)
  finalLast n := ht.acceptedOn n ▸ h.finalLast n
  held_le n := ht.held n ▸ ht.written n ▸ h.held_le n
  closed n hc := (ht.sealed_iff n).mpr (h.closed n (ht.closed n ▸ hc))
  receivers := hrecv
  subscribers := hsubs

end BusRun

namespace BusRun

variable {r : BusRun} {id : String} {e : Entry}

theorem Retuned.subscribers_only (subs : List Subscriber) :
    Retuned r { r with subscribers := subs } :=
  ⟨rfl, rfl, rfl, fun _ => rfl, fun _ => rfl, fun _ => rfl⟩

theorem Retuned.setReceivers {n : Nat} (hn : n < r.bus.channels.length) (k : Nat)
    (subs : List Subscriber) :
    Retuned r { r with bus := r.bus.setChannel n { r.bus.channel n with receivers := k },
                       subscribers := subs } := by
  refine ⟨rfl, rfl, by simp, fun n' => ?_, fun n' => ?_, fun n' => ?_⟩ <;>
  · by_cases h : n' = n
    · subst h
      simp only [Bus.channel_setChannel_self hn]
    · simp only [Bus.channel_setChannel_of_ne h]

/-- On a sound run, a final message of an entry seals its channel. -/
theorem Sound.sealed_of_final (h : r.Sound) {n : Nat} {m : ProgressMessage}
    (hm : m ∈ r.acceptedOn n) (hf : m.isFinal = true) : r.bus.Sealed n := by
  intro id' e' he' hc
  have hfin := h.finished id' e' he'
  rw [hc, (h.finalLast n).getLast? hm hf] at hfin
  simpa [hf] using hfin

/-- Subscribing keeps a run sound: a subscription to an open entry counts as a receiver of its
channel, one to an ended entry only replays. -/
theorem Sound.follow (h : r.Sound) (he : r.bus.entry? id = some e) :
    (r.enrol e.channel (r.bus.follow id e)).Sound := by
  have hlt := h.entry_lt id e he
  unfold Bus.follow enrol
  split
  · rename_i hf
    have ht := Retuned.subscribers_only (r := r) (r.subscribers ++
      [r.joined e.channel ⟨id, e.buffer, none, false, false⟩])
    refine h.retune ht (fun n => ?_) (fun x hx => ?_)
    · simp only [List.countP_append]
      have h₀ : (r.joined e.channel ⟨id, e.buffer, none, false, false⟩).follows n = false := by
        simp [Subscriber.follows, joined]
      rw [List.countP_singleton, h₀]
      exact h.receivers n
    · rcases List.mem_append.mp hx with hx | hx
      · exact ht.subscriber (h.subscribers x hx)
      · rw [List.mem_singleton.mp hx]
        refine h.enrolled he le_rfl rfl rfl (fun _ => ?_) (fun n next hl => by cases hl)
        intro id' e' he' hc
        change r.bus.entry? id' = some e' at he'
        rw [h.entry_inj id' id e' e he' he hc, he] at he'
        cases he'
        exact hf
  · have ht := Retuned.setReceivers (r := r) hlt ((r.bus.channel e.channel).receivers + 1)
      (r.subscribers ++ [r.joined e.channel
        ⟨id, e.buffer, some (e.channel, (r.bus.channel e.channel).written), false, false⟩])
    refine h.retune ht (fun n => ?_) (fun x hx => ?_)
    · dsimp only
      simp only [List.countP_append, List.countP_singleton]
      by_cases hn : n = e.channel
      · subst hn
        rw [Bus.channel_setChannel_self hlt]
        have := h.receivers e.channel
        simp only [Subscriber.follows, joined, Bool.not_false, Option.map_some, beq_self_eq_true,
          Bool.and_self, if_true]
        omega
      · rw [Bus.channel_setChannel_of_ne hn]
        have h₀ : (r.joined e.channel
            ⟨id, e.buffer, some (e.channel, (r.bus.channel e.channel).written), false, false⟩).follows n
            = false := by
          simp [Subscriber.follows, joined, Ne.symm hn]
        rw [h₀]
        exact h.receivers n
    · rcases List.mem_append.mp hx with hx | hx
      · exact ht.subscriber (h.subscribers x hx)
      · rw [List.mem_singleton.mp hx, ht.acceptedOn]
        refine h.enrolled he (by simp) rfl rfl (fun hl => by cases hl) (fun n next hl => ?_)
        cases hl
        exact ⟨rfl, by rw [Bus.channel_setChannel_self hlt]⟩

end BusRun

namespace BusRun

variable {r : BusRun} {k : Nat} {x : Subscriber}

/-- Letting a held subscriber go keeps a run sound: its channel counts one receiver less. -/
theorem Sound.release (h : r.Sound) (hk : r.subscribers[k]? = some x) (hheld : x.released = false) :
    ({ r with bus := r.bus.release x.sub,
              subscribers := r.subscribers.set k { x with released := true } } : BusRun).Sound := by
  have hx := h.subscribers x (List.mem_of_getElem? hk)
  -- the subscriber let go keeps all it was given
  have hgone : ∀ b : Bus, x.channel < b.channels.length →
      ({ x with released := true } : Subscriber).Sound b (r.acceptedOn x.channel) :=
    fun b hlt => ⟨hlt, hx.seen_le, hx.start_eq, hx.yielded_sublist, hx.yielded_prefix, hx.final,
      fun hr => by cases hr⟩
  have hmem : ∀ y ∈ r.subscribers.set k { x with released := true },
      y ∈ r.subscribers ∨ y = { x with released := true } := fun y hy => List.mem_or_eq_of_mem_set hy
  unfold Bus.release
  split
  · rename_i n next hl
    obtain ⟨rfl, -, -⟩ := (hx.reading hheld).live n next hl
    have ht := Retuned.setReceivers (r := r) hx.channel_lt ((r.bus.channel x.channel).receivers - 1)
      (r.subscribers.set k { x with released := true })
    refine h.retune ht (fun n => ?_) (fun y hy => ?_)
    · dsimp only
      rw [countP_set_of_false hk (by simp [Subscriber.follows])]
      have hfx : x.follows n = (x.channel == n) := by simp [Subscriber.follows, hheld, hl]
      rw [hfx]
      by_cases hn : n = x.channel
      · subst hn
        rw [Bus.channel_setChannel_self hx.channel_lt]
        have := h.receivers x.channel
        simp only [beq_self_eq_true, if_true]
        omega
      · rw [Bus.channel_setChannel_of_ne hn, beq_eq_false_iff_ne.mpr (Ne.symm hn)]
        simp only [Bool.false_eq_true, if_false, Nat.sub_zero]
        exact h.receivers n
    · rcases hmem y hy with hy | rfl
      · exact ht.subscriber (h.subscribers y hy)
      · exact hgone _ (by simpa using hx.channel_lt)
  · rename_i hl
    have ht := Retuned.subscribers_only (r := r) (r.subscribers.set k { x with released := true })
    refine h.retune ht (fun n => ?_) (fun y hy => ?_)
    · rw [countP_set_of_eq hk (by simp [Subscriber.follows, hl])]
      exact h.receivers n
    · rcases hmem y hy with hy | rfl
      · exact ht.subscriber (h.subscribers y hy)
      · exact hgone _ hx.channel_lt

/-- Cancelling a subscriber keeps a run sound. -/
theorem Sound.cancel (h : r.Sound) (hk : r.subscribers[k]? = some x) :
    ({ r with subscribers := r.subscribers.set k { x with sub.cancelled := true } } : BusRun).Sound := by
  have hx := h.subscribers x (List.mem_of_getElem? hk)
  have ht := Retuned.subscribers_only (r := r) (r.subscribers.set k { x with sub.cancelled := true })
  refine h.retune ht (fun n => ?_) (fun y hy => ?_)
  · rw [countP_set_of_eq hk (by simp [Subscriber.follows])]
    exact h.receivers n
  · rcases List.mem_or_eq_of_mem_set hy with hy | rfl
    · exact ht.subscriber (h.subscribers y hy)
    · -- what is left to give is as it was; a cancelled subscription owes nothing once it ends
      refine ⟨hx.channel_lt, hx.seen_le, hx.start_eq, hx.yielded_sublist, hx.yielded_prefix,
        hx.final, fun hheld => ?_⟩
      have hr := hx.reading hheld
      exact ⟨hr.rest_sublist, hr.rest_eq, fun _ hc => absurd hc (by simp), hr.replayed, hr.live⟩

/-- Polling a held subscriber keeps a run sound. -/
theorem Sound.recv (h : r.Sound) (hk : r.subscribers[k]? = some x) (hheld : x.released = false)
    (now : Instant) :
    ({ r with subscribers := r.subscribers.set k (x.polled r.bus now) } : BusRun).Sound := by
  have hx := h.subscribers x (List.mem_of_getElem? hk)
  have ht := Retuned.subscribers_only (r := r) (r.subscribers.set k (x.polled r.bus now))
  refine h.retune ht (fun n => ?_) (fun y hy => ?_)
  · rw [countP_set_of_eq hk (by simp only [Subscriber.follows, Subscriber.polled,
      Subscription.poll_live_fst])]
    exact h.receivers n
  · rcases List.mem_or_eq_of_mem_set hy with hy | rfl
    · exact ht.subscriber (h.subscribers y hy)
    · exact hx.polled hheld (h.finalLast _) (fun m hm hf => h.sealed_of_final hm hf)
        (h.closed _) (h.held_le _)

end BusRun

/-! ## Closing an entry -/

namespace Bus

variable {b b' : Bus} {id id' : String} {e : Entry} {n : Nat}

/-- The bus without the entry of `id`, with channel `n` closed: what closing leaves once the final
message is in. -/
def withoutEntry (b : Bus) (id : String) (n : Nat) : Bus :=
  let b := { b with entries := b.entries.filter (·.1 != id) }
  b.setChannel n { b.channel n with closed := true }

theorem close_of_some (he : b.entry? id = some e) (now : Instant) :
    b.close id now =
      (if e.finished then b else b.push id e (closedMessage id now)).withoutEntry id e.channel := by
  unfold close
  rw [he]
  rfl

theorem close_of_none (he : b.entry? id = none) (now : Instant) : b.close id now = b := by
  unfold close
  rw [he]

theorem lookup_filter_ne (l : List (String × Entry)) :
    (l.filter (·.1 != id)).lookup id' = if id' = id then none else l.lookup id' := by
  induction l with
  | nil => split <;> rfl
  | cons p l ih =>
    obtain ⟨k, v⟩ := p
    by_cases hk : k = id
    · subst hk
      rw [List.filter_cons_of_neg (by simp), ih]
      by_cases hid : id' = k
      · subst hid
        simp
      · rw [if_neg hid, if_neg hid, lookup_cons_of_ne (Ne.symm hid)]
    · rw [List.filter_cons_of_pos (by simpa using hk)]
      by_cases hid : id' = k
      · subst hid
        simp [hk]
      · rw [lookup_cons_of_ne (Ne.symm hid), lookup_cons_of_ne (Ne.symm hid), ih]

theorem entry?_withoutEntry : Bus.entry? (b.withoutEntry id n) id' = if id' = id then none else b.entry? id' :=
  lookup_filter_ne _

@[simp] theorem channels_withoutEntry : (b.withoutEntry id n).channels.length = b.channels.length := by
  simp [withoutEntry]

theorem channel_withoutEntry_self (hn : n < b.channels.length) :
    (b.withoutEntry id n).channel n = { b.channel n with closed := true } := by
  unfold withoutEntry
  rw [channel_setChannel_self (by simpa using hn)]
  rfl

theorem channel_withoutEntry_of_ne {n' : Nat} (h : n' ≠ n) :
    (b.withoutEntry id n).channel n' = b.channel n' := by
  unfold withoutEntry
  rw [channel_setChannel_of_ne h]
  rfl

/-- A sealed channel stays sealed on a bus with fewer entries. -/
theorem Sealed.of_entries (h : b.Sealed n) (himp : ∀ id e, b'.entry? id = some e → b.entry? id = some e) :
    b'.Sealed n :=
  fun id e he hc => h id e (himp id e he) hc

theorem entry?_of_withoutEntry {e' : Entry} (he : Bus.entry? (b.withoutEntry id n) id' = some e') :
    b.entry? id' = some e' := by
  rw [entry?_withoutEntry] at he
  split at he
  · cases he
  · exact he

end Bus

namespace BusRun

variable {r : BusRun} {id : String} {e : Entry}

/-- Taking an entry out of the registry and closing its channel keeps a run sound: no entry has
that channel any more. -/
theorem Sound.withoutEntry (h : r.Sound) (he : r.bus.entry? id = some e) :
    ({ r with bus := r.bus.withoutEntry id e.channel } : BusRun).Sound := by
  have hlt := h.entry_lt id e he
  have hfewer : ∀ id' e', Bus.entry? (r.bus.withoutEntry id e.channel) id' = some e' →
      r.bus.entry? id' = some e' := fun _ _ he' => Bus.entry?_of_withoutEntry he'
  have hsame : ∀ n, ((r.bus.withoutEntry id e.channel).channel n).held = (r.bus.channel n).held ∧
      ((r.bus.withoutEntry id e.channel).channel n).written = (r.bus.channel n).written ∧
      ((r.bus.withoutEntry id e.channel).channel n).receivers = (r.bus.channel n).receivers := by
    intro n
    by_cases hn : n = e.channel
    · subst hn
      rw [Bus.channel_withoutEntry_self hlt]
      exact ⟨rfl, rfl, rfl⟩
    · rw [Bus.channel_withoutEntry_of_ne hn]
      exact ⟨rfl, rfl, rfl⟩
  refine ⟨fun id' e' he' => ?_, fun id₁ id₂ e₁ e₂ he₁ he₂ hc => ?_, fun a ha => ?_,
    fun id' e' he' => h.buffer id' e' (hfewer id' e' he'),
    fun id' e' he' => h.finished id' e' (hfewer id' e' he'), h.finalLast,
    fun n => ?_, fun n hcl => ?_, fun n => ?_, fun x hx => ?_⟩
  · simpa using h.entry_lt id' e' (hfewer id' e' he')
  · exact h.entry_inj id₁ id₂ e₁ e₂ (hfewer _ _ he₁) (hfewer _ _ he₂) hc
  · simpa using h.accepted_lt a ha
  · rw [(hsame n).1, (hsame n).2.1]
    exact h.held_le n
  · by_cases hn : n = e.channel
    · -- the channel closed belonged to the entry taken out, and to no other
      subst hn
      intro id' e' he' hc
      have hid : id' ≠ id := fun hid => by
        subst hid
        rw [Bus.entry?_withoutEntry, if_pos rfl] at he'
        cases he'
      exact absurd (h.entry_inj id' id e' e (hfewer id' e' he') he hc) hid
    · rw [Bus.channel_withoutEntry_of_ne hn] at hcl
      exact (h.closed n hcl).of_entries hfewer
  · rw [(hsame n).2.2]
    exact h.receivers n
  · exact (h.subscribers x hx).frame (by simp) (hsame _).2.1 (hsame _).1
      fun hs => hs.of_entries hfewer

end BusRun

/-! ## Every call keeps a run sound -/

namespace Bus

variable {b : Bus} {id : String}

theorem subscribe_eq : b.subscribe id = (b.openEntry id).1.follow id (b.openEntry id).2 := by
  unfold subscribe
  rcases b.openEntry id with ⟨b', e⟩
  rfl

end Bus

namespace BusRun

variable {r : BusRun}

theorem Sound.publish (h : r.Sound) (id : String) (m : ProgressMessage) :
    (r.step (.publish id m)).Sound := by
  have hopen := h.openEntry id
  rw [step, Bus.publish_eq]
  cases hf : (r.bus.openEntry id).2.finished
  · simp only [Bool.false_eq_true, ↓reduceIte]
    exact hopen.push Bus.openEntry_entry? hf _
  · simp only [↓reduceIte]
    exact hopen

theorem Sound.subscribe (h : r.Sound) (id : String) : (r.step (.subscribe id)).Sound := by
  rw [step, Bus.subscribe_eq]
  exact (h.openEntry id).follow Bus.openEntry_entry?

theorem Sound.subscribeExisting (h : r.Sound) (id : String) :
    (r.step (.subscribeExisting id)).Sound := by
  rw [step]
  cases he : r.bus.entry? id with
  | none =>
    have hs : r.bus.subscribeExisting id = (r.bus, none) := by
      unfold Bus.subscribeExisting
      rw [he]
    rw [hs]
    exact h
  | some e =>
    have hs : r.bus.subscribeExisting id = ((r.bus.follow id e).1, some (r.bus.follow id e).2) := by
      unfold Bus.subscribeExisting
      rw [he]
    rw [hs]
    exact h.follow he

theorem Sound.close (h : r.Sound) (id : String) (now : Instant) : (r.step (.close id now)).Sound := by
  rw [step]
  cases he : r.bus.entry? id with
  | none =>
    rw [Bus.close_of_none he]
    exact h
  | some e =>
    rw [Bus.close_of_some he]
    cases hf : e.finished
    · -- the closing message is the entry's last, then the entry goes
      simp only [hf, Bool.false_eq_true, ↓reduceIte]
      have hclosed := (h.push he hf (closedMessage id now)).withoutEntry (Bus.entry?_push_self _)
      exact hclosed
    · simp only [hf, ↓reduceIte]
      exact h.withoutEntry he

theorem Sound.withHeld {k : Nat} {f : Subscriber → BusRun} (h : r.Sound)
    (hf : ∀ x, r.subscribers[k]? = some x → x.released = false → (f x).Sound) :
    (r.withHeld k f).Sound := by
  unfold BusRun.withHeld
  cases hk : r.subscribers[k]? with
  | none => exact h
  | some x =>
    dsimp only
    split
    · exact h
    · rename_i hx
      exact hf x hk (by simpa using hx)

/-- Every call keeps a run sound. -/
theorem Sound.step (h : r.Sound) : ∀ c, (r.step c).Sound
  | .publish id m => h.publish id m
  | .subscribe id => h.subscribe id
  | .subscribeExisting id => h.subscribeExisting id
  | .close id now => h.close id now
  | .cancel k => by
    rw [BusRun.step]
    cases hk : r.subscribers[k]? with
    | none => exact h
    | some x => exact h.cancel hk
  | .release k => h.withHeld fun _ hk hheld => h.release hk hheld
  | .recv k now => h.withHeld fun _ hk hheld => h.recv hk hheld now

theorem sound_empty : ({} : BusRun).Sound where
  entry_lt _ _ he := by cases he
  entry_inj _ _ _ _ he := by cases he
  accepted_lt _ ha := by cases ha
  buffer _ _ he := by cases he
  finished _ _ he := by cases he
  finalLast _ := FinalLast.nil
  held_le _ := Nat.le_refl 0
  closed _ hc := by cases hc
  receivers _ := Nat.le_refl 0
  subscribers _ hx := by cases hx

/-- The run of a list of calls from the empty bus. -/
def run (cs : List BusCall) : BusRun := cs.foldl step {}

theorem run_append (cs : List BusCall) (c : BusCall) : run (cs ++ [c]) = (run cs).step c := by
  simp [run]

/-- Every run of the bus is sound. -/
theorem sound_run (cs : List BusCall) : (run cs).Sound := by
  induction cs using List.reverseRecOn with
  | nil => exact sound_empty
  | append_singleton cs c ih =>
    rw [run_append]
    exact ih.step c

end BusRun

/-! ## What every subscriber is given -/

namespace Subscriber

variable {x : Subscriber} {b : Bus} {acc : List ProgressMessage} {now : Instant}

/-- A subscriber whose poll would wait, or end without having been cancelled, has nothing left to
be given. -/
theorem Reading.rest_nil (h : x.Reading b acc)
    (hle : (b.channel x.channel).held.length ≤ (b.channel x.channel).written)
    (hp : (x.sub.poll b now).2 = .pending ∨
      ((x.sub.poll b now).2 = .ended ∧ x.sub.cancelled = false)) :
    x.rest b acc = [] := by
  cases hd : x.sub.done
  case true =>
    have hc : x.sub.cancelled = false := by
      rw [Subscription.poll_of_done hd] at hp
      simpa using hp
    exact (h.ended hd hc).2
  case false =>
  cases hr : x.sub.replay with
  | cons m rest =>
    rw [Subscription.poll_replay hd hr] at hp
    simp at hp
  | nil =>
  cases hl : x.sub.live with
  | none => simp [rest, hr, hl]
  | some p =>
  obtain ⟨n, next⟩ := p
  obtain ⟨rfl, -, -⟩ := h.live n next hl
  have hc : x.sub.cancelled = false := by
    cases hc : x.sub.cancelled
    · rfl
    · rw [Subscription.poll_cancelled hd hr hl hc] at hp
      simp [hc] at hp
  -- the reader neither fell behind nor has a held message before it: it read all that was written
  have hn : ¬ next < (b.channel x.channel).oldest := fun hn => by
    rw [Subscription.poll_dropped hd hr hl hc hn] at hp
    simp at hp
  cases hm : (b.channel x.channel).held[next - (b.channel x.channel).oldest]? with
  | some m =>
    rw [Subscription.poll_live hd hr hl hc hn hm] at hp
    simp at hp
  | none => simp [rest, hr, hl, Channel.caught_up hle hn hm, List.rtake_zero]

end Subscriber

namespace BusRun

variable {r : BusRun} {id : String} {e : Entry}

/-- Publishing to an entry that accepted its final message changes nothing. -/
theorem Sound.step_publish_of_final (h : r.Sound) (he : r.bus.entry? id = some e)
    {m' : ProgressMessage} (hm' : m' ∈ r.acceptedOn e.channel) (hf : m'.isFinal = true)
    (m : ProgressMessage) : r.step (.publish id m) = r := by
  have hfin : e.finished = true := h.sealed_of_final hm' hf id e he rfl
  rw [BusRun.step, Bus.publish_eq, Bus.openEntry_of_some he]
  simp only [hfin, ↓reduceIte]

/-- Along every run of the bus, whatever the order of its calls: each subscriber is given, in
order and never twice, messages its entry accepted; one that never fell behind is given its
entry's buffer at subscribe time, the last `replaySize` messages accepted before it, then every
message accepted since, and all of them once its poll would wait or end; after a final message
every poll ends; publishing to an entry that accepted its final message changes nothing; and an
entry's buffer is its last `replaySize` messages. -/
theorem subscriptions_yield_accepted (cs : List BusCall) :
    let r := run cs
    (∀ x ∈ r.subscribers,
      x.yielded <+ r.acceptedOn x.channel ∧
      x.start = ((r.acceptedOn x.channel).take x.seen).rtake replaySize ∧
      (¬ x.Lagged → x.yielded <+: x.start ++ (r.acceptedOn x.channel).drop x.seen) ∧
      (∀ now, x.released = false → ¬ x.Lagged →
        (x.sub.poll r.bus now).2 = .pending ∨
          ((x.sub.poll r.bus now).2 = .ended ∧ x.sub.cancelled = false) →
        x.yielded = x.start ++ (r.acceptedOn x.channel).drop x.seen) ∧
      (∀ pre m post, x.answers = pre ++ .message m :: post → m.isFinal = true →
        ∀ p ∈ post, p = .ended)) ∧
    (∀ id e m, r.bus.entry? id = some e → (∃ m' ∈ r.acceptedOn e.channel, m'.isFinal = true) →
      r.step (.publish id m) = r) ∧
    (∀ id e, r.bus.entry? id = some e →
      e.buffer = (r.acceptedOn e.channel).rtake replaySize ∧ e.buffer.length ≤ replaySize) := by
  intro r
  have h := sound_run cs
  refine ⟨fun x hx => ?_, fun id e m he ⟨m', hm', hf⟩ => h.step_publish_of_final he hm' hf m,
    fun id e he => ?_⟩
  · have hs := h.subscribers x hx
    refine ⟨hs.yielded_sublist.trans (Subscriber.full_sublist hs.start_suffix), hs.start_eq,
      hs.yielded_prefix, fun now hheld hn hp => ?_, fun pre m post ha hm => (hs.final pre m post ha hm).2⟩
    have hr := hs.reading hheld
    simpa [hr.rest_nil (h.held_le _) hp] using hr.rest_eq hn
  · have hb := h.buffer id e he
    refine ⟨hb, ?_⟩
    rw [hb, length_rtake]
    exact Nat.min_le_left _ _

end BusRun

end Shipyard.Progress
