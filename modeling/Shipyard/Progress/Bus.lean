import Shipyard.Progress.Message
/-!
# The progress bus

Progress messages are published per deployment. Each deployment has an entry in the registry:
the last `replaySize` messages, whether its final message came, and a channel to the live
subscribers. Publishing after the final message does nothing.

A subscription first replays the entry's messages as they were when it subscribed, then
follows the channel, unless the entry was finished by then. The channel writes a message only
while it has receivers, and holds the last `channelCapacity` messages written: a subscriber that
falls further behind gets one `warn` message `dropped` and continues from the oldest message
held. A subscription ends after a final message, when it is cancelled, or when its entry was
closed and it has read all that was written.

Closing an entry removes it from the registry, after writing a final `closed` message unless
the final message already came.
-/
namespace Shipyard.Progress

/-- How many messages an entry keeps for late subscribers. -/
def replaySize : Nat := 100

/-- How many written messages a channel holds: the replay size rounded up to a power of two. -/
def channelCapacity : Nat := 128

/-- The payload of the message that stands for messages a subscriber missed. -/
def droppedPayload : String := "dropped"

/-- A channel to the live subscribers of an entry. -/
structure Channel where
  /-- How many messages were written. -/
  written : Nat := 0
  /-- The last messages written, oldest first, at most `channelCapacity`. -/
  held : List ProgressMessage := []
  receivers : Nat := 0
  closed : Bool := false
  deriving Repr

namespace Channel

/-- Writes a message, if anyone receives it. -/
def send (c : Channel) (m : ProgressMessage) : Channel :=
  if c.receivers == 0 then c
  else { c with written := c.written + 1, held := ((c.held ++ [m]).reverse.take channelCapacity).reverse }

/-- The position of the oldest message held. -/
def oldest (c : Channel) : Nat := c.written - c.held.length

end Channel

/-- A deployment's entry. -/
structure Entry where
  buffer : List ProgressMessage := []
  finished : Bool := false
  /-- The number of the entry's channel. -/
  channel : Nat
  deriving Repr

/-- The registry of entries and every channel ever opened, by number. -/
structure Bus where
  entries : List (String × Entry) := []
  channels : List Channel := []
  deriving Repr

/-- One subscriber's view of a deployment. -/
structure Subscription where
  deploymentId : String
  replay : List ProgressMessage
  /-- The channel followed and the position of the next message to read. -/
  live : Option (Nat × Nat)
  cancelled : Bool := false
  done : Bool := false
  deriving Repr

/-- What asking a subscription for its next message gives now. -/
inductive Poll where
  | message (m : ProgressMessage)
  /-- The subscriber fell behind its channel: the `warn` message `dropped` stands for the
  messages it missed. -/
  | dropped (marker : ProgressMessage)
  | ended
  /-- Nothing yet: the subscriber would wait. -/
  | pending
  deriving Repr

namespace Bus

def entry? (b : Bus) (id : String) : Option Entry := b.entries.lookup id

/-- The number of entries. -/
def size (b : Bus) : Nat := b.entries.length

def channel (b : Bus) (n : Nat) : Channel := b.channels.getD n {}

def setChannel (b : Bus) (n : Nat) (c : Channel) : Bus := { b with channels := b.channels.set n c }

def setEntry (b : Bus) (id : String) (e : Entry) : Bus :=
  if b.entries.any (·.1 == id) then
    { b with entries := b.entries.map fun (k, v) => if k == id then (k, e) else (k, v) }
  else { b with entries := b.entries ++ [(id, e)] }

/-- The entry of a deployment, opened when there is none. -/
def openEntry (b : Bus) (id : String) : Bus × Entry :=
  match b.entry? id with
  | some e => (b, e)
  | none =>
    let e : Entry := { channel := b.channels.length }
    (Bus.setEntry { b with channels := b.channels ++ [({} : Channel)] } id e, e)

/-- Adds a message to an entry and writes it to the entry's channel. -/
def push (b : Bus) (id : String) (e : Entry) (m : ProgressMessage) : Bus :=
  let buffer := if e.buffer.length ≥ replaySize then e.buffer.drop 1 else e.buffer
  let b := b.setEntry id { e with buffer := buffer ++ [m], finished := m.isFinal }
  b.setChannel e.channel ((b.channel e.channel).send m)

/-- Publishes a message for a deployment; nothing happens once its final message came. -/
def publish (b : Bus) (id : String) (m : ProgressMessage) : Bus :=
  let (b, e) := b.openEntry id
  if e.finished then b else b.push id e { m with deploymentId := id }

/-- A subscription to an entry. -/
def follow (b : Bus) (id : String) (e : Entry) : Bus × Subscription :=
  if e.finished then (b, ⟨id, e.buffer, none, false, false⟩)
  else
    let c := b.channel e.channel
    (b.setChannel e.channel { c with receivers := c.receivers + 1 },
     ⟨id, e.buffer, some (e.channel, c.written), false, false⟩)

/-- Subscribes to a deployment, opening its entry when there is none. -/
def subscribe (b : Bus) (id : String) : Bus × Subscription :=
  let (b, e) := b.openEntry id
  b.follow id e

/-- Subscribes to a deployment that has an entry. -/
def subscribeExisting (b : Bus) (id : String) : Bus × Option Subscription :=
  match b.entry? id with
  | some e => let (b, s) := b.follow id e; (b, some s)
  | none => (b, none)

/-- Closes a deployment's entry. -/
def close (b : Bus) (id : String) (now : Instant) : Bus :=
  match b.entry? id with
  | none => b
  | some e =>
    let b := if e.finished then b else b.push id e (ProgressMessage.info id "closed" now).finished
    let b := { b with entries := b.entries.filter (·.1 != id) }
    let c := b.channel e.channel
    b.setChannel e.channel { c with closed := true }

/-- Lets go of a subscription: its channel has one receiver less. -/
def release (b : Bus) (s : Subscription) : Bus :=
  match s.live with
  | some (n, _) => let c := b.channel n; b.setChannel n { c with receivers := c.receivers - 1 }
  | none => b

end Bus

namespace Subscription

/-- The next message of a subscription, as far as it is there now. -/
def poll (s : Subscription) (b : Bus) (now : Instant) : Subscription × Poll :=
  if s.done then (s, .ended)
  else
    match s.replay with
    | m :: rest => ({ s with replay := rest, done := m.isFinal }, .message m)
    | [] =>
      match s.live with
      | none => ({ s with done := true }, .ended)
      | some (n, next) =>
        if s.cancelled then ({ s with done := true }, .ended)
        else
          let c := b.channel n
          if next < c.oldest then
            ({ s with live := some (n, c.oldest) },
             .dropped { deploymentId := s.deploymentId, payload := droppedPayload, level := .warn,
                        time := now })
          else
            match c.held[next - c.oldest]? with
            | some m => ({ s with live := some (n, next + 1), done := m.isFinal }, .message m)
            | none => if c.closed then ({ s with done := true }, .ended) else (s, .pending)

end Subscription

end Shipyard.Progress
