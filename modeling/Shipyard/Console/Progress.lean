import Shipyard.Console.Answer
import Shipyard.Progress.Bus
import Shipyard.Text.Escape
/-!
# A session on the progress bus

Steps publish, subscribe (subscriptions are named by `as`), receive what is ready, cancel,
close and count entries, on one bus.
-/
namespace Shipyard.Console

open Shipyard.Progress

/-- The bus and the named subscriptions. -/
structure BusSession where
  bus : Bus := {}
  subs : List (String × Subscription) := []

namespace BusSession

/-- Keeps a subscription under a name, letting go of the one it replaces. -/
def keep (s : BusSession) (name : String) (sub : Subscription) : BusSession :=
  let bus := match s.subs.lookup name with
    | some old => s.bus.release old
    | none => s.bus
  { bus, subs := (s.subs.filter (·.1 != name)) ++ [(name, sub)] }

/-- A message as a step shows it: without its time. -/
def messageJson (m : ProgressMessage) : Json := m.toJson.erase "timestamp"

/-- Takes what a subscription has ready, at most `max` messages. -/
def drain (b : Bus) (now : Instant) : Nat → Subscription → List Json → Subscription × List Json × String
  | 0, sub, acc => (sub, acc, "max")
  | k + 1, sub, acc =>
    match sub.poll b now with
    | (sub, .message m) | (sub, .dropped m) => drain b now k sub (acc ++ [messageJson m])
    | (sub, .ended) => (sub, acc, "ended")
    | (sub, .pending) => (sub, acc, "pending")

def lenJson (s : BusSession) : Json := .obj [("len", .ofNat s.bus.size)]

/-- One step and its answer. -/
def step (now : Instant) (s : BusSession) (cmd : Json) : BusSession × Json :=
  let id := text cmd "id"
  match text cmd "do" with
  | "publish" =>
    let level := textOr cmd "level" "info"
    match Level.ofText? level with
    | none => (s, failure "BadInput" ("unknown level " ++ Text.debugQuote level))
    | some lv =>
      let count := min 2000 (max 1 ((int? cmd "repeat").getD 1)).toNat
      let final := flag cmd "final"
      let payload := text cmd "payload"
      let bus := (List.range count).foldl (fun bus i =>
        let m : ProgressMessage :=
          { deploymentId := text cmd "msg_id", level := lv, errorCode := text? cmd "error_code",
            payload := if count > 1 then payload ++ toString i else payload,
            isFinal := final && i + 1 == count, time := now }
        bus.publish id m) s.bus
      let s := { s with bus }
      (s, s.lenJson)
  | "subscribe" =>
    let (bus, sub) := s.bus.subscribe id
    let s := { s with bus }.keep (text cmd "as") sub
    (s, .obj [("subscribed", .bool true), ("len", .ofNat s.bus.size)])
  | "subscribe_existing" =>
    match s.bus.subscribeExisting id with
    | (bus, some sub) =>
      let s := { s with bus }.keep (text cmd "as") sub
      (s, .obj [("subscribed", .bool true), ("len", .ofNat s.bus.size)])
    | (bus, none) => ({ s with bus }, .obj [("subscribed", .bool false), ("len", .ofNat bus.size)])
  | "recv" =>
    let name := text cmd "sub"
    match s.subs.lookup name with
    | none => (s, failure "UnknownSubscription" name)
    | some sub =>
      let max := ((int? cmd "max").getD 1000).toNat
      let (sub, messages, ending) := drain s.bus now max sub []
      ({ s with subs := s.subs.map fun (k, v) => if k == name then (k, sub) else (k, v) },
       .obj [("messages", .arr messages), ("end", .str ending)])
  | "cancel" =>
    let name := text cmd "sub"
    match s.subs.lookup name with
    | none => (s, failure "UnknownSubscription" name)
    | some _ =>
      ({ s with subs := s.subs.map fun (k, v) => if k == name then (k, { v with cancelled := true }) else (k, v) },
       .obj [("cancelled", .bool true)])
  | "close" => let s := { s with bus := s.bus.close id now }; (s, s.lenJson)
  | "len" => (s, .obj [("len", .ofNat s.bus.size), ("empty", .bool (s.bus.size == 0))])
  | other => (s, failure "UnknownStep" other)

end BusSession

/-- `progress_bus`: the answers of the steps, in order. -/
def progressBus (now : Instant) (cmd : Json) : Json :=
  let steps := ((cmd.field? "steps").bind Json.arr?).getD []
  let (_, answers) := steps.foldl (fun (s, acc) st => let (s, a) := s.step now st; (s, acc ++ [a]))
    (({} : BusSession), ([] : List Json))
  .obj [("steps", .arr answers)]

end Shipyard.Console
