import Shipyard.Deployment.Basic
/-!
Progress messages of a deployment run.

A message carries the deployment it belongs to, a text payload, a level, whether it is the
final message of the run, an error code for failures, and the time it was made. The outcome of
a finished deployment, rebuilt from its row, is an error `DEPLOYMENT_FAILED` carrying the row's
error (or `deployment failed`) when it failed, and otherwise the info `deployment <status>`.
-/
namespace Shipyard

/-- Importance of a message. -/
inductive Level where
  | debug
  | info
  | warn
  | error
  deriving Repr, DecidableEq

def Level.text : Level → String
  | .debug => "debug"
  | .info => "info"
  | .warn => "warn"
  | .error => "error"

def Level.ofText? : String → Option Level
  | "debug" => some .debug
  | "info" => some .info
  | "warn" => some .warn
  | "error" => some .error
  | _ => none

/-- One progress message. -/
structure ProgressMessage where
  deploymentId : String
  payload : String
  level : Level
  isFinal : Bool := false
  errorCode : Option String := none
  time : Instant
  deriving Repr, DecidableEq

namespace ProgressMessage

def info (id payload : String) (time : Instant) : ProgressMessage :=
  { deploymentId := id, payload, level := .info, time }

def failure (id code payload : String) (time : Instant) : ProgressMessage :=
  { deploymentId := id, payload, level := .error, errorCode := some code, time }

/-- The same message marked final. -/
def finished (m : ProgressMessage) : ProgressMessage := { m with isFinal := true }

/-- The final message of a finished deployment, rebuilt from its row. -/
def outcome (d : Deployment) (time : Instant) : ProgressMessage :=
  match d.status with
  | .failed => (failure d.id "DEPLOYMENT_FAILED" (d.error.getD "deployment failed") time).finished
  | s => (info d.id ("deployment " ++ s.text) time).finished

/-- The exchanged form; `errorCode` only when there is one. -/
def toJson (m : ProgressMessage) : Json :=
  .obj ([("deploymentId", .str m.deploymentId), ("payload", .str m.payload),
         ("level", .str m.level.text), ("final", .bool m.isFinal)] ++
        (match m.errorCode with | some c => [("errorCode", .str c)] | none => []) ++
        [("timestamp", .str m.time.text)])

end ProgressMessage

end Shipyard
