import Shipyard.Error
import Shipyard.Json.Basic
/-!
The error envelope of remote calls.

An envelope has a code, a message, optional string metadata (kept in ascending key order) and
an HTTP status, 400 unless said otherwise. Errors of the store, the source, the cluster and
authentication each map to an envelope: lookups keep their message under their own code,
failures without domain meaning are reported as `UNKNOWN` with a short fixed message.
-/
namespace Shipyard

/-- An error envelope. -/
structure RpcError where
  code : String
  message : String
  details : Option (List (String × String)) := none
  status : Nat := 400
  deriving Repr, DecidableEq, Inhabited

namespace RpcError

def new (code message : String) : RpcError := { code, message }

def unauthorized (message : String) : RpcError := { code := "UNAUTHORIZED", message, status := 401 }

def forbidden (message : String) : RpcError := { code := "FORBIDDEN", message, status := 403 }

def decoding (message : String) : RpcError := new "FAILED_DECODING" message

/-- Adds a metadata entry, replacing one of the same key. -/
def withMeta (e : RpcError) (key value : String) : RpcError :=
  let rec put : List (String × String) → List (String × String)
    | [] => [(key, value)]
    | (k, v) :: rest =>
      if key < k then (key, value) :: (k, v) :: rest
      else if key == k then (key, value) :: rest
      else (k, v) :: put rest
  { e with details := some (put (e.details.getD [])) }

/-- `CODE: message`. -/
def display (e : RpcError) : String := e.code ++ ": " ++ e.message

/-- The body: code, message and the metadata when there is some. -/
def body (e : RpcError) : Json :=
  .obj ([("code", .str e.code), ("message", .str e.message)] ++
    match e.details with
    | some m => [("meta", .obj (m.map fun (k, v) => (k, .str v)))]
    | none => [])

end RpcError

def StoreError.toRpc (e : StoreError) : RpcError :=
  match e with
  | .userNotFound => .new "USER_NOT_FOUND" e.message
  | .workspaceNotFound => .new "WORKSPACE_NOT_FOUND" e.message
  | .repoNotFound => .new "REPO_NOT_FOUND" e.message
  | .installationNotFound => .new "INSTALLATION_NOT_FOUND" e.message
  | .deploymentNotFound => .new "DEPLOYMENT_NOT_FOUND" e.message
  | .invalidTransition .. => .new "INVALID_REQUEST" e.message
  | .other _ => .new "UNKNOWN" "storage failure"

def SourceError.toRpc (e : SourceError) : RpcError :=
  match e with
  | .noCheckout | .severalCheckouts => .new "ONLY_BRANCH_OR_SHA_OR_TAG_ALLOWED" e.message
  | .noManifest => .new "TQ_JSON_NOT_FOUND" e.message
  | .manifestUnreadable _ | .invalidSpace _ => .new "TQ_JSON_INVALID" e.message
  | .tokenRejected d => .unauthorized d
  | .transport _ | .other _ => .new "UNKNOWN" "vcs request failed"

def ClusterError.toRpc (e : ClusterError) : RpcError :=
  match e with
  | .secretNotFound => .new "SECRET_DOESNT_EXIST" e.message
  | .noPodsRunning => .new "NO_PODS_RUNNING" e.message
  | .invalidManifest _ => .new "FAILED_DEFINE_APP" "invalid manifest"
  | .other _ => .new "UNKNOWN" "cluster request failed"

def AuthError.toRpc (e : AuthError) : RpcError :=
  match e with
  | .unauthorized d => .unauthorized d
  | .forbidden d => .forbidden d
  | .other _ => .new "UNKNOWN" "authentication failed"
  | _ => .new e.code e.message

end Shipyard
