import Shipyard.Console.Model
import Shipyard.Console.Session
import Shipyard.Console.Settings
import Shipyard.Console.Progress
import Shipyard.Console.Store
import Shipyard.Console.App
import Shipyard.Api.Catalog
import Shipyard.Console.Redact
import Shipyard.Json.Text
/-!
The console: one JSON command per line, one JSON answer per line.

A command names its operation in `op`. A line that is not JSON answers `BadInput`, an unknown
operation `UnknownOp`. Answers are redacted (see `Redaction`) and written compactly with object
keys in ascending order.
-/
namespace Shipyard.Console

/-- What the console runs with: its keys and the time its clock starts at. -/
structure Setup where
  keys : Keys
  start : Instant := Instant.ofSeconds 1767225600

/-- The answer to one command, before redaction. -/
def answer (setup : Setup) (cmd : Json) : Json :=
  let op := text cmd "op"
  match op with
  | "space_decode" => spaceDecode cmd
  | "space_validate" => spaceValidate cmd
  | "parse_manifest" => parseManifest cmd
  | "synthesize" => synthesize cmd
  | "namespace_name" => namespaceName cmd
  | "secret_object_name" => secretObjectName cmd
  | "build_tag" => buildTagOf cmd
  | "image_full_path" => imageFullPath cmd
  | "deploy_branch" => deployBranch cmd
  | "deployment_status" => deploymentStatus cmd
  | "progress_outcome" => progressOutcome setup.start cmd
  | "checkout" => checkout cmd
  | "aggregate_workload" => aggregate cmd
  | "rpc_error" => rpcError cmd
  | "webhook_plan" => webhookPlan cmd
  | "sign_payload" => signPayload cmd
  | "verify_payload" => verifyPayload cmd
  | "jwt_verify" => jwtVerify setup.keys setup.start cmd
  | "jwt_craft_verify" => jwtCraftVerify setup.keys setup.start cmd
  | "jwt_issue_verify" => jwtIssueVerify setup.keys setup.start cmd
  | "jwt_new" => jwtNew setup.keys cmd
  | "claim_str" => claimStr cmd
  | "secret_key_valid" => secretKeyValid cmd
  | "read_cookie" => readCookieOf cmd
  | "parse_providers" => parseProvidersOf cmd
  | "parse_duration" => parseDurationOf cmd
  | "load_key" => loadKeyOf cmd
  | "registry_auth" => registryAuthOf cmd
  | "registry_image" => registryImageOf cmd
  | "oauth_authorize_url" => oauthAuthorizeUrl cmd
  | "config" => configOf cmd
  | "progress_bus" => progressBus setup.start cmd
  | "store" => storeSession setup.start cmd
  | "migrate" => migrateSession cmd
  | "app" => appSession setup.keys setup.start cmd
  | "schema" => Api.catalog
  | _ => failure "UnknownOp" ("unknown op " ++ Json.quote op)

/-- Answers one line of input. -/
def answerLine (setup : Setup) (line : String) : String :=
  match Json.readText .any line with
  | .error m => Json.render (failure "BadInput" ("invalid JSON line: " ++ m)).sortKeys
  | .ok cmd => Json.render ((default : Redaction).answer (answer setup cmd)).1

end Shipyard.Console
