import Shipyard.Console.Answer
import Shipyard.Space.Manifest
import Shipyard.Cluster.Name
import Shipyard.Progress.Message
import Shipyard.Workload.Stats
import Shipyard.Rpc.Error
import Shipyard.Cluster.Manifest
/-!
Commands on the platform's data: manifests, names, deployments, workloads and error envelopes.
-/
namespace Shipyard.Console

/-- `space_validate`: a manifest value checked and defaulted. -/
def spaceValidate (cmd : Json) : Json :=
  match Json.check Space.schema ((cmd.field? "space").getD .null) with
  | .error m => failure "Decode" m
  | .ok j =>
    match (Space.ofJson j).validate with
    | .ok s => .obj [("space", s.toJson)]
    | .error e => failure "InvalidSpace" e.message

/-- The answer for a source error. -/
def sourceFailure (e : SourceError) : Json := failure e.kind e.message

/-- `space_decode`: a manifest file read, checked and defaulted. -/
def spaceDecode (cmd : Json) : Json :=
  match Space.decode (text cmd "file_name") (text cmd "content") with
  | .ok s => .obj [("space", s.toJson)]
  | .error e => sourceFailure e

def namespaceName (cmd : Json) : Json :=
  .str (Cluster.namespaceName (text cmd "workspace") (text cmd "key"))

def secretObjectName (cmd : Json) : Json := .str (Cluster.secretObjectName (text cmd "repo_id"))

def buildTagOf (cmd : Json) : Json := .str (buildTag (text cmd "sha"))

def imageFullPath (cmd : Json) : Json := settle do
  let j ← typed cmd "image" Image.schema
  return .str (Image.ofJson j).fullPath

/-- The branch a deploy without an explicit revision builds: the connected one when it is set
and not empty, else the default one. -/
def deployBranchOf (connected : Option String) (dflt : String) : String :=
  match connected with
  | some b => if b.isEmpty then dflt else b
  | none => dflt

def deployBranch (cmd : Json) : Json :=
  .str (deployBranchOf (text? cmd "connected_branch") (text cmd "default_branch"))

/-- A status by name, or the answer refusing it. -/
def status (name : String) : Except Json DeploymentStatus :=
  match DeploymentStatus.ofText? name with
  | some s => .ok s
  | none => .error (failure "InvalidStatus" (DeploymentStatus.unknownMessage name))

def deploymentStatus (cmd : Json) : Json := settle do
  let s ← status (text cmd "from")
  let base := [("status", Json.str s.text), ("terminal", .bool s.isTerminal), ("json", .str s.text)]
  match cmd.field? "to" with
  | none => return .obj base
  | some t =>
    let t ← status ((t.str?).getD "")
    return .obj (base ++ [("canTransition", .bool (s.canMove t))])

def progressOutcome (now : Instant) (cmd : Json) : Json := settle do
  let s ← status (text cmd "status")
  let d : Deployment :=
    { id := text cmd "id", repoId := "", userDisplayName := "", status := s,
      error := text? cmd "error" }
  return (ProgressMessage.outcome d now).toJson

def checkout (cmd : Json) : Json :=
  match Checkout.ofParts (text cmd "branch") (text cmd "sha") (text cmd "tag") with
  | .ok c => .obj [("kind", .str c.kind), ("value", .str c.value), ("display", .str c.display),
                   ("branch", .str c.branchName), ("tag", .str c.tagName)]
  | .error .noneGiven => sourceFailure .noCheckout
  | .error .severalGiven => sourceFailure .severalCheckouts

/-- A 64-bit integer narrowed to 32 bits, wrapping. -/
def wrap32 (i : Int) : Int := (i + Int.pow 2 31) % Int.pow 2 32 - Int.pow 2 31

/-- `aggregate_workload`: the stats of a workload's pods; a desired count that is not a 64-bit
integer counts as zero. -/
def aggregate (cmd : Json) : Json :=
  let pods := ((cmd.field? "pods").bind Json.arr?).getD []
  let pods := pods.map fun p => (PodPhase.ofText? (p.fieldStr? "phase"), (p.fieldStr? "image").getD "")
  let desired := match int? cmd "desired" with
    | some i => if -Int.pow 2 63 ≤ i && i < Int.pow 2 63 then i else 0
    | none => 0
  (aggregateWorkload (text cmd "name") (wrap32 desired) pods).toJson

/-- The envelope as status and body. -/
def rpcJson (e : RpcError) : Json := .obj [("status", .ofNat e.status), ("body", e.body)]

/-- `rpc_error`: an error of a family, what it says and its envelope. -/
def rpcError (cmd : Json) : Json :=
  let msg := text cmd "message"
  let variant := text cmd "variant"
  let unknown := failure "BadInput" ("unknown " ++ text cmd "from" ++ " variant " ++ variant)
  match text cmd "from" with
  | "store" =>
    let e? : Option StoreError := match variant with
      | "UserNotFound" => some .userNotFound
      | "WorkspaceNotFound" => some .workspaceNotFound
      | "RepoNotFound" => some .repoNotFound
      | "InstallationNotFound" => some .installationNotFound
      | "DeploymentNotFound" => some .deploymentNotFound
      | "InvalidTransition" => some (.invalidTransition (text cmd "id") (text cmd "status") (text cmd "next"))
      | "Other" => some (.other (.msg msg))
      | _ => none
    match e? with
    | some e => .obj [("display", .str e.message), ("rpc", rpcJson e.toRpc)]
    | none => unknown
  | "source" =>
    let e? : Option SourceError := match variant with
      | "NoGitCheckoutSpecified" => some .noCheckout
      | "GitBranchAndShaMutuallyExclusive" => some .severalCheckouts
      | "NoTqJsonFound" => some .noManifest
      | "TqIsNotValidJson" => some (.manifestUnreadable msg)
      | "InvalidSpace" => some (.invalidSpace msg)
      | "TokenRejected" => some (.tokenRejected msg)
      | "Transport" => some (.transport msg)
      | "Other" => some (.other (.msg msg))
      | _ => none
    match e? with
    | some e => .obj [("display", .str e.message), ("transport", .bool e.isTransport),
                      ("rpc", rpcJson e.toRpc)]
    | none => unknown
  | "cluster" =>
    let e? : Option ClusterError := match variant with
      | "SecretNotFound" => some .secretNotFound
      | "NoPodsRunning" => some .noPodsRunning
      | "InvalidManifest" => some (.invalidManifest msg)
      | "Other" => some (.other (.msg msg))
      | _ => none
    match e? with
    | some e => .obj [("display", .str e.message), ("rpc", rpcJson e.toRpc)]
    | none => unknown
  | "auth" =>
    let e? : Option AuthError := match variant with
      | "Unauthorized" => some (.unauthorized msg)
      | "Forbidden" => some (.forbidden msg)
      | "InvalidSignature" => some .invalidSignature
      | "ProviderNotFound" => some (.providerNotFound msg)
      | "Other" => some (.other (.msg msg))
      | _ => none
    match e? with
    | some e => .obj [("display", .str e.message), ("code", .str e.code), ("rpc", rpcJson e.toRpc)]
    | none => unknown
  | "registry" =>
    let e? : Option RegistryError := match variant with
      | "ImageNotFound" => some .imageNotFound
      | "BuildFailed" => some (.buildFailed msg)
      | "Cancelled" => some .cancelled
      | "Transport" => some (.transport msg)
      | "Other" => some (.other (.msg msg))
      | _ => none
    match e? with
    | some e => .obj [("display", .str e.message), ("transport", .bool e.isTransport)]
    | none => unknown
  | "rpc" =>
    let metaPairs := ((cmd.field? "meta").bind Json.obj?).getD []
    let e := metaPairs.foldl (fun e (k, v) => e.withMeta k ((Json.str? v).getD ""))
      (RpcError.new variant msg)
    .obj [("display", .str e.display), ("rpc", rpcJson e)]
  | other => failure "BadInput" ("unknown error family " ++ other)

/-- `parse_manifest`: the objects of a manifest. -/
def parseManifest (cmd : Json) : Json :=
  match Cluster.parseManifest (text cmd "manifest") with
  | .ok rs => .obj [("objects", .arr (rs.map Cluster.Resource.toJson))]
  | .error e => failure e.kind e.message

/-- Text or null. -/
def textOrNull : Option String → Json
  | some s => .str s
  | none => .null

/-- `synthesize`: the manifest of a space as YAML, and the objects it reads back as. -/
def synthesize (cmd : Json) : Json := settle do
  let space ← match Json.check Space.schema ((cmd.field? "space").getD .null) with
    | .ok j => pure j
    | .error m => throw (failure "Decode" m)
  let image ← typed cmd "image" Image.schema
  let keys ← typed cmd "secret_keys" (.option (.list .string))
  let input : Cluster.ManifestInput :=
    { deploymentId := text cmd "deployment_id", repoId := text cmd "repo_id",
      workspaceName := text cmd "workspace_name", space := Space.ofJson space,
      image := Image.ofJson image, secretKeys := stringItems (some keys) }
  let settings : Cluster.Settings :=
    { ingressHost := textOr cmd "ingress_host" "localhost",
      certIssuer := textOr cmd "cert_issuer" "letsencrypt" }
  let yaml := Cluster.synthesize input settings
  let objects := match Cluster.parseManifest yaml with
    | .ok rs => rs.map fun r => .arr [.str r.kind, textOrNull r.namespace?, textOrNull r.name?]
    | .error e => [.str e.message]
  return .obj [("yaml", .str yaml), ("objects", .arr objects)]

end Shipyard.Console
