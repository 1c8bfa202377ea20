import Shipyard.Json.Basic
/-!
# The API catalog

The catalog describes the API for client generators: every operation with its method, path,
whether it takes a bearer token, and the JSON Schemas of its request and answer; and every named
type the operations exchange, as a component that other schemas refer to by name.

A property's shape is a text (perhaps a date-time, perhaps nullable), a flag, an integer of 32 or
64 bits (perhaps unsigned, perhaps nullable), a reference to a named type (perhaps nullable), a
list, or a map from texts to texts. A named type is a record of properties, some of them
required, an enumeration of texts, or an object of any content.
-/
namespace Shipyard.Api

/-- The shape of a property. -/
inductive Shape where
  | text
  | dateTime
  | optText
  | flag
  | int32
  | uint32
  | int64
  | optInt64
  | ref (name : String)
  | optRef (name : String)
  | list (item : Shape)
  | textMap
  /-- A shape with a default value. -/
  | withDefault (s : Shape) (d : Json)
  /-- A shape with a description. -/
  | described (s : Shape) (description : String)

/-- Where components are referred to from. -/
def refPrefix : String := "#/components/schemas/"

/-- The JSON Schema of a shape. -/
def Shape.toJson : Shape → Json
  | .text => .obj [("type", .str "string")]
  | .dateTime => .obj [("type", .str "string"), ("format", .str "date-time")]
  | .optText => .obj [("type", Json.ofStrings ["string", "null"])]
  | .flag => .obj [("type", .str "boolean")]
  | .int32 => .obj [("type", .str "integer"), ("format", .str "int32")]
  | .uint32 => .obj [("type", .str "integer"), ("format", .str "int32"), ("minimum", .ofNat 0)]
  | .int64 => .obj [("type", .str "integer"), ("format", .str "int64")]
  | .optInt64 => .obj [("type", Json.ofStrings ["integer", "null"]), ("format", .str "int64")]
  | .ref n => .obj [("$ref", .str (refPrefix ++ n))]
  | .optRef n => .obj [("oneOf", .arr [.obj [("type", .str "null")], .obj [("$ref", .str (refPrefix ++ n))]])]
  | .list item => .obj [("type", .str "array"), ("items", item.toJson)]
  | .textMap =>
    .obj [("type", .str "object"), ("additionalProperties", .obj [("type", .str "string")]),
          ("propertyNames", .obj [("type", .str "string")])]
  | .withDefault s d => (s.toJson).set "default" d
  | .described s note => (s.toJson).set "description" (.str note)

/-- A property of a record. -/
structure Property where
  name : String
  shape : Shape
  required : Bool := true

/-- A required property. -/
def req (name : String) (shape : Shape) : Property := { name, shape }

/-- A property that may be left out. -/
def opt (name : String) (shape : Shape) : Property := { name, shape, required := false }

/-- A named type. -/
inductive TypeSchema where
  | record (properties : List Property) (description : Option String := none)
  | enum (values : List String)
  /-- An object of any content. -/
  | anything (description : String)

/-- The JSON Schema of a named type. -/
def TypeSchema.toJson : TypeSchema → Json
  | .record props description =>
    let required := (props.filter (·.required)).map (·.name)
    .obj ([("type", .str "object"), ("properties", .obj (props.map fun p => (p.name, p.shape.toJson)))] ++
      (if required.isEmpty then [] else [("required", Json.ofStrings required)]) ++
      (match description with | some d => [("description", .str d)] | none => []))
  | .enum values => .obj [("type", .str "string"), ("enum", Json.ofStrings values)]
  | .anything d => .obj [("type", .str "object"), ("description", .str d)]

/-- The named types of the API. -/
def components : List (String × TypeSchema) :=
  let text := fun n => req n .text
  let repoRequest : TypeSchema := .record [text "repoId"]
  let deploymentRequest : TypeSchema := .record [text "deploymentId"]
  let deployment : TypeSchema := .record [req "deployment" (.ref "AppDeployment")]
  let progress : TypeSchema :=
    .record [text "deploymentId", text "payload", req "level" (.ref "Level"), req "final" .flag,
             opt "errorCode" .optText, req "timestamp" .dateTime]
  [("AccessTokenResponse", .record [text "accessToken"]),
   ("AppDeployment", .record
     [text "id", text "repoId", req "space" (.ref "Space"), text "sha", text "buildTag",
      text "branch", text "tag", text "message", text "userDisplayName",
      req "status" (.ref "DeploymentStatus"), opt "error" .optText,
      opt "rolledBackFromId" .optText, req "createdAt" .dateTime, req "updatedAt" .dateTime]),
   ("AuthCallbackQuery", .record [opt "code" .text, opt "state" .text]),
   ("BuildProgressQuery", deploymentRequest),
   ("ComputationResource", .record
     [opt "cpuMillis" .uint32, opt "memoryMiB" .uint32, opt "diskGiB" .uint32]),
   ("ConnectBranchRequest", .record [text "repoId", text "branch"]),
   ("ConnectBranchResponse", .record [req "repo" (.ref "Repository")]),
   ("DeployRequestBody", .record
     (["repoId", "branch", "sha", "tag", "fromDeploymentId"].map fun n =>
       opt n (.withDefault .text (.str "")))),
   ("DeploymentHistoryItem", .record
     [text "id", text "repoId", req "status" (.ref "DeploymentStatus"), text "commitHash",
      text "buildTag", text "message", req "timestamp" .dateTime, text "userDisplayName",
      opt "rolledBackFromId" .optText]
     (some "Row shape returned by `getDeploymentHistory`.")),
   ("DeploymentRequest", deploymentRequest),
   ("DeploymentResponse", deployment),
   ("DeploymentStatus", .enum
     ["init", "cloning", "building", "deploying", "done", "failed", "rolledBack"]),
   ("Empty", .anything
     "Input/output of operations that carry no data. Deserializes from any\nJSON value."),
   ("GetBranchesRequest", .record [text "repoId", opt "fresh" .flag]),
   ("GetBranchesResponse", .record [req "branches" (.list .text)]),
   ("GetDeploymentHistoryResponse", .record [req "history" (.list (.ref "DeploymentHistoryItem"))]),
   ("GetDeploymentsResponse", .record [req "deployments" (.list (.ref "AppDeployment"))]),
   ("GetProfileResponse", .record [req "userInfo" (.ref "UserInfo"), opt "workspace" (.optRef "Workspace")]),
   ("GetReposResponse", .record [req "installation" .flag, req "repos" (.list (.ref "Repository"))]),
   ("GetSecretsResponse", .record [req "keys" (.list .text)]),
   ("GetWorkloadStatsResponse", .record [req "workloadStats" (.ref "WorkloadStats")]),
   ("InfoResponse", .record [text "version"]),
   ("Level", .enum ["debug", "info", "warn", "error"]),
   ("LoginQuery", .record [opt "provider" .text]),
   ("LogsQuery", repoRequest),
   ("OverallStatus", .enum ["healthy", "degraded", "failing"]),
   ("ProgressMessage", progress),
   ("RemoveSecretRequest", .record [text "repoId", text "key"]),
   ("ReplicaCounts", .record
     [req "desired" .int32, req "running" .int32, req "pending" .int32, req "failed" .int32]),
   ("RepoRequest", repoRequest),
   ("Repository", .record
     [text "id", req "installationId" .int64, req "vcsId" .int64, text "fullName",
      text "defaultBranch", req "private" .flag, opt "connectedBranch" .optText,
      opt "webhookId" .optInt64, req "connected" .flag, opt "workspaceId" .optText]),
   ("RevealSecretsRequest", .record [text "repoId", req "keys" (.list .text)]),
   ("RevealSecretsResponse", .record [req "values" .textMap]),
   ("Service", .record
     [opt "name" .text, opt "dockerfilePath" .text, opt "dockerContext" .text,
      opt "httpPort" .uint32, opt "replicas" .uint32,
      opt "computationResource" (.ref "ComputationResource"), opt "buildEnvs" .textMap,
      opt "runtimeEnvs" .textMap, opt "buildSecrets" (.list .text),
      opt "runtimeSecrets" (.list .text)]),
   ("SetSecretRequest", .record [text "repoId", text "key", text "value"]),
   ("Space", .record
     [opt "key" (.described .text
        "Scope key of the space; assigned from the repository id at deploy time."),
      opt "region" .text, opt "version" .text, req "service" (.ref "Service")]),
   ("UserInfo", .record
     [text "id", text "email", text "displayName", opt "currentWorkspace" .text]),
   ("VersionInfo", .record [text "version", req "replicas" (.ref "VersionReplicas")]),
   ("VersionReplicas", .record [req "running" .int32, req "pending" .int32, req "failed" .int32]),
   ("WorkloadStats", .record
     [text "name", req "replicas" (.ref "ReplicaCounts"), req "versions" (.list (.ref "VersionInfo")),
      req "overallStatus" (.ref "OverallStatus")]),
   ("Workspace", .record [text "id", text "name"])]

/-- An operation: its name, method, whether it takes a bearer token, and the named types of its
request and answer. -/
structure Operation where
  name : String
  method : String := "POST"
  bearer : Bool := true
  input : String
  output : String

/-- The operations, in the order they are served. -/
def operations : List Operation :=
  [{ name := "info", input := "Empty", output := "InfoResponse" },
   { name := "getProfile", input := "Empty", output := "GetProfileResponse" },
   { name := "getRepos", input := "Empty", output := "GetReposResponse" },
   { name := "getBranches", input := "GetBranchesRequest", output := "GetBranchesResponse" },
   { name := "syncGithubApp", input := "Empty", output := "GetReposResponse" },
   { name := "connectRepoBranch", input := "ConnectBranchRequest", output := "ConnectBranchResponse" },
   { name := "deploy", input := "DeployRequestBody", output := "DeploymentResponse" },
   { name := "getDeployment", input := "DeploymentRequest", output := "DeploymentResponse" },
   { name := "getDeployments", input := "RepoRequest", output := "GetDeploymentsResponse" },
   { name := "getDeploymentHistory", input := "RepoRequest",
     output := "GetDeploymentHistoryResponse" },
   { name := "rollbackDeployment", input := "DeploymentRequest", output := "DeploymentResponse" },
   { name := "getSecrets", input := "RepoRequest", output := "GetSecretsResponse" },
   { name := "revealSecrets", input := "RevealSecretsRequest", output := "RevealSecretsResponse" },
   { name := "setSecret", input := "SetSecretRequest", output := "Empty" },
   { name := "removeSecret", input := "RemoveSecretRequest", output := "Empty" },
   { name := "getWorkloadStats", input := "RepoRequest", output := "GetWorkloadStatsResponse" },
   { name := "logout", input := "Empty", output := "Empty" },
   { name := "getBuildProgress", method := "GET", input := "BuildProgressQuery",
     output := "ProgressMessage" },
   { name := "getLogs", method := "GET", input := "LogsQuery", output := "ProgressMessage" },
   { name := "auth", method := "GET", bearer := false, input := "Empty", output := "Empty" },
   { name := "authCallback", method := "GET", bearer := false, input := "AuthCallbackQuery",
     output := "AccessTokenResponse" },
   { name := "login", method := "GET", bearer := false, input := "LoginQuery", output := "Empty" }]

/-- The schema of a named type, written out. -/
def schemaOf (name : String) : Json :=
  ((components.lookup name).map TypeSchema.toJson).getD .null

/-- An operation as the catalog lists it. -/
def Operation.toJson (op : Operation) : Json :=
  .obj [("operationId", .str op.name), ("method", .str op.method), ("path", .str ("/" ++ op.name)),
        ("bearer", .bool op.bearer), ("input", schemaOf op.input), ("output", schemaOf op.output)]

/-- The catalog: the operations in order, and the named types by name. -/
def catalog : Json :=
  .obj [("operations", .arr (operations.map Operation.toJson)),
        ("components", .obj (components.map fun (n, s) => (n, s.toJson)))]

end Shipyard.Api
