import Shipyard.Cluster.Name
import Shipyard.Cluster.Object
import Shipyard.Deployment.Basic
import Shipyard.Yaml.Writer
/-!
The manifest of a deployment: five objects that run a space's service, in the order they are
applied.

* the namespace, named from the workspace and the space key (`namespaceName`);
* the secret object of the repository (`secretObjectName`), empty, of type `Opaque`;
* the deployment: the service's replica count, and one container running the image with the
  service's port as `http`, the runtime variables (in key order, then one per secret key read
  from the secret object) and the same compute for requests and limits (`m` of CPU, `Mi` of
  memory, `Gi` of ephemeral storage); its pods carry the deployment id as an annotation;
* the service, on port 80 to the service's port;
* the ingress for `<key label>.<ingress host>` with TLS from the cluster's certificate issuer.

Every object but the namespace lives in the namespace and carries the label `tq/name` with the
service name. Counts and ports are written as signed 32-bit words, so a count from 2^31 on
wraps below zero. Each object is written as its own YAML document and the documents are joined
by `---` lines.
-/
namespace Shipyard.Cluster

/-- Settings of the cluster that every manifest uses. -/
structure Settings where
  ingressHost : String := "localhost"
  certIssuer : String := "letsencrypt"

/-- What a manifest is made from. -/
structure ManifestInput where
  deploymentId : String
  repoId : String
  workspaceName : String
  space : Space
  image : Image
  secretKeys : List String

/-- The label that names the service of an object. -/
def nameLabel : String := "tq/name"

/-- The annotation of a pod that names its deployment. -/
def deploymentKey : String := "treenq.dev/deployment-id"

/-- The port services listen on. -/
def servicePort : Json := .ofNat 80

/-- A word as a signed 32-bit number. -/
def signed32 (w : UInt32) : Json :=
  .ofInt (if w.toNat < Nat.pow 2 31 then (w.toNat : Int) else (w.toNat : Int) - Int.pow 2 32)

/-- An object's head: its API version, kind and metadata. -/
def objectHead (apiVersion kind : String) (metadata : Json) : List (String × Json) :=
  [("apiVersion", .str apiVersion), ("kind", .str kind), ("metadata", metadata)]

namespace ManifestInput

variable (m : ManifestInput)

def service : Service := m.space.service

def targetNamespace : String := namespaceName m.workspaceName m.space.key

def secretName : String := secretObjectName m.repoId

def labels : Json := .obj [(nameLabel, .str m.service.name)]

/-- Metadata of an object in the namespace. -/
def metadata (name : String) : Json :=
  .obj [("labels", m.labels), ("name", .str name), ("namespace", .str m.targetNamespace)]

def namespaceObject : Json := .obj (objectHead "v1" "Namespace" (.obj [("name", .str m.targetNamespace)]))

def secretObject : Json :=
  .obj ([("apiVersion", .str "v1"), ("kind", .str "Secret"), ("data", .obj []),
    ("metadata", m.metadata m.secretName), ("type", .str "Opaque")])

/-- The container's variables: the runtime ones, then one per secret key. -/
def env : List Json :=
  m.service.runtimeEnvs.map (fun (k, v) => .obj [("name", .str k), ("value", .str v)]) ++
  m.secretKeys.map fun k =>
    .obj [("name", .str k),
          ("valueFrom", .obj [("secretKeyRef", .obj [("key", .str k), ("name", .str m.secretName)])])]

/-- The compute of a replica, for both requests and limits. -/
def resources : Json :=
  let c := m.service.compute
  .obj [("cpu", .str (Decimal.natText c.cpuMillis.toNat ++ "m")),
        ("ephemeral-storage", .str (Decimal.natText c.diskGiB.toNat ++ "Gi")),
        ("memory", .str (Decimal.natText c.memoryMiB.toNat ++ "Mi"))]

def container : Json :=
  let env := m.env
  .obj ((if env.isEmpty then [] else [("env", .arr env)]) ++
    [("image", .str m.image.fullPath),
     ("imagePullPolicy", .str "Always"),
     ("name", .str m.service.name),
     ("ports", .arr [.obj [("containerPort", signed32 m.service.httpPort), ("name", .str "http"),
                           ("protocol", .str "TCP")]]),
     ("resources", .obj [("limits", m.resources), ("requests", m.resources)])])

def deploymentObject : Json :=
  .obj (objectHead "apps/v1" "Deployment" (m.metadata m.service.name) ++
    [("spec", .obj [
      ("replicas", signed32 m.service.replicas),
      ("selector", .obj [("matchLabels", m.labels)]),
      ("template", .obj [
        ("metadata", .obj [("annotations", .obj [(deploymentKey, .str m.deploymentId)]),
                           ("labels", m.labels)]),
        ("spec", .obj [("containers", .arr [m.container])])])])])

def serviceObject : Json :=
  .obj (objectHead "v1" "Service" (m.metadata m.service.name) ++
    [("spec", .obj [
      ("ports", .arr [.obj [("name", .str "http"), ("port", servicePort), ("protocol", .str "TCP"),
                            ("targetPort", signed32 m.service.httpPort)]]),
      ("selector", m.labels),
      ("type", .str "ClusterIP")])])

/-- The host the ingress serves. -/
def host (s : Settings) : String := dnsLabel m.space.key ++ "." ++ s.ingressHost

def ingressObject (s : Settings) : Json :=
  let metadata := .obj [("annotations", .obj [("cert-manager.io/cluster-issuer", .str s.certIssuer)]),
    ("labels", m.labels), ("name", .str "ingress"), ("namespace", .str m.targetNamespace)]
  let backend := .obj [("service", .obj [("name", .str m.service.name),
    ("port", .obj [("number", servicePort)])])]
  .obj (objectHead "networking.k8s.io/v1" "Ingress" metadata ++
    [("spec", .obj [
      ("rules", .arr [.obj [("host", .str (m.host s)),
        ("http", .obj [("paths", .arr [.obj [("backend", backend), ("path", .str "/"),
                                             ("pathType", .str "Prefix")]])])]]),
      ("tls", .arr [.obj [("hosts", .arr [.str (m.host s)]),
                          ("secretName", .str (m.targetNamespace ++ "-tls"))]])])])

/-- The objects of the manifest, in the order they are applied. -/
def objects (s : Settings) : List Json :=
  [m.namespaceObject, m.secretObject, m.deploymentObject, m.serviceObject, m.ingressObject s]

end ManifestInput

/-- The manifest as YAML: each object one document, joined by `---` lines. -/
def synthesize (m : ManifestInput) (s : Settings) : String :=
  "---\n".intercalate ((m.objects s).map Yaml.writeDocument)

end Shipyard.Cluster
