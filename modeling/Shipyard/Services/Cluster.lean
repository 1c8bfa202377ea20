import Shipyard.Cluster.Object
import Shipyard.Workload.Stats
import Shipyard.Progress.Message
/-!
# The cluster, in memory

The cluster holds objects, each under its kind, namespace (empty for objects outside any
namespace) and name, and secret values, kept per namespace and repository.

Applying a manifest reads its objects in order. An object not held yet is created. One already
held is replaced, unless it is a `Secret` or a `Namespace`, which is kept as it is. The report
counts the objects created, updated and kept; applying fails with a message when set to.

Removing a namespace drops the objects in it and the object named after it, and is recorded.
The workload of a namespace is healthy with one running pod as soon as the namespace holds a
`Deployment`; without one no pods run. Following the logs of a namespace gives one line,
`listening on :8080`, and ends.
-/
namespace Shipyard.Services

open Shipyard.Cluster

/-- An object the cluster holds. -/
structure Placed where
  kind : String
  ns : String
  name : String
  body : Json

/-- What applying a manifest did. -/
structure ApplyReport where
  created : Nat := 0
  updated : Nat := 0
  kept : Nat := 0
  deriving Repr, DecidableEq

def ApplyReport.toJson (r : ApplyReport) : Json :=
  .obj [("created", .ofNat r.created), ("updated", .ofNat r.updated), ("kept", .ofNat r.kept)]

/-- The secret values of a repository in a namespace. -/
structure SecretSet where
  ns : String
  repo : String
  values : List (String × String) := []

/-- The cluster. -/
structure Cluster where
  objects : List Placed := []
  secrets : List SecretSet := []
  removedNamespaces : List String := []
  applies : Nat := 0
  reports : List ApplyReport := []
  failApply : Option String := none

/-- Kinds of object that applying keeps once they exist. -/
def keptKinds : List String := ["Secret", "Namespace"]

/-- A key-value list with one key set, in ascending key order. -/
def putSorted (k v : String) : List (String × String) → List (String × String)
  | [] => [(k, v)]
  | (k', v') :: rest =>
    if k < k' then (k, v) :: (k', v') :: rest
    else if k == k' then (k, v) :: rest
    else (k', v') :: putSorted k v rest

namespace Cluster

/-- Places one object, telling how. -/
def place (c : Cluster) (r : Resource) : Cluster × ApplyReport :=
  let p : Placed := ⟨r.kind, r.namespace?.getD "", r.name?.getD "", r.toJson⟩
  let same := fun (q : Placed) => q.kind == p.kind && q.ns == p.ns && q.name == p.name
  if c.objects.any same then
    if keptKinds.contains p.kind then (c, { kept := 1 })
    else ({ c with objects := c.objects.map fun q => if same q then p else q }, { updated := 1 })
  else ({ c with objects := c.objects ++ [p] }, { created := 1 })

/-- Applies a manifest. -/
def apply (c : Cluster) (manifest : String) : Except ClusterError (Cluster × ApplyReport) := do
  if let some m := c.failApply then throw (.other (.msg m))
  let objects ← parseManifest manifest
  let (c, report) := objects.foldl (fun (acc : Cluster × ApplyReport) r =>
    let (c, one) := acc.1.place r
    (c, { created := acc.2.created + one.created, updated := acc.2.updated + one.updated,
          kept := acc.2.kept + one.kept })) (c, {})
  return ({ c with applies := c.applies + 1, reports := c.reports ++ [report] }, report)

/-- The secret values of a repository in a namespace. -/
def secretValues (c : Cluster) (ns repo : String) : List (String × String) :=
  ((c.secrets.find? fun s => s.ns == ns && s.repo == repo).map (·.values)).getD []

/-- Keeps a secret value. -/
def storeSecret (c : Cluster) (ns repo key value : String) : Cluster :=
  if c.secrets.any fun s => s.ns == ns && s.repo == repo then
    { c with secrets := c.secrets.map fun s =>
        if s.ns == ns && s.repo == repo then { s with values := putSorted key value s.values } else s }
  else { c with secrets := c.secrets ++ [⟨ns, repo, [(key, value)]⟩] }

/-- A secret value. -/
def getSecret (c : Cluster) (ns repo key : String) : Except ClusterError String :=
  match (c.secretValues ns repo).lookup key with
  | some v => .ok v
  | none => .error .secretNotFound

/-- Drops a secret value. -/
def removeSecret (c : Cluster) (ns repo key : String) : Except ClusterError Cluster :=
  if ((c.secretValues ns repo).lookup key).isSome then
    .ok { c with secrets := c.secrets.map fun s =>
      if s.ns == ns && s.repo == repo then { s with values := s.values.filter (·.1 != key) } else s }
  else .error .secretNotFound

/-- The workload running in a namespace. -/
def workloadStats (c : Cluster) (ns : String) : Except ClusterError WorkloadStats :=
  if c.objects.any fun p => p.kind == "Deployment" && p.ns == ns then
    .ok (aggregateWorkload ns 1 [(.running, "registry.test/app:abc")])
  else .error .noPodsRunning

/-- Removes a namespace and what it holds. -/
def removeNamespace (c : Cluster) (ns : String) : Cluster :=
  { c with objects := c.objects.filter (fun p => p.ns != ns && p.name != ns),
           removedNamespaces := c.removedNamespaces ++ [ns] }

/-- The log lines of the service in a namespace, carrying `streamId`: this cluster follows
one line in every namespace. -/
def logs (_ns streamId : String) (now : Instant) : List ProgressMessage :=
  [ProgressMessage.info streamId "listening on :8080" now]

end Cluster

end Shipyard.Services
