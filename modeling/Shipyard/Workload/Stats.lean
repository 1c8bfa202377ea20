import Shipyard.Json.Basic
import Shipyard.Text.Split
/-!
Workload statistics: pods counted by phase and by image version.

Each pod contributes one to the count of its phase (`Running`, `Pending`, anything else counts
as failed) overall and under its version, the text after the last `:` of its image (`latest`
when there is none). Versions are listed in ascending order. The workload is failing when a pod
failed, degraded when one is pending or fewer run than desired, and healthy otherwise.
-/
namespace Shipyard

/-- The phase of a pod as the statistics see it. -/
inductive PodPhase where
  | running
  | pending
  | failed
  deriving Repr, DecidableEq

/-- `Running` and `Pending` are themselves; every other phase, or none, counts as failed. -/
def PodPhase.ofText? : Option String → PodPhase
  | some "Running" => .running
  | some "Pending" => .pending
  | _ => .failed

/-- Pods per phase. -/
structure PhaseCounts where
  running : Int := 0
  pending : Int := 0
  failed : Int := 0
  deriving Repr, DecidableEq

def PhaseCounts.add (c : PhaseCounts) : PodPhase → PhaseCounts
  | .running => { c with running := c.running + 1 }
  | .pending => { c with pending := c.pending + 1 }
  | .failed => { c with failed := c.failed + 1 }

def PhaseCounts.toJson (c : PhaseCounts) : Json :=
  .obj [("running", .ofInt c.running), ("pending", .ofInt c.pending), ("failed", .ofInt c.failed)]

/-- Overall health. -/
inductive Health where
  | healthy
  | degraded
  | failing
  deriving Repr, DecidableEq

def Health.text : Health → String
  | .healthy => "healthy"
  | .degraded => "degraded"
  | .failing => "failing"

/-- Statistics of one workload. -/
structure WorkloadStats where
  name : String
  desired : Int
  counts : PhaseCounts
  versions : List (String × PhaseCounts)
  health : Health
  deriving Repr, DecidableEq

/-- The version of an image: the text after its last `:`, or `latest`. -/
def imageVersion (image : String) : String :=
  match Text.splitLastChar image ':' with
  | some (_, tag) => tag
  | none => "latest"

/-- Adds a pod to the version table kept in ascending version order. -/
def bumpVersion (v : String) (p : PodPhase) : List (String × PhaseCounts) → List (String × PhaseCounts)
  | [] => [(v, PhaseCounts.add {} p)]
  | (w, c) :: rest =>
    if v < w then (v, PhaseCounts.add {} p) :: (w, c) :: rest
    else if v == w then (w, c.add p) :: rest
    else (w, c) :: bumpVersion v p rest

/-- Aggregates pod phases and images. -/
def aggregateWorkload (name : String) (desired : Int) (pods : List (PodPhase × String)) :
    WorkloadStats :=
  let counts := pods.foldl (fun c (p, _) => c.add p) {}
  let versions := pods.foldl (fun vs (p, img) => bumpVersion (imageVersion img) p vs) []
  let health :=
    if counts.failed > 0 then Health.failing
    else if counts.pending > 0 || counts.running < desired then .degraded
    else .healthy
  { name, desired, counts, versions, health }

def WorkloadStats.toJson (s : WorkloadStats) : Json :=
  .obj [("name", .str s.name),
        ("replicas", .obj [("desired", .ofInt s.desired), ("running", .ofInt s.counts.running),
                           ("pending", .ofInt s.counts.pending), ("failed", .ofInt s.counts.failed)]),
        ("versions", .arr (s.versions.map fun (v, c) => .obj [("version", .str v), ("replicas", c.toJson)])),
        ("overallStatus", .str s.health.text)]

end Shipyard
