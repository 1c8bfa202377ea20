import Shipyard.Schema.Basic
/-!
The service manifest ("space") a repository ships at its root.

A space names one service: its name and HTTP port, where its Dockerfile and build context
are, how many replicas run, the compute each replica gets, environment variables for the build
and for the runtime (kept in ascending key order), and the names of secrets to expose. All
counts are 32-bit words, as the manifest format declares them. Every member may be omitted
except the service itself; `Space.schema` says so, and also that the three compute figures may
be written under older names (`cpuUnits`, `memoryMibs`, `diskGibs`).
-/
namespace Shipyard

/-- Compute given to each replica. -/
structure Resources where
  cpuMillis : UInt32 := 0
  memoryMiB : UInt32 := 0
  diskGiB : UInt32 := 0
  deriving Repr, DecidableEq

/-- The one service a space declares. -/
structure Service where
  name : String := ""
  dockerfilePath : String := ""
  dockerContext : String := ""
  httpPort : UInt32 := 0
  replicas : UInt32 := 0
  compute : Resources := {}
  buildEnvs : List (String × String) := []
  runtimeEnvs : List (String × String) := []
  buildSecrets : List String := []
  runtimeSecrets : List String := []
  deriving Repr, DecidableEq

/-- A service manifest. -/
structure Space where
  key : String := ""
  region : String := ""
  version : String := ""
  service : Service := {}
  deriving Repr, DecidableEq

namespace Resources

def toJson (r : Resources) : Json :=
  .obj [("cpuMillis", .ofNat r.cpuMillis.toNat), ("memoryMiB", .ofNat r.memoryMiB.toNat),
        ("diskGiB", .ofNat r.diskGiB.toNat)]

def schema : Schema :=
  .record "ComputationResource"
    [Schema.opt "cpuMillis" (.nat 32) (.ofNat 0) ["cpuUnits"],
     Schema.opt "memoryMiB" (.nat 32) (.ofNat 0) ["memoryMibs"],
     Schema.opt "diskGiB" (.nat 32) (.ofNat 0) ["diskGibs"]]

/-- A word from a checked value. -/
def word (j : Option Json) : UInt32 := ((j.bind Json.int?).getD 0).toNat.toUInt32

def ofJson (j : Json) : Resources :=
  { cpuMillis := word (j.field? "cpuMillis"), memoryMiB := word (j.field? "memoryMiB"),
    diskGiB := word (j.field? "diskGiB") }

end Resources

/-- String pairs of a checked map. -/
def stringPairs (j : Option Json) : List (String × String) :=
  ((j.bind Json.obj?).getD []).map fun (k, v) => (k, (v.str?).getD "")

/-- Strings of a checked list. -/
def stringItems (j : Option Json) : List String :=
  ((j.bind Json.arr?).getD []).map fun v => (v.str?).getD ""

/-- A map of strings as an object. -/
def pairsJson (kvs : List (String × String)) : Json := .obj (kvs.map fun (k, v) => (k, .str v))

namespace Service

def toJson (s : Service) : Json :=
  .obj [("name", .str s.name), ("dockerfilePath", .str s.dockerfilePath),
        ("dockerContext", .str s.dockerContext), ("httpPort", .ofNat s.httpPort.toNat),
        ("replicas", .ofNat s.replicas.toNat), ("computationResource", s.compute.toJson),
        ("buildEnvs", pairsJson s.buildEnvs), ("runtimeEnvs", pairsJson s.runtimeEnvs),
        ("buildSecrets", .ofStrings s.buildSecrets), ("runtimeSecrets", .ofStrings s.runtimeSecrets)]

def schema : Schema :=
  .record "Service"
    [Schema.opt "name" .string (.str ""),
     Schema.opt "dockerfilePath" .string (.str ""),
     Schema.opt "dockerContext" .string (.str ""),
     Schema.opt "httpPort" (.nat 32) (.ofNat 0),
     Schema.opt "replicas" (.nat 32) (.ofNat 0),
     Schema.opt "computationResource" Resources.schema ({} : Resources).toJson,
     Schema.opt "buildEnvs" (.dict .string) (.obj []),
     Schema.opt "runtimeEnvs" (.dict .string) (.obj []),
     Schema.opt "buildSecrets" (.list .string) (.arr []),
     Schema.opt "runtimeSecrets" (.list .string) (.arr [])]

def ofJson (j : Json) : Service :=
  { name := (j.fieldStr? "name").getD "",
    dockerfilePath := (j.fieldStr? "dockerfilePath").getD "",
    dockerContext := (j.fieldStr? "dockerContext").getD "",
    httpPort := Resources.word (j.field? "httpPort"),
    replicas := Resources.word (j.field? "replicas"),
    compute := ((j.field? "computationResource").map Resources.ofJson).getD {},
    buildEnvs := stringPairs (j.field? "buildEnvs"),
    runtimeEnvs := stringPairs (j.field? "runtimeEnvs"),
    buildSecrets := stringItems (j.field? "buildSecrets"),
    runtimeSecrets := stringItems (j.field? "runtimeSecrets") }

end Service

namespace Space

def toJson (s : Space) : Json :=
  .obj [("key", .str s.key), ("region", .str s.region), ("version", .str s.version),
        ("service", s.service.toJson)]

def schema : Schema :=
  .record "Space"
    [Schema.opt "key" .string (.str ""),
     Schema.opt "region" .string (.str ""),
     Schema.opt "version" .string (.str ""),
     Schema.req "service" Service.schema]

/-- A space from a value already checked against `Space.schema`. -/
def ofJson (j : Json) : Space :=
  { key := (j.fieldStr? "key").getD "",
    region := (j.fieldStr? "region").getD "",
    version := (j.fieldStr? "version").getD "",
    service := ((j.field? "service").map Service.ofJson).getD {} }

end Space

end Shipyard
