import Shipyard.Deployment.Basic
import Shipyard.Error
/-!
# The image registry and builder, in memory

Images live at `registry.test/<repository>:<tag>`. The registry knows an image once it was
published, by a build or by a session's setting. Inspecting an image it does not know answers
`imageNotFound`, and inspecting fails with a message when set to.

A build records what it was asked (the registry keeps the last request and counts them), and
then, as set: waits until its run is cancelled, fails with a message, or publishes its image.
-/
namespace Shipyard.Services

/-- What a build was asked to do: the image's name and tag, the context and Dockerfile paths
(relative to the checkouts' root), the build arguments and the build secrets. -/
structure BuildRecord where
  name : String
  tag : String
  context : String
  dockerfile : String
  args : List (String × String)
  secrets : List (String × String)
  deriving Repr

/-- The record as the registry shows it. -/
def BuildRecord.toJson (b : BuildRecord) : Json :=
  let pairs (kvs : List (String × String)) : Json := .obj (kvs.map fun (k, v) => (k, .str v))
  .obj [("name", .str b.name), ("tag", .str b.tag), ("dockerContext", .str b.context),
        ("dockerfile", .str b.dockerfile), ("buildArgs", pairs b.args),
        ("secrets", pairs b.secrets)]

/-- How a build ends. -/
inductive BuildOutcome where
  | built (image : Image)
  | failed (e : RegistryError)
  /-- The build waits until its run is cancelled. -/
  | held
  deriving Repr

/-- The registry's host name. -/
def registryHost : String := "registry.test"

/-- The image registry and builder. -/
structure Registry where
  /-- The images known, as `<repository>:<tag>`, in the order they were published. -/
  published : List String := []
  builds : Nat := 0
  lastBuild : Option BuildRecord := none
  failBuild : Option String := none
  failInspect : Option String := none
  hold : Bool := false
  deriving Repr

namespace Registry

/-- The image of a repository and tag, if the registry knows it. -/
def inspect (r : Registry) (name tag : String) : Except RegistryError Image :=
  match r.failInspect with
  | some m => .error (.other (.msg m))
  | none =>
    if r.published.contains (name ++ ":" ++ tag) then .ok ⟨registryHost, name, tag⟩
    else .error .imageNotFound

/-- Runs a build. -/
def build (r : Registry) (b : BuildRecord) : Registry × BuildOutcome :=
  let r := { r with builds := r.builds + 1, lastBuild := some b }
  if r.hold then (r, .held)
  else match r.failBuild with
    | some m => (r, .failed (.buildFailed m))
    | none =>
      ({ r with published := r.published ++ [b.name ++ ":" ++ b.tag] },
       .built ⟨registryHost, b.name, b.tag⟩)

end Registry

end Shipyard.Services
