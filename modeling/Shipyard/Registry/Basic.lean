import Shipyard.Deployment.Basic
import Shipyard.Text.Split
/-!
# The image registry

The registry is given as an address, with or without a scheme; images are tagged with its host
part: the text after `://` if there is one, without trailing slashes.

Access to it is anonymous (kind empty, `none` or `noauth`), basic (a username and a password,
both required) or by token (required).
-/
namespace Shipyard.Registry

open Shipyard.Text

/-- How the platform signs in to the registry. -/
inductive RegistryAuth where
  | anonymous
  | basic (username password : String)
  | token (token : String)
  deriving DecidableEq, Repr

namespace RegistryAuth

/-- Access from its kind and the credentials given for it. -/
def ofParts (kind username password token : String) : Except String RegistryAuth :=
  match kind with
  | "" | "none" | "noauth" => .ok .anonymous
  | "basic" =>
    if username.isEmpty || password.isEmpty then
      .error "basic registry auth requires a username and password"
    else .ok (.basic username password)
  | "token" => if token.isEmpty then .error "token registry auth requires a token" else .ok (.token token)
  | other => .error ("unknown registry auth type: " ++ other)

/-- A description that keeps secrets hidden. -/
def describe : RegistryAuth → String
  | .anonymous => "None"
  | .basic u _ => "Basic(" ++ u ++ ", ***)"
  | .token _ => "Token(***)"

end RegistryAuth

/-- The host images are tagged with, from the registry's address. -/
def registryHost (address : String) : String :=
  match splitOnce address "://" with
  | some (_, host) => trimEndChar host '/'
  | none => trimEndChar address '/'

/-- The image of a repository's build in the registry. -/
def image (address name tag : String) : Image := ⟨registryHost address, name, tag⟩

end Shipyard.Registry
