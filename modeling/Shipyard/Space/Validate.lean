import Shipyard.Space.Basic
import Shipyard.Text.Path
/-!
Checking a space and filling its defaults.

`Space.validate` checks, in this order: the service has a name, it has a port, the name is a
DNS label (lower-case letters, digits and inner hyphens, at most 63 bytes), the port is at most
65535. It then fills the Dockerfile path (`Dockerfile`) and the build context (`.`) when they
are empty, checks that both are relative paths that never climb out of the repository, fills
one replica and the default compute (1000 millicores, 2048 MiB, 20 GiB) for every zero figure,
and last checks every environment key (build keys first, each map in key order) against
`[A-Z_][A-Z0-9_]*`. The first failed check is the answer.
-/
namespace Shipyard

/-- Why a space was refused. -/
inductive SpaceIssue where
  | nameRequired
  | portRequired
  | nameNotLabel (name : String)
  | portOutOfRange (port : UInt32)
  /-- A build path that is absolute or climbs out of the repository. -/
  | pathEscapes (field : String) (path : String)
  | envKeyInvalid (key : String)
  deriving Repr, DecidableEq

/-- The wording of each refusal. -/
def SpaceIssue.message : SpaceIssue → String
  | .nameRequired => "service.name required"
  | .portRequired => "service.httpPort required"
  | .nameNotLabel n =>
    "service.name " ++ Text.debugQuote n ++ " must be kebab-case (lowercase letters, digits and '-')"
  | .portOutOfRange p => "service.httpPort " ++ Decimal.natText p.toNat ++ " out of range 1-65535"
  | .pathEscapes f p => f ++ " " ++ Text.debugQuote p ++ " must be a relative path inside the repository"
  | .envKeyInvalid k => "env key " ++ Text.debugQuote k ++ " must match [A-Z_][A-Z0-9_]*"

/-- A lower-case ASCII letter or a digit. -/
def isLowerAlnum (c : Char) : Bool := ('a' ≤ c && c ≤ 'z') || ('0' ≤ c && c ≤ '9')

/-- Lower-case letters, digits and hyphens, starting and ending with a letter or digit. -/
def isLabelText (cs : List Char) : Bool :=
  match cs.head?, cs.getLast? with
  | some a, some z => isLowerAlnum a && isLowerAlnum z && cs.all fun c => isLowerAlnum c || c = '-'
  | _, _ => false

/-- A service name: label text of at most 63 bytes. -/
def isServiceName (s : String) : Bool := isLabelText s.toList && s.utf8ByteSize ≤ 63

/-- An environment key: an upper-case letter or `_`, then upper-case letters, digits or `_`. -/
def isEnvKey (s : String) : Bool :=
  let upper (c : Char) := 'A' ≤ c && c ≤ 'Z'
  match s.toList with
  | [] => false
  | c :: rest => (upper c || c = '_') && rest.all fun d => upper d || ('0' ≤ d && d ≤ '9') || d = '_'

/-- A path that has a component that leaves the repository: a drive, the root, or `..`. -/
def escapesRepository (path : String) : Bool := (Path.components path).any Path.Component.escapes

def Space.defaultDockerfile : String := "Dockerfile"
def Space.defaultContext : String := "."

/-- `v`, or `d` when `v` is zero. -/
def orDefault (v d : UInt32) : UInt32 := if v = 0 then d else v

/-- The defaults a checked service receives. -/
def Service.withDefaults (s : Service) : Service :=
  { s with
    dockerfilePath := if s.dockerfilePath.isEmpty then Space.defaultDockerfile else s.dockerfilePath
    dockerContext := if s.dockerContext.isEmpty then Space.defaultContext else s.dockerContext
    replicas := orDefault s.replicas 1
    compute := { cpuMillis := orDefault s.compute.cpuMillis 1000,
                 memoryMiB := orDefault s.compute.memoryMiB 2048,
                 diskGiB := orDefault s.compute.diskGiB 20 } }

/-- Checks a space and fills its defaults, or names the first problem. -/
def Space.validate (sp : Space) : Except SpaceIssue Space :=
  let s := sp.service
  if s.name.isEmpty then .error .nameRequired
  else if s.httpPort = 0 then .error .portRequired
  else if !isServiceName s.name then .error (.nameNotLabel s.name)
  else if s.httpPort.toNat > 65535 then .error (.portOutOfRange s.httpPort)
  else
    let d := s.withDefaults
    if escapesRepository d.dockerfilePath then
      .error (.pathEscapes "service.dockerfilePath" d.dockerfilePath)
    else if escapesRepository d.dockerContext then
      .error (.pathEscapes "service.dockerContext" d.dockerContext)
    else
      match (d.buildEnvs ++ d.runtimeEnvs).find? (fun (k, _) => !isEnvKey k) with
      | some (k, _) => .error (.envKeyInvalid k)
      | none => .ok { sp with service := d }

end Shipyard
