import Shipyard.Space.Validate
import Shipyard.Json.Reader
import Shipyard.Yaml.Decode
import Shipyard.Error
/-!
Reading a service manifest from a file of a repository.

A file whose name ends in `.json` is read as JSON; any other as YAML. A manifest that cannot be
read is `manifestUnreadable` with the reader's message; one that reads but does not validate is
`invalidSpace` with the validation message. Validation fills the defaults in.
-/
namespace Shipyard

/-- Manifest file names, in the order a working tree is searched. -/
def manifestFiles : List String := ["tq.json", "tq.yaml"]

/-- Reads and validates manifest text. -/
def Space.decode (fileName content : String) : Except SourceError Space := do
  let read := if fileName.endsWith ".json" then Json.readText Space.schema content
    else (Yaml.decode Space.schema content).mapError (·.message)
  match read with
  | .error m => .error (.manifestUnreadable m)
  | .ok j =>
    match (Space.ofJson j).validate with
    | .ok s => .ok s
    | .error e => .error (.invalidSpace e.message)

end Shipyard
