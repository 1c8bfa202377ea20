import Shipyard.Json.Text
import Shipyard.Session.Cookie
/-!
# HTTP messages

A request has a method, a path, perhaps a query string, headers and a body of bytes; a response
has a status, headers and a body. Header names are kept in lower case, and a header may be
given several times: `Request.header?` reads the first value, as a server reads a header that
holds one value.

A response body is empty, a run of bytes, or an event stream. An event stream is kept as the
data of the events that were ready when it was read, and whether it had ended by then.

A request can only be made of a method that is a token, header names that are tokens, header
values without control characters, and a target of the characters a URI path and query allow;
`Request.problem?` names the first part that fails.
-/
namespace Shipyard.Http

/-- A response body. -/
inductive Body where
  | empty
  | bytes (data : ByteArray)
  /-- An event stream: the data of the events ready when it was read, and whether it ended. -/
  | events (data : List Json) (ended : Bool)

/-- A request. -/
structure Request where
  method : String
  path : String
  query : Option String := none
  headers : List (String × String) := []
  body : ByteArray := .empty

/-- A response. -/
structure Response where
  status : Nat
  headers : List (String × String) := []
  body : Body := .empty

/-- Characters of a token, which methods and header names are made of. -/
def isTokenChar (c : Char) : Bool :=
  c.isAlphanum || "!#$%&'*+-.^_`|~".contains c

/-- Whether a text is a token. -/
def isToken (s : String) : Bool := !s.isEmpty && s.all isTokenChar

/-- Bytes a path may hold as they are. -/
def isPathByte (b : UInt8) : Bool :=
  b == 0x21 || (0x24 ≤ b && b ≤ 0x3B) || b == 0x3D || (0x40 ≤ b && b ≤ 0x5F) ||
    (0x61 ≤ b && b ≤ 0x7A) || b == 0x7C || b == 0x7E || b == 0x22 || b == 0x7B || b == 0x7D

/-- Bytes a query may hold as they are. -/
def isQueryByte (b : UInt8) : Bool :=
  b == 0x21 || (0x24 ≤ b && b ≤ 0x3B) || b == 0x3D || (0x3F ≤ b && b ≤ 0x7E)

/-- A request target split into its path and query; the fragment is dropped. -/
def splitTarget (target : String) : String × Option String :=
  let noFragment := (target.splitOn "#").headD ""
  match noFragment.splitOn "?" with
  | [] => ("", none)
  | [p] => (p, none)
  | p :: rest => (p, some ("?".intercalate rest))

/-- Why a target cannot be a request's target, if it cannot. -/
def targetProblem? (target : String) : Option String :=
  if target.isEmpty then some "empty string"
  else
    let (path, query) := splitTarget target
    let pathOk := path.toUTF8.toList.all isPathByte
    let queryOk := (query.getD "").toUTF8.toList.all isQueryByte
    if pathOk && queryOk then none else some "invalid uri character"

namespace Request

/-- The first value of a header. -/
def header? (r : Request) (name : String) : Option String :=
  (r.headers.find? (·.1 == name)).map (·.2)

/-- Every value of a header, in order. -/
def headerValues (r : Request) (name : String) : List String :=
  (r.headers.filter (·.1 == name)).map (·.2)

/-- Why the parts cannot make a request, if they cannot: the method, the target, then each
header in order. -/
def problem? (method target : String) (headers : List (String × String)) : Option String :=
  if !isToken method then some "invalid HTTP method"
  else match targetProblem? target with
    | some p => some p
    | none =>
      headers.findSome? fun (n, v) =>
        if !isToken n then some "invalid HTTP header name"
        else if !Session.isHeaderValue v then some "failed to parse header value"
        else none

/-- A request of a method to a target (a path with perhaps a query), with header names in lower
case. -/
def make (method target : String) (headers : List (String × String)) (body : ByteArray) :
    Request :=
  let (path, query) := splitTarget target
  { method, path, query, headers := headers.map fun (n, v) => (n.toLower, v), body }

end Request

namespace Response

/-- A response with no body. -/
def empty (status : Nat) : Response := { status }

/-- A response whose body is a JSON value. -/
def json (status : Nat) (j : Json) : Response :=
  { status, headers := [("content-type", "application/json")], body := .bytes (Json.render j).toUTF8 }

/-- A response whose body is plain text. -/
def text (status : Nat) (t : String) : Response :=
  { status, headers := [("content-type", "text/plain; charset=utf-8")], body := .bytes t.toUTF8 }

/-- A redirection to a location. -/
def redirect (status : Nat) (location : String) : Response :=
  { status, headers := [("location", location)] }

/-- The response with one more header. -/
def withHeader (r : Response) (name value : String) : Response :=
  { r with headers := r.headers ++ [(name, value)] }

/-- The response with the body taken away, as an answer to `HEAD`. -/
def withoutBody (r : Response) : Response := { r with body := .empty }

end Response

end Shipyard.Http
