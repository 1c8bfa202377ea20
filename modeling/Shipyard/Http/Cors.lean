import Shipyard.Http.Message
/-!
# Cross-origin access

Pages of one origin may call the API from a browser. Every response names the origin allowed
and says that the answer varies with the request's origin and preflight headers. The allowed
origin `*` admits any origin, without credentials; any other allowed origin, which must be a
valid header value, is admitted with credentials.

A request with the method `OPTIONS` is a preflight, whatever its path: it is answered at once,
with no content, listing the methods and the request headers the API accepts.
-/
namespace Shipyard.Http

/-- Which origins may call the API. -/
inductive Cors where
  | anyOrigin
  | origin (allowed : String)
  deriving Repr, DecidableEq

namespace Cors

/-- The policy for a configured origin, or why the origin cannot be one. -/
def ofOrigin (origin : String) : Except String Cors :=
  if origin == "*" then .ok .anyOrigin
  else if Session.isHeaderValue origin then .ok (.origin origin)
  else .error ("Invalid CORS origin '" ++ origin ++ "': failed to parse header value")

/-- The request headers that vary a cross-origin answer. -/
def varies : String := "origin, access-control-request-method, access-control-request-headers"

/-- The headers naming the allowed origin. -/
def originHeaders : Cors → List (String × String)
  | .anyOrigin => [("access-control-allow-origin", "*")]
  | .origin o => [("access-control-allow-origin", o), ("access-control-allow-credentials", "true")]

/-- A response with the cross-origin headers added. -/
def decorate (c : Cors) (r : Response) : Response :=
  { r with headers := r.headers ++ c.originHeaders ++ [("vary", varies)] }

/-- The answer to a preflight. -/
def preflight (c : Cors) : Response :=
  c.decorate
    { status := 204,
      headers := [("access-control-allow-methods", "GET,POST,OPTIONS"),
                  ("access-control-allow-headers", "authorization,content-type,x-workspace")] }

end Cors

end Shipyard.Http
