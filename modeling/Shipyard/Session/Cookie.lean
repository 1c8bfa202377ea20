import Shipyard.Text.White
import Shipyard.Text.Split
/-!
# Cookies

Cookies arrive in `Cookie` header values, each a list of `name=value` pairs separated by `;`.
A header value may hold any byte but the control characters other than tab; only values of
visible ASCII (and tab) are read for cookies. The first pair with the name wins, and an empty
value counts as none.
-/
namespace Shipyard.Session

open Shipyard.Text

/-- Whether a text may be a header value. -/
def isHeaderValue (s : String) : Bool :=
  s.toUTF8.toList.all fun b => (32 ≤ b && b != 127) || b == 9

/-- Whether a header value is visible ASCII text. -/
def isVisibleText (s : String) : Bool :=
  s.toUTF8.toList.all fun b => (32 ≤ b && b < 127) || b == 9

/-- The value of the first cookie named `name`, unless it is empty. -/
def readCookie (headers : List String) (name : String) : Option String :=
  let pairs := ((headers.filter isVisibleText).flatMap (·.splitOn ";")).filterMap fun p =>
    splitOnce (trimWhite p) "="
  match pairs.find? (·.1 == name) with
  | some (_, v) => if v.isEmpty then none else some v
  | none => none

end Shipyard.Session
