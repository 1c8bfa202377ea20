import Shipyard.Crypto.Sha2
import Shipyard.Text.Hex
/-!
# Webhook signatures

A webhook body is signed with a shared secret as `sha256=` followed by the lower-case hex of its
HMAC-SHA-256. A signature is accepted when it has that prefix and its hex, of either case,
writes exactly the expected 32 bytes.
-/
namespace Shipyard.Webhook

open Shipyard.Crypto
open Shipyard.Text

/-- The prefix of a signature. -/
def signaturePrefix : String := "sha256="

/-- The signature of a body. -/
def sign (secret body : Bytes) : String := signaturePrefix ++ hexOf (hmac .sha256 secret body)

/-- Whether a signature signs a body. -/
def verify (secret body : Bytes) (signature : String) : Bool :=
  let cs := signature.toList
  let pre := signaturePrefix.toList
  cs.take pre.length == pre &&
    bytesOfHex? (String.ofList (cs.drop pre.length)) == some (hmac .sha256 secret body)

end Shipyard.Webhook
