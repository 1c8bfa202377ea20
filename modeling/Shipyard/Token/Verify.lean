import Shipyard.Token.Basic
import Shipyard.Token.Claims
import Shipyard.Text.Split
/-!
# Checking tokens

A token is checked in a fixed order, and the first failure is the answer:

1. it splits at its last two dots into header, claims and signature (`invalidToken`);
2. the header is Base64url, then JSON naming a known algorithm (`base64`, `json`);
3. the algorithm is one the validation accepts (`invalidAlgorithm`);
4. the signature is Base64url and signs header and claims with the key (`invalidSignature`);
5. the claims are Base64url, then a JSON object, then their registered claims are read;
6. the required claims are present and readable, in the order required
   (`missingRequiredClaim`); the expiry time is not past (`expiredSignature`); an issuer, one
   name or several, shares a name with the accepted ones (`invalidIssuer`); and no audience is
   given, since none is expected (`invalidAudience`).

Unreadable claims pass the last checks: only a readable claim can fail them.
-/
namespace Shipyard.Token

open Shipyard.Crypto
open Shipyard.Text

/-- The claims of a token, in ascending key order. -/
abbrev Claims := List (String × Json)

/-- What a token must satisfy besides its signature. -/
structure Validation where
  /-- The algorithms a header may name. -/
  algorithms : List Algorithm
  /-- The accepted issuers; `none` accepts any. -/
  issuers : Option (List String) := none
  /-- Registered claims that must be present and readable, checked in this order. -/
  required : List String := ["exp"]
  /-- The current time in seconds. -/
  now : Nat

namespace Validation

/-- Whether the registered claim `c` is present and readable. -/
def present (r : Registered) (c : String) : Bool :=
  match c with
  | "exp" => r.exp.isParsed
  | "nbf" => r.nbf.isParsed
  | "sub" => r.sub.isParsed
  | "iss" => r.iss.isParsed
  | "aud" => r.aud.isParsed
  | _ => true

/-- Checks the registered claims. -/
def check (v : Validation) (r : Registered) : Except TokenError Unit := do
  if let some c := v.required.find? (!present r ·) then throw (.missingRequiredClaim c)
  if let .parsed exp := r.exp then
    if exp < v.now then throw .expiredSignature
  if let (.parsed names, some accepted) := (r.iss, v.issuers) then
    if !names.any accepted.contains then throw .invalidIssuer
  if r.aud.isParsed then throw .invalidAudience

end Validation

/-- The text before and the text after the last dot, if there is one. -/
def splitLast (s : String) : Option (String × String) := Text.splitLastChar s '.'

/-- The bytes of a Base64url part. -/
def unpart (s : String) : Except TokenError Bytes :=
  (Base64.urlSafe.decode s.toUTF8.toList).mapError .base64

/-- Reads JSON bytes against a schema. -/
def readPart (s : Schema) (bs : Bytes) : Except TokenError Json :=
  (Json.readBytes s (ByteArray.mk bs.toArray)).mapError .json

/-- Whether `sig` signs `msg` under an RSA public key, given as its PKCS #1 structure. Keys
check PKCS #1 v1.5 signatures. -/
def signatureHolds (der : Bytes) (alg : Algorithm) (msg sig : Bytes) : Bool :=
  match Rsa.publicOf? der, alg with
  | some key, .rs256 | some key, .rs384 | some key, .rs512 => key.verifyPkcs1 alg.hasher msg sig
  | _, _ => false

/-- The claims of a token that passes every check, with the key given as the PKCS #1
structure of an RSA public key. -/
def decode (v : Validation) (key : Bytes) (token : String) : Except TokenError Claims := do
  let some (message, signature) := splitLast token | throw .invalidToken
  let some (headerText, payload) := splitLast message | throw .invalidToken
  let header ← readPart Header.schema (← unpart headerText)
  let some alg := (header.fieldStr? "alg").bind Algorithm.ofName? | throw .invalidAlgorithm
  if !v.algorithms.contains alg then throw .invalidAlgorithm
  if !signatureHolds key alg message.toUTF8.toList (← unpart signature) then
    throw .invalidSignature
  let bytes ← unpart payload
  let claims ← readPart (.dict .any) bytes
  let registered ← (Registered.read (ByteArray.mk bytes.toArray)).mapError .json
  v.check registered
  return (claims.obj?.getD [])

end Shipyard.Token
