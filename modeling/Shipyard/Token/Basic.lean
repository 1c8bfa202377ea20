import Shipyard.Crypto.Rsa
import Shipyard.Json.Text
import Shipyard.Schema.Basic
/-!
# Signed tokens

A token is three Base64url texts (no padding) joined by dots: a header that names the signing
algorithm, the claims, and the signature of the first two texts as they stand, dot included.

Header and claims are JSON written compactly, object keys in ascending order; the header holds
`typ` (unless dropped), `alg` and, when given, `kid`, in that order. A key signs only with the
algorithms of its own family: a shared secret with HMAC, an RSA key with PKCS #1 v1.5 or PSS.
-/
namespace Shipyard.Token

open Shipyard.Crypto
open Shipyard.Text

/-- Families of signing algorithms; a key belongs to one. -/
inductive Family where
  | hmac
  | rsa
  | ec
  | ed
  deriving DecidableEq, Repr

/-- The signing algorithms a header may name. -/
inductive Algorithm where
  | hs256
  | hs384
  | hs512
  | es256
  | es384
  | rs256
  | rs384
  | rs512
  | ps256
  | ps384
  | ps512
  | edDsa
  deriving DecidableEq, Repr

namespace Algorithm

/-- Every algorithm, in the order messages list them. -/
def all : List Algorithm :=
  [.hs256, .hs384, .hs512, .es256, .es384, .rs256, .rs384, .rs512, .ps256, .ps384, .ps512, .edDsa]

/-- The name a header writes. -/
def name : Algorithm → String
  | .hs256 => "HS256"
  | .hs384 => "HS384"
  | .hs512 => "HS512"
  | .es256 => "ES256"
  | .es384 => "ES384"
  | .rs256 => "RS256"
  | .rs384 => "RS384"
  | .rs512 => "RS512"
  | .ps256 => "PS256"
  | .ps384 => "PS384"
  | .ps512 => "PS512"
  | .edDsa => "EdDSA"

def family : Algorithm → Family
  | .hs256 | .hs384 | .hs512 => .hmac
  | .es256 | .es384 => .ec
  | .rs256 | .rs384 | .rs512 | .ps256 | .ps384 | .ps512 => .rsa
  | .edDsa => .ed

/-- The algorithm a name stands for. -/
def ofName? (s : String) : Option Algorithm := all.find? (·.name == s)

/-- The hash an algorithm signs the digest of. -/
def hasher : Algorithm → Hasher
  | .hs384 | .es384 | .rs384 | .ps384 => .sha384
  | .hs512 | .rs512 | .ps512 | .edDsa => .sha512
  | _ => .sha256

/-- The names a header may give, as a schema. -/
def schema : Schema := .choice "Algorithm" (all.map name)

theorem ofName?_name (a : Algorithm) : ofName? a.name = some a := by
  cases a <;> rfl

end Algorithm

namespace KeyForm

/-- The curves a key may lie on. -/
def curve : Schema := .choice "EllipticCurve" ["P-256", "P-384", "P-521", "Ed25519"]

/-- What any key may say of itself: its use, operations, algorithm, id and certificates. -/
def common : Schema :=
  let text (n : String) := Schema.opt n (.option .string) .null
  .record "CommonParameters"
    [text "use", Schema.opt "key_ops" (.option (.list .string)) .null,
     Schema.opt "alg" (.option (.named "KeyAlgorithm")) .null, text "kid", text "x5u",
     Schema.opt "x5c" (.option (.list .string)) .null, text "x5t", text "x5t#S256"]

/-- The key itself, by its type: an elliptic-curve point, an RSA modulus and exponent, a
shared secret, or an octet key pair. -/
def material : Schema :=
  let text (n : String) := Schema.req n .string
  let kind (name tag : String) := Schema.req "kty" (.choice name [tag])
  .untagged "AlgorithmParameters"
    [.record "EllipticCurveKeyParameters"
       [kind "EllipticCurveKeyType" "EC", Schema.req "crv" curve, text "x", text "y"],
     .record "RSAKeyParameters" [kind "RSAKeyType" "RSA", text "n", text "e"],
     .record "OctetKeyParameters" [kind "OctetKeyType" "oct", text "k"],
     .record "OctetKeyPairParameters"
       [kind "OctetKeyPairType" "OKP", Schema.req "crv" curve, text "x"]]

/-- A key written into a header: what any key says of itself, then its material. -/
def schema : Schema := .flat "Jwk" [] [common, material]

end KeyForm

/-- A token header: its type (written unless `none`), its algorithm and a key id. -/
structure Header where
  typ : Option String := some "JWT"
  alg : Algorithm
  kid : Option String := none

namespace Header

/-- The header as JSON: `typ`, `alg`, `kid`, the absent ones left out. -/
def toJson (h : Header) : Json :=
  .obj ((h.typ.map fun t => ("typ", Json.str t)).toList ++ [("alg", .str h.alg.name)] ++
    (h.kid.map fun k => ("kid", Json.str k)).toList)

/-- What a header may hold: every member is optional but the algorithm, a key it carries is
one of the key forms, and members of other names must be strings. -/
def schema : Schema :=
  let text (n : String) := Schema.opt n (.option .string) .null
  .flat "Header"
    [text "typ", Schema.req "alg" Algorithm.schema, text "cty", text "jku",
     Schema.opt "jwk" (.option KeyForm.schema) .null, text "kid", text "x5u",
     Schema.opt "x5c" (.option (.list .string)) .null, text "x5t", text "x5t#S256"]
    [.dict .string]

end Header

/-- Why a token is refused, or cannot be made. -/
inductive TokenError where
  /-- The token is not three dot-separated parts. -/
  | invalidToken
  | invalidSignature
  /-- The header names an algorithm that is not accepted, or the key is of another family. -/
  | invalidAlgorithm
  | invalidKeyFormat
  | expiredSignature
  | invalidIssuer
  | invalidAudience
  | missingRequiredClaim (claim : String)
  | base64 (e : Base64Error)
  | json (message : String)
  /-- The key could not sign: it does not read as a key of its kind. -/
  | signing (message : String)
  deriving DecidableEq, Repr

namespace TokenError

def message : TokenError → String
  | .invalidToken => "InvalidToken"
  | .invalidSignature => "InvalidSignature"
  | .invalidAlgorithm => "InvalidAlgorithm"
  | .invalidKeyFormat => "InvalidKeyFormat"
  | .expiredSignature => "ExpiredSignature"
  | .invalidIssuer => "InvalidIssuer"
  | .invalidAudience => "InvalidAudience"
  | .missingRequiredClaim c => "Missing required claim: " ++ c
  | .base64 e => "Base64 error: " ++ e.message
  | .json m => "JSON error: " ++ m
  | .signing m => "Signing failed: " ++ m

/-- Whether the token could not even be read: its parts, their Base64 or their JSON. -/
def isMalformed : TokenError → Bool
  | .invalidToken | .base64 _ | .json _ => true
  | _ => false

end TokenError

/-- A key that signs tokens: a shared secret, or the PKCS #1 structure of an RSA key. -/
inductive SigningKey where
  | secret (bytes : Bytes)
  | rsa (der : Bytes)

namespace SigningKey

def family : SigningKey → Family
  | .secret _ => .hmac
  | .rsa _ => .rsa

/-- The signature of a message with an algorithm of the key's family. -/
def sign (key : SigningKey) (alg : Algorithm) (msg : Bytes) : Except TokenError Bytes :=
  match key with
  | .secret s => .ok (hmac alg.hasher s msg)
  | .rsa der =>
    match Rsa.privateOf? der with
    | none => .error (.signing ("signature error: " ++ Rsa.privateKeyFault der))
    | some k =>
      match alg with
      | .ps256 | .ps384 | .ps512 => .ok (k.signPss alg.hasher msg)
      | _ => .ok (k.signPkcs1 alg.hasher msg)

end SigningKey

/-- A part of a token: Base64url of its bytes. -/
def part (bs : Bytes) : String := Base64.urlSafe.encode bs

/-- A JSON part of a token: Base64url of its compact text. -/
def jsonPart (j : Json) : String := part (Json.render j).toUTF8.toList

/-- Makes a token of a header and claims, signed with the key; the key must be of the
family of the header's algorithm. -/
def encode (header : Header) (claims : Json) (key : SigningKey) : Except TokenError String := do
  if key.family != header.alg.family then throw .invalidAlgorithm
  let message := jsonPart header.toJson ++ "." ++ jsonPart claims.sortKeys
  let signature ← key.sign header.alg message.toUTF8.toList
  return message ++ "." ++ part signature

end Shipyard.Token
