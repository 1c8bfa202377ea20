import Shipyard.Error
import Shipyard.Token.Verify
/-!
# Session tokens

The platform's sessions are RS256 tokens. An issuer holds its name, the lifetime of its tokens
and an RSA key pair. Issuing adds `iat` (now), `exp` (now plus the lifetime) and `iss` to the
claims, replacing any given ones; times are 64-bit signed words, so a lifetime beyond their range
wraps. Verifying accepts only RS256 tokens of the issuer's name that carry `exp` and `iss` and
have not expired; a token that cannot be read is `unauthorized`, one that fails a check
`forbidden`.
-/
namespace Shipyard.Auth

open Shipyard.Crypto
open Shipyard.Token

/-- An issuer of session tokens. -/
structure TokenIssuer where
  issuer : String
  /-- The lifetime of a token, in seconds. -/
  ttl : Nat
  ttl_pos : 0 < ttl
  /-- The PKCS #1 structure of the signing key. -/
  signingKey : Bytes
  /-- The PKCS #1 structure of the verifying key. -/
  verifyingKey : Bytes

/-- An integer as a 64-bit signed word. -/
def word64 (i : Int) : Int := (i + Int.pow 2 63) % Int.pow 2 64 - Int.pow 2 63

namespace TokenIssuer

/-- An issuer from PEM keys: the lifetime must be positive and both keys RSA keys. -/
def new (issuer privatePem publicPem : String) (ttl : Nat) : Except AuthError TokenIssuer :=
  if h : ttl = 0 then .error (.other (.msg "auth ttl must be positive"))
  else
    match PemKey.rsa? privatePem, PemKey.rsa? publicPem with
    | none, _ => .error (.other (.msg ("invalid auth private key: " ++ TokenError.invalidKeyFormat.message)))
    | _, none => .error (.other (.msg ("invalid auth public key: " ++ TokenError.invalidKeyFormat.message)))
    | some priv, some pub => .ok ⟨issuer, ttl, Nat.pos_of_ne_zero h, priv.material, pub.material⟩

/-- The claims of a token issued at time `now`. -/
def stamped (t : TokenIssuer) (claims : Claims) (now : Int) : Claims :=
  let exp := word64 (now + word64 t.ttl)
  Json.insertSorted "iss" (.str t.issuer)
    (Json.insertSorted "exp" (.ofInt exp) (Json.insertSorted "iat" (.ofInt now) claims))

/-- A token of the claims, issued at time `now`. -/
def issueAt (t : TokenIssuer) (claims : Claims) (now : Int) : Except AuthError String :=
  match encode { alg := .rs256 } (.obj (t.stamped claims now)) (.rsa t.signingKey) with
  | .ok token => .ok token
  | .error e => .error (.other (.msg ("failed to sign token: " ++ e.message)))

/-- What tokens of this issuer must satisfy at time `now`. -/
def validation (t : TokenIssuer) (now : Nat) : Validation :=
  { algorithms := [.rs256], issuers := some [t.issuer], required := ["exp", "iss"], now }

/-- The claims of a token of this issuer that is valid at time `now`. -/
def verify (t : TokenIssuer) (now : Nat) (token : String) : Except AuthError Claims :=
  (decode (t.validation now) t.verifyingKey token).mapError fun e =>
    if e.isMalformed then .unauthorized ("malformed token: " ++ e.message) else .forbidden e.message

end TokenIssuer

/-- A text claim, empty when absent or not text. -/
def claimText (claims : Claims) (key : String) : String :=
  ((claims.find? (·.1 == key)).bind fun kv => kv.2.str?).getD ""

end Shipyard.Auth
