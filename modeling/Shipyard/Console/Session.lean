import Shipyard.Console.Answer
import Shipyard.Auth.Issuer
import Shipyard.Webhook.Signature
import Shipyard.Webhook.Plan
import Shipyard.Time.Instant
/-!
# Commands on signatures and session tokens

Webhook signatures of bodies, and session tokens: made with any algorithm, tampered with on
request, issued and verified. Keys are the console's PEM keys, named `auth` (its private
key), `auth_public` and `other` (a second private key); a key that is not a name is PEM text.
-/
namespace Shipyard.Console

open Shipyard.Crypto
open Shipyard.Token
open Shipyard.Auth

/-- Key material the console signs and checks tokens with, as PEM text. -/
structure Keys where
  authPrivate : String
  authPublic : String
  otherPrivate : String

/-- The PEM text of a key given by name, or the text itself. -/
def Keys.pem (k : Keys) (name : String) : String :=
  match name with
  | "auth" => k.authPrivate
  | "auth_public" => k.authPublic
  | "other" => k.otherPrivate
  | _ => name

/-- The issuer every token command verifies with: the console's own key pair and an hour. -/
def sessionIssuer (k : Keys) (issuer : String) (ttl : Nat := 3600) : Except AuthError TokenIssuer :=
  TokenIssuer.new issuer k.authPrivate k.authPublic ttl

/-- A byte field, given as text or as hex in `<name>_hex`. -/
def bytesField (cmd : Json) (name : String) : Except Json Bytes :=
  match cmd.fieldStr? (name ++ "_hex") with
  | some h =>
    match Text.numeralPairs h.toList with
    | some bs => .ok bs
    | none => .error (failure "BadInput" (name ++ "_hex is not hex"))
  | none => .ok (text cmd name).toUTF8.toList

/-- `sign_payload`: the webhook signature of a body. -/
def signPayload (cmd : Json) : Json := settle do
  let secret ← bytesField cmd "secret"
  let body ← bytesField cmd "body"
  return .str (Webhook.sign secret body)

/-- `verify_payload`: whether a webhook signature signs a body. -/
def verifyPayload (cmd : Json) : Json := settle do
  let secret ← bytesField cmd "secret"
  let body ← bytesField cmd "body"
  return .bool (Webhook.verify secret body (text cmd "signature"))

/-- `webhook_plan`: what a webhook body asks for. The body is `payload` written compactly, or
the text `body`. -/
def webhookPlan (cmd : Json) : Json :=
  let body := match cmd.field? "payload" with
    | some p => (Json.render p.sortKeys).toUTF8
    | none => (text cmd "body").toUTF8
  match Webhook.Payload.read body with
  | .ok p => (Webhook.plan p).toJson
  | .error m => failure "FAILED_DECODING" m

/-- The answer of an authentication failure, with or without its code. -/
def authFailure (e : AuthError) (withCode : Bool := false) : Json :=
  .obj ([("error", .str e.kind)] ++ (if withCode then [("code", .str e.code)] else []) ++
    [("message", .str e.message)])

/-- The answer of a verification. -/
def verified : Except AuthError Claims → Json
  | .ok claims => .obj [("claims", .obj claims)]
  | .error e => authFailure e true

/-- Verifies a token as the issuer named `issuer` at time `now`. -/
def verifyAs (k : Keys) (now : Instant) (issuer token : String) : Json :=
  match sessionIssuer k issuer with
  | .ok t => verified (t.verify now.seconds token)
  | .error e => authFailure e

/-- `jwt_verify`. -/
def jwtVerify (k : Keys) (now : Instant) (cmd : Json) : Json :=
  verifyAs k now (textOr cmd "issuer" "treenq") (text cmd "token")

/-- A signing key by name: `auth`, `auth_public`, `other`, or `secret:<text>` for a shared
secret. -/
def signingKey (k : Keys) (name : String) : Except Json SigningKey :=
  let named (pem : String) : Except Json SigningKey :=
    match PemKey.rsa? pem with
    | some key => .ok (.rsa key.material)
    | none => .error (failure "BadInput" ("invalid key " ++ name))
  match name with
  | "auth" => named k.authPrivate
  | "auth_public" => named k.authPublic
  | "other" => named k.otherPrivate
  | _ =>
    if name.startsWith "secret:" then .ok (.secret (String.ofList (name.toList.drop 7)).toUTF8.toList)
    else .error (failure "BadInput" ("unknown key " ++ name))

/-- The token's three parts, changed as `tamper` says. -/
def tamper (cmd : Json) (token : String) : Except Json String := do
  let parts := token.splitOn "."
  let h := parts.headD ""
  let p := (parts.drop 1).headD ""
  let s := (parts.drop 2).headD ""
  let raw : String := rawPart (text cmd "tamper_text")
  match text? cmd "tamper" with
  | none | some "" => return token
  | some "signature" =>
    let s' := match s.toList with
      | 'A' :: rest => String.ofList ('B' :: rest)
      | _ :: rest => String.ofList ('A' :: rest)
      | [] => s
    return h ++ "." ++ p ++ "." ++ s'
  | some "payload" =>
    return h ++ "." ++ jsonPart ((cmd.field? "tamper_claims").getD .null).sortKeys ++ "." ++ s
  | some "payload_raw" => return h ++ "." ++ raw ++ "." ++ s
  | some "header_raw" => return raw ++ "." ++ p ++ "." ++ s
  | some "drop_signature" => return h ++ "." ++ p
  | some "empty_signature" => return h ++ "." ++ p ++ "."
  | some "extra_segment" => return token ++ ".e30"
  | some other => throw (failure "BadInput" ("unknown tamper " ++ other))
where
  rawPart (t : String) : String := part t.toUTF8.toList

/-- A token made from the command's header, claims and key, perhaps tampered with. -/
def craftToken (k : Keys) (cmd : Json) : Except Json String := do
  let algName := textOr cmd "alg" "RS256"
  let some alg := Algorithm.ofName? algName
    | throw (failure "BadInput" ("unknown alg " ++ algName))
  let key ← signingKey k (textOr cmd "key" "auth")
  let typ : Option String := match cmd.field? "typ" with
    | some .null => none
    | some (.str t) => some t
    | _ => some "JWT"
  let header : Header := { typ, alg, kid := text? cmd "kid" }
  let claims := (cmd.field? "claims").getD (.obj [])
  let token ← match encode header claims key with
    | .ok t => pure t
    | .error e => throw (failure "EncodeError" e.message)
  tamper cmd token

/-- `jwt_craft_verify`: a crafted token, verified. -/
def jwtCraftVerify (k : Keys) (now : Instant) (cmd : Json) : Json := settle do
  let token ← craftToken k cmd
  return verifyAs k now (textOr cmd "verify_issuer" "treenq") token

/-- A lifetime field in seconds, `d` when absent or not a 64-bit unsigned integer. -/
def seconds (cmd : Json) (name : String) (d : Nat) : Nat :=
  match int? cmd name with
  | some i => if 0 ≤ i && i < Int.pow 2 64 then i.toNat else d
  | none => d

/-- `jwt_issue_verify`: a token issued for the claims and verified again; the times are given
as their difference. -/
def jwtIssueVerify (k : Keys) (now : Instant) (cmd : Json) : Json := settle do
  let some claims := ((cmd.field? "claims").getD (.obj [])).obj?
    | throw (failure "BadInput" "claims must be an object")
  let issuer := textOr cmd "issuer" "treenq"
  let ttl := seconds cmd "ttl_secs" 3600
  let t ← (sessionIssuer k issuer ttl).mapError authFailure
  let token ← (t.issueAt claims now.seconds).mapError authFailure
  let checker ← (sessionIssuer k (textOr cmd "verify_issuer" issuer) ttl).mapError authFailure
  match checker.verify now.seconds token with
  | .error e => return (authFailure e true).set "ttlSecs" (.ofNat ttl)
  | .ok got =>
    let time (name : String) : Int := ((got.find? (·.1 == name)).bind (·.2.int?)).getD 0
    let rest := got.filter fun kv => kv.1 != "iat" && kv.1 != "exp"
    let claims := Json.insertSorted "exp_minus_iat" (.ofInt (time "exp" - time "iat")) rest
    return .obj [("claims", .obj claims), ("ttlSecs", .ofNat ttl)]

/-- `jwt_new`: whether an issuer can be made of the named keys. -/
def jwtNew (k : Keys) (cmd : Json) : Json :=
  let ttl := seconds cmd "ttl_secs" 3600
  match TokenIssuer.new (text cmd "issuer") (k.pem (textOr cmd "private" "auth"))
      (k.pem (textOr cmd "public" "auth_public")) ttl with
  | .ok _ => .obj [("ok", .bool true), ("ttlSecs", .ofNat ttl)]
  | .error e => authFailure e

/-- `claim_str`: a text claim, empty when absent; `null` when the claims are not an object. -/
def claimStr (cmd : Json) : Json :=
  match (cmd.field? "claims").bind Json.obj? with
  | some claims => .str (claimText claims (text cmd "key"))
  | none => .null

end Shipyard.Console
