import Shipyard.Platform.Operations
import Shipyard.Platform.Dispatch
import Shipyard.Platform.SignIn
import Shipyard.Http.Cors
import Shipyard.Http.Query
import Shipyard.Json.Reader
import Shipyard.Webhook.Signature
import Shipyard.Text.White
import Shipyard.Text.Split
/-!
# Serving requests

Every request is answered with the cross-origin headers. A request with the method `OPTIONS` is
a preflight and is answered at once. `HEAD` is served as `GET`, without the body.

Each path has one method. The named operations take `POST`, a bearer token, and a JSON body
(a body of blanks alone is `{}`; one that does not match the operation's request fails with
`FAILED_DECODING`), and answer JSON, or nothing when the answer is an empty object. The bearer
token is checked before the method. Besides them:

* `logout` (`POST`), `getBuildProgress` and `getLogs` (`GET`) take a bearer token too; the
  latter two answer an event stream of progress messages;
* `auth`, `authCallback` and `login` (`GET`) sign in;
* `healthz` (`GET`) answers that the service is up;
* `githubWebhook` (`POST`) takes the code host's events, signed with the webhook secret when
  one is set.

An unknown path is not found, and a path asked with another method answers that the method is
not allowed; both without a body. Failures answer their error envelope with their status; a
query string that does not give what a path needs is refused as plain text.

The bearer token is the `Authorization` header's, which must read `Bearer <token>` (the scheme
in any case), or else the `authToken` cookie's.
-/
namespace Shipyard.Platform

open Shipyard.Http
open Shipyard.Progress
open Shipyard.Token
open Shipyard.Text

/-- The response of a failure. -/
def errorResponse (e : RpcError) : Response := Response.json e.status e.body

/-- The bearer token of a request. -/
def bearerToken (req : Request) : Except AuthError String :=
  match req.header? "authorization" with
  | some v =>
    if !Session.isVisibleText v then .error (.unauthorized "malformed authorization header")
    else match splitOnce v " " with
      | none => .error (.unauthorized "malformed authorization header")
      | some (scheme, token) =>
        if scheme.toLower != "bearer" then
          .error (.unauthorized ("unsupported authorization scheme " ++ scheme))
        else
          let t := trimWhite token
          if t.isEmpty then .error (.unauthorized "empty bearer token") else .ok t
  | none =>
    match Session.readCookie (req.headerValues "cookie") authCookieName with
    | some t => .ok t
    | none => .error (.unauthorized "missing bearer token")

/-- The verified claims of a request's bearer token. -/
def authenticate (req : Request) : AppM RpcError Claims := do
  let a ← get
  match bearerToken req >>= a.issuer.verify a.now.seconds with
  | .ok claims => pure claims
  | .error e => throw e.toRpc

/-- The request body read by a schema; a body of blanks alone is `{}`. -/
def decodeBody (s : Schema) (body : ByteArray) : Except RpcError Json :=
  let blank (b : UInt8) := b == 32 || b == 9 || b == 10 || b == 12 || b == 13
  let body := if body.toList.all blank then "\x7b\x7d".toUTF8 else body
  (Json.readBytes s body).mapError RpcError.decoding

/-- The answer of an operation: nothing for an empty object. -/
def encodeOutput (j : Json) : Response :=
  match j with
  | .obj [] => Response.empty 200
  | _ => Response.json 200 j

/-- What a request refused for its query string answers. -/
def queryRefusal (message : String) : Response :=
  Response.text 400 ("Failed to deserialize query string: " ++ message)

/-- The declared parameters of a request's query string, or the answer refusing it. -/
def queryParams (req : Request) (params : List Param) : Except Response (List String) :=
  (readParams params (queryPairs (req.query.getD ""))).mapError queryRefusal

/-- Everything a subscription has ready now, and whether it ended. -/
def Subscription.ready (b : Bus) (now : Instant) : Nat → Subscription → List Json → List Json × Bool
  | 0, _, acc => (acc, false)
  | k + 1, sub, acc =>
    match sub.poll b now with
    | (sub, .message m) | (sub, .dropped m) => ready b now k sub (acc ++ [m.toJson])
    | (_, .ended) => (acc, true)
    | (_, .pending) => (acc, false)

/-- An event stream response. -/
def eventStream (events : List Json) (ended : Bool) : Response :=
  { status := 200,
    headers := [("content-type", "text/event-stream"), ("cache-control", "no-cache"),
                ("connection", "keep-alive")],
    body := .events events ended }

/-- How many messages a subscription can have ready at most, with room to spare. -/
def readyBound (b : Bus) (sub : Subscription) : Nat :=
  sub.replay.length + (match sub.live with
    | some (n, _) => (b.channel n).held.length
    | none => 0) + 2

/-- Reads what a subscription has ready, then lets go of it. -/
def readSubscription (sub : Subscription) : AppM RpcError Response := do
  let a ← get
  let (events, ended) := Subscription.ready a.bus a.now (readyBound a.bus sub) sub []
  set { a with bus := a.bus.release sub }
  return eventStream events ended

/-- `getBuildProgress`: the deployment's progress so far; a deployment that finished before its
progress was kept answers its outcome. -/
def buildProgress (claims : Claims) (deploymentId : String) : AppM RpcError Response := do
  let u ← currentUser claims
  let d ← visibleDeployment u deploymentId
  let a ← get
  match a.bus.subscribeExisting d.id with
  | (bus, some sub) => set { a with bus }; readSubscription sub
  | (_, none) =>
    if d.status.isTerminal then return eventStream [(ProgressMessage.outcome d a.now).toJson] true
    let (bus, sub) := a.bus.subscribe d.id
    set { a with bus }
    readSubscription sub

/-- `getLogs`: the log lines of a repository's service. -/
def serviceLogs (claims : Claims) (repoId : String) : AppM RpcError Response := do
  let u ← currentUser claims
  let repo ← visibleRepo u repoId
  let scope ← userScope u repo
  let now := (← get).now
  return eventStream ((Services.Cluster.logs scope.clusterNamespace repoId now).map
    ProgressMessage.toJson) true

/-- `githubWebhook`: checks the signature, reads the payload and carries it out. -/
def webhook (req : Request) : AppM RpcError Response := do
  if let some secret := (← get).settings.webhookSecret then
    let signature := match req.header? "x-hub-signature-256" with
      | some v => if Session.isVisibleText v then v else ""
      | none => ""
    if !Webhook.verify secret.toUTF8.toList req.body.toList signature then
      throw (.new "INVALID_SIGNATURE" "signature mismatch")
  match Webhook.Payload.read req.body with
  | .error m => throw (RpcError.decoding m)
  | .ok p =>
    let ids ← dispatch p
    return Response.json 200 (.obj [("deploymentIds", Json.ofStrings ids)])

/-- A handler of a path that reads its query string. -/
def withQuery (req : Request) (params : List Param) (k : List String → AppM RpcError Response) :
    AppM RpcError Response :=
  match queryParams req params with
  | .error refusal => pure refusal
  | .ok values => k values

/-- The request's answer, before the cross-origin headers. -/
def handle (req : Request) : AppM RpcError Response := do
  let notAllowed := Response.empty 405
  match operations.find? (fun op => "/" ++ op.name == req.path) with
  | some op =>
    let claims ← authenticate req
    if req.method != "POST" then return notAllowed
    match decodeBody op.input req.body with
    | .error e => throw e
    | .ok input => return encodeOutput (← op.run claims input)
  | none =>
    match req.path with
    | "/logout" =>
      let claims ← authenticate req
      if req.method != "POST" then return notAllowed
      signOut claims
    | "/getBuildProgress" =>
      let claims ← authenticate req
      if req.method != "GET" then return notAllowed
      withQuery req [{ name := "deploymentId", aliases := ["deploymentID"] }] fun
        | [id] => buildProgress claims id
        | _ => pure notAllowed
    | "/getLogs" =>
      let claims ← authenticate req
      if req.method != "GET" then return notAllowed
      withQuery req [{ name := "repoId", aliases := ["repoID"] }] fun
        | [id] => serviceLogs claims id
        | _ => pure notAllowed
    | "/auth" => if req.method != "GET" then return notAllowed else beginSignIn
    | "/authCallback" =>
      if req.method != "GET" then return notAllowed
      withQuery req [{ name := "code", required := false }, { name := "state", required := false }] fun
        | [code, state] =>
          completeSignIn (Session.readCookie (req.headerValues "cookie") stateCookieName) code state
        | _ => pure notAllowed
    | "/login" =>
      if req.method != "GET" then return notAllowed
      withQuery req [{ name := "provider", required := false }] fun
        | [provider] => loginWith provider
        | _ => pure notAllowed
    | "/healthz" =>
      if req.method != "GET" then return notAllowed
      return Response.json 200 (.obj [("status", .str "ok")])
    | "/githubWebhook" => if req.method != "POST" then return notAllowed else webhook req
    | _ => return Response.empty 404

/-- Serves one request. -/
def App.serve (a : App) (req : Request) : Response × App :=
  let cors := a.settings.cors
  if req.method == "OPTIONS" then (cors.preflight, a)
  else
    let head := req.method == "HEAD"
    let (result, a) := (handle (if head then { req with method := "GET" } else req)).run.run a
    let r := match result with
      | .ok r => r
      | .error e => errorResponse e
    (cors.decorate (if head then r.withoutBody else r), a)

end Shipyard.Platform
