import Shipyard.Console.Store
import Shipyard.Console.Session
import Shipyard.Console.Progress
import Shipyard.Platform.Router
import Shipyard.Session.Providers
import Shipyard.Text.Utf8
import Shipyard.Text.Percent
import Shipyard.Text.Base64
import Shipyard.Json.Reader
/-!
# A session on the whole application

Steps act on one application: they call the store directly, send requests through the router,
change how the code host, registry and cluster behave, and look at the progress bus and the
state of the services. After every step the application settles (the runs queued by the step
are carried out) and the step's answer is redacted, with one numbering for the session.

References in steps are read as in a store session. Requests carry a bearer token when a step
asks: `as` a user (a token for the user's id, or for the name when no user of that name was
shown), a raw `token`, a token issued for `claims`, or a `crafted` one. Responses are answered by
their status, the headers a client looks at, and their body. The deployments a response shows,
the user a sign-in answers, and the last sign-in state cookie set are remembered.

The clock moves on by a millisecond before every step.
-/
namespace Shipyard.Console

open Shipyard.Platform
open Shipyard.Http
open Shipyard.Services
open Shipyard.Store
open Shipyard.Vcs
open Shipyard.Token

/-- The application, what answers have shown, and the console's keys. -/
structure AppSession where
  app : App
  refs : StoreSession := {}
  keys : Keys
  /-- The value of the last `authstate` cookie a response set to something. -/
  stateCookie : String := ""

/-- The application's settings from a session's `config`, or why it cannot start. -/
def appSettings (cfg : Json) : Except Json Settings := do
  let d : Settings := {}
  let bool (k : String) (dflt : Bool) : Bool := ((cfg.field? k).bind Json.bool?).getD dflt
  let str (k dflt : String) : String := (cfg.fieldStr? k).getD dflt
  let providers ← match cfg.fieldStr? "identity_providers" with
    | some spec => match Session.parseProviders spec with
      | .ok ps => pure (some ps)
      | .error m => throw (failure "BadInput" m)
    | none => pure none
  let cors ← (Cors.ofOrigin (str "cors_origin" "http://localhost:3000")).mapError
    (failure "RouterConfig")
  return { supersede := bool "supersede" d.supersede,
           deployTimeoutMs := ((int? cfg "deploy_timeout_ms").map (max 1 ·.toNat)).getD d.deployTimeoutMs,
           cluster := { ingressHost := str "ingress_host" d.cluster.ingressHost,
                        certIssuer := str "cert_issuer" d.cluster.certIssuer },
           stateTtl := match int? cfg "state_ttl_secs" with
             | some i => if 0 ≤ i then i.toNat else d.stateTtl
             | none => d.stateTtl,
           redirectUrl := cfg.fieldStr? "redirect_url",
           secureCookies := bool "secure_cookies" d.secureCookies,
           providers,
           version := str "app_version" d.version,
           webhookSecret := match cfg.field? "webhook_secret" with
             | some .null => none
             | some (.str s) => some s
             | _ => d.webhookSecret,
           cors }

namespace AppSession

/-- A token issued now for the claims. -/
def tokenFor (s : AppSession) (claims : Claims) : String :=
  match s.app.issuer.issueAt claims s.app.now.seconds with
  | .ok t => t
  | .error _ => ""

/-- A token for the user shown under a name, or for the name itself. -/
def userToken (s : AppSession) (name : String) : String :=
  s.tokenFor [("id", .str (((s.refs.users.lookup name).map (·.id)).getD name))]

/-- A header value with every `$token:<name>` replaced by that user's token; the name runs
until `;`, a blank or the end. -/
def withTokens (s : AppSession) (v : String) : String :=
  match v.splitOn "$token:" with
  | [] => v
  | first :: rest =>
    first ++ String.join (rest.map fun piece =>
      let cs := piece.toList
      let name := cs.takeWhile fun c => c != ';' && c != ' '
      s.userToken (String.ofList name) ++ String.ofList (cs.drop name.length))

/-- The bearer token a step asks for. -/
def bearer? (s : AppSession) (cmd : Json) : Option String :=
  match text? cmd "as", text? cmd "token", (cmd.field? "claims").bind Json.obj?,
      cmd.field? "crafted" with
  | some name, _, _, _ => some (s.userToken name)
  | none, some t, _, _ => some t
  | none, none, some claims, _ => some (s.tokenFor claims)
  | none, none, none, some c =>
    some (match craftToken s.keys c with
      | .ok t => t
      | .error e => Json.render e.sortKeys)
  | none, none, none, none => none

/-- The headers a step adds: its bearer token, a second authorization value, and its own. -/
def authHeaders (s : AppSession) (cmd : Json) : List (String × String) :=
  ((s.bearer? cmd).map fun t => [("authorization", "Bearer " ++ t)]).getD [] ++
  ((text? cmd "authorization").map fun v => [("authorization", v)]).getD [] ++
  ((((cmd.field? "headers").bind Json.obj?).getD []).map fun (k, v) =>
    (k, s.withTokens ((v.str?).getD ""))).mergeSort fun a b => !(b.1 < a.1)

end AppSession

/-- A step's body: `body_raw` as it is, else the field `key` written compactly. -/
def stepBody (cmd : Json) (key : String) : ByteArray :=
  match text? cmd "body_raw" with
  | some raw => raw.toUTF8
  | none => (Json.render ((cmd.field? key).getD (.obj [])).sortKeys).toUTF8

/-- The headers an answer shows with one value. -/
def shownHeaders : List String :=
  ["access-control-allow-credentials", "access-control-allow-headers",
   "access-control-allow-methods", "access-control-allow-origin", "cache-control", "connection",
   "content-type", "location"]

/-- The headers an answer shows with all their values. -/
def listedHeaders : List String := ["set-cookie", "vary"]

/-- The headers of a response as an answer shows them. -/
def headersJson (hs : List (String × String)) : Json :=
  let values (n : String) := (hs.filter (·.1 == n)).map (·.2)
  .obj ((shownHeaders.filterMap fun n =>
      match values n with
      | [] => none
      | vs => some (n, .str (", ".intercalate vs))) ++
    (listedHeaders.filterMap fun n =>
      match values n with
      | [] => none
      | vs => some (n, Json.ofStrings vs)))

/-- The body of a response as an answer shows it: JSON when it is JSON, else text. -/
def bodyJson : Body → Json
  | .empty => .null
  | .bytes b =>
    if b.isEmpty then .null
    else match Json.readBytes .any b with
      | .ok j => j
      | .error _ => .str (Text.lossyUtf8 b.toList)
  | .events data ended =>
    .obj [("events", .arr (data.map (·.erase "timestamp"))), ("otherLines", .arr []),
          ("ended", .bool ended)]

/-- A response as a step answers it. -/
def responseJson (r : Response) : Json :=
  .obj [("status", .ofNat r.status), ("headers", headersJson r.headers), ("body", bodyJson r.body)]

/-- The `id` claim of a session token, read without checking it. -/
def tokenId? (token : String) : Option String := do
  let payload ← (token.splitOn ".")[1]?
  let bytes : List UInt8 ← (Text.Base64.decode Text.Base64.urlSafe payload.toUTF8.toList).toOption
  let claims ← (Json.readBytes .any (ByteArray.mk bytes.toArray)).toOption
  claims.fieldStr? "id"

/-- The value a `Set-Cookie` header gives the cookie `name`, if it sets it. -/
def setCookieValue? (name header : String) : Option String :=
  if header.startsWith (name ++ "=") then
    some (String.ofList ((header.toList.drop (name.length + 1)).takeWhile (· != ';')))
  else none

namespace AppSession

/-- Remembers what a response shows: deployments, the user signed in, the state cookie. -/
def rememberResponse (s : AppSession) (r : Response) : AppSession :=
  let body := bodyJson r.body
  let shown := ((body.field? "deployment").bind (·.fieldStr? "id")).toList ++
    (((body.field? "deploymentIds").bind Json.arr?).getD []).filterMap Json.str?
  let deployments := shown.foldl (fun acc d => if acc.contains d then acc else acc.push d)
    s.refs.deployments
  let users := match (body.fieldStr? "accessToken").bind tokenId? with
    | some id => match getUser id s.app.db with
      | .ok (u, _) => [u]
      | .error _ => []
    | none => []
  let cookie := (((r.headers.filter (·.1 == "set-cookie")).filterMap fun (_, v) =>
    setCookieValue? stateCookieName v).filter (!·.isEmpty)).getLast?.getD s.stateCookie
  { s with refs := { s.refs with deployments }.remember users [], stateCookie := cookie }

/-- Sends a request built of parts, answering the response, or why the parts make no request. -/
def send (s : AppSession) (method target : String) (headers : List (String × String))
    (body : ByteArray) : AppSession × Json :=
  match Request.problem? method target headers with
  | some m => (s, failure "BadRequest" m)
  | none =>
    let (r, app) := s.app.serve (Request.make method target headers body)
    ({ s with app }.rememberResponse r, responseJson r)

/-- Runs a store operation for a step, answering `{"ok": …}` or the store's failure. -/
def storeStep {α : Type} (s : AppSession) (op : StoreM α) (shown : α → StepResult) :
    AppSession × Json :=
  match op s.app.db with
  | .ok (a, db) =>
    let r := shown a
    ({ s with app := { s.app with db }, refs := s.refs.remember r.users r.deployments },
     .obj [("ok", r.value)])
  | .error e => (s, failure e.kind e.fullMessage)

/-- A fake setting that is a text, or none to clear it. -/
def setting (cmd : Json) (k : String) (current : Option String) : Option String :=
  match cmd.field? k with
  | none => current
  | some (.str v) => some v
  | some _ => none

/-- Changes how the services behave. -/
def fakes (s : AppSession) (cmd : Json) : AppSession :=
  let a := s.app
  let h := a.host
  let ints (k : String) : Option (List Int) :=
    (cmd.field? k).bind Json.arr? |>.map (·.filterMap Json.int?)
  let host : Host :=
    { h with
      manifest := match cmd.field? "manifest" with
        | none => h.manifest
        | some (.str m) => some m
        | some _ => none,
      manifestFile := (cmd.fieldStr? "manifest_file").getD h.manifestFile,
      failCheckout := setting cmd "fail_git" h.failCheckout,
      failToken := setting cmd "fail_token" h.failToken,
      rejectUserToken := ((cmd.field? "reject_user_token").bind Json.bool?).getD h.rejectUserToken,
      branchManifest := ((cmd.fieldStr? "repo_space").bind BranchManifest.ofName?).getD
        h.branchManifest,
      branches := ((cmd.field? "branches").bind Json.arr? |>.map (·.filterMap Json.str?)).getD
        h.branches,
      installations := (ints "installations").getD h.installations,
      repositories := match (cmd.field? "vcs_repos").bind Json.obj? with
        | some kvs => kvs.filterMap fun (k, v) =>
          (integerOf? k.toList).map fun i =>
            (i, ((v.arr?).getD []).map HostRepository.ofJson)
        | none => h.repositories }
  let r := a.registry
  let registry : Registry :=
    { r with
      failBuild := setting cmd "fail_build" r.failBuild,
      failInspect := setting cmd "fail_inspect" r.failInspect,
      hold := ((cmd.field? "hold").bind Json.bool?).getD r.hold,
      published := r.published ++
        (((cmd.field? "publish").bind Json.arr?).getD []).filterMap Json.str? }
  let cluster := { a.cluster with failApply := setting cmd "fail_apply" a.cluster.failApply }
  { s with app := { a with host, registry, cluster } }

/-- A text as the session's answers will show it. -/
def shown (r : Redaction) (t : String) : String × Redaction := r.text t

/-- What the services hold, as a `state` step answers it. -/
def stateJson (s : AppSession) (bodies : Bool) : Json :=
  let a := s.app
  let (keyed, _) := a.cluster.objects.foldl (fun (acc : List ((String × String × String) × Placed) × Redaction) p =>
      let (ns, r) := shown acc.2 p.ns
      let (name, r) := shown r p.name
      (acc.1 ++ [((p.kind, ns, name), p)], r)) ([], s.refs.redaction)
  let before (x y : String × String × String) : Bool :=
    x.1 < y.1 || (x.1 == y.1 && (x.2.1 < y.2.1 || (x.2.1 == y.2.1 && !(y.2.2 < x.2.2))))
  let objects := (keyed.mergeSort fun x y => before x.1 y.1).map fun (_, p) =>
    Json.obj ([("kind", .str p.kind), ("namespace", .str p.ns), ("name", .str p.name)] ++
      (if bodies then [("body", p.body)] else []))
  let (keyedSecrets, _) := a.cluster.secrets.foldl (fun (acc : List ((String × String) × SecretSet) × Redaction) e =>
      let (ns, r) := shown acc.2 e.ns
      let (repo, r) := shown r e.repo
      (acc.1 ++ [((ns, repo), e)], r)) ([], s.refs.redaction)
  let secrets := (keyedSecrets.mergeSort fun x y =>
      x.1.1 < y.1.1 || (x.1.1 == y.1.1 && !(y.1.2 < x.1.2))).map fun (_, e) =>
    Json.obj [("namespace", .str e.ns), ("repo", .str e.repo),
              ("values", .obj (e.values.map fun (k, v) => (k, .str v)))]
  .obj [("objects", .arr objects), ("secrets", .arr secrets),
        ("removedNamespaces", Json.ofStrings a.cluster.removedNamespaces),
        ("applies", .ofNat a.cluster.applies),
        ("applyReports", .arr (a.cluster.reports.map ApplyReport.toJson)),
        ("builds", .ofNat a.registry.builds),
        ("lastBuild", (a.registry.lastBuild.map BuildRecord.toJson).getD .null),
        ("published", Json.ofStrings a.registry.published),
        ("clones", .ofNat a.host.checkouts),
        ("leftoverClones", .ofNat a.host.trees.length),
        ("inFlight", .ofNat a.inFlight),
        ("progressEntries", .ofNat a.bus.size)]

/-- The progress of a deployment that is ready, as a `progress` step answers it. -/
def progress (s : AppSession) (id : String) : AppSession × Json :=
  let a := s.app
  match a.bus.subscribeExisting id with
  | (_, none) => (s, .obj [("messages", .null)])
  | (bus, some sub) =>
    let (sub, messages, ending) := BusSession.drain bus a.now 1000 sub []
    ({ s with app := { a with bus := bus.release sub } },
     .obj [("messages", .arr messages), ("end", .str ending)])

/-- Runs one step, before the application settles. -/
def run (s : AppSession) (cmd : Json) : AppSession × Json :=
  let str := text cmd
  match str "do" with
  | "user" =>
    let name := str "name"
    s.storeStep (getOrCreateUser ⟨str "id", textOr cmd "email" (name ++ "@example.com"), name, ""⟩)
      fun u => ⟨u.toJson, [u], []⟩
  | "link" =>
    let installation := match int? cmd "installation_id" with
      | some i => if int64Min ≤ i && i ≤ int64Max then i else 0
      | none => 0
    let repos : Except Json Json := match cmd.field? "repos" with
      | none => .ok (.arr [])
      | some j => (Json.check (.list HostRepository.schema) j).mapError (failure "BadInput")
    match repos with
    | .ok j =>
      let repos := ((j.arr?).getD []).map HostRepository.ofJson
      s.storeStep (linkInstallation installation (str "owner") repos) fun x => ⟨x.toJson, [], []⟩
    | .error e => (s, e)
  | "connect" =>
    s.storeStep (connectRepo (str "user") (str "repo") (str "branch")) fun r => ⟨r.toJson, [], []⟩
  | "save_deployment" =>
    match deploymentField cmd with
    | .ok d => s.storeStep (saveDeployment d s.app.now) deploymentResult
    | .error e => (s, e)
  | "update_deployment" =>
    match deploymentField cmd with
    | .ok d => s.storeStep (updateDeployment d s.app.now) deploymentResult
    | .error e => (s, e)
  | "deployments" =>
    s.storeStep (getDeployments (str "repo")) fun ds => ⟨.arr (ds.map Deployment.toJson), [], ds⟩
  | "rpc" =>
    s.send "POST" ("/" ++ str "op") ([("content-type", "application/json")] ++ s.authHeaders cmd)
      (stepBody cmd "body")
  | "http" =>
    s.send (textOr cmd "method" "GET") (str "path") (s.authHeaders cmd)
      ((text? cmd "body_raw").map String.toUTF8 |>.getD .empty)
  | "webhook" =>
    let body := stepBody cmd "payload"
    let secret := (text? cmd "sign_with").getD (s.app.settings.webhookSecret.getD "test-webhook-secret")
    let signature := match cmd.field? "signature" with
      | none => [("x-hub-signature-256", Webhook.sign secret.toUTF8.toList body.toList)]
      | some .null => []
      | some (.str v) => [("x-hub-signature-256", v)]
      | some _ => [("x-hub-signature-256", Webhook.sign secret.toUTF8.toList body.toList)]
    s.send "POST" "/githubWebhook" ([("content-type", "application/json")] ++ signature) body
  | "auth_callback" =>
    let state := (text? cmd "state").getD s.stateCookie
    let cookie := match cmd.field? "cookie_state" with
      | none => [("cookie", "theme=dark; authstate=" ++ s.stateCookie)]
      | some .null => []
      | some v => [("cookie", "theme=dark; authstate=" ++ (v.str?).getD "")]
    s.send "GET" ("/authCallback?code=" ++ Text.percentEncode (str "code") ++ "&state=" ++
      Text.percentEncode state) cookie .empty
  | "progress" => s.progress (str "deployment")
  | "fakes" => (s.fakes cmd, .obj [("ok", .bool true)])
  | "state" => (s, s.stateJson (flag cmd "bodies"))
  | "drain" => (s, .obj [("inFlight", .ofNat s.app.inFlight)])
  | other => (s, failure "UnknownStep" other)

/-- Runs one step: moves the clock on, resolves the step's references, runs it, lets the
application settle, and redacts the answer. -/
def step (s : AppSession) (cmd : Json) : AppSession × Json :=
  let s := { s with app := { s.app with now := s.app.now.addMicros 1000 } }
  let refs := { s.refs with db := s.app.db }
  let (s, answer) := { s with refs }.run (refs.resolve cmd)
  let s := { s with app := s.app.settle }
  let (answer, redaction) := s.refs.redaction.answer answer
  ({ s with refs := { s.refs with redaction } }, answer)

/-- Runs steps in order, collecting their answers. -/
def runAll : AppSession → List Json → List Json
  | _, [] => []
  | s, cmd :: rest =>
    let (s, a) := s.step cmd
    a :: runAll s rest

end AppSession

/-- `app`: steps on one application, set up by `config`. -/
def appSession (keys : Keys) (start : Instant) (cmd : Json) : Json :=
  match appSettings ((cmd.field? "config").getD .null) with
  | .error e => e
  | .ok settings =>
    match sessionIssuer keys "treenq" with
    | .error e => authFailure e
    | .ok issuer =>
      let steps := ((cmd.field? "steps").bind Json.arr?).getD []
      .obj [("steps", .arr (AppSession.runAll { app := { settings, issuer, now := start }, keys } steps))]

end Shipyard.Console
