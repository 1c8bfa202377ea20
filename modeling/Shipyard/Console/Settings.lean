import Shipyard.Console.Answer
import Shipyard.Config.Value
import Shipyard.Registry.Basic
import Shipyard.Session.Cookie
import Shipyard.Session.Providers
import Shipyard.Session.Oauth
import Shipyard.Secret.Key
import Shipyard.Text.Escape
import Shipyard.Config.CommandLine
import Shipyard.Config.Check
/-!
# Commands on settings and session helpers
-/
namespace Shipyard.Console

open Shipyard.Session

/-- `secret_key_valid`. -/
def secretKeyValid (cmd : Json) : Json := .bool (Secret.isValidKey (text cmd "key"))

/-- The strings of an array field; an item that is not a string reads as the empty one. -/
def strings (cmd : Json) (k : String) : List String :=
  (((cmd.field? k).bind Json.arr?).getD []).map fun v => (v.str?).getD ""

/-- `read_cookie`: the cookie's value, or `null`; every value must be a header value. -/
def readCookieOf (cmd : Json) : Json :=
  let headers := strings cmd "cookies"
  match headers.find? (!isHeaderValue ·) with
  | some bad => failure "InvalidHeaderValue" (Text.debugQuote bad)
  | none =>
    match readCookie headers (text cmd "name") with
    | some v => .str v
    | none => .null

/-- `parse_providers`. -/
def parseProvidersOf (cmd : Json) : Json :=
  match parseProviders (text cmd "spec") with
  | .ok ps => .obj (ps.map fun (n, i) => (n, .str i))
  | .error m => failure "InvalidProviders" m

/-- `parse_duration`. -/
def parseDurationOf (cmd : Json) : Json :=
  match Config.parseDuration (text cmd "value") with
  | .ok n => .ofNat n
  | .error e => failure "InvalidDuration" e.message

/-- `load_key`. -/
def loadKeyOf (cmd : Json) : Json :=
  match Config.loadKey (text cmd "value") with
  | .ok k => .str k
  | .error e => failure "InvalidKey" e.message

/-- `registry_auth`: the access's description. -/
def registryAuthOf (cmd : Json) : Json :=
  match Registry.RegistryAuth.ofParts (text cmd "kind") (text cmd "username") (text cmd "password")
      (text cmd "token") with
  | .ok a => .str a.describe
  | .error m => failure "InvalidRegistryAuth" m

/-- `registry_image`. -/
def registryImageOf (cmd : Json) : Json :=
  let i := Registry.image (text cmd "registry") (text cmd "name") (text cmd "tag")
  .obj [("image", i.toJson), ("fullPath", .str i.fullPath)]

/-- `oauth_authorize_url`. -/
def oauthAuthorizeUrl (cmd : Json) : Json :=
  let c : OauthClient := { clientId := text cmd "client_id", redirectUrl := text? cmd "redirect_url",
                           oauthUrl := textOr cmd "oauth_url" "https://github.com" }
  .str (c.authorizeUrl (text cmd "state"))

/-- Text or `null`. -/
def optText : Option String → Json
  | some s => .str s
  | none => .null

/-- The settings as an answer: the settings themselves, the views derived from them, and
whether they pass the check. -/
def settingsJson (s : Config.Settings) : Json :=
  let orError {α : Type} (r : Except String α) (f : α → Json) : Json :=
    match r with
    | .ok a => f a
    | .error m => .obj [("error", .str m)]
  .obj ([("httpPort", .ofNat s.httpPort), ("corsAllowOrigin", .str s.corsAllowOrigin),
    ("isProd", .bool s.isProd), ("dbDsn", .str s.dbDsn), ("dockerRegistry", .str s.dockerRegistry),
    ("registryTlsVerify", .bool s.registryTlsVerify), ("registryAuthType", .str s.registryAuthType),
    ("buildkitHost", .str s.buildkitHost), ("ingressHost", .str s.ingressHost),
    ("certIssuer", .str s.certIssuer), ("githubApiUrl", .str s.githubApiUrl),
    ("githubCloneUrl", .str s.githubCloneUrl),
    ("githubWebhookSecretEnable", .bool s.githubWebhookSecretEnable),
    ("authTtlSecs", .ofNat s.authTtl), ("authStateTtl", .ofNat s.authStateTtl),
    ("deployTimeout", .ofNat s.deployTimeout), ("deploySupersede", .bool s.deploySupersede),
    ("appVersion", .str s.appVersion), ("identityServerUrl", optText s.identityServerUrl),
    ("server", .obj [("port", .ofNat s.httpPort), ("corsAllowOrigin", .str s.corsAllowOrigin)]),
    ("session", .obj [("stateTtlSecs", .ofNat s.authStateTtl),
      ("redirectUrl", optText s.sessionRedirect), ("secureCookies", .bool s.isProd)]),
    ("pipeline", .obj [("ingressHost", .str s.ingressHost), ("certIssuer", .str s.certIssuer),
      ("deployTimeoutSecs", .ofNat s.deployTimeout), ("supersede", .bool s.deploySupersede)]),
    ("logging", .obj [("json", .bool s.isProd), ("dir", optText s.logDir)]),
    ("registryAuth", orError s.registryAuth fun a => .str a.describe),
    ("identityProviders", orError s.providers fun ps => .obj (ps.map fun (n, i) => (n, .str i)))] ++
    (match s.cloneDir with | some d => [("cloneRoot", .str d)] | none => []) ++
    [("validate", orError s.validate fun _ => .str "ok")])

/-- `config`: the settings a command line gives. -/
def configOf (cmd : Json) : Json :=
  match Config.Settings.ofArgs (strings cmd "args") with
  | .ok s => settingsJson s
  | .error e => .obj [("error", .str "ClapError"), ("kind", .str e.kind), ("message", .str e.message)]

end Shipyard.Console
