import Shipyard.Config.Value
/-!
# Settings of the control plane

Every setting has a command-line option `--<name>` taking one value, and a default used when
the option is not given. Each option's value has a kind that says how it is read: a port
(an integer from 0 to 65535), a count of seconds (a 64-bit unsigned integer), a switch
(`true` or `false`), a path (not empty), a duration (`parseDuration`) or free text.
-/
namespace Shipyard.Config

/-- How an option's value is read. -/
inductive ValueKind where
  | port
  | seconds
  | switch
  | path
  | duration
  | text
  deriving DecidableEq, Repr

/-- The control plane's settings. -/
structure Settings where
  httpPort : Nat := 8000
  corsAllowOrigin : String := "http://localhost:3000"
  isProd : Bool := false
  dbDsn : String := "treenq.db"
  migrationsDir : Option String := none
  dockerRegistry : String := "localhost:5000"
  registryTlsVerify : Bool := true
  registryCert : Option String := none
  registryAuthType : String := "none"
  registryAuthUsername : String := ""
  registryAuthPassword : String := ""
  registryAuthToken : String := ""
  buildkitHost : String := "tcp://localhost:1234"
  buildkitTlsCa : Option String := none
  kubeConfig : Option String := none
  ingressHost : String := "localhost"
  certIssuer : String := "letsencrypt"
  githubClientId : String := ""
  githubSecret : String := ""
  githubPrivateKey : String := ""
  githubWebhookSecret : String := ""
  githubWebhookSecretEnable : Bool := true
  githubApiUrl : String := "https://api.github.com"
  githubRedirectUrl : Option String := none
  githubCloneUrl : String := "https://github.com"
  authPrivateKey : String := ""
  authPublicKey : String := ""
  /-- The lifetime of session tokens, in seconds. -/
  authTtl : Nat := 86400
  authRedirectUrl : Option String := none
  /-- The lifetime of a sign-in state, in seconds. -/
  authStateTtl : Nat := 90
  identityServerUrl : Option String := none
  identityServerToken : String := ""
  identityProviders : String := ""
  cloneDir : Option String := none
  /-- The time a deployment may run, in seconds. -/
  deployTimeout : Nat := 300
  deploySupersede : Bool := true
  logDir : Option String := none
  appVersion : String := "0.1.0"
  deriving Repr

/-- A value read for an option. -/
inductive Value where
  | number (n : Nat)
  | flag (b : Bool)
  | text (s : String)
  deriving DecidableEq, Repr

/-- The options, each named by its setting's field in snake case. -/
def options : List (String × ValueKind) :=
  [("http_port", .port), ("cors_allow_origin", .text), ("is_prod", .switch), ("db_dsn", .path),
   ("migrations_dir", .path), ("docker_registry", .text), ("registry_tls_verify", .switch),
   ("registry_cert", .path), ("registry_auth_type", .text), ("registry_auth_username", .text),
   ("registry_auth_password", .text), ("registry_auth_token", .text), ("buildkit_host", .text),
   ("buildkit_tls_ca", .path), ("kube_config", .path), ("ingress_host", .text),
   ("cert_issuer", .text), ("github_client_id", .text), ("github_secret", .text),
   ("github_private_key", .text), ("github_webhook_secret", .text),
   ("github_webhook_secret_enable", .switch), ("github_api_url", .text),
   ("github_redirect_url", .text), ("github_clone_url", .text), ("auth_private_key", .text),
   ("auth_public_key", .text), ("auth_ttl", .duration), ("auth_redirect_url", .text),
   ("auth_state_ttl", .seconds), ("identity_server_url", .text),
   ("identity_server_token", .text), ("identity_providers", .text), ("clone_dir", .path),
   ("deploy_timeout", .seconds), ("deploy_supersede", .switch), ("log_dir", .path),
   ("app_version", .text)]

namespace Settings

/-- Sets the field an option names. -/
def assign (s : Settings) (field : String) (v : Value) : Settings :=
  let n := match v with | .number n => n | _ => 0
  let b := match v with | .flag b => b | _ => false
  let t := match v with | .text t => t | _ => ""
  match field with
  | "http_port" => { s with httpPort := n }
  | "cors_allow_origin" => { s with corsAllowOrigin := t }
  | "is_prod" => { s with isProd := b }
  | "db_dsn" => { s with dbDsn := t }
  | "migrations_dir" => { s with migrationsDir := some t }
  | "docker_registry" => { s with dockerRegistry := t }
  | "registry_tls_verify" => { s with registryTlsVerify := b }
  | "registry_cert" => { s with registryCert := some t }
  | "registry_auth_type" => { s with registryAuthType := t }
  | "registry_auth_username" => { s with registryAuthUsername := t }
  | "registry_auth_password" => { s with registryAuthPassword := t }
  | "registry_auth_token" => { s with registryAuthToken := t }
  | "buildkit_host" => { s with buildkitHost := t }
  | "buildkit_tls_ca" => { s with buildkitTlsCa := some t }
  | "kube_config" => { s with kubeConfig := some t }
  | "ingress_host" => { s with ingressHost := t }
  | "cert_issuer" => { s with certIssuer := t }
  | "github_client_id" => { s with githubClientId := t }
  | "github_secret" => { s with githubSecret := t }
  | "github_private_key" => { s with githubPrivateKey := t }
  | "github_webhook_secret" => { s with githubWebhookSecret := t }
  | "github_webhook_secret_enable" => { s with githubWebhookSecretEnable := b }
  | "github_api_url" => { s with githubApiUrl := t }
  | "github_redirect_url" => { s with githubRedirectUrl := some t }
  | "github_clone_url" => { s with githubCloneUrl := t }
  | "auth_private_key" => { s with authPrivateKey := t }
  | "auth_public_key" => { s with authPublicKey := t }
  | "auth_ttl" => { s with authTtl := n }
  | "auth_redirect_url" => { s with authRedirectUrl := some t }
  | "auth_state_ttl" => { s with authStateTtl := n }
  | "identity_server_url" => { s with identityServerUrl := some t }
  | "identity_server_token" => { s with identityServerToken := t }
  | "identity_providers" => { s with identityProviders := t }
  | "clone_dir" => { s with cloneDir := some t }
  | "deploy_timeout" => { s with deployTimeout := n }
  | "deploy_supersede" => { s with deploySupersede := b }
  | "log_dir" => { s with logDir := some t }
  | "app_version" => { s with appVersion := t }
  | _ => s

end Settings

end Shipyard.Config
