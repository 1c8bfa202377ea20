import Shipyard.Config.Basic
import Shipyard.Registry.Basic
import Shipyard.Session.Providers
/-!
# Checking settings

Settings are refused, in this order, when the registry access is incomplete or of an unknown
kind, when a sign-in state lives less than a minute, when tokens or deployments get no time,
when webhooks must be signed but no secret is set, and when an identity server is configured
with malformed providers.
-/
namespace Shipyard.Config

/-- The shortest lifetime of a sign-in state, in seconds. -/
def minStateTtl : Nat := 60

namespace Settings

def registryAuth (s : Settings) : Except String Registry.RegistryAuth :=
  Registry.RegistryAuth.ofParts s.registryAuthType s.registryAuthUsername s.registryAuthPassword
    s.registryAuthToken

def providers (s : Settings) : Except String (List (String × String)) :=
  Session.parseProviders s.identityProviders

/-- Where the browser lands after signing in: the configured address, unless it is empty. -/
def sessionRedirect (s : Settings) : Option String := s.authRedirectUrl.filter (!·.isEmpty)

/-- Checks the settings. -/
def validate (s : Settings) : Except String Unit := do
  let _ ← s.registryAuth
  if s.authStateTtl < minStateTtl then
    throw ("AUTH_STATE_TTL must be at least " ++ toString minStateTtl ++ " seconds, got " ++
      toString s.authStateTtl)
  if s.authTtl == 0 then throw "AUTH_TTL must be positive"
  if s.deployTimeout == 0 then throw "DEPLOY_TIMEOUT must be positive"
  if s.githubWebhookSecretEnable && s.githubWebhookSecret.isEmpty then
    throw "GITHUB_WEBHOOK_SECRET is required when GITHUB_WEBHOOK_SECRET_ENABLE is set"
  if s.identityServerUrl.isSome then
    let _ ← s.providers

end Settings

end Shipyard.Config
