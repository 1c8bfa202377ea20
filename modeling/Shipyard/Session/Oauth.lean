import Shipyard.Text.Percent
import Shipyard.Text.Split
/-!
# Signing in with the host's OAuth

The browser is sent to `<oauth url>/login/oauth/authorize` with the client id, the scopes
`read:user user:email`, the state and, when one is configured, the redirect URL, each
percent-encoded. The OAuth URL is taken without trailing slashes.
-/
namespace Shipyard.Session

open Shipyard.Text

/-- An OAuth client of the host. -/
structure OauthClient where
  clientId : String
  redirectUrl : Option String := none
  oauthUrl : String := "https://github.com"

/-- The scopes the platform asks for. -/
def oauthScopes : String := "read:user user:email"

/-- The address that starts sign-in with `state`. -/
def OauthClient.authorizeUrl (c : OauthClient) (state : String) : String :=
  trimEndChar c.oauthUrl '/' ++ "/login/oauth/authorize?client_id=" ++ percentEncode c.clientId ++
    "&scope=" ++ percentEncode oauthScopes ++ "&state=" ++ percentEncode state ++
    (match c.redirectUrl with
     | some r => "&redirect_uri=" ++ percentEncode r
     | none => "")

end Shipyard.Session
