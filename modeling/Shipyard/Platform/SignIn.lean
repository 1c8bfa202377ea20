import Shipyard.Platform.App
import Shipyard.Http.Message
/-!
# Signing in and out

Signing in goes through the code host's authorization page. `auth` hands out a fresh state,
keeps it in the store until it lapses, sets it as the `authstate` cookie, and sends the browser
to the host. The host sends the browser back to `authCallback` with a code and the state; the
state must be the cookie's, known to the store (each state is used once), and not lapsed, and
the code must be given. The code is exchanged for the user's host tokens (a code starting with
`bad` is refused), the user is found or made, the tokens are kept, and a session token for the
user's id, email and display name is issued: as the `authToken` cookie, and either as JSON or by
sending the browser on, when a landing page is set. The state cookie is cleared.

`login` starts a sign-in through an identity provider of the identity server; the server is out
of reach, so a known provider fails. `logout` forgets the caller's host tokens and clears the
session cookie.
-/
namespace Shipyard.Platform

open Shipyard.Store
open Shipyard.Http
open Shipyard.Token

/-- The cookie holding the session token. -/
def authCookieName : String := "authToken"

/-- The cookie holding the sign-in state. -/
def stateCookieName : String := "authstate"

/-- Where the code host authorizes a sign-in. -/
def authorizePage : String := "https://github.test/login/oauth/authorize"

/-- A cookie for the whole site, hidden from scripts. -/
def cookie (name value : String) (maxAge : Nat) (secure : Bool) : String :=
  name ++ "=" ++ value ++ "; Path=/; HttpOnly; SameSite=Lax; Max-Age=" ++ toString maxAge ++
    (if secure then "; Secure" else "")

/-- The `n`-th sign-in state handed out. -/
def stateText (n : Nat) : String :=
  Store.hexDigits 8 n ++ "-0000-4000-9000-" ++ Store.hexDigits 12 n

/-- A fresh sign-in state. -/
def freshState {ε : Type} : AppM ε String :=
  modifyGet fun a => (stateText (a.states + 1), { a with states := a.states + 1 })

/-- `auth`: starts a sign-in at the code host. -/
def beginSignIn : AppM RpcError Response := do
  let state ← freshState
  let a ← get
  stored (saveAuthState state (a.now.addMicros (a.settings.stateTtl * 1000000)) a.now)
  return (Response.redirect 307 (authorizePage ++ "?state=" ++ state)).withHeader "set-cookie"
    (cookie stateCookieName state a.settings.stateTtl a.settings.secureCookies)

/-- Checks the state a sign-in comes back with against the cookie and the store. -/
def checkState (cookieState : Option String) (state : String) : AppM RpcError Unit := do
  let some fromCookie := cookieState
    | throw (.new "COOKIE_IS_EMPTY" "auth state cookie is missing")
  if state.isEmpty || fromCookie != state then
    throw (.new "STATE_DOESNT_MATCH" "auth state does not match the cookie")
  match ← stored (takeAuthState state) with
  | none => throw (.new "STATE_DOESNT_MATCH" "auth state is unknown or already used")
  | some (.error e) => throw e.toRpc
  | some (.ok expiresAt) =>
    if expiresAt < (← get).now then throw (.new "STATE_EXPIRED" "auth state expired")

/-- Signs the user of an authorization code in, answering a session token. -/
def signIn (code : String) : AppM RpcError String := do
  if code.startsWith "bad" then throw (.unauthorized "bad verification code")
  let u ← stored (getOrCreateUser ⟨"", code ++ "@example.com", code, ""⟩)
  stored (saveTokenPair ⟨u.id, "access-" ++ code, "refresh-" ++ code⟩)
  let claims : Claims := [("displayName", .str u.displayName), ("email", .str u.email),
                          ("id", .str u.id)]
  let a ← get
  match a.issuer.issueAt claims a.now.seconds with
  | .ok token => return token
  | .error e => throw e.toRpc

/-- `authCallback`: completes a sign-in. -/
def completeSignIn (cookieState : Option String) (code state : String) : AppM RpcError Response := do
  checkState cookieState state
  if code.isEmpty then throw (.new "FAILED_DECODING" "code is required")
  let token ← signIn code
  let s := (← get).settings
  let answer := match s.redirectUrl with
    | some url => Response.redirect 303 url
    | none => Response.json 200 (.obj [("accessToken", .str token)])
  return (answer.withHeader "set-cookie"
      (cookie authCookieName token (← get).issuer.ttl s.secureCookies)).withHeader "set-cookie"
    (cookie stateCookieName "" 0 s.secureCookies)

/-- `login`: starts a sign-in through an identity provider. -/
def loginWith (provider : String) : AppM RpcError Response := do
  match (← get).settings.providers with
  | some ps =>
    if ps.any (·.1 == provider) then
      throw (AuthError.other (.msg "identity server unreachable")).toRpc
    else throw (AuthError.providerNotFound provider).toRpc
  | none => throw (AuthError.providerNotFound provider).toRpc

/-- `logout`: forgets the caller's host tokens and clears the session cookie. -/
def signOut (claims : Claims) : AppM RpcError Response := do
  let id := Auth.claimText claims "id"
  if !id.isEmpty then stored (deleteTokenPair id)
  let s := (← get).settings
  return (Response.empty 200).withHeader "set-cookie" (cookie authCookieName "" 0 s.secureCookies)

end Shipyard.Platform
