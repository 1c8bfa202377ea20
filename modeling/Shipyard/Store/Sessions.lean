import Shipyard.Store.Deployments
import Shipyard.Time.DateTime
import Shipyard.Text.Escape
/-!
# Secret keys, sign-in states and host tokens

The store lists which secret keys a repository has in a workspace (the values are in the
cluster): saving a key that is listed changes nothing, and a key needs an existing repository.

A sign-in state is kept until it is taken, which removes it, or until it has lapsed and another
state is saved, which sweeps every lapsed state. The store keeps when a state lapses as the
instant's text and sweeps by comparing texts; taking a state reads the text back, and a text
that does not read as a date-time is a failure, after the state is removed. A user has at most
one pair of host tokens, and only an existing user has one.
-/
namespace Shipyard.Store

/-- Lists a secret key of a repository in a workspace. -/
def saveSecret (k : SecretKey) : StoreM Unit := do
  let db ← get
  if db.secretKeys.contains k then return
  if !db.repositories.any (·.id == k.repoId) then
    throw (Violation.foreignKey.failure "Failed to save secret key")
  set { db with secretKeys := db.secretKeys ++ [k] }

/-- Drops a secret key from the list. -/
def removeSecret (k : SecretKey) : StoreM Unit :=
  modify fun db => { db with secretKeys := db.secretKeys.filter (· != k) }

/-- Whether a secret key is listed. -/
def secretKeyExists (k : SecretKey) : StoreM Bool := do
  return (← get).secretKeys.contains k

/-- The secret keys of a repository in a workspace, in ascending order. -/
def secretKeys (workspaceId repoId : String) : StoreM (List String) := do
  let keys := (← get).secretKeys.filter fun k => k.workspaceId == workspaceId && k.repoId == repoId
  return (keys.map (·.key)).mergeSort fun a b => !(b < a)

/-- The instant a text of the store writes. -/
def parseTimestamp (text : String) : Except StoreError Instant :=
  match DateTime.parse text with
  | .ok t => .ok t.toInstant
  | .error e => .error (.other ⟨["Failed to parse timestamp " ++ Text.debugQuote text, e.message]⟩)

/-- Keeps a sign-in state until `expiresAt`, sweeping those whose text sorts before `now`'s. -/
def saveAuthState (state : String) (expiresAt now : Instant) : StoreM Unit :=
  modify fun db =>
    let kept := db.authStates.filter fun s => !(s.expiresAt < now.text) && s.state != state
    { db with authStates := kept ++ [⟨state, expiresAt.text⟩] }

/-- Takes a sign-in state: forgets it and, if it was kept, answers when it lapses, or why its
text does not read. -/
def takeAuthState (state : String) : StoreM (Option (Except StoreError Instant)) :=
  modifyGet fun db =>
    (((db.authStates.find? (·.state == state)).map (parseTimestamp ·.expiresAt)),
     { db with authStates := db.authStates.filter (·.state != state) })

/-- Keeps a user's host tokens, replacing those kept. -/
def saveTokenPair (p : TokenPair) : StoreM Unit := do
  let db ← get
  if !db.users.any (·.id == p.userId) then
    throw (Violation.foreignKey.failure "Failed to save token pair")
  set { db with tokenPairs := db.tokenPairs.filter (fun (q : TokenPair) => q.userId != p.userId) ++ [p] }

/-- A user's host tokens. -/
def getTokenPair (userId : String) : StoreM (Option TokenPair) := do
  return (← get).tokenPairs.find? (·.userId == userId)

/-- Forgets a user's host tokens. -/
def deleteTokenPair (userId : String) : StoreM Unit :=
  modify fun db => { db with tokenPairs := db.tokenPairs.filter (·.userId != userId) }

end Shipyard.Store
