import Shipyard.Vcs.Repository
import Shipyard.Json.Reader
/-!
# What a webhook asks for

A webhook from the host is one JSON object; every member may be missing and then takes its
empty value. Its `action` says what happened to an installation: `created` links it to its
account with its repositories, `added` and `removed` change its repositories, `deleted` drops
it. An event without an action is a push: to a branch (`refs/heads/<name>`, not empty) of a
named repository, of the commit `after`. A push whose commit is all zeros deleted the branch and
asks for nothing; so does any other action.
-/
namespace Shipyard.Webhook

open Shipyard.Vcs

/-- The repository a push went to. -/
structure PushedRepository where
  id : Int := 0
  fullName : String := ""
  deriving Repr, DecidableEq

/-- A webhook payload. -/
structure Payload where
  after : String := ""
  installationId : Int := 0
  sender : String := ""
  action : String := ""
  repositories : List HostRepository := []
  repositoriesAdded : List HostRepository := []
  repositoriesRemoved : List HostRepository := []
  gitRef : String := ""
  repository : Option PushedRepository := none
  deriving Repr

namespace Payload

def schema : Schema :=
  let repos (n : String) := Schema.opt n (.list HostRepository.schema) (.arr [])
  .record "WebhookPayload"
    [Schema.opt "after" .string (.str ""),
     Schema.opt "installation" (.record "PayloadInstallation" [Schema.opt "id" (.int 64) (.ofInt 0)])
       (.obj [("id", .ofInt 0)]),
     Schema.opt "sender" (.record "Sender" [Schema.opt "login" .string (.str "")])
       (.obj [("login", .str "")]),
     Schema.opt "action" .string (.str ""),
     repos "repositories", repos "repositories_added", repos "repositories_removed",
     Schema.opt "ref" .string (.str ""),
     Schema.opt "repository"
       (.option (.record "PushedRepository"
         [Schema.opt "id" (.int 64) (.ofInt 0), Schema.opt "full_name" .string (.str "")]))
       .null]

/-- A payload from a value that matches `schema`. -/
def ofJson (j : Json) : Payload :=
  let str (k : String) := (j.fieldStr? k).getD ""
  let repos (k : String) := (((j.field? k).bind Json.arr?).getD []).map HostRepository.ofJson
  { after := str "after",
    installationId := (((j.field? "installation").bind (·.field? "id")).bind Json.int?).getD 0,
    sender := (((j.field? "sender").bind (·.fieldStr? "login"))).getD "",
    action := str "action",
    repositories := repos "repositories",
    repositoriesAdded := repos "repositories_added",
    repositoriesRemoved := repos "repositories_removed",
    gitRef := str "ref",
    repository := (j.field? "repository").bind fun r =>
      match r with
      | .null => none
      | _ => some { id := ((r.field? "id").bind Json.int?).getD 0,
                    fullName := (r.fieldStr? "full_name").getD "" } }

/-- Reads a payload from a request body; a body of blanks alone is the empty object. -/
def read (body : ByteArray) : Except String Payload :=
  let blank (b : UInt8) := b == 32 || b == 9 || b == 10 || b == 12 || b == 13
  let body := if body.toList.all blank then "\x7b\x7d".toUTF8 else body
  (Json.readBytes schema body).map ofJson

end Payload

/-- What a webhook asks for. -/
inductive Plan where
  | link (installationId : Int) (owner : String) (repos : List HostRepository)
  | addRepos (installationId : Int) (owner : String) (repos : List HostRepository)
  | removeRepos (installationId : Int) (repos : List HostRepository)
  | deleteInstallation (installationId : Int) (repos : List HostRepository)
  | push (vcsRepoId : Int) (branch sha sender : String)
  | ignore
  deriving Repr

/-- Whether a commit name is all zeros (and not empty). -/
def isZeroSha (sha : String) : Bool := !sha.isEmpty && sha.all (· == '0')

/-- The branch a ref names, if it names one. -/
def branchOf? (ref : String) : Option String :=
  let pre := "refs/heads/".toList
  let cs := ref.toList
  if cs.take pre.length == pre then some (String.ofList (cs.drop pre.length)) else none

/-- What a payload asks for. -/
def plan (p : Payload) : Plan :=
  match p.action with
  | "created" => .link p.installationId p.sender p.repositories
  | "added" => .addRepos p.installationId p.sender p.repositoriesAdded
  | "removed" => .removeRepos p.installationId p.repositoriesRemoved
  | "deleted" => .deleteInstallation p.installationId p.repositories
  | "" =>
    if isZeroSha p.after then .ignore
    else
      match branchOf? p.gitRef, p.repository with
      | some branch, some repo => if branch.isEmpty then .ignore else .push repo.id branch p.after p.sender
      | _, _ => .ignore
  | _ => .ignore

namespace Plan

def toJson : Plan → Json
  | .link i o rs => .obj [("plan", .str "link"), ("installationId", .ofInt i), ("owner", .str o),
      ("repos", .arr (rs.map HostRepository.toJson))]
  | .addRepos i o rs => .obj [("plan", .str "addRepos"), ("installationId", .ofInt i),
      ("owner", .str o), ("repos", .arr (rs.map HostRepository.toJson))]
  | .removeRepos i rs => .obj [("plan", .str "removeRepos"), ("installationId", .ofInt i),
      ("repos", .arr (rs.map HostRepository.toJson))]
  | .deleteInstallation i rs => .obj [("plan", .str "deleteInstallation"),
      ("installationId", .ofInt i), ("repos", .arr (rs.map HostRepository.toJson))]
  | .push r b s u => .obj [("plan", .str "push"), ("vcsRepoId", .ofInt r), ("branch", .str b),
      ("sha", .str s), ("sender", .str u)]
  | .ignore => .obj [("plan", .str "ignore")]

end Plan

end Shipyard.Webhook
