import Shipyard.Deployment.Status
import Shipyard.Space.Basic
import Shipyard.Time.Instant
/-!
Deployments, images and source selections.

A deployment records which repository it belongs to, the space it was built from, the commit
(sha, branch or tag, message), who asked for it, its status and error, the deployment it rolled
back from, and when it was created and last changed. Its history view renames the commit to
`commitHash` and the creation time to `timestamp`.

An image is `registry/repository:tag`; a build tag is the first twelve characters of a commit
sha. A checkout selects exactly one of a branch, a sha or a tag.
-/
namespace Shipyard

/-- A container image reference. -/
structure Image where
  registry : String
  repository : String
  tag : String
  deriving Repr, DecidableEq

namespace Image

/-- `registry/repository:tag`. -/
def fullPath (i : Image) : String := i.registry ++ "/" ++ i.repository ++ ":" ++ i.tag

def toJson (i : Image) : Json :=
  .obj [("registry", .str i.registry), ("repository", .str i.repository), ("tag", .str i.tag)]

def schema : Schema :=
  .record "Image" [Schema.req "registry" .string, Schema.req "repository" .string, Schema.req "tag" .string]

def ofJson (j : Json) : Image :=
  ⟨(j.fieldStr? "registry").getD "", (j.fieldStr? "repository").getD "", (j.fieldStr? "tag").getD ""⟩

end Image

/-- The tag images of a commit are built under: its first twelve characters. -/
def buildTag (sha : String) : String := String.ofList (sha.toList.take 12)

/-- One deployment of a repository. -/
structure Deployment where
  id : String := ""
  repoId : String
  space : Space := {}
  sha : String := ""
  buildTag : String := ""
  branch : String := ""
  tag : String := ""
  message : String := ""
  userDisplayName : String
  status : DeploymentStatus := .init
  error : Option String := none
  rolledBackFromId : Option String := none
  createdAt : Instant := ⟨0⟩
  updatedAt : Instant := ⟨0⟩
  deriving Repr, DecidableEq

/-- `null` or a string. -/
def optStr : Option String → Json
  | some s => .str s
  | none => .null

namespace Deployment

def toJson (d : Deployment) : Json :=
  .obj [("id", .str d.id), ("repoId", .str d.repoId), ("space", d.space.toJson),
        ("sha", .str d.sha), ("buildTag", .str d.buildTag), ("branch", .str d.branch),
        ("tag", .str d.tag), ("message", .str d.message),
        ("userDisplayName", .str d.userDisplayName), ("status", .str d.status.text),
        ("error", optStr d.error), ("rolledBackFromId", optStr d.rolledBackFromId),
        ("createdAt", .str d.createdAt.text), ("updatedAt", .str d.updatedAt.text)]

/-- The history view of a deployment. -/
def historyJson (d : Deployment) : Json :=
  .obj [("id", .str d.id), ("repoId", .str d.repoId), ("status", .str d.status.text),
        ("commitHash", .str d.sha), ("buildTag", .str d.buildTag), ("message", .str d.message),
        ("timestamp", .str d.createdAt.text), ("userDisplayName", .str d.userDisplayName),
        ("rolledBackFromId", optStr d.rolledBackFromId)]

end Deployment

/-- Why a checkout could not be chosen. -/
inductive CheckoutIssue where
  | noneGiven
  | severalGiven
  deriving Repr, DecidableEq

/-- The one revision a clone resolves to. -/
inductive Checkout where
  | branch (name : String)
  | sha (sha : String)
  | tag (name : String)
  deriving Repr, DecidableEq

namespace Checkout

/-- Exactly one of branch, sha and tag must be non-empty. -/
def ofParts (branch sha tag : String) : Except CheckoutIssue Checkout :=
  let given := [branch, sha, tag].filter (!·.isEmpty)
  match given.length with
  | 0 => .error .noneGiven
  | 1 => if !branch.isEmpty then .ok (.branch branch)
         else if !sha.isEmpty then .ok (.sha sha) else .ok (.tag tag)
  | _ => .error .severalGiven

def kind : Checkout → String
  | .branch _ => "branch"
  | .sha _ => "sha"
  | .tag _ => "tag"

def value : Checkout → String
  | .branch v | .sha v | .tag v => v

/-- `branch main`, `sha abc…`, `tag v1`. -/
def display (c : Checkout) : String := c.kind ++ " " ++ c.value

/-- The branch name, or empty. -/
def branchName : Checkout → String
  | .branch b => b
  | _ => ""

/-- The tag name, or empty. -/
def tagName : Checkout → String
  | .tag t => t
  | _ => ""

end Checkout

end Shipyard
