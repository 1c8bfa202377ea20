import Shipyard.Vcs.Repository
import Shipyard.Deployment.Basic
import Shipyard.Space.Manifest
import Shipyard.Text.Hex
/-!
# The code host, in memory

The platform asks its code host for tokens that act for an installation; for what a signed-in
user reaches (installations, their repositories, the branches of a repository and the manifest
of a branch); and for checkouts of commits. This host answers from settings that a session may
change:

* a token for installation `i` is `token-<i>`, unless tokens are set to fail with a message;
* a user reaches the listed installations, unless the user's token is set to be refused;
* an installation covers the repositories listed for it, and every repository has the listed
  branches;
* the manifest of a branch is valid, missing, invalid or out of reach, as set;
* a checkout makes the working tree `<repository>-<n>`, where `n` counts the checkouts made
  before, and puts the set manifest file in it, if one is set. Its commit is the one asked for;
  for a branch or a tag it is the hexadecimal of the name's UTF-8 bytes, padded with `0` to 40
  digits. Its message is `commit for <checkout>`. Checkouts fail with a message when set to,
  and then make no tree.
-/
namespace Shipyard.Services

open Shipyard.Vcs

/-- What the host answers for the manifest of a branch. -/
inductive BranchManifest where
  | valid
  | missing
  | invalid
  | unreachable
  deriving Repr, DecidableEq

/-- The setting's name for each answer: `ok`, `missing`, `invalid` and `transport`. -/
def BranchManifest.ofName? : String → Option BranchManifest
  | "ok" => some .valid
  | "missing" => some .missing
  | "invalid" => some .invalid
  | "transport" => some .unreachable
  | _ => none

/-- The manifest a checkout holds unless set otherwise. -/
def defaultManifest : String :=
  "\x7b\"service\":\x7b\"name\":\"web\",\"httpPort\":8080,\"replicas\":1," ++
    "\"runtimeEnvs\":\x7b\"MODE\":\"prod\"\x7d\x7d\x7d"

/-- A working tree: its directory and the manifest file in it, by name and text. -/
structure WorkTree where
  dir : String
  manifest : Option (String × String)
  deriving Repr

/-- A checkout made: its tree, commit and commit message. -/
structure CheckedOut where
  tree : WorkTree
  sha : String
  message : String
  deriving Repr

/-- The code host. -/
structure Host where
  failToken : Option String := none
  rejectUserToken : Bool := false
  installations : List Int := []
  repositories : List (Int × List HostRepository) := []
  branches : List String := ["main", "dev"]
  branchManifest : BranchManifest := .valid
  /-- The text of the manifest file a checkout holds; none for no file. -/
  manifest : Option String := some defaultManifest
  manifestFile : String := "tq.json"
  failCheckout : Option String := none
  /-- How many checkouts were made. -/
  checkouts : Nat := 0
  /-- The directories of the working trees that exist. -/
  trees : List String := []
  deriving Repr

/-- The commit a checkout of a branch or tag lands on: the name's bytes in hexadecimal, padded
with `0` to 40 digits. -/
def nameCommit (name : String) : String :=
  let hex := Text.hexOf name.toUTF8.toList
  hex ++ String.ofList (List.replicate (40 - hex.length) '0')

/-- The commit a checkout lands on. -/
def commitOf : Checkout → String
  | .sha s => s
  | .branch b => nameCommit b
  | .tag t => nameCommit t

namespace Host

/-- A token acting for an installation. -/
def accessToken (h : Host) (installation : Int) : Except SourceError String :=
  match h.failToken with
  | some m => .error (.other (.msg m))
  | none => .ok ("token-" ++ toString installation)

/-- The installations a user's token reaches. -/
def userInstallations (h : Host) : Except SourceError (List Int) :=
  if h.rejectUserToken then .error (.tokenRejected "Bad credentials") else .ok h.installations

/-- The repositories an installation covers. -/
def repositoriesOf (h : Host) (installation : Int) : List HostRepository :=
  (h.repositories.lookup installation).getD []

/-- Checks the manifest of a branch. -/
def checkBranch (h : Host) (branch : String) : Except SourceError Unit :=
  match h.branchManifest with
  | .valid => .ok ()
  | .missing => .error .noManifest
  | .invalid => .error (.invalidSpace ("bad manifest at " ++ branch))
  | .unreachable => .error (.transport "connection reset")

/-- Checks out a commit of a repository into a new working tree. -/
def checkout (h : Host) (repoId : String) (c : Checkout) : Except SourceError (Host × CheckedOut) :=
  match h.failCheckout with
  | some m => .error (.other (.msg m))
  | none =>
    let dir := repoId ++ "-" ++ toString h.checkouts
    let tree : WorkTree := ⟨dir, h.manifest.map fun text => (h.manifestFile, text)⟩
    .ok ({ h with checkouts := h.checkouts + 1, trees := h.trees ++ [dir] },
         ⟨tree, commitOf c, "commit for " ++ c.display⟩)

/-- Removes a working tree. -/
def removeTree (h : Host) (dir : String) : Host := { h with trees := h.trees.filter (· != dir) }

end Host

/-- The manifest of a working tree: the first of the manifest files it holds, read and
validated. -/
def WorkTree.space (t : WorkTree) : Except SourceError Space :=
  match manifestFiles.find? fun name => (t.manifest.map (·.1 == name)).getD false with
  | some name => Space.decode name ((t.manifest.map (·.2)).getD "")
  | none => .error .noManifest

end Shipyard.Services
