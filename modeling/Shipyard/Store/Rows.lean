import Shipyard.Deployment.Basic
import Shipyard.Text.Hex
/-!
# The rows of the platform's store

The store keeps workspaces, users, installations of the platform's app on host accounts, the
repositories those installations cover, deployments, the keys of repository secrets, pending
sign-in states and the host tokens of users. Each kind of row is a structure here, with the
JSON it is exchanged as.

A user gets a workspace at the first sign-in. An installation belongs to the workspace of its
owner once the owner has signed in. A repository is read together with the workspace of its
installation, so a read repository (`Repository`) extends the stored row (`RepositoryRow`).

Identifiers that the store makes are texts in the 8-4-4-4-12 hexadecimal form, numbered in the
order they are handed out (`Store.idText`).
-/
namespace Shipyard

/-- A user of the platform. -/
structure User where
  id : String
  email : String
  displayName : String
  /-- The workspace made at the user's first sign-in. -/
  currentWorkspace : String
  deriving Repr, DecidableEq

def User.toJson (u : User) : Json :=
  .obj [("id", .str u.id), ("email", .str u.email), ("displayName", .str u.displayName),
        ("currentWorkspace", .str u.currentWorkspace)]

/-- A workspace: what a user's repositories, secrets and namespaces belong to. -/
structure Workspace where
  id : String
  name : String
  deriving Repr, DecidableEq

def Workspace.toJson (w : Workspace) : Json := .obj [("id", .str w.id), ("name", .str w.name)]

/-- An installation of the platform's app on a host account. -/
structure Installation where
  id : String
  /-- The host's number for the installation; no two installations share one. -/
  vcsInstallationId : Int
  /-- The host account the app is installed on. -/
  owner : String
  /-- The owner's workspace, once the owner has signed in. -/
  workspaceId : Option String
  deriving Repr, DecidableEq

def Installation.toJson (i : Installation) : Json :=
  .obj [("id", .str i.id), ("vcsInstallationId", .ofInt i.vcsInstallationId),
        ("owner", .str i.owner), ("workspaceId", optStr i.workspaceId)]

/-- Whether a user sees the repositories of an installation: it belongs to the user's workspace
or is on the user's own account. -/
def User.sees (u : User) (i : Installation) : Bool :=
  i.workspaceId == some u.currentWorkspace || i.owner == u.displayName

/-- A stored repository. -/
structure RepositoryRow where
  id : String
  /-- The host number of the installation covering the repository. -/
  installationId : Int
  /-- The host's number for the repository; no two repositories share one. -/
  vcsId : Int
  fullName : String
  defaultBranch : String := "main"
  isPrivate : Bool := false
  /-- The branch pushes deploy from, once connected. -/
  connectedBranch : Option String := none
  webhookId : Option Int := none
  connected : Bool := false
  deriving Repr, DecidableEq

/-- A repository as read: its row and the workspace of its installation. -/
structure Repository extends RepositoryRow where
  workspaceId : Option String
  deriving Repr, DecidableEq

namespace Repository

def toJson (r : Repository) : Json :=
  .obj [("id", .str r.id), ("installationId", .ofInt r.installationId), ("vcsId", .ofInt r.vcsId),
        ("fullName", .str r.fullName), ("defaultBranch", .str r.defaultBranch),
        ("private", .bool r.isPrivate), ("connectedBranch", optStr r.connectedBranch),
        ("webhookId", match r.webhookId with | some w => .ofInt w | none => .null),
        ("connected", .bool r.connected), ("workspaceId", optStr r.workspaceId)]

/-- The branch a deploy without an explicit revision builds: the connected one when it is set
and not empty, else the default one. -/
def deployBranch (r : Repository) : String :=
  match r.connectedBranch with
  | some b => if b.isEmpty then r.defaultBranch else b
  | none => r.defaultBranch

end Repository

/-- The key of a secret of a repository in a workspace; the value lives in the cluster. -/
structure SecretKey where
  workspaceId : String
  repoId : String
  key : String
  deriving Repr, DecidableEq

/-- A pending sign-in: the state handed to the identity provider and when it lapses, as the
text of that instant. -/
structure AuthState where
  state : String
  expiresAt : String
  deriving Repr, DecidableEq

/-- The host tokens of a user. -/
structure TokenPair where
  userId : String
  access : String
  refresh : String
  deriving Repr, DecidableEq

namespace Store

/-- `n` as `width` lower-case hexadecimal digits, the low ones kept. -/
def hexDigits (width n : Nat) : String :=
  String.ofList ((List.range width).reverse.map fun i => Text.hexDigit (n / Nat.pow 16 i % 16))

/-- The `n`-th identifier the store hands out. -/
def idText (n : Nat) : String :=
  hexDigits 8 n ++ "-0000-4000-8000-" ++ hexDigits 12 n

theorem hexDigits_length (width n : Nat) : (hexDigits width n).length = width := by
  simp [hexDigits]

end Store

end Shipyard
