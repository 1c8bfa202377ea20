/-!
Errors at the boundaries of the platform, one type per collaborator: the store, the source
(version control, checkout, manifest), the image registry, the cluster and authentication.
Each has a catch-all `other` carrying a `Failure`, a message with the contexts it was wrapped
in. `message` gives what each error says.
-/
namespace Shipyard

/-- A failure that means nothing beyond its text: its messages, outermost context first. -/
structure Failure where
  chain : List String
  deriving Repr, DecidableEq, Inhabited

namespace Failure

/-- A failure with one message. -/
def msg (s : String) : Failure := ⟨[s]⟩

/-- The failure wrapped in one more context. -/
def context (c : String) (f : Failure) : Failure := ⟨c :: f.chain⟩

/-- The outermost message. -/
def text (f : Failure) : String := f.chain.head?.getD ""

/-- All messages, outermost first, joined by `: `. -/
def fullText (f : Failure) : String := ": ".intercalate f.chain

end Failure

/-- Errors of the store. -/
inductive StoreError where
  | userNotFound
  | workspaceNotFound
  | repoNotFound
  | installationNotFound
  | deploymentNotFound
  | invalidTransition (id status next : String)
  | other (f : Failure)
  deriving Repr, DecidableEq, Inhabited

namespace StoreError

def message : StoreError → String
  | .userNotFound => "user not found"
  | .workspaceNotFound => "workspace not found"
  | .repoNotFound => "repo not found"
  | .installationNotFound => "installation not found"
  | .deploymentNotFound => "deployment not found"
  | .invalidTransition id status next =>
    "deployment " ++ id ++ " is already " ++ status ++ ", cannot move to " ++ next
  | .other f => f.text

/-- The name of the kind of error. -/
def kind : StoreError → String
  | .userNotFound => "UserNotFound"
  | .workspaceNotFound => "WorkspaceNotFound"
  | .repoNotFound => "RepoNotFound"
  | .installationNotFound => "InstallationNotFound"
  | .deploymentNotFound => "DeploymentNotFound"
  | .invalidTransition .. => "InvalidTransition"
  | .other _ => "Other"

/-- The message with every context of a catch-all failure. -/
def fullMessage : StoreError → String
  | .other f => f.fullText
  | e => e.message

end StoreError

/-- Errors of version control, checkout and manifest extraction. -/
inductive SourceError where
  | noCheckout
  | severalCheckouts
  | noManifest
  | manifestUnreadable (detail : String)
  | invalidSpace (detail : String)
  | tokenRejected (detail : String)
  | transport (detail : String)
  | other (f : Failure)
  deriving Repr, DecidableEq, Inhabited

namespace SourceError

def message : SourceError → String
  | .noCheckout => "no git checkout specified: one of branch, sha or tag is required"
  | .severalCheckouts => "git branch, sha and tag are mutually exclusive"
  | .noManifest => "tq.json not found"
  | .manifestUnreadable d => "tq.json contains invalid json: " ++ d
  | .invalidSpace d => "invalid space: " ++ d
  | .tokenRejected d => "vcs rejected the token: " ++ d
  | .transport d => "transport error: " ++ d
  | .other f => f.text

def kind : SourceError → String
  | .noCheckout => "NoGitCheckoutSpecified"
  | .severalCheckouts => "GitBranchAndShaMutuallyExclusive"
  | .noManifest => "NoTqJsonFound"
  | .manifestUnreadable _ => "TqIsNotValidJson"
  | .invalidSpace _ => "InvalidSpace"
  | .tokenRejected _ => "TokenRejected"
  | .transport _ => "Transport"
  | .other _ => "Other"

/-- Network failures, which an idempotent caller may retry. -/
def isTransport : SourceError → Bool
  | .transport _ => true
  | _ => false

end SourceError

/-- Errors of the image builder and registry. -/
inductive RegistryError where
  | imageNotFound
  | buildFailed (detail : String)
  | cancelled
  | transport (detail : String)
  | other (f : Failure)
  deriving Repr, DecidableEq, Inhabited

namespace RegistryError

def message : RegistryError → String
  | .imageNotFound => "image not found"
  | .buildFailed d => "build failed: " ++ d
  | .cancelled => "build cancelled"
  | .transport d => "transport error: " ++ d
  | .other f => f.text

def isTransport : RegistryError → Bool
  | .transport _ => true
  | _ => false

end RegistryError

/-- Errors of the cluster. -/
inductive ClusterError where
  | secretNotFound
  | noPodsRunning
  | invalidManifest (detail : String)
  | other (f : Failure)
  deriving Repr, DecidableEq, Inhabited

def ClusterError.message : ClusterError → String
  | .secretNotFound => "secret not found"
  | .noPodsRunning => "no pods running"
  | .invalidManifest d => "invalid manifest: " ++ d
  | .other f => f.text

/-- The name of the kind of a cluster error. -/
def ClusterError.kind : ClusterError → String
  | .secretNotFound => "SecretNotFound"
  | .noPodsRunning => "NoPodsRunning"
  | .invalidManifest _ => "InvalidManifest"
  | .other _ => "Other"

/-- Errors of identity, sessions and signatures. -/
inductive AuthError where
  | unauthorized (detail : String)
  | forbidden (detail : String)
  | invalidSignature
  | providerNotFound (name : String)
  | other (f : Failure)
  deriving Repr, DecidableEq, Inhabited

namespace AuthError

def message : AuthError → String
  | .unauthorized d => "unauthorized: " ++ d
  | .forbidden d => "forbidden: " ++ d
  | .invalidSignature => "invalid signature"
  | .providerNotFound n => "identity provider " ++ n ++ " not found"
  | .other f => f.text

/-- The code the error has in an error envelope. -/
def code : AuthError → String
  | .unauthorized _ => "UNAUTHORIZED"
  | .forbidden _ => "FORBIDDEN"
  | .invalidSignature => "INVALID_SIGNATURE"
  | .providerNotFound _ => "PROVIDER_NOT_FOUND"
  | .other _ => "UNKNOWN"

def kind : AuthError → String
  | .unauthorized _ => "Unauthorized"
  | .forbidden _ => "Forbidden"
  | .invalidSignature => "InvalidSignature"
  | .providerNotFound _ => "ProviderNotFound"
  | .other _ => "Other"

end AuthError

end Shipyard
