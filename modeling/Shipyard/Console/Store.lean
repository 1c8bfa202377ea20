import Shipyard.Console.Answer
import Shipyard.Console.Redact
import Shipyard.Store.Sessions
import Shipyard.Store.Migration
import Shipyard.Json.Text
/-!
# A session on the store

Steps call the store's operations, one store for the session. Each answer is `{"ok": result}`
or `{"error": kind, "message": text}`, and is redacted as soon as it is made, with one numbering
of identifiers for the whole session.

Before a step runs, its strings name things by reference, so that a session can be written
before the identifiers it will meet are known:

* a whole string `#n` stands for the identifier that answers showed as `#n`;
* inside a string, `$user:name` stands for the identifier of the user of that display name,
  `$ws:name` for that user's workspace (users as the last answer showing them had them),
  `$repo:n` for the identifier of the repository with host number `n`, and `$dep:k` for the
  `k`-th distinct deployment that answers showed. A reference that stands for nothing is left
  as it is written.
-/
namespace Shipyard.Console

open Shipyard.Store
open Shipyard.Vcs

/-- The store, the numbering of identifiers, and what answers have shown. -/
structure StoreSession where
  db : Db := {}
  redaction : Redaction := {}
  /-- Users by display name, as answers last showed them. -/
  users : List (String × User) := []
  /-- Identifiers of deployments, in the order answers first showed them. -/
  deployments : Array String := #[]

/-- Characters of a reference's name. -/
def isNameChar (c : Char) : Bool := c.isAlphanum || c == '_' || c == '-' || c == '.' || c == '@'

/-- A decimal integer, with an optional minus sign. -/
def integerOf? (cs : List Char) : Option Int :=
  match cs with
  | '-' :: ds => (Decimal.natOf? ds).map fun n => -(n : Int)
  | ds => (Decimal.natOf? ds).map Int.ofNat

/-- The kinds of reference and the text that starts each. -/
def referenceKinds : List String := ["user:", "ws:", "repo:", "dep:"]

/-- The kind of reference a text starts with. -/
def referenceKind? (cs : List Char) : Option String :=
  referenceKinds.find? fun k => cs.take k.length == k.toList

namespace StoreSession

/-- What the reference of a kind and name stands for. -/
def lookup (s : StoreSession) (kind name : String) : Option String :=
  match kind with
  | "user:" => (s.users.lookup name).map (·.id)
  | "ws:" => (s.users.lookup name).map (·.currentWorkspace)
  | "repo:" => do
    let n ← integerOf? name.toList
    match getRepoByVcsId n s.db with
    | .ok (r, _) => some r.id
    | .error _ => none
  | _ => do
    let k ← Decimal.natOf? name.toList
    if k = 0 then none else s.deployments[k - 1]?

theorem dropWhile_length_le {α : Type} (p : α → Bool) (l : List α) :
    (l.dropWhile p).length ≤ l.length := by
  induction l with
  | nil => simp
  | cons a l ih =>
    simp only [List.dropWhile]
    split
    · simp only [List.length_cons]
      omega
    · exact Nat.le_refl _

/-- Replaces every reference inside a text that stands for something. -/
def substitute (s : StoreSession) (cs : List Char) : List Char :=
  match cs with
  | [] => []
  | '$' :: rest =>
    match referenceKind? rest with
    | some kind =>
      let after := rest.drop kind.length
      let name := after.takeWhile isNameChar
      match (if name.isEmpty then none else s.lookup kind (String.ofList name)) with
      | some v => v.toList ++ substitute s (after.dropWhile isNameChar)
      | none => '$' :: substitute s rest
    | none => '$' :: substitute s rest
  | c :: rest => c :: substitute s rest
termination_by cs.length
decreasing_by
  all_goals simp only [List.length_cons]
  all_goals first
    | omega
    | exact Nat.lt_succ_of_le (Nat.le_trans (dropWhile_length_le _ _) (by simp))

/-- A text with its references replaced. -/
def resolveText (s : StoreSession) (t : String) : String :=
  match t.toList with
  | '#' :: ds =>
    match (Decimal.natOf? ds).bind s.redaction.lookup with
    | some id => id
    | none => String.ofList (s.substitute t.toList)
  | cs => String.ofList (s.substitute cs)

mutual

/-- A value with the references in its strings replaced. -/
def resolve (s : StoreSession) : Json → Json
  | .str t => .str (s.resolveText t)
  | .arr xs => .arr (s.resolveItems xs)
  | .obj kvs => .obj (s.resolveFields kvs)
  | v => v

def resolveItems (s : StoreSession) : List Json → List Json
  | [] => []
  | x :: xs => s.resolve x :: s.resolveItems xs

def resolveFields (s : StoreSession) : List (String × Json) → List (String × Json)
  | [] => []
  | (k, v) :: rest => (k, s.resolve v) :: s.resolveFields rest

end

/-- Remembers the users and deployments an answer shows. -/
def remember (s : StoreSession) (users : List User) (deployments : List Deployment) :
    StoreSession :=
  let known := users.foldl (fun acc u => (u.displayName, u) :: acc.filter (·.1 != u.displayName))
    s.users
  let ids := deployments.foldl (fun acc d => if acc.contains d.id then acc else acc.push d.id)
    s.deployments
  { s with users := known, deployments := ids }

end StoreSession

/-- The least and the greatest 64-bit signed integer. -/
def int64Min : Int := -Int.pow 2 63
def int64Max : Int := Int.pow 2 63 - 1

/-- A 64-bit signed integer field. -/
def int64Field (cmd : Json) (k : String) : Except Json Int :=
  match int? cmd k with
  | some i => if int64Min ≤ i && i ≤ int64Max then .ok i else .error refused
  | none => .error refused
where
  refused := failure "BadInput" (k ++ " must be an integer")

/-- The repositories of a step, none when the field is absent. -/
def reposField (cmd : Json) : Except Json (List HostRepository) :=
  match cmd.field? "repos" with
  | none => .ok []
  | some _ => do
    let j ← typed cmd "repos" (.list HostRepository.schema)
    return ((j.arr?).getD []).map HostRepository.ofJson

/-- The deployment a step describes. -/
def deploymentField (cmd : Json) : Except Json Deployment := do
  let d := (cmd.field? "deployment").getD (.obj [])
  let status ← match (d.field? "status").bind Json.str? with
    | none => pure DeploymentStatus.init
    | some name =>
      match DeploymentStatus.ofText? name with
      | some st => pure st
      | none => throw (failure "BadInput" (DeploymentStatus.unknownMessage name))
  let space ← match d.field? "space" with
    | none => pure ({} : Space)
    | some _ => do
      let j ← typed d "space" Space.schema
      pure (Space.ofJson j)
  return { id := text d "id", repoId := text d "repo", userDisplayName := text d "user",
           sha := text d "sha", buildTag := text d "build_tag", branch := text d "branch",
           tag := text d "tag", message := text d "message", status, space,
           error := text? d "error", rolledBackFromId := text? d "rolled_back_from_id" }

/-- A step's result: its value, the users and deployments it shows, and the store after it. -/
structure StepResult where
  value : Json
  users : List User := []
  deployments : List Deployment := []

/-- Runs a store operation for a step. -/
def runStore {α : Type} (db : Db) (op : StoreM α) (shown : α → StepResult) :
    Db × Except Json StepResult :=
  match op db with
  | .ok (a, db) => (db, .ok (shown a))
  | .error e => (db, .error (failure e.kind e.fullMessage))

/-- A result that shows a list of repositories. -/
def reposResult (rs : List Repository) : StepResult := ⟨.arr (rs.map Repository.toJson), [], []⟩

/-- A result that shows one deployment. -/
def deploymentResult (d : Deployment) : StepResult := ⟨d.toJson, [], [d]⟩

/-- One step on the store, at `now`. -/
def storeStep (now : Instant) (s : StoreSession) (cmd : Json) : Db × Except Json StepResult :=
  let db := s.db
  let str := text cmd
  let key : SecretKey := ⟨str "workspace", str "repo", str "key"⟩
  let withInt := fun (k : String) (f : Int → Db × Except Json StepResult) =>
    match int64Field cmd k with
    | .ok i => f i
    | .error e => (db, .error e)
  match str "do" with
  | "get_or_create_user" =>
    runStore db (getOrCreateUser ⟨str "id", str "email", str "name", ""⟩) fun u => ⟨u.toJson, [u], []⟩
  | "get_user" => runStore db (getUser (str "user")) fun u => ⟨u.toJson, [u], []⟩
  | "get_workspace" => runStore db (getWorkspace (str "workspace")) fun w => ⟨w.toJson, [], []⟩
  | "link_github" => withInt "installation_id" fun i =>
    match reposField cmd with
    | .error e => (db, .error e)
    | .ok repos => runStore db (linkInstallation i (str "owner") repos) fun x => ⟨x.toJson, [], []⟩
  | "save_github_repos" => withInt "installation_id" fun i =>
    match reposField cmd with
    | .error e => (db, .error e)
    | .ok repos => runStore db (addRepositories i (str "owner") repos) reposResult
  | "remove_github_repos" => withInt "installation_id" fun i =>
    match reposField cmd with
    | .error e => (db, .error e)
    | .ok repos => runStore db (removeRepositories i repos) fun _ => ⟨.null, [], []⟩
  | "remove_installation" => withInt "installation_id" fun i =>
    runStore db (removeInstallation i) reposResult
  | "get_installation" => withInt "installation_id" fun i =>
    runStore db (getInstallation i) fun x => ⟨x.toJson, [], []⟩
  | "get_github_repos" => runStore db (getRepositories (str "user")) reposResult
  | "get_repo_by_id" =>
    runStore db (getRepoById (str "user") (str "repo")) fun r => ⟨r.toJson, [], []⟩
  | "get_repo_by_vcs_id" => withInt "vcs_id" fun i =>
    runStore db (getRepoByVcsId i) fun r => ⟨r.toJson, [], []⟩
  | "connect_repo" =>
    runStore db (connectRepo (str "user") (str "repo") (str "branch")) fun r => ⟨r.toJson, [], []⟩
  | "get_installation_id" =>
    runStore db (getInstallationId (str "workspace") (str "full_name")) fun i => ⟨.ofInt i, [], []⟩
  | "save_deployment" =>
    match deploymentField cmd with
    | .error e => (db, .error e)
    | .ok d => runStore db (saveDeployment d now) deploymentResult
  | "update_deployment" =>
    match deploymentField cmd with
    | .error e => (db, .error e)
    | .ok d => runStore db (updateDeployment d now) deploymentResult
  | "get_deployment" => runStore db (getDeployment (str "id")) deploymentResult
  | "get_deployments" =>
    runStore db (getDeployments (str "repo")) fun ds => ⟨.arr (ds.map Deployment.toJson), [], ds⟩
  | "get_deployment_history" =>
    runStore db (getDeploymentHistory (str "repo")) fun ds =>
      ⟨.arr (ds.map Deployment.historyJson), [], ds⟩
  | "supersede_deployments" =>
    runStore db (supersede (str "repo") (str "keep") now) fun ids => ⟨Json.ofStrings ids, [], []⟩
  | "mark_rolled_back" =>
    runStore db (markRolledBack (str "repo") (str "source") (str "keep") now) fun n =>
      ⟨.ofNat n, [], []⟩
  | "save_secret" => runStore db (saveSecret key) fun _ => ⟨.null, [], []⟩
  | "remove_secret" => runStore db (removeSecret key) fun _ => ⟨.null, [], []⟩
  | "repository_secret_key_exists" => runStore db (secretKeyExists key) fun b => ⟨.bool b, [], []⟩
  | "get_repository_secret_keys" =>
    runStore db (secretKeys (str "workspace") (str "repo")) fun ks => ⟨Json.ofStrings ks, [], []⟩
  | "save_auth_state" =>
    let ttl := (int? cmd "ttl_secs").getD 90
    let expires : Instant := ⟨(now.micros + ttl * 1000000).toNat⟩
    runStore db (saveAuthState (str "state") expires now) fun _ => ⟨.null, [], []⟩
  | "take_auth_state" =>
    -- the state is gone even when its text does not read
    match takeAuthState (str "state") db with
    | .ok (some (.ok t), db) =>
      (db, .ok ⟨.obj [("found", .bool true), ("expired", .bool (decide (t < now)))], [], []⟩)
    | .ok (some (.error e), db) => (db, .error (failure e.kind e.fullMessage))
    | .ok (none, db) => (db, .ok ⟨.obj [("found", .bool false)], [], []⟩)
    | .error e => (db, .error (failure e.kind e.fullMessage))
  | "save_token_pair" =>
    runStore db (saveTokenPair ⟨str "user", str "access", str "refresh"⟩) fun _ => ⟨.null, [], []⟩
  | "get_token_pair" =>
    runStore db (getTokenPair (str "user")) fun
      | some p => ⟨Json.ofStrings [p.access, p.refresh], [], []⟩
      | none => ⟨.null, [], []⟩
  | "delete_token_pair" => runStore db (deleteTokenPair (str "user")) fun _ => ⟨.null, [], []⟩
  | other => (db, .error (failure "UnknownStep" other))

namespace StoreSession

/-- Runs one step: resolves its references, runs it, remembers what it shows and redacts its
answer. -/
def step (now : Instant) (s : StoreSession) (cmd : Json) : StoreSession × Json :=
  let (db, result) := storeStep now s (s.resolve cmd)
  let s := { s with db }
  let (s, answer) := match result with
    | .ok r => (s.remember r.users r.deployments, Json.obj [("ok", r.value)])
    | .error e => (s, e)
  let (answer, redaction) := s.redaction.answer answer
  ({ s with redaction }, answer)

/-- Runs steps in order, collecting their answers. -/
def run (now : Instant) : StoreSession → List Json → List Json
  | _, [] => []
  | s, cmd :: rest =>
    let (s, a) := s.step now cmd
    a :: run now s rest

end StoreSession

/-- `store`: steps on one store. -/
def storeSession (now : Instant) (cmd : Json) : Json :=
  let steps := ((cmd.field? "steps").bind Json.arr?).getD []
  .obj [("steps", .arr (StoreSession.run now {} steps))]

/-- Why a migration file of this name cannot be written into a directory: a name that is
empty or a dot names a directory, the system refuses a name holding a NUL byte, and a name
may have at most 255 bytes. -/
def unwritableName? (name : String) : Option String :=
  if name.contains (Char.ofNat 0) then some "file name contained an unexpected NUL byte"
  else if name == "" || name == "." || name == ".." then some "Is a directory (os error 21)"
  else if name.utf8ByteSize > 255 then some "File name too long (os error 36)"
  else none

/-- The migration files of a `migrate` command: a map of names to texts, each name without a
slash and one a file may have; the files are written in the order of their names. -/
def migrationFiles (cmd : Json) : Except Json (List (String × String)) := do
  let files ← match cmd.field? "files" with
    | none => pure []
    | some (.obj fs) => pure fs
    | some v => throw (failure "BadInput" ("files: " ++ Json.mismatch v "a map"))
  let texts ← files.mapM fun (n, v) => match v with
    | .str t => pure (n, t)
    | v => throw (failure "BadInput" ("files: " ++ Json.mismatch v "a string"))
  if texts.any (·.1.contains '/') then throw (failure "BadInput" "file names must not contain '/'")
  let sorted := texts.mergeSort fun a b => !(b.1 < a.1)
  match sorted.findSome? fun (n, _) => unwritableName? n with
  | some why => throw (failure "Io" why)
  | none => pure sorted

/-- `migrate`: opens one database `opens` times (one to three), with the migrations of the files
given unless `use_dir` is false; answers what each opening applied, or its failure. -/
def migrateSession (cmd : Json) : Json :=
  match migrationFiles cmd with
  | .error answer => answer
  | .ok texts =>
    let migrations := Migration.pending (if flag cmd "use_dir" true then some texts else none)
    let opens := (min 3 (max 1 ((int? cmd "opens").getD 1))).toNat
    let step := fun (acc : Database × List Json) (_ : Nat) =>
      let (db, answers) := acc
      let (db, result) := db.migrate migrations
      let answer := match result with
        | .error f => failure "Other" f.fullText
        | .ok versions => .obj [("applied", .arr (versions.map Json.ofInt))]
      (db, answers ++ [answer])
    .arr ((List.range opens).foldl step (Database.fresh, [])).2

end Shipyard.Console
