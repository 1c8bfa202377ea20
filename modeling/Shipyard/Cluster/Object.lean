import Shipyard.Yaml.Decode
import Shipyard.Text.White
import Shipyard.Error
/-!
Cluster objects as a manifest writes them, and reading a manifest back into them.

A manifest is a text of YAML documents separated by lines that are `---` (white space after it
allowed). Each document that is not blank is one object: a mapping whose `apiVersion` and
`kind` are text, whose `metadata` is read member by member (a repeated member replacing the
earlier one, unknown members dropped), and whose other members are kept as they are, as JSON.

An object without both of `apiVersion` and `kind` as text, each given once, has no type; a
manifest holding one is refused. The other members are converted to JSON after the type was
taken out, and a mapping among them with a key that is not text fails that conversion; that
failure is reported before the missing type.
-/
namespace Shipyard.Cluster

/-- A point in time, as the cluster writes one. -/
def time : Schema := .dateTime "Time"

/-- A reference from an object to the object that owns it; a member left out is empty. -/
def ownerReferenceSchema : Schema :=
  .overlay "OwnerReference"
    [Schema.opt "apiVersion" .string (.str ""),
     Schema.opt "blockOwnerDeletion" (.option .bool) .null,
     Schema.opt "controller" (.option .bool) .null,
     Schema.opt "kind" .string (.str ""),
     Schema.opt "name" .string (.str ""),
     Schema.opt "uid" .string (.str "")]

/-- A record of which manager set which fields of an object. -/
def managedFieldsSchema : Schema :=
  .overlay "ManagedFieldsEntry"
    [Schema.opt "apiVersion" (.option .string) .null,
     Schema.opt "fieldsType" (.option .string) .null,
     Schema.opt "fieldsV1" (.option .any) .null,
     Schema.opt "manager" (.option .string) .null,
     Schema.opt "operation" (.option .string) .null,
     Schema.opt "subresource" (.option .string) .null,
     Schema.opt "time" (.option time) .null]

/-- The metadata of an object; every member may be left out. -/
def metadataSchema : Schema :=
  .overlay "ObjectMeta"
    [Schema.opt "annotations" (.option (.dict .string)) .null,
     Schema.opt "creationTimestamp" (.option time) .null,
     Schema.opt "deletionGracePeriodSeconds" (.option (.int 64)) .null,
     Schema.opt "deletionTimestamp" (.option time) .null,
     Schema.opt "finalizers" (.option (.list .string)) .null,
     Schema.opt "generateName" (.option .string) .null,
     Schema.opt "generation" (.option (.int 64)) .null,
     Schema.opt "labels" (.option (.dict .string)) .null,
     Schema.opt "managedFields" (.option (.list managedFieldsSchema)) .null,
     Schema.opt "name" (.option .string) .null,
     Schema.opt "namespace" (.option .string) .null,
     Schema.opt "ownerReferences" (.option (.list ownerReferenceSchema)) .null,
     Schema.opt "resourceVersion" (.option .string) .null,
     Schema.opt "selfLink" (.option .string) .null,
     Schema.opt "uid" (.option .string) .null]

/-- Members of a record that are present: nulls dropped, also inside nested records. -/
def presentMembers : List (String × Json) → List (String × Json)
  | [] => []
  | (_, .null) :: rest => presentMembers rest
  | (k, .arr xs) :: rest => (k, .arr (xs.map fun
      | .obj kvs => .obj (kvs.filter fun (_, v) => !v.isNull)
      | x => x)) :: presentMembers rest
  | kv :: rest => kv :: presentMembers rest

/-- An object of the cluster. -/
structure Resource where
  apiVersion : String
  kind : String
  /-- The members of the metadata that are present. -/
  metadata : List (String × Json)
  /-- The other members, in ascending key order. -/
  data : List (String × Json)
  deriving Inhabited

namespace Resource

def toJson (r : Resource) : Json :=
  .obj ([("apiVersion", .str r.apiVersion), ("kind", .str r.kind), ("metadata", .obj r.metadata)]
    ++ r.data)

/-- A member of the metadata given as text. -/
def metaText? (r : Resource) (k : String) : Option String :=
  (r.metadata.lookup k).bind Json.str?

def name? (r : Resource) : Option String := r.metaText? "name"

def namespace? (r : Resource) : Option String := r.metaText? "namespace"

end Resource

/-- The members of a document other than `metadata`, as read, with whether each is still
there once the type was taken. -/
abbrev Members := List (String × Yaml.Content)

/-- Takes the type out of the members: each `apiVersion` and `kind` is taken in order, and
the first one that repeats or is not text stops the taking and leaves the type unknown; the
members not taken stay. -/
def takeType : Members → Option String → Option String → Members →
    Option (String × String) × Members
  | [], av, k, kept =>
    match av, k with
    | some a, some b => (some (a, b), kept.reverse)
    | _, _ => (none, kept.reverse)
  | (key, c) :: rest, av, k, kept =>
    if key == "apiVersion" then
      match av, c with
      | none, .str s => takeType rest (some s) k kept
      | _, _ => (none, kept.reverse ++ rest)
    else if key == "kind" then
      match k, c with
      | none, .str s => takeType rest av (some s) kept
      | _, _ => (none, kept.reverse ++ rest)
    else takeType rest av k ((key, c) :: kept)

/-- The members left after the type, as JSON in ascending key order. -/
def membersJson : Members → List (String × Json) → Except String (List (String × Json))
  | [], acc => .ok acc
  | (k, c) :: rest, acc => do
    let j ← c.toJson
    membersJson rest (Json.insertSorted k j acc)

open Yaml Decode in
/-- The members of a document's root mapping: the metadata, read once, and the others. -/
def rootMembers (doc : Document) (fuel depth : Nat) (path : Path) (r : Node) :
    List (Node × Node) → Option Json → Members → DecodeM (Option Json × Members)
  | [], md, acc => pure (md, acc.reverse)
  | (k, v) :: rest, md, acc => do
    let key ← keyText doc path "field identifier" fuel k
    if key == "metadata" then
      if md.isSome then throw (miss r path (Mismatch.duplicateField "metadata"))
      else
        let j ← value doc fuel depth (path.member k) metadataSchema v
        rootMembers doc fuel depth path r rest (some j) acc
    else
      let c ← content doc fuel depth (path.member k) v
      rootMembers doc fuel depth path r rest md ((key, c) :: acc)

open Yaml Decode in
/-- The object a document's root node describes, or `none` when it has no type. -/
def objectOf (doc : Document) (fuel depth : Nat) (path : Path) (n : Node) :
    DecodeM (Option Resource) := do
  let (md, members) ← match n with
    | .map _ m es closed =>
      match depth with
      | 0 => throw (.recursionLimit m)
      | depth + 1 => do
        let got ← rootMembers doc fuel depth path n es none []
        if closed then pure got else throw doc.cutFailure
    | .scalar t st _ _ =>
      if isEmptyPlain t st then pure (none, []) else throw (wrongKind n path "struct DynamicObject")
    | .void _ => pure (none, [])
    | .cut => throw doc.cutFailure
    | _ => throw (wrongKind n path "struct DynamicObject")
  let metadata := match md with
    | some (.obj kvs) => presentMembers kvs
    | _ => []
  let (types, rest) := takeType members none none []
  match membersJson rest [] with
  | .error msg => throw (miss n path msg)
  | .ok data => pure (types.map fun (a, k) => { apiVersion := a, kind := k, metadata, data })

/-- Reads one document of a manifest. -/
def Resource.read (text : String) : Except String (Option Resource) :=
  let doc := Yaml.Document.ofText text
  (doc.readWith fun fuel depth path n => objectOf doc fuel depth path n).mapError (·.message)

/-- The documents of a manifest: the lines between separator lines, each line ended by a line
feed, keeping only those that are not blank. -/
def manifestDocuments (manifest : String) : List String :=
  let step := fun (acc : List String × String) (line : String) =>
    if Text.trimEndWhite line == "---" then
      (if (Text.trimWhite acc.2).isEmpty then acc.1 else acc.2 :: acc.1, "")
    else (acc.1, acc.2 ++ line ++ "\n")
  ((Text.lines manifest ++ ["---"]).foldl step ([], "")).1.reverse

/-- Reads one document of a manifest as an object; a document without a type is refused. -/
def readObject (doc : String) : Except ClusterError Resource :=
  match Resource.read doc with
  | .error msg => .error (.invalidManifest msg)
  | .ok none => .error (.invalidManifest "document without apiVersion/kind")
  | .ok (some r) => .ok r

/-- Reads a manifest into its objects, in order. -/
def parseManifest (manifest : String) : Except ClusterError (List Resource) :=
  (manifestDocuments manifest).mapM readObject

end Shipyard.Cluster
