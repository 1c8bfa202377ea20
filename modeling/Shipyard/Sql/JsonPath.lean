import Shipyard.Sql.JsonTree
/-!
# Paths into JSON documents

A path names a value inside a document. It starts with `$` (the document itself), and each
step goes one level down: `.label` or `."label"` into an object, `[N]` into an array (from
0), `[#]` one past the last item and `[#-N]` the `N`-th item from the end.

A path is read one step at a time as the document is walked, so a step that finds nothing
ends the walk before the steps after it are read: `$.a.b[` names nothing in `{}`, and is a
bad path in `{"a": {"b": []}}`.

The same walk edits a document. `json_remove` deletes what the path names, `json_replace`
puts a value in its place, `json_insert` adds a value where nothing is, and `json_set` does
either. Inserting goes one step past the end of what exists: the missing label of an object,
or the item one past the end of an array, the rest of the path made of new objects and
arrays.
-/
namespace Shipyard.Sql

/-- Why a path names nothing: nothing is there, or the path cannot be read. -/
inductive PathFail where
  | notFound
  | badPath
  deriving DecidableEq, Inhabited

/-- What an edit does at the place a path names. -/
inductive JsonEdit where
  | delete
  | replace
  | insert
  | set
  deriving DecidableEq, Inhabited

/-- Whether an edit adds a value where nothing is. -/
def JsonEdit.adds : JsonEdit → Bool
  | .insert | .set => Bool.true
  | _ => Bool.false

/-- The label of a `.label` or `."label"` step (the text after the point) and the rest of the
path; none when the label is empty or its quotes are not closed. A quoted label with a
backslash is compared by the characters its escapes stand for. -/
def pathLabel (path : List Char) : Option (JsonString × List Char) :=
  match path with
  | '"' :: rest =>
    let key := rest.takeWhile (· != '"')
    let after := rest.drop key.length
    if after.isEmpty then none
    else some (⟨String.ofList key, if key.contains '\\' then .json5 else .raw⟩, after.drop 1)
  | _ =>
    let key := path.takeWhile fun c => c != '.' && c != '['
    if key.isEmpty then none else some (⟨String.ofList key, .raw⟩, path.drop key.length)

/-- Digits read in 32-bit unsigned arithmetic, as an array index is. -/
def indexOf (ds : List Char) : Nat :=
  ds.foldl (fun k c => (k * 10 + (c.toNat - 48)) % 4294967296) 0

/-- The index of an `[N]`, `[#]` or `[#-N]` step into an array of `count` items (the text
after the bracket) and the rest of the path. `[#-N]` with `N` beyond the count names
nothing. -/
def pathIndex (count : Nat) (path : List Char) : Except PathFail (Nat × List Char) :=
  let ds := path.takeWhile isDigitChar
  let after := path.drop ds.length
  if !ds.isEmpty && after.head? == some ']' then pure (indexOf ds, after.drop 1)
  else if path.head? == some '#' then
    let rest := path.drop 1
    let stepBack : Except PathFail (Nat × List Char) :=
      match rest with
      | '-' :: d :: more =>
        if isDigitChar d then
          let ns := (d :: more).takeWhile isDigitChar
          let n := indexOf ns
          if n > count then .error .notFound else .ok (count - n, (d :: more).drop ns.length)
        else .ok (count, rest)
      | _ => .ok (count, rest)
    match stepBack with
    | .ok (k, rest) => if rest.head? == some ']' then pure (k, rest.drop 1) else throw .badPath
    | .error e => throw e
  else throw .badPath

namespace JsonNode

/-- The value a path (after its `$`) names. -/
def lookup : Nat → JsonNode → List Char → Except PathFail JsonNode
  | 0, _, _ => throw .badPath
  | _ + 1, node, [] => pure node
  | fuel + 1, node, '.' :: rest => do
    let (key, after) ← match pathLabel rest with
      | some r => pure r
      | none => throw .badPath
    match node with
    | .object members =>
      match members.find? (fun (l, _) => l.same key) with
      | some (_, v) => lookup fuel v after
      | none => throw .notFound
    | _ => throw .notFound
  | fuel + 1, node, '[' :: rest =>
    match node with
    | .array items => do
      let (k, after) ← pathIndex items.length rest
      match items[k]? with
      | some v => lookup fuel v after
      | none => throw .notFound
    | _ => throw .notFound
  | _ + 1, _, _ => throw .badPath

/-- A document edited at the place a path (after its `$`) names: none when the edit deletes
the document itself. Values made for the rest of a path start as an empty object before a
`.` step and an empty array before a `[` step. -/
def edit (mode : JsonEdit) (value : JsonNode) : Nat → JsonNode → List Char →
    Except PathFail (Option JsonNode)
  | 0, _, _ => throw .badPath
  | _ + 1, node, [] => pure (match mode with
    | .delete => none
    | .insert => some node
    | .replace | .set => some value)
  | fuel + 1, node, '.' :: rest => do
    let (key, after) ← match pathLabel rest with
      | some r => pure r
      | none => throw .badPath
    match node with
    | .object members =>
      match members.findIdx? (fun (l, _) => l.same key) with
      | some idx =>
        let (label, v) := members.getD idx (key, .null)
        match ← edit mode value fuel v after with
        | none => pure (some (.object (members.eraseIdx idx)))
        | some v' => pure (some (.object (members.set idx (label, v'))))
      | none =>
        if mode.adds then do
          let made ← build fuel after
          pure (some (.object (members ++ [(key, made)])))
        else throw .notFound
    | _ => throw .notFound
  | fuel + 1, node, '[' :: rest =>
    match node with
    | .array items => do
      let (k, after) ← pathIndex items.length rest
      if k < items.length then
        match ← edit mode value fuel (items.getD k .null) after with
        | none => pure (some (.array (items.eraseIdx k)))
        | some v' => pure (some (.array (items.set k v')))
      else if k == items.length && mode.adds then do
        let made ← build fuel after
        pure (some (.array (items ++ [made])))
      else throw .notFound
    | _ => throw .notFound
  | _ + 1, _, _ => throw .badPath
where
  /-- The value inserted for the rest of a path: the value itself at its end, else an empty
  object or array with the rest inserted into it. -/
  build (fuel : Nat) (tail : List Char) : Except PathFail JsonNode :=
    match tail with
    | [] => pure value
    | c :: _ =>
      let base := if c == '.' then JsonNode.object [] else JsonNode.array []
      match fuel with
      | 0 => throw .badPath
      | fuel + 1 => do
        match ← edit mode value fuel base tail with
        | some made => pure made
        | none => pure base

/-- The object of a merge patch (RFC 7396) applied to a document: a patch that is not an
object replaces the document; else each member of the patch replaces the member of the
same label, merged into it when both are objects, a null patch value deleting it; members
not there are added, with the nulls inside them taken out. -/
def mergePatch : Nat → JsonNode → JsonNode → JsonNode
  | 0, target, _ => target
  | fuel + 1, target, patch =>
    match patch with
    | .object patchMembers =>
      let members := match target with
        | .object ms => ms
        | _ => []
      .object (patchMembers.foldl (fun ms (label, pv) =>
        match ms.findIdx? (fun (l, _) => l.same label) with
        | some idx =>
          match pv with
          | .null => ms.eraseIdx idx
          | _ =>
            let (l, tv) := ms.getD idx (label, .null)
            ms.set idx (l, mergePatch fuel tv pv)
        | none =>
          match pv with
          | .null => ms
          | .object _ => ms ++ [(label, mergePatch fuel .null pv)]
          | _ => ms ++ [(label, pv)]) members)
    | _ => patch

end JsonNode

end Shipyard.Sql
