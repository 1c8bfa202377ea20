import Shipyard.Sql.JsonFunc
/-!
# A JSON document as a table

`json_each(X, P)` and `json_tree(X, P)` read a document as rows. `json_each` gives the items
of the array or the members of the object that the path `P` names (the whole document when
there is no path), or that one value when it is neither; `json_tree` gives that value and then
everything inside it, depth first.

A row has eight columns: `key` (the index of an item, the label of a member), `value` (its SQL
value, arrays and objects as JSON text), `type`, `atom` (the SQL value of anything but an array
or object), `id` (where the row's value, or the label of a member, starts in the binary form
of the document), `parent` (in `json_tree`, the id of the row of the container), `fullkey`
(the path of the value) and `path` (the path of its container).

The rows are those of a cursor over the binary form. The cursor stands at a value, or at the
label of a member; it keeps a stack of the containers it is inside, each with where it ends
and the index of the current item, and the path it has come down. A step moves past the
current value, or in `json_tree` into it when it is an array or object, and leaves every
container whose end it has reached.
-/
namespace Shipyard.Sql

/-- Where a path (after its `$`) leads in the binary form of a document, from the value at
`root`: the place of the value it names, and the place of its label when the last step went
into an object (0 otherwise). -/
def jsonbLookup (b : Array UInt8) : Nat → Nat → Nat → List Char → Except PathFail (Nat × Nat)
  | 0, _, _, _ => throw .badPath
  | _ + 1, root, label, [] => pure (root, label)
  | fuel + 1, root, _, '.' :: rest => do
    let (key, after) ← match pathLabel rest with
      | some r => pure r
      | none => throw .badPath
    if jsonbType b root != 12 then throw .notFound
    let (n, sz) ← match jsonbPayloadSize b root with
      | some r => pure r
      | none => throw .badPath
    let stop := root + n + sz
    let rec find : Nat → Nat → Except PathFail (Nat × Nat)
      | 0, _ => throw .badPath
      | fuel + 1, j =>
        if j ≥ stop then throw .notFound else
        match jsonbPayloadSize b j, jsonbNodeAt b (b.size + 1) j with
        | some (ln, lsz), some (.string label, _) =>
          let v := j + ln + lsz
          match jsonbPayloadSize b v with
          | some (vn, vsz) =>
            if label.same key then pure (j, v) else find fuel (v + vn + vsz)
          | none => throw .badPath
        | _, _ => throw .badPath
    let (labelAt, valueAt) ← find (b.size + 1) (root + n)
    jsonbLookup b fuel valueAt labelAt after
  | fuel + 1, root, _, '[' :: rest => do
    if jsonbType b root != 11 then throw .notFound
    let (n, sz) ← match jsonbPayloadSize b root with
      | some r => pure r
      | none => throw .badPath
    let items := jsonbItemPlaces b (b.size + 1) (root + n) (root + n + sz)
    let (k, after) ← pathIndex items.length rest
    match items[k]? with
    | some place => jsonbLookup b fuel place 0 after
    | none => throw .notFound
  | _ + 1, _, _, _ => throw .badPath
where
  /-- The places of the items from `j` up to `stop`. -/
  jsonbItemPlaces (b : Array UInt8) : Nat → Nat → Nat → List Nat
    | 0, _, _ => []
    | fuel + 1, j, stop =>
      if j ≥ stop then [] else
      match jsonbPayloadSize b j with
      | some (n, sz) => j :: jsonbItemPlaces b fuel (j + n + sz) stop
      | none => []

/-- A container the cursor is inside. -/
structure EachParent where
  /-- The id of the container's row: where it, or its label, starts. -/
  head : Nat
  /-- Where the container starts. -/
  start : Nat
  /-- Where it ends. -/
  stop : Nat
  /-- The index of the current item of an array. -/
  key : Int
  /-- The length of the path down to the container. -/
  pathLength : Nat
  deriving Inhabited

/-- A cursor over the binary form of a document. -/
structure EachCursor where
  /-- Where the cursor stands: a value, or the label of a member. -/
  at_ : Nat
  /-- The type of the container of the current value (11 an array, 12 an object), or 0. -/
  within : Nat
  /-- The containers the cursor is inside, the innermost first. -/
  parents : List EachParent
  /-- The path the cursor has come down. -/
  path : List Char
  /-- How many rows have been given. -/
  rowid : Nat
  /-- Where the walk ends. -/
  stop : Nat
  deriving Inhabited

/-- The names of the types of the binary form, as the `type` column gives them. -/
def jsonbTypeName (t : Nat) : String :=
  match t with
  | 0 => "null"
  | 1 => "true"
  | 2 => "false"
  | 3 | 4 => "integer"
  | 5 | 6 => "real"
  | 7 | 8 | 9 | 10 => "text"
  | 11 => "array"
  | 12 => "object"
  | _ => "null"

/-- A row of `json_each` or `json_tree`: the eight columns, and for each whether it is JSON
text (only an array or object in `value` is). -/
structure EachRow where
  values : List Value
  marks : List Bool
  deriving Inhabited

namespace EachCursor

/-- The size of the header and payload at a place, as one step over it takes them. -/
def sizeAt (b : Array UInt8) (i : Nat) : Nat × Nat := (jsonbPayloadSize b i).getD (1, 0)

/-- Where the current value starts: past the label of a member. -/
def valueAt (b : Array UInt8) (c : EachCursor) : Nat :=
  if c.within == 12 then
    let (n, sz) := sizeAt b c.at_
    c.at_ + n + sz
  else c.at_

/-- The step of the current value added to a path: `[N]` for an item; `.label` for a member,
the label quoted unless it is a letter followed by letters and digits. -/
def pathStep (b : Array UInt8) (c : EachCursor) : List Char :=
  if c.within == 11 then
    '[' :: (Decimal.intText ((c.parents.head?.map (·.key)).getD 0)).toList ++ [']']
  else
    let (n, sz) := sizeAt b c.at_
    let raw := (b.extract (c.at_ + n) (c.at_ + n + sz)).toList
    let isLetter (x : UInt8) : Bool := (65 ≤ x && x ≤ 90) || (97 ≤ x && x ≤ 122)
    let isAlnumByte (x : UInt8) : Bool := isLetter x || (48 ≤ x && x ≤ 57)
    let text := (SqlText.mk raw).toString.toList
    match raw with
    | x :: _ =>
      if isLetter x && raw.all isAlnumByte then '.' :: text else '.' :: '"' :: text ++ ['"']
    | [] => '.' :: '"' :: ['"']

/-- The length of the `path` column: the whole path, except on the first row of `json_tree`
under a path, where it is cut back to the step at whose end the container holding the
cursor's place as its first item is found (else to `$`). -/
def pathLength (b : Array UInt8) (recursive : Bool) (c : EachCursor) : Nat :=
  let n := c.path.length
  if c.rowid == 0 && recursive && n ≥ 2 then
    let found := (List.range (n - 1)).reverse.find? fun k =>
      let cut := k + 1
      let ch := c.path.getD cut ' '
      (ch == '[' || ch == '.') &&
        match jsonbLookup b (b.size + 1) 0 0 ((c.path.take cut).drop 1) with
        | .ok (x, _) => x + (sizeAt b x).1 == c.at_
        | .error _ => false
    match found with
    | some k => k + 1
    | none => 1
  else n

/-- The SQL value of the value at a place, arrays and objects as JSON text. -/
def sqlAt (b : Array UInt8) (i : Nat) : Except SqlError Value :=
  match jsonbNodeAt b (b.size + 1) i with
  | some (node, _) => sqlValueOf node
  | none => throw malformedJson

/-- The row the cursor stands at; `rootLength` is the length of the path the walk started
from. -/
def row (b : Array UInt8) (recursive : Bool) (rootLength : Nat) (c : EachCursor) :
    Except SqlError EachRow := do
  let i := c.valueAt b
  let type := jsonbType b i
  let value ← sqlAt b i
  let key ← match c.parents.head? with
    | none =>
      if rootLength == 1 then pure .null else
      let j := c.pathLength b recursive
      let n := rootLength - j
      if n == 0 || j > rootLength then pure .null
      else if c.path.getD j ' ' == '[' then
        pure (.integer (readInt ((c.path.drop (j + 1)).take (n - 1))).1)
      else if c.path.getD (j + 1) ' ' == '"' then
        pure (.text (String.ofList ((c.path.drop (j + 2)).take (n - 3))))
      else pure (.text (String.ofList ((c.path.drop (j + 1)).take (n - 1))))
    | some top => if c.within == 12 then sqlAt b c.at_ else pure (.integer top.key)
  let parent : Value := match c.parents.head? with
    | some top => if recursive then .integer top.head else .null
    | none => .null
  let fullkey := if c.parents.isEmpty then c.path else c.path ++ c.pathStep b
  let path := c.path.take (c.pathLength b recursive)
  pure { values := [key, value, .text (jsonbTypeName type), if type < 11 then value else .null,
           .integer c.at_, parent, .text (String.ofList fullkey), .text (String.ofList path)],
         marks := [false, type ≥ 11, false, false, false, false, false, false] }

/-- The cursor after one step. -/
def next (b : Array UInt8) (recursive : Bool) (c : EachCursor) : EachCursor :=
  let c := if recursive then
      let i := c.valueAt b
      let x := jsonbType b i
      let (n, sz) := sizeAt b i
      let (c, changed) := if x == 11 || x == 12 then
          let parent : EachParent :=
            { head := c.at_, start := i, stop := i + n + sz, key := -1,
              pathLength := c.path.length }
          let path := if c.within != 0 && !c.parents.isEmpty then c.path ++ c.pathStep b
            else c.path
          ({ c with parents := parent :: c.parents, path, at_ := i + n }, true)
        else ({ c with at_ := i + n + sz }, false)
      let rec leave : Nat → EachCursor → Bool → EachCursor × Bool
        | 0, c, changed => (c, changed)
        | fuel + 1, c, changed =>
          match c.parents with
          | top :: rest =>
            if c.at_ ≥ top.stop then
              leave fuel { c with parents := rest, path := c.path.take top.pathLength } true
            else (c, changed)
          | [] => (c, changed)
      let (c, changed) := leave (c.parents.length + 1) c changed
      if changed then
        { c with within := match c.parents.head? with
          | some top => jsonbType b top.start
          | none => 0 }
      else c
    else
      let i := c.valueAt b
      let (n, sz) := sizeAt b i
      { c with at_ := i + n + sz }
  let c := if c.within == 11 then
      match c.parents with
      | top :: rest => { c with parents := { top with key := top.key + 1 } :: rest }
      | [] => c
    else c
  { c with rowid := c.rowid + 1 }

/-- The rows from the cursor on, until it reaches the end of the walk. -/
def rows (b : Array UInt8) (recursive : Bool) (rootLength : Nat) :
    Nat → EachCursor → Except SqlError (List EachRow)
  | 0, _ => pure []
  | fuel + 1, c =>
    if c.at_ ≥ c.stop then pure [] else do
    let r ← c.row b recursive rootLength
    let rest ← rows b recursive rootLength fuel (c.next b recursive)
    pure (r :: rest)

end EachCursor

/-- The rows of `json_each` (`recursive` false) or `json_tree` (`recursive` true) for a
document and an optional path; a null document or a path that names nothing gives none. -/
def jsonEachRows (recursive : Bool) (doc : Value) (root : Option Value) :
    Except SqlError (List EachRow) := do
  let some node ← documentOf doc | pure []
  let b := node.jsonb.toArray
  let start : Option (Nat × Nat × List Char) ← match root with
    | none => pure (some (0, 0, ['$']))
    | some .null => pure none
    | some r =>
      let text := (r.text?).getD ""
      match text.toList with
      | ['$'] => pure (some (0, 0, ['$']))
      | '$' :: steps =>
        match jsonbLookup b (b.size + 1) 0 0 steps with
        | .ok (x, label) => pure (some (if label != 0 then (x, label, text.toList)
            else (x, 0, text.toList)))
        | .error .notFound => pure none
        | .error .badPath => throw (badJsonPath text)
      | _ => throw (badJsonPath text)
  match start with
  | none => pure []
  | some (i, label, path) =>
    let (n, sz) := EachCursor.sizeAt b i
    let stop := i + n + sz
    let within := if label != 0 then 12 else if path.length > 1 then 11 else 0
    let at_ := if label != 0 then label else i
    let cursor : EachCursor :=
      if jsonbType b i ≥ 11 && !recursive then
        { at_ := i + n, within := jsonbType b i, path, rowid := 0, stop,
          parents := [{ head := i + n, start := i, stop, key := 0, pathLength := path.length }] }
      else { at_, within, parents := [], path, rowid := 0, stop }
    EachCursor.rows b recursive path.length (b.size + 1) cursor

end Shipyard.Sql
