import Shipyard.Yaml.Document
import Shipyard.Yaml.Resolve
import Shipyard.Json.Reader
/-!
Reading a YAML document as a value of a schema.

The document's tree is walked from the root with the schema. A mismatch is reported at the
innermost node where it was found, with the path to that node from the root: members of a
mapping as `a.b`, items of a sequence as `a[0]` (`.[0]` at the root), a member under a key
that is not a plain scalar as `?`. The message then reads `path: message at line L column C`,
without the path at the root and without the place at the very start of the text.

Text fields take any scalar's text as it is. Flags and integers take a plain scalar whose text
reads as one, whatever its tag, and check its range; any other node is refused for what the
core schema (`Resolved`), with its tags, reads it as. A sequence, map or record may also be
written as an empty plain scalar or be absent altogether, which reads as empty. An optional
value is null when written as an empty plain scalar, a null word, or `!!null`. A record reads
its members by name or alias once each; unknown members are skipped but must be complete.

Collections may nest 128 deep. Following an alias counts against a limit of a hundred per
event of the document, which stops documents that multiply themselves through aliases.
-/
namespace Shipyard.Yaml

/-- The way from the root of a document to a node, as messages spell it. -/
inductive Path where
  | root
  | seq (parent : Path) (index : Nat)
  | map (parent : Path) (key : String)
  | aliased (parent : Path)
  | unknown (parent : Path)

def Path.text : Path → String
  | .root => "."
  | .seq p i => p.text ++ "[" ++ Decimal.natText i ++ "]"
  | .map p k => (match p with | .root => "" | _ => p.text ++ ".") ++ k
  | .aliased p => p.text
  | .unknown p => (match p with | .root => "" | _ => p.text ++ ".") ++ "?"

/-- The path to the value under a key: named by the key when it is a plain scalar. -/
def Path.member (p : Path) (key : Node) : Path :=
  match key with
  | .scalar t _ _ _ => .map p t
  | _ => .unknown p

/-- A value read without a schema, keeping the kind of every scalar. -/
inductive Content where
  /-- The document holds no node. -/
  | none
  | unit
  | bool (b : Bool)
  | u64 (n : Nat)
  | i64 (i : Int)
  | f64 (f : Float)
  | str (s : String)
  | seq (items : List Content)
  | map (entries : List (Content × Content))
  deriving Inhabited

namespace Content

def found : Content → Found
  | .none => .other "Option value"
  | .unit => .unit
  | .bool b => .bool b
  | .u64 n => .unsigned n
  | .i64 i => .signed i
  | .f64 f => .float f
  | .str s => .str s
  | .seq _ => .seq
  | .map _ => .map

mutual
/-- The content as a JSON value: null for the empty values and for floats that are not
finite; a map needs text keys (the first is expected as `a string key`, later ones as
`a string`). -/
def toJson : Content → Except String Json
  | .none | .unit => .ok .null
  | .bool b => .ok (.bool b)
  | .u64 n => .ok (.num (.int n))
  | .i64 i => .ok (.num (.int i))
  | .f64 f => .ok (if f.isFinite then .num (.float f) else .null)
  | .str s => .ok (.str s)
  | .seq items => .arr <$> itemsJson items
  | .map entries => .obj <$> entriesJson true entries []

def itemsJson : List Content → Except String (List Json)
  | [] => .ok []
  | c :: cs => do
    let j ← toJson c
    let js ← itemsJson cs
    .ok (j :: js)

def entriesJson (first : Bool) :
    List (Content × Content) → List (String × Json) → Except String (List (String × Json))
  | [], acc => .ok acc
  | (k, v) :: rest, acc =>
    match k with
    | .str key => do
      let j ← toJson v
      entriesJson false rest (Json.insertSorted key j acc)
    | k => .error (Mismatch.invalidType .markup k.found (if first then "a string key" else "a string"))
end

end Content

/-- Reading a document: the number of aliases followed so far is kept, and a failure ends it. -/
abbrev DecodeM := StateT Nat (Except Failure)

namespace Decode

/-- A mismatch placed at a node. -/
def miss (n : Node) (path : Path) (msg : String) : Failure :=
  match n.mark? with
  | some m => .mismatch msg (some (m, path.text))
  | none => .mismatch msg none

/-- The mismatch for a node of the wrong kind: a scalar is described by what it resolves to
(or refused by its tag), a collection by its kind; where nothing is there, the document ends
too early. -/
def wrongKind (n : Node) (path : Path) (exp : String) : Failure :=
  match n with
  | .scalar t st tag _ => match Resolved.ofScalar t st tag with
    | .ok r => miss n path (Mismatch.invalidType .markup r.found exp)
    | .error msg => miss n path msg
  | .seq .. => miss n path (Mismatch.invalidType .markup .seq exp)
  | .map .. => miss n path (Mismatch.invalidType .markup .map exp)
  | _ => .endOfStream

/-- Whether a scalar is the empty plain scalar, which reads as an empty collection. -/
def isEmptyPlain (t : String) (st : ScalarStyle) : Bool := t.isEmpty && st == .plain

/-- A local tag (`!x`, or `!` alone) marks a node as naming a variant. -/
def variantTag : Option String → Bool
  | some t => t.startsWith "!"
  | none => false

/-- The refusal of a variant tag where any value is read. -/
def variantRefusal : String := "untagged and internally tagged enums do not support enum input"

/-- Follows an alias. -/
def jump (doc : Document) (a : Nat) : DecodeM Node := do
  let count := (← get) + 1
  set count
  if count > doc.size * 100 then throw .repetitionLimit
  match doc.anchor? a with
  | some n => pure n
  | none => throw .repetitionLimit

/-- A scalar checked by `fit` after it is resolved; any other node is of the wrong kind. -/
def scalarBy (n : Node) (path : Path) (exp : String) (fit : Resolved → Except String Json) :
    DecodeM Json :=
  match n with
  | .scalar t st tag _ => match Resolved.ofScalar t st tag with
    | .error msg => throw (miss n path msg)
    | .ok r => match fit r with
      | .ok j => pure j
      | .error msg => throw (miss n path msg)
  | n => throw (wrongKind n path exp)

/-- A plain scalar read by the reading of the one kind wanted, whatever its tag says; when that
reading does not apply, or the node is not a plain scalar, the node is refused for what it is,
tag and all. The reading gives a value, or a refusal of the value it read. -/
def plainBy (n : Node) (path : Path) (exp : String) (read : String → Option (Except String Json)) :
    DecodeM Json :=
  match n with
  | .scalar t .plain _ _ =>
    match read t with
    | some (.ok j) => pure j
    | some (.error msg) => throw (miss n path msg)
    | none => throw (wrongKind n path exp)
  | n => throw (wrongKind n path exp)

/-- A flag: one of the spellings of `true` and `false`. -/
def readBool (t : String) : Option (Except String Json) :=
  (Resolve.boolWord? t).map fun b => .ok (.bool b)

/-- An unsigned integer of the given width: a numeral within 64 bits, then checked for the
width. -/
def readNat (bits : Nat) (exp : String) (t : String) : Option (Except String Json) :=
  (Resolve.unsignedValue? t).bind fun n =>
    if n < Nat.pow 2 64 then
      some (if n < Nat.pow 2 bits then .ok (.num (.int n))
        else .error (Mismatch.invalidValue .markup (.unsigned n) exp))
    else none

/-- A signed integer of the given width: a 64-bit numeral, then checked for the width. -/
def readInt (bits : Nat) (exp : String) (t : String) : Option (Except String Json) :=
  (Resolve.signedNumeral? t).map fun i =>
    if -Int.pow 2 (bits - 1) ≤ i && i < Int.pow 2 (bits - 1) then .ok (.num (.int i))
    else .error (Mismatch.invalidValue .markup (if 0 ≤ i then .unsigned i.toNat else .signed i) exp)

/-- A scalar as a JSON value. -/
def fitAny : Resolved → Except String Json
  | .null => .ok .null
  | .bool b => .ok (.bool b)
  | .unsigned n => .ok (.num (.int n))
  | .signed i => .ok (.num (.int i))
  | .float f => .ok (if f.isFinite then .num (.float f) else .null)
  | .str s => .ok (.str s)
  | r => .error (Mismatch.invalidType .markup r.found "any valid JSON value")

/-- The text of a key; `path` is the path of the mapping. -/
def keyText (doc : Document) (path : Path) (exp : String) : Nat → Node → DecodeM String
  | _, .scalar t _ _ _ => pure t
  | _, .cut => throw doc.cutFailure
  | 0, .aliased _ _ => throw .repetitionLimit
  | fuel + 1, .aliased a _ => do
    let t ← jump doc a
    keyText doc (.aliased path) exp fuel t
  | _, n => throw (wrongKind n path exp)

/-- A record's members in declaration order, defaults for those not seen, or the first
required member that is missing, placed at the record. -/
def fill (n : Node) (path : Path) (fields : List (Field Schema)) (slots : List (Option Json)) :
    DecodeM Json :=
  match Json.fillFields fields slots with
  | .ok kvs => pure (.obj kvs)
  | .error msg => throw (miss n path msg)

/-- The members of a record, or of an overlay when `repeatable`. -/
def noSlots (fields : List (Field Schema)) : List (Option Json) := fields.map fun _ => none

/-- A value of a schema that reads values already read (a flat record or an untagged choice):
the node read as any value, then checked. -/
def checkRead (s : Schema) (n : Node) (path : Path) (read : DecodeM Json) : DecodeM Json := do
  match Json.decode s (← read) with
  | .ok w => pure w
  | .error msg => throw (miss n path msg)

mutual
/-- Reads a value of the schema from a node. -/
def value (doc : Document) (fuel depth : Nat) (path : Path) (s : Schema) (n : Node) :
    DecodeM Json :=
  match s, n with
  | .ignored, n => if n.complete then pure .null else throw doc.cutFailure
  | _, .cut => throw doc.cutFailure
  | s, .aliased a _ =>
    match fuel with
    | 0 => throw .repetitionLimit
    | fuel + 1 => do
      let t ← jump doc a
      value doc fuel depth (.aliased path) s t
  | .string, .scalar t _ _ _ => pure (.str t)
  | .string, n => throw (wrongKind n path "a string")
  | .dateTime _, .scalar t _ _ _ =>
    match DateTime.parse t with
    | .ok d => pure (.str d.utcText)
    | .error e => throw (miss n path e.message)
  | .dateTime name, n => throw (wrongKind n path name)
  | .bool, n => plainBy n path "a boolean" readBool
  | .nat bits, n => plainBy n path (Schema.nat bits).expected (readNat bits (Schema.nat bits).expected)
  | .int bits, n => plainBy n path (Schema.int bits).expected (readInt bits (Schema.int bits).expected)
  | .option _, .void _ => pure .null
  | .option inner, .scalar t st tag m =>
    if st != .plain then value doc fuel depth path inner (.scalar t st tag m)
    else match tag with
      | some tg =>
        if tg == tagNull then
          if Resolve.isNullWord t then pure .null
          else throw (miss n path (Mismatch.invalidValue .markup (.str t) "null"))
        else value doc fuel depth path inner (.scalar t st (some tg) m)
      | none =>
        if t.isEmpty || Resolve.isNullWord t then pure .null
        else value doc fuel depth path inner (.scalar t st none m)
  | .option inner, n => value doc fuel depth path inner n
  | .list inner, .seq _ m xs closed =>
    match depth with
    | 0 => throw (.recursionLimit m)
    | depth + 1 => do
      let ys ← items doc fuel depth path inner 0 xs
      if closed then pure (.arr ys) else throw doc.cutFailure
  | .list _, .scalar t st tag m =>
    if isEmptyPlain t st then pure (.arr []) else throw (wrongKind (.scalar t st tag m) path "a sequence")
  | .list _, .void _ => pure (.arr [])
  | .list _, n => throw (wrongKind n path "a sequence")
  | .dict inner, .map _ m es closed =>
    match depth with
    | 0 => throw (.recursionLimit m)
    | depth + 1 => do
      let kvs ← dictEntries doc fuel depth path inner es []
      if closed then pure (.obj kvs) else throw doc.cutFailure
  | .dict _, .scalar t st tag m =>
    if isEmptyPlain t st then pure (.obj []) else throw (wrongKind (.scalar t st tag m) path "a map")
  | .dict _, .void _ => pure (.obj [])
  | .dict _, n => throw (wrongKind n path "a map")
  | .record _ fields, .map _ m es closed =>
    match depth with
    | 0 => throw (.recursionLimit m)
    | depth + 1 => do
      let slots ← recordEntries doc fuel depth path n false fields es (noSlots fields)
      if closed then fill n path fields slots else throw doc.cutFailure
  | .overlay _ fields, .map _ m es closed =>
    match depth with
    | 0 => throw (.recursionLimit m)
    | depth + 1 => do
      let slots ← recordEntries doc fuel depth path n true fields es (noSlots fields)
      if closed then fill n path fields slots else throw doc.cutFailure
  | .record name fields, .scalar t st tag m =>
    if isEmptyPlain t st then fill n path fields (noSlots fields)
    else throw (wrongKind (.scalar t st tag m) path ("struct " ++ name))
  | .overlay name fields, .scalar t st tag m =>
    if isEmptyPlain t st then fill n path fields (noSlots fields)
    else throw (wrongKind (.scalar t st tag m) path name)
  | .record _ fields, .void _ => fill n path fields (noSlots fields)
  | .overlay _ fields, .void _ => fill n path fields (noSlots fields)
  | .record name _, n => throw (wrongKind n path ("struct " ++ name))
  | .overlay name _, n => throw (wrongKind n path name)
  | .choice _ variants, .scalar t _ _ _ =>
    if variants.contains t then pure (.str t) else throw (miss n path (Mismatch.unknownVariant t variants))
  | .choice name _, n => throw (wrongKind n path ("enum " ++ name))
  | .named _, .scalar t _ _ _ => pure (.str t)
  | .named name, n => throw (wrongKind n path ("enum " ++ name))
  | .flat name fields parts, n =>
    have : 0 < sizeOf parts := by cases parts <;> simp +arith
    checkRead (.flat name fields parts) n path (value doc fuel depth path .any n)
  | .untagged name variants, n =>
    have : 0 < sizeOf variants := by cases variants <;> simp +arith
    checkRead (.untagged name variants) n path (value doc fuel depth path .any n)
  | .any, .scalar t st tag m =>
    if variantTag tag then
      throw (miss n path (Mismatch.invalidType .markup (.other "enum") "any valid JSON value"))
    else scalarBy (.scalar t st tag m) path "any valid JSON value" fitAny
  | .any, .seq tag m xs closed =>
    if variantTag tag then
      throw (miss n path (Mismatch.invalidType .markup (.other "enum") "any valid JSON value"))
    else match depth with
      | 0 => throw (.recursionLimit m)
      | depth + 1 => do
        let ys ← items doc fuel depth path .any 0 xs
        if closed then pure (.arr ys) else throw doc.cutFailure
  | .any, .map tag m es closed =>
    if variantTag tag then
      throw (miss n path (Mismatch.invalidType .markup (.other "enum") "any valid JSON value"))
    else match depth with
      | 0 => throw (.recursionLimit m)
      | depth + 1 => do
        let kvs ← anyEntries doc fuel depth path true es []
        if closed then pure (.obj kvs) else throw doc.cutFailure
  | .any, .void _ => pure .null
termination_by (fuel, sizeOf n, sizeOf s)

/-- The items of a sequence, from the `i`-th. -/
def items (doc : Document) (fuel depth : Nat) (path : Path) (s : Schema) :
    Nat → List Node → DecodeM (List Json)
  | _, [] => pure []
  | i, x :: xs => do
    let y ← value doc fuel depth (.seq path i) s x
    let ys ← items doc fuel depth path s (i + 1) xs
    pure (y :: ys)
termination_by _ xs => (fuel, sizeOf xs, 0)

/-- The entries of a map, kept in ascending key order, a repeated key keeping its last value. -/
def dictEntries (doc : Document) (fuel depth : Nat) (path : Path) (s : Schema) :
    List (Node × Node) → List (String × Json) → DecodeM (List (String × Json))
  | [], acc => pure acc
  | (k, v) :: rest, acc => do
    let key ← keyText doc path "a string" fuel k
    let y ← value doc fuel depth (path.member k) s v
    dictEntries doc fuel depth path s rest (Json.insertSorted key y acc)
termination_by es _ => (fuel, sizeOf es, 0)

/-- The entries of a mapping read as any JSON value: the first key is expected as
`a string key`, later ones as `a string`. -/
def anyEntries (doc : Document) (fuel depth : Nat) (path : Path) (first : Bool) :
    List (Node × Node) → List (String × Json) → DecodeM (List (String × Json))
  | [], acc => pure acc
  | (k, v) :: rest, acc => do
    let key ← keyText doc path (if first then "a string key" else "a string") fuel k
    let y ← value doc fuel depth (path.member k) .any v
    anyEntries doc fuel depth path false rest (Json.insertSorted key y acc)
termination_by es _ => (fuel, sizeOf es, 0)

/-- The members of a record: each field's value once it was seen. A repeated member is refused
at the record `r` unless `repeatable`, when it replaces the earlier one. -/
def recordEntries (doc : Document) (fuel depth : Nat) (path : Path) (r : Node) (repeatable : Bool)
    (fields : List (Field Schema)) :
    List (Node × Node) → List (Option Json) → DecodeM (List (Option Json))
  | [], slots => pure slots
  | (k, v) :: rest, slots => do
    let key ← keyText doc path "field identifier" fuel k
    match Json.fieldIndex fields key 0 with
    | some (i, f) =>
      if !repeatable && (slots.getD i none).isSome then
        throw (miss r path (Mismatch.duplicateField f.name))
      else
        let y ← value doc fuel depth (path.member k) f.schema v
        recordEntries doc fuel depth path r repeatable fields rest (slots.set i (some y))
    | none =>
      if v.complete then recordEntries doc fuel depth path r repeatable fields rest slots
      else throw doc.cutFailure
termination_by es _ => (fuel, sizeOf es, 0)
end

mutual
/-- Reads a node as content: scalars resolved by the core schema, collections as they are. -/
def content (doc : Document) (fuel depth : Nat) (path : Path) (n : Node) : DecodeM Content :=
  match n with
  | .cut => throw doc.cutFailure
  | .aliased a _ =>
    match fuel with
    | 0 => throw .repetitionLimit
    | fuel + 1 => do
      let t ← jump doc a
      content doc fuel depth (.aliased path) t
  | .void _ => pure .none
  | .scalar t st tag _ =>
    if variantTag tag then throw (miss n path variantRefusal)
    else match Resolved.ofScalar t st tag with
      | .error msg => throw (miss n path msg)
      | .ok .null => pure .unit
      | .ok (.bool b) => pure (.bool b)
      | .ok (.unsigned k) => pure (.u64 k)
      | .ok (.signed i) => pure (.i64 i)
      | .ok (.float f) => pure (.f64 f)
      | .ok (.str s) => pure (.str s)
      | .ok r => throw (miss n path (Mismatch.invalidType .markup r.found "any value"))
  | .seq tag m xs closed =>
    if variantTag tag then throw (miss n path variantRefusal)
    else match depth with
      | 0 => throw (.recursionLimit m)
      | depth + 1 => do
        let cs ← contentItems doc fuel depth path 0 xs
        if closed then pure (.seq cs) else throw doc.cutFailure
  | .map tag m es closed =>
    if variantTag tag then throw (miss n path variantRefusal)
    else match depth with
      | 0 => throw (.recursionLimit m)
      | depth + 1 => do
        let kvs ← contentEntries doc fuel depth path es
        if closed then pure (.map kvs) else throw doc.cutFailure
termination_by (fuel, sizeOf n)

def contentItems (doc : Document) (fuel depth : Nat) (path : Path) :
    Nat → List Node → DecodeM (List Content)
  | _, [] => pure []
  | i, x :: xs => do
    let c ← content doc fuel depth (.seq path i) x
    let cs ← contentItems doc fuel depth path (i + 1) xs
    pure (c :: cs)
termination_by _ xs => (fuel, sizeOf xs)

def contentEntries (doc : Document) (fuel depth : Nat) (path : Path) :
    List (Node × Node) → DecodeM (List (Content × Content))
  | [] => pure []
  | (k, v) :: rest => do
    let kc ← content doc fuel depth path k
    let vc ← content doc fuel depth (path.member k) v
    let more ← contentEntries doc fuel depth path rest
    pure ((kc, vc) :: more)
termination_by es => (fuel, sizeOf es)
end

end Decode

/-- Reads the one document of a text by `read`, starting from the root with full depth and a
follow-alias budget that the repetition limit always reaches first. A syntax error or unknown
anchor past what `read` needed still fails, and so does a second document. -/
def Document.readWith {α : Type} (doc : Document)
    (read : Nat → Nat → Path → Node → DecodeM α) : Except Failure α :=
  match (read (doc.size * 100 + 2) 128 .root doc.root).run 0 with
  | .error e => .error e
  | .ok (a, _) =>
    match doc.error with
    | some e => .error e
    | none => if doc.more then .error .severalDocuments else .ok a

/-- Reads the one document of a text as a value of the schema. -/
def decode (s : Schema) (text : String) : Except Failure Json :=
  let doc := Document.ofText text
  doc.readWith fun fuel depth path n => Decode.value doc fuel depth path s n

end Shipyard.Yaml
