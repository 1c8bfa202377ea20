import Shipyard.Schema.Basic
import Shipyard.Time.DateTime
/-!
Checking an already-read value against a schema.

This is the second way a document reaches a schema: the value was read first and is then
checked. The rules and messages are those of the text reader (`Reader`), without places, with
these differences: an object's members are checked in the order the value holds them; a record
written as a list with more items than fields fails with
`invalid length N, expected fewer elements in array`; a choice accepts a string or a
one-member object and otherwise expects a `string or map`.

The text reader checks the kept members of a flat record this way, once the record is closed.
-/
namespace Shipyard.Json

/-- What a value is, for a message about the wrong kind of value. -/
def found : Json → Found
  | .null => .unit
  | .bool b => .bool b
  | .num (.int i) => if i < 0 then .signed i else .unsigned i.toNat
  | .num (.float f) => .float f
  | .str s => .str s
  | .arr _ => .seq
  | .obj _ => .map

/-- The wrong-kind message for a value. -/
def mismatch (v : Json) (exp : String) : String :=
  Mismatch.invalidType .interchange (found v) exp

/-- The number a value holds, as a reader classifies it. -/
def numeral? : Json → Option Numeral
  | .num (.int i) => some (if i < 0 then .signed i else .unsigned i.toNat)
  | .num (.float f) => some (.float f)
  | _ => none

/-- The field a key names (by name or alias), with its position. -/
def fieldIndex : List (Field Schema) → String → Nat → Option (Nat × Field Schema)
  | [], _, _ => none
  | f :: rest, k, i => if f.name == k || f.aliases.contains k then some (i, f)
                       else fieldIndex rest k (i + 1)

/-- Record members in declaration order, defaults for the fields not seen, or the first
required field that is missing. -/
def fillFields : List (Field Schema) → List (Option Json) → Except String (List (String × Json))
  | [], _ => .ok []
  | f :: rest, slots =>
    let here : Except String Json :=
      match slots.head?.getD none, f.default with
      | some v, _ => .ok v
      | none, some d => .ok d
      | none, none => .error (Mismatch.missingField f.name)
    match here, fillFields rest slots.tail with
    | .ok v, .ok kvs => .ok ((f.name, v) :: kvs)
    | .error m, _ => .error m
    | _, .error m => .error m

/-- A field found by `fieldIndex` is one of the fields. -/
theorem mem_of_fieldIndex {fields : List (Field Schema)} {k : String} {n i : Nat}
    {f : Field Schema} (h : fieldIndex fields k n = some (i, f)) : f ∈ fields := by
  induction fields generalizing n with
  | nil => simp [fieldIndex] at h
  | cons g rest ih =>
    simp only [fieldIndex] at h
    split at h
    · cases h; exact List.mem_cons_self
    · exact List.mem_cons_of_mem _ (ih h)

theorem sizeOf_schema_lt {fields : List (Field Schema)} {f : Field Schema} (h : f ∈ fields) :
    sizeOf f.schema < sizeOf fields := by
  have h1 := List.sizeOf_lt_of_mem h
  cases f
  simp only [Field.mk.sizeOf_spec] at h1 ⊢
  omega

/-- Whether a record's fields name a key. -/
def names (fields : List (Field Schema)) (k : String) : Bool := (fieldIndex fields k 0).isSome

/-- The members of a flat record that no field names: those it keeps. -/
def keptMembers (fields : List (Field Schema)) (kvs : List (String × Json)) :
    List (String × Json) :=
  kvs.filter fun kv => !names fields kv.1

/-- The kept members a part reads: those a record part names, or all. -/
def partMembers (part : Schema) (kept : List (String × Json)) : List (String × Json) :=
  match part with
  | .record _ fields => kept.filter fun kv => names fields kv.1
  | _ => kept

/-- The kept members left for the parts after this one: a record part takes those it names. -/
def partRest (part : Schema) (kept : List (String × Json)) : List (String × Json) :=
  match part with
  | .record _ fields => kept.filter fun kv => !names fields kv.1
  | _ => kept

theorem sizeOf_filter_le {α : Type} [SizeOf α] (p : α → Bool) (l : List α) :
    sizeOf (l.filter p) ≤ sizeOf l := by
  induction l with
  | nil => simp
  | cons a l ih =>
    simp only [List.filter]
    split
    · simp only [List.cons.sizeOf_spec]; omega
    · simp only [List.cons.sizeOf_spec]; omega

theorem sizeOf_keptMembers_le (fields : List (Field Schema)) (kvs : List (String × Json)) :
    sizeOf (keptMembers fields kvs) ≤ sizeOf kvs :=
  sizeOf_filter_le _ _

theorem sizeOf_partMembers_le (part : Schema) (kept : List (String × Json)) :
    sizeOf (partMembers part kept) ≤ sizeOf kept := by
  unfold partMembers
  split
  · exact sizeOf_filter_le _ _
  · exact Nat.le_refl _

theorem sizeOf_partRest_le (part : Schema) (kept : List (String × Json)) :
    sizeOf (partRest part kept) ≤ sizeOf kept := by
  unfold partRest
  split
  · exact sizeOf_filter_le _ _
  · exact Nat.le_refl _

/-- The members of what a part read, to be added to those of its record. -/
def members : Json → List (String × Json)
  | .obj kvs => kvs
  | _ => []

mutual

/-- Checks a value against the schema and returns it in normal form. -/
def decode : Schema → Json → Except String Json
  | .any, v => .ok v
  | .ignored, _ => .ok .null
  | .string, v => match v with
    | .str s => .ok (.str s)
    | _ => .error (mismatch v "a string")
  | .dateTime name, v => match v with
    | .str s => match DateTime.parse s with
      | .ok d => .ok (.str d.utcText)
      | .error e => .error e.message
    | _ => .error (mismatch v name)
  | .bool, v => match v with
    | .bool b => .ok (.bool b)
    | _ => .error (mismatch v "a boolean")
  | .nat bits, v => match numeral? v with
    | some n => Numeral.fitInteger .interchange false bits (Schema.nat bits).expected n
    | none => .error (mismatch v (Schema.nat bits).expected)
  | .int bits, v => match numeral? v with
    | some n => Numeral.fitInteger .interchange true bits (Schema.int bits).expected n
    | none => .error (mismatch v (Schema.int bits).expected)
  | .option _, .null => .ok .null
  | .option inner, v => decode inner v
  | .list inner, v => match v with
    | .arr xs => .arr <$> decodeItems inner xs
    | _ => .error (mismatch v "a sequence")
  | .dict inner, v => match v with
    | .obj kvs => .obj <$> decodeEntries inner kvs
    | _ => .error (mismatch v "a map")
  | .record name fields, v => match v with
    | .arr xs => do
      let kvs ← decodeRecordItems name fields.length fields xs []
      if xs.length > fields.length then
        .error (Mismatch.invalidLength xs.length "fewer elements in array")
      else .ok (.obj kvs)
    | .obj kvs => do
      let slots ← decodeRecordEntries fields kvs (fields.map fun _ => none)
      .obj <$> fillFields fields slots
    | _ => .error (mismatch v ("struct " ++ name))
  | .overlay name fields, v => match v with
    | .obj kvs => do
      let slots ← decodeRecordEntries fields kvs (fields.map fun _ => none)
      .obj <$> fillFields fields slots
    | _ => .error (mismatch v name)
  | .choice _ variants, v => match v with
    | .str s => if variants.contains s then .ok (.str s)
                else .error (Mismatch.unknownVariant s variants)
    | .obj [(k, inner)] =>
      if variants.contains k then
        match inner with
        | .null => .ok (.str k)
        | _ => .error (mismatch inner "unit variant")
      else .error (Mismatch.unknownVariant k variants)
    | .obj _ => .error (Mismatch.invalidValue .interchange .map "map with a single key")
    | _ => .error (mismatch v "string or map")
  | .named _, v => match v with
    | .str s => .ok (.str s)
    | .obj [(k, inner)] =>
      match inner with
      | .null => .ok (.str k)
      | _ => .error (mismatch inner "unit variant")
    | .obj _ => .error (Mismatch.invalidValue .interchange .map "map with a single key")
    | _ => .error (mismatch v "string or map")
  | .flat name fields parts, v => match v with
    | .obj kvs => do
      let slots ← decodeRecordEntries fields kvs (fields.map fun _ => none)
      let known ← fillFields fields slots
      let rest ← decodeParts parts (keptMembers fields kvs)
      .ok (.obj (known ++ rest))
    | _ => .error (mismatch v ("struct " ++ name))
  | .untagged name variants, v => decodeFirst name variants v
termination_by s v => sizeOf s + sizeOf v
decreasing_by
  all_goals simp_wf
  all_goals first
    | omega
    | (have h1 := sizeOf_keptMembers_le fields kvs; omega)

def decodeItems (s : Schema) : List Json → Except String (List Json)
  | [] => .ok []
  | x :: xs => do
    let y ← decode s x
    let ys ← decodeItems s xs
    .ok (y :: ys)
termination_by xs => sizeOf s + sizeOf xs
decreasing_by
  all_goals simp_wf
  all_goals omega

def decodeEntries (s : Schema) : List (String × Json) → Except String (List (String × Json))
  | [] => .ok []
  | (k, x) :: rest => do
    let y ← decode s x
    let ys ← decodeEntries s rest
    .ok (insertSorted k y ys)
termination_by kvs => sizeOf s + sizeOf kvs
decreasing_by
  all_goals simp_wf
  all_goals omega

/-- The fields of a record written as a list, in declaration order. -/
def decodeRecordItems (name : String) (count : Nat) :
    List (Field Schema) → List Json → List (String × Json) → Except String (List (String × Json))
  | [], _, acc => .ok acc
  | ⟨fname, _, fschema, _⟩ :: rest, x :: xs, acc => do
    let y ← decode fschema x
    decodeRecordItems name count rest xs (acc ++ [(fname, y)])
  | f :: rest, [], acc =>
    match f.default with
    | some d => decodeRecordItems name count rest [] (acc ++ [(f.name, d)])
    | none => .error (Mismatch.invalidLength acc.length
        ("struct " ++ name ++ " with " ++ Decimal.natText count ++ " elements"))
termination_by fields xs _ => sizeOf fields + sizeOf xs
decreasing_by
  all_goals simp_wf
  all_goals omega

/-- The members of a record written as an object, in ascending key order. -/
def decodeRecordEntries (fields : List (Field Schema)) :
    List (String × Json) → List (Option Json) → Except String (List (Option Json))
  | [], slots => .ok slots
  | (k, x) :: rest, slots =>
    match _hf : fieldIndex fields k 0 with
    | some (i, f) =>
      if (slots.getD i none).isSome then .error (Mismatch.duplicateField f.name)
      else do
        let y ← decode f.schema x
        decodeRecordEntries fields rest (slots.set i (some y))
    | none => decodeRecordEntries fields rest slots
termination_by kvs _ => sizeOf fields + sizeOf kvs
decreasing_by
  all_goals simp_wf
  all_goals first
    | omega
    | (have h1 := sizeOf_schema_lt (mem_of_fieldIndex _hf); omega)

/-- The kept members of a flat record, read by each part in turn; the members of what the
parts read. -/
def decodeParts : List Schema → List (String × Json) → Except String (List (String × Json))
  | [], _ => .ok []
  | part :: rest, kept => do
    let v ← decode part (.obj (partMembers part kept))
    let more ← decodeParts rest (partRest part kept)
    .ok (members v ++ more)
termination_by parts kept => sizeOf parts + sizeOf kept + 1
decreasing_by
  all_goals simp_wf
  · have h1 := sizeOf_partMembers_le part kept
    omega
  · have h1 := sizeOf_partRest_le part kept
    omega

/-- The value as read by the first variant it fits. -/
def decodeFirst (name : String) : List Schema → Json → Except String Json
  | [], _ => .error (Mismatch.noVariant name)
  | s :: rest, v =>
    match decode s v with
    | .ok w => .ok w
    | .error _ => decodeFirst name rest v
termination_by variants v => sizeOf variants + sizeOf v
decreasing_by
  all_goals simp_wf
  all_goals omega

end

/-- Checks a value whose objects may be in any order: members are taken in ascending key
order, as a reader of the text would have stored them. -/
def check (s : Schema) (v : Json) : Except String Json := decode s v.sortKeys

end Shipyard.Json
