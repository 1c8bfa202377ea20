import Shipyard.Sql.JsonTree
import Shipyard.Text.Utf8
/-!
# The binary form of JSON

A document may also be kept as a blob. Each value is then a header and a payload. The low four
bits of the header's first byte give the type; the high four bits give the size of the
payload: up to 11 they are the size itself, while 12, 13 and 14 say that the size follows in
one, two or four bytes (high byte first), and 15 that it follows in eight. A value is written
with the shortest header that holds its size.

The types are 0 null, 1 true, 2 false, 3 an integer, 4 a JSON5 integer (hexadecimal), 5 a real,
6 a JSON5 real, 7 a string with nothing escaped, 8 a string with JSON escapes, 9 a string with
JSON5 escapes, 10 a string of SQL text (escaped only when written out), 11 an array and 12 an
object. Numbers and strings keep their text as the payload; an array keeps its items one after
another, an object its labels and values in turn.

A blob is taken as a document when its first header is one of these types and says exactly
the rest of the blob is its payload (and null, true and false have none). Any other blob is
read as text.
-/
namespace Shipyard.Sql

/-- The header of a value of a type with a payload of a size, in its shortest form. -/
def jsonbHeader (type size : Nat) : List UInt8 :=
  if size ≤ 11 then [(type + size * 16).toUInt8]
  else if size ≤ 0xff then [(type + 0xc0).toUInt8, size.toUInt8]
  else if size ≤ 0xffff then [(type + 0xd0).toUInt8, (size / 0x100).toUInt8, size.toUInt8]
  else [(type + 0xe0).toUInt8, (size / 0x1000000).toUInt8, (size / 0x10000).toUInt8,
    (size / 0x100).toUInt8, size.toUInt8]

/-- A value of a type with a payload. -/
def jsonbElement (type : Nat) (payload : List UInt8) : List UInt8 :=
  jsonbHeader type payload.length ++ payload

/-- The type of a string by how its text holds its characters. -/
def JsonTextKind.jsonbType : JsonTextKind → Nat
  | .plain => 7
  | .escaped => 8
  | .json5 => 9
  | .raw => 10

/-- A string in the binary form. -/
def JsonString.jsonb (s : JsonString) : List UInt8 :=
  jsonbElement s.kind.jsonbType s.text.toUTF8.toList

mutual

/-- A JSON value in the binary form. -/
def JsonNode.jsonb : JsonNode → List UInt8
  | .null => [0x00]
  | .true => [0x01]
  | .false => [0x02]
  | .integer text json5 => jsonbElement (if json5 then 4 else 3) text.toUTF8.toList
  | .real text json5 => jsonbElement (if json5 then 6 else 5) text.toUTF8.toList
  | .string s => s.jsonb
  | .array items => jsonbElement 11 (jsonbItems items)
  | .object members => jsonbElement 12 (jsonbMembers members)

/-- Array items in the binary form, one after another. -/
def jsonbItems : List JsonNode → List UInt8
  | [] => []
  | x :: rest => x.jsonb ++ jsonbItems rest

/-- Object members in the binary form, each label followed by its value. -/
def jsonbMembers : List (JsonString × JsonNode) → List UInt8
  | [] => []
  | (k, v) :: rest => k.jsonb ++ v.jsonb ++ jsonbMembers rest

end

/-- The bytes from `i` on, read as a big-endian number of `count` bytes. -/
def bigEndian (b : Array UInt8) (i count : Nat) : Nat :=
  (List.range count).foldl (fun n k => n * 256 + (b.getD (i + k) 0).toNat) 0

/-- The size of the header at `i` and the size of its payload; none when the header runs past
the end, an eight-byte size does not fit 32 bits, or the payload runs past the end. -/
def jsonbPayloadSize (b : Array UInt8) (i : Nat) : Option (Nat × Nat) :=
  let x := (b.getD i 0).toNat / 16
  let header : Option (Nat × Nat) :=
    if x ≤ 11 then some (1, x)
    else if x == 12 then (if i + 1 ≥ b.size then none else some (2, bigEndian b (i + 1) 1))
    else if x == 13 then (if i + 2 ≥ b.size then none else some (3, bigEndian b (i + 1) 2))
    else if x == 14 then (if i + 4 ≥ b.size then none else some (5, bigEndian b (i + 1) 4))
    else if i + 8 ≥ b.size || bigEndian b (i + 1) 4 != 0 then none
    else some (9, bigEndian b (i + 5) 4)
  match header with
  | some (n, sz) => if i + n + sz > b.size then none else some (n, sz)
  | none => none

/-- The type of the value at `i`. -/
def jsonbType (b : Array UInt8) (i : Nat) : Nat := (b.getD i 0).toNat % 16

/-- Whether a blob is a document in the binary form, as far as its first header tells: a known
type whose payload is exactly the rest of the blob, empty for null, true and false. -/
def isJsonb (bytes : List UInt8) : Bool :=
  let b := bytes.toArray
  b.size ≥ 1 && jsonbType b 0 ≤ 12 &&
    match jsonbPayloadSize b 0 with
    | some (n, sz) => n + sz == b.size && (jsonbType b 0 > 2 || sz == 0)
    | none => false

/-- The text of a payload. -/
def jsonbText (b : Array UInt8) (i size : Nat) : String :=
  Text.lossyUtf8 (b.extract i (i + size)).toList

mutual

/-- The value at `i` and the place after it, read as it is written out: null, true and false
take one byte whatever their size says; numbers need a payload; labels must be strings. None
when the value is malformed. -/
def jsonbNodeAt (b : Array UInt8) : Nat → Nat → Option (JsonNode × Nat)
  | 0, _ => none
  | fuel + 1, i =>
    match jsonbPayloadSize b i with
    | none => none
    | some (n, sz) =>
      let start := i + n
      let stop := start + sz
      let text := jsonbText b start sz
      match jsonbType b i with
      | 0 => some (.null, i + 1)
      | 1 => some (.true, i + 1)
      | 2 => some (.false, i + 1)
      | 3 => if sz == 0 then none else some (.integer text false, stop)
      | 4 => if sz == 0 then none else some (.integer text true, stop)
      | 5 => if sz == 0 then none else some (.real text false, stop)
      | 6 => if sz == 0 then none else some (.real text true, stop)
      | 7 => some (.string ⟨text, .plain⟩, stop)
      | 8 => some (.string ⟨text, .escaped⟩, stop)
      | 9 => some (.string ⟨text, .json5⟩, stop)
      | 10 => some (.string ⟨text, .raw⟩, stop)
      | 11 => do
        let items ← jsonbItemsAt b fuel start stop
        some (.array items, stop)
      | 12 => do
        let members ← jsonbMembersAt b fuel start stop
        some (.object members, stop)
      | _ => none

/-- The items from `j` up to `stop`. -/
def jsonbItemsAt (b : Array UInt8) : Nat → Nat → Nat → Option (List JsonNode)
  | 0, _, _ => none
  | fuel + 1, j, stop =>
    if j ≥ stop then (if j == stop then some [] else none)
    else do
      let (x, next) ← jsonbNodeAt b fuel j
      let rest ← jsonbItemsAt b fuel next stop
      some (x :: rest)

/-- The members from `j` up to `stop`: labels and values in turn. -/
def jsonbMembersAt (b : Array UInt8) : Nat → Nat → Nat → Option (List (JsonString × JsonNode))
  | 0, _, _ => none
  | fuel + 1, j, stop =>
    if j ≥ stop then (if j == stop then some [] else none)
    else do
      let (label, afterLabel) ← jsonbNodeAt b fuel j
      let key ← match label with
        | .string s => some s
        | _ => none
      if afterLabel ≥ stop then none else
      let (v, next) ← jsonbNodeAt b fuel afterLabel
      let rest ← jsonbMembersAt b fuel next stop
      some ((key, v) :: rest)

end

/-- The document a blob in the binary form holds; none when it is malformed. -/
def jsonbDocument (bytes : List UInt8) : Option JsonNode :=
  let b := bytes.toArray
  (jsonbNodeAt b (b.size + 1) 0).map (·.1)

/-! ## A strict check of the binary form -/

/-- Whether a byte is a digit. -/
def isDigitByte (c : UInt8) : Bool := 48 ≤ c && c ≤ 57

/-- Whether a byte is a hexadecimal digit. -/
def isHexByte (c : UInt8) : Bool :=
  isDigitByte c || (97 ≤ c && c ≤ 102) || (65 ≤ c && c ≤ 70)

/-- The first place (from 1) in `[j, k)` where a byte fails a test, or 0. -/
def firstFailing (b : Array UInt8) (test : UInt8 → Bool) (j k : Nat) : Nat :=
  match (List.range (k - j)).find? (fun d => !test (b.getD (j + d) 0)) with
  | some d => j + d + 1
  | none => 0

/-- The check of a real's payload in `[j, k)`: digits with at most one point and one exponent,
which for a plain real must not start or end the digits around the point. -/
def checkRealPayload (b : Array UInt8) (json5 : Bool) (i j k : Nat) : Nat :=
  let at_ (p : Nat) : UInt8 := b.getD p 0
  let sz := k - j
  if sz < 2 then i + 1 else
  let (j, short) : Nat × Bool := if at_ j == 45 then (j + 1, sz < 3) else (j, false)
  if short then i + 1 else
  let start : Option (Nat × Nat) :=
    if at_ j == 46 then
      if !json5 || !isDigitByte (at_ (j + 1)) then none else some (j + 2, 1)
    else if at_ j == 48 && !json5 then
      if j + 3 > k then none
      else if at_ (j + 1) != 46 && at_ (j + 1) != 101 && at_ (j + 1) != 69 then none
      else some (j + 1, 0)
    else some (j, 0)
  match start with
  | none => j + 1
  | some (p, seen) =>
    let rec go : Nat → Nat → Nat → Nat
      | 0, _, _ => 0
      | fuel + 1, p, seen =>
        if p ≥ k then (if seen == 0 then i + 1 else 0)
        else
          let c := at_ p
          if isDigitByte c then go fuel (p + 1) seen
          else if c == 46 then
            if seen > 0 then p + 1
            else if !json5 && (p == k - 1 || !isDigitByte (at_ (p + 1))) then p + 1
            else go fuel (p + 1) 1
          else if c == 101 || c == 69 then
            if seen == 2 || p == k - 1 then p + 1
            else if at_ (p + 1) == 43 || at_ (p + 1) == 45 then
              if p + 1 == k - 1 then p + 2 else go fuel (p + 2) 2
            else go fuel (p + 1) 2
          else p + 1
    go (k - p + 1) p seen

/-- The check of an escaped string's payload in `[j, k)`: JSON escapes, and for a JSON5 string
also its own escapes, quotes and control characters. -/
def checkEscapedPayload (b : Array UInt8) (json5 : Bool) (j k : Nat) : Nat :=
  let at_ (p : Nat) : UInt8 := b.getD p 0
  let rec go : Nat → Nat → Nat
    | 0, _ => 0
    | fuel + 1, p =>
      if p ≥ k then 0 else
      let c := at_ p
      if c == 34 then (if json5 then go fuel (p + 1) else p + 1)
      else if c ≤ 0x1f then (if json5 then go fuel (p + 1) else p + 1)
      else if c != 92 then go fuel (p + 1)
      else if p + 1 ≥ k then p + 1
      else
        let e := at_ (p + 1)
        if e == 34 || e == 92 || e == 47 || e == 98 || e == 102 || e == 110 || e == 114 ||
            e == 116 then go fuel (p + 2)
        else if e == 117 then
          if p + 5 ≥ k then p + 1
          else if firstFailing b isHexByte (p + 2) (p + 6) != 0 then p + 1
          else go fuel (p + 2)
        else if !json5 then p + 1
        else if e == 39 || e == 48 || e == 118 || e == 10 then go fuel (p + 2)
        else if e == 120 then
          if p + 3 < k && isHexByte (at_ (p + 2)) && isHexByte (at_ (p + 3)) then go fuel (p + 4)
          else p + 1
        else if e == 13 then go fuel (if at_ (p + 2) == 10 && p + 2 < k then p + 3 else p + 2)
        else if e == 0xe2 && at_ (p + 2) == 0x80 && (at_ (p + 3) == 0xa8 || at_ (p + 3) == 0xa9)
            then go fuel (p + 4)
        else p + 1
  go (k - j + 1) j

mutual

/-- The strict check of the value at `i`, which must end at `stop`: 0 when it is well formed,
else one more than the place of the first fault. -/
def jsonbCheckAt (b : Array UInt8) : Nat → Nat → Nat → Nat → Nat
  | 0, i, _, _ => i + 1
  | fuel + 1, i, stop, depth =>
    if depth > jsonMaxDepth then i + 1 else
    match jsonbPayloadSize b i with
    | none => i + 1
    | some (n, sz) =>
      if i + n + sz != stop then i + 1 else
      let j := i + n
      let k := j + sz
      let at_ (p : Nat) : UInt8 := b.getD p 0
      match jsonbType b i with
      | 0 | 1 | 2 => if n + sz == 1 then 0 else i + 1
      | 3 =>
        if sz < 1 then i + 1
        else if at_ j == 45 then (if sz < 2 then i + 1 else firstFailing b isDigitByte (j + 1) k)
        else firstFailing b isDigitByte j k
      | 4 =>
        if sz < 3 then i + 1 else
        let (j, short) : Nat × Bool := if at_ j == 45 then (j + 1, sz < 4) else (j, false)
        if short then i + 1
        else if at_ j != 48 then i + 1
        else if at_ (j + 1) != 120 && at_ (j + 1) != 88 then j + 2
        else firstFailing b isHexByte (j + 2) k
      | 5 => checkRealPayload b false i j k
      | 6 => checkRealPayload b true i j k
      | 7 => firstFailing b (fun c => c ≥ 0x20 && c != 34 && c != 92) j k
      | 8 => checkEscapedPayload b false j k
      | 9 => checkEscapedPayload b true j k
      | 10 => 0
      | 11 => jsonbCheckItems b fuel j k (depth + 1) false 0
      | 12 => jsonbCheckItems b fuel j k (depth + 1) true 0
      | _ => i + 1

/-- The strict check of the items from `j` up to `stop`; in an object every other one is a
label, which must be a string, and the count must be even. -/
def jsonbCheckItems (b : Array UInt8) : Nat → Nat → Nat → Nat → Bool → Nat → Nat
  | 0, j, _, _, _, _ => j + 1
  | fuel + 1, j, stop, depth, isObject, count =>
    if j ≥ stop then (if isObject && count % 2 == 1 then j + 1 else 0)
    else
      match jsonbPayloadSize b j with
      | none => j + 1
      | some (n, sz) =>
        if j + n + sz > stop then j + 1
        else if isObject && count % 2 == 0 && (jsonbType b j < 7 || jsonbType b j > 10) then j + 1
        else
          let sub := jsonbCheckAt b fuel j (j + n + sz) depth
          if sub != 0 then sub
          else jsonbCheckItems b fuel (j + n + sz) stop depth isObject (count + 1)

end

/-- The strict check of a blob in the binary form: 0 when every value in it is well formed,
else one more than the place of the first fault. -/
def jsonbCheck (bytes : List UInt8) : Nat :=
  let b := bytes.toArray
  jsonbCheckAt b (b.size + 1) 0 b.size 1

end Shipyard.Sql
