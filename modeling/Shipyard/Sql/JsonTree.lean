import Shipyard.Sql.Value
import Shipyard.Sql.RealDigits
/-!
# JSON documents of the SQL functions

The JSON functions read JSON text into a tree and write trees back as text. The tree keeps
each number and string as it was written, with how it was written, so that text that is
already canonical comes back unchanged and JSON5 forms are put right only where they are
written out:

* an integer or a real is its text, marked when it uses JSON5 (hexadecimal digits, a point
  with no digit beside it);
* a string is its text between the quotes, marked by the escapes it holds: none, JSON's own,
  JSON5's (or characters that must be escaped), or none at all because it came from SQL text
  and is not escaped yet.

The reader takes RFC 8259 JSON and the JSON5 extensions: comments, single quotes, unquoted
object labels, trailing commas, hexadecimal integers, `Infinity` and `NaN`, a leading `+` or
point, and more whitespace. It notes whether it saw any of them, for `json_valid`.
-/
namespace Shipyard.Sql

/-- How the text of a JSON string holds its characters. -/
inductive JsonTextKind where
  /-- Nothing escaped, and nothing that needs escaping. -/
  | plain
  /-- JSON's own escapes. -/
  | escaped
  /-- JSON5 escapes, or characters that must be escaped when written as JSON. -/
  | json5
  /-- SQL text, not escaped at all. -/
  | raw
  deriving DecidableEq, Inhabited, Repr

/-- A JSON string: its text between the quotes and how that text holds its characters. -/
structure JsonString where
  text : String
  kind : JsonTextKind
  deriving Inhabited

/-- A JSON value. -/
inductive JsonNode where
  | null
  | true
  | false
  /-- An integer as written, marked when it is written in hexadecimal. -/
  | integer (text : String) (json5 : Bool)
  /-- A real as written, marked when a point stands without a digit beside it. -/
  | real (text : String) (json5 : Bool)
  | string (s : JsonString)
  | array (items : List JsonNode)
  | object (members : List (JsonString × JsonNode))
  deriving Inhabited

namespace JsonNode

/-- The name `json_type` gives a value. -/
def typeName : JsonNode → String
  | .null => "null"
  | .true => "true"
  | .false => "false"
  | .integer _ _ => "integer"
  | .real _ _ => "real"
  | .string _ => "text"
  | .array _ => "array"
  | .object _ => "object"

/-- Whether a value is an array or an object. -/
def isContainer : JsonNode → Bool
  | .array _ | .object _ => Bool.true
  | _ => Bool.false

end JsonNode

/-! ## Reading -/

/-- Whether a character is JSON's own whitespace. -/
def isJsonSpace (c : Char) : Bool := c == ' ' || c == '\t' || c == '\n' || c == '\r'

/-- Whether a character is whitespace for JSON5: JSON's own, vertical tab, form feed, and the
Unicode spaces, line and paragraph separators and byte order mark. -/
def isJson5Space (c : Char) : Bool :=
  let n := c.toNat
  isJsonSpace c || n == 0x0b || n == 0x0c || n == 0xa0 || n == 0x1680 ||
    (0x2000 ≤ n && n ≤ 0x200a) || n == 0x2028 || n == 0x2029 || n == 0x202f ||
    n == 0x205f || n == 0x3000 || n == 0xfeff

/-- Whether a character is a hexadecimal digit. -/
def isHexChar (c : Char) : Bool :=
  isDigitChar c || ('a' ≤ c && c ≤ 'f') || ('A' ≤ c && c ≤ 'F')

/-- Whether a character is an ASCII letter or digit. -/
def isAlnum (c : Char) : Bool :=
  isDigitChar c || ('a' ≤ c && c ≤ 'z') || ('A' ≤ c && c ≤ 'Z')

/-- Whether a character may start an unquoted JSON5 label. -/
def isLabelStart (c : Char) : Bool :=
  ('a' ≤ c && c ≤ 'z') || ('A' ≤ c && c ≤ 'Z') || c == '_' || c == '$' || c.toNat ≥ 0x80

/-- Whether a character may continue an unquoted JSON5 label. -/
def isLabelChar (c : Char) : Bool := isLabelStart c || isDigitChar c

/-- A text to read, with a zero character past its end (and at any zero character in it). -/
structure JsonSource where
  chars : Array Char

namespace JsonSource

/-- The character at a place; zero past the end. -/
def charAt (z : JsonSource) (i : Nat) : Char := z.chars.getD i '\x00'

/-- The characters from `i` up to `j`. -/
def slice (z : JsonSource) (i j : Nat) : String := String.ofList (z.chars.extract i j).toList

/-- Whether the characters at `i` are `word`, in any ASCII case. -/
def matchesWord (z : JsonSource) (i : Nat) (word : String) : Bool :=
  (List.range word.length).all fun k =>
    (z.charAt (i + k)).toLower == (word.toList.getD k ' ').toLower

/-- Whether four hexadecimal digits stand at `i`. -/
def hex4 (z : JsonSource) (i : Nat) : Bool :=
  isHexChar (z.charAt i) && isHexChar (z.charAt (i + 1)) && isHexChar (z.charAt (i + 2)) &&
    isHexChar (z.charAt (i + 3))

/-- The place after the end of a block comment whose body starts at `i`: after the first `*/`
whose slash is past the body's first character. -/
def commentEnd (z : JsonSource) : Nat → Nat → Option Nat
  | 0, _ => none
  | fuel + 1, j =>
    if z.charAt j == '\x00' then none
    else if z.charAt j == '/' && z.charAt (j - 1) == '*' then some (j + 1)
    else commentEnd z fuel (j + 1)

/-- The place after a line comment whose body starts at `j`: after its line break, or at the
end of the text. -/
def lineEnd (z : JsonSource) : Nat → Nat → Nat
  | 0, j => j
  | fuel + 1, j =>
    let c := z.charAt j
    if c == '\x00' then j
    else if c == '\n' || c == '\r' || c.toNat == 0x2028 || c.toNat == 0x2029 then j + 1
    else lineEnd z fuel (j + 1)

/-- The place after the JSON5 whitespace and comments at `i`. -/
def skipSpace (z : JsonSource) : Nat → Nat → Nat
  | 0, i => i
  | fuel + 1, i =>
    let c := z.charAt i
    if isJson5Space c then skipSpace z fuel (i + 1)
    else if c == '/' && z.charAt (i + 1) == '*' && z.charAt (i + 2) != '\x00' then
      match z.commentEnd (z.chars.size + 1) (i + 3) with
      | some j => skipSpace z fuel j
      | none => i
    else if c == '/' && z.charAt (i + 1) == '/' then
      skipSpace z fuel (z.lineEnd (z.chars.size + 1) (i + 2))
    else i

/-- The place after JSON's own whitespace at `i`. -/
def skipJsonSpace (z : JsonSource) : Nat → Nat → Nat
  | 0, i => i
  | fuel + 1, i => if isJsonSpace (z.charAt i) then skipJsonSpace z fuel (i + 1) else i

end JsonSource

/-- What reading at a place of the text found: a value and the place after it, or a mark: the
end of an object, of an array, a comma, a colon (each with its place), the end of the text, or
an error. -/
inductive JsonFound where
  | value (node : JsonNode) (next : Nat)
  | endObject (pos : Nat)
  | endArray (pos : Nat)
  | comma (pos : Nat)
  | colon (pos : Nat)
  | finished
  | failed
  deriving Inhabited

/-- The state of a read: whether a JSON5 form was seen, and where the last error was. -/
structure JsonReadState where
  nonstandard : Bool := false
  errorAt : Nat := 0

/-- Reading JSON: a computation over the read state. -/
abbrev JsonRead := StateM JsonReadState

/-- Notes a JSON5 form. -/
def noteNonstandard : JsonRead Unit := modify fun s => { s with nonstandard := true }

/-- Fails at a place. -/
def failAt (i : Nat) : JsonRead JsonFound := do
  modify fun s => { s with errorAt := i }
  pure .failed

/-- The deepest nesting of arrays and objects. -/
def jsonMaxDepth : Nat := 1000

namespace JsonSource

/-- The place after the hexadecimal digits at `j`. -/
def hexEnd (z : JsonSource) : Nat → Nat → Nat
  | 0, j => j
  | fuel + 1, j => if isHexChar (z.charAt j) then z.hexEnd fuel (j + 1) else j

/-- Reads a string whose opening quote is at `i`: the place after the closing quote, or the
place of the error. -/
def readString (z : JsonSource) (i : Nat) : JsonRead JsonFound := do
  let delim := z.charAt i
  if delim == '\'' then noteNonstandard
  let rec go : Nat → Nat → JsonTextKind → JsonRead JsonFound
    | 0, j, _ => failAt j
    | fuel + 1, j, kind => do
      let c := z.charAt j
      if c == delim then
        return .value (.string ⟨z.slice (i + 1) j, kind⟩) (j + 1)
      else if c == '\\' then
        let e := z.charAt (j + 1)
        if e == '"' || e == '\\' || e == '/' || e == 'b' || e == 'f' || e == 'n' || e == 'r' ||
            e == 't' || (e == 'u' && z.hex4 (j + 2)) then
          go fuel (j + 2) (if kind == .plain then .escaped else kind)
        else if e == '\'' || e == '0' || e == 'v' || e == '\n' || e.toNat == 0x2028 ||
            e.toNat == 0x2029 || (e == 'x' && isHexChar (z.charAt (j + 2)) && isHexChar (z.charAt (j + 3)))
            then
          noteNonstandard
          go fuel (j + 2) .json5
        else if e == '\r' then
          noteNonstandard
          go fuel (if z.charAt (j + 2) == '\n' then j + 3 else j + 2) .json5
        else failAt (j + 1)
      else if c.toNat ≤ 0x1f then
        if c == '\x00' then failAt j
        else do
          noteNonstandard
          go fuel (j + 1) .json5
      else if c == '"' then go fuel (j + 1) .json5
      else go fuel (j + 1) kind
  go (z.chars.size + 2) (i + 1) .plain

/-- The digits, points and exponent of a number after its first character at `i`, `kind`
holding what is known (bit 1: JSON5, bit 2: a real): the place after it and the kind, or the
place of the error. -/
def numberTail (z : JsonSource) (i : Nat) (kind : Nat) : JsonRead (Option (Nat × Nat)) := do
  let rec go : Nat → Nat → Nat → Bool → JsonRead (Option (Nat × Nat))
    | 0, j, _, _ => do
      modify fun s => { s with errorAt := j }
      pure none
    | fuel + 1, j, kind, seenE => do
      let c := z.charAt j
      if isDigitChar c then go fuel (j + 1) kind seenE
      else if c == '.' then
        if kind &&& 2 != 0 then
          modify fun s => { s with errorAt := j }
          pure none
        else go fuel (j + 1) (kind ||| 2) seenE
      else if c == 'e' || c == 'E' then
        let prev := z.charAt (j - 1)
        let kind ← if prev < '0' then
            if prev == '.' && j ≥ i + 2 && isDigitChar (z.charAt (j - 2)) then do
              noteNonstandard
              pure (some (kind ||| 1))
            else pure none
          else pure (some kind)
        match kind with
        | none =>
          modify fun s => { s with errorAt := j }
          pure none
        | some kind =>
          if seenE then
            modify fun s => { s with errorAt := j }
            pure none
          else
            let j' := if z.charAt (j + 1) == '+' || z.charAt (j + 1) == '-' then j + 1 else j
            if !isDigitChar (z.charAt (j' + 1)) then
              modify fun s => { s with errorAt := j' }
              pure none
            else go fuel (j' + 1) (kind ||| 2) true
      else
        let prev := z.charAt (j - 1)
        if prev < '0' then
          if prev == '.' && j ≥ i + 2 && isDigitChar (z.charAt (j - 2)) then do
            noteNonstandard
            pure (some (j, kind ||| 1))
          else
            modify fun s => { s with errorAt := j }
            pure none
        else pure (some (j, kind))
  go (z.chars.size + 2) (i + 1) kind false

/-- The number whose text runs from `i` to `j`, of a kind (bit 1: JSON5, bit 2: a real); a
leading `+` is dropped. -/
def numberNode (z : JsonSource) (i j kind : Nat) : JsonFound :=
  let i := if z.charAt i == '+' then i + 1 else i
  let text := z.slice i j
  let node := if kind &&& 2 != 0 then JsonNode.real text (kind &&& 1 != 0)
    else JsonNode.integer text (kind &&& 1 != 0)
  .value node j

/-- Reads a number whose first character (a sign or a digit) is at `i`. -/
def readNumber (z : JsonSource) (i : Nat) (kind : Nat) : JsonRead JsonFound := do
  let c := z.charAt i
  let finishTail (kind : Nat) : JsonRead JsonFound := do
    match ← z.numberTail i kind with
    | some (j, kind) => pure (z.numberNode i j kind)
    | none => pure .failed
  if c == '0' then
    if (z.charAt (i + 1) == 'x' || z.charAt (i + 1) == 'X') && isHexChar (z.charAt (i + 2)) then
      noteNonstandard
      return z.numberNode i (z.hexEnd (z.chars.size + 1) (i + 3)) 1
    else if isDigitChar (z.charAt (i + 1)) then failAt (i + 1)
    else finishTail kind
  else if c == '-' || c == '+' then
    if !isDigitChar (z.charAt (i + 1)) then
      if (z.charAt (i + 1) == 'I' || z.charAt (i + 1) == 'i') && z.matchesWord (i + 1) "inf" then
        noteNonstandard
        let text := if c == '-' then "-9e999" else "9e999"
        let len := if z.matchesWord (i + 4) "inity" then 9 else 4
        return .value (.real text Bool.false) (i + len)
      else if z.charAt (i + 1) == '.' then
        noteNonstandard
        finishTail (kind ||| 1)
      else failAt i
    else if z.charAt (i + 1) == '0' then
      if isDigitChar (z.charAt (i + 2)) then failAt (i + 1)
      else if (z.charAt (i + 2) == 'x' || z.charAt (i + 2) == 'X') && isHexChar (z.charAt (i + 3)) then
        noteNonstandard
        return z.numberNode i (z.hexEnd (z.chars.size + 1) (i + 4)) (kind ||| 1)
      else finishTail kind
    else finishTail kind
  else finishTail kind

/-- The names of JSON5 infinity and not-a-number: the name, and whether it is infinite. -/
def specialNames : List (String × Bool) :=
  [("inf", Bool.true), ("infinity", Bool.true), ("nan", Bool.false), ("qnan", Bool.false),
   ("snan", Bool.false)]

/-- Reads `Infinity`, `NaN` and their kin at `i`, in any case, not followed by a letter or
digit. -/
def readSpecial (z : JsonSource) (i : Nat) : JsonRead JsonFound := do
  match specialNames.find? fun (name, _) =>
      z.matchesWord i name && !isAlnum (z.charAt (i + name.length)) with
  | some (name, infinite) =>
    noteNonstandard
    pure (.value (if infinite then .real "9e999" Bool.false else .null) (i + name.length))
  | none => failAt i

/-- An unquoted JSON5 label starting at `j`: its end and how its text holds its characters
(`\uXXXX` escapes make it JSON5). -/
def labelEnd (z : JsonSource) : Nat → Nat → JsonTextKind → Nat × JsonTextKind
  | 0, k, kind => (k, kind)
  | fuel + 1, k, kind =>
    let c := z.charAt k
    if isLabelChar c && !isJson5Space c then z.labelEnd fuel (k + 1) kind
    else if c == '\\' && z.charAt (k + 1) == 'u' && z.hex4 (k + 2) then z.labelEnd fuel (k + 1) .json5
    else (k, kind)

mutual

/-- Reads the value or mark at `i`, at a nesting depth. -/
def readValue (z : JsonSource) : Nat → Nat → Nat → JsonRead JsonFound
  | 0, i, _ => failAt i
  | fuel + 1, i, depth => do
    let c := z.charAt i
    if c == '{' then
      if depth + 1 > jsonMaxDepth then failAt i
      else readMembers z fuel (i + 1) (depth + 1) []
    else if c == '[' then
      if depth + 1 > jsonMaxDepth then failAt i
      else readItems z fuel (i + 1) (depth + 1) []
    else if c == '"' || c == '\'' then z.readString i
    else if c == 't' then
      if z.slice i (i + 4) == "true" && !isAlnum (z.charAt (i + 4)) then pure (.value .true (i + 4))
      else failAt i
    else if c == 'f' then
      if z.slice i (i + 5) == "false" && !isAlnum (z.charAt (i + 5)) then pure (.value .false (i + 5))
      else failAt i
    else if c == '+' then
      noteNonstandard
      z.readNumber i 0
    else if c == '.' then
      if isDigitChar (z.charAt (i + 1)) then
        noteNonstandard
        match ← z.numberTail i 3 with
        | some (j, kind) => pure (z.numberNode i j kind)
        | none => pure .failed
      else failAt i
    else if c == '-' || isDigitChar c then z.readNumber i 0
    else if c == '}' then do
      modify fun s => { s with errorAt := i }
      pure (.endObject i)
    else if c == ']' then do
      modify fun s => { s with errorAt := i }
      pure (.endArray i)
    else if c == ',' then do
      modify fun s => { s with errorAt := i }
      pure (.comma i)
    else if c == ':' then do
      modify fun s => { s with errorAt := i }
      pure (.colon i)
    else if c == '\x00' then pure .finished
    else if isJsonSpace c then readValue z fuel (z.skipJsonSpace (z.chars.size + 1) i) depth
    else if c == '\x0b' || c == '\x0c' || c == '/' || c.toNat ≥ 0x80 then
      let j := z.skipSpace (z.chars.size + 1) i
      if j > i then do
        noteNonstandard
        readValue z fuel j depth
      else failAt i
    else if c == 'n' && z.slice i (i + 4) == "null" && !isAlnum (z.charAt (i + 4)) then
      pure (.value .null (i + 4))
    else z.readSpecial i

/-- Reads the items of an array from `j`, after its `[` or a comma. -/
def readItems (z : JsonSource) : Nat → Nat → Nat → List JsonNode → JsonRead JsonFound
  | 0, j, _, _ => failAt j
  | fuel + 1, j, depth, items => do
    match ← readValue z fuel j depth with
    | .endArray pos =>
      if !items.isEmpty then noteNonstandard
      pure (.value (.array items.reverse) (pos + 1))
    | .value node next =>
      let items := node :: items
      let c := z.charAt next
      if c == ',' then readItems z fuel (next + 1) depth items
      else if c == ']' then pure (.value (.array items.reverse) (next + 1))
      else
        let k := if isJsonSpace c then z.skipJsonSpace (z.chars.size + 1) next else next
        if z.charAt k == ',' then readItems z fuel (k + 1) depth items
        else if z.charAt k == ']' then pure (.value (.array items.reverse) (k + 1))
        else
          match ← readValue z fuel k depth with
          | .comma pos => readItems z fuel (pos + 1) depth items
          | .endArray pos => pure (.value (.array items.reverse) (pos + 1))
          | _ => failAt k
    | .failed => pure .failed
    | _ => failAt j

/-- Reads the members of an object from `j`, after its `{` or a comma. -/
def readMembers (z : JsonSource) : Nat → Nat → Nat → List (JsonString × JsonNode) →
    JsonRead JsonFound
  | 0, j, _, _ => failAt j
  | fuel + 1, j, depth, members => do
    match ← readValue z fuel j depth with
    | .endObject pos =>
      if !members.isEmpty then noteNonstandard
      pure (.value (.object members.reverse) (pos + 1))
    | .value (.string s) next => readMember z fuel depth members s next
    | .value _ _ => failAt j
    | other =>
      -- an unquoted JSON5 label
      let j' := z.skipSpace (z.chars.size + 1) j
      let c := z.charAt j'
      if isLabelStart c || (c == '\\' && z.charAt (j' + 1) == 'u' && z.hex4 (j' + 2)) then
        let kind := if c == '\\' then JsonTextKind.json5 else .plain
        let (k, kind) := z.labelEnd (z.chars.size + 1) (j' + 1) kind
        noteNonstandard
        readMember z fuel depth members ⟨z.slice j' k, kind⟩ k
      else
        match other with
        | .failed => pure .failed
        | _ => failAt j'

/-- Reads the colon and value of an object member whose label ends at `next`, then the
members after it. -/
def readMember (z : JsonSource) : Nat → Nat → List (JsonString × JsonNode) → JsonString →
    Nat → JsonRead JsonFound
  | 0, _, _, _, next => failAt next
  | fuel + 1, depth, members, label, next => do
    let colon ← do
      if z.charAt next == ':' then pure (some (next + 1))
      else
        let k := if isJsonSpace (z.charAt next) then z.skipJsonSpace (z.chars.size + 1) next
          else next
        if k != next && z.charAt k == ':' then pure (some (k + 1))
        else
          match ← readValue z fuel k depth with
          | .colon pos => pure (some (pos + 1))
          | .failed => pure none
          | _ => do
            modify fun s => { s with errorAt := k }
            pure none
    match colon with
    | none => pure .failed
    | some start =>
      match ← readValue z fuel start depth with
      | .value node after =>
        let members := (label, node) :: members
        let c := z.charAt after
        if c == ',' then readMembers z fuel (after + 1) depth members
        else if c == '}' then pure (.value (.object members.reverse) (after + 1))
        else
          let k := if isJsonSpace c then z.skipJsonSpace (z.chars.size + 1) after else after
          if z.charAt k == ',' then readMembers z fuel (k + 1) depth members
          else if z.charAt k == '}' then pure (.value (.object members.reverse) (k + 1))
          else
            match ← readValue z fuel k depth with
            | .comma pos => readMembers z fuel (pos + 1) depth members
            | .endObject pos => pure (.value (.object members.reverse) (pos + 1))
            | _ => failAt k
      | .failed => pure .failed
      | _ => failAt start

end

end JsonSource

/-- A JSON text read whole: its tree, or the place of the error; and whether it used JSON5. -/
def readJsonText (text : String) : Except Nat JsonNode × Bool :=
  let z : JsonSource := ⟨text.toList.toArray⟩
  let (found, st) := (z.readValue (4 * z.chars.size + 16) 0 0).run {}
  match found with
  | .value node next =>
    let i := z.skipJsonSpace (z.chars.size + 1) next
    if z.charAt i == '\x00' then (.ok node, st.nonstandard)
    else
      let j := z.skipSpace (z.chars.size + 1) i
      if z.charAt j == '\x00' then (.ok node, Bool.true) else (.error j, st.nonstandard)
  | _ => (.error st.errorAt, st.nonstandard)

/-! ## Writing -/

/-- A control character as JSON escapes it. -/
def controlEscape (c : Char) : List Char :=
  match c with
  | '\x08' => ['\\', 'b']
  | '\t' => ['\\', 't']
  | '\n' => ['\\', 'n']
  | '\x0c' => ['\\', 'f']
  | '\r' => ['\\', 'r']
  | _ =>
    let hex (n : Nat) : Char := "0123456789abcdef".toList.getD n '0'
    ['\\', 'u', '0', '0', hex (c.toNat / 16), hex (c.toNat % 16)]

/-- SQL text as a JSON string: quotes and backslashes escaped, and control characters. -/
def quoteJson (s : String) : List Char :=
  '"' :: (s.toList.flatMap fun c =>
    if c == '"' || c == '\\' then ['\\', c]
    else if c.toNat ≤ 0x1f then controlEscape c
    else [c]) ++ ['"']

/-- The text of a JSON5 string written as JSON: JSON5 escapes turned into JSON's, line
continuations dropped, quotes and control characters escaped. -/
def json5StringText : Nat → List Char → List Char
  | 0, _ => []
  | _ + 1, [] => []
  | fuel + 1, c :: rest =>
    if c == '"' then '\\' :: '"' :: json5StringText fuel rest
    else if c.toNat ≤ 0x1f then controlEscape c ++ json5StringText fuel rest
    else if c == '\\' then
      match rest with
      | [] => []
      | e :: more =>
        if e == '\'' then '\'' :: json5StringText fuel more
        else if e == 'v' then "\\u0009".toList ++ json5StringText fuel more
        else if e == 'x' then
          "\\u00".toList ++ more.take 2 ++ json5StringText fuel (more.drop 2)
        else if e == '0' then "\\u0000".toList ++ json5StringText fuel more
        else if e == '\r' then
          json5StringText fuel (if more.head? == some '\n' then more.drop 1 else more)
        else if e == '\n' || e.toNat == 0x2028 || e.toNat == 0x2029 then json5StringText fuel more
        else '\\' :: e :: json5StringText fuel more
    else c :: json5StringText fuel rest

/-- A JSON string written as JSON text. -/
def JsonString.render (s : JsonString) : List Char :=
  match s.kind with
  | .plain | .escaped => '"' :: s.text.toList ++ ['"']
  | .json5 => '"' :: json5StringText (s.text.length + 1) s.text.toList ++ ['"']
  | .raw => quoteJson s.text

/-- A hexadecimal integer written in decimal; too many digits make it `9.0e999`. -/
def hexIntegerText (text : String) : List Char :=
  let cs := text.toList
  let (sign, cs) := match cs with
    | '-' :: rest => (['-'], rest)
    | '+' :: rest => ([], rest)
    | _ => ([], cs)
  let digits := cs.drop 2
  let (value, overflow) := digits.foldl (fun (u, overflowed) c =>
    if overflowed then (u, overflowed)
    else if !isHexChar c then (u, Bool.true)
    else if u / Nat.pow 2 60 != 0 then (u, Bool.true)
    else (u * 16 + (if isDigitChar c then c.toNat - 48 else (c.toLower.toNat - 87)), overflowed))
    ((0 : Nat), Bool.false)
  sign ++ (if overflow then "9.0e999".toList else (Nat.toDigits 10 value))

/-- A JSON5 real written as JSON: a zero before a leading point and after a trailing one. -/
def json5RealText (text : String) : List Char :=
  let cs := text.toList
  let (sign, cs) := match cs with
    | '-' :: rest => (['-'], rest)
    | _ => ([], cs)
  let lead := if cs.head? == some '.' then ['0'] else []
  let rec go : List Char → List Char
    | [] => []
    | c :: rest =>
      if c == '.' && (rest.head?.map isDigitChar) != some Bool.true then c :: '0' :: go rest
      else c :: go rest
  sign ++ lead ++ go cs

mutual

/-- A JSON value written as JSON text, without whitespace. -/
def JsonNode.render : JsonNode → List Char
  | .null => "null".toList
  | .true => "true".toList
  | .false => "false".toList
  | .integer text json5 => if json5 then hexIntegerText text else text.toList
  | .real text json5 => if json5 then json5RealText text else text.toList
  | .string s => s.render
  | .array items => '[' :: renderItems items ++ [']']
  | .object members => '{' :: renderMembers members ++ ['}']

/-- Array items written as JSON text, separated by commas. -/
def renderItems : List JsonNode → List Char
  | [] => []
  | [x] => x.render
  | x :: rest => x.render ++ ',' :: renderItems rest

/-- Object members written as JSON text, separated by commas. -/
def renderMembers : List (JsonString × JsonNode) → List Char
  | [] => []
  | [(k, v)] => k.render ++ ':' :: v.render
  | (k, v) :: rest => k.render ++ ':' :: v.render ++ ',' :: renderMembers rest

end

/-- A JSON value as JSON text. -/
def JsonNode.text (node : JsonNode) : String := String.ofList node.render

mutual

/-- A JSON value written with line breaks and an indent for each level of nesting. -/
def JsonNode.pretty (indent : List Char) (level : Nat) : JsonNode → List Char
  | .array [] => ['[', ']']
  | .array items => '[' :: '\n' :: prettyItems indent (level + 1) items ++
      '\n' :: (List.replicate level indent).flatten ++ [']']
  | .object [] => ['{', '}']
  | .object members => '{' :: '\n' :: prettyMembers indent (level + 1) members ++
      '\n' :: (List.replicate level indent).flatten ++ ['}']
  | node => node.render

/-- Array items written pretty, one on each line. -/
def prettyItems (indent : List Char) (level : Nat) : List JsonNode → List Char
  | [] => []
  | [x] => (List.replicate level indent).flatten ++ x.pretty indent level
  | x :: rest => (List.replicate level indent).flatten ++ x.pretty indent level ++ ',' :: '\n' ::
      prettyItems indent level rest

/-- Object members written pretty, one on each line. -/
def prettyMembers (indent : List Char) (level : Nat) : List (JsonString × JsonNode) → List Char
  | [] => []
  | [(k, v)] => (List.replicate level indent).flatten ++ k.render ++ ':' :: ' ' ::
      v.pretty indent level
  | (k, v) :: rest => (List.replicate level indent).flatten ++ k.render ++ ':' :: ' ' ::
      v.pretty indent level ++ ',' :: '\n' :: prettyMembers indent level rest

end

/-! ## Strings as SQL text -/

/-- The value of hexadecimal digits. -/
def hexDigitsValue (cs : List Char) : Nat :=
  cs.foldl (fun n c => n * 16 +
    (if isDigitChar c then c.toNat - 48 else if 'a' ≤ c.toLower && c.toLower ≤ 'f'
      then c.toLower.toNat - 87 else 0)) 0

/-- The characters that the escapes of a JSON string stand for. A `\uXXXX` pair of surrogates
is one character; a lone surrogate or an escape that is not one is dropped. -/
def unescapeJson : Nat → List Char → List Char
  | 0, _ => []
  | _ + 1, [] => []
  | fuel + 1, c :: rest =>
    if c != '\\' then c :: unescapeJson fuel rest
    else match rest with
      | [] => []
      | e :: more =>
        let one (v : Nat) (tail : List Char) : List Char :=
          let ch := Char.ofNat v
          (if ch.toNat == v then [ch] else []) ++ unescapeJson fuel tail
        match e with
        | 'u' =>
          if more.length < 4 then [] else
          let v := hexDigitsValue (more.take 4)
          let after := more.drop 4
          match after with
          | '\\' :: 'u' :: low =>
            let lo := hexDigitsValue (low.take 4)
            if v &&& 0xfc00 == 0xd800 && low.length ≥ 4 && lo &&& 0xfc00 == 0xdc00 then
              one (((v &&& 0x3ff) <<< 10) + (lo &&& 0x3ff) + 0x10000) (low.drop 4)
            else one v after
          | _ => one v after
        | 'b' => '\x08' :: unescapeJson fuel more
        | 'f' => '\x0c' :: unescapeJson fuel more
        | 'n' => '\n' :: unescapeJson fuel more
        | 'r' => '\r' :: unescapeJson fuel more
        | 't' => '\t' :: unescapeJson fuel more
        | 'v' => '\x0b' :: unescapeJson fuel more
        | '0' => '\x00' :: unescapeJson fuel more
        | 'x' => if more.length < 2 then [] else one (hexDigitsValue (more.take 2)) (more.drop 2)
        | '\r' => unescapeJson fuel (if more.head? == some '\n' then more.drop 1 else more)
        | '\n' => unescapeJson fuel more
        | _ =>
          if e.toNat == 0x2028 || e.toNat == 0x2029 then unescapeJson fuel more
          else if e == '\'' || e == '"' || e == '/' || e == '\\' then e :: unescapeJson fuel more
          else unescapeJson fuel more

/-- The SQL text a JSON string stands for. -/
def JsonString.value (s : JsonString) : String :=
  match s.kind with
  | .plain | .raw => s.text
  | .escaped | .json5 => String.ofList (unescapeJson (s.text.length + 1) s.text.toList)

/-- Whether two labels are the same, compared by the characters they stand for. -/
def JsonString.same (a b : JsonString) : Bool :=
  if (a.kind == .plain || a.kind == .raw) && (b.kind == .plain || b.kind == .raw) then
    a.text == b.text
  else a.value == b.value

/-- The SQL value a JSON value stands for: null, 1 or 0 for true or false, an integer (a real
when it does not fit 64 bits), a real, the text of a string, or the JSON text of an array or
object. None when a number cannot be read. -/
def JsonNode.sqlValue : JsonNode → Option Value
  | .null => some .null
  | .true => some (.integer 1)
  | .false => some (.integer 0)
  | .integer text _ =>
    let (negative, digits) := match text.toList with
      | '-' :: rest => (Bool.true, rest)
      | cs => (Bool.false, cs)
    match digits with
    | '0' :: x :: hex =>
      if x == 'x' || x == 'X' then
        let ds := (hex.dropWhile (· == '0')).takeWhile isHexChar
        let u := hexDigitsValue ds % 18446744073709551616
        let i : Int := if u ≥ 9223372036854775808 then u - 18446744073709551616 else u
        if ds.length > 16 then
          let (r, code) := readReal text.toList
          if code ≤ 0 then none else some (.real r)
        else if hex.length != (hex.takeWhile (· == '0')).length + ds.length then none
        else some (.integer (if negative then -i else i))
      else decimalValue negative digits text
    | _ => decimalValue negative digits text
  | .real text _ =>
    let (r, code) := readReal text.toList
    if code ≤ 0 then none else some (.real r)
  | .string s => some (.text s.value)
  | node => some (.text node.text)
where
  /-- A decimal integer, a real when it does not fit 64 bits. -/
  decimalValue (negative : Bool) (digits : List Char) (text : String) : Option Value :=
    let (i, code) := readInt digits
    if code == 0 then some (.integer (if negative then -i else i))
    else if code == 3 && negative then some (.integer minInt)
    else if code == 1 then none
    else
      let (r, code) := readReal text.toList
      if code ≤ 0 then none else some (.real r)

end Shipyard.Sql
