import Shipyard.Json.Basic
import Shipyard.Decimal.Text
import Shipyard.Text.Escape
/-!
Schemas: what a document is expected to hold, and how a mismatch is worded.

A `Schema` names the expected shape of a value: text, a flag, an integer of a given width, an
optional or repeated value, a string-keyed map, a record of named fields (each with aliases and
perhaps a default), one of a fixed set of names, or a date-time. Readers of different formats check a
document against a schema and return it in normal form: records as objects with their fields
in declaration order and defaults filled in, maps with their keys in ascending order.

Mismatches are worded the same way by every reader: `invalid type: <found>, expected <what>`,
`invalid value: …`, `missing field`, `duplicate field`, `invalid length`, `unknown variant`.
How a found value is described differs slightly between the families of readers (`Wording`).
-/
namespace Shipyard

/-- A named member of a record: its name, other names it may be written under, its schema and
its default (`none` when it is required). -/
structure Field (σ : Type) where
  name : String
  aliases : List String := []
  schema : σ
  default : Option Json := none

/-- The expected shape of a value. -/
inductive Schema where
  /-- Any value, kept as it is (objects in ascending key order, a repeated key keeping its last
  value). -/
  | any
  /-- Any value, read and dropped. -/
  | ignored
  | string
  | bool
  /-- An unsigned integer of the given bit width. -/
  | nat (bits : Nat)
  /-- A signed integer of the given bit width. -/
  | int (bits : Nat)
  /-- A value or `null`. -/
  | option (inner : Schema)
  | list (inner : Schema)
  /-- A map from strings to values. -/
  | dict (inner : Schema)
  | record (name : String) (fields : List (Field Schema))
  /-- A record whose members may be repeated, the last one counting, and whose unknown members
  are dropped; messages name it by its bare name. -/
  | overlay (name : String) (fields : List (Field Schema))
  /-- One of a fixed list of names, written as a string. -/
  | choice (name : String) (variants : List String)
  /-- Any name, as for a choice whose list ends in a catch-all: written as a string, or as an
  object of one member holding `null`. -/
  | named (name : String)
  /-- A record written as an object whose members that no field names are kept. Once the
  object is closed, each of `parts` reads the kept members in turn: a record part takes the
  members it names, any other part reads all that are left and leaves them. -/
  | flat (name : String) (fields : List (Field Schema)) (parts : List Schema)
  /-- The first of several schemas that a value fits; a value that fits none fails as a
  whole, with no word on why. -/
  | untagged (name : String) (variants : List Schema)
  /-- A date-time in RFC 3339, written as a string and kept in UTC; `name` is how messages
  call it. -/
  | dateTime (name : String)

namespace Schema

/-- A field that may be omitted, defaulting to `dflt`. -/
def opt (name : String) (s : Schema) (dflt : Json) (aliases : List String := []) : Field Schema :=
  { name, aliases, schema := s, default := some dflt }

/-- A field that must be present. -/
def req (name : String) (s : Schema) (aliases : List String := []) : Field Schema :=
  { name, aliases, schema := s }

/-- How the expected shape is named in messages. -/
def expected : Schema → String
  | .any => "any value"
  | .ignored => "anything at all"
  | .string => "a string"
  | .bool => "a boolean"
  | .nat bits => "u" ++ Decimal.natText bits
  | .int bits => "i" ++ Decimal.natText bits
  | .option _ => "option"
  | .list _ => "a sequence"
  | .dict _ => "a map"
  | .record name _ => "struct " ++ name
  | .overlay name _ => name
  | .choice name _ => "enum " ++ name
  | .named name => "enum " ++ name
  | .flat name _ _ => "struct " ++ name
  | .untagged name _ => "untagged enum " ++ name
  | .dateTime name => name

end Schema

/-- A value found where another shape was expected. -/
inductive Found where
  | bool (b : Bool)
  | unsigned (n : Nat)
  | signed (i : Int)
  | float (f : Float)
  | str (s : String)
  | unit
  | seq
  | map
  /-- A value that is described in words of its own, such as an integer too wide to read. -/
  | other (description : String)

/-- How a family of readers describes what it found: the word for an empty value and the
spelling of a float. -/
structure Wording where
  unit : String
  float : Float → String

/-- Data-interchange readers say `null` and spell floats in interchange form. -/
def Wording.interchange : Wording := ⟨"null", Decimal.floatExponentText⟩

/-- Markup readers say `unit value` and spell floats positionally with a point. -/
def Wording.markup : Wording := ⟨"unit value", Decimal.floatPointText⟩

/-- The description of a found value. -/
def Found.describe (w : Wording) : Found → String
  | .bool b => "boolean `" ++ (if b then "true" else "false") ++ "`"
  | .unsigned n => "integer `" ++ Decimal.natText n ++ "`"
  | .signed i => "integer `" ++ Decimal.intText i ++ "`"
  | .float f => "floating point `" ++ w.float f ++ "`"
  | .str s => "string " ++ Text.debugQuote s
  | .unit => w.unit
  | .seq => "sequence"
  | .map => "map"
  | .other d => d

namespace Mismatch

def invalidType (w : Wording) (found : Found) (exp : String) : String :=
  "invalid type: " ++ found.describe w ++ ", expected " ++ exp

def invalidValue (w : Wording) (found : Found) (exp : String) : String :=
  "invalid value: " ++ found.describe w ++ ", expected " ++ exp

def missingField (name : String) : String := "missing field `" ++ name ++ "`"

def duplicateField (name : String) : String := "duplicate field `" ++ name ++ "`"

def invalidLength (n : Nat) (exp : String) : String :=
  "invalid length " ++ Decimal.natText n ++ ", expected " ++ exp

/-- Names in back-quotes: one, two joined by `or`, or `one of` a comma list. -/
def oneOf : List String → String
  | [] => ""
  | [a] => "`" ++ a ++ "`"
  | [a, b] => "`" ++ a ++ "` or `" ++ b ++ "`"
  | names => "one of " ++ ", ".intercalate (names.map fun n => "`" ++ n ++ "`")

def noVariant (name : String) : String :=
  "data did not match any variant of untagged enum " ++ name

def unknownVariant (v : String) (variants : List String) : String :=
  if variants.isEmpty then "unknown variant `" ++ v ++ "`, there are no variants"
  else "unknown variant `" ++ v ++ "`, expected " ++ oneOf variants

end Mismatch

/-- A number as a reader classifies it. -/
inductive Numeral where
  /-- A non-negative integer below 2^64. -/
  | unsigned (n : Nat)
  /-- A negative integer from -2^63. -/
  | signed (i : Int)
  | float (f : Float)

namespace Numeral

def toFound : Numeral → Found
  | .unsigned n => .unsigned n
  | .signed i => .signed i
  | .float f => .float f

def toJson : Numeral → Json
  | .unsigned n => .num (.int n)
  | .signed i => .num (.int i)
  | .float f => .num (.float f)

/-- Checks a number against an integer schema of the given width. -/
def fitInteger (w : Wording) (signed : Bool) (bits : Nat) (exp : String) :
    Numeral → Except String Json
  | .unsigned n =>
    let limit := if signed then Nat.pow 2 (bits - 1) else Nat.pow 2 bits
    if n < limit then .ok (.num (.int n)) else .error (Mismatch.invalidValue w (.unsigned n) exp)
  | .signed i =>
    if signed && -Int.pow 2 (bits - 1) ≤ i then .ok (.num (.int i))
    else .error (Mismatch.invalidValue w (.signed i) exp)
  | .float f => .error (Mismatch.invalidType w (.float f) exp)

end Numeral

end Shipyard
