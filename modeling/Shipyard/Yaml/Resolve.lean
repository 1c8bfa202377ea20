import Shipyard.Yaml.Token
import Shipyard.Schema.Basic
/-!
What a YAML scalar stands for.

A plain scalar without a tag is read by the core schema: the empty text, `~` and the three
spellings of `null` are null; `true` and `false` in three spellings each are flags; integers
may carry a sign and a `0x`, `0o` or `0b` prefix, but a decimal written with a leading zero
(`007`) stays text; floats follow decimal notation with an optional exponent, and `.inf`,
`-.inf`, `.nan` in three spellings each; every other text is a string. A quoted or block
scalar is always a string. The tags `!!bool`, `!!int`, `!!float` and `!!null` demand their
kind and refuse a text that is not of it; `!!str` and every other global tag give a string,
and a local tag (`!x`) on a plain scalar leaves it to the core schema.

Integers are classified by the range they fit: 64 bits unsigned, then 64 bits signed, then
the same at 128 bits; wider numerals are not integers at all and fall through to floats.
-/
namespace Shipyard.Yaml

/-- The full names of the core-schema tags. -/
def tagBool : String := "tag:yaml.org,2002:bool"
def tagInt : String := "tag:yaml.org,2002:int"
def tagFloat : String := "tag:yaml.org,2002:float"
def tagNull : String := "tag:yaml.org,2002:null"

/-- What a scalar's text stands for. -/
inductive Resolved where
  | null
  | bool (b : Bool)
  /-- An integer below 2^64. -/
  | unsigned (n : Nat)
  /-- A negative integer from -2^63 (or minus zero). -/
  | signed (i : Int)
  /-- A non-negative integer below 2^128 that is too wide for 64 bits. -/
  | unsigned128 (n : Nat)
  /-- A negative integer from -2^127 that is too wide for 64 bits. -/
  | signed128 (i : Int)
  | float (f : Float)
  | str (s : String)

namespace Resolved

/-- How a resolved scalar is described in a message about the wrong kind of value. -/
def found : Resolved → Found
  | .null => .unit
  | .bool b => .bool b
  | .unsigned n => .unsigned n
  | .signed i => .signed i
  | .unsigned128 n => .other ("integer `" ++ Decimal.natText n ++ "` as u128")
  | .signed128 i => .other ("integer `" ++ Decimal.intText i ++ "` as i128")
  | .float f => .float f
  | .str s => .str s

end Resolved

namespace Resolve

/-- The words for null. The empty text is null too, but only where a scalar is plain. -/
def isNullWord (s : String) : Bool := s == "null" || s == "Null" || s == "NULL" || s == "~"

def boolWord? (s : String) : Option Bool :=
  if s == "true" || s == "True" || s == "TRUE" then some true
  else if s == "false" || s == "False" || s == "FALSE" then some false
  else none

/-- The value of one digit in the given radix. -/
def digitValue? (radix : Nat) (c : Char) : Option Nat :=
  let v :=
    if '0' ≤ c && c ≤ '9' then c.toNat - '0'.toNat
    else if 'a' ≤ c && c ≤ 'z' then c.toNat - 'a'.toNat + 10
    else if 'A' ≤ c && c ≤ 'Z' then c.toNat - 'A'.toNat + 10
    else radix
  if v < radix then some v else none

/-- The number a non-empty run of digits writes in the given radix. -/
def digitsIn (radix : Nat) (cs : List Char) : Option Nat :=
  if cs.isEmpty then none
  else cs.foldl (fun acc c => acc.bind fun n => (digitValue? radix c).map (n * radix + ·)) (some 0)

/-- A decimal with a leading zero, such as `007` or `-01`: text, not a number. -/
def digitsButNotNumber (s : String) : Bool :=
  let cs := match s.toList with
    | '-' :: rest | '+' :: rest => rest
    | cs => cs
  match cs with
  | '0' :: rest => !rest.isEmpty && rest.all Char.isDigit
  | _ => false

def isSign (c : Char) : Bool := c == '+' || c == '-'

/-- The value of an unsigned integer numeral: an optional `+`, then a prefixed or decimal
run of digits. -/
def unsignedValue? (s : String) : Option Nat :=
  let body : Option (List Char) := match s.toList with
    | '+' :: rest => if rest.head?.any isSign then none else some rest
    | cs => some cs
  body.bind fun
    | '0' :: 'x' :: rest => digitsIn 16 rest
    | '0' :: 'o' :: rest => digitsIn 8 rest
    | '0' :: 'b' :: rest => digitsIn 2 rest
    | c :: rest => if isSign c || digitsButNotNumber s then none else digitsIn 10 (c :: rest)
    | [] => none

/-- The value of a signed integer numeral: `-` and a prefixed run of digits, or a decimal
with an optional sign. -/
def signedValue? (s : String) : Option Int :=
  match s.toList with
  | '-' :: '0' :: 'x' :: rest => (digitsIn 16 rest).map fun n => -(n : Int)
  | '-' :: '0' :: 'o' :: rest => (digitsIn 8 rest).map fun n => -(n : Int)
  | '-' :: '0' :: 'b' :: rest => (digitsIn 2 rest).map fun n => -(n : Int)
  | cs =>
    if digitsButNotNumber s then none
    else match cs with
      | '-' :: rest => (digitsIn 10 rest).map fun n => -(n : Int)
      | '+' :: rest => (digitsIn 10 rest).map fun n => (n : Int)
      | rest => (digitsIn 10 rest).map fun n => (n : Int)

/-- A 64-bit signed integer numeral, as a reader that wants one reads it: an optional `+`, then
a `0x`, `0o` or `0b` prefixed run of digits (negated after `-0x`, `-0o`, `-0b`), or else a
decimal with an optional `-` and no leading zero. A prefixed run that does not read falls
through to the later forms; a sign right after a prefix or after `+` is refused at once. -/
def signedNumeral? (s : String) : Option Int :=
  let inRange (i : Int) : Option Int :=
    if -Int.pow 2 63 ≤ i && i < Int.pow 2 63 then some i else none
  let cs := s.toList
  let unpositive : Option (List Char) := match cs with
    | '+' :: rest => if rest.head?.any isSign then none else some rest
    | _ => some cs
  let radixOf (c : Char) : Option Nat :=
    if c == 'x' then some 16 else if c == 'o' then some 8 else if c == 'b' then some 2 else none
  unpositive.bind fun u =>
    -- a prefixed run after the optional `+`
    let positive : Option (Option Int) := match u with
      | '0' :: c :: rest => (radixOf c).bind fun radix =>
        if rest.head?.any isSign then some none
        else (digitsIn radix rest).bind fun n => (inRange n).map some
      | _ => none
    -- a prefixed run after `-`
    let negative : Option Int := match cs with
      | '-' :: '0' :: c :: rest => (radixOf c).bind fun radix =>
        (digitsIn radix rest).bind fun n => inRange (-(n : Int))
      | _ => none
    match positive with
    | some r => r
    | none => match negative with
      | some i => some i
      | none =>
        if digitsButNotNumber s then none
        else match u with
          | '-' :: ds => (digitsIn 10 ds).bind fun n => inRange (-(n : Int))
          | ds => (digitsIn 10 ds).bind fun n => inRange n

/-- An integer numeral, classified by the narrowest range it fits: unsigned before signed,
64 bits before 128. -/
def integer? (s : String) : Option Resolved :=
  let u := unsignedValue? s
  let i := signedValue? s
  match u with
  | some n => if n < Nat.pow 2 64 then some (.unsigned n) else wide u i
  | none => match i with
    | some x => if -Int.pow 2 63 ≤ x && x < Int.pow 2 63 then some (.signed x) else wide u i
    | none => none
where
  /-- The 128-bit readings, once the 64-bit ones failed. -/
  wide (u : Option Nat) (i : Option Int) : Option Resolved :=
    match u with
    | some n => if n < Nat.pow 2 128 then some (.unsigned128 n) else signed128 i
    | none => signed128 i
  signed128 (i : Option Int) : Option Resolved :=
    match i with
    | some x => if -Int.pow 2 127 ≤ x && x < Int.pow 2 127 then some (.signed128 x) else none
    | none => none

/-- The number of decimal digits of a positive number. -/
def digitCount (n : Nat) : Nat := (Nat.toDigits 10 n).length

/-- The float nearest to `m · 10^e`, or `none` when it overflows. -/
def scaled (m : Nat) (e : Int) : Option Float :=
  if m = 0 then some 0.0
  else if (digitCount m : Int) + e > 310 then none
  else if (digitCount m : Int) + e < -330 then some 0.0
  else
    let f := if e < 0 then Float.ofScientific m true e.natAbs else Float.ofScientific m false e.natAbs
    if f.isInf then none else some f

/-- A decimal float numeral: an optional sign, digits with at most one point (at least one
digit in all), and an optional exponent. Infinities and NaN spelled out are not finite and
so not read here. -/
def decimal? (s : String) : Option Float :=
  let (neg, cs) := match s.toList with
    | '-' :: rest => (true, rest)
    | '+' :: rest => (false, rest)
    | cs => (false, cs)
  let whole := cs.takeWhile Char.isDigit
  let cs := cs.dropWhile Char.isDigit
  let (frac, cs) := match cs with
    | '.' :: rest => (rest.takeWhile Char.isDigit, rest.dropWhile Char.isDigit)
    | _ => ([], cs)
  if whole.isEmpty && frac.isEmpty then none
  else
    let expo : Option Int := match cs with
      | [] => some 0
      | c :: rest =>
        if c == 'e' || c == 'E' then
          match rest with
          | '-' :: ds => (digitsIn 10 ds).map fun n => -(n : Int)
          | '+' :: ds => (digitsIn 10 ds).map fun n => (n : Int)
          | ds => (digitsIn 10 ds).map fun n => (n : Int)
        else none
    match expo, digitsIn 10 (whole ++ frac) with
    | some x, some m => (scaled m (x - frac.length)).map fun f => if neg then -f else f
    | _, _ => none

/-- A float numeral of the core schema, finite or one of the spelled infinities and NaN. -/
def float? (s : String) : Option Float :=
  let body : Option String := match s.toList with
    | '+' :: rest => if rest.head?.any isSign then none else some (String.ofList rest)
    | _ => some s
  body.bind fun u =>
    if u == ".inf" || u == ".Inf" || u == ".INF" then some (1.0 / 0.0)
    else if s == "-.inf" || s == "-.Inf" || s == "-.INF" then some (-1.0 / 0.0)
    else if s == ".nan" || s == ".NaN" || s == ".NAN" then some (0.0 / 0.0)
    else decimal? u

end Resolve

open Resolve in
/-- A plain scalar read by the core schema. -/
def Resolved.ofPlain (s : String) : Resolved :=
  if s.isEmpty || isNullWord s then .null
  else match boolWord? s with
    | some b => .bool b
    | none => match integer? s with
      | some r => r
      | none =>
        if digitsButNotNumber s then .str s
        else match float? s with
          | some f => .float f
          | none => .str s

open Resolve in
/-- A scalar read with its tag and style; a core-schema tag that its text does not fit is
refused with the message to report. -/
def Resolved.ofScalar (text : String) (style : ScalarStyle) (tag : Option String) :
    Except String Resolved :=
  let refuse (what : String) := Except.error (Mismatch.invalidValue .markup (.str text) what)
  match tag with
  | some t =>
    if t == tagBool then match boolWord? text with
      | some b => .ok (.bool b)
      | none => refuse "a boolean"
    else if t == tagInt then match integer? text with
      | some r => .ok r
      | none => refuse "an integer"
    else if t == tagFloat then match float? text with
      | some f => .ok (.float f)
      | none => refuse "a float"
    else if t == tagNull then
      if isNullWord text then .ok .null else refuse "null"
    else if t.startsWith "!" && style == .plain then .ok (Resolved.ofPlain text)
    else .ok (.str text)
  | none => .ok (if style == .plain then Resolved.ofPlain text else .str text)

end Shipyard.Yaml
