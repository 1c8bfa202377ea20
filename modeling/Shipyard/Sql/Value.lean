import Shipyard.Decimal.Shortest
import Shipyard.Decimal.Text
import Shipyard.Sql.RealDigits
import Shipyard.Sql.SqlText
/-!
# Values of SQL

A value is null, a 64-bit integer, a real, a text or a blob. This module holds what the engine
does with single values:

* reading a number from text: the longest prefix that is a number, and whether the whole text
  (blanks around it apart) is one;
* the text of a number, a real written with fifteen significant digits;
* affinities, the preference of a column for a kind of value, read off its declared type, and
  how a value is converted when stored under one;
* the order of values: null first, then numbers by value, then texts by a collation, then blobs
  byte by byte;
* arithmetic, where integers that overflow go over to reals and a division by zero is null.
-/
namespace Shipyard.Sql

/-- A value of SQL. An integer always lies within 64 bits. -/
inductive Value where
  | null
  | integer (i : Int)
  | real (r : Float)
  | text (s : SqlText)
  | blob (bytes : List UInt8)
  deriving Inhabited

/-- The least 64-bit integer. -/
def minInt : Int := -9223372036854775808

/-- The greatest 64-bit integer. -/
def maxInt : Int := 9223372036854775807

/-- Whether an integer lies within 64 bits. -/
def fitsInt (i : Int) : Bool := minInt ≤ i && i ≤ maxInt

/-- The blanks around a number in text. -/
def isSpace (c : Char) : Bool :=
  c == ' ' || c == '\t' || c == '\n' || c == '\x0b' || c == '\x0c' || c == '\r'

def isDigitChar (c : Char) : Bool := '0' ≤ c && c ≤ '9'

/-- The number that some decimal digits write. -/
def digitsValue (ds : List Char) : Nat := ds.foldl (fun n c => n * 10 + (c.toNat - 48)) 0

/-- The real that a text starts with, and how much of the text it is: `1` when the text is an
integer with nothing but blanks around it, `2` or `3` when it is a real so written (with a
point, an exponent or both), `-1` when a real is followed by other text, `0` otherwise. -/
def readReal (text : List Char) : Float × Int :=
  let cs := text.dropWhile isSpace
  if cs.isEmpty then (0, 0) else
  let (negative, cs) := match cs with
    | '-' :: r => (true, r)
    | '+' :: r => (false, r)
    | _ => (false, cs)
  let whole := cs.takeWhile isDigitChar
  let cs := cs.drop whole.length
  let (frac, point, cs) := match cs with
    | '.' :: r =>
      let f := r.takeWhile isDigitChar
      (f, true, r.drop f.length)
    | _ => ([], false, cs)
  let (exponent, marked, expOk, cs) : Int × Bool × Bool × List Char := match cs with
    | e :: r =>
      if e == 'e' || e == 'E' then
        let (sign, r) : Int × List Char := match r with
          | '-' :: r' => (-1, r')
          | '+' :: r' => (1, r')
          | _ => (1, r)
        let ds := r.takeWhile isDigitChar
        let e := ds.foldl (fun e c => if e < 10000 then e * 10 + (c.toNat - 48) else 10000) 0
        (sign * (e : Nat), true, !ds.isEmpty, r.drop ds.length)
      else (0, false, true, cs)
    | [] => (0, false, true, [])
  let rest := cs.dropWhile isSpace
  let count := whole.length + frac.length
  let kind : Int := 1 + (if point then 1 else 0) + (if marked then 1 else 0)
  let (mantissa, e) := decimalParts whole frac exponent
  let magnitude := realOfDecimal mantissa e
  let value := if negative then -magnitude else magnitude
  let code : Int :=
    if rest.isEmpty && count > 0 && expOk then kind
    else if kind ≥ 2 && (kind == 3 || expOk) && count > 0 then -1
    else 0
  (value, code)

/-- The integer that a text starts with, held within 64 bits, and how much of the text it is:
`0` when the whole text (blanks around it apart) is an integer within 64 bits, `1` when other
text follows, `-1` when there are no digits, `2` when it is too large, `3` when it is exactly
2^63. -/
def readInt (text : List Char) : Int × Int :=
  let cs := text.dropWhile isSpace
  let (negative, cs) := match cs with
    | '-' :: r => (true, r)
    | '+' :: r => (false, r)
    | _ => (false, cs)
  let zeros := cs.takeWhile (· == '0')
  let cs := cs.drop zeros.length
  let ds := cs.takeWhile isDigitChar
  let rest := cs.drop ds.length
  let n : Nat := digitsValue ds
  let value : Int := if negative then -(n : Int) else n
  let held := if value < minInt then minInt else if value > maxInt then maxInt else value
  let code : Int :=
    if ds.isEmpty && zeros.isEmpty then -1
    else if rest.any (fun c => !isSpace c) then 1
    else 0
  if n > 9223372036854775808 then (held, 2)
  else if n == 9223372036854775808 then (held, if negative then code else 3)
  else (held, code)

/-- A real cut to a 64-bit integer toward zero, held within 64 bits. -/
def realToInt (r : Float) : Int :=
  if r ≤ -9223372036854775808.0 then minInt
  else if r ≥ 9223372036854775807.0 then maxInt
  else r.toInt64.toInt

/-- Whether a real is exactly the integer `i`. -/
def realIsInt (r : Float) (i : Int) : Bool := r == Float.ofInt i && minInt < i && i < maxInt

namespace Value

/-- The text of a value, as the text functions see it: a number written out, a text as it is,
the bytes of a blob taken as a text; none for null. -/
def sqlText? : Value → Option SqlText
  | .null => none
  | .integer i => some (Decimal.intText i)
  | .real r => some (realText r)
  | .text s => some s
  | .blob b => some ⟨b⟩

/-- The text of a value as a string, for the functions that read a text as characters (dates,
JSON, names); none for null. -/
def text? (v : Value) : Option String := v.sqlText?.map SqlText.toString

/-- The bytes of a value's text, empty for null. -/
def textBytes (v : Value) : List UInt8 := (v.sqlText?.map (·.bytes)).getD []

/-- The characters of a value's text as a string has them, empty for null. -/
def chars (v : Value) : List Char := ((v.text?).getD "").toList

/-- The characters of a value's text, one for each byte, for reading a number from it. -/
def numberChars (v : Value) : List Char := ((v.sqlText?.map SqlText.asciiChars).getD [])

/-- The real a value stands for in arithmetic. -/
def toReal : Value → Float
  | .null => 0
  | .integer i => Float.ofInt i
  | .real r => r
  | .text s => (readReal s.asciiChars).1
  | .blob b => (readReal (SqlText.asciiChars ⟨b⟩)).1

/-- The integer a value stands for. -/
def toInt : Value → Int
  | .null => 0
  | .integer i => i
  | .real r => realToInt r
  | .text s => (readInt s.asciiChars).1
  | .blob b => (readInt (SqlText.asciiChars ⟨b⟩)).1

/-- The number that a text stands for in arithmetic: an integer when it starts with one that is
not followed by a point or exponent, else a real. -/
def numberOfChars (cs : List Char) : Value :=
  let (r, code) := readReal cs
  let (i, icode) := readInt cs
  if code ≤ 0 then (if code == 0 && icode ≤ 1 then .integer i else .real r)
  else if code == 1 && icode == 0 then .integer i
  else .real r

/-- A value as a number for arithmetic; null stays null. -/
def asNumber : Value → Value
  | .text s => numberOfChars s.asciiChars
  | .blob b => numberOfChars (SqlText.asciiChars ⟨b⟩)
  | v => v

/-- The truth of a value in a condition: none for null, else whether it is not zero. -/
def truth? : Value → Option Bool
  | .null => none
  | .integer i => some (i != 0)
  | v => some (v.toReal != 0)

/-- Whether a value is null. -/
def isNull : Value → Bool
  | .null => true
  | _ => false

/-- The name of a value's storage class. -/
def typeName : Value → String
  | .null => "null"
  | .integer _ => "integer"
  | .real _ => "real"
  | .text _ => "text"
  | .blob _ => "blob"

/-- A boolean as an integer. -/
def ofBool (b : Bool) : Value := .integer (if b then 1 else 0)

end Value

/-- The preference of a column for a kind of value. -/
inductive Affinity where
  | blob
  | text
  | numeric
  | integer
  | real
  deriving DecidableEq, Repr, Inhabited

namespace Affinity

/-- Whether the affinity is one of the numeric ones. -/
def isNumeric : Affinity → Bool
  | .numeric | .integer | .real => true
  | _ => false

/-- The affinity of a declared type, read from its bytes in order with a window of four: `INT`
anywhere makes it integer at once; `CHAR`, `CLOB` or `TEXT` make it text; `BLOB` makes it blob
and `REAL`, `FLOA` or `DOUB` real, unless a text window came first; otherwise numeric. An empty
type is blob. -/
def ofType (declared : String) : Affinity :=
  if declared.isEmpty then .blob else
  let lower := declared.toUTF8.toList.map fun b => if 65 ≤ b && b ≤ 90 then b + 32 else b
  let code (s : String) : UInt32 := s.toUTF8.toList.foldl (fun h b => (h <<< 8) + b.toUInt32) 0
  let step : Affinity × UInt32 × Bool → UInt8 → Affinity × UInt32 × Bool := fun (aff, h, done) b =>
    if done then (aff, h, done) else
    let h := (h <<< 8) + b.toUInt32
    if h == code "char" || h == code "clob" || h == code "text" then (.text, h, false)
    else if h == code "blob" && (aff == .numeric || aff == .real) then (.blob, h, false)
    else if (h == code "real" || h == code "floa" || h == code "doub") && aff == .numeric then
      (.real, h, false)
    else if h &&& 0xFFFFFF == code "int" then (.integer, h, true)
    else (aff, h, false)
  (lower.foldl step (.numeric, 0, false)).1

end Affinity

/-- The affinity given to a text: a number when the whole text (blanks apart) is one, an
integer if it is one or a real that is exactly one. -/
def numericOfText (s : SqlText) (keepReal : Bool) : Option Value :=
  let (r, code) := readReal s.asciiChars
  if code ≤ 0 then none
  else
    let (i, icode) := readInt s.asciiChars
    let ri := realToInt r
    let exact := r == 0 || (r == Float.ofInt ri && -2251799813685248 ≤ ri && ri < 2251799813685248)
    if code == 1 && exact then some (.integer ri)
    else if code == 1 && icode == 0 then some (.integer i)
    else if !keepReal && realIsInt r ri then some (.integer ri)
    else some (.real r)

namespace Value

/-- A value as aggregates take it: a text that wholly reads as a number becomes that number
(a real stays a real even when it is whole); any other value stays as it is. -/
def numeric (v : Value) : Value :=
  match v with
  | .text s => (numericOfText s true).getD v
  | _ => v


/-- A value as stored under an affinity: numbers become text under text affinity; a text that
is a number becomes that number under a numeric affinity; a real that is exactly an integer
becomes the integer under numeric or integer affinity, and an integer a real under real. -/
def withAffinity (aff : Affinity) (v : Value) : Value :=
  match aff, v with
  | .text, .integer _ | .text, .real _ => .text ((v.sqlText?).getD default)
  | .blob, _ | .text, _ => v
  | .real, .integer i => .real (Float.ofInt i)
  | .real, .text s => match numericOfText s true with
    | some (.integer i) => .real (Float.ofInt i)
    | some w => w
    | none => v
  | .real, _ => v
  | _, .text s => (numericOfText s false).getD v
  | _, .real r => if realIsInt r (realToInt r) then .integer (realToInt r) else v
  | _, _ => v

end Value

/-- How texts are ordered. -/
inductive Collation where
  /-- Byte by byte. -/
  | binary
  /-- Byte by byte with ASCII letters folded to lower case. -/
  | nocase
  /-- Byte by byte with trailing spaces ignored. -/
  | rtrim
  deriving DecidableEq, Repr, Inhabited

namespace Collation

/-- The collation of a name, ignoring ASCII case. -/
def ofName? (name : String) : Option Collation :=
  match name.toUpper with
  | "BINARY" => some .binary
  | "NOCASE" => some .nocase
  | "RTRIM" => some .rtrim
  | _ => none

/-- Orders two lists by their elements, a list before its extensions. -/
def compareLists [Ord α] : List α → List α → Ordering
  | [], [] => .eq
  | [], _ :: _ => .lt
  | _ :: _, [] => .gt
  | a :: as, b :: bs => match compare a b with
    | .eq => compareLists as bs
    | o => o

/-- Orders two texts. -/
def compareText (c : Collation) (a b : SqlText) : Ordering :=
  let fold (s : SqlText) : List UInt8 :=
    s.bytes.map fun x => if 65 ≤ x && x ≤ 90 then x + 32 else x
  let trim (s : SqlText) : List UInt8 :=
    (s.bytes.reverse.dropWhile (· == 32)).reverse
  match c with
  | .binary => compareLists a.bytes b.bytes
  | .nocase => compareLists (fold a) (fold b)
  | .rtrim => compareLists (trim a) (trim b)

end Collation

/-- Orders a 64-bit integer against a real. -/
def compareIntReal (i : Int) (r : Float) : Ordering :=
  if r.isNaN then .gt
  else if r < -9223372036854775808.0 then .gt
  else if r ≥ 9223372036854775808.0 then .lt
  else
    let y := realToInt r
    if i < y then .lt else if i > y then .gt
    else
      let s := Float.ofInt i
      if s < r then .lt else if s > r then .gt else .eq

namespace Value

/-- The order of two values: null first, then numbers by value, then texts by the collation,
then blobs byte by byte. -/
def compare (coll : Collation) : Value → Value → Ordering
  | .null, .null => .eq
  | .null, _ => .lt
  | _, .null => .gt
  | .integer a, .integer b => Ord.compare a b
  | .real a, .real b => if a < b then .lt else if a > b then .gt else .eq
  | .integer a, .real b => compareIntReal a b
  | .real a, .integer b => (compareIntReal b a).swap
  | .integer _, _ | .real _, _ => .lt
  | _, .integer _ | _, .real _ => .gt
  | .text a, .text b => coll.compareText a b
  | .text _, .blob _ => .lt
  | .blob _, .text _ => .gt
  | .blob a, .blob b => Collation.compareLists a b

/-- Whether two values are the same under a collation (nulls are the same as each other). -/
def same (coll : Collation) (a b : Value) : Bool := compare coll a b == .eq

/-- Sum, difference or product of two integers, or none when it leaves 64 bits. -/
def intOp? (f : Int → Int → Int) (a b : Int) : Option Int :=
  let r := f a b
  if fitsInt r then some r else none

/-- The arithmetic operations. -/
inductive Arith where
  | add
  | sub
  | mul
  | div
  | rem
  deriving DecidableEq, Repr

/-- `a op b`: null if either is null; integers while the result stays within 64 bits, else
reals; a division or remainder by zero is null. -/
def arith (op : Arith) (a b : Value) : Value :=
  if a.isNull || b.isNull then .null else
  let real : Unit → Value := fun _ =>
    let x := a.toReal
    let y := b.toReal
    let finish (r : Float) : Value := if r.isNaN then .null else .real r
    match op with
    | .add => finish (x + y)
    | .sub => finish (x - y)
    | .mul => finish (x * y)
    | .div => if y == 0 then .null else finish (x / y)
    | .rem =>
      let ia := a.toInt
      let ib := b.toInt
      if ib == 0 then .null else .real (Float.ofInt (Int.tmod ia (if ib == -1 then 1 else ib)))
  match a.asNumber, b.asNumber with
  | .integer x, .integer y =>
    match op with
    | .add => ((intOp? (· + ·) x y).map Value.integer).getD (real ())
    | .sub => ((intOp? (· - ·) x y).map Value.integer).getD (real ())
    | .mul => ((intOp? (· * ·) x y).map Value.integer).getD (real ())
    | .div => if y == 0 then .null else if y == -1 && x == minInt then real ()
      else .integer (Int.tdiv x y)
    | .rem => if y == 0 then .null else .integer (Int.tmod x (if y == -1 then 1 else y))
  | _, _ => real ()

end Value

end Shipyard.Sql
