import Shipyard.Json.Basic
import Shipyard.Decimal.Text
/-!
Redacting transcripts.

Answers of the console hold identifiers, times and signed tokens that differ from run to run.
A redacted answer replaces them by stable placeholders, so two runs can be compared:

* a string that is entirely a timestamp (`YYYY-MM-DDTHH:MM:SS`, optional fraction, then `Z`
  or an offset `±HH:MM`) becomes `<ts>`;
* every signed token (`eyJ…` followed by two more dot-separated base64url segments) becomes
  `<jwt>`;
* every identifier in 8-4-4-4-12 hexadecimal form becomes `#n`, where `n` numbers the distinct
  identifiers (compared in lower case) in the order they are first met.

Strings are visited in written order: object keys in ascending order, each key before its
value, array items in order. The numbering is kept in a `Redaction`, which a session threads
through all its answers.
-/
namespace Shipyard.Console

/-- The identifiers met so far; the `n`-th one (from 1) is written `#n`. -/
structure Redaction where
  ids : Array String := #[]
  deriving Inhabited

def isDigitChar (c : Char) : Bool := '0' ≤ c && c ≤ '9'

def isHexChar (c : Char) : Bool := isDigitChar c || ('a' ≤ c && c ≤ 'f') || ('A' ≤ c && c ≤ 'F')

/-- Characters of a base64url segment. -/
def isSegmentChar (c : Char) : Bool :=
  c.isAlphanum || c == '-' || c == '_'

/-- `n` digits, then the rest. -/
def digitsThen (n : Nat) (cs : List Char) : Option (List Char) :=
  if (cs.take n).length == n && (cs.take n).all isDigitChar then some (cs.drop n) else none

/-- One literal character, then the rest. -/
def charThen (c : Char) : List Char → Option (List Char)
  | d :: rest => if c == d then some rest else none
  | [] => none

/-- A timestamp's zone: `Z`, or a sign with `HH:MM`, ending the text. -/
def zoneEnds : List Char → Bool
  | ['Z'] => true
  | s :: rest =>
    (s == '+' || s == '-') &&
      ((digitsThen 2 rest >>= charThen ':' >>= digitsThen 2) == some [])
  | [] => false

/-- Whether a whole text is a timestamp. -/
def isTimestamp (cs : List Char) : Bool :=
  let head := digitsThen 4 cs >>= charThen '-' >>= digitsThen 2 >>= charThen '-' >>=
    digitsThen 2 >>= charThen 'T' >>= digitsThen 2 >>= charThen ':' >>= digitsThen 2 >>=
    charThen ':' >>= digitsThen 2
  match head with
  | none => false
  | some ('.' :: rest) =>
    let digits := rest.takeWhile isDigitChar
    !digits.isEmpty && zoneEnds (rest.dropWhile isDigitChar)
  | some rest => zoneEnds rest

/-- A non-empty segment, then the rest. -/
def segmentThen (cs : List Char) : Option (List Char) :=
  let seg := cs.takeWhile isSegmentChar
  if seg.isEmpty then none else some (cs.dropWhile isSegmentChar)

/-- How many characters a signed token starting here takes, less one. -/
def tokenTail? (cs : List Char) : Option Nat :=
  match cs with
  | 'e' :: 'y' :: 'J' :: rest =>
    let rest := rest.dropWhile isSegmentChar
    match charThen '.' rest >>= segmentThen >>= charThen '.' >>= segmentThen with
    | some after => some (cs.length - after.length - 1)
    | none => none
  | _ => none

/-- Replaces every signed token by `<jwt>`, leftmost first. -/
def hideTokens (cs : List Char) : List Char :=
  match cs with
  | [] => []
  | c :: rest =>
    match tokenTail? (c :: rest) with
    | some k => "<jwt>".toList ++ hideTokens (rest.drop k)
    | none => c :: hideTokens rest
termination_by cs.length
decreasing_by all_goals (simp; try omega)

/-- Whether the text starts with an identifier in 8-4-4-4-12 form. -/
def startsWithId (cs : List Char) : Bool :=
  let groups := cs.take 36
  groups.length == 36 &&
    groups.zipIdx.all fun (c, i) =>
      if i == 8 || i == 13 || i == 18 || i == 23 then c == '-' else isHexChar c

/-- The placeholder of an identifier, numbering it when it is new. -/
def Redaction.name (r : Redaction) (id : String) : String × Redaction :=
  let key := id.toLower
  match r.ids.idxOf? key with
  | some i => ("#" ++ Decimal.natText (i + 1), r)
  | none => ("#" ++ Decimal.natText (r.ids.size + 1), { ids := r.ids.push key })

/-- The identifier that a placeholder `#n` stands for. -/
def Redaction.lookup (r : Redaction) (n : Nat) : Option String :=
  if n = 0 then none else r.ids[n - 1]?

/-- Replaces every identifier by its placeholder, leftmost first. -/
def hideIds (r : Redaction) (cs : List Char) : List Char × Redaction :=
  match cs with
  | [] => ([], r)
  | c :: rest =>
    if startsWithId (c :: rest) then
      let (p, r) := r.name (String.ofList ((c :: rest).take 36))
      let (tail, r) := hideIds r (rest.drop 35)
      (p.toList ++ tail, r)
    else
      let (tail, r) := hideIds r rest
      (c :: tail, r)
termination_by cs.length
decreasing_by all_goals (simp; try omega)

/-- The redacted form of one string. -/
def Redaction.text (r : Redaction) (s : String) : String × Redaction :=
  if isTimestamp s.toList then ("<ts>", r)
  else
    let (cs, r) := hideIds r (hideTokens s.toList)
    (String.ofList cs, r)

mutual

/-- Redacts every string of a value whose objects are in ascending key order, keys included;
objects stay in ascending key order. -/
def Redaction.value (r : Redaction) : Json → Json × Redaction
  | .str s => let (t, r) := r.text s; (.str t, r)
  | .arr xs => let (ys, r) := r.items xs; (.arr ys, r)
  | .obj kvs => let (ys, r) := r.fields kvs []; (.obj ys, r)
  | v => (v, r)

def Redaction.items (r : Redaction) : List Json → List Json × Redaction
  | [] => ([], r)
  | x :: xs =>
    let (y, r) := r.value x
    let (ys, r) := r.items xs
    (y :: ys, r)

def Redaction.fields (r : Redaction) :
    List (String × Json) → List (String × Json) → List (String × Json) × Redaction
  | [], acc => (acc, r)
  | (k, x) :: rest, acc =>
    let (k', r) := r.text k
    let (y, r) := r.value x
    r.fields rest (Json.insertSorted k' y acc)

end

/-- Redacts a whole answer. -/
def Redaction.answer (r : Redaction) (v : Json) : Json × Redaction := r.value v.sortKeys

end Shipyard.Console
