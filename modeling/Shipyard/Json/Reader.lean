import Shipyard.Json.Decode
/-!
Reading JSON text against a schema.

The reader walks the bytes once, checking each value against the schema as it goes, so the
first problem in document order is the one reported. A failure names the byte offset it is
reported at, which `ReadError.render` turns into `at line L column C`: the line counts
newlines before the offset, the column counts bytes since the last newline.

Where a failure is reported follows fixed rules:
* a malformed token is reported where the offending byte is read (`expected value`,
  `invalid number`, `expected ident`, …) or just after the byte looked at;
* a value of the wrong kind is reported after the whole value was read;
* a problem of a record (`missing field`, `duplicate field`, `invalid length`) is reported
  after the reader tried to close the record: past its `}` or `]` when that came next, past
  the blanks before whatever else stands there.

Numbers are classified as in `Numeral`: an integer without fraction or exponent that fits
64 bits stays exact, everything else becomes a float built from a 64-bit significand and a
power of ten (too large a magnitude is `number out of range`).
-/
namespace Shipyard.Json

/-- A reading failure: the message and, once known, the byte offset it is reported at. -/
structure ReadError where
  message : String
  offset : Option Nat := none

/-- Where the reader stands: the byte offset and how many more containers may be opened. -/
structure Cursor where
  offset : Nat
  depth : Nat

/-- Reading: the input is fixed, the cursor moves, and a failure keeps the cursor. -/
abbrev ReadM := ReaderT ByteArray (ExceptT ReadError (StateM Cursor))

namespace Reader

def msgEofValue := "EOF while parsing a value"
def msgEofList := "EOF while parsing a list"
def msgEofObject := "EOF while parsing an object"
def msgEofString := "EOF while parsing a string"
def msgExpectedColon := "expected `:`"
def msgListCommaOrEnd := "expected `,` or `]`"
def msgObjectCommaOrEnd := "expected `,` or `\x7d`"
def msgExpectedIdent := "expected ident"
def msgExpectedValue := "expected value"
def msgInvalidEscape := "invalid escape"
def msgInvalidNumber := "invalid number"
def msgOutOfRange := "number out of range"
def msgControl := "control character (\\u0000-\\u001F) found while parsing a string"
def msgKeyString := "key must be a string"
def msgLoneSurrogate := "lone leading surrogate in hex escape"
def msgTrailingComma := "trailing comma"
def msgTrailingCharacters := "trailing characters"
def msgEndOfHexEscape := "unexpected end of hex escape"
def msgRecursion := "recursion limit exceeded"

/-- The byte at offset `i`, if any. -/
def byteAt (bs : ByteArray) (i : Nat) : Option UInt8 := bs[i]?

def isDigit (b : UInt8) : Bool := 48 ≤ b && b ≤ 57

def isBlank (b : UInt8) : Bool := b == 32 || b == 10 || b == 9 || b == 13

/-- The offset of the first non-blank byte at or after `i`. -/
def skipBlanks (bs : ByteArray) (i : Nat) : Nat :=
  if h : i < bs.size then
    if isBlank bs[i] then skipBlanks bs (i + 1) else i
  else i
termination_by bs.size - i

/-- Offset just past the byte looked at, capped at the end. -/
def peekOffset (bs : ByteArray) (i : Nat) : Nat := min bs.size (i + 1)

/-! ### Strings -/

/-- Value of a hex digit. -/
def hexValue (b : UInt8) : Option Nat :=
  if 48 ≤ b && b ≤ 57 then some (b.toNat - 48)
  else if 65 ≤ b && b ≤ 70 then some (b.toNat - 55)
  else if 97 ≤ b && b ≤ 102 then some (b.toNat - 87)
  else none

/-- Four hex digits at `i`: their value and the offset after them. -/
def hexQuad (bs : ByteArray) (i : Nat) : Except ReadError (Nat × Nat) :=
  if i + 4 ≤ bs.size then
    match (byteAt bs i).bind hexValue, (byteAt bs (i + 1)).bind hexValue,
        (byteAt bs (i + 2)).bind hexValue, (byteAt bs (i + 3)).bind hexValue with
    | some a, some b, some c, some d => .ok (((a * 16 + b) * 16 + c) * 16 + d, i + 4)
    | _, _, _, _ => .error ⟨msgInvalidEscape, some (i + 4)⟩
  else .error ⟨msgEofString, some bs.size⟩

/-- UTF-8 bytes of a code point. -/
def utf8Of (n : Nat) : List UInt8 :=
  if n < 0x80 then [n.toUInt8]
  else if n < 0x800 then [(0xC0 + n / 64).toUInt8, (0x80 + n % 64).toUInt8]
  else if n < 0x10000 then
    [(0xE0 + n / 4096).toUInt8, (0x80 + n / 64 % 64).toUInt8, (0x80 + n % 64).toUInt8]
  else
    [(0xF0 + n / 262144).toUInt8, (0x80 + n / 4096 % 64).toUInt8,
     (0x80 + n / 64 % 64).toUInt8, (0x80 + n % 64).toUInt8]

/-- A `\u` escape whose four digits start at `i`, a surrogate pair included: the bytes it
stands for and the offset after it. -/
def unicodeEscape (bs : ByteArray) (i : Nat) : Except ReadError (List UInt8 × Nat) := do
  let (n, j) ← hexQuad bs i
  if 0xDC00 ≤ n && n ≤ 0xDFFF then throw ⟨msgLoneSurrogate, some j⟩
  if n < 0xD800 || n > 0xDBFF then return (utf8Of n, j)
  match byteAt bs j with
  | none => throw ⟨msgEofString, some bs.size⟩
  | some b =>
    if b != 92 then throw ⟨msgEndOfHexEscape, some (j + 1)⟩
    match byteAt bs (j + 1) with
    | none => throw ⟨msgEofString, some bs.size⟩
    | some u =>
      if u != 117 then throw ⟨msgEndOfHexEscape, some (j + 2)⟩
      let (n2, k) ← hexQuad bs (j + 2)
      if n2 < 0xDC00 || n2 > 0xDFFF then throw ⟨msgLoneSurrogate, some k⟩
      return (utf8Of ((n - 0xD800) * 1024 + (n2 - 0xDC00) + 0x10000), k)

/-- The escape whose letter is at `i` (just after a backslash). -/
def escape (bs : ByteArray) (i : Nat) : Except ReadError (List UInt8 × Nat) :=
  match byteAt bs i with
  | none => .error ⟨msgEofString, some bs.size⟩
  | some c =>
    if c == 34 then .ok ([34], i + 1)
    else if c == 92 then .ok ([92], i + 1)
    else if c == 47 then .ok ([47], i + 1)
    else if c == 98 then .ok ([8], i + 1)
    else if c == 102 then .ok ([12], i + 1)
    else if c == 110 then .ok ([10], i + 1)
    else if c == 114 then .ok ([13], i + 1)
    else if c == 116 then .ok ([9], i + 1)
    else if c == 117 then unicodeEscape bs (i + 1)
    else .error ⟨msgInvalidEscape, some (i + 1)⟩

/-- String content from `i` (after the opening quote) to the closing quote: the bytes it stands
for, and the offset after the closing quote. -/
def stringBody (bs : ByteArray) (i : Nat) (acc : Array UInt8) :
    Except ReadError (Array UInt8 × Nat) :=
  if h : i < bs.size then
    let b := bs[i]
    if b == 34 then .ok (acc, i + 1)
    else if b == 92 then
      match escape bs (i + 1) with
      | .error e => .error e
      | .ok (out, j) =>
        if hj : j > i then stringBody bs j (acc ++ out.toArray)
        else .error ⟨msgEofString, some bs.size⟩
    else if b < 32 then .error ⟨msgControl, some (i + 1)⟩
    else stringBody bs (i + 1) (acc.push b)
  else .error ⟨msgEofString, some bs.size⟩
termination_by bs.size - i

/-- Skips string content from `i` without decoding it. -/
def skipStringBody (bs : ByteArray) (i : Nat) : Except ReadError Nat :=
  if h : i < bs.size then
    let b := bs[i]
    if b == 34 then .ok (i + 1)
    else if b == 92 then
      match byteAt bs (i + 1) with
      | none => .error ⟨msgEofString, some bs.size⟩
      | some c =>
        if c == 117 then
          if i + 6 ≤ bs.size then
            match (hexQuad bs (i + 2)) with
            | .ok _ => skipStringBody bs (i + 6)
            | .error e => .error e
          else .error ⟨msgEofString, some bs.size⟩
        else if c == 34 || c == 92 || c == 47 || c == 98 || c == 102 || c == 110 || c == 114
            || c == 116 then skipStringBody bs (i + 2)
        else .error ⟨msgInvalidEscape, some (i + 2)⟩
    else if b < 32 then .error ⟨msgControl, some i⟩
    else skipStringBody bs (i + 1)
  else .error ⟨msgEofString, some bs.size⟩
termination_by bs.size - i

/-- Text of decoded bytes (valid UTF-8 by construction). -/
def textOf (bytes : Array UInt8) : String :=
  (String.fromUTF8? (ByteArray.mk bytes)).getD ""

/-! ### Numbers -/

def u64Max : Nat := Nat.pow 2 64 - 1

def i32Max : Int := Int.pow 2 31 - 1

/-- Whether `acc * 10 + d` exceeds `limit`. -/
def overflows (acc d limit : Nat) : Bool := acc * 10 + d > limit

/-- Builds a float from a significand and a power of ten: one rounding of the significand,
then repeated multiplication or division by powers of ten. -/
def floatOfParts (positive : Bool) (sig : Nat) (exp : Int) (pos : Nat) :
    Except ReadError Float :=
  let rec go (fuel : Nat) (f : Float) (e : Int) : Except ReadError Float :=
    match fuel with
    | 0 => .ok f
    | fuel + 1 =>
      if e.natAbs ≤ 308 then
        if 0 ≤ e then
          let g := f * Float.ofScientific (Nat.pow 10 e.natAbs) false 0
          if g.isInf then .error ⟨msgOutOfRange, some pos⟩ else .ok g
        else .ok (f / Float.ofScientific (Nat.pow 10 e.natAbs) false 0)
      else if f == 0.0 then .ok f
      else if 0 ≤ e then .error ⟨msgOutOfRange, some pos⟩
      else go fuel (f / Float.ofScientific 1 false 308) (e + 308)
  match go 16 (Float.ofScientific sig false 0) exp with
  | .ok f => .ok (if positive then f else -f)
  | .error e => .error e

/-- The longest run of digits from `i`. -/
def digitsEnd (bs : ByteArray) (i : Nat) : Nat :=
  if h : i < bs.size then
    if isDigit bs[i] then digitsEnd bs (i + 1) else i
  else i
termination_by bs.size - i

/-- Exponent digits from `i` (one already read into `acc`): the exponent, or `none` when it
would pass the 32-bit range, with the offset reached. -/
def exponentDigits (bs : ByteArray) (i : Nat) (acc : Nat) : Option Nat × Nat :=
  if h : i < bs.size then
    let b := bs[i]
    if isDigit b then
      let d := b.toNat - 48
      if overflows acc d i32Max.toNat then (none, i + 1)
      else exponentDigits bs (i + 1) (acc * 10 + d)
    else (some acc, i)
  else (some acc, i)
termination_by bs.size - i

/-- An exponent part whose `e` is at `i`. -/
def exponentPart (bs : ByteArray) (i : Nat) (positive : Bool) (sig : Nat) (start : Int) :
    Except ReadError (Float × Nat) :=
  let j := i + 1
  let (posExp, k) :=
    match byteAt bs j with
    | some 43 => (true, j + 1)
    | some 45 => (false, j + 1)
    | _ => (true, j)
  match byteAt bs k with
  | none => .error ⟨msgEofValue, some k⟩
  | some c =>
    if !isDigit c then .error ⟨msgInvalidNumber, some (k + 1)⟩ else
    match exponentDigits bs (k + 1) (c.toNat - 48) with
    | (none, m) =>
      if sig != 0 && posExp then .error ⟨msgOutOfRange, some m⟩
      else
        let n := digitsEnd bs m
        .ok (if positive then 0.0 else -0.0, n)
    | (some e, m) =>
      let total : Int := if posExp then start + e else start - e
      let clamped := max (-Int.pow 2 31) (min total i32Max)
      match floatOfParts positive sig clamped m with
      | .ok f => .ok (f, m)
      | .error err => .error err

/-- Finishes a float after its digits: an exponent part or nothing. -/
def finishFloat (bs : ByteArray) (i : Nat) (positive : Bool) (sig : Nat) (exp : Int) :
    Except ReadError (Float × Nat) :=
  match byteAt bs i with
  | some 101 | some 69 => exponentPart bs i positive sig exp
  | _ =>
    match floatOfParts positive sig exp i with
    | .ok f => .ok (f, i)
    | .error e => .error e

/-- Fraction digits from `i`: significand, count of digits taken, and where the taking stopped
(`true` when the significand would overflow and the remaining digits are skipped). -/
def fractionDigits (bs : ByteArray) (i : Nat) (sig count : Nat) : Nat × Nat × Nat × Bool :=
  if h : i < bs.size then
    let b := bs[i]
    if isDigit b then
      let d := b.toNat - 48
      if overflows sig d u64Max then (sig, count, i, true)
      else fractionDigits bs (i + 1) (sig * 10 + d) (count + 1)
    else (sig, count, i, false)
  else (sig, count, i, false)
termination_by bs.size - i

/-- A fraction whose point is at `i`. -/
def fractionPart (bs : ByteArray) (i : Nat) (positive : Bool) (sig : Nat) (before : Int) :
    Except ReadError (Float × Nat) :=
  let (sig', count, j, overflowed) := fractionDigits bs (i + 1) sig 0
  if overflowed then
    finishFloat bs (digitsEnd bs j) positive sig' (before - count)
  else if count == 0 then
    match byteAt bs j with
    | some _ => .error ⟨msgInvalidNumber, some (peekOffset bs j)⟩
    | none => .error ⟨msgEofValue, some (peekOffset bs j)⟩
  else finishFloat bs j positive sig' (before - count)

/-- An integer too long for 64 bits: further digits only raise the exponent. -/
def longInteger (bs : ByteArray) (i : Nat) (positive : Bool) (sig : Nat) :
    Except ReadError (Float × Nat) :=
  let j := digitsEnd bs i
  let extra : Int := j - i
  match byteAt bs j with
  | some 46 => fractionPart bs j positive sig extra
  | _ => finishFloat bs j positive sig extra

/-- Integer digits from `i` (the first already in `sig`). -/
def integerDigits (bs : ByteArray) (i : Nat) (sig : Nat) : Nat × Nat × Bool :=
  if h : i < bs.size then
    let b := bs[i]
    if isDigit b then
      let d := b.toNat - 48
      if overflows sig d u64Max then (sig, i, true)
      else integerDigits bs (i + 1) (sig * 10 + d)
    else (sig, i, false)
  else (sig, i, false)
termination_by bs.size - i

/-- After the integer digits at `i`: a fraction, an exponent, or an exact integer. -/
def numberTail (bs : ByteArray) (i : Nat) (positive : Bool) (sig : Nat) :
    Except ReadError (Numeral × Nat) :=
  let asFloat (r : Except ReadError (Float × Nat)) : Except ReadError (Numeral × Nat) :=
    match r with
    | .ok (f, j) => .ok (.float f, j)
    | .error e => .error e
  match byteAt bs i with
  | some 46 => asFloat (fractionPart bs i positive sig 0)
  | some 101 | some 69 => asFloat (exponentPart bs i positive sig 0)
  | _ =>
    if positive then .ok (.unsigned sig, i)
    else if sig == 0 then .ok (.float (-0.0), i)
    else if sig ≤ Nat.pow 2 63 then .ok (.signed (-(sig : Int)), i)
    else .ok (.float (-(Float.ofScientific sig false 0)), i)

/-- A number whose first digit is at `i` (after any minus sign). -/
def number (bs : ByteArray) (i : Nat) (positive : Bool) : Except ReadError (Numeral × Nat) :=
  match byteAt bs i with
  | none => .error ⟨msgEofValue, some i⟩
  | some c =>
    if c == 48 then
      match byteAt bs (i + 1) with
      | some d => if isDigit d then .error ⟨msgInvalidNumber, some (peekOffset bs (i + 1))⟩
                  else numberTail bs (i + 1) positive 0
      | none => numberTail bs (i + 1) positive 0
    else if isDigit c then
      match integerDigits bs (i + 1) (c.toNat - 48) with
      | (sig, j, true) =>
        match longInteger bs j positive sig with
        | .ok (f, k) => .ok (.float f, k)
        | .error e => .error e
      | (sig, j, false) => numberTail bs j positive sig
    else .error ⟨msgInvalidNumber, some (i + 1)⟩

/-- Skips a number whose first digit is at `i`, checking only its form. -/
def skipNumber (bs : ByteArray) (i : Nat) : Except ReadError Nat :=
  let afterInt : Except ReadError Nat :=
    match byteAt bs i with
    | some 48 =>
      match byteAt bs (i + 1) with
      | some d => if isDigit d then .error ⟨msgInvalidNumber, some (peekOffset bs (i + 1))⟩
                  else .ok (i + 1)
      | none => .ok (i + 1)
    | some c => if isDigit c then .ok (digitsEnd bs (i + 1))
                else .error ⟨msgInvalidNumber, some (i + 1)⟩
    | none => .error ⟨msgInvalidNumber, some i⟩
  let exponent (j : Nat) : Except ReadError Nat :=
    let k := match byteAt bs (j + 1) with
      | some 43 | some 45 => j + 2
      | _ => j + 1
    match byteAt bs k with
    | some c => if isDigit c then .ok (digitsEnd bs (k + 1))
                else .error ⟨msgInvalidNumber, some (k + 1)⟩
    | none => .error ⟨msgInvalidNumber, some k⟩
  match afterInt with
  | .error e => .error e
  | .ok j =>
    match byteAt bs j with
    | some 46 =>
      let k := digitsEnd bs (j + 1)
      if k == j + 1 then .error ⟨msgInvalidNumber, some (peekOffset bs k)⟩
      else match byteAt bs k with
        | some 101 | some 69 => exponent k
        | _ => .ok k
    | some 101 | some 69 => exponent j
    | _ => .ok j

/-! ### The reading monad -/

def here : ReadM Nat := return (← get).offset

def moveTo (i : Nat) : ReadM Unit := modify fun c => { c with offset := i }

def peek? : ReadM (Option UInt8) := do return byteAt (← read) (← here)

def eat : ReadM Unit := modify fun c => { c with offset := c.offset + 1 }

/-- Skips blanks and looks at the next byte. -/
def blanks : ReadM (Option UInt8) := do
  let bs ← read
  moveTo (skipBlanks bs (← here))
  peek?

/-- Fails at the current offset. -/
def failHere (msg : String) : ReadM α := do throw ⟨msg, some (← here)⟩

/-- Fails just past the byte looked at. -/
def failPeek (msg : String) : ReadM α := do throw ⟨msg, some (peekOffset (← read) (← here))⟩

/-- Runs a pure step from the current offset. -/
def step (f : ByteArray → Nat → Except ReadError (α × Nat)) : ReadM α := do
  match f (← read) (← here) with
  | .ok (a, j) => moveTo j; return a
  | .error e =>
    -- the cursor stands where the failure was found
    if let some o := e.offset then moveTo o
    throw e

/-- Gives a failure without an offset the current one. -/
def fixPosition (x : ReadM α) : ReadM α :=
  tryCatch x fun e => do
    match e.offset with
    | some _ => throw e
    | none => throw { e with offset := some (← here) }

/-- Runs `x` and then `closing`; the first failure wins, but `closing` always runs. -/
def thenClose (x : ReadM α) (closing : ReadM Unit) : ReadM α := do
  let r ← tryCatch (Except.ok <$> x) (fun e => pure (Except.error e))
  let c ← tryCatch (Except.ok <$> closing) (fun e => pure (Except.error e))
  match r, c with
  | .error e, _ => throw e
  | .ok _, .error e => throw e
  | .ok a, .ok () => return a

/-- Enters a container: one level of nesting is used up, or the limit is reached. -/
def enter : ReadM Unit := do
  if (← get).depth ≤ 1 then failPeek msgRecursion
  modify fun c => { c with depth := c.depth - 1 }

def leave : ReadM Unit := modify fun c => { c with depth := c.depth + 1 }

/-- Reads the letters `word` one by one. -/
def ident (word : List UInt8) : ReadM Unit := do
  for w in word do
    match ← peek? with
    | none => failHere msgEofValue
    | some b => eat; if b != w then failHere msgExpectedIdent

def identNull : List UInt8 := [117, 108, 108]
def identTrue : List UInt8 := [114, 117, 101]
def identFalse : List UInt8 := [97, 108, 115, 101]

/-- A string after its opening quote. -/
def stringText : ReadM String := do
  let bytes ← step fun bs i => stringBody bs i #[]
  return textOf bytes

/-- A number, its minus sign included, starting at the current byte. -/
def numeral : ReadM Numeral := do
  match ← peek? with
  | some 45 => eat; step fun bs i => number bs i false
  | _ => step fun bs i => number bs i true

/-- What the next value is, for a message about the wrong kind of value; reads the value when
it is a scalar. -/
def foundNext (w : Wording) (exp : String) : ReadM ReadError := do
  match ← blanks with
  | none => return ⟨msgEofValue, some (peekOffset (← read) (← here))⟩
  | some b =>
    let found : Option Found ←
      if b == 110 then do eat; ident identNull; pure (some .unit)
      else if b == 116 then do eat; ident identTrue; pure (some (.bool true))
      else if b == 102 then do eat; ident identFalse; pure (some (.bool false))
      else if b == 45 || isDigit b then do pure (some (← numeral).toFound)
      else if b == 34 then do eat; pure (some (.str (← stringText)))
      else if b == 91 then pure (some .seq)
      else if b == 123 then pure (some .map)
      else pure none
    match found with
    | some f => return ⟨Mismatch.invalidType w f exp, some (← here)⟩
    | none => return ⟨msgExpectedValue, some (peekOffset (← read) (← here))⟩

/-- Fails with the wrong-kind message for the next value. -/
def wrongKind (exp : String) : ReadM α := do throw (← foundNext .interchange exp)

/-- Closes a list: `]`, or the reason it cannot be closed. -/
def closeList : ReadM Unit := do
  match ← blanks with
  | some 93 => eat
  | some 44 =>
    eat
    match ← blanks with
    | some 93 => failPeek msgTrailingComma
    | _ => failPeek msgTrailingCharacters
  | some _ => failPeek msgTrailingCharacters
  | none => failPeek msgEofList

/-- Closes an object: `}`, or the reason it cannot be closed. -/
def closeObject : ReadM Unit := do
  match ← blanks with
  | some 125 => eat
  | some 44 => failPeek msgTrailingComma
  | some _ => failPeek msgTrailingCharacters
  | none => failPeek msgEofObject

/-- Steps to the next item of a list: `false` at its end. -/
def nextItem (first : Bool) : ReadM Bool := do
  let peek ← match ← blanks with
    | some 93 => return false
    | some 44 =>
      if first then pure (some 44) else do eat; blanks
    | some b => if first then pure (some b) else failPeek msgListCommaOrEnd
    | none => failPeek msgEofList
  match peek with
  | some 93 => failPeek msgTrailingComma
  | some _ => return true
  | none => failPeek msgEofValue

/-- Steps to the next key of an object and reads it: `none` at its end. -/
def nextKey (first : Bool) : ReadM (Option String) := do
  let peek ← match ← blanks with
    | some 125 => return none
    | some 44 =>
      if first then pure (some 44) else do eat; blanks
    | some b => if first then pure (some b) else failPeek msgObjectCommaOrEnd
    | none => failPeek msgEofObject
  match peek with
  | some 34 => eat; return some (← stringText)
  | some 125 => failPeek msgTrailingComma
  | some _ => failPeek msgKeyString
  | none => failPeek msgEofValue

/-- The colon between a key and its value. -/
def colon : ReadM Unit := do
  match ← blanks with
  | some 58 => eat
  | some _ => failPeek msgExpectedColon
  | none => failPeek msgEofObject

/-- A container frame while skipping: `true` for a list, `false` for an object. -/
abbrev Frame := Bool

/-- Skips one value of any form, checking only its syntax. -/
def skipValue (fuel : Nat) : ReadM Unit := do
  let rec scalarOrOpen : ReadM (Option Frame) := do
    match ← blanks with
    | none => failPeek msgEofValue
    | some b =>
      if b == 110 then do eat; ident identNull; return none
      else if b == 116 then do eat; ident identTrue; return none
      else if b == 102 then do eat; ident identFalse; return none
      else if b == 45 then do
        eat; step fun bs i => (skipNumber bs i).map fun j => ((), j); return none
      else if isDigit b then do
        step fun bs i => (skipNumber bs i).map fun j => ((), j); return none
      else if b == 34 then do
        eat; step fun bs i => (skipStringBody bs i).map fun j => ((), j); return none
      else if b == 91 then do eat; return some true
      else if b == 123 then do eat; return some false
      else failPeek msgExpectedValue
  -- after a value inside `frame`: a comma (ready for the next value), or closings
  let rec afterValue (fuel : Nat) (stack : List Frame) (frame : Frame) (acceptComma : Bool) :
      ReadM (Option (List Frame × Frame)) := do
    match fuel with
    | 0 => failHere msgRecursion
    | fuel + 1 =>
      let closes (b : UInt8) : Bool := (frame && b == 93) || (!frame && b == 125)
      match ← blanks with
      | some b =>
        if b == 44 && acceptComma then do eat; return some (stack, frame)
        else if closes b then do
          eat
          match stack with
          | [] => return none
          | f :: rest => afterValue fuel rest f true
        else if acceptComma then
          failPeek (if frame then msgListCommaOrEnd else msgObjectCommaOrEnd)
        else return some (stack, frame)
      | none => failPeek (if frame then msgEofList else msgEofObject)
  let rec loop (fuel : Nat) (stack : List Frame) : ReadM Unit := do
    match fuel with
    | 0 => failHere msgRecursion
    | fuel + 1 =>
      let opened ← scalarOrOpen
      let next ← match opened with
        | some f => afterValue fuel stack f false
        | none =>
          match stack with
          | [] => pure none
          | f :: rest => afterValue fuel rest f true
      match next with
      | none => return ()
      | some (stack', frame) =>
        if !frame then do
          match ← blanks with
          | some 34 => eat; step fun bs i => (skipStringBody bs i).map fun j => ((), j)
          | some _ => failPeek msgKeyString
          | none => failPeek msgEofObject
          colon
        loop fuel (frame :: stack')
  loop fuel []

/-! ### Reading against a schema -/

/-- A number checked against an integer schema. -/
def integer (signed : Bool) (bits : Nat) (exp : String) : ReadM Json := fixPosition do
  match ← blanks with
  | none => failPeek msgEofValue
  | some b =>
    if b == 45 || isDigit b then
      match Numeral.fitInteger .interchange signed bits exp (← numeral) with
      | .ok j => return j
      | .error m => throw ⟨m, none⟩
    else wrongKind exp

mutual

/-- Reads one value against the schema. -/
def value (fuel : Nat) (s : Schema) : ReadM Json := do
  match fuel with
  | 0 => failHere msgRecursion
  | fuel + 1 =>
    match s with
    | .any => anyValue fuel
    | .ignored => do skipValue (fuel + 1); return .null
    | .string => fixPosition do
      match ← blanks with
      | none => failPeek msgEofValue
      | some 34 => eat; return .str (← stringText)
      | some _ => wrongKind s.expected
    | .dateTime _ => fixPosition do
      match ← blanks with
      | none => failPeek msgEofValue
      | some 34 =>
        eat
        match DateTime.parse (← stringText) with
        | .ok d => return .str d.utcText
        | .error e => throw ⟨e.message, none⟩
      | some _ => wrongKind s.expected
    | .bool => fixPosition do
      match ← blanks with
      | none => failPeek msgEofValue
      | some 116 => eat; ident identTrue; return .bool true
      | some 102 => eat; ident identFalse; return .bool false
      | some _ => wrongKind s.expected
    | .nat bits => integer false bits s.expected
    | .int bits => integer true bits s.expected
    | .option inner => do
      match ← blanks with
      | some 110 => eat; ident identNull; return .null
      | _ => value fuel inner
    | .list inner => fixPosition do
      match ← blanks with
      | none => failPeek msgEofValue
      | some 91 =>
        enter; eat
        let r ← thenClose (items fuel inner true []) closeList
        leave
        return .arr r
      | some _ => wrongKind s.expected
    | .dict inner => fixPosition do
      match ← blanks with
      | none => failPeek msgEofValue
      | some 123 =>
        enter; eat
        let r ← thenClose (entries fuel inner true []) closeObject
        leave
        return .obj r
      | some _ => wrongKind s.expected
    | .record name fields => fixPosition do
      match ← blanks with
      | none => failPeek msgEofValue
      | some 91 =>
        enter; eat
        let r ← thenClose (recordItems fuel name fields.length fields true []) closeList
        leave
        return .obj r
      | some 123 =>
        enter; eat
        let slots ← thenClose (recordEntries fuel false fields true (fields.map fun _ => none))
          closeObject
        leave
        match fillFields fields slots with
        | .ok kvs => return .obj kvs
        | .error m => throw ⟨m, none⟩
      | some _ => wrongKind s.expected
    | .overlay _ fields => fixPosition do
      match ← blanks with
      | none => failPeek msgEofValue
      | some 123 =>
        enter; eat
        let slots ← thenClose (recordEntries fuel true fields true (fields.map fun _ => none))
          closeObject
        leave
        match fillFields fields slots with
        | .ok kvs => return .obj kvs
        | .error m => throw ⟨m, none⟩
      | some _ => wrongKind s.expected
    | .choice _ variants => chosen fuel (some variants)
    | .named _ => chosen fuel none
    | .flat _ fields parts => fixPosition do
      match ← blanks with
      | none => failPeek msgEofValue
      | some 123 =>
        enter; eat
        let (slots, kept) ← thenClose
          (flatEntries fuel fields true (fields.map fun _ => none) []) closeObject
        leave
        match fillFields fields slots with
        | .error m => throw ⟨m, none⟩
        | .ok known =>
          match decodeParts parts kept with
          | .ok rest => return .obj (known ++ rest)
          | .error m => throw ⟨m, none⟩
      | some _ => wrongKind s.expected
    | .untagged name variants => fixPosition do
      let v ← anyValue fuel
      match decodeFirst name variants v with
      | .ok w => return w
      | .error m => throw ⟨m, none⟩

/-- A name out of a list (any name when there is no list), written as a string or as an
object of one member holding nothing. -/
def chosen (fuel : Nat) (variants : Option (List String)) : ReadM Json := do
  match fuel with
  | 0 => failHere msgRecursion
  | fuel + 1 =>
    let known (v : String) : Bool := (variants.map (·.contains v)).getD true
    let listed := variants.getD []
    match ← blanks with
    | some 34 => fixPosition do
      eat
      let v ← stringText
      if known v then return .str v
      else throw ⟨Mismatch.unknownVariant v listed, none⟩
    | some 123 =>
      enter; eat
      let k ← match ← nextKey true with
        | some k => pure k
        | none => failPeek msgExpectedValue
      if !known k then
        throw ⟨Mismatch.unknownVariant k listed, some (← here)⟩
      colon
      let _ ← value fuel (.option .ignored)
      match ← blanks with
      | some 125 => eat; leave; return .str k
      | some _ => failHere msgExpectedValue
      | none => failHere msgEofObject
    | some _ => failPeek msgExpectedValue
    | none => failPeek msgEofValue

/-- A value of any form, kept whole. -/
def anyValue (fuel : Nat) : ReadM Json := fixPosition do
  match ← blanks with
  | none => failPeek msgEofValue
  | some b =>
    if b == 110 then do eat; ident identNull; return .null
    else if b == 116 then do eat; ident identTrue; return .bool true
    else if b == 102 then do eat; ident identFalse; return .bool false
    else if b == 45 || isDigit b then do return (← numeral).toJson
    else if b == 34 then do eat; return .str (← stringText)
    else if b == 91 then do
      enter; eat
      let r ← thenClose (items fuel .any true []) closeList
      leave
      return .arr r
    else if b == 123 then do
      enter; eat
      let r ← thenClose (entries fuel .any true []) closeObject
      leave
      return .obj r
    else failPeek msgExpectedValue

/-- The items of a list, after its `[`. -/
def items (fuel : Nat) (s : Schema) (first : Bool) (acc : List Json) : ReadM (List Json) := do
  match fuel with
  | 0 => failHere msgRecursion
  | fuel + 1 =>
    if ← nextItem first then
      let v ← value fuel s
      items fuel s false (acc ++ [v])
    else return acc

/-- The members of a map, after its `{`, in ascending key order. -/
def entries (fuel : Nat) (s : Schema) (first : Bool) (acc : List (String × Json)) :
    ReadM (List (String × Json)) := do
  match fuel with
  | 0 => failHere msgRecursion
  | fuel + 1 =>
    match ← nextKey first with
    | none => return acc
    | some k =>
      colon
      let v ← value fuel s
      entries fuel s false (Json.insertSorted k v acc)

/-- The fields of a record written as a list, in declaration order. -/
def recordItems (fuel : Nat) (name : String) (count : Nat) (fields : List (Field Schema))
    (first : Bool) (acc : List (String × Json)) : ReadM (List (String × Json)) := do
  match fuel with
  | 0 => failHere msgRecursion
  | fuel + 1 =>
    match fields with
    | [] => return acc
    | f :: rest =>
      if ← nextItem first then
        let v ← value fuel f.schema
        recordItems fuel name count rest false (acc ++ [(f.name, v)])
      else
        match f.default with
        | some d => recordItems fuel name count rest first (acc ++ [(f.name, d)])
        | none =>
          throw ⟨Mismatch.invalidLength acc.length
            ("struct " ++ name ++ " with " ++ Decimal.natText count ++ " elements"), none⟩

/-- The members of a record written as an object: each field's value once it was seen. -/
def recordEntries (fuel : Nat) (repeatable : Bool) (fields : List (Field Schema)) (first : Bool)
    (slots : List (Option Json)) : ReadM (List (Option Json)) := do
  match fuel with
  | 0 => failHere msgRecursion
  | fuel + 1 =>
    match ← nextKey first with
    | none => return slots
    | some k =>
      match fieldIndex fields k 0 with
      | some (i, f) =>
        if !repeatable && (slots.getD i none).isSome then
          throw ⟨Mismatch.duplicateField f.name, none⟩
        colon
        let v ← value fuel f.schema
        recordEntries fuel repeatable fields false (slots.set i (some v))
      | none =>
        colon
        skipValue (fuel + 1)
        recordEntries fuel repeatable fields false slots

/-- The members of a flat record: each field's value once it was seen, and the other members,
kept in the order written. -/
def flatEntries (fuel : Nat) (fields : List (Field Schema)) (first : Bool)
    (slots : List (Option Json)) (kept : List (String × Json)) :
    ReadM (List (Option Json) × List (String × Json)) := do
  match fuel with
  | 0 => failHere msgRecursion
  | fuel + 1 =>
    match ← nextKey first with
    | none => return (slots, kept)
    | some k =>
      match fieldIndex fields k 0 with
      | some (i, f) =>
        if (slots.getD i none).isSome then
          throw ⟨Mismatch.duplicateField f.name, none⟩
        colon
        let v ← value fuel f.schema
        flatEntries fuel fields false (slots.set i (some v)) kept
      | none =>
        colon
        let v ← anyValue fuel
        flatEntries fuel fields false slots (kept ++ [(k, v)])

end

end Reader

/-- Line and column of a byte offset: lines from 1, columns counting bytes since the last
newline. -/
def lineColumn (bs : ByteArray) (offset : Nat) : Nat × Nat :=
  let before := (bs.extract 0 offset).toList
  let lineStart := (before.zipIdx.filter (·.1 == 10)).getLast?.map (·.2 + 1) |>.getD 0
  let line := 1 + (before.take lineStart).count 10
  (line, offset - lineStart)

/-- The message of a failure, with its place when it has one. -/
def ReadError.render (bs : ByteArray) (e : ReadError) : String :=
  match e.offset with
  | none => e.message
  | some o =>
    let (l, c) := lineColumn bs o
    e.message ++ " at line " ++ Decimal.natText l ++ " column " ++ Decimal.natText c

/-- Reads a whole text as one value of the schema; blanks may follow it, nothing else. -/
def readBytes (s : Schema) (bs : ByteArray) : Except String Json :=
  let prog : ReadM Json := do
    let v ← Reader.value (4 * bs.size + 64) s
    match ← Reader.blanks with
    | none => return v
    | some _ => Reader.failPeek Reader.msgTrailingCharacters
  match ((prog.run bs).run.run ⟨0, 128⟩).1 with
  | .ok v => .ok v
  | .error e => .error (e.render bs)

/-- Reads a whole string as one value of the schema. -/
def readText (s : Schema) (text : String) : Except String Json :=
  readBytes s text.toUTF8

end Shipyard.Json
