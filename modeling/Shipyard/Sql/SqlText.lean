/-!
# Texts as the engine keeps them

The engine keeps a text as bytes. The texts it is given are UTF-8, but a text can be made of
any bytes: a blob cast to text keeps its bytes, and `char` writes each code point it is given
in the UTF-8 pattern, halves of surrogate pairs and all. Nothing checks such bytes. The text
functions step over them by a simple rule and read code points from them by another:

* a character is a byte below `0xc0` on its own, or a byte from `0xc0` up together with all
  the continuation bytes (`0x80` to `0xbf`) that follow it;
* the code point of a character of one byte below `0xc0` is that byte; otherwise it is the
  low bits of the first byte followed by six bits of each continuation byte (kept to 32
  bits), and a result below `0x80`, a surrogate, `U+FFFE` or `U+FFFF` reads as `U+FFFD`.

For valid UTF-8 both rules agree with UTF-8 itself.
-/
namespace Shipyard.Sql

/-- A text of SQL: its bytes. -/
structure SqlText where
  bytes : List UInt8
  deriving DecidableEq, Inhabited

namespace SqlText

/-- The text of a string, in UTF-8. -/
def ofString (s : String) : SqlText := ⟨s.toUTF8.toList⟩

instance : Coe String SqlText := ⟨ofString⟩

instance : Append SqlText := ⟨fun a b => ⟨a.bytes ++ b.bytes⟩⟩

/-- Whether a byte continues a character. -/
def isContinuationByte (b : UInt8) : Bool := b &&& 0xc0 == 0x80

/-- The characters of some bytes, each as its bytes: a byte below `0xc0` alone, any other
byte with the continuation bytes after it. -/
def chunksOf : List UInt8 → List (List UInt8)
  | [] => []
  | b :: rest =>
    if b < 0xc0 then [b] :: chunksOf rest
    else
      let tail := rest.takeWhile isContinuationByte
      (b :: tail) :: chunksOf (rest.drop tail.length)
termination_by bs => bs.length
decreasing_by
  all_goals first
    | exact Nat.lt_succ_self _
    | (rw [List.length_drop]; exact Nat.lt_of_le_of_lt (Nat.sub_le _ _) (Nat.lt_succ_self _))

/-- The characters of a text, each as its bytes. -/
def chunks (t : SqlText) : List (List UInt8) := chunksOf t.bytes

/-- The value of the first byte of a character of more than one byte, its marker bits taken
off: five bits for `0xc0` to `0xdf`, four for `0xe0` to `0xef`, three for `0xf0` to `0xf7`,
two for `0xf8` to `0xfb`, one for `0xfc` and `0xfd`, and none for `0xfe` and `0xff`. -/
def leadBits (b : UInt8) : Nat :=
  let k := b.toNat - 0xc0
  if k < 32 then k else if k < 48 then k - 32 else if k < 56 then k - 48
  else if k < 60 then k - 56 else if k < 62 then k - 60 else 0

/-- The code point of a character. -/
def codeOf : List UInt8 → Nat
  | [] => 0
  | b :: rest =>
    if b < 0xc0 then b.toNat
    else
      let c := rest.foldl (fun c x => (c * 64 + (x &&& 0x3f).toNat) % 4294967296) (leadBits b)
      if c < 0x80 || c &&& 0xFFFFF800 == 0xD800 || c &&& 0xFFFFFFFE == 0xFFFE then 0xFFFD else c

/-- The code points of a text. -/
def codes (t : SqlText) : List Nat := t.chunks.map codeOf

/-- A code point as a character; one beyond Unicode is `U+FFFD`. -/
def charOf (c : Nat) : Char :=
  if c < 0xD800 || (0xDFFF < c && c < 0x110000) then Char.ofNat c else '\uFFFD'

/-- The text as a string, each character as its code point. -/
def toString (t : SqlText) : String := String.ofList (t.codes.map charOf)

instance : ToString SqlText := ⟨toString⟩

/-- A code point written in the UTF-8 pattern, kept to 21 bits; surrogates are written like any
other code point. -/
def encode (code : Nat) : List UInt8 :=
  let c := code % 0x200000
  if c < 0x80 then [c.toUInt8]
  else if c < 0x800 then [(0xc0 + c / 64 % 32).toUInt8, (0x80 + c % 64).toUInt8]
  else if c < 0x10000 then
    [(0xe0 + c / 4096 % 16).toUInt8, (0x80 + c / 64 % 64).toUInt8, (0x80 + c % 64).toUInt8]
  else
    [(0xf0 + c / 262144 % 8).toUInt8, (0x80 + c / 4096 % 64).toUInt8,
      (0x80 + c / 64 % 64).toUInt8, (0x80 + c % 64).toUInt8]

/-- The text of code points. -/
def ofCodes (cs : List Nat) : SqlText := ⟨cs.flatMap encode⟩

/-- The text up to its first zero byte, where the functions that read a text as a string of C
stop. -/
def untilZero (t : SqlText) : SqlText := ⟨t.bytes.takeWhile (· != 0)⟩

/-- The number of characters before the first zero byte. -/
def length (t : SqlText) : Nat := t.untilZero.chunks.length

/-- The characters of a text as characters of Lean, one for each byte: enough for reading the
digits, signs and points of a number, which are all ASCII. -/
def asciiChars (t : SqlText) : List Char := t.bytes.map fun b => Char.ofNat b.toNat

/-- Whether the text is empty. -/
def isEmpty (t : SqlText) : Bool := t.bytes.isEmpty

end SqlText

end Shipyard.Sql
