import Shipyard.Crypto.Sha2
import Shipyard.Decimal.Text
/-!
# Validating UTF-8

Bytes are read one character at a time. A first byte fixes the width (`C2`–`DF` two bytes,
`E0`–`EF` three, `F0`–`F4` four); the second byte's range depends on the first (no overlong
forms, no surrogates, nothing above `U+10FFFF`) and every later byte is a continuation byte
(`80`–`BF`). The first fault is reported with the number of valid bytes before the character,
and either the length of the bad sequence or, when the bytes end inside a character, none.
-/
namespace Shipyard.Text

open Shipyard.Crypto

/-- Where bytes stop being UTF-8: the valid prefix's length, and the length of the bad
sequence (`none` when the bytes end in the middle of a character). -/
structure Utf8Fault where
  validUpTo : Nat
  errorLength : Option Nat
  deriving DecidableEq, Repr

def Utf8Fault.message (f : Utf8Fault) : String :=
  match f.errorLength with
  | some n => "invalid utf-8 sequence of " ++ Decimal.natText n ++ " bytes from index " ++
      Decimal.natText f.validUpTo
  | none => "incomplete utf-8 byte sequence from index " ++ Decimal.natText f.validUpTo

/-- Whether a byte continues a character. -/
def isContinuation (b : UInt8) : Bool := 0x80 ≤ b && b ≤ 0xBF

/-- The range the second byte of a character must fall in, and the character's width. -/
def secondRange (first : UInt8) : Option (UInt8 × UInt8 × Nat) :=
  if 0xC2 ≤ first && first ≤ 0xDF then some (0x80, 0xBF, 2)
  else if first == 0xE0 then some (0xA0, 0xBF, 3)
  else if 0xE1 ≤ first && first ≤ 0xEC then some (0x80, 0xBF, 3)
  else if first == 0xED then some (0x80, 0x9F, 3)
  else if 0xEE ≤ first && first ≤ 0xEF then some (0x80, 0xBF, 3)
  else if first == 0xF0 then some (0x90, 0xBF, 4)
  else if 0xF1 ≤ first && first ≤ 0xF3 then some (0x80, 0xBF, 4)
  else if first == 0xF4 then some (0x80, 0x8F, 4)
  else none

/-- The continuation bytes after the second one: how many of `need` are there, as the length of
the bad sequence if one is not a continuation, `none` if the bytes end. -/
def continuations (seen : Nat) : Nat → Bytes → Option (Option Nat)
  | 0, _ => some none
  | _ + 1, [] => none
  | k + 1, b :: rest => if isContinuation b then continuations (seen + 1) k rest else some (some seen)

/-- The first fault of bytes, counting from `offset`. -/
def utf8Fault? (offset : Nat) : Bytes → Option Utf8Fault
  | [] => none
  | first :: rest =>
    if first < 0x80 then utf8Fault? (offset + 1) rest
    else
      match secondRange first with
      | none => some ⟨offset, some 1⟩
      | some (lo, hi, width) =>
        match rest with
        | [] => some ⟨offset, none⟩
        | second :: more =>
          if !(lo ≤ second && second ≤ hi) then some ⟨offset, some 1⟩
          else
            match continuations 2 (width - 2) more with
            | none => some ⟨offset, none⟩
            | some (some n) => some ⟨offset, some n⟩
            | some none => utf8Fault? (offset + width) (more.drop (width - 2))
termination_by bs => bs.length
decreasing_by all_goals (simp_wf; try omega)

/-- The text bytes write, or where they stop being UTF-8. -/
def decodeUtf8 (bs : Bytes) : Except Utf8Fault String :=
  match utf8Fault? 0 bs with
  | some f => .error f
  | none => .ok ((String.fromUTF8? (ByteArray.mk bs.toArray)).getD "")

/-- The characters of bytes, each maximal ill-formed part written as U+FFFD; `fuel` bounds the
faults, and each fault takes at least one byte. -/
def lossyChars : Nat → Bytes → List Char
  | 0, _ => []
  | fuel + 1, bs =>
    let valid (part : Bytes) : List Char :=
      ((String.fromUTF8? (ByteArray.mk part.toArray)).getD "").toList
    match utf8Fault? 0 bs with
    | none => valid bs
    | some f =>
      valid (bs.take f.validUpTo) ++ '\uFFFD' ::
        match f.errorLength with
        | none => []
        | some n => lossyChars fuel (bs.drop (f.validUpTo + n))

/-- The text bytes write, each maximal ill-formed part written as U+FFFD. -/
def lossyUtf8 (bs : Bytes) : String := String.ofList (lossyChars (bs.length + 1) bs)

end Shipyard.Text
