import Shipyard.Crypto.Sha2
/-!
Hexadecimal text of byte strings: two lower-case digits per byte when written; either case is
read, and a text of odd length or with a character that is not a digit is refused.
-/
namespace Shipyard.Text

open Shipyard.Crypto

/-- The digit of a value below 16. -/
def hexDigit (n : Nat) : Char := Char.ofNat (if n < 10 then '0'.toNat + n else 'a'.toNat + n - 10)

/-- Lower-case hexadecimal text of bytes. -/
def hexOf (bs : Bytes) : String :=
  String.ofList (bs.flatMap fun b => [hexDigit (b.toNat / 16), hexDigit (b.toNat % 16)])

/-- The value of a hexadecimal digit of either case. -/
def hexValue? (c : Char) : Option Nat :=
  if '0' ≤ c && c ≤ '9' then some (c.toNat - '0'.toNat)
  else if 'a' ≤ c && c ≤ 'f' then some (c.toNat - 'a'.toNat + 10)
  else if 'A' ≤ c && c ≤ 'F' then some (c.toNat - 'A'.toNat + 10)
  else none

/-- The bytes of digit pairs. -/
def hexPairs : List Char → Option Bytes
  | [] => some []
  | [_] => none
  | a :: b :: rest => do
    let x ← hexValue? a
    let y ← hexValue? b
    let more ← hexPairs rest
    pure ((x * 16 + y).toUInt8 :: more)

/-- The bytes a hexadecimal text writes. -/
def bytesOfHex? (s : String) : Option Bytes := hexPairs s.toList

/-- The value of a group of two characters read as an unsigned base-16 numeral: two digits, or
a plus sign and one digit. -/
def signedPairValue? (a b : Char) : Option Nat :=
  if a == '+' then hexValue? b
  else do
    let x ← hexValue? a
    let y ← hexValue? b
    pure (x * 16 + y)

/-- The bytes of a text read two characters at a time, each group an unsigned base-16 numeral
that may carry a plus sign. -/
def numeralPairs : List Char → Option Bytes
  | [] => some []
  | [_] => none
  | a :: b :: rest => do
    let v ← signedPairValue? a b
    let more ← numeralPairs rest
    pure (v.toUInt8 :: more)

theorem hexPairs_nil : hexPairs [] = some [] := rfl

end Shipyard.Text
