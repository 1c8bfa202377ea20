import Shipyard.Crypto.Sha2
/-!
# Percent-encoding of URL components

A component keeps the unreserved characters (ASCII letters and digits, `-`, `_`, `.`, `~`) and
writes every other byte of its UTF-8 form as `%` and two upper-case hex digits.
-/
namespace Shipyard.Text

open Shipyard.Crypto

/-- Whether a byte is an unreserved character. -/
def isUnreserved (b : UInt8) : Bool :=
  (48 ≤ b && b ≤ 57) || (65 ≤ b && b ≤ 90) || (97 ≤ b && b ≤ 122) ||
    b == 45 || b == 95 || b == 46 || b == 126

/-- An upper-case hex digit. -/
def upperHexDigit (n : Nat) : Char := Char.ofNat (if n < 10 then 48 + n else 55 + n)

/-- The text a byte is written as. -/
def percentEncodeByte (b : UInt8) : List Char :=
  if isUnreserved b then [Char.ofNat b.toNat]
  else ['%', upperHexDigit (b.toNat / 16), upperHexDigit (b.toNat % 16)]

/-- A URL component, percent-encoded. -/
def percentEncode (s : String) : String :=
  String.ofList (s.toUTF8.toList.flatMap percentEncodeByte)

end Shipyard.Text
