import Shipyard.Decimal.Text
/-!
Quoting text for diagnostics.

`debugQuote` puts a string between double quotes the way diagnostics show user text: a
backslash, a double quote and the NUL, tab, carriage-return and line-feed characters get their
short escapes, and every character that does not print on its own (controls, separators other
than the space, format characters, private-use and unassigned code points, and combining marks
that would attach to the quote) is written `\u{hex}` with lower-case digits.
-/
namespace Shipyard.Text

/-- Inclusive code point ranges of characters that do not print on their own. -/
def silentRanges : List (Nat × Nat) :=
  [(0x0, 0x1F), (0x7F, 0xA0), (0xAD, 0xAD), (0x300, 0x36F), (0x378, 0x379), (0x380, 0x383),
   (0x483, 0x489), (0x591, 0x5BD), (0x5BF, 0x5BF), (0x5C1, 0x5C2), (0x5C4, 0x5C5), (0x5C7, 0x5C7),
   (0x600, 0x605), (0x610, 0x61A), (0x61C, 0x61C), (0x64B, 0x65F), (0x670, 0x670),
   (0x6D6, 0x6DD), (0x6DF, 0x6E4), (0x6E7, 0x6E8), (0x6EA, 0x6ED), (0x70F, 0x70F),
   (0x890, 0x891), (0x8E2, 0x8E2), (0x1680, 0x1680), (0x180B, 0x180F), (0x1AB0, 0x1AFF),
   (0x1DC0, 0x1DFF), (0x2000, 0x200F), (0x2028, 0x202F), (0x205F, 0x2064), (0x2066, 0x206F),
   (0x20D0, 0x20FF), (0x3000, 0x3000), (0x302A, 0x302F), (0x3099, 0x309A), (0xD800, 0xF8FF),
   (0xFDD0, 0xFDEF), (0xFE00, 0xFE0F), (0xFE20, 0xFE2F), (0xFEFF, 0xFEFF), (0xFFF0, 0xFFFB),
   (0xFFFE, 0xFFFF), (0x1FFFE, 0x1FFFF), (0x2FFFE, 0x2FFFF), (0x323B0, 0xDFFFF),
   (0xE0000, 0xE0FFF), (0xF0000, 0x10FFFF)]

/-- Whether a character prints on its own (outside the ranges above). -/
def prints (c : Char) : Bool :=
  !silentRanges.any fun (lo, hi) => lo ≤ c.toNat && c.toNat ≤ hi

/-- Lower-case hex digits of a number, without leading zeros. -/
def hexText (n : Nat) : String :=
  String.ofList ((Nat.toDigits 16 n).map Char.toLower)

/-- The escaped form of one character inside a quoted diagnostic. -/
def escapeChar (c : Char) : String :=
  if c = '\\' then "\\\\"
  else if c = '"' then "\\\""
  else if c = '\n' then "\\n"
  else if c = '\r' then "\\r"
  else if c = '\t' then "\\t"
  else if c.toNat = 0 then "\\0"
  else if prints c then c.toString
  else "\\u" ++ "\x7b" ++ hexText c.toNat ++ "\x7d"

/-- A string between double quotes, escaped as above. -/
def debugQuote (s : String) : String :=
  "\"" ++ String.join (s.toList.map escapeChar) ++ "\""

end Shipyard.Text
