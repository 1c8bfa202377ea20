import Shipyard.Json.Basic
import Shipyard.Decimal.Text
/-!
Compact JSON text.

Strings are quoted with `"`; a quote and a backslash are escaped, the control characters
below U+0020 are written `\b \t \n \f \r` or `\u00xx` in lower-case hex, and every other
character, `/` and non-ASCII included, stands as it is. Integers are written exactly, floats in
their shortest interchange spelling, and a float without digits (an infinity or NaN) as `null`.
-/
namespace Shipyard.Json

/-- Lower-case hex digit of a value below 16. -/
def hexDigit (n : Nat) : Char :=
  if n < 10 then Char.ofNat (48 + n) else Char.ofNat (87 + n)

/-- The escaped form of one character inside a quoted string. -/
def escapeChar (c : Char) : List Char :=
  if c = '"' then ['\\', '"']
  else if c = '\\' then ['\\', '\\']
  else if c.toNat < 0x20 then
    match c.toNat with
    | 0x08 => ['\\', 'b']
    | 0x09 => ['\\', 't']
    | 0x0A => ['\\', 'n']
    | 0x0C => ['\\', 'f']
    | 0x0D => ['\\', 'r']
    | n => ['\\', 'u', '0', '0', hexDigit (n / 16), hexDigit (n % 16)]
  else [c]

/-- A string as a quoted JSON string. -/
def quote (s : String) : String :=
  String.ofList ('"' :: (s.toList.flatMap escapeChar ++ ['"']))

/-- Text of a number. -/
def numberText : JsonNumber → String
  | .int i => Decimal.intText i
  | .float f => (Decimal.floatExponentText? f).getD "null"

mutual
/-- Compact text of a value, members in their stored order. -/
def render : Json → String
  | .null => "null"
  | .bool true => "true"
  | .bool false => "false"
  | .num n => numberText n
  | .str s => quote s
  | .arr xs => "[" ++ renderItems xs ++ "]"
  | .obj kvs => "\x7b" ++ renderFields kvs ++ "\x7d"

def renderItems : List Json → String
  | [] => ""
  | [x] => render x
  | x :: xs => render x ++ "," ++ renderItems xs

def renderFields : List (String × Json) → String
  | [] => ""
  | [(k, v)] => quote k ++ ":" ++ render v
  | (k, v) :: rest => quote k ++ ":" ++ render v ++ "," ++ renderFields rest
end

end Shipyard.Json
