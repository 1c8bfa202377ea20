import Shipyard.Text.White
import Shipyard.Text.Base64
import Shipyard.Text.Utf8
/-!
# Values of settings

A duration is a count of seconds: ASCII digits (at most `2^64 - 1`), then nothing or `s`, or `m`,
`h` or `d` for minutes, hours or days; white space around it is dropped. Scaling is done in
64-bit words and wraps.

A key is given as PEM text (from `-----BEGIN` on) or as standard Base64 of a UTF-8 text.
-/
namespace Shipyard.Config

open Shipyard.Crypto
open Shipyard.Text

/-- Why a duration is refused. -/
inductive DurationError where
  /-- No count, or one beyond 64 bits. -/
  | badCount (text : String)
  | badUnit (text : String)
  deriving DecidableEq, Repr

def DurationError.message : DurationError → String
  | .badCount t => "invalid duration '" ++ t ++ "'"
  | .badUnit t => "invalid duration unit in '" ++ t ++ "'"

/-- The number an ASCII digit string writes. -/
def digitValue (ds : List Char) : Nat :=
  ds.foldl (fun acc c => acc * 10 + (c.toNat - 48)) 0

/-- A duration in seconds. -/
def parseDuration (value : String) : Except DurationError Nat := do
  let v := trimWhite value
  let cs := v.toList
  let isDigit (c : Char) : Bool := '0' ≤ c && c ≤ '9'
  let digits := cs.takeWhile isDigit
  let n := digitValue digits
  if digits.isEmpty || n ≥ Nat.pow 2 64 then throw (.badCount v)
  let scale ← match String.ofList (cs.dropWhile isDigit) with
    | "" | "s" => pure 1
    | "m" => pure 60
    | "h" => pure 3600
    | "d" => pure 86400
    | _ => throw (.badUnit v)
  return n * scale % Nat.pow 2 64

/-- Why a key cannot be read. -/
inductive KeyError where
  | empty
  | notBase64 (e : Base64Error)
  | notUtf8 (f : Utf8Fault)
  deriving DecidableEq, Repr

def KeyError.message : KeyError → String
  | .empty => "key is empty"
  | .notBase64 e => "Key is neither PEM, a file, nor base64: " ++ e.message
  | .notUtf8 f => "Decoded key is not UTF-8: " ++ f.message

/-- The PEM text of a key given inline or in Base64. -/
def loadKey (value : String) : Except KeyError String := do
  let v := trimWhite value
  if v.isEmpty then throw .empty
  if v.startsWith "-----BEGIN" then return v
  let bytes ← (Base64.standard.decode v.toUTF8.toList).mapError .notBase64
  (decodeUtf8 bytes).mapError .notUtf8

end Shipyard.Config
