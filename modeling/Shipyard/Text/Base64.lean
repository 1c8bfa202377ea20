import Shipyard.Crypto.Sha2
/-!
Base64 text of byte strings (RFC 4648), in the standard alphabet with `=` padding and in the
URL-safe alphabet without padding.

Reading is strict, and a refusal names the first fault in this order: a last lone character
that is not of the alphabet; then, scanning all groups of four but the last, the first
character that is not of the alphabet; then, in the last group, a misplaced `=` or a character
not of the alphabet; a last group of a single character (`invalid input length`); padding
where none is allowed, or padding that does not complete the group; and finally a last
character that leaves bits set beyond the bytes it encodes.
-/
namespace Shipyard.Text

open Shipyard.Crypto

/-- A Base64 alphabet and its padding rule. -/
structure Base64 where
  /-- The characters of the values 62 and 63. -/
  extra : Char × Char
  /-- Whether text is written with `=` padding and read with exactly the canonical padding. -/
  padded : Bool

def Base64.standard : Base64 := ⟨('+', '/'), true⟩

def Base64.urlSafe : Base64 := ⟨('-', '_'), false⟩

/-- Why a text is not Base64. -/
inductive Base64Error where
  | invalidByte (index : Nat) (byte : UInt8)
  | invalidLength (length : Nat)
  | invalidLastSymbol (index : Nat) (byte : UInt8)
  | invalidPadding
  deriving DecidableEq, Repr

def Base64Error.message : Base64Error → String
  | .invalidByte i b => "Invalid symbol " ++ toString b.toNat ++ ", offset " ++ toString i ++ "."
  | .invalidLength n => "Invalid input length: " ++ toString n
  | .invalidLastSymbol i b =>
    "Invalid last symbol " ++ toString b.toNat ++ ", offset " ++ toString i ++ "."
  | .invalidPadding => "Invalid padding"

namespace Base64

/-- The character of a six-bit value. -/
def symbol (a : Base64) (v : Nat) : Char :=
  if v < 26 then Char.ofNat ('A'.toNat + v)
  else if v < 52 then Char.ofNat ('a'.toNat + v - 26)
  else if v < 62 then Char.ofNat ('0'.toNat + v - 52)
  else if v == 62 then a.extra.1 else a.extra.2

/-- The six-bit value of a byte of text. -/
def value? (a : Base64) (b : UInt8) : Option Nat :=
  let n := b.toNat
  if 65 ≤ n && n ≤ 90 then some (n - 65)
  else if 97 ≤ n && n ≤ 122 then some (n - 97 + 26)
  else if 48 ≤ n && n ≤ 57 then some (n - 48 + 52)
  else if n == a.extra.1.toNat then some 62
  else if n == a.extra.2.toNat then some 63
  else none

/-- The text of bytes. -/
def encode (a : Base64) (bs : Bytes) : String :=
  let groups := (chunks 3 bs).filter (!·.isEmpty)
  String.join (groups.map fun g =>
    let n := ofBigEndian (g ++ List.replicate (3 - g.length) 0)
    let count := g.length + 1
    let syms := (List.range count).map fun k => a.symbol (n / Nat.pow 64 (3 - k) % 64)
    String.ofList syms ++ (if a.padded then String.ofList (List.replicate (4 - count) '=') else ""))

/-- The bytes of groups of four symbols, or the first byte that is not a symbol. -/
def quads (a : Base64) (start : Nat) (bs : Bytes) : Except Base64Error Bytes :=
  match (bs.zipIdx start).find? (fun (b, _) => (a.value? b).isNone) with
  | some (b, i) => .error (.invalidByte i b)
  | none =>
    let vals := bs.map fun b => (a.value? b).getD 0
    .ok ((chunks 4 vals).flatMap fun g => bigEndian 3 (g.foldl (fun acc v => acc * 64 + v) 0))

/-- The last group, from offset `start`: symbols, then padding. -/
def lastGroup (a : Base64) (start : Nat) (bs : Bytes) : Except Base64Error Bytes := do
  let pad : UInt8 := 61
  -- symbols and padding, placing each fault as the scan meets it
  let step := fun (acc : Except Base64Error (List Nat × Nat × Nat × UInt8)) (bi : UInt8 × Nat) =>
    acc.bind fun (vals, padCount, firstPad, last) =>
      let (b, k) := bi
      if b == pad then
        if k < 2 then .error (.invalidByte (start + k) b)
        else .ok (vals, padCount + 1, if padCount == 0 then k else firstPad, last)
      else if padCount > 0 then .error (.invalidByte (start + firstPad) pad)
      else match a.value? b with
        | none => .error (.invalidByte (start + k) b)
        | some v => .ok (vals ++ [v], padCount, firstPad, b)
  let (vals, padCount, _, last) ← (bs.zipIdx 0).foldl step (.ok ([], 0, 0, 0))
  if !bs.isEmpty && vals.length < 2 then throw (.invalidLength (start + vals.length))
  if a.padded then
    if (padCount + vals.length) % 4 != 0 then throw .invalidPadding
  else if padCount > 0 then throw .invalidPadding
  let count := vals.length * 6 / 8
  let n := (vals ++ List.replicate (4 - vals.length) 0).foldl (fun acc v => acc * 64 + v) 0
  if n % Nat.pow 2 (24 - count * 8) != 0 then
    throw (.invalidLastSymbol (start + vals.length - 1) last)
  return bigEndian count (n / Nat.pow 2 (24 - count * 8))

/-- The bytes a text writes. -/
def decode (a : Base64) (text : Bytes) : Except Base64Error Bytes := do
  let rem := text.length % 4
  if rem == 1 then
    match text.getLast? with
    | some b => if b != 61 && (a.value? b).isNone then throw (.invalidByte (text.length - 1) b)
    | none => pure ()
  let body := text.length - rem - (if rem == 0 then 4 else 0)
  let head ← a.quads 0 (text.take body)
  let tail ← a.lastGroup body (text.drop body)
  return head ++ tail

end Base64

end Shipyard.Text
