import Shipyard.Json.Reader
/-!
# Registered claims

Validation looks at five claims of a token: `exp` and `nbf` (times in whole seconds), `sub`,
`iss` and `aud`. They are read from the claims text a second time, each leniently: a claim
that has the wrong form counts as unreadable instead of failing, and a claim written `null`
counts as absent.

The reading is streaming, and leniency stops where the stream does. A time that is a list or an
object is refused as soon as its bracket is read: an empty one is passed over whole, but the
members of any other are then met where the next claim was expected, which fails. A subject
that is a list or an object is refused before its bracket is read, with the same effect, empty
or not. Issuer and audience are read whole first, so any value passes over cleanly. A claim
named twice fails.
-/
namespace Shipyard.Token

open Shipyard.Json
open Shipyard.Json.Reader

/-- How a registered claim was found. -/
inductive Reading (α : Type) where
  | parsed (a : α)
  | unreadable
  | absent
  deriving DecidableEq, Repr

def Reading.isParsed {α : Type} : Reading α → Bool
  | .parsed _ => true
  | _ => false

/-- The registered claims of a token. -/
structure Registered where
  exp : Reading Nat := .absent
  nbf : Reading Nat := .absent
  sub : Reading String := .absent
  /-- The issuer, one name or several. -/
  iss : Reading (List String) := .absent
  /-- The audience, one name or several. -/
  aud : Reading (List String) := .absent
  deriving Repr

namespace Registered

/-- The names of the registered claims. -/
def names : List String := ["exp", "nbf", "sub", "iss", "aud"]

/-- The largest 64-bit unsigned integer as a binary64 float, which rounds it up to `2^64`. -/
def timeBound : Float := 18446744073709551616.0

/-- A time in whole seconds: a non-negative integer, or a finite non-negative float below
`2^64` rounded half away from zero. -/
def timeOf : Json → Reading Nat
  | .num (.int i) => if 0 ≤ i then .parsed i.toNat else .unreadable
  | .num (.float f) =>
    if f.isFinite && f ≥ 0 && f < timeBound then .parsed f.round.toUInt64.toNat else .unreadable
  | _ => .unreadable

/-- One name or a list of names. -/
def namesOf : Json → Reading (List String)
  | .str s => .parsed [s]
  | .arr items =>
    match items.mapM Json.str? with
    | some ss => .parsed ss
    | none => .unreadable
  | _ => .unreadable

/-- A time claim's value. -/
def time (fuel : Nat) : ReadM (Reading Nat) := do
  match ← blanks with
  | some 91 =>
    eat
    match ← blanks with
    | some 93 => eat
    | some 44 => eat
    | _ => pure ()
    return .unreadable
  | some 123 =>
    eat
    match ← blanks with
    | some 125 => eat
    | _ => pure ()
    return .unreadable
  | _ => return timeOf (← anyValue fuel)

/-- The subject's value. -/
def subject (fuel : Nat) : ReadM (Reading String) := do
  match ← blanks with
  | some 110 => eat; ident identNull; return .absent
  | some 34 => eat; return .parsed (← stringText)
  | some 91 => return .unreadable
  | some 123 => return .unreadable
  | _ => let _ ← anyValue fuel; return .unreadable

/-- An issuer's or audience's value. -/
def nameList (fuel : Nat) : ReadM (Reading (List String)) := do
  match ← blanks with
  | some 110 => eat; ident identNull; return .absent
  | _ => return namesOf (← anyValue fuel)

/-- Sets the claim `k` from the stream. -/
def readClaim (fuel : Nat) (r : Registered) (k : String) : ReadM Registered := do
  match k with
  | "exp" => return { r with exp := ← time fuel }
  | "nbf" => return { r with nbf := ← time fuel }
  | "sub" => return { r with sub := ← subject fuel }
  | "iss" => return { r with iss := ← nameList fuel }
  | _ => return { r with aud := ← nameList fuel }

/-- The members of the claims object, after its `{`. -/
def members (fuel : Nat) (first : Bool) (r : Registered) (seen : List String) :
    ReadM Registered := do
  match fuel with
  | 0 => failHere msgRecursion
  | fuel + 1 =>
    match ← nextKey first with
    | none => return r
    | some k =>
      if names.contains k then
        if seen.contains k then throw ⟨Mismatch.duplicateField k, none⟩
        colon
        let r ← readClaim fuel r k
        members fuel false r (k :: seen)
      else
        colon
        skipValue (fuel + 1)
        members fuel false r seen

/-- The registered claims of a claims text. -/
def read (bs : ByteArray) : Except String Registered :=
  let prog : ReadM Registered := do
    let r ← fixPosition do
      match ← blanks with
      | none => failPeek msgEofValue
      | some 123 =>
        enter; eat
        let r ← thenClose (members (4 * bs.size + 64) true {} []) closeObject
        leave
        return r
      | some _ => wrongKind "a map"
    match ← blanks with
    | none => return r
    | some _ => failPeek msgTrailingCharacters
  match ((prog.run bs).run.run ⟨0, 128⟩).1 with
  | .ok r => .ok r
  | .error e => .error (e.render bs)

end Registered

end Shipyard.Token
