import Shipyard.Decimal.Shortest
/-!
Two spellings of a float's shortest digits.

`exponentText` is the data-interchange spelling: positional while the decimal point falls
within sixteen places of the first digit, with `.0` on whole numbers, and `d.ddde±<k>` beyond.
`positionalText` never uses an exponent and writes whole numbers without a point; it is the
spelling of floats inside diagnostic messages.
-/
namespace Shipyard.Decimal

/-- `n` zero digits. -/
def zeros (n : Nat) : String := String.ofList (List.replicate n '0')

/-- Decimal digits of a natural number. -/
def natText (n : Nat) : String := String.ofList (Nat.toDigits 10 n)

/-- The number that a non-empty run of ASCII digits writes. -/
def natOf? (ds : List Char) : Option Nat :=
  if !ds.isEmpty && ds.all (fun c => '0' ≤ c && c ≤ '9') then
    some (ds.foldl (fun acc c => acc * 10 + (c.toNat - 48)) 0)
  else none

/-- Decimal text of an integer, with a leading minus when negative. -/
def intText (i : Int) : String :=
  if i < 0 then "-" ++ natText i.natAbs else natText i.natAbs

/-- Inserts a point after the first `k` characters of `s`. -/
def pointAt (s : String) (k : Nat) : String :=
  String.ofList (s.toList.take k) ++ "." ++ String.ofList (s.toList.drop k)

/-- The exponent of the interchange spelling: `e`, its sign (also `+`), its digits. -/
def exponentMark (e : Int) : String := if e < 0 then "e" ++ intText e else "e+" ++ intText e

/-- Interchange spelling of a positive decimal `digits * 10^exp` with no trailing zero digit. -/
def Scientific.exponentText (s : Scientific) : String :=
  let ds := natText s.digits
  let len : Int := ds.length
  let kk := len + s.exp
  if 0 ≤ s.exp ∧ kk ≤ 16 then ds ++ zeros s.exp.toNat ++ ".0"
  else if 0 < kk ∧ kk ≤ 16 then pointAt ds kk.toNat
  else if -5 < kk ∧ kk ≤ 0 then "0." ++ zeros (-kk).toNat ++ ds
  else if len = 1 then ds ++ exponentMark (kk - 1)
  else pointAt ds 1 ++ exponentMark (kk - 1)

/-- Positional spelling of a positive decimal, without a point when it is whole. -/
def Scientific.positionalText (s : Scientific) : String :=
  let ds := natText s.digits
  let len : Int := ds.length
  let kk := len + s.exp
  if 0 ≤ s.exp then ds ++ zeros s.exp.toNat
  else if 0 < kk then pointAt ds kk.toNat
  else "0." ++ zeros (-kk).toNat ++ ds

/-- Interchange spelling of a float; `none` for the infinities and NaN, which have none. -/
def floatExponentText? (f : Float) : Option String :=
  match Kind.ofBits f.toBits with
  | .finite b =>
    let sign := if b.negative then "-" else ""
    if b.mant = 0 then some (sign ++ "0.0") else some (sign ++ b.shortest.exponentText)
  | _ => none

/-- Interchange spelling, with `inf`, `-inf` and `NaN` for the values that have no digits. -/
def floatExponentText (f : Float) : String :=
  match Kind.ofBits f.toBits with
  | .finite _ => (floatExponentText? f).getD ""
  | .infinite neg => if neg then "-inf" else "inf"
  | .nan => "NaN"

/-- Positional spelling of a float, as diagnostics write it. -/
def floatPositionalText (f : Float) : String :=
  match Kind.ofBits f.toBits with
  | .finite b =>
    let sign := if b.negative then "-" else ""
    if b.mant = 0 then sign ++ "0" else sign ++ b.shortest.positionalText
  | .infinite neg => if neg then "-inf" else "inf"
  | .nan => "NaN"

/-- Positional spelling that always shows a point: whole numbers gain `.0`. -/
def floatPointText (f : Float) : String :=
  let t := floatPositionalText f
  match Kind.ofBits f.toBits with
  | .finite _ => if t.toList.contains '.' then t else t ++ ".0"
  | _ => t

end Shipyard.Decimal
