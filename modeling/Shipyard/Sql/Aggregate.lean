import Shipyard.Sql.Value
import Shipyard.Sql.Error
/-!
# Aggregate functions

An aggregate folds the values that its arguments take over the rows of a group. Nulls are passed
over, and with `DISTINCT` a value equal to one already seen is too.

A sum is kept exactly while every value is an integer and the total stays within 64 bits. A
value that is not an integer (a text reads as one if it wholly is) turns it into a real sum kept
with a running error term: each step adds to the error what rounding lost in the addition (the
Kahan-Babuska-Neumaier scheme), and the result is the sum corrected by the error. An integer
sum that overflows goes over to a real sum as well, but is reported as an overflow unless a
value that is not an integer comes after it.
-/
namespace Shipyard.Sql

/-- A running sum: how many values it took, the exact integer sum while there is one, and the
real sum with its error term once there is not. -/
structure Summation where
  count : Nat := 0
  exact : Int := 0
  approx : Bool := false
  overflow : Bool := false
  sum : Float := 0
  err : Float := 0
  deriving Inhabited

namespace Summation

/-- The least magnitude from which an integer may not be exact as a real: 2^52. -/
def wideInt : Int := 4503599627370496

/-- One compensated step: adds `r` to the sum and what rounding lost to the error. -/
def step (s : Summation) (r : Float) : Summation :=
  let t := s.sum + r
  let lost := if s.sum.abs > r.abs then (s.sum - t) + r else (r - t) + s.sum
  { s with sum := t, err := s.err + lost }

/-- Adds an integer; one too wide to be exact as a real is added in two parts, the rest of a
division by 16384 last. -/
def stepInt (s : Summation) (i : Int) : Summation :=
  if i ≤ -wideInt || i ≥ wideInt then
    let small := i.tmod 16384
    (s.step (Float.ofInt (i - small))).step (Float.ofInt small)
  else s.step (Float.ofInt i)

/-- Goes over to a real sum, starting from the exact sum so far. -/
def toApprox (s : Summation) : Summation :=
  let i := s.exact
  if i ≤ -wideInt || i ≥ wideInt then
    let small := i.tmod 16384
    { s with approx := true, sum := Float.ofInt (i - small), err := Float.ofInt small }
  else { s with approx := true, sum := Float.ofInt i, err := 0 }

/-- Adds one value; a null is passed over. -/
def add (s : Summation) (v : Value) : Summation :=
  match v.numeric with
  | .null => s
  | .integer i =>
    let s := { s with count := s.count + 1 }
    if s.approx then s.stepInt i
    else if fitsInt (s.exact + i) then { s with exact := s.exact + i }
    else { s.toApprox with overflow := true }.stepInt i
  | n =>
    let s := { s with count := s.count + 1 }
    if s.approx then { s with overflow := false }.step n.toReal
    else s.toApprox.step n.toReal

/-- The real value of a sum: corrected by its error unless the error is not a finite
number. -/
def real (s : Summation) : Float :=
  if !s.approx then Float.ofInt s.exact
  else if s.err.isNaN || s.err.isInf then s.sum
  else s.sum + s.err

/-- `sum`: null for no values, an integer while the sum is exact. -/
def result (s : Summation) : Except SqlError Value :=
  if s.count == 0 then pure .null
  else if !s.approx then pure (.integer s.exact)
  else if s.overflow then throw (.plain "integer overflow")
  else pure (.real s.real)

end Summation

/-- The bytes of a value's text as `group_concat` joins it, none for null. -/
def concatText (v : Value) : List UInt8 := v.textBytes

/-- `group_concat`: the texts of the values, each after the first preceded by the separator of
its own row (its second argument, a comma when there is none). -/
def groupConcat : List (List Value) → Value
  | [] => .null
  | first :: rest =>
    let sep (r : List Value) : List UInt8 := match r with
      | _ :: s :: _ => concatText s
      | _ => [44]
    .text ⟨concatText (first.head?.getD .null) ++
      (rest.map fun r => sep r ++ concatText (r.head?.getD .null)).flatten⟩

/-- Folds an aggregate over the argument values of the rows of a group. The collation is the
first argument's: `DISTINCT` keeps the first of the values it counts as equal, and `min` and
`max` compare under it. -/
def foldAggregate (name : String) (coll : Collation) (distinct star : Bool)
    (args : List (List Value)) : Except SqlError Value := do
  let firstOf (a : List Value) : Value := a.head?.getD .null
  let present := args.filter fun a => !(firstOf a).isNull
  let rows := if distinct then present.foldl (fun acc a =>
      if acc.any fun b => Value.same coll (firstOf a) (firstOf b) then acc else acc ++ [a]) []
    else present
  let vals := rows.map firstOf
  let summed := vals.foldl Summation.add {}
  match name.toLower with
  | "count" => pure (.integer (if star || args.all (·.isEmpty) then args.length else vals.length))
  | "sum" => summed.result
  | "total" => pure (.real summed.real)
  | "avg" =>
    if summed.count == 0 then pure .null
    else pure (.real (summed.real / Float.ofNat summed.count))
  | "min" => pure (match vals with
    | [] => .null
    | v :: rest => rest.foldl (fun b x => if Value.compare coll x b == .lt then x else b) v)
  | "max" => pure (match vals with
    | [] => .null
    | v :: rest => rest.foldl (fun b x => if Value.compare coll x b == .gt then x else b) v)
  | "group_concat" | "string_agg" => pure (groupConcat rows)
  | _ => pure .null

end Shipyard.Sql
