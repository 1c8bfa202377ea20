/-!
Shortest decimal digits of a binary64 float.

A finite float `f` is `m * 2^e`. Every real strictly between `f` and its two neighbouring
floats rounds back to `f` when read, and so do the two midpoints when `m` is even (a tie goes
to the even mantissa). `shortest` looks for the fewest decimal digits that land in that
interval: for each count `n` from 1 to 17 it takes the two neighbours of `f` on the decimal
grid with `n` significant digits and keeps the nearer one that lands, an exact tie going to
the even digit string. The search is exact arithmetic on `Nat`.
-/
namespace Shipyard.Decimal

/-- A float taken apart: sign, and magnitude `mant * 2^exp`; `lowerGapHalf` marks the floats
whose lower neighbour is half as far away as the upper one. -/
structure Binary where
  negative : Bool
  mant : Nat
  exp : Int
  lowerGapHalf : Bool
  deriving Repr, DecidableEq

/-- What a float is: a finite value, an infinity, or not a number. -/
inductive Kind where
  | finite (b : Binary)
  | infinite (negative : Bool)
  | nan
  deriving Repr, DecidableEq

/-- Reads the IEEE 754 binary64 fields of a bit pattern. -/
def Kind.ofBits (bits : UInt64) : Kind :=
  let n : Nat := bits.toNat
  let negative : Bool := n / Nat.pow 2 63 % 2 == 1
  let biased : Nat := n / Nat.pow 2 52 % 2048
  let frac : Nat := n % Nat.pow 2 52
  if biased == 2047 then
    if frac == 0 then .infinite negative else .nan
  else if biased == 0 then
    .finite ⟨negative, frac, -1074, false⟩
  else
    .finite ⟨negative, frac + Nat.pow 2 52, (biased : Int) - 1075, frac == 0 && biased > 1⟩

/-- A decimal value `digits * 10^exp`. -/
structure Scientific where
  digits : Nat
  exp : Int
  deriving Repr, DecidableEq

/-- Number of decimal digits of `n` (one for zero). -/
def digitCount (n : Nat) : Nat :=
  if h : n < 10 then 1 else digitCount (n / 10) + 1
termination_by n
decreasing_by omega

/-- Drops trailing zero digits, moving them into the exponent. -/
def Scientific.trim (s : Scientific) : Scientific :=
  if h : s.digits ≠ 0 ∧ s.digits % 10 = 0 then
    Scientific.trim ⟨s.digits / 10, s.exp + 1⟩
  else s
termination_by s.digits
decreasing_by omega

/-- `a * 10^k` for an integer `k`, as a pair numerator over denominator. -/
def scaleTen (a : Nat) (k : Int) : Nat × Nat :=
  if 0 ≤ k then (a * Nat.pow 10 k.toNat, 1) else (a, Nat.pow 10 (-k).toNat)

/-- Exact rational interval around a finite positive float: value, lower and upper ends, all over
one common denominator. -/
structure Interval where
  value : Nat
  lower : Nat
  upper : Nat
  den : Nat
  inclusive : Bool

def Binary.interval (b : Binary) : Interval :=
  let mv := 4 * b.mant
  let mp := 4 * b.mant + 2
  let mm := if b.lowerGapHalf then 4 * b.mant - 1 else 4 * b.mant - 2
  let e := b.exp - 2
  let inclusive := b.mant % 2 == 0
  if 0 ≤ e then
    let s := Nat.pow 2 e.toNat
    ⟨mv * s, mm * s, mp * s, 1, inclusive⟩
  else
    ⟨mv, mm, mp, Nat.pow 2 (-e).toNat, inclusive⟩

/-- The decimal exponent `K` with `10^(K-1) ≤ num/den < 10^K`, for a positive fraction. -/
def decimalExponent (num den : Nat) : Int :=
  let guess : Int := (digitCount num : Int) - (digitCount den : Int)
  -- the guess is off by at most one in either direction
  let fits (k : Int) : Bool :=
    let (a, b) := scaleTen den (k - 1)
    let (c, d) := scaleTen den k
    -- den*10^(k-1) ≤ num and num < den*10^k, each side as a fraction a/b, c/d
    a ≤ num * b && num * d < c
  if fits (guess - 1) then guess - 1 else if fits guess then guess else guess + 1

/-- Whether `c * 10^q` lies in the interval. -/
def Interval.contains (iv : Interval) (c : Nat) (q : Int) : Bool :=
  let (a, b) := scaleTen c q
  -- compare a/b against lower/den and upper/den
  let x := a * iv.den
  let lo := iv.lower * b
  let hi := iv.upper * b
  if iv.inclusive then lo ≤ x && x ≤ hi else lo < x && x < hi

/-- Twice the distance from `c * 10^q` to the value, over a common denominator, for comparing
two candidates on the same grid. -/
def Interval.distance (iv : Interval) (c : Nat) (q : Int) : Nat :=
  let (a, b) := scaleTen c q
  let x := a * iv.den
  let v := iv.value * b
  if x ≤ v then v - x else x - v

/-- The candidate with `n` significant digits, if one lands in the interval. -/
def Interval.atDigits (iv : Interval) (k : Int) (n : Nat) : Option Scientific :=
  let q := k - n
  -- floor of value / 10^q
  let (a, b) := scaleTen 1 q
  let low := iv.value * b / (iv.den * a)
  let high := low + 1
  let lowIn := iv.contains low q
  let highIn := iv.contains high q
  match lowIn, highIn with
  | true, true =>
    let dl := iv.distance low q
    let dh := iv.distance high q
    if dl < dh then some ⟨low, q⟩
    else if dh < dl then some ⟨high, q⟩
    else if low % 2 == 0 then some ⟨low, q⟩ else some ⟨high, q⟩
  | true, false => some ⟨low, q⟩
  | false, true => some ⟨high, q⟩
  | false, false => none

/-- Tries digit counts `n`, `n+1`, … up to 17. -/
def Interval.search (iv : Interval) (k : Int) : Nat → Nat → Option Scientific
  | 0, _ => none
  | fuel + 1, n =>
    match iv.atDigits k n with
    | some s => some s
    | none => iv.search k fuel (n + 1)

/-- Fewest significant digits that read back as the float, the nearer of two on a tie; zero for
a zero. -/
def Binary.shortest (b : Binary) : Scientific :=
  if b.mant = 0 then ⟨0, 0⟩ else
  let iv := b.interval
  let k := decimalExponent iv.value iv.den
  match iv.search k 17 1 with
  | some s => s.trim
  | none => ⟨iv.value / iv.den, 0⟩

end Shipyard.Decimal
