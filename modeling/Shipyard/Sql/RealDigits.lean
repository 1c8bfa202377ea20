import Shipyard.Decimal.Shortest
/-!
# The decimal digits of reals, both ways

The engine writes a real by scaling it by powers of ten, in the 80-bit extended format of the
machine's floating point unit, until it holds 17 to 19 digits before its point; those digits,
cut toward zero, are the real's digits, rounded half up where a format asks for fewer. The
extended format is modelled exactly: a value is a 64-bit significand and a binary exponent,
and each product is rounded to 64 bits, to nearest with ties to even.

The engine reads a real from text as a 64-bit decimal significand and a power of ten. It
scales the significand by pairs of doubles, whose second part holds what rounding took from
the first (Dekker's double-length products), so that the result is close to the correctly
rounded one.
-/
namespace Shipyard.Sql

/-- A positive number of the 80-bit extended format: `mant * 2^exp`, the significand of 64
bits (its top bit set). -/
structure Extended where
  mant : Nat
  exp : Int
  deriving Inhabited

namespace Extended

/-- `m * 2^e` for a positive `m` below `2^64`, its significand shifted up to 64 bits. -/
def widen (m : Nat) (e : Int) : Extended :=
  let shift := 64 - (Nat.log2 m + 1)
  ⟨m <<< shift, e - shift⟩

/-- The significand of `bits` bits nearest to `num / den * 2^e` (ties to even), for positive
`num` and `den`, with its binary exponent. -/
def roundRatio (bits num den : Nat) (e : Int) : Nat × Int :=
  -- scale the numerator so that the quotient has at least two bits more than kept
  let lift := bits + 2 + Nat.log2 den
  let q := (num <<< lift) / den
  let rest := (num <<< lift) % den
  let drop := Nat.log2 q + 1 - bits
  let kept := q >>> drop
  let low := q - (kept <<< drop)
  let half := 1 <<< (drop - 1)
  let up := low > half || (low == half && (rest != 0 || kept % 2 == 1))
  let kept := if up then kept + 1 else kept
  let e := e - lift + drop
  if kept == Nat.pow 2 bits then (Nat.pow 2 (bits - 1), e + 1) else (kept, e)

/-- The extended number nearest to `num / den * 2^e` (ties to even). -/
def ofRatio (num den : Nat) (e : Int) : Extended :=
  let (m, x) := roundRatio 64 num den e
  ⟨m, x⟩

/-- The extended number nearest to `m * 2^e`. -/
def ofNat (m : Nat) (e : Int) : Extended :=
  if Nat.log2 m < 64 then widen m e else ofRatio m 1 e

/-- A positive finite double, exactly. -/
def ofFloat (r : Float) : Extended :=
  match Decimal.Kind.ofBits r.toBits with
  | .finite b => if b.mant == 0 then ⟨0, 0⟩ else widen b.mant b.exp
  | _ => ⟨0, 0⟩

/-- The extended number nearest to `10^k`, as a constant such as `1.0e-100L` is compiled. -/
def powTen (k : Int) : Extended :=
  if 0 ≤ k then ofNat (Nat.pow 10 k.toNat) 0 else ofRatio 1 (Nat.pow 10 k.natAbs) 0

/-- A product, rounded to nearest with ties to even. -/
def mul (a b : Extended) : Extended := ofNat (a.mant * b.mant) (a.exp + b.exp)

/-- Whether `a ≥ b`, for positive numbers. -/
def ge (a b : Extended) : Bool := a.exp > b.exp || (a.exp == b.exp && a.mant ≥ b.mant)

/-- The integer part, cut toward zero. -/
def truncate (a : Extended) : Nat :=
  if 0 ≤ a.exp then a.mant <<< a.exp.toNat else a.mant >>> a.exp.natAbs

end Extended

/-- Multiplies by a power of ten while a bound holds, counting the steps: the loops that bring
a real's digits before its point. -/
def scaleWhile (test : Extended → Bool) (factor : Extended) (step : Int) :
    Nat → Extended × Int → Extended × Int
  | 0, acc => acc
  | fuel + 1, (x, e) => if test x then scaleWhile test factor step fuel (x.mul factor, e + step)
    else (x, e)

/-- A real's digits as the engine decodes it for printing: its sign, its significant digits
(no trailing zeros), where its point stands (the digits before it, negative when zeros come
first), and whether it is infinite (`1`) or not a number (`2`). -/
structure RealDigits where
  negative : Bool := false
  digits : List Nat := []
  point : Int := 0
  special : Nat := 0
  deriving Inhabited

/-- The digits of a positive finite real, scaled to 17 to 19 digits and cut toward zero, with
the power of ten they were scaled by. -/
def scaledDigits (r : Float) : Nat × Int :=
  let x := Extended.ofFloat r
  let ten := Extended.powTen
  let (x, e) :=
    if x.ge (ten 19) then
      let a := scaleWhile (fun x => x.ge (ten 119)) (ten (-100)) 100 400 (x, 0)
      let a := scaleWhile (fun x => x.ge (ten 29)) (ten (-10)) 10 400 a
      scaleWhile (fun x => x.ge (ten 19)) (ten (-1)) 1 400 a
    else
      let a := scaleWhile (fun x => !x.ge (ten (-97))) (ten 100) (-100) 400 (x, 0)
      let a := scaleWhile (fun x => !x.ge (ten 7)) (ten 10) (-10) 400 a
      scaleWhile (fun x => !x.ge (ten 17)) (ten 1) (-1) 400 a
  (x.truncate, e)

/-- The decimal digits of a number, the first first. -/
def natDigits (n : Nat) : List Nat := (Nat.toDigits 10 n).map fun c => c.toNat - 48

/-- Adds one to a list of digits at its last place, carrying; a carry out of the first digit
gives a new first digit and says so. -/
def bumpLast (ds : List Nat) : List Nat × Bool :=
  let (out, carry) := ds.foldr (fun d (acc, carry) =>
    if carry then (if d == 9 then (0 :: acc, true) else ((d + 1) :: acc, false))
    else (d :: acc, false)) ([], true)
  if carry then (1 :: out, true) else (out, false)

/-- Drops the zeros that end a list of digits. -/
def trimZeros (ds : List Nat) : List Nat := (ds.reverse.dropWhile (· == 0)).reverse

/-- The digits of a real for printing, rounded half up: to `round` significant digits when
it is positive, to `-round` places after the point when it is not, and to at most `most`
digits in any case. -/
def decodeReal (r : Float) (round : Int) (most : Nat) : RealDigits :=
  if r.isNaN then { special := 2 } else
  let negative := r < 0
  let r := if negative then -r else r
  if r == 0 then { digits := [0], point := 1 } else
  if r.isInf then { negative, special := 1 } else
  let (v, e) := scaledDigits r
  let ds := natDigits v
  let point : Int := ds.length + e
  -- rounding to places after the point may first need a leading zero to round into
  let (ds, point, round) : List Nat × Int × Int :=
    if round ≤ 0 then
      let round := point - round
      if round == 0 && (ds.head?.getD 0) ≥ 5 then (0 :: ds, point + 1, 1) else (ds, point, round)
    else (ds, point, round)
  let (ds, point) :=
    if round > 0 && (round < ds.length || ds.length > most) then
      let keep := (min round most).toNat
      let next := ds[keep]?.getD 0
      let kept := ds.take keep
      if next ≥ 5 then
        let (bumped, grew) := bumpLast kept
        (bumped, if grew then point + 1 else point)
      else (kept, point)
    else (ds, point)
  { negative, digits := trimZeros ds, point }

/-! ## Reading a real -/

/-- The high half of a double: its significand with the low 26 bits cleared. -/
def highHalf (x : Float) : Float := Float.ofBits (x.toBits &&& 0xfffffffffc000000)

/-- Multiplies a double-length number `(hi, lo)` by `y + yy`, where `yy` is the error of the
double `y` as a power of ten, keeping the product double-length. -/
def dekkerMul (x : Float × Float) (y yy : Float) : Float × Float :=
  let hx := highHalf x.1
  let tx := x.1 - hx
  let hy := highHalf y
  let ty := y - hy
  let p := hx * hy
  let q := hx * ty + tx * hy
  let c := p + q
  let cc := p - c + q + tx * ty
  let cc := x.1 * yy + x.2 * y + cc
  let hi := c + cc
  let lo := c - hi
  (hi, lo + cc)

/-- The double nearest to `num / den` (ties to even), for a quotient in the normal range: the
constants of the double-length products, as a compiler reads their decimal text. -/
def floatOfRatio (num den : Nat) : Float :=
  let (kept, exp) := Extended.roundRatio 53 num den 0
  -- the value is kept * 2^exp with 2^52 <= kept < 2^53
  let biased := exp + 52 + 1023
  Float.ofBits ((biased.toNat <<< 52 ||| (kept - Nat.pow 2 52)).toUInt64)

/-- The double nearest to `digits * 10^k`. -/
def decimalFloat (digits : Nat) (k : Int) : Float :=
  if 0 ≤ k then floatOfRatio (digits * Nat.pow 10 k.toNat) 1
  else floatOfRatio digits (Nat.pow 10 k.natAbs)

/-- Repeats a double-length product while an exponent stays at or beyond a step. -/
def dekkerRepeat (y yy : Float) (step : Int) : Nat → (Float × Float) × Int → (Float × Float) × Int
  | 0, acc => acc
  | fuel + 1, (x, e) =>
    if (step > 0 && e ≥ step) || (step < 0 && e ≤ step) then
      dekkerRepeat y yy step fuel (dekkerMul x y yy, e - step)
    else (x, e)

/-- The largest significand that may take one more decimal digit while a text is read. -/
def significandLimit : Nat := 1844674407370955160

/-- The real that a decimal significand and a power of ten stand for, as the engine computes
it: the significand made as long as 64 bits allow, then multiplied in double-length
arithmetic by powers of ten. An overflow is infinite. -/
def realOfDecimal (s : Nat) (e : Int) : Float :=
  if s == 0 then 0 else
  -- lengthen the significand while the exponent is positive, shorten it while it ends in 0
  let rec grow : Nat → Nat × Int → Nat × Int
    | 0, acc => acc
    | fuel + 1, (s, e) =>
      if e > 0 && s < 1844674407370954956 then grow fuel (s * 10, e - 1) else (s, e)
  let rec shrink : Nat → Nat × Int → Nat × Int
    | 0, acc => acc
    | fuel + 1, (s, e) => if e < 0 && s % 10 == 0 then shrink fuel (s / 10, e + 1) else (s, e)
  let (s, e) := shrink 400 (grow 400 (s, e))
  let hi := s.toUInt64.toFloat
  let lo : Float :=
    if hi ≤ 18446744073709549568.0 then
      let s2 := hi.toUInt64.toNat
      if s ≥ s2 then Float.ofNat (s - s2) else -(Float.ofNat (s2 - s))
    else 0
  let ((hi, lo), _) :=
    if e > 0 then
      let a := dekkerRepeat (decimalFloat 1 100) (-decimalFloat 15902891109759918046 64) 100 400
        ((hi, lo), e)
      let a := dekkerRepeat (decimalFloat 1 10) 0 10 400 a
      dekkerRepeat 10 0 1 400 a
    else
      let a := dekkerRepeat (decimalFloat 1 (-100)) (-decimalFloat 199918998026028836196 (-137))
        (-100) 400 ((hi, lo), e)
      let a := dekkerRepeat (decimalFloat 1 (-10)) (-decimalFloat 36432197315497741579 (-46))
        (-10) 400 a
      dekkerRepeat (decimalFloat 1 (-1)) (-decimalFloat 55511151231257827021 (-37)) (-1) 400 a
  let r := hi + lo
  if r.isNaN then (1e300 : Float) * 1e300 else r

/-- The significand and the power of ten that the digits of a decimal number give, as the
engine reads them: digits are taken while the significand has room, digits before the point
beyond that raise the power, and digits after it beyond that are dropped. -/
def decimalParts (whole frac : List Char) (exponent : Int) : Nat × Int :=
  let digit (c : Char) : Nat := c.toNat - 48
  -- digits before the point: once the significand is full, the rest only move the point
  let (s, shift, _) := whole.foldl (fun (s, shift, full) c =>
    if full then (s, shift + 1, true)
    else
      let s := s * 10 + digit c
      (s, shift, s ≥ significandLimit)) ((0 : Nat), (0 : Int), false)
  let (s, shift) := frac.foldl (fun (s, shift) c =>
    if s < significandLimit then (s * 10 + digit c, shift - 1) else (s, shift)) (s, shift)
  (s, exponent + shift)

/-! ## Writing a real -/

/-- The flags and sizes of one conversion of a format: `-` (left justify), `+` or a blank (the
sign of a positive number), `#` (alternate form), `!` (the engine's own alternate form), `0`
(pad with zeros), `,` (thousands), the width and the precision. -/
structure FormatSpec where
  leftJustify : Bool := false
  sign : Option Char := none
  alternate : Bool := false
  altForm : Bool := false
  zeroPad : Bool := false
  thousands : Bool := false
  width : Nat := 0
  precision : Option Nat := none
  deriving Inhabited

/-- The largest output a conversion may make, in bytes. -/
def outputLimit : Nat := 1000000000

/-- The digit characters of a list of digits. -/
def digitChar (d : Nat) : Char := Char.ofNat (48 + d)

/-- A real written by a floating-point conversion (`f`, `e`, `E`, `g` or `G`): its digits rounded
to the precision (six by default), in fixed or exponent form, with the sign, point and zeros the
flags ask for. With `!` there are up to 26 significant digits, else 16; with `0` an infinity is
written as `9.0e+999` and not a number as `null`. None when the text would be too long. -/
def formatReal (r : Float) (conv : Char) (spec : FormatSpec) : Option (List Char) :=
  let given := min (spec.precision.getD 6) 100000000
  -- 0: fixed, 1: exponent, 2: the shorter of the two
  let kind : Nat := if conv == 'f' then 0 else if conv == 'e' || conv == 'E' then 1 else 2
  let upper := conv == 'E' || conv == 'G'
  let precision := if kind == 2 && given == 0 then 1 else given
  let round : Int := if kind == 0 then -(precision : Int) else if kind == 1 then precision + 1
    else precision
  let d := decodeReal r round (if spec.altForm then 26 else 16)
  if d.special == 2 then some (if spec.zeroPad then "null" else "NaN").toList
  else if d.special == 1 && !spec.zeroPad then
    if d.negative then some "-Inf".toList
    else some (match spec.sign with
      | some c => c :: "Inf".toList
      | none => "Inf".toList)
  else
  let d := if d.special == 1 then { d with digits := [9], point := 1000 } else d
  let sign : Option Char := if d.negative then some '-' else spec.sign
  let exp := d.point - 1
  let precision : Int := if kind == 2 && precision > 0 then precision - 1 else precision
  let (kind, precision, trim) : Nat × Int × Bool :=
    if kind == 2 then
      if exp < -4 || exp > precision then (1, precision, !spec.alternate)
      else (0, precision - exp, !spec.alternate)
    else (kind, precision, spec.altForm)
  let e2 : Int := if kind == 1 then 0 else d.point - 1
  if (max e2 0) + precision + spec.width + 15 > outputLimit then none else
  let ds := d.digits
  let digitAt (j : Nat) : Char := digitChar (ds[j]?.getD 0)
  let point := precision > 0 || spec.alternate || spec.altForm
  let whole : List Char := if e2 < 0 then ['0'] else
    (List.range (e2.toNat + 1)).flatMap fun (k : Nat) =>
      let place : Int := e2 - k
      if spec.thousands && place % 3 == 0 && place > 1 then [digitAt k, ','] else [digitAt k]
  let used := if e2 < 0 then 0 else e2.toNat + 1
  let leading : Nat := if e2 < 0 then min (-(e2 + 1)).toNat precision.toNat else 0
  let rest := precision.toNat - leading
  let frac := List.replicate leading '0' ++ (List.range rest).map fun k => digitAt (used + k)
  let body := whole ++ (if point then ['.'] else []) ++ frac
  let body := if trim && point then
      let cut := (body.reverse.dropWhile (· == '0')).reverse
      if cut.getLast? == some '.' then (if spec.altForm then cut ++ ['0'] else cut.dropLast)
      else cut
    else body
  let suffix : List Char := if kind != 1 then [] else
    let x := d.point - 1
    let mark := if upper then 'E' else 'e'
    let n := x.natAbs
    let hundreds := if n ≥ 100 then [Char.ofNat (48 + n / 100)] else []
    let n := n % 100
    [mark, if x < 0 then '-' else '+'] ++ hundreds ++ [digitChar (n / 10), digitChar (n % 10)]
  let text := (match sign with
    | some c => [c]
    | none => []) ++ body ++ suffix
  if spec.zeroPad && !spec.leftJustify && text.length < spec.width then
    let pad := List.replicate (spec.width - text.length) '0'
    match sign with
    | some c => some (c :: pad ++ text.drop 1)
    | none => some (pad ++ text)
  else some text

/-- The text of a real in a value's text: fifteen significant digits, in exponent form when its
exponent is below -4 or above 14, a point and a digit after it always. -/
def realText (r : Float) : String :=
  String.ofList ((formatReal r 'g' { altForm := true, precision := some 15 }).getD [])

end Shipyard.Sql
