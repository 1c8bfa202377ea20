import Shipyard.Sql.Value
/-!
# Functions of numbers

`ceil`, `floor` and `trunc` keep an integer as it is and round a real to a whole real. The
others take their arguments as reals and give a real: the powers and logarithms, the
trigonometric and hyperbolic functions and their inverses, the conversions between degrees and
radians, and the remainder `mod`.

An argument counts as a number when it is one, or when it is a text that wholly reads as one
(blanks around it apart); anything else, null or a blob included, makes the result null. A
result that is not a number (the square root of a negative, say) is null too, while an
infinity stays a real.
-/
namespace Shipyard.Sql

namespace MathFunc

/-- The number an argument stands for, if it counts as one. -/
def number? (v : Value) : Option Value :=
  match v.numeric with
  | .integer i => some (.integer i)
  | .real r => some (.real r)
  | _ => none

/-- The real of an argument that counts as a number. -/
def real? (v : Value) : Option Float := (number? v).map Value.toReal

/-- A real result; one that is not a number is null. -/
def realResult (r : Float) : Value := if r.isNaN then .null else .real r

/-- A real cut toward zero. -/
def truncReal (r : Float) : Float := if r < 0 then r.ceil else r.floor

/-- The remainder of `x / y` with the quotient cut toward zero, computed exactly: it has the
sign of `x`, is not a number when `y` is zero or `x` is infinite, and is `x` itself when `y`
is infinite. Both operands are integers times a power of two, so with the smaller power taken
out the remainder is one of whole numbers, and the result is exact as a real. -/
def remainder (x y : Float) : Float :=
  if x.isNaN || y.isNaN || x.isInf || y == 0 then 0.0 / 0.0
  else if y.isInf then x
  else match Decimal.Kind.ofBits x.toBits, Decimal.Kind.ofBits y.toBits with
    | .finite a, .finite b =>
      let e := min a.exp b.exp
      let num := a.mant * Nat.pow 2 (a.exp - e).toNat
      let den := b.mant * Nat.pow 2 (b.exp - e).toNat
      let size := Float.scaleB (Float.ofNat (num % den)) e
      if a.negative then -size else size
    | _, _ => x

/-- A function of one real: null unless the argument counts as a number. -/
def unary (f : Float → Float) (v : Value) : Value :=
  (real? v).elim .null fun r => realResult (f r)

/-- A function of two reals: null unless both arguments count as numbers. -/
def binary (f : Float → Float → Float) (a b : Value) : Value :=
  match real? a, real? b with
  | some x, some y => realResult (f x y)
  | _, _ => .null

/-- `ceil`, `floor` and `trunc`: an integer as it is, a real rounded by `f`. -/
def rounding (f : Float → Float) (v : Value) : Value :=
  match number? v with
  | some (.integer i) => .integer i
  | some (.real r) => realResult (f r)
  | _ => .null

/-- A logarithm: `ln`, `log10` and `log2` of one argument (`log` of one is `log10`), and
`log(b, x)` of `x` to the base `b`. Only a positive argument has one. Whether the second
argument counts as a number is not asked: it is read as a real, so a text that is not a number
reads as zero and has no logarithm. -/
def logarithm (name : String) (args : List Value) : Value :=
  match args with
  | [v] =>
    match real? v with
    | some x =>
      if x ≤ 0 then .null
      else realResult (match name with
        | "ln" => x.log
        | "log2" => x.log2
        | _ => x.log10)
    | none => .null
  | [b, v] =>
    match real? b with
    | some base =>
      if base ≤ 0 then .null
      else
        let x := v.toReal
        if x ≤ 0 then .null else realResult (x.log / base.log)
    | none => .null
  | _ => .null

/-- The functions of one real, by name. -/
def unaryByName (name : String) : Option (Float → Float) :=
  match name with
  | "exp" => some Float.exp
  | "sqrt" => some Float.sqrt
  | "acos" => some Float.acos
  | "asin" => some Float.asin
  | "atan" => some Float.atan
  | "acosh" => some Float.acosh
  | "asinh" => some Float.asinh
  | "atanh" => some Float.atanh
  | "cos" => some Float.cos
  | "sin" => some Float.sin
  | "tan" => some Float.tan
  | "cosh" => some Float.cosh
  | "sinh" => some Float.sinh
  | "tanh" => some Float.tanh
  | "radians" => some fun x => x * (3.141592653589793 / 180.0)
  | "degrees" => some fun x => x * (180.0 / 3.141592653589793)
  | _ => none

/-- The value of a call of a function of numbers, by its name in lower case; none for a name
that is not one of them. -/
def call (name : String) (args : List Value) : Option Value :=
  let arg (i : Nat) : Value := args[i]?.getD .null
  match name with
  | "ceil" | "ceiling" => some (rounding Float.ceil (arg 0))
  | "floor" => some (rounding Float.floor (arg 0))
  | "trunc" => some (rounding truncReal (arg 0))
  | "ln" | "log" | "log10" | "log2" => some (logarithm name args)
  | "pow" | "power" => some (binary Float.pow (arg 0) (arg 1))
  | "atan2" => some (binary Float.atan2 (arg 0) (arg 1))
  | "mod" => some (binary remainder (arg 0) (arg 1))
  | "pi" => some (.real 3.141592653589793)
  | _ => (unaryByName name).map fun f => unary f (arg 0)

end MathFunc

end Shipyard.Sql
