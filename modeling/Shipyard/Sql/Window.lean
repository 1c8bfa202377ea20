import Shipyard.Sql.Syntax
import Shipyard.Sql.Aggregate
/-!
# Window functions

A window function gives each row of a query a value computed over other rows: the rows of the
row's partition (rows with equal partition values), taken in the window's order. Rows whose
ordering values are equal are peers; a partition falls into groups of peers.

Each row sees a frame of its partition: the rows between two ends, counted in rows, in ranges of
ordering values, or in groups of peers, less what the frame excludes. Aggregates fold the rows of
the frame. The ranking functions count rows and groups before the current row; `lag` and `lead`
read a row at an offset; `first_value`, `last_value` and `nth_value` read a row of the frame.

A sum over a frame that slides is kept as it slides: the rows that leave the frame are taken out
of it and the rows that enter are added, so its rounding is that of the running sum.

The window calls of a query that have one window share it; they are evaluated together, over
the rows sorted by its partition and ordering. Calls with other windows are evaluated first,
the last window first, each sort keeping the order that the one before left among equal rows.
-/
namespace Shipyard.Sql

/-- The order of two values as one ordering term sorts them: under its collation, reversed
if descending; nulls first unless the term is descending or says otherwise. -/
def termOrder (descending : Bool) (nullsFirst : Option Bool) (coll : Collation) (x y : Value) :
    Ordering :=
  match x.isNull, y.isNull with
  | true, true => .eq
  | true, false => if nullsFirst.getD (!descending) then .lt else .gt
  | false, true => if nullsFirst.getD (!descending) then .gt else .lt
  | false, false =>
    let o := Value.compare coll x y
    if descending then o.swap else o

/-- The order of two lists of keys under a list of ordering terms, the first term first. -/
def keysOrder : List (Bool × Option Bool × Collation) → List Value → List Value → Ordering
  | (d, n, c) :: ts, x :: xs, y :: ys =>
    match termOrder d n c x y with
    | .eq => keysOrder ts xs ys
    | o => o
  | _, _, _ => .eq

/-- Rows in order of their keys; rows with equal keys keep their order. -/
def sortRows (terms : List (Bool × Option Bool × Collation)) (rows : List (List Value × List Value)) :
    List (List Value × List Value) :=
  rows.mergeSort fun a b => keysOrder terms a.2 b.2 != .gt

/-! ## Window calls in expressions -/

/-- Rebuilds an expression with each window call outside its subqueries replaced by what `f`
gives for it, the calls taken left to right. -/
def Expr.mapWindowsM [Monad m] (f : Expr → m Expr) : Nat → Expr → m Expr
  | 0, e => pure e
  | fuel + 1, e => match e with
    | .windowCall .. => f e
    | .unary op a => .unary op <$> Expr.mapWindowsM f fuel a
    | .binary op a b => do
      let a ← Expr.mapWindowsM f fuel a
      return .binary op a (← Expr.mapWindowsM f fuel b)
    | .collate a c => (.collate · c) <$> Expr.mapWindowsM f fuel a
    | .cast a t => (.cast · t) <$> Expr.mapWindowsM f fuel a
    | .isNull a n => (.isNull · n) <$> Expr.mapWindowsM f fuel a
    | .between a l h n => do
      let a ← Expr.mapWindowsM f fuel a
      let l ← Expr.mapWindowsM f fuel l
      return .between a l (← Expr.mapWindowsM f fuel h) n
    | .like op n a p x => do
      let a ← Expr.mapWindowsM f fuel a
      let p ← Expr.mapWindowsM f fuel p
      return .like op n a p (← x.mapM (Expr.mapWindowsM f fuel))
    | .inList a items n => do
      let a ← Expr.mapWindowsM f fuel a
      return .inList a (← items.mapM (Expr.mapWindowsM f fuel)) n
    | .inSelect a s n => (.inSelect · s n) <$> Expr.mapWindowsM f fuel a
    | .inTable a s t n => (.inTable · s t n) <$> Expr.mapWindowsM f fuel a
    | .case o bs x => do
      let o ← o.mapM (Expr.mapWindowsM f fuel)
      let bs ← bs.mapM fun (.mk c r) => do
        let c ← Expr.mapWindowsM f fuel c
        return Branch.mk c (← Expr.mapWindowsM f fuel r)
      return .case o bs (← x.mapM (Expr.mapWindowsM f fuel))
    | .call n args d s o => (.call n · d s o) <$> args.mapM (Expr.mapWindowsM f fuel)
    | .vector items => .vector <$> items.mapM (Expr.mapWindowsM f fuel)
    | other => pure other

/-- The window calls of expressions outside their subqueries, left to right. -/
def windowCalls (es : List Expr) : List Expr :=
  let collect : StateM (List Expr) Unit :=
    es.forM fun e => do
      let _ ← Expr.mapWindowsM (fun w => do modify (· ++ [w]); pure w) 64 e
  (collect.run []).2

/-- Expressions with their window calls replaced, left to right, by values. -/
def fillWindows (values : List Value) (es : List Expr) : List Expr :=
  let take (_ : Expr) : StateM (List Value) Expr := do
    match ← get with
    | v :: rest => set rest; pure (.literal v)
    | [] => pure (.literal .null)
  ((es.mapM (Expr.mapWindowsM take 64)).run values).1

/-! ## When two windows are one -/

/-- Whether two values are the same value of the same type, reals bit for bit. -/
def Value.identical : Value → Value → Bool
  | .null, .null => true
  | .integer a, .integer b => a == b
  | .real a, .real b => a.toBits == b.toBits
  | .text a, .text b => a == b
  | .blob a, .blob b => a == b
  | _, _ => false

/-- Whether two bound expressions are written alike. Expressions of kinds that windows rarely
hold (subqueries among them) are never alike, which at worst sorts rows for one window twice. -/
def Expr.alike : Nat → Expr → Expr → Bool
  | 0, _, _ => false
  | fuel + 1, a, b =>
    let all (xs ys : List Expr) : Bool :=
      xs.length == ys.length && (xs.zip ys).all fun (x, y) => Expr.alike fuel x y
    match a, b with
    | .literal x, .literal y => x.identical y
    | .integer x _, .integer y _ => x == y
    | .float x, .float y => x == y
    | .variable x _, .variable y _ => x == y
    | .bound d s c, .bound d' s' c' => d == d' && s == s' && c == c'
    | .unary o x, .unary o' y => o == o' && Expr.alike fuel x y
    | .binary o x y, .binary o' x' y' => o == o' && Expr.alike fuel x x' && Expr.alike fuel y y'
    | .collate x c, .collate y c' => c == c' && Expr.alike fuel x y
    | .cast x t, .cast y t' => sameName t t' && Expr.alike fuel x y
    | .isNull x n, .isNull y n' => n == n' && Expr.alike fuel x y
    | .between x l h n, .between x' l' h' n' =>
      n == n' && all [x, l, h] [x', l', h']
    | .call n xs d s [], .call n' ys d' s' [] =>
      sameName n.text n'.text && d == d' && s == s' && all xs ys
    | .aggregate n xs d s none [], .aggregate n' ys d' s' none [] =>
      sameName n n' && d == d' && s == s' && all xs ys
    | .vector xs, .vector ys => all xs ys
    | _, _ => false

/-- Whether two frame ends are alike. -/
def FrameBound.alike : FrameBound → FrameBound → Bool
  | .unboundedPreceding, .unboundedPreceding => true
  | .currentRow, .currentRow => true
  | .unboundedFollowing, .unboundedFollowing => true
  | .preceding x, .preceding y => Expr.alike 64 x y
  | .following x, .following y => Expr.alike 64 x y
  | _, _ => false

/-- Whether two bound windows are one window: the same partition, ordering and frame. -/
def Window.alike : Window → Window → Bool
  | .spec p o f, .spec p' o' f' =>
    p.length == p'.length && (p.zip p').all (fun (x, y) => Expr.alike 64 x y) &&
    o.length == o'.length && (o.zip o').all (fun (.mk x d n, .mk y d' n') =>
      d == d' && n == n' && Expr.alike 64 x y) &&
    (match f, f' with
      | some (.mk u s e x), some (.mk u' s' e' x') =>
        u == u' && s.alike s' && e.alike e' && x == x'
      | none, none => true
      | _, _ => false)
  | _, _ => false

/-- The window of a window call, none for any other expression. -/
def Expr.window? : Expr → Option Window
  | .windowCall _ _ _ _ _ w _ => w
  | _ => none

/-- The window calls grouped by window, each group with the position of its calls. The first
group holds the calls with the window of the first call, the next those with the window of the
first call left, and so on. -/
def windowLevels (calls : List Expr) : List (Window × List Nat) :=
  calls.zipIdx.foldl (fun levels (c, i) =>
    match c.window? with
    | none => levels
    | some w =>
      match levels.findIdx? fun (v, _) => v.alike w with
      | some j => levels.modify j fun (v, is) => (v, is ++ [i])
      | none => levels ++ [(w, [i])]) []

/-! ## Frames -/

/-- One row of a window's partition: the values of the function's arguments, whether its
`FILTER` takes the row, and the values of the window's ordering terms. -/
structure WindowRow where
  args : List Value
  counted : Bool := true
  keys : List Value := []
  deriving Inhabited

/-- A frame end with the value of its offset. -/
inductive FrameEnd where
  | unboundedPreceding
  | preceding (n : Value)
  | currentRow
  | following (n : Value)
  | unboundedFollowing
  deriving Inhabited

/-- A frame with the values of its offsets. -/
structure FrameSpec where
  unit : FrameUnit
  start : FrameEnd
  finish : FrameEnd
  exclude : FrameExclude
  deriving Inhabited

/-- A value as an integer where one must be: an integer, a real that is exactly one, or a text
that reads wholly as one. -/
def mustBeInt? (v : Value) : Option Int :=
  match v with
  | .integer i => some i
  | .real r => if realIsInt r (realToInt r) then some (realToInt r) else none
  | .text s => match numericOfText s false with
    | some (.integer i) => some i
    | _ => none
  | _ => none

/-- A value as a number where one must be: a number, or a text that reads wholly as one. -/
def mustBeNumber? (v : Value) : Option Value :=
  match v with
  | .integer _ | .real _ => some v
  | .text s => numericOfText s true
  | _ => none

/-- A frame offset checked: a non-negative integer for rows and groups, a non-negative number
for ranges. -/
def frameOffset (unit : FrameUnit) (start : Bool) (v : Value) : Except SqlError Value :=
  let which := if start then "starting" else "ending"
  match unit with
  | .range =>
    match mustBeNumber? v with
    | some n => if Value.compare .binary n (.integer 0) != .lt && !(n.toReal.isNaN) then pure n
      else throw (.plain ("frame " ++ which ++ " offset must be a non-negative number"))
    | none => throw (.plain ("frame " ++ which ++ " offset must be a non-negative number"))
  | _ =>
    match mustBeInt? v with
    | some i => if i ≥ 0 then pure (.integer i)
      else throw (.plain ("frame " ++ which ++ " offset must be a non-negative integer"))
    | none => throw (.plain ("frame " ++ which ++ " offset must be a non-negative integer"))

/-- The peer group of each row: rows whose ordering values are equal to those of the row before
stay in its group. -/
def peerGroups (terms : List (Bool × Option Bool × Collation)) (rows : Array WindowRow) :
    Array Nat :=
  (List.range rows.size).foldl (fun acc i =>
    if i == 0 then acc.push 0
    else
      let prev := acc[i - 1]!
      acc.push (if keysOrder terms rows[i - 1]!.keys rows[i]!.keys == .eq then prev else prev + 1))
    #[]

/-- The first and the last row of each peer group. -/
def groupBounds (groups : Array Nat) : Array Nat × Array Nat :=
  (List.range groups.size).foldl (fun (firsts, lasts) i =>
    let g := groups[i]!
    if g < firsts.size then (firsts, lasts.set! g i) else (firsts.push i, lasts.push i))
    (#[], #[])

/-- The comparisons that range frames make between ordering values. -/
inductive RangeOp where
  | ge
  | gt
  | le
  | lt
  deriving DecidableEq

/-- The comparison the other way round, for a descending order. -/
def RangeOp.flip : RangeOp → RangeOp
  | .ge => .le
  | .gt => .lt
  | .le => .ge
  | .lt => .gt

/-- Whether an ordering holds a comparison. -/
def RangeOp.holds : RangeOp → Ordering → Bool
  | .ge, o => o != .lt
  | .gt, o => o == .gt
  | .le, o => o != .gt
  | .lt, o => o == .lt

/-- Two values compared with nulls equal to each other and below everything else. -/
def compareNullsLow (coll : Collation) (a b : Value) : Ordering :=
  match a.isNull, b.isNull with
  | true, true => .eq
  | true, false => .lt
  | false, true => .gt
  | false, false => Value.compare coll a b

/-- Whether `a + n op b` holds for the ordering values of two rows of a range frame (`a - n`
with the comparison reversed when the order descends). A text or blob takes no offset; when
nulls sort last, a null compares by the rule of its place. -/
def rangeHolds (op : RangeOp) (descending nullsLast : Bool) (coll : Collation)
    (a b n : Value) : Bool :=
  let op := if descending then op.flip else op
  if nullsLast && (a.isNull || b.isNull) then
    if a.isNull then
      match op with
      | .ge => true
      | .gt => !b.isNull
      | .le => b.isNull
      | .lt => false
    else op == .le || op == .lt
  else
    let early := ((op == .ge && !descending) || (op == .le && descending)) && !a.isNull &&
      !b.isNull && op.holds (Value.compare .binary a b)
    if early then true
    else
      let moved := match a with
        | .text _ | .blob _ => a
        | _ => Value.arith (if descending then .sub else .add) a n
      op.holds (compareNullsLow coll moved b)

/-- The first position from `i` on where a test holds, or `size` if none does. -/
def firstFrom (size : Nat) (test : Nat → Bool) (i : Nat) : Nat :=
  match ((List.range size).drop i).find? test with
  | some j => j
  | none => size

/-- The first and the last row of a row's frame, before exclusions; the frame is empty when
the first comes after the last. -/
def frameRange (spec : FrameSpec) (term : Bool × Option Bool × Collation)
    (rows : Array WindowRow) (groups firsts lasts : Array Nat) (i : Nat) : Int × Int :=
  let size := rows.size
  let g := groups[i]!
  let count := firsts.size
  let key (j : Nat) : Value := (rows[j]!.keys.head?).getD .null
  let (descending, nullsFirst, coll) := term
  let nullsLast := nullsFirst.getD (!descending) == descending
  let holds (op : RangeOp) (a b : Nat) (n : Value) : Bool :=
    rangeHolds op descending nullsLast coll (key a) (key b) n
  let offset (n : Value) : Nat := n.toInt.toNat
  let start : Int := match spec.unit, spec.start with
    | _, .unboundedPreceding => 0
    | .rows, .preceding n => (i : Int) - offset n
    | .rows, .following n => i + offset n
    | .rows, _ => i
    | .groups, .preceding n => if g < offset n then 0 else firsts[g - offset n]!
    | .groups, .following n => if g + offset n ≥ count then size else firsts[g + offset n]!
    | .groups, _ => firsts[g]!
    | .range, .preceding n => firstFrom size (fun s => holds .ge s i n) 0
    | .range, .following n => firstFrom size (fun s => holds .le i s n) 0
    | .range, _ => firsts[g]!
  let finish : Int := match spec.unit, spec.finish with
    | _, .unboundedFollowing => (size : Int) - 1
    | _, .unboundedPreceding => -1
    | .rows, .preceding n => (i : Int) - offset n
    | .rows, .following n => i + offset n
    | .rows, _ => i
    | .groups, .preceding n => if g < offset n then -1 else lasts[g - offset n]!
    | .groups, .following n =>
      if g + offset n ≥ count then (size : Int) - 1 else lasts[g + offset n]!
    | .groups, _ => lasts[g]!
    | .range, .preceding n => (firstFrom size (fun e => holds .gt e i n) 0 : Int) - 1
    | .range, .following n => (firstFrom size (fun e => !holds .ge i e n) 0 : Int) - 1
    | .range, _ => lasts[g]!
  (start, finish)

/-- The rows of a row's frame, in order, less what the frame excludes. -/
def frameMembers (spec : FrameSpec) (groups : Array Nat) (i : Nat) (range : Int × Int) :
    List Nat :=
  let (lo, hi) := range
  let lo := lo.toNat
  let inRange := (List.range groups.size).filter fun j => lo ≤ j && (j : Int) ≤ hi
  match spec.exclude with
  | .noOthers => inRange
  | .currentRow => inRange.filter (· != i)
  | .group => inRange.filter fun j => groups[j]! != groups[i]!
  | .ties => inRange.filter fun j => j == i || groups[j]! != groups[i]!

/-! ## Sums that slide -/

namespace Summation

/-- Takes one value out of a sum, undoing `add`. An exact sum that the value takes out of
range goes over to a real sum reported as an overflow. -/
def remove (s : Summation) (v : Value) : Summation :=
  match v.numeric with
  | .null => s
  | .integer i =>
    let s := { s with count := s.count - 1 }
    if !s.approx then
      if fitsInt (s.exact - i) then { s with exact := s.exact - i }
      else { s with overflow := true, approx := true }
    else if i == minInt then (s.stepInt maxInt).stepInt 1
    else s.stepInt (-i)
  | n =>
    let s := { s with count := s.count - 1 }
    if !s.approx then
      if fitsInt (s.exact - n.toInt) then { s with exact := s.exact - n.toInt }
      else { s with overflow := true, approx := true }
    else s.step (-n.toReal)

end Summation

/-- A sum sliding over a partition: the sum, the next row to add, and the next row to take
out. -/
structure Slide where
  sum : Summation := {}
  added : Nat := 0
  removed : Nat := 0
  deriving Inhabited

/-- The value a row gives a sum: its first argument if its `FILTER` takes it, else null. -/
def WindowRow.summand (r : WindowRow) : Value :=
  if r.counted then r.args.head?.getD .null else .null

/-- Adds the rows up to `hi`. -/
def Slide.addTo (rows : Array WindowRow) (s : Slide) (hi : Int) : Slide :=
  let upto := min (hi + 1).toNat rows.size
  if upto ≤ s.added then s
  else
    let sum := (List.range' s.added (upto - s.added)).foldl
      (fun acc j => acc.add rows[j]!.summand) s.sum
    { s with sum, added := upto }

/-- Takes out the rows before `lo` that were added; rows never added are passed over. -/
def Slide.removeTo (rows : Array WindowRow) (s : Slide) (lo : Int) : Slide :=
  let upto := min lo.toNat rows.size
  if upto ≤ s.removed then s
  else
    let sum := (List.range' s.removed (upto - s.removed)).foldl
      (fun acc j => if j < s.added then acc.remove rows[j]!.summand else acc) s.sum
    { s with sum, removed := upto, added := max s.added upto }

/-- The value of `sum`, `total` or `avg` from a running sum. -/
def sumValue (name : String) (s : Summation) : Except SqlError Value :=
  match name with
  | "total" => pure (.real s.real)
  | "avg" => pure (if s.count == 0 then .null else .real (s.real / Float.ofNat s.count))
  | _ => s.result

/-! ## The values of a partition -/

/-- The row a `lag` or `lead` offset reaches from the row at `i` (counted from 1 as row ids
are): the offset is added or taken away as numbers, and only a whole result reaches a row. -/
def reachedRow (lead : Bool) (i : Nat) (off : Value) : Option Int :=
  match Value.arith (if lead then .add else .sub) (.integer (i + 1)) off with
  | .integer j => some (j - 1)
  | .real r => if realIsInt r (realToInt r) then some (realToInt r - 1) else none
  | _ => none

/-- The values of a window function over one partition, its rows in the window's order; `coll`
is the collation of its first argument, under which `min` and `max` compare. -/
def partitionValues (name : String) (coll : Collation) (star : Bool) (spec : FrameSpec)
    (terms : List (Bool × Option Bool × Collation)) (rows : Array WindowRow) :
    Except SqlError (List Value) := do
  let size := rows.size
  let groups := peerGroups terms rows
  let (firsts, lasts) := groupBounds groups
  let each := List.range size
  let group (i : Nat) : Nat := groups[i]!
  let firstTerm := terms.head?.getD (false, none, .binary)
  let range (i : Nat) := frameRange spec firstTerm rows groups firsts lasts i
  let members (i : Nat) := frameMembers spec groups i (range i)
  let arg (i k : Nat) : Value := (rows[i]!.args[k]?).getD .null
  match name with
  | "row_number" => pure (each.map fun (i : Nat) => .integer (i + 1))
  | "rank" => pure (each.map fun i => .integer (firsts[group i]! + 1))
  | "dense_rank" => pure (each.map fun i => .integer (group i + 1))
  | "percent_rank" => pure (each.map fun i =>
      if size > 1 then .real (Float.ofNat firsts[group i]! / Float.ofNat (size - 1))
      else .real 0)
  | "cume_dist" => pure (each.map fun i =>
      .real (Float.ofNat (lasts[group i]! + 1) / Float.ofNat size))
  | "ntile" =>
    if size == 0 then return []
    let parts := (arg 0 0).toInt
    if parts ≤ 0 then throw (.plain "argument of ntile must be a positive integer")
    let total : Int := size
    let tiles := each.map fun (i : Nat) =>
      let row : Int := i
      let small := total / parts
      if small == 0 then .integer (row + 1)
      else
        let large := total - parts * small
        let cut := large * (small + 1)
        if row < cut then .integer (1 + row / (small + 1))
        else .integer (1 + large + (row - cut) / small)
    pure tiles
  | "lag" | "lead" =>
    let lead := name == "lead"
    pure (each.map fun (i : Nat) =>
      let args := rows[i]!.args
      let target : Option Int := match args with
        | _ :: off :: _ => reachedRow lead i off
        | _ => some (if lead then (i : Int) + 1 else (i : Int) - 1)
      let present (t : Int) : Bool := 0 ≤ t && (if lead then t < size else t ≤ i)
      match target with
      | some t => if present t then arg t.toNat 0 else arg i 2
      | none => arg i 2)
  | "first_value" => pure (each.map fun i => match members i with
      | j :: _ => arg j 0
      | [] => .null)
  | "last_value" => pure (each.map fun i => match (members i).getLast? with
      | some j => arg j 0
      | none => .null)
  | "nth_value" =>
    each.mapM fun i => do
      match mustBeInt? (arg i 1) with
      | some k =>
        if k ≤ 0 then throw (.plain "second argument to nth_value must be a positive integer")
        match (members i)[k.toNat - 1]? with
        | some j => pure (arg j 0)
        | none => pure .null
      | none => throw (.plain "second argument to nth_value must be a positive integer")
  | "sum" | "total" | "avg" =>
    if spec.exclude == .noOthers then
      let stepFirst := match spec.unit, spec.start, spec.finish with
        | .range, .following _, _ => true
        | .range, .preceding _, .preceding _ => true
        | _, _, _ => false
      let (_, out) ← each.foldlM (fun (s, out) i => do
          let (lo, hi) := range i
          let s := if stepFirst then (s.addTo rows hi).removeTo rows lo
            else (s.removeTo rows lo).addTo rows hi
          pure (s, out ++ [← sumValue name s.sum])) (({} : Slide), ([] : List Value))
      pure out
    else
      each.mapM fun i => do
        let sum := ((members i).map fun j => rows[j]!.summand).foldl Summation.add {}
        sumValue name sum
  | _ =>
    each.mapM fun i =>
      let taken := (members i).filter fun j => rows[j]!.counted
      foldAggregate name coll false star (taken.map fun j => rows[j]!.args)

end Shipyard.Sql
