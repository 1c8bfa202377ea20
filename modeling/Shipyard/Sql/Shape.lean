import Shipyard.Sql.Resolve
/-!
# Where several values may stand

Most places in an expression hold one value. A row value `(a, b)` and a subquery of several
columns hold several, and stand only where values are compared: either side of a comparison or
of `BETWEEN`, and the left of `IN`. Anywhere else a row value is misused and a subquery must have
one column; the subquery of an `IN` has as many columns as the values on its left.

These checks come once the names of a whole statement are bound, so a statement that fails to
bind a name fails with that first. A statement fails at the first place, in the order its parts
are read, that breaks them: the sources of a query, its filter, its grouping, its result
columns, then its order and limits.
-/
namespace Shipyard.Sql

namespace Shape

/-- The failure of a subquery whose width is not the one its place needs. -/
def widthError (found expected : Nat) : SqlError :=
  .plain ("sub-select returns " ++ toString found ++ " columns - expected " ++ toString expected)

mutual

/-- Checks an expression at a place that holds one value. -/
def scalar : Nat → Expr → Except SqlError Unit
  | 0, _ => pure ()
  | fuel + 1, e => match e with
    | .vector _ => throw (.plain "row value misused")
    | .subquery s => do
      if s.width != 1 then throw (widthError s.width 1)
      select fuel s
    | .unary _ a | .collate a _ | .cast a _ | .isNull a _ | .inTable a _ _ _ => scalar fuel a
    | .binary op a b =>
      if op.compares then do
        compared fuel a
        compared fuel b
      else do
        scalar fuel a
        scalar fuel b
    | .between a l h _ => do
      compared fuel a
      compared fuel l
      compared fuel h
    | .like _ _ a p x => do
      scalar fuel a
      scalar fuel p
      match x with
      | some x => scalar fuel x
      | none => pure ()
    | .inList a items _ => do
      compared fuel a
      if vectorSize a > 1 then comparedList fuel items else list fuel items
    | .inSelect a s _ => do
      if s.width != vectorSize a then throw (widthError s.width (vectorSize a))
      compared fuel a
      select fuel s
    | .exists s => select fuel s
    | .case o bs x => do
      match o with
      | some o => scalar fuel o
      | none => pure ()
      branches fuel bs
      match x with
      | some x => scalar fuel x
      | none => pure ()
    | .call _ args _ _ o => do
      list fuel args
      list fuel (o.map fun (.mk e _ _) => e)
    | .aggregate _ args _ _ f o => do
      list fuel args
      list fuel (o.map fun (.mk e _ _) => e)
      list fuel f.toList
    | .windowCall _ args _ _ f w o => do
      list fuel args
      list fuel (o.map fun (.mk e _ _) => e)
      list fuel f.toList
      match w with
      | some (.spec p o _) | some (.named _ p o _ _) => do
        list fuel p
        list fuel (o.map fun (.mk e _ _) => e)
      | none => pure ()
    | _ => pure ()

/-- Checks a side of a comparison: each item of a row value holds one value, and a subquery's
width was matched to the other side's when names were bound. -/
def compared : Nat → Expr → Except SqlError Unit
  | 0, _ => pure ()
  | fuel + 1, e => match e with
    | .vector items => list fuel items
    | .subquery s => select fuel s
    | _ => scalar fuel e

/-- Checks expressions that each hold one value. -/
def list : Nat → List Expr → Except SqlError Unit
  | 0, _ => pure ()
  | _, [] => pure ()
  | fuel + 1, e :: rest => do
    scalar fuel e
    list fuel rest

/-- Checks expressions that are each compared with a row value. -/
def comparedList : Nat → List Expr → Except SqlError Unit
  | 0, _ => pure ()
  | _, [] => pure ()
  | fuel + 1, e :: rest => do
    compared fuel e
    comparedList fuel rest

/-- Checks the conditions and results of `CASE` branches. -/
def branches : Nat → List Branch → Except SqlError Unit
  | 0, _ => pure ()
  | _, [] => pure ()
  | fuel + 1, .mk c r :: rest => do
    scalar fuel c
    scalar fuel r
    branches fuel rest

/-- Checks a query: its cores, then its order and limits. -/
def select : Nat → Select → Except SqlError Unit
  | 0, _ => pure ()
  | fuel + 1, .mk _ _ first rest order limit offset => do
    core fuel first
    compounds fuel rest
    list fuel (order.map fun (.mk e _ _) => e)
    list fuel (limit.toList ++ offset.toList)

/-- Checks the cores after the first of a compound query. -/
def compounds : Nat → List Compound → Except SqlError Unit
  | 0, _ => pure ()
  | _, [] => pure ()
  | fuel + 1, .mk _ c :: rest => do
    core fuel c
    compounds fuel rest

/-- Checks one core: the rows of `VALUES`, or the sources, filter, grouping and result columns
of a `SELECT`. -/
def core : Nat → Core → Except SqlError Unit
  | 0, _ => pure ()
  | fuel + 1, .values rows => valueRows fuel rows
  | fuel + 1, .select _ cols srcs filter group having _ => do
    sources fuel srcs
    list fuel filter.toList
    list fuel group
    list fuel having.toList
    list fuel (cols.filterMap fun c => match c with
      | .expr e _ _ => some e
      | _ => none)

/-- Checks the rows of `VALUES`. -/
def valueRows : Nat → List (List Expr) → Except SqlError Unit
  | 0, _ => pure ()
  | _, [] => pure ()
  | fuel + 1, row :: rest => do
    list fuel row
    valueRows fuel rest

/-- Checks the sources of a query: the queries they read and their join conditions. -/
def sources : Nat → List Source → Except SqlError Unit
  | 0, _ => pure ()
  | _, [] => pure ()
  | fuel + 1, .mk _ _ item on _ :: rest => do
    match item with
    | .subquery s _ | .derived s _ _ => select fuel s
    | .recursive _ s setup _ _ => do
      let .mk _ _ _ rest _ _ _ := s
      if (rest.drop (setup - 1)).any fun (.mk _ c) => c.isAggregate then
        throw (.plain "recursive aggregate queries not supported")
      select fuel s
    | .nested inner _ => sources fuel inner
    | .table _ _ _ (some args) => list fuel args
    | _ => pure ()
    list fuel on.toList
    sources fuel rest

end

end Shape

end Shipyard.Sql
