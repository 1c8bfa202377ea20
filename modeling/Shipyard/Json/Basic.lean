/-!
JSON values as the control plane exchanges them.

A number keeps the reader's classification: an integer that fits 64 bits (unsigned, or signed
when negative) stays an exact `Int`; every other number is a binary64 float. Object members
keep the order they are given in; `Json.sortKeys` puts them in ascending key order, the order
in which maps are written.
-/
namespace Shipyard

/-- A JSON number: an exact integer of the 64-bit ranges, or a float. -/
inductive JsonNumber where
  | int (i : Int)
  | float (f : Float)

/-- A JSON document. -/
inductive Json where
  | null
  | bool (b : Bool)
  | num (n : JsonNumber)
  | str (s : String)
  | arr (items : List Json)
  | obj (fields : List (String × Json))

namespace Json

instance : Inhabited Json := ⟨.null⟩

/-- An exact integer value. -/
def ofInt (i : Int) : Json := .num (.int i)

/-- A natural-number value. -/
def ofNat (n : Nat) : Json := .num (.int n)

/-- A string array. -/
def ofStrings (xs : List String) : Json := .arr (xs.map .str)

/-- `some s` for a string, otherwise `none`. -/
def str? : Json → Option String
  | .str s => some s
  | _ => none

/-- `some b` for a boolean. -/
def bool? : Json → Option Bool
  | .bool b => some b
  | _ => none

/-- The exact integer of an integer number. -/
def int? : Json → Option Int
  | .num (.int i) => some i
  | _ => none

/-- The items of an array. -/
def arr? : Json → Option (List Json)
  | .arr xs => some xs
  | _ => none

/-- The members of an object. -/
def obj? : Json → Option (List (String × Json))
  | .obj kvs => some kvs
  | _ => none

/-- Whether the value is `null`. -/
def isNull : Json → Bool
  | .null => true
  | _ => false

/-- The first member named `k` of an object. -/
def field? (j : Json) (k : String) : Option Json :=
  match j with
  | .obj kvs => (kvs.find? (·.1 == k)).map (·.2)
  | _ => none

/-- A string member, if present and a string. -/
def fieldStr? (j : Json) (k : String) : Option String := (j.field? k).bind str?

/-- Inserts `(k, v)` into members kept in ascending key order, replacing an equal key. -/
def insertSorted (k : String) (v : Json) : List (String × Json) → List (String × Json)
  | [] => [(k, v)]
  | (k', v') :: rest =>
    if k < k' then (k, v) :: (k', v') :: rest
    else if k == k' then (k, v) :: rest
    else (k', v') :: insertSorted k v rest

/-- Members in ascending key order, a later duplicate replacing an earlier one. -/
def sortFields (kvs : List (String × Json)) : List (String × Json) :=
  kvs.foldl (fun acc (k, v) => insertSorted k v acc) []

mutual
/-- Every object of the value with its members in ascending key order. -/
def sortKeys : Json → Json
  | .arr xs => .arr (sortKeysList xs)
  | .obj kvs => .obj (sortFields (sortKeysFields kvs))
  | j => j

def sortKeysList : List Json → List Json
  | [] => []
  | x :: xs => sortKeys x :: sortKeysList xs

def sortKeysFields : List (String × Json) → List (String × Json)
  | [] => []
  | (k, v) :: rest => (k, sortKeys v) :: sortKeysFields rest
end

/-- Sets member `k` of an object (appending it when absent); other values are unchanged. -/
def set (j : Json) (k : String) (v : Json) : Json :=
  match j with
  | .obj kvs =>
    if kvs.any (·.1 == k) then .obj (kvs.map fun (k', v') => if k' == k then (k', v) else (k', v'))
    else .obj (kvs ++ [(k, v)])
  | other => other

/-- Removes member `k` of an object. -/
def erase (j : Json) (k : String) : Json :=
  match j with
  | .obj kvs => .obj (kvs.filter (·.1 != k))
  | other => other

end Json

end Shipyard
