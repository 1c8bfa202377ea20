import Shipyard.Http.Message
import Shipyard.Text.Utf8
import Shipyard.Text.Hex
/-!
# Query strings

A query string is a list of `name=value` pairs joined by `&`; a pair without `=` has an empty
value, and empty pieces are skipped. In names and values `+` stands for a blank and `%` with two
hex digits for a byte; a `%` not followed by two hex digits stands for itself. The bytes are
read as UTF-8, an ill-formed sequence becoming U+FFFD.

Reading declared parameters from the pairs takes each pair whose name is a parameter's name or
one of its other names, in order; a parameter given twice, or a required one never given, is
refused. Pairs of other names are passed over.
-/
namespace Shipyard.Http

/-- The bytes a query piece stands for. -/
def decodePiece : List UInt8 → List UInt8
  | [] => []
  | 43 :: rest => 32 :: decodePiece rest
  | 37 :: h :: l :: rest =>
    match Text.hexValue? (Char.ofNat h.toNat), Text.hexValue? (Char.ofNat l.toNat) with
    | some a, some b => (a * 16 + b).toUInt8 :: decodePiece rest
    | _, _ => 37 :: decodePiece (h :: l :: rest)
  | b :: rest => b :: decodePiece rest

/-- The text a query piece stands for. -/
def decodeText (piece : String) : String := Text.lossyUtf8 (decodePiece piece.toUTF8.toList)

/-- The name-value pairs of a query string, in order. -/
def queryPairs (q : String) : List (String × String) :=
  (q.splitOn "&").filterMap fun piece =>
    if piece.isEmpty then none
    else match piece.splitOn "=" with
      | [] => none
      | [n] => some (decodeText n, "")
      | n :: rest => some (decodeText n, decodeText ("=".intercalate rest))

/-- A declared query parameter. -/
structure Param where
  name : String
  aliases : List String := []
  required : Bool := true

/-- Whether a pair's name is the parameter's. -/
def Param.names (p : Param) (n : String) : Bool := p.name == n || p.aliases.contains n

/-- The values of the parameters given by the pairs, in declaration order; an absent optional
parameter is empty. -/
def readParams (params : List Param) (pairs : List (String × String)) :
    Except String (List String) := do
  let mut got : List (Option String) := params.map fun _ => none
  for (n, v) in pairs do
    match params.findIdx? (·.names n) with
    | none => pure ()
    | some i =>
      if (got.getD i none).isSome then
        throw ("duplicate field `" ++ ((params[i]?).map (·.name)).getD n ++ "`")
      got := got.set i (some v)
  (params.zip got).mapM fun (p, v) =>
    match v with
    | some v => pure v
    | none => if p.required then throw ("missing field `" ++ p.name ++ "`") else pure ""

end Shipyard.Http
