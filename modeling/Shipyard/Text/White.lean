/-!
White space as Unicode defines it, and the trimming and line splitting built on it.

`isWhite` is the White_Space property: the ASCII tab, line feed, vertical tab, form feed,
carriage return and space, the next line character, the no-break space, the Ogham space mark,
the eleven spaces from the en quad to the hair space, the line and paragraph separators, the
narrow no-break space, the medium mathematical space and the ideographic space.
-/
namespace Shipyard.Text

/-- Whether a character is white space. -/
def isWhite (c : Char) : Bool :=
  let n := c.toNat
  (9 ≤ n && n ≤ 13) || n == 32 || n == 0x85 || n == 0xA0 || n == 0x1680 ||
  (0x2000 ≤ n && n ≤ 0x200A) || n == 0x2028 || n == 0x2029 || n == 0x202F || n == 0x205F ||
  n == 0x3000

/-- The text without white space at its end. -/
def trimEndWhite (s : String) : String :=
  String.ofList (s.toList.reverse.dropWhile isWhite).reverse

/-- The text without white space at either end. -/
def trimWhite (s : String) : String :=
  String.ofList ((s.toList.dropWhile isWhite).reverse.dropWhile isWhite).reverse

/-- The lines of a text: split at each line feed, a carriage return right before it dropped
too; the line feed at the very end does not start another line. -/
def lines (s : String) : List String :=
  let ended := s.toList.getLast? == some '\n'
  let parts := s.toList.splitOn '\n'
  let parts := if ended then parts.dropLast else parts
  let n := parts.length
  parts.zipIdx.map fun (p, i) =>
    String.ofList (if (i + 1 < n || ended) && p.getLast? == some '\r' then p.dropLast else p)

end Shipyard.Text
