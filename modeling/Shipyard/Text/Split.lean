/-!
# Splitting text at a separator
-/
namespace Shipyard.Text

/-- The text before and after the first occurrence of `sep`, if it occurs. -/
def splitOnce (s : String) (sep : String) : Option (String × String) :=
  match s.splitOn sep with
  | first :: rest@(_ :: _) => some (first, sep.intercalate rest)
  | _ => none

/-- The text before and after the last occurrence of `c`, if it occurs. -/
def splitLastChar (s : String) (c : Char) : Option (String × String) :=
  if c ∈ s.toList then
    let after := s.toList.reverse.takeWhile (· != c)
    some (String.ofList (s.toList.reverse.drop (after.length + 1)).reverse, String.ofList after.reverse)
  else none

theorem splitLastChar_of_not_mem {s : String} {c : Char} (h : c ∉ s.toList) :
    splitLastChar s c = none := by
  simp [splitLastChar, h]

/-- A text splits at the separator that the part after it does not hold. -/
theorem splitLastChar_append {a b : String} {c : Char} (hb : c ∉ b.toList) :
    splitLastChar (a ++ String.singleton c ++ b) c = some (a, b) := by
  have hne : ∀ x ∈ b.toList.reverse, (x != c) = true := by
    intro x hx
    have hx' : x ∈ b.toList := List.mem_reverse.mp hx
    simpa using fun h : x = c => hb (h ▸ hx')
  have htake : (b.toList.reverse ++ c :: a.toList.reverse).takeWhile (· != c) = b.toList.reverse := by
    rw [List.takeWhile_append_of_pos hne, List.takeWhile_cons_of_neg (by simp), List.append_nil]
  have hdrop : (b.toList.reverse ++ c :: a.toList.reverse).drop (b.toList.length + 1) =
      a.toList.reverse := by
    rw [← List.length_reverse, List.drop_append]
    simp
  simp [splitLastChar, htake, hdrop]

/-- The text without every copy of `c` at its end. -/
def trimEndChar (s : String) (c : Char) : String :=
  String.ofList (s.toList.reverse.dropWhile (· == c)).reverse

end Shipyard.Text
