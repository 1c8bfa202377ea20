/-!
# Names of secrets

A secret's key starts with an ASCII letter, followed by ASCII letters, digits, `_`, `.` and `-`.
-/
namespace Shipyard.Secret

/-- Whether a character may follow the first one of a key. -/
def isKeyChar (c : Char) : Bool :=
  ('a' ≤ c && c ≤ 'z') || ('A' ≤ c && c ≤ 'Z') || ('0' ≤ c && c ≤ '9') || c == '_' || c == '.' || c == '-'

/-- Whether a text is a valid secret key. -/
def isValidKey (key : String) : Bool :=
  match key.toList with
  | c :: rest => (('a' ≤ c && c ≤ 'z') || ('A' ≤ c && c ≤ 'Z')) && rest.all isKeyChar
  | [] => false

end Shipyard.Secret
