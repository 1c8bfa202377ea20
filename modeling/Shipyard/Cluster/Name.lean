/-!
Names of cluster objects.

A DNS label is lower-case letters, digits and single dashes, neither starting nor ending with a
dash. Any text becomes one by lower-casing it, turning every other character into a dash,
collapsing runs of dashes and trimming dashes at both ends.

The namespace of a service joins its workspace's label and its key's label with a dash, the
workspace part cut so that the whole stays within 63 characters.
-/
namespace Shipyard.Cluster

/-- The longest name a namespace may have. -/
def maxNameLength : Nat := 63

/-- A character as it stands in a label after lower-casing: letters and digits stay (capitals
lowered, the Kelvin sign becomes `k`, a dotted capital I becomes `i` and a combining dot), all
else is a dash. -/
def labelChars (c : Char) : List Char :=
  if c.isLower || c.isDigit then [c]
  else if c.isUpper then [c.toLower]
  else if c.val == 0x212A then ['k']
  else if c.val == 0x130 then ['i', '-']
  else ['-']

/-- Drops a dash that follows a dash. -/
def collapseDashes : List Char → List Char
  | [] => []
  | '-' :: '-' :: rest => collapseDashes ('-' :: rest)
  | c :: rest => c :: collapseDashes rest

/-- Drops dashes at the start. -/
def dropDashes (cs : List Char) : List Char := cs.dropWhile (· == '-')

/-- Drops dashes at both ends. -/
def trimDashes (cs : List Char) : List Char := (dropDashes (dropDashes cs).reverse).reverse

/-- The DNS label of a text, as a list of characters. -/
def labelOf (s : String) : List Char :=
  trimDashes (collapseDashes (s.toList.flatMap labelChars))

/-- The DNS label of a text. -/
def dnsLabel (s : String) : String := String.ofList (labelOf s)

/-- The namespace of the service with key `key` in workspace `workspace`. -/
def namespaceName (workspace key : String) : String :=
  let k := labelOf key
  let budget := maxNameLength - (k.length + 1)
  let w := (dropDashes ((labelOf workspace).take budget).reverse).reverse
  match w.isEmpty, k.isEmpty with
  | true, _ => String.ofList k
  | false, true => String.ofList w
  | false, false => String.ofList (w ++ '-' :: k)

/-- The name of a repository's runtime secret object. -/
def secretObjectName (repoId : String) : String := repoId ++ "-secrets"

end Shipyard.Cluster
