/-!
# Paths and their components

A path is read the way the standard library of the platform's language reads a Unix path:
the separator is `/`; a path that starts with one has a root; `.` makes a component only when
it stands at the very start of a path without a root; repeated and trailing separators and
every other `.` make none; `..` is the parent directory; any other part is a name. No further
normalisation takes place: `a/b/../c` keeps its `..`. A Unix path has no drive or share
prefix; only Windows paths do.
-/
namespace Shipyard.Path

/-- A component of a path. -/
inductive Component where
  /-- A Windows drive or share prefix, which no Unix path has. -/
  | drive (text : String)
  | rootDir
  | curDir
  | parentDir
  | normal (name : String)
  deriving DecidableEq, Repr

/-- The component a part between separators makes, if any. -/
def partComponent (part : List Char) : Option Component :=
  if part.isEmpty || part == ['.'] then none
  else if part == ['.', '.'] then some .parentDir
  else some (.normal (String.ofList part))

/-- The component a path's start makes: the root when it starts with `/`, `.` when it is `.`
or starts with `./`. -/
def leading (cs : List Char) : List Component :=
  if cs.head? == some '/' then [.rootDir]
  else if cs == ['.'] || cs.take 2 == ['.', '/'] then [.curDir]
  else []

/-- The components of a Unix path. -/
def components (p : String) : List Component :=
  leading p.toList ++ (p.toList.splitOn '/').filterMap partComponent

/-- Whether a component keeps a path joined onto a directory inside it: a name or `.`. -/
def Component.staysIn : Component → Bool
  | .normal _ | .curDir => true
  | _ => false

/-- Whether a component leaves the directory a path is joined onto: a drive, the root or the
parent. -/
def Component.escapes : Component → Bool
  | .drive _ | .rootDir | .parentDir => true
  | _ => false

end Shipyard.Path
