import Shipyard.Decimal.Text
/-!
Tokens of YAML text, the places they stand at, and syntax errors.

A `Mark` is a place in the text: the character offset, the line and the column, all counted
from 0. A syntax error names the problem and where it was found, and may name what was being
read when it happened (`while scanning a quoted scalar`) and where that started. Its text
gives places as `line L column C` counted from 1, and leaves out a place at the very start of
the text.
-/
namespace Shipyard.Yaml

/-- A place in the text. -/
structure Mark where
  index : Nat := 0
  line : Nat := 0
  column : Nat := 0
  deriving Repr, DecidableEq, Inhabited

/-- `line L column C`, counted from 1. -/
def Mark.text (m : Mark) : String :=
  "line " ++ Decimal.natText (m.line + 1) ++ " column " ++ Decimal.natText (m.column + 1)

/-- Whether the mark stands at the start of the text. -/
def Mark.atStart (m : Mark) : Bool := m.line == 0 && m.column == 0

/-- How a scalar is written. -/
inductive ScalarStyle where
  | plain
  | singleQuoted
  | doubleQuoted
  | literal
  | folded
  deriving Repr, DecidableEq, Inhabited

/-- The kinds of tokens. -/
inductive TokenKind where
  | streamStart
  | streamEnd
  | versionDirective (major minor : Nat)
  | tagDirective (handle pfx : String)
  | documentStart
  | documentEnd
  | blockSequenceStart
  | blockMappingStart
  | blockEnd
  | flowSequenceStart
  | flowSequenceEnd
  | flowMappingStart
  | flowMappingEnd
  | blockEntry
  | flowEntry
  | key
  | value
  | aliased (name : String)
  | anchor (name : String)
  | tag (handle suffix : String)
  | scalar (text : String) (style : ScalarStyle)
  deriving Repr, DecidableEq, Inhabited

/-- A token with the places it starts and ends at. -/
structure Token where
  kind : TokenKind
  start : Mark
  stop : Mark
  deriving Repr, Inhabited

/-- A syntax error. A problem found while decoding the text itself has no mark but a byte
offset. -/
structure SyntaxError where
  problem : String
  problemMark : Mark := {}
  offset : Nat := 0
  context : Option String := none
  contextMark : Mark := {}
  deriving Repr, Inhabited

/-- The text of a syntax error: the problem and its place, then what was being read and where
that started, when it started elsewhere. -/
def SyntaxError.message (e : SyntaxError) : String :=
  let place :=
    if !e.problemMark.atStart then " at " ++ e.problemMark.text
    else if e.offset != 0 then " at position " ++ Decimal.natText e.offset
    else ""
  let ctx := match e.context with
    | none => ""
    | some c =>
      let far := !e.contextMark.atStart &&
        (e.contextMark.line != e.problemMark.line || e.contextMark.column != e.problemMark.column)
      ", " ++ c ++ (if far then " at " ++ e.contextMark.text else "")
  e.problem ++ place ++ ctx

end Shipyard.Yaml
