import Shipyard.Yaml.Scanner
import Shipyard.Yaml.Resolve
import Shipyard.Json.Basic
import Shipyard.Decimal.Text
/-!
Writing a value as a YAML document in block style.

Mappings and sequences are written in block style, an empty one in flow style (`{}`, `[]`).
Each member of a mapping starts a line at the mapping's indentation; a sequence that is the
value of a mapping member is not indented further than the member's key. Lines are never
folded.

A text is written plain when it can be read back as the same text: it holds no line break,
starts and ends with no blank, holds no indicator where one would be taken as syntax
(`: `, ` #`, a leading `-`, `?`, `[`, …), and would not be read by the core schema as null, a
flag or a number. Otherwise it is single-quoted, unless it holds a line feed, which makes it a
literal block (`|`, with `-` to strip the last line break when there is none, `+` to keep
several, and an indentation figure when it starts with a blank). Texts that none of these can
hold (control characters, a blank before a line break, a tab) are double-quoted with escapes.
A text that is a key is never a block, and one that spans lines is double-quoted there.
-/
namespace Shipyard.Yaml

/-- How a scalar is written. -/
inductive Style where
  | plain
  | singleQuoted
  | doubleQuoted
  | literal
  deriving DecidableEq, Repr

/-- Which ways of writing a text keep it intact. -/
structure Analysis where
  /-- The text holds a line break. -/
  multiline : Bool
  /-- Plain in block context keeps it. -/
  plain : Bool
  single : Bool
  block : Bool
  deriving Repr

namespace Writer

/-- Characters written as they are: the line feed, printable ASCII, and the rest of Unicode
except the surrogates, the byte order mark, `U+FFFE`, `U+FFFF` and the C1 controls. -/
def isPrintable (c : Char) : Bool :=
  let n := c.toNat
  n == 0x0A || (0x20 ≤ n && n ≤ 0x7E) || (0xA0 ≤ n && n ≤ 0xD7FF) ||
  (0xE000 ≤ n && n ≤ 0xFFFD && n != 0xFEFF) || 0x10000 ≤ n

/-- Indicators that may not start a plain text. -/
def leadingIndicators : List Char :=
  ['#', ',', '[', ']', '{', '}', '&', '*', '!', '|', '>', '\'', '"', '%', '@', '`']

/-- Flags gathered over a text, in the order its characters are seen. -/
structure Scan where
  blockIndicators : Bool := false
  lineBreaks : Bool := false
  special : Bool := false
  leadingSpace : Bool := false
  leadingBreak : Bool := false
  trailingSpace : Bool := false
  trailingBreak : Bool := false
  breakSpace : Bool := false
  spaceBreak : Bool := false
  previousSpace : Bool := false
  previousBreak : Bool := false

/-- Whether position `i` of the text is a blank, a break, the end or a NUL. -/
def blankAt (cs : Array Char) (i : Nat) : Bool :=
  match cs[i]? with
  | some c => Scan.isBlankZ c
  | none => true

/-- Takes in the character at position `i`. -/
def Scan.step (cs : Array Char) (s : Scan) (i : Nat) : Scan :=
  let c := cs.getD i ' '
  let last := i + 1 == cs.size
  let followed := blankAt cs (i + 1)
  let preceded := i == 0 || blankAt cs (i - 1)
  let block :=
    if i == 0 then
      leadingIndicators.contains c || ((c == '?' || c == ':') && followed) || (c == '-' && followed)
    else (c == ':' && followed) || (c == '#' && preceded)
  let s := { s with blockIndicators := s.blockIndicators || block,
                    special := s.special || !isPrintable c,
                    lineBreaks := s.lineBreaks || Scan.isBreak c }
  if c == ' ' then
    { s with leadingSpace := s.leadingSpace || i == 0, trailingSpace := s.trailingSpace || last,
             breakSpace := s.breakSpace || s.previousBreak, previousSpace := true,
             previousBreak := false }
  else if Scan.isBreak c then
    { s with leadingBreak := s.leadingBreak || i == 0, trailingBreak := s.trailingBreak || last,
             spaceBreak := s.spaceBreak || s.previousSpace, previousSpace := false,
             previousBreak := true }
  else { s with previousSpace := false, previousBreak := false }

end Writer

open Writer in
/-- Which ways of writing keep a text intact. The empty text may be plain but not a block. -/
def Analysis.ofText (t : String) : Analysis :=
  let cs := t.toList.toArray
  if cs.isEmpty then { multiline := false, plain := true, single := true, block := false }
  else
    let marker := t.startsWith "---" || t.startsWith "..."
    let s := (List.range cs.size).foldl (Scan.step cs) { blockIndicators := marker }
    let edges := s.leadingSpace || s.leadingBreak || s.trailingSpace || s.trailingBreak
    let mixed := s.spaceBreak || s.special
    { multiline := s.lineBreaks,
      plain := !(edges || s.breakSpace || mixed || s.lineBreaks || s.blockIndicators),
      single := !(s.breakSpace || mixed),
      block := !(s.trailingSpace || mixed) }

/-- The style a text asks for: a literal block when it holds a line feed, quotes when the core
schema would read it as something other than this text, and otherwise plain. -/
def Style.ofText (t : String) : Style :=
  if t.toList.contains '\n' then .literal
  else match Resolved.ofPlain t with
    | .str _ => if Resolve.digitsButNotNumber t then .singleQuoted else .plain
    | _ => .singleQuoted

/-- The style a scalar is written in, from the one it asks for and what its text allows;
`key` is whether it is written as a simple key. -/
def Style.settle (asked : Style) (a : Analysis) (empty key : Bool) : Style :=
  let s := if key && a.multiline then .doubleQuoted else asked
  let s := if s == .plain && (!a.plain || (empty && key)) then .singleQuoted else s
  let s := if s == .singleQuoted && !a.single then .doubleQuoted else s
  if s == .literal && (!a.block || key) then .doubleQuoted else s

/-- Where the writer stands. -/
structure Pen where
  /-- The text written so far. -/
  out : String := ""
  column : Nat := 0
  /-- The last character written is white space (or nothing was written on the line). -/
  whitespace : Bool := true
  /-- Only indentation was written on the line. -/
  indention : Bool := true
  indent : Int := -1
  indents : List Int := []

namespace Pen

def put (p : Pen) (c : Char) : Pen := { p with out := p.out.push c, column := p.column + 1 }

def putStr (p : Pen) (s : String) : Pen := s.toList.foldl put p

def newline (p : Pen) : Pen := { p with out := p.out.push '\n', column := 0 }

/-- Writes a line break character: the line feed as a new line, any other as it is. -/
def lineBreak (p : Pen) (c : Char) : Pen :=
  if c == '\n' then p.newline else { p with out := p.out.push c, column := 0 }

/-- Starts a new line at the indentation unless the pen already stands at it. -/
def writeIndent (p : Pen) : Pen :=
  let ind := p.indent.toNat
  let p := if !p.indention || p.column > ind || (p.column == ind && !p.whitespace) then p.newline
    else p
  let p := p.putStr (String.ofList (List.replicate (ind - p.column) ' '))
  { p with whitespace := true, indention := true }

/-- Writes an indicator, after a space if it needs one. -/
def indicator (p : Pen) (text : String) (needSpace isSpace isIndention : Bool) : Pen :=
  let p := if needSpace && !p.whitespace then p.put ' ' else p
  let p := p.putStr text
  { p with whitespace := isSpace, indention := p.indention && isIndention }

/-- Indents by two more; a flow context starts at two, a block at zero, and an indentless
sequence stays where it is. -/
def increaseIndent (p : Pen) (flow indentless : Bool) : Pen :=
  let indent :=
    if p.indent < 0 then (if flow then 2 else 0)
    else if indentless then p.indent else p.indent + 2
  { p with indents := p.indent :: p.indents, indent }

def popIndent (p : Pen) : Pen :=
  match p.indents with
  | i :: rest => { p with indent := i, indents := rest }
  | [] => p

/-- One character of a text written plain (`quote` false) or in single quotes (`quote` true),
with whether a line break came just before: a break ends the line, the first break after text
doubled when it is a line feed so that it reads back; any other character goes on the line,
after the indentation when a break came before, a single quote doubled when quoting. -/
def flowStep (quote : Bool) (acc : Pen × Bool) (c : Char) : Pen × Bool :=
  let (p, breaks) := acc
  if Scan.isBreak c then
    let p := if !breaks && c == '\n' then p.newline else p
    ({ p.lineBreak c with indention := true }, true)
  else
    let p := if breaks then p.writeIndent else p
    let p := if quote && c == '\'' then p.put '\'' else p
    ({ p.put c with indention := false }, false)

/-- Text written plain. -/
def plain (p : Pen) (t : String) : Pen :=
  let p := if !p.whitespace && !t.isEmpty then p.put ' ' else p
  let (p, _) := t.toList.foldl (flowStep false) (p, false)
  { p with whitespace := false, indention := false }

/-- Text between single quotes, a quote doubled. -/
def singleQuoted (p : Pen) (t : String) : Pen :=
  let p := p.indicator "'" true false false
  let (p, breaks) := t.toList.foldl (flowStep true) (p, false)
  let p := if breaks then p.writeIndent else p
  let p := p.indicator "'" false false false
  { p with whitespace := false, indention := false }

/-- Upper-case hexadecimal digits of `n`, `width` of them. -/
def hexDigits (width n : Nat) : String :=
  String.ofList ((List.range width).reverse.map fun k =>
    let d := (n / Nat.pow 16 k) % 16
    Char.ofNat (if d < 10 then '0'.toNat + d else 'A'.toNat + d - 10))

/-- The escape of a character in double quotes. -/
def escape (c : Char) : String :=
  match c.toNat with
  | 0x00 => "\\0"
  | 0x07 => "\\a"
  | 0x08 => "\\b"
  | 0x09 => "\\t"
  | 0x0A => "\\n"
  | 0x0B => "\\v"
  | 0x0C => "\\f"
  | 0x0D => "\\r"
  | 0x1B => "\\e"
  | 0x22 => "\\\""
  | 0x5C => "\\\\"
  | 0x85 => "\\N"
  | 0xA0 => "\\_"
  | 0x2028 => "\\L"
  | 0x2029 => "\\P"
  | n =>
    if n ≤ 0xFF then "\\x" ++ hexDigits 2 n
    else if n ≤ 0xFFFF then "\\u" ++ hexDigits 4 n
    else "\\U" ++ hexDigits 8 n

/-- One character between double quotes: one that does not print, a break, the byte order
mark, the quote and the backslash escaped. -/
def quotedChar (p : Pen) (c : Char) : Pen :=
  if !Writer.isPrintable c || c.toNat == 0xFEFF || Scan.isBreak c || c == '"' || c == '\\' then
    p.putStr (escape c)
  else p.put c

/-- Text between double quotes: characters that do not print, breaks, the byte order mark,
the quote and the backslash escaped. -/
def doubleQuoted (p : Pen) (t : String) : Pen :=
  let p := p.indicator "\"" true false false
  let p := t.toList.foldl quotedChar p
  let p := p.indicator "\"" false false false
  { p with whitespace := false, indention := false }

/-- Whether a block scalar needs an indentation figure: its text starts with a blank or break. -/
def needsIndentHint (t : String) : Bool :=
  match t.toList.head? with
  | some c => c == ' ' || Scan.isBreak c
  | none => false

/-- The chomping sign of a block scalar: `-` when its text does not end with a break, `+` when it
ends with two or is one, none when it ends with exactly one. -/
def chompHint (t : String) : Option String :=
  match t.toList.reverse with
  | [] => some "-"
  | [c] => if Scan.isBreak c then some "+" else some "-"
  | c :: d :: _ => if !Scan.isBreak c then some "-" else if Scan.isBreak d then some "+" else none

/-- The header hints of a block scalar: an indentation figure when the text starts with a
blank or break, then its chomping sign. -/
def blockHints (p : Pen) (t : String) : Pen :=
  let p := if needsIndentHint t then p.indicator "2" false false false else p
  match chompHint t with
  | some h => p.indicator h false false false
  | none => p

/-- One character of a literal block, with whether a line break came just before: a break ends
the line, any other character goes on it, after the indentation when a break came before. -/
def literalStep (acc : Pen × Bool) (c : Char) : Pen × Bool :=
  let (p, breaks) := acc
  if Scan.isBreak c then ({ p.lineBreak c with indention := true }, true)
  else
    let p := if breaks then p.writeIndent else p
    ({ p.put c with indention := false }, false)

/-- Text as a literal block: a header line, then the lines at the indentation. -/
def literal (p : Pen) (t : String) : Pen :=
  let p := p.indicator "|" true false false
  let p := (p.blockHints t).newline
  let p := { p with indention := true, whitespace := true }
  (t.toList.foldl literalStep (p, true)).1

/-- A scalar in the style it settles on. -/
def scalar (p : Pen) (t : String) (asked : Style) (key : Bool) : Pen :=
  let a := Analysis.ofText t
  let p := p.increaseIndent true false
  let p := match asked.settle a t.isEmpty key with
    | .plain => p.plain t
    | .singleQuoted => p.singleQuoted t
    | .doubleQuoted => p.doubleQuoted t
    | .literal => p.literal t
  p.popIndent

/-- An empty collection in flow style. -/
def emptyFlow (p : Pen) (opening closing : String) : Pen :=
  (p.indicator opening true true false).indicator closing false false false

end Pen

/-- The text and asked style of a value that is not a collection. -/
def scalarText : Json → String × Style
  | .null => ("null", .plain)
  | .bool b => (if b then "true" else "false", .plain)
  | .num (.int i) => (Decimal.intText i, .plain)
  | .num (.float f) =>
    if f.isNaN then (".nan", .plain)
    else if f.isInf then (if f > 0 then ".inf" else "-.inf", .plain)
    else (Decimal.floatExponentText f, .plain)
  | .str s => (s, Style.ofText s)
  | _ => ("", .plain)

/-- Whether a key is written as a simple key: on one line and at most 128 bytes. -/
def isSimpleKey (k : String) : Bool := !(Analysis.ofText k).multiline && k.utf8ByteSize ≤ 128

mutual
/-- Writes a value; `member` is whether it is the value of a mapping member. -/
def Pen.node (p : Pen) (member : Bool) : Json → Pen
  | .obj [] => p.emptyFlow "\x7b" "\x7d"
  | .obj kvs => ((p.increaseIndent false false).entries kvs).popIndent
  | .arr [] => p.emptyFlow "[" "]"
  | .arr xs => ((p.increaseIndent false (member && !p.indention)).items xs).popIndent
  | j => let (t, s) := scalarText j; p.scalar t s false

/-- The members of a block mapping. -/
def Pen.entries (p : Pen) : List (String × Json) → Pen
  | [] => p
  | (k, v) :: rest =>
    let p := p.writeIndent
    let p :=
      if isSimpleKey k then
        ((p.scalar k (Style.ofText k) true).indicator ":" false false false).node true v
      else
        let p := (p.indicator "?" true false true).scalar k (Style.ofText k) false
        ((p.writeIndent).indicator ":" true false true).node true v
    p.entries rest

/-- The items of a block sequence. -/
def Pen.items (p : Pen) : List Json → Pen
  | [] => p
  | x :: xs => (((p.writeIndent).indicator "-" true false true).node false x).items xs
end

/-- A value written as one YAML document, ending with a line break. -/
def writeDocument (j : Json) : String :=
  (({} : Pen).node false j).writeIndent.out

end Shipyard.Yaml
