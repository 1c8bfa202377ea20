/-!
# Tokens of SQL text

SQL text is read as a series of tokens with blanks and comments between them. A blank run
starts at a space, tab, line feed, form feed or carriage return (or a byte-order mark) and goes
on over any of those and the vertical tab; a comment runs from `--` to the end of the line, or
from `/*` to the next `*/` (or to the end of the text).

A token is one of:

* a word: a keyword or a bare name, a run of letters, digits, `_`, `$` and characters beyond
  ASCII that starts with none of a digit and `$`;
* a quoted name, in `"…"` or `` `…` `` (a doubled quote standing for one) or in `[…]`;
* a string in `'…'`, a doubled quote standing for one;
* a number: decimal digits with an optional fraction and exponent, or `0x` and hexadecimal
  digits; digits may be separated by `_`, which marks the number for a later check;
* a blob, `x'…'` with an even number of hexadecimal digits;
* a variable: `?` with optional digits, or `:`, `@`, `#` or `$` with a name;
* a symbol: an operator or punctuation, such as `(`, `;`, `<=` or `->>`;
* an illegal token: a quote never closed (with the rest of the text), a number run on into
  letters, a malformed blob or variable, or a character that starts none of the above.

Every token keeps where it starts, counted in characters and in UTF-8 bytes: messages about a
token give its byte offset.
-/
namespace Shipyard.Sql

/-- The kinds of token. -/
inductive Kind where
  | word
  | quoted
  | string
  | integer
  | float
  /-- A number with `_` between digits. -/
  | separated
  | blob
  | variable
  | symbol
  | illegal
  deriving Repr, DecidableEq, Inhabited

/-- A token of SQL text. -/
structure Token where
  kind : Kind
  /-- The token as written. -/
  text : String
  /-- The number of characters before the token. -/
  index : Nat
  /-- The number of UTF-8 bytes before the token. -/
  offset : Nat
  deriving Repr, Inhabited

/-- Characters that start a blank run. -/
def startsBlank (c : Char) : Bool :=
  c == ' ' || c == '\t' || c == '\n' || c == '\x0c' || c == '\r'

/-- Characters that continue a blank run. -/
def isBlank (c : Char) : Bool := startsBlank c || c == '\x0b'

def isDigit (c : Char) : Bool := '0' ≤ c && c ≤ '9'

def isHexDigit (c : Char) : Bool :=
  isDigit c || ('a' ≤ c && c ≤ 'f') || ('A' ≤ c && c ≤ 'F')

/-- Characters of a word. -/
def isWordChar (c : Char) : Bool :=
  c.isAlphanum || c == '_' || c == '$' || c.toNat ≥ 0x80

/-- The UTF-8 size of some characters. -/
def byteSize (cs : List Char) : Nat := cs.foldl (fun n c => n + c.utf8Size) 0

/-- The length of the run of a quoted token's body up to and including its closing quote `q`,
a doubled `q` standing for one; `none` when the quote is never closed. -/
def quotedLength (q : Char) : List Char → Option Nat
  | [] => none
  | c :: rest =>
    if c == q then
      match rest with
      | d :: more => if d == q then (quotedLength q more).map (· + 2) else some 1
      | [] => some 1
    else (quotedLength q rest).map (· + 1)

/-- The length of a comment's body after `/*`, its close included when there is one. -/
def commentLength : List Char → Nat
  | '*' :: '/' :: _ => 2
  | _ :: rest => commentLength rest + 1
  | [] => 0

/-- The kind of a number token and how many characters it takes, for a text that starts with a
digit or with a point before a digit. -/
def numberToken (cs : List Char) : Kind × Nat :=
  let digits (hex : Bool) (xs : List Char) : List Char :=
    xs.takeWhile fun c => (if hex then isHexDigit c else isDigit c) || c == '_'
  let (kind, n) : Kind × Nat := match cs with
    | '0' :: x :: h :: _ =>
      if (x == 'x' || x == 'X') && isHexDigit h then
        let ds := digits true (cs.drop 2)
        (if ds.contains '_' then .separated else .integer, 2 + ds.length)
      else (.integer, 0)
    | _ => (.integer, 0)
  let (kind, n) := if n > 0 then (kind, n) else
    let whole := digits false cs
    let sep := whole.contains '_'
    let i := whole.length
    let (float, sep, i) := match cs.drop i with
      | '.' :: rest =>
        let frac := digits false rest
        (true, sep || frac.contains '_', i + 1 + frac.length)
      | _ => (false, sep, i)
    let (float, sep, i) := match cs.drop i with
      | e :: d :: rest =>
        let signed := (d == '+' || d == '-') && (rest.head?.map isDigit).getD false
        if (e == 'e' || e == 'E') && (isDigit d || signed) then
          let more := digits false (if signed then rest else d :: rest)
          let taken := if signed then 2 + more.length else 1 + more.length
          (true, sep || more.contains '_', i + taken)
        else (float, sep, i)
      | _ => (float, sep, i)
    ((if sep then .separated else if float then .float else .integer), i)
  let tail := (cs.drop n).takeWhile isWordChar
  if tail.isEmpty then (kind, n) else (.illegal, n + tail.length)

/-- The length of a variable token after its first character, and whether it is well formed:
a name of word characters, which may go on with `::` or end with a parenthesized suffix. -/
def variableLength (cs : List Char) : Nat × Bool :=
  let rec go : Nat → List Char → Nat → Nat × Bool
    | 0, _, n => (0, n > 0)
    | fuel + 1, xs, n => match xs with
      | c :: rest =>
        if isWordChar c then
          let (k, ok) := go fuel rest (n + 1)
          (k + 1, ok)
        else if c == '(' && n > 0 then
          let body := rest.takeWhile fun d => !isBlank d && d != ')'
          match rest.drop body.length with
          | ')' :: _ => (body.length + 2, true)
          | _ => (body.length + 1, false)
        else if c == ':' && rest.head? == some ':' then
          let (k, ok) := go fuel (rest.drop 1) n
          (k + 2, ok)
        else (0, n > 0)
      | [] => (0, n > 0)
  go cs.length cs 0

/-- The kind and length of the token at the head of a text, or `none` for a blank or a
comment of the given length. -/
def headToken (cs : List Char) : Option Kind × Nat :=
  match cs with
  | [] => (none, 0)
  | c :: rest =>
    if startsBlank c then (none, 1 + (rest.takeWhile isBlank).length)
    else if c == '\uFEFF' then (none, 1)
    else match c, rest with
    | '-', '-' :: more => (none, 2 + (more.takeWhile (· != '\n')).length)
    | '-', '>' :: '>' :: _ => (some .symbol, 3)
    | '-', '>' :: _ => (some .symbol, 2)
    | '/', '*' :: d :: more => (none, 2 + commentLength (d :: more))
    | '=', '=' :: _ => (some .symbol, 2)
    | '<', d :: _ => (some .symbol, if d == '=' || d == '>' || d == '<' then 2 else 1)
    | '>', d :: _ => (some .symbol, if d == '=' || d == '>' then 2 else 1)
    | '!', '=' :: _ => (some .symbol, 2)
    | '|', '|' :: _ => (some .symbol, 2)
    | 'x', '\'' :: more | 'X', '\'' :: more =>
      let ds := more.takeWhile isHexDigit
      match more.drop ds.length with
      | '\'' :: _ => (some (if ds.length % 2 == 0 then .blob else .illegal), ds.length + 3)
      | _ =>
        let body := more.takeWhile (· != '\'')
        let closed := more.length > body.length
        (some .illegal, 2 + body.length + (if closed then 1 else 0))
    | _, _ =>
      if c == '\'' || c == '"' || c == '`' then
        match quotedLength c rest with
        | some n => (some (if c == '\'' then .string else .quoted), n + 1)
        | none => (some .illegal, cs.length)
      else if c == '[' then
        let body := rest.takeWhile (· != ']')
        if rest.length > body.length then (some .quoted, body.length + 2)
        else (some .illegal, cs.length)
      else if isDigit c || (c == '.' && (rest.head?.map isDigit).getD false) then
        let (k, n) := numberToken cs
        (some k, n)
      else if c == '?' then (some .variable, 1 + (rest.takeWhile isDigit).length)
      else if c == ':' || c == '@' || c == '#' || c == '$' then
        let (n, ok) := variableLength rest
        (some (if ok then .variable else .illegal), 1 + n)
      else if isWordChar c then (some .word, 1 + (rest.takeWhile isWordChar).length)
      else if "();+*/%=<>,&~.|-".contains c then (some .symbol, 1)
      else (some .illegal, 1)

/-- The tokens of a text that starts `index` characters and `offset` bytes into the whole;
`fuel` bounds the steps, and each step reads at least one character. -/
def scanFrom : Nat → List Char → Nat → Nat → List Token
  | 0, _, _, _ => []
  | _, [], _, _ => []
  | fuel + 1, cs@(_ :: _), index, offset =>
    let (kind, n) := headToken cs
    let n := max n 1
    let taken := cs.take n
    let tail := scanFrom fuel (cs.drop n) (index + n) (offset + byteSize taken)
    match kind with
    | some k => { kind := k, text := String.ofList taken, index, offset } :: tail
    | none => tail

/-- The tokens of a text. A NUL character ends the text. -/
def scan (text : String) : List Token :=
  let cs := text.toList.takeWhile (· != '\x00')
  scanFrom cs.length cs 0 0

end Shipyard.Sql
