import Shipyard.Sql.Syntax
import Shipyard.Sql.Error
/-!
# Full-text search

A full-text table keeps its rows as they are given and answers `MATCH` queries about the words
of its columns; columns declared `UNINDEXED` are kept but not searched.

Text is split into tokens: the runs of ASCII letters and digits and of characters beyond ASCII,
with ASCII letters folded to lower case.

A query is read from its own text:

* a phrase is a bare word (ASCII letters, digits, `_` and characters beyond ASCII) or a
  double-quoted string (a doubled quote standing for one), split into tokens as text is; a `*`
  after it lets its last token be the start of a longer one, `+` joins phrases into one, and
  `^` before it ties it to the start of a column;
* `NEAR(p q …, N)` holds when its phrases stand close together in one column: each starts at
  most N tokens (10 when not given) plus its own length before the last one starts;
* phrases side by side must all hold;
* a column filter `c : …`, `{c d …} : …`, `-c : …` or `-{c d …} : …` restricts the phrase or
  parenthesised query after it to those columns, or to the others;
* `NOT`, `AND` and `OR`, written in capitals, combine queries, `NOT` binding tightest and `OR`
  loosest, each from the left; `a NOT b` holds where `a` holds and `b` does not.

A phrase holds in a row when its tokens stand one after another in a column that its filters
allow. A phrase with no tokens is left out, and a query left with nothing matches no row.
-/
namespace Shipyard.Sql

namespace FullText

/-- Whether a character is part of a token of text: an ASCII letter or digit, or a character
beyond ASCII. -/
def isTokenChar (c : Char) : Bool := c.isAlphanum || c.toNat ≥ 128

/-- The tokens of a text, ASCII letters folded to lower case. -/
def tokens (s : String) : List String :=
  let rec go (acc : List String) (word : List Char) : List Char → List String
    | [] => if word.isEmpty then acc.reverse else (String.ofList word.reverse :: acc).reverse
    | c :: rest =>
      if isTokenChar c then go acc (c.toLower :: word) rest
      else if word.isEmpty then go acc [] rest
      else go (String.ofList word.reverse :: acc) [] rest
  go [] [] s.toList

/-- A phrase: its tokens, whether the last may be the start of a longer token, whether it must
start a column, and the columns it may stand in. -/
structure Phrase where
  words : List String
  truncated : Bool := false
  initial : Bool := false
  columns : List Nat
  deriving Inhabited

/-- A query. -/
inductive Query where
  | phrases (ps : List Phrase)
  | near (ps : List Phrase) (distance : Nat)
  | and (a b : Query)
  | or (a b : Query)
  | not (a b : Query)
  | nothing
  deriving Inhabited

/-- A unit of a query's text: a word (bare or quoted, with its text), a keyword, a symbol, or
the end; each keeps its text as written, for messages. -/
inductive Lexeme where
  | word (text : String)
  | keyword (k : String)
  | symbol (c : Char)
  | stop
  deriving Inhabited, BEq

/-- Whether a character may stand in a bare word of a query. -/
def isBareChar (c : Char) : Bool :=
  c.isAlphanum || c == '_' || c.toNat == 26 || c.toNat ≥ 128

/-- The failure of a query that cannot be read, near the text of a lexeme. -/
def syntaxError (near : String) : SqlError := .plain ("fts5: syntax error near \"" ++ near ++ "\"")

/-- The lexemes of a query, each with its text as written. -/
def lex (s : String) : Except SqlError (List (Lexeme × String)) :=
  let rec go (fuel : Nat) (acc : List (Lexeme × String)) (cs : List Char) :
      Except SqlError (List (Lexeme × String)) :=
    match fuel with
    | 0 => .ok (acc.reverse ++ [(.stop, "")])
    | fuel + 1 =>
      match cs with
      | [] => .ok (acc.reverse ++ [(.stop, "")])
      | c :: rest =>
        if c == ' ' || c == '\t' || c == '\n' || c == '\r' || c.toNat == 12 || c.toNat == 11 then
          go fuel acc rest
        else if "(){}:,+*-^".contains c then go fuel ((.symbol c, c.toString) :: acc) rest
        else if c == '"' then
          match quoted [] rest with
          | some (text, raw, after) => go fuel ((.word text, "\"" ++ raw) :: acc) after
          | none => .error (.plain "unterminated string")
        else if isBareChar c then
          let word := cs.takeWhile isBareChar
          let text := String.ofList word
          let lexeme := if text == "AND" || text == "OR" || text == "NOT" then Lexeme.keyword text
            else .word text
          go fuel ((lexeme, text) :: acc) (cs.dropWhile isBareChar)
        else .error (syntaxError c.toString)
  go (s.length + 1) [] s.toList
where
  /-- The rest of a quoted string: its text, its text as written up to the closing quote, and
  what follows. -/
  quoted (text : List Char) : List Char → Option (String × String × List Char)
    | [] => none
    | '"' :: '"' :: rest =>
      (quoted ('"' :: text) rest).map fun (t, raw, after) => (t, "\"\"" ++ raw, after)
    | '"' :: rest => some (String.ofList text.reverse, "\"", rest)
    | c :: rest => (quoted (c :: text) rest).map fun (t, raw, after) => (t, c.toString ++ raw, after)

/-- What reading a query knows: the names of the table's columns and which are searched. -/
structure Layout where
  names : List String
  searched : List Bool
  deriving Inhabited

/-- The columns that are searched. -/
def Layout.all (l : Layout) : List Nat :=
  (l.searched.zipIdx.filter (·.1)).map (·.2)

/-- Reading a query: the lexemes left. -/
abbrev ReadM := StateT (List (Lexeme × String)) (Except SqlError)

def peek : ReadM (Lexeme × String) := do return (← get).head?.getD (.stop, "")

def peek2 : ReadM Lexeme := do return ((← get).drop 1).head?.map (·.1) |>.getD .stop

def advance : ReadM Unit := modify (·.drop 1)

/-- Fails near the next lexeme. -/
def failNext : ReadM α := do throw (syntaxError (← peek).2)

/-- Takes a symbol, or fails near what stands there. -/
def expectSymbol (c : Char) : ReadM Unit := do
  if (← peek).1 == .symbol c then advance else failNext

/-- The column of a name in a filter. -/
def columnNamed (l : Layout) (n : String) : ReadM Nat :=
  match l.names.findIdx? (sameName · n) with
  | some i => pure i
  | none => throw (.plain ("no such column: " ++ n))

/-- A column filter, before its colon: the columns it allows. -/
def columnFilter (l : Layout) (fuel : Nat) : ReadM (List Nat) := do
  let invert ← if (← peek).1 == .symbol '-' then do advance; pure true else pure false
  let named ← match (← peek).1 with
    | .symbol '{' => do
      advance
      let mut cols : List Nat := []
      for _ in [0:fuel] do
        match (← peek).1 with
        | .word n => advance; cols := cols ++ [← columnNamed l n]
        | _ => break
      if cols.isEmpty then failNext
      expectSymbol '}'
      pure cols
    | .word n => do advance; pure [← columnNamed l n]
    | _ => failNext
  let all := (List.range l.names.length)
  pure (if invert then all.filter (!named.contains ·) else named)

/-- A phrase: words joined by `+`, each perhaps followed by `*`. -/
def phrase (columns : List Nat) (fuel : Nat) : ReadM Phrase := do
  let mut words : List String := []
  let mut truncated := false
  for i in [0:fuel] do
    if i > 0 then
      if (← peek).1 == .symbol '+' then advance else break
    match (← peek).1 with
    | .word w => advance; words := words ++ tokens w
    | _ => failNext
    truncated := false
    if (← peek).1 == .symbol '*' then
      advance
      truncated := true
  pure { words, truncated, columns }

/-- A set of phrases that must stand near each other (`NEAR(…)`), or one phrase, perhaps tied
to the start of a column. -/
def nearSet (columns : List Nat) (fuel : Nat) : ReadM Query := do
  match (← peek).1, ← peek2 with
  | .symbol '^', _ => do
    advance
    let p ← phrase columns fuel
    pure (.phrases [{ p with initial := true }])
  | .word w, .symbol '(' => do
    if w != "NEAR" then failNext
    advance
    advance
    let mut ps : List Phrase := [← phrase columns fuel]
    for _ in [0:fuel] do
      match (← peek).1 with
      | .word _ => ps := ps ++ [← phrase columns fuel]
      | _ => break
    let mut distance := 10
    if (← peek).1 == .symbol ',' then
      advance
      match ← peek with
      | (.word d, raw) =>
        if d.isEmpty || !d.all Char.isDigit then
          throw (.plain ("expected integer, got \"" ++ raw ++ "\""))
        advance
        distance := d.toNat!
      | _ => failNext
    expectSymbol ')'
    pure (.near ps distance)
  | .word _, _ => do
    let p ← phrase columns fuel
    pure (.phrases [p])
  | _, _ => failNext

/-- Whether the lexemes ahead begin a column filter. -/
def filterAhead : ReadM Bool := do
  match (← peek).1, ← peek2 with
  | .symbol '-', _ | .symbol '{', _ => pure true
  | .word _, .symbol ':' => pure true
  | _, _ => pure false

/-- Both queries, leaving out one that is nothing. -/
def both (a b : Query) : Query :=
  match a, b with
  | .nothing, q | q, .nothing => q
  | _, _ => .and a b

/-- The level of a keyword: `OR` loosest, `NOT` tightest. -/
def level : String → Nat
  | "OR" => 1
  | "AND" => 2
  | _ => 3

/-- Combines two queries by a keyword. -/
def combine (k : String) (a b : Query) : Query :=
  match k with
  | "OR" => match a, b with
    | .nothing, q | q, .nothing => q
    | _, _ => .or a b
  | "AND" => both a b
  | _ => match a, b with
    | .nothing, _ => .nothing
    | q, .nothing => q
    | _, _ => .not a b

mutual

/-- A query whose keywords bind at least as tightly as `least`. -/
def expr : Nat → Layout → List Nat → Nat → ReadM Query
  | 0, _, _, _ => failNext
  | fuel + 1, l, cols, least => do
    let mut q ← operand fuel l cols
    for _ in [0:fuel] do
      match (← peek).1 with
      | .keyword k =>
        if level k < least then break
        advance
        let r ← expr fuel l cols (level k + 1)
        q := combine k q r
      | _ => break
    pure q

/-- An operand of the keywords: a parenthesised query, a filtered one, or phrases side by
side. -/
def operand : Nat → Layout → List Nat → ReadM Query
  | 0, _, _ => failNext
  | fuel + 1, l, cols => do
    if (← peek).1 == .symbol '(' then
      advance
      let q ← expr fuel l cols 1
      expectSymbol ')'
      return q
    if ← filterAhead then
      let allowed ← columnFilter l fuel
      expectSymbol ':'
      let inner := cols.filter allowed.contains
      if (← peek).1 == .symbol '(' then
        advance
        let q ← expr fuel l inner 1
        expectSymbol ')'
        return q
      let first ← nearSet inner fuel
      sideBySide fuel l cols first
    else
      let first ← nearSet cols fuel
      sideBySide fuel l cols first

/-- Phrases after the first, side by side with it, each perhaps filtered. -/
def sideBySide : Nat → Layout → List Nat → Query → ReadM Query
  | 0, _, _, q => pure q
  | fuel + 1, l, cols, q => do
    match (← peek).1 with
    | .word _ | .symbol '^' | .symbol '-' | .symbol '{' =>
      if ← filterAhead then
        let allowed ← columnFilter l fuel
        expectSymbol ':'
        let next ← nearSet (cols.filter allowed.contains) fuel
        sideBySide fuel l cols (both q next)
      else
        let next ← nearSet cols fuel
        sideBySide fuel l cols (both q next)
    | _ => pure q

end

/-- Reads a whole query over the columns given, which a filter narrows. -/
def parse (l : Layout) (columns : List Nat) (text : String) : Except SqlError Query := do
  let lexemes ← lex text
  let fuel := 4 * lexemes.length + 8
  let prog : ReadM Query := do
    let q ← expr fuel l columns 1
    if (← peek).1 != .stop then failNext
    pure q
  let (q, _) ← prog.run lexemes
  pure (simplify q)
where
  /-- Leaves out phrases without tokens, and what is left with nothing. -/
  simplify : Query → Query
    | .phrases ps => match ps.filter (!·.words.isEmpty) with
      | [] => .nothing
      | qs => .phrases qs
    | .near ps d => match ps.filter (!·.words.isEmpty) with
      | [] => .nothing
      | qs => .near qs d
    | .and a b => both (simplify a) (simplify b)
    | .or a b => combine "OR" (simplify a) (simplify b)
    | .not a b => combine "NOT" (simplify a) (simplify b)
    | .nothing => .nothing

/-- Where a phrase starts in a column's tokens. -/
def starts (p : Phrase) (toks : List String) : List Nat :=
  let n := p.words.length
  (List.range toks.length).filter fun i =>
    (!p.initial || i == 0) && i + n ≤ toks.length &&
      (p.words.zipIdx.all fun (w, k) =>
        let t := toks[i + k]?.getD ""
        if p.truncated && k + 1 == n then t.startsWith w else t == w)

/-- Whether every phrase can be placed, one start each, close to the latest start. -/
def placed (distance : Nat) (choices : List (Nat × List Nat)) : Bool :=
  let rec pick : List (Nat × List Nat) → List (Nat × Nat) → Bool
    | [], chosen =>
      let latest := chosen.foldl (fun m (s, _) => max m s) 0
      chosen.all fun (s, len) => s + len + distance ≥ latest
    | (len, ss) :: rest, chosen => ss.any fun s => pick rest ((s, len) :: chosen)
  pick choices []

/-- Whether a query holds for the tokens of each column. -/
def holds (cols : List (List String)) : Query → Bool
  | .phrases ps => ps.all fun p => p.columns.any fun c => !(starts p (cols[c]?.getD [])).isEmpty
  | .near ps d =>
    let common := (ps.head?.map (·.columns)).getD []
    common.any fun c => placed d (ps.map fun p =>
      (p.words.length, if p.columns.contains c then starts p (cols[c]?.getD []) else []))
  | .and a b => holds cols a && holds cols b
  | .or a b => holds cols a || holds cols b
  | .not a b => holds cols a && !holds cols b
  | .nothing => false

/-- Whether a row of a full-text table matches a query: over every searched column, or over one
column when the query was put to that column. -/
def rowMatches (l : Layout) (values : List Value) (column : Option Nat) (query : String) :
    Except SqlError Bool := do
  let columns := match column with
    | some c => if l.searched.getD c false then [c] else []
    | none => l.all
  let q ← parse l columns query
  let cols := l.names.zipIdx.map fun (_, i) =>
    if l.searched.getD i false then tokens (((values[i]?.getD .null).text?).getD "") else []
  pure (holds cols q)

end FullText

end Shipyard.Sql
