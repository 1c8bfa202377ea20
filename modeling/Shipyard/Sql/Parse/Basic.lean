import Shipyard.Sql.Token
import Shipyard.Sql.Error
import Shipyard.Sql.Command
/-!
# Reading tokens

The parser reads a statement's tokens one at a time. A word is a keyword when its upper-case
spelling is one; many keywords may still stand as a name where the keyword itself cannot stand
(`KEY`, `REPLACE`, `END`, …), and the words that name join kinds (`LEFT`, `CROSS`, …) may stand
as names in some places.

A token that the grammar cannot take is a syntax error at that token, or `incomplete input` at
the end of the text; an illegal token is reported as unrecognized when the parser reaches it,
so an error in the tokens before it comes first. Where the end of a statement is read, a
statement's end stands at the end of the text as a `;` would.
-/
namespace Shipyard.Sql

/-- The keywords. -/
def keywords : List String :=
  ["ABORT", "ACTION", "ADD", "AFTER", "ALL", "ALTER", "ALWAYS", "ANALYZE", "AND", "AS", "ASC",
   "ATTACH", "AUTOINCREMENT", "BEFORE", "BEGIN", "BETWEEN", "BY", "CASCADE", "CASE", "CAST",
   "CHECK", "COLLATE", "COLUMN", "COMMIT", "CONFLICT", "CONSTRAINT", "CREATE", "CROSS",
   "CURRENT", "CURRENT_DATE", "CURRENT_TIME", "CURRENT_TIMESTAMP", "DATABASE", "DEFAULT",
   "DEFERRED", "DEFERRABLE", "DELETE", "DESC", "DETACH", "DISTINCT", "DO", "DROP", "END",
   "EACH", "ELSE", "ESCAPE", "EXCEPT", "EXCLUSIVE", "EXCLUDE", "EXISTS", "EXPLAIN", "FAIL",
   "FIRST", "FOLLOWING", "FOR", "FOREIGN", "FROM", "FULL", "GENERATED", "GLOB", "GROUP",
   "GROUPS", "HAVING", "IF", "IGNORE", "IMMEDIATE", "IN", "INDEX", "INDEXED", "INITIALLY",
   "INNER", "INSERT", "INSTEAD", "INTERSECT", "INTO", "IS", "ISNULL", "JOIN", "KEY", "LAST",
   "LEFT", "LIKE", "LIMIT", "MATCH", "MATERIALIZED", "NATURAL", "NO", "NOT", "NOTHING",
   "NOTNULL", "NULL", "NULLS", "OF", "OFFSET", "ON", "OR", "ORDER", "OTHERS", "OUTER",
   "PARTITION", "PLAN", "PRAGMA", "PRECEDING", "PRIMARY", "QUERY", "RAISE", "RANGE",
   "RECURSIVE", "REFERENCES", "REGEXP", "REINDEX", "RELEASE", "RENAME", "REPLACE", "RESTRICT",
   "RETURNING", "RIGHT", "ROLLBACK", "ROW", "ROWS", "SAVEPOINT", "SELECT", "SET", "TABLE",
   "TEMP", "TEMPORARY", "THEN", "TIES", "TO", "TRANSACTION", "TRIGGER", "UNBOUNDED", "UNION",
   "UNIQUE", "UPDATE", "USING", "VACUUM", "VALUES", "VIEW", "VIRTUAL", "WHEN", "WHERE", "WITH",
   "WITHOUT"]

/-- The keywords that stand as a name where the keyword cannot stand. -/
def fallbackWords : List String :=
  ["ABORT", "ACTION", "AFTER", "ANALYZE", "ASC", "ATTACH", "BEFORE", "BEGIN", "BY", "CASCADE",
   "CAST", "COLUMN", "CONFLICT", "DATABASE", "DEFERRED", "DESC", "DETACH", "DO", "EACH", "END",
   "EXCLUSIVE", "EXPLAIN", "FAIL", "FOR", "IGNORE", "IMMEDIATE", "INITIALLY", "INSTEAD",
   "LIKE", "GLOB", "REGEXP", "MATCH", "NO", "PLAN", "QUERY", "KEY", "OF", "OFFSET", "PRAGMA",
   "RAISE", "RECURSIVE", "RELEASE", "REPLACE", "RESTRICT", "ROW", "ROWS", "ROLLBACK",
   "SAVEPOINT", "TEMP", "TEMPORARY", "TRIGGER", "VACUUM", "VIEW", "VIRTUAL", "WITH", "WITHOUT",
   "NULLS", "FIRST", "LAST", "CURRENT", "FOLLOWING", "PARTITION", "PRECEDING", "RANGE",
   "UNBOUNDED", "EXCLUDE", "GROUPS", "OTHERS", "TIES", "GENERATED", "ALWAYS", "MATERIALIZED",
   "REINDEX", "RENAME", "CURRENT_DATE", "CURRENT_TIME", "CURRENT_TIMESTAMP", "IF"]

/-- The words that name kinds of join. -/
def joinWords : List String := ["CROSS", "FULL", "INNER", "LEFT", "NATURAL", "OUTER", "RIGHT"]

/-- The text inside quotes, read as far as the first closing quote that is not doubled; a
doubled quote stands for one. A text that does not start with a quote is kept. -/
def dequote (s : String) : String :=
  match s.toList with
  | q :: rest =>
    if q == '\'' || q == '"' || q == '`' || q == '[' then
      let close := if q == '[' then ']' else q
      let rec go : List Char → List Char
        | a :: b :: more =>
          if a == close then (if b == close then a :: go more else []) else a :: go (b :: more)
        | [a] => if a == close then [] else [a]
        | [] => []
      String.ofList (go rest)
    else s
  | [] => s

namespace Token

def upper (t : Token) : String := t.text.toUpper

/-- Whether the token is the word `w` (given in upper case). -/
def isWord (t : Token) (w : String) : Bool := t.kind == .word && t.upper == w

/-- Whether the token is one of the words. -/
def isOneOf (t : Token) (ws : List String) : Bool := t.kind == .word && ws.contains t.upper

def isSymbol (t : Token) (s : String) : Bool := t.kind == .symbol && t.text == s

/-- Whether the token is a keyword. -/
def isKeyword (t : Token) : Bool := t.kind == .word && keywords.contains t.upper

/-- Whether the token is the end of the text. -/
def isEnd (t : Token) : Bool := t.text.isEmpty

/-- Whether the token ends a statement. -/
def endsStatement (t : Token) : Bool := t.isEnd || t.isSymbol ";"

/-- Whether the token can stand as a plain name: a quoted name, a word that is no keyword, or a
keyword that falls back to a name. -/
def isPlainId (t : Token) : Bool :=
  t.kind == .quoted || (t.kind == .word && (!t.isKeyword || fallbackWords.contains t.upper))

/-- Whether the token can stand as an identifier, `INDEXED` included. -/
def isId (t : Token) : Bool := t.isPlainId || t.isWord "INDEXED"

def isJoinWord (t : Token) : Bool := t.isOneOf joinWords

/-- Whether the token can stand as a name of an object: an identifier, a string or a join
word. -/
def isNm (t : Token) : Bool := t.isId || t.kind == .string || t.isJoinWord

/-- Whether the token can stand as a type word or an alias without `AS`: a plain name or a
string. -/
def isIds (t : Token) : Bool := t.isPlainId || t.kind == .string

/-- The name a token stands for. -/
def toName (t : Token) : Name :=
  let quoted := t.kind == .quoted || t.kind == .string
  { text := if quoted then dequote t.text else t.text, offset := t.offset, quoted,
    doubleQuoted := t.kind == .quoted && t.text.startsWith "\"" }

/-- The failure at a token the grammar cannot take. -/
def syntaxError (t : Token) : SqlError :=
  if t.isEnd then .plain "incomplete input"
  else .atOffset ("near \"" ++ t.text ++ "\": syntax error") t.offset

/-- The failure at an illegal token. -/
def unrecognized (t : Token) : SqlError :=
  .atOffset ("unrecognized token: \"" ++ t.text ++ "\"") t.offset

end Token

/-- What the parser reads: the tokens, the characters of the whole text (for the text of
expressions and types), and the database (for the checks made while a statement is read). -/
structure ParseEnv where
  tokens : Array Token
  chars : Array Char
  bytes : Nat
  db : Database
  deriving Inhabited

/-- Where the parser stands: the next token, where the last token read ends (in characters),
whether a `WITH` clause has been read, how many parameters, the table being made, and the
name that a `CONSTRAINT` clause gave the constraints after it. -/
structure ParseState where
  pos : Nat := 0
  lastEnd : Nat := 0
  hasWith : Bool := false
  parameterCount : Nat := 0
  draft : Option TableDraft := none
  constraintName : Option Token := none
  deriving Inhabited

abbrev ParseM := ReaderT ParseEnv (StateT ParseState (Except SqlError))

namespace ParseM

/-- The token at the end of the text. -/
def endToken : ParseM Token := do
  let env ← read
  return { kind := .symbol, text := "", index := env.chars.size, offset := env.bytes }

/-- The token `k` places ahead, unchecked. -/
def lookAt (k : Nat) : ParseM Token := do
  let env ← read
  match env.tokens[(← get).pos + k]? with
  | some t => pure t
  | none => endToken

/-- The next token; an illegal one is reported here. -/
def peek : ParseM Token := do
  let t ← lookAt 0
  if t.kind == .illegal then throw t.unrecognized
  pure t

/-- Moves past the next token. -/
def advance : ParseM Unit := do
  let t ← lookAt 0
  modify fun s => { s with pos := s.pos + 1, lastEnd := t.index + t.text.length }

/-- Reads the next token. -/
def next : ParseM Token := do
  let t ← peek
  advance
  pure t

/-- Fails at the next token. -/
def unexpected : ParseM α := do throw (← peek).syntaxError

/-- Reads the word `w`. -/
def expectWord (w : String) : ParseM Token := do
  let t ← peek
  if t.isWord w then advance; pure t else throw t.syntaxError

/-- Reads the symbol `s`. -/
def expectSymbol (s : String) : ParseM Token := do
  let t ← peek
  if t.isSymbol s then advance; pure t else throw t.syntaxError

/-- Reads the word `w` if it is next. -/
def acceptWord (w : String) : ParseM Bool := do
  if (← peek).isWord w then advance; pure true else pure false

/-- Reads the symbol `s` if it is next. -/
def acceptSymbol (s : String) : ParseM Bool := do
  if (← peek).isSymbol s then advance; pure true else pure false

/-- Reads an object name (`nm`). -/
def nm : ParseM Name := do
  let t ← peek
  if t.isNm then advance; pure t.toName else throw t.syntaxError

/-- Reads an object name (`nm`) as its token. -/
def nmToken : ParseM Token := do
  let t ← peek
  if t.isNm then advance; pure t else throw t.syntaxError

/-- Reads an identifier (`id`). -/
def ident : ParseM Name := do
  let t ← peek
  if t.isId then advance; pure t.toName else throw t.syntaxError

/-- The text between two character positions, blanks at both ends dropped. -/
def textBetween (start stop : Nat) : ParseM String := do
  let env ← read
  let cs := (env.chars.extract start stop).toList
  let isBlank (c : Char) := c == ' ' || c == '\t' || c == '\n' || c == '\x0b' || c == '\x0c' ||
    c == '\r'
  let cs := cs.dropWhile isBlank
  pure (String.ofList (cs.reverse.dropWhile isBlank).reverse)

/-- Whether the next token can start a query. -/
def startsQuery : ParseM Bool := do
  let t ← lookAt 0
  pure (t.isWord "SELECT" || t.isWord "VALUES" || t.isWord "WITH")

/-- Runs a check that the grammar makes when it reads the next token: when the check fails
and the token cannot follow, the syntax error at the token is reported over it, keeping the
check's offset. -/
def checkBefore (follows : Token → Bool) (check : ParseM α) : ParseM α := do
  let t ← peek
  tryCatch check fun e =>
    if follows t then throw e else throw (e.after t.syntaxError)

/-- Fuel for reading the rest of the text: enough for any nesting its tokens can make. -/
def fuel : ParseM Nat := do
  let env ← read
  pure (8 * (env.tokens.size - (← get).pos) + 64)

/-- The table being made, if any. -/
def currentDraft : ParseM (Option TableDraft) := do pure (← get).draft

/-- Replaces the table being made. -/
def setDraft (d : Option TableDraft) : ParseM Unit := modify fun s => { s with draft := d }

end ParseM

/-- An optional sign and a number, as in a type's size. -/
def ParseM.signedNumber : ParseM Unit := do
  let t ← ParseM.peek
  if t.isSymbol "+" || t.isSymbol "-" then ParseM.advance
  let n ← ParseM.peek
  if n.kind == .integer || n.kind == .float then ParseM.advance else throw n.syntaxError

/-- A type as written: one or more type words, then perhaps one or two sizes in parentheses;
the text from its first token to its last, or empty when there is none. -/
def ParseM.typeToken : ParseM String := do
  let first ← ParseM.peek
  if !first.isIds then return ""
  ParseM.advance
  for _ in [0:(← read).tokens.size] do
    if !(← ParseM.peek).isIds then break
    ParseM.advance
  if (← ParseM.peek).isSymbol "(" then
    ParseM.advance
    ParseM.signedNumber
    if ← ParseM.acceptSymbol "," then ParseM.signedNumber
    let _ ← ParseM.expectSymbol ")"
  let stop := (← get).lastEnd
  let env ← read
  pure (String.ofList (env.chars.extract first.index stop).toList)

end Shipyard.Sql
