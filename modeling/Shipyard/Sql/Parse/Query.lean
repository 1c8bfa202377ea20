import Shipyard.Sql.Parse.Basic
import Shipyard.Sql.Resolve
/-!
# Reading expressions and queries

Expressions are read by precedence: each operator has a level, from `OR` (1) up to the prefix
operators (12), and an operand takes the operators after it for as long as they bind at least
as tightly as the level it was read at. The levels are

* 1 `OR`, 2 `AND`, 3 prefix `NOT`;
* 4 `IS`, `LIKE`, `GLOB`, `REGEXP`, `MATCH`, `BETWEEN`, `IN`, `ISNULL`, `NOTNULL`, `NOT NULL`,
  `=`, `==`, `!=`, `<>`;
* 5 `<`, `<=`, `>`, `>=`; 7 `&`, `|`, `<<`, `>>`; 8 `+`, `-`; 9 `*`, `/`, `%`;
* 10 `||`, `->`, `->>`; 11 `COLLATE`; 12 prefix `-`, `+`, `~`.

All binary operators group to the left. The low bound of `BETWEEN` stops at its `AND`; the
pattern and escape of `LIKE` and the right side of `IS` and `=` are read one level up.

A query is read as its common table expressions, its cores joined by compound operators, and
the ordering and limit of the last core. A core before a compound operator may have neither.
A `VALUES` list whose rows hold only constants is checked for its width as it is read; other
lists are checked when names are resolved.

Every function of the mutual block takes fuel, which bounds the nesting of what it reads.
-/
namespace Shipyard.Sql

namespace ParseM

/-- The failure for a statement nested too deeply. -/
def tooDeep : SqlError := .plain "parser stack overflow"

/-- The words that read the current date or time. -/
def currentWords : List String := ["CURRENT_DATE", "CURRENT_TIME", "CURRENT_TIMESTAMP"]

/-- The value of a hexadecimal digit. -/
def hexValue (c : Char) : Nat :=
  if c.isDigit then c.toNat - 48
  else if 'a' ≤ c && c ≤ 'f' then c.toNat - 87
  else if 'A' ≤ c && c ≤ 'F' then c.toNat - 55
  else 0

/-- The bytes that hexadecimal digits spell, two digits to a byte. -/
def hexBytes : List Char → List UInt8
  | a :: b :: rest => (hexValue a * 16 + hexValue b).toUInt8 :: hexBytes rest
  | _ => []

/-- A binary operator and its level, for the operators written as one token. -/
def binaryOperator (t : Token) : Option (BinaryOp × Nat) :=
  if t.kind == .word then
    match t.upper with
    | "OR" => some (.or, 1)
    | "AND" => some (.and, 2)
    | _ => none
  else if t.kind == .symbol then
    match t.text with
    | "=" | "==" => some (.eq, 4)
    | "!=" | "<>" => some (.ne, 4)
    | "<" => some (.lt, 5)
    | "<=" => some (.le, 5)
    | ">" => some (.gt, 5)
    | ">=" => some (.ge, 5)
    | "&" => some (.bitAnd, 7)
    | "|" => some (.bitOr, 7)
    | "<<" => some (.shl, 7)
    | ">>" => some (.shr, 7)
    | "+" => some (.add, 8)
    | "-" => some (.sub, 8)
    | "*" => some (.mul, 9)
    | "/" => some (.div, 9)
    | "%" => some (.rem, 9)
    | "||" => some (.concat, 10)
    | "->" => some (.arrow, 10)
    | "->>" => some (.arrowText, 10)
    | _ => none
  else none

/-- Whether a token is one of the pattern operators. -/
def isLikeWord (t : Token) : Bool := t.isOneOf ["LIKE", "GLOB", "REGEXP", "MATCH"]

/-- A number written with `_` separators. Each separator must stand between two digits
(hexadecimal digits in a hexadecimal number); the message names the text as far as the
separators before the faulty one had been taken out. -/
def separatedNumber (t : Token) : Except SqlError Expr := do
  let cs := t.text.toList.toArray
  let hex := match t.text.toList with
    | '0' :: x :: _ => x == 'x' || x == 'X'
    | _ => false
  let digit (c : Char) : Bool := if hex then isHexDigit c else isDigit c
  let mut out : Array Char := #[]
  let mut isFloat := false
  let mut failure : Option String := none
  for i in [0:cs.size] do
    let c := cs[i]!
    if c != '_' then
      out := out.push c
      if c == 'e' || c == 'E' || c == '.' then isFloat := true
    else
      let before := if i == 0 then ' ' else cs[i - 1]!
      let after := cs[i + 1]?.getD ' '
      if !digit before || !digit after then
        failure := some (String.ofList (out.toList ++ (cs.toList.drop out.size)))
  match failure with
  | some shown => throw (.plain ("unrecognized token: \"" ++ shown ++ "\""))
  | none =>
    let text := String.ofList out.toList
    if isFloat && !hex then pure (.float text) else pure (.integer text t.offset)

/-- A parameter: a bare `?` takes the number after the largest so far, `?N` takes `N`. -/
def parameter (t : Token) : ParseM Expr := do
  if t.text == "?" then
    let n := (← get).parameterCount + 1
    modify fun s => { s with parameterCount := n }
    pure (.variable ("?" ++ toString n) t.offset)
  else
    if t.text.startsWith "?" then
      let n := digitsValue (t.text.toList.drop 1)
      if n < 1 || n > 32766 then
        throw (.plain "variable number must be between ?1 and ?32766")
      modify fun s => { s with parameterCount := max s.parameterCount n }
    else
      modify fun s => { s with parameterCount := s.parameterCount + 1 }
    pure (.variable t.text t.offset)

/-- Whether the next tokens open a `WINDOW` clause: the word, a name, then `AS`. Elsewhere
the word is a name. -/
def atWindowClause : ParseM Bool := do
  pure ((← lookAt 0).isWord "WINDOW" && (← lookAt 1).isNm && (← lookAt 2).isWord "AS")

/-- A call of a function: a plain call, or one with a `FILTER` or `OVER` clause. -/
def callOf (name : Name) (args : List Expr) (distinct star : Bool) (filter : Option Expr)
    (window : Option Window) (order : List Term) : Expr :=
  if filter.isNone && window.isNone then .call name args distinct star order
  else .windowCall name args distinct star filter window order

/-- Whether a frame's two ends are in an order that a frame can take: the start may not come
later than the end in the list unbounded preceding, preceding, current row, following,
unbounded following. -/
def frameFits : FrameBound → FrameBound → Bool
  | .currentRow, .preceding _ => false
  | .following _, .preceding _ => false
  | .following _, .currentRow => false
  | _, _ => true

/-- A window's name as written, quotes and all: windows are found by their names as written. -/
def rawName (t : Token) : Name := { t.toName with text := t.text }

/-- A window of a `WINDOW` clause with no window before it to extend: a base name is let go. -/
def unbased : Window → Window
  | .named _ partition order frame _ => .spec partition order frame
  | w => w

/-- The name a type or collation is given by: one token that can stand as a type word. -/
def typeWord : ParseM String := do
  let t ← peek
  if t.isIds then advance; pure t.toName.text else throw t.syntaxError

/-- An alias: `AS name`, or a bare name that does not open a `WINDOW` clause. -/
def aliasName : ParseM (Option Name) := do
  let t ← peek
  if t.isWord "AS" then
    advance
    some <$> nm
  else if t.isIds && !(← atWindowClause) then
    advance
    pure (some t.toName)
  else pure none

/-- The kind of a join, from the words before `JOIN`; the offset is that of the first word. -/
def joinKind (words : List Token) : Except SqlError (Bool × JoinKind) := do
  let mut natural := false
  let mut left := false
  let mut right := false
  let mut inner := false
  let mut cross := false
  let mut outer := false
  let mut bad := false
  for w in words do
    match w.upper with
    | "NATURAL" => natural := true
    | "LEFT" => left := true
    | "RIGHT" => right := true
    | "FULL" => left := true; right := true
    | "INNER" => inner := true
    | "CROSS" => cross := true
    | "OUTER" => outer := true
    | _ => bad := true
  let outerWrong := outer && !left && !right
  let mixed := (inner || cross) && (left || right)
  let naturalCross := natural && cross
  if bad || outerWrong || mixed || naturalCross then
    let shown := " ".intercalate (words.map (·.text))
    let first := (words.head?.map (·.offset)).getD 0
    throw (.atOffset ("unknown join type: " ++ shown) first)
  let kind : JoinKind :=
    if left && right then .full else if left then .left else if right then .right
    else if cross then .cross else .inner
  pure (natural, kind)

/-- The words of a join operator: `,`, `JOIN`, or up to three words then `JOIN`. -/
def joinOperator : ParseM (Option (Bool × JoinKind)) := do
  let t ← peek
  if t.isSymbol "," then advance; return some (false, .inner)
  if t.isWord "JOIN" then advance; return some (false, .inner)
  if !t.isJoinWord then return none
  advance
  let mut words := [t]
  for _ in [0:2] do
    let u ← peek
    if u.isWord "JOIN" then break
    if u.isNm then
      advance
      words := words ++ [u]
    else throw u.syntaxError
  let _ ← expectWord "JOIN"
  match joinKind words with
  | .ok k => pure (some k)
  | .error e => throw e

/-- Whether an expression is a constant as `VALUES` rows read as they come count one:
literals, parameters, `true` and `false`, and operators over them; no names, calls or
subqueries. -/
def isConstantTerm : Nat → Expr → Bool
  | 0, _ => false
  | fuel + 1, e => match e with
    | .literal _ | .integer _ _ | .float _ | .variable _ _ => true
    | .column n => !n.quoted && (sameName n.text "true" || sameName n.text "false")
    | .unary _ a | .collate a _ | .cast a _ | .isNull a _ => isConstantTerm fuel a
    | .binary _ a b => isConstantTerm fuel a && isConstantTerm fuel b
    | .between a l h _ => isConstantTerm fuel a && isConstantTerm fuel l && isConstantTerm fuel h
    | .inList a items _ => isConstantTerm fuel a && items.all (isConstantTerm fuel)
    | .case o bs x => (o.map (isConstantTerm fuel)).getD true &&
        bs.all (fun (.mk c r) => isConstantTerm fuel c && isConstantTerm fuel r) &&
        (x.map (isConstantTerm fuel)).getD true
    | .vector items => items.all (isConstantTerm fuel)
    | _ => false

/-- Whether an expression carries an affinity before names are resolved: a `CAST`, or a
subquery or row value whose first column does. -/
def hasAffinity : Nat → Expr → Bool
  | 0, _ => false
  | fuel + 1, e => match e with
    | .cast _ _ => true
    | .collate a _ => hasAffinity fuel a
    | .vector (a :: _) => hasAffinity fuel a
    | .subquery (.mk _ _ (.select _ (.expr a _ _ :: _) _ _ _ _ _) _ _ _ _) => hasAffinity fuel a
    | .subquery (.mk _ _ (.values ((a :: _) :: _)) _ _ _ _) => hasAffinity fuel a
    | _ => false

end ParseM

open ParseM

mutual

/-- An expression whose operators bind at least as tightly as `level`. -/
def ParseM.expr : Nat → Nat → ParseM Expr
  | 0, _ => throw tooDeep
  | fuel + 1, level => do
    let e ← ParseM.operand fuel
    ParseM.operators fuel level e

/-- An operand: a prefix operator with its operand, or a primary term. -/
def ParseM.operand : Nat → ParseM Expr
  | 0 => throw tooDeep
  | fuel + 1 => do
    let t ← peek
    if t.isWord "NOT" then
      advance
      return .unary .not (← ParseM.expr fuel 3)
    else if t.isSymbol "-" then
      advance
      return .unary .neg (← ParseM.expr fuel 12)
    else if t.isSymbol "+" then
      advance
      return .unary .pos (← ParseM.expr fuel 12)
    else if t.isSymbol "~" then
      advance
      return .unary .bitNot (← ParseM.expr fuel 12)
    else ParseM.primary fuel

/-- The operators after an operand, while they bind at least as tightly as `level`. -/
def ParseM.operators : Nat → Nat → Expr → ParseM Expr
  | 0, _, _ => throw tooDeep
  | fuel + 1, level, lhs => do
    let t ← peek
    match binaryOperator t with
    | some (op, prec) =>
      if prec < level then return lhs
      advance
      let rhs ← ParseM.expr fuel (prec + 1)
      ParseM.operators fuel level (.binary op lhs rhs)
    | none =>
      if t.isWord "COLLATE" then
        if level > 11 then return lhs
        advance
        let c ← typeWord
        return ← ParseM.operators fuel level (.collate lhs c)
      if level > 4 then return lhs
      if t.isWord "IS" then
        advance
        let negated ← acceptWord "NOT"
        let distinct ← acceptWord "DISTINCT"
        if distinct then let _ ← expectWord "FROM"
        let op : BinaryOp := if negated == distinct then .is else .isNot
        let rhs ← ParseM.expr fuel 5
        let e := match rhs with
          | .literal .null => Expr.isNull lhs (op == .isNot)
          | _ => .binary op lhs rhs
        return ← ParseM.operators fuel level e
      if t.isWord "ISNULL" then
        advance
        return ← ParseM.operators fuel level (.isNull lhs false)
      if t.isWord "NOTNULL" then
        advance
        return ← ParseM.operators fuel level (.isNull lhs true)
      let negated := t.isWord "NOT"
      if negated then
        let u ← lookAt 1
        if u.isWord "NULL" then
          advance
          advance
          return ← ParseM.operators fuel level (.isNull lhs true)
        if !(isLikeWord u || u.isWord "BETWEEN" || u.isWord "IN") then
          advance
          throw (← peek).syntaxError
        advance
      let t ← peek
      if isLikeWord t then
        advance
        let pattern ← ParseM.expr fuel 5
        let escape ← if ← acceptWord "ESCAPE" then some <$> ParseM.expr fuel 5 else pure none
        return ← ParseM.operators fuel level (.like t.toName negated lhs pattern escape)
      if t.isWord "BETWEEN" then
        advance
        let low ← ParseM.expr fuel 3
        let _ ← expectWord "AND"
        let high ← ParseM.expr fuel 5
        return ← ParseM.operators fuel level (.between lhs low high negated)
      if t.isWord "IN" then
        advance
        let e ← ParseM.inRight fuel lhs negated
        return ← ParseM.operators fuel level e
      return lhs

/-- What follows `IN`: a list, a query, or a table. A list of one subquery is that query; with
a row value on the left, each item of a list is a row value of its width. -/
def ParseM.inRight : Nat → Expr → Bool → ParseM Expr
  | 0, _, _ => throw tooDeep
  | fuel + 1, lhs, negated => do
    if ← acceptSymbol "(" then
      if ← startsQuery then
        let s ← ParseM.select fuel
        let _ ← expectSymbol ")"
        return .inSelect lhs s negated
      if ← acceptSymbol ")" then return .inList lhs [] negated
      let items ← ParseM.exprList fuel
      let _ ← expectSymbol ")"
      match items, lhs with
      | [.subquery s], _ => return .inSelect lhs s negated
      | _, .vector left =>
        for item in items do
          let terms := match item with
            | .vector xs => xs.length
            | _ => 1
          if terms != left.length then
            throw (.plain ("IN(...) element has " ++ toString terms ++ " term" ++
              (if terms > 1 then "s" else "") ++ " - expected " ++ toString left.length))
        return .inList lhs items negated
      | _, _ => return .inList lhs items negated
    let first ← nm
    let (schema, table) ← if ← acceptSymbol "." then do
        let second ← nm
        pure (some first, second)
      else pure (none, first)
    if (← peek).isSymbol "(" then
      advance
      if !(← peek).isSymbol ")" then let _ ← ParseM.exprList fuel
      let _ ← expectSymbol ")"
    return .inTable lhs schema table negated

/-- A primary term: a literal, a name, a call, a parenthesized expression or query, `CAST`,
`CASE`, `EXISTS` or `RAISE`. -/
def ParseM.primary : Nat → ParseM Expr
  | 0 => throw tooDeep
  | fuel + 1 => do
    let t ← peek
    match t.kind with
    | .string =>
      if (← lookAt 1).isSymbol "." then ParseM.named fuel t
      else
        advance
        pure (.literal (.text (dequote t.text)))
    | .integer =>
      advance
      pure (.integer t.text t.offset)
    | .float =>
      advance
      pure (.float t.text)
    | .separated =>
      advance
      match separatedNumber t with
      | .ok e => pure e
      | .error e => throw e
    | .blob =>
      advance
      let digits := (t.text.toList.drop 2).take (t.text.length - 3)
      pure (.literal (.blob (hexBytes digits)))
    | .variable =>
      advance
      parameter t
    | .quoted => ParseM.named fuel t
    | .word =>
      let u := t.upper
      if u == "NULL" then
        advance
        pure (.literal .null)
      else if currentWords.contains u then
        advance
        pure (.current u)
      else if u == "CAST" then
        advance
        let _ ← expectSymbol "("
        let e ← ParseM.expr fuel 1
        let _ ← expectWord "AS"
        let type ← typeToken
        let _ ← expectSymbol ")"
        pure (.cast e type)
      else if u == "CASE" then
        advance
        let operand ← if (← peek).isWord "WHEN" then pure none else some <$> ParseM.expr fuel 1
        let branches ← ParseM.branches fuel
        let otherwise ← if ← acceptWord "ELSE" then some <$> ParseM.expr fuel 1 else pure none
        let _ ← expectWord "END"
        pure (.case operand branches otherwise)
      else if u == "EXISTS" then
        advance
        let _ ← expectSymbol "("
        let s ← ParseM.select fuel
        let _ ← expectSymbol ")"
        pure (.exists s)
      else if u == "RAISE" then
        advance
        let _ ← expectSymbol "("
        if ← acceptWord "IGNORE" then
          let _ ← expectSymbol ")"
          pure (.raise .ignore "")
        else
          let a ← peek
          let action ← if a.isWord "ROLLBACK" then pure RaiseAction.rollback
            else if a.isWord "ABORT" then pure .abort
            else if a.isWord "FAIL" then pure .fail
            else throw a.syntaxError
          advance
          let _ ← expectSymbol ","
          let message ← nm
          let _ ← expectSymbol ")"
          pure (.raise action message.text)
      else if t.isId || t.isJoinWord then ParseM.named fuel t
      else throw t.syntaxError
    | .symbol =>
      if t.isSymbol "(" then
        advance
        if ← startsQuery then
          let s ← ParseM.select fuel
          let _ ← expectSymbol ")"
          pure (.subquery s)
        else
          let first ← ParseM.expr fuel 1
          if ← acceptSymbol "," then
            let rest ← ParseM.exprList fuel
            let _ ← expectSymbol ")"
            pure (.vector (first :: rest))
          else
            let _ ← expectSymbol ")"
            pure first
      else throw t.syntaxError
    | _ => throw t.syntaxError

/-- A term that starts with a name: a call, a qualified name, a column or a string. -/
def ParseM.named : Nat → Token → ParseM Expr
  | 0, _ => throw tooDeep
  | fuel + 1, t => do
    let u ← lookAt 1
    if u.isSymbol "(" && t.kind != .string then
      advance
      advance
      if ← acceptSymbol "*" then
        let _ ← expectSymbol ")"
        let (filter, window) ← ParseM.callSuffix fuel
        return callOf t.toName [] false true filter window []
      let distinct ← if ← acceptWord "DISTINCT" then pure true
        else do let _ ← acceptWord "ALL"; pure false
      let args ← if (← peek).isSymbol ")" || (← peek).isWord "ORDER" then pure []
        else ParseM.exprList fuel
      let order ← if ← acceptWord "ORDER" then do
          let _ ← expectWord "BY"
          ParseM.terms fuel
        else pure []
      let _ ← expectSymbol ")"
      let (filter, window) ← ParseM.callSuffix fuel
      -- an ORDER BY of a call without arguments is dropped unread
      let order := if args.isEmpty then [] else order
      if window.isSome && !order.isEmpty then
        throw (.atOffset ("ORDER BY may not be used with non-aggregate " ++ t.toName.text ++ "()")
          t.offset)
      if window.isSome && distinct then
        throw (.plain "DISTINCT is not supported for window functions")
      return callOf t.toName args distinct false filter window order
    if u.isSymbol "." then
      advance
      advance
      let second ← nm
      if ← acceptSymbol "." then
        let third ← nm
        return .qualified (some t.toName) second third
      return .qualified none t.toName second
    advance
    if t.kind == .string then return .literal (.text (dequote t.text))
    return .column t.toName

/-- The `WHEN … THEN …` branches of a `CASE`, at least one. -/
def ParseM.branches : Nat → ParseM (List Branch)
  | 0 => throw tooDeep
  | fuel + 1 => do
    let _ ← expectWord "WHEN"
    let c ← ParseM.expr fuel 1
    let _ ← expectWord "THEN"
    let r ← ParseM.expr fuel 1
    if (← peek).isWord "WHEN" then return .mk c r :: (← ParseM.branches fuel)
    return [.mk c r]

/-- A list of expressions separated by commas, at least one. -/
def ParseM.exprList : Nat → ParseM (List Expr)
  | 0 => throw tooDeep
  | fuel + 1 => do
    let e ← ParseM.expr fuel 1
    if ← acceptSymbol "," then return e :: (← ParseM.exprList fuel)
    return [e]

/-- Ordering terms separated by commas: an expression, `ASC` or `DESC`, and where nulls
go. -/
def ParseM.terms : Nat → ParseM (List Term)
  | 0 => throw tooDeep
  | fuel + 1 => do
    let e ← ParseM.expr fuel 1
    let descending ← if ← acceptWord "DESC" then pure true
      else do let _ ← acceptWord "ASC"; pure false
    let nulls ← if ← acceptWord "NULLS" then do
        if ← acceptWord "FIRST" then pure (some true)
        else do let _ ← expectWord "LAST"; pure (some false)
      else pure none
    let term := Term.mk e descending nulls
    if ← acceptSymbol "," then return term :: (← ParseM.terms fuel)
    return [term]

/-- The `FILTER` and `OVER` clauses after a function call. `FILTER` is a clause only before
a parenthesis, and `OVER` only before a parenthesis or a name. -/
def ParseM.callSuffix : Nat → ParseM (Option Expr × Option Window)
  | 0 => throw tooDeep
  | fuel + 1 => do
    let filter ← if (← lookAt 0).isWord "FILTER" && (← lookAt 1).isSymbol "(" then do
        advance
        advance
        let _ ← expectWord "WHERE"
        let e ← ParseM.expr fuel 1
        let _ ← expectSymbol ")"
        pure (some e)
      else pure none
    let next ← lookAt 1
    if (← lookAt 0).isWord "OVER" && (next.isSymbol "(" || next.isNm) then
      advance
      if ← acceptSymbol "(" then
        let w ← ParseM.windowBody fuel
        let _ ← expectSymbol ")"
        return (filter, some w)
      advance
      return (filter, some (.named (rawName next) [] [] none true))
    return (filter, none)

/-- The body of a window between its parentheses: the name of a window it extends, its
partition, its ordering and its frame, each perhaps left out. -/
def ParseM.windowBody : Nat → ParseM Window
  | 0 => throw tooDeep
  | fuel + 1 => do
    let t ← peek
    let base ← if t.isNm && !t.isOneOf ["PARTITION", "RANGE", "ROWS", "GROUPS"] then do
        advance
        pure (some (rawName t))
      else pure none
    let partition ← if ← acceptWord "PARTITION" then do
        let _ ← expectWord "BY"
        ParseM.exprList fuel
      else pure []
    let order ← if ← acceptWord "ORDER" then do
        let _ ← expectWord "BY"
        ParseM.terms fuel
      else pure []
    let frame ← ParseM.frame fuel
    match base with
    | some b => return .named b partition order frame false
    | none => return .spec partition order frame

/-- A frame: its unit, then one end (the frame ends at the current row) or `BETWEEN` two ends,
then what it leaves out. -/
def ParseM.frame : Nat → ParseM (Option WindowFrame)
  | 0 => throw tooDeep
  | fuel + 1 => do
    let t ← peek
    let unit ← if t.isWord "RANGE" then pure (some FrameUnit.range)
      else if t.isWord "ROWS" then pure (some FrameUnit.rows)
      else if t.isWord "GROUPS" then pure (some FrameUnit.groups)
      else pure none
    match unit with
    | none => return none
    | some unit =>
      advance
      let (start, finish) ← if ← acceptWord "BETWEEN" then do
          let s ← ParseM.frameBound fuel true
          let _ ← expectWord "AND"
          let f ← ParseM.frameBound fuel false
          pure (s, f)
        else do
          let s ← ParseM.frameBound fuel true
          pure (s, FrameBound.currentRow)
      let exclude ← if ← acceptWord "EXCLUDE" then do
          let u ← peek
          if u.isWord "NO" then
            advance
            let _ ← expectWord "OTHERS"
            pure FrameExclude.noOthers
          else if u.isWord "CURRENT" then
            advance
            let _ ← expectWord "ROW"
            pure FrameExclude.currentRow
          else if u.isWord "GROUP" then
            advance
            pure FrameExclude.group
          else if u.isWord "TIES" then
            advance
            pure FrameExclude.ties
          else throw u.syntaxError
        else pure .noOthers
      if !frameFits start finish then throw (.plain "unsupported frame specification")
      return some (.mk unit start finish exclude)

/-- One end of a frame; only a start may be unbounded preceding and only an end unbounded
following. An offset that is not a constant reads as null. -/
def ParseM.frameBound : Nat → Bool → ParseM FrameBound
  | 0, _ => throw tooDeep
  | fuel + 1, start => do
    let t ← peek
    if t.isWord "UNBOUNDED" then
      advance
      if start then
        let _ ← expectWord "PRECEDING"
        return .unboundedPreceding
      let _ ← expectWord "FOLLOWING"
      return .unboundedFollowing
    if t.isWord "CURRENT" then
      advance
      let _ ← expectWord "ROW"
      return .currentRow
    let e ← ParseM.expr fuel 1
    let e := if isConstantTerm 64 e then e else .literal .null
    if ← acceptWord "PRECEDING" then return .preceding e
    let _ ← expectWord "FOLLOWING"
    return .following e

/-- The windows of a `WINDOW` clause, after those before them. -/
def ParseM.windowDefs : Nat → List WindowDef → ParseM (List WindowDef)
  | 0, _ => throw tooDeep
  | fuel + 1, before => do
    let t ← peek
    if !t.isNm then throw t.syntaxError
    advance
    let _ ← expectWord "AS"
    let _ ← expectSymbol "("
    let w ← ParseM.windowBody fuel
    let _ ← expectSymbol ")"
    let w ← if before.isEmpty then pure (unbased w)
      else match Window.chain before w with
        | .ok w => pure w
        | .error e => throw e
    let defs := before ++ [.mk (rawName t) w]
    if ← acceptSymbol "," then ParseM.windowDefs fuel defs else pure defs

/-- A query. -/
def ParseM.select : Nat → ParseM Select
  | 0 => throw tooDeep
  | fuel + 1 => do
    let (ctes, recursive) ← if (← peek).isWord "WITH" then ParseM.withClause fuel
      else pure ([], false)
    let (first, order, limit, offset) ← ParseM.core fuel
    let (rest, order, limit, offset) ← ParseM.compounds fuel first order limit offset
    return .mk ctes recursive first rest order limit offset

/-- The cores after the first, joined by compound operators; the ordering and limit of a core
that another follows are refused. -/
def ParseM.compounds : Nat → Core → List Term → Option Expr → Option Expr →
    ParseM (List Compound × List Term × Option Expr × Option Expr)
  | 0, _, _, _, _ => throw tooDeep
  | fuel + 1, left, order, limit, offset => do
    let t ← peek
    let op ← if t.isWord "UNION" then do
        advance
        if ← acceptWord "ALL" then pure (some CompoundOp.unionAll) else pure (some .union)
      else if t.isWord "INTERSECT" then do advance; pure (some .intersect)
      else if t.isWord "EXCEPT" then do advance; pure (some .except)
      else pure none
    match op with
    | none => return ([], order, limit, offset)
    | some op =>
      let (core, o, l, f) ← ParseM.core fuel
      let (rest, o, l, f) ← ParseM.compounds fuel core o l f
      if !order.isEmpty then
        throw (.plain ("ORDER BY clause should come after " ++ op.text ++ " not before"))
      if limit.isSome then
        throw (.plain ("LIMIT clause should come after " ++ op.text ++ " not before"))
      let _ := left
      return (.mk op core :: rest, o, l, f)

/-- A `WITH` clause: its table expressions and whether it is recursive. -/
def ParseM.withClause : Nat → ParseM (List Cte × Bool)
  | 0 => throw tooDeep
  | fuel + 1 => do
    let _ ← expectWord "WITH"
    let recursive ← acceptWord "RECURSIVE"
    let ctes ← ParseM.cteList fuel
    return (ctes, recursive)

/-- The table expressions of a `WITH` clause. -/
def ParseM.cteList : Nat → ParseM (List Cte)
  | 0 => throw tooDeep
  | fuel + 1 => do
    let name ← nm
    modify fun s => { s with hasWith := true }
    let columns ← if ← acceptSymbol "(" then ParseM.columnNames fuel else pure []
    let _ ← expectWord "AS"
    if ← acceptWord "NOT" then let _ ← expectWord "MATERIALIZED"
    else let _ ← acceptWord "MATERIALIZED"
    let _ ← expectSymbol "("
    let s ← ParseM.select fuel
    let _ ← expectSymbol ")"
    let cte := Cte.mk name columns s
    if ← acceptSymbol "," then return cte :: (← ParseM.cteList fuel)
    return [cte]

/-- Column names in parentheses, each perhaps with a collation or direction, which only a
name may carry here. -/
def ParseM.columnNames : Nat → ParseM (List Name)
  | 0 => throw tooDeep
  | fuel + 1 => do
    let n ← nm
    let mut marked := false
    if ← acceptWord "COLLATE" then
      let _ ← typeWord
      marked := true
    if (← acceptWord "ASC") || (← acceptWord "DESC") then marked := true
    if marked then
      throw (.plain ("syntax error after column name \"" ++ n.text ++ "\""))
    if ← acceptSymbol "," then return n :: (← ParseM.columnNames fuel)
    let _ ← expectSymbol ")"
    return [n]

/-- One core with its ordering and limit. -/
def ParseM.core : Nat → ParseM (Core × List Term × Option Expr × Option Expr)
  | 0 => throw tooDeep
  | fuel + 1 => do
    let t ← peek
    if t.isWord "VALUES" then
      advance
      let rows ← ParseM.valuesRows fuel none false
      return (.values rows, [], none, none)
    let _ ← expectWord "SELECT"
    let distinct ← if ← acceptWord "DISTINCT" then pure true
      else do let _ ← acceptWord "ALL"; pure false
    let columns ← ParseM.resultColumns fuel
    let sources ← if ← acceptWord "FROM" then ParseM.sources fuel true else pure []
    let filter ← if ← acceptWord "WHERE" then some <$> ParseM.expr fuel 1 else pure none
    let groupBy ← if ← acceptWord "GROUP" then do
        let _ ← expectWord "BY"
        ParseM.exprList fuel
      else pure []
    let having ← if ← acceptWord "HAVING" then some <$> ParseM.expr fuel 1 else pure none
    let windows ← if ← atWindowClause then do
        advance
        ParseM.windowDefs fuel []
      else pure []
    let order ← if ← acceptWord "ORDER" then do
        let _ ← expectWord "BY"
        ParseM.terms fuel
      else pure []
    let (limit, offset) ← ParseM.limitClause fuel
    return (.select distinct columns sources filter groupBy having windows, order, limit, offset)

/-- A `LIMIT` clause: `LIMIT n`, `LIMIT n OFFSET m`, or `LIMIT m, n`. -/
def ParseM.limitClause : Nat → ParseM (Option Expr × Option Expr)
  | 0 => throw tooDeep
  | fuel + 1 => do
    if !(← acceptWord "LIMIT") then return (none, none)
    let first ← ParseM.expr fuel 1
    if ← acceptWord "OFFSET" then return (some first, some (← ParseM.expr fuel 1))
    if ← acceptSymbol "," then return (some (← ParseM.expr fuel 1), some first)
    return (some first, none)

/-- The rows of `VALUES`; `previous` is the row before, and `checked` says whether rows are
being checked for width as they are read. -/
def ParseM.valuesRows : Nat → Option (List Expr) → Bool → ParseM (List (List Expr))
  | 0, _, _ => throw tooDeep
  | fuel + 1, previous, checked => do
    let _ ← expectSymbol "("
    let row ← ParseM.exprList fuel
    let _ ← expectSymbol ")"
    let checked ← match previous with
      | none => pure false
      | some prev =>
        let now := !(← get).hasWith && row.all (isConstantTerm 64) &&
          (checked || prev.all fun e => !hasAffinity 64 e)
        if now && !checked then
          -- the rows are now read one by one: the row before is resolved here
          match ((resolveRow 64 prev).run { db := (← read).db }).run {} with
          | .error e => throw e
          | .ok (_, st) => match st.pending with
            | some e => throw e
            | none => pure ()
        if now && prev.length != row.length then
          throw (.plain "all VALUES must have the same number of terms")
        pure now
    if ← acceptSymbol "," then return row :: (← ParseM.valuesRows fuel (some row) checked)
    return [row]

/-- The result columns of a core. -/
def ParseM.resultColumns : Nat → ParseM (List ResultColumn)
  | 0 => throw tooDeep
  | fuel + 1 => do
    let t ← peek
    let col ← if t.isSymbol "*" then do
        advance
        pure (ResultColumn.all t.offset)
      else if t.isNm && (← lookAt 1).isSymbol "." && (← lookAt 2).isSymbol "*" then do
        advance
        advance
        advance
        pure (ResultColumn.allOf t.toName)
      else do
        let e ← ParseM.expr fuel 1
        let stop := (← lookAt 0).index
        let span ← textBetween t.index stop
        let a ← aliasName
        pure (ResultColumn.expr e a span)
    if ← acceptSymbol "," then return col :: (← ParseM.resultColumns fuel)
    return [col]

/-- The sources of a `FROM` clause; `first` says whether the next source is the first. -/
def ParseM.sources : Nat → Bool → ParseM (List Source)
  | 0, _ => throw tooDeep
  | fuel + 1, first => do
    let (natural, kind) ← if first then pure (false, JoinKind.inner) else
      match ← joinOperator with
      | some k => pure k
      | none => return []
    let item ← ParseM.sourceItem fuel
    let (on, usingCols) ← if ← acceptWord "ON" then do
        let e ← ParseM.expr fuel 1
        pure (some e, [])
      else if ← acceptWord "USING" then do
        let _ ← expectSymbol "("
        let cols ← ParseM.nameList fuel
        pure (none, cols)
      else pure (none, [])
    if first && (on.isSome || !usingCols.isEmpty) then
      throw (.plain ("a JOIN clause is required before " ++ (if on.isSome then "ON" else "USING")))
    let src := Source.mk natural kind item on usingCols
    return src :: (← ParseM.sources fuel false)

/-- Names separated by commas, then `)`. -/
def ParseM.nameList : Nat → ParseM (List Name)
  | 0 => throw tooDeep
  | fuel + 1 => do
    let n ← nm
    if ← acceptSymbol "," then return n :: (← ParseM.nameList fuel)
    let _ ← expectSymbol ")"
    return [n]

/-- One source: a table (perhaps with arguments), a subquery, or a parenthesized join. -/
def ParseM.sourceItem : Nat → ParseM SourceItem
  | 0 => throw tooDeep
  | fuel + 1 => do
    if ← acceptSymbol "(" then
      if ← startsQuery then
        let s ← ParseM.select fuel
        let _ ← expectSymbol ")"
        let a ← aliasName
        return .subquery s a
      let inner ← ParseM.sources fuel true
      let _ ← expectSymbol ")"
      let a ← aliasName
      match inner with
      | [.mk _ _ (.table s n none args) _ _] => return .table s n a args
      | [.mk _ _ (.table s n (some b) args) _ _] => return .table s n (a.orElse fun _ => some b) args
      | [.mk _ _ (.subquery q b) _ _] => return .subquery q (a.orElse fun _ => b)
      | _ => return .nested inner a
    let first ← nm
    let (schema, name) ← if ← acceptSymbol "." then do
        let second ← nm
        pure (some first, second)
      else pure (none, first)
    let args ← if ← acceptSymbol "(" then do
        if ← acceptSymbol ")" then pure (some [])
        else
          let items ← ParseM.exprList fuel
          let _ ← expectSymbol ")"
          pure (some items)
      else pure none
    let a ← aliasName
    if ← acceptWord "INDEXED" then
      let _ ← expectWord "BY"
      let _ ← nm
    else if (← peek).isWord "NOT" && (← lookAt 1).isWord "INDEXED" then
      advance
      advance
    return .table schema name a args

end

end Shipyard.Sql
