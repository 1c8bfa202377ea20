import Shipyard.Yaml.Token
/-!
Scanning YAML text into tokens.

The scanner reads characters and queues tokens. Indentation opens and closes block
collections: a key or entry further right than the current indentation queues a
`blockMappingStart` or `blockSequenceStart`, and a line further left queues one `blockEnd` per
level it leaves. Whether a scalar is a mapping key is known only when a `:` follows it on the
same line, within 1024 characters; until then the scalar is a *possible simple key* and the
tokens from it on are held back. When the `:` comes, a `key` token (and perhaps a
`blockMappingStart`) is inserted before the scalar.

Tokens are handed out one at a time: `peek` fetches until the first queued token can no longer
be preceded by an inserted one, so a syntax error further on is found only when the reader of
the tokens gets that far.

Characters that YAML text may not hold (most control characters) are refused before any
token is made. The end of the text reads as the character NUL.
-/
namespace Shipyard.Yaml

/-- A scalar that may turn out to be a mapping key. -/
structure SimpleKey where
  possible : Bool := false
  required : Bool := false
  tokenNumber : Nat := 0
  mark : Mark := {}
  deriving Repr, Inhabited

/-- The state of the scanner. -/
structure Scanner where
  text : Array Char
  pos : Nat := 0
  mark : Mark := {}
  /-- A character the text may not hold, found before reading began. -/
  refused : Option SyntaxError := none
  streamStartProduced : Bool := false
  flowLevel : Nat := 0
  /-- Queued tokens; those before `head` were handed out. -/
  tokens : Array Token := #[]
  head : Nat := 0
  tokensParsed : Nat := 0
  tokenAvailable : Bool := false
  indent : Int := -1
  indents : List Int := []
  simpleKeyAllowed : Bool := false
  /-- One possible simple key per flow level, innermost first. -/
  simpleKeys : List SimpleKey := []
  deriving Inhabited

/-- Scanning: the scanner state changes, and a syntax error ends it. -/
abbrev ScanM := StateT Scanner (Except SyntaxError)

namespace Scan

def isBreak (c : Char) : Bool :=
  c == '\r' || c == '\n' || c == '\x85' || c == '\u2028' || c == '\u2029'

def isBlank (c : Char) : Bool := c == ' ' || c == '\t'

def isZ (c : Char) : Bool := c == '\x00'

def isBreakZ (c : Char) : Bool := isBreak c || isZ c

def isBlankZ (c : Char) : Bool := isBlank c || isBreakZ c

/-- Letters, digits, `_` and `-`: the characters of anchors and tag handles. -/
def isWordChar (c : Char) : Bool := c.isAlphanum || c == '_' || c == '-'

def isHexChar (c : Char) : Bool :=
  c.isDigit || ('a' ≤ c && c ≤ 'f') || ('A' ≤ c && c ≤ 'F')

def hexValue (c : Char) : Nat :=
  if c.isDigit then c.toNat - 48
  else if 'a' ≤ c && c ≤ 'f' then c.toNat - 87
  else c.toNat - 55

/-- Characters YAML text may hold. -/
def allowed (c : Char) : Bool :=
  let n := c.toNat
  n == 0x09 || n == 0x0A || n == 0x0D || (0x20 ≤ n && n ≤ 0x7E) || n == 0x85 ||
    (0xA0 ≤ n && n ≤ 0xD7FF) || (0xE000 ≤ n && n ≤ 0xFFFD) || (0x10000 ≤ n && n ≤ 0x10FFFF)

/-- The byte offset of the first character the text may not hold (a leading byte-order mark
is passed over). -/
def refusedAt (text : String) : Option Nat :=
  let cs := text.toList
  let (cs, start) := match cs with
    | '\uFEFF' :: rest => (rest, 3)
    | _ => (cs, 0)
  let rec go : List Char → Nat → Option Nat
    | [], _ => none
    | c :: rest, off => if allowed c then go rest (off + c.utf8Size) else some off
  go cs start

/-- The character `k` places ahead; past the end, NUL. -/
def ahead (k : Nat) : ScanM Char := do
  let s ← get
  return s.text.getD (s.pos + k) '\x00'

def here : ScanM Mark := return (← get).mark

/-- Room for a loop over the rest of the text. -/
def room : ScanM Nat := do
  let s ← get
  return s.text.size - s.pos + 8

/-- Passes one character on the current line. -/
def skip : ScanM Unit := modify fun s =>
  { s with pos := s.pos + 1,
           mark := { s.mark with index := s.mark.index + 1, column := s.mark.column + 1 } }

/-- Passes a line break (CR LF counts as one). -/
def skipLine : ScanM Unit := do
  let c0 ← ahead 0
  let c1 ← ahead 1
  if c0 == '\r' && c1 == '\n' then
    modify fun s => { s with pos := s.pos + 2, mark := ⟨s.mark.index + 2, s.mark.line + 1, 0⟩ }
  else if isBreak c0 then
    modify fun s => { s with pos := s.pos + 1, mark := ⟨s.mark.index + 1, s.mark.line + 1, 0⟩ }

/-- Takes one character. -/
def take : ScanM Char := do
  let c ← ahead 0
  skip
  return c

/-- Takes a line break: CR LF, CR, LF and NEL read as LF, the line and paragraph separators as
themselves. -/
def takeBreak : ScanM Char := do
  let c ← ahead 0
  skipLine
  return if c == '\u2028' || c == '\u2029' then c else '\n'

/-- Fails at the current place. -/
def fail (context : Option String) (contextMark : Mark) (problem : String) : ScanM α := do
  throw { problem, problemMark := (← here), context, contextMark }

def exhausted : ScanM α := fail none {} "scanner ran out of steps"

/-- Skips characters while `p` holds. -/
def skipWhile (p : Char → Bool) : ScanM Unit := do
  for _ in [0:← room] do
    if p (← ahead 0) then skip else break

/-- Takes characters while `p` holds. -/
def takeWhile (p : Char → Bool) (acc : String) : ScanM String := do
  let mut acc := acc
  for _ in [0:← room] do
    let c ← ahead 0
    if p c then
      skip
      acc := acc.push c
    else break
  return acc

def queue (kind : TokenKind) (start stop : Mark) : ScanM Unit :=
  modify fun s => { s with tokens := s.tokens.push ⟨kind, start, stop⟩ }

/-! ### Possible simple keys and indentation -/

/-- Drops possible simple keys that are no longer on the current line or too far back; a
required one is an error. -/
def staleSimpleKeys : ScanM Unit := do
  let s ← get
  let stale (k : SimpleKey) : Bool :=
    k.possible && (k.mark.line < s.mark.line || k.mark.index + 1024 < s.mark.index)
  match s.simpleKeys.reverse.find? fun k => stale k && k.required with
  | some k => fail (some "while scanning a simple key") k.mark "could not find expected ':'"
  | none =>
    let fresh (k : SimpleKey) : SimpleKey := if stale k then { k with possible := false } else k
    set { s with simpleKeys := s.simpleKeys.map fresh }

/-- Forgets the possible simple key of the current level; a required one is an error. -/
def removeSimpleKey : ScanM Unit := do
  let s ← get
  match s.simpleKeys with
  | k :: rest =>
    if k.possible && k.required then
      fail (some "while scanning a simple key") k.mark "could not find expected ':'"
    set { s with simpleKeys := { k with possible := false } :: rest }
  | [] => pure ()

/-- Remembers that the next token may be a simple key. -/
def saveSimpleKey : ScanM Unit := do
  let s ← get
  if s.simpleKeyAllowed then
    let key : SimpleKey :=
      { possible := true,
        required := s.flowLevel == 0 && s.indent == (s.mark.column : Int),
        tokenNumber := s.tokensParsed + (s.tokens.size - s.head),
        mark := s.mark }
    removeSimpleKey
    modify fun s => { s with simpleKeys := key :: s.simpleKeys.tail }

def increaseFlowLevel : ScanM Unit :=
  modify fun s => { s with simpleKeys := {} :: s.simpleKeys, flowLevel := s.flowLevel + 1 }

def decreaseFlowLevel : ScanM Unit :=
  modify fun s =>
    if s.flowLevel > 0 then { s with flowLevel := s.flowLevel - 1, simpleKeys := s.simpleKeys.tail }
    else s

/-- Inserts a token into the queue before the token numbered `number`. -/
def insertAt (number : Nat) (t : Token) : ScanM Unit :=
  modify fun s =>
    let i := s.head + (number - s.tokensParsed)
    { s with tokens := if h : i ≤ s.tokens.size then s.tokens.insertIdx i t else s.tokens.push t }

/-- In block context, opens a collection at `column` when it is right of the current
indentation: the token goes at the end of the queue, or before token `number`. -/
def rollIndent (column : Nat) (number : Option Nat) (kind : TokenKind) (m : Mark) :
    ScanM Unit := do
  let s ← get
  if s.flowLevel == 0 && s.indent < (column : Int) then
    set { s with indents := s.indent :: s.indents, indent := column }
    match number with
    | none => queue kind m m
    | some n => insertAt n ⟨kind, m, m⟩

/-- In block context, closes every collection indented further than `column`. -/
def unrollIndent (column : Int) : ScanM Unit := do
  let s ← get
  if s.flowLevel == 0 then
    let rec close (indent : Int) (indents : List Int) (acc : Array Token) :
        Int × List Int × Array Token :=
      match indents with
      | i :: rest => if indent > column then close i rest (acc.push ⟨.blockEnd, s.mark, s.mark⟩)
                     else (indent, indents, acc)
      | [] => (indent, [], acc)
    let (indent, indents, tokens) := close s.indent s.indents s.tokens
    set { s with indent, indents, tokens }

/-! ### Between tokens -/

/-- Skips blanks, comments and line breaks up to the next token. Tabs are skipped only in flow
context or where no simple key may start. -/
def toNextToken : ScanM Unit := do
  for _ in [0:← room] do
    if (← here).column == 0 && (← ahead 0) == '\uFEFF' then skip
    let s ← get
    skipWhile fun c => c == ' ' || ((s.flowLevel > 0 || !s.simpleKeyAllowed) && c == '\t')
    if (← ahead 0) == '#' then skipWhile fun c => !isBreakZ c
    if isBreak (← ahead 0) then
      skipLine
      if (← get).flowLevel == 0 then modify fun s => { s with simpleKeyAllowed := true }
    else break

/-! ### Directives -/

def directiveName (start : Mark) : ScanM String := do
  let name ← takeWhile isWordChar ""
  if name.isEmpty then
    fail (some "while scanning a directive") start "could not find expected directive name"
  if !isBlankZ (← ahead 0) then
    fail (some "while scanning a directive") start "found unexpected non-alphabetical character"
  return name

def versionNumber (start : Mark) : ScanM Nat := do
  let mut value := 0
  let mut length := 0
  for _ in [0:← room] do
    let c ← ahead 0
    if c.isDigit then
      length := length + 1
      if length > 9 then
        fail (some "while scanning a %YAML directive") start "found extremely long version number"
      value := value * 10 + (c.toNat - 48)
      skip
    else break
  if length == 0 then
    fail (some "while scanning a %YAML directive") start "did not find expected version number"
  return value

def versionValue (start : Mark) : ScanM (Nat × Nat) := do
  skipWhile isBlank
  let major ← versionNumber start
  if (← ahead 0) != '.' then
    fail (some "while scanning a %YAML directive") start
      "did not find expected digit or '.' character"
  skip
  let minor ← versionNumber start
  return (major, minor)

/-- A tag handle: `!`, `!!` or `!word!`. -/
def tagHandle (directive : Bool) (start : Mark) : ScanM String := do
  let ctx := if directive then "while scanning a tag directive" else "while scanning a tag"
  if (← ahead 0) != '!' then fail (some ctx) start "did not find expected '!'"
  skip
  let handle ← takeWhile isWordChar "!"
  if (← ahead 0) == '!' then
    skip
    return handle.push '!'
  else
    if directive && handle != "!" then
      fail (some "while parsing a tag directive") start "did not find expected '!'"
    return handle

/-- Decodes `%XX` escapes of one UTF-8 character in a tag. -/
def uriEscapes (directive : Bool) (start : Mark) : ScanM (List UInt8) := do
  let ctx := if directive then "while parsing a %TAG directive" else "while parsing a tag"
  let mut width := 0
  let mut bytes : List UInt8 := []
  for _ in [0:4] do
    let c0 ← ahead 0
    let c1 ← ahead 1
    let c2 ← ahead 2
    if !(c0 == '%' && isHexChar c1 && isHexChar c2) then
      fail (some ctx) start "did not find URI escaped octet"
    let octet := hexValue c1 * 16 + hexValue c2
    if width == 0 then
      width := if octet &&& 0x80 == 0 then 1 else if octet &&& 0xE0 == 0xC0 then 2
        else if octet &&& 0xF0 == 0xE0 then 3 else if octet &&& 0xF8 == 0xF0 then 4 else 0
      if width == 0 then fail (some ctx) start "found an incorrect leading UTF-8 octet"
    else if octet &&& 0xC0 != 0x80 then
      fail (some ctx) start "found an incorrect trailing UTF-8 octet"
    bytes := bytes ++ [octet.toUInt8]
    skip; skip; skip
    if bytes.length == width then break
  return bytes

/-- The characters a tag may hold. -/
def isUriChar (verbatim : Bool) (c : Char) : Bool :=
  isWordChar c || ";/?:@&=+$.%!~*'()".contains c || (verbatim && ",[]".contains c)

/-- The rest of a tag after its handle; `head` is text already read that turned out not to be
a handle (its leading `!` dropped). -/
def tagUri (verbatim directive : Bool) (head : String) (start : Mark) : ScanM String := do
  let mut text := String.ofList (head.toList.drop 1)
  let mut length := head.length
  for _ in [0:← room] do
    let c ← ahead 0
    if !isUriChar verbatim c then break
    if c == '%' then
      let bytes ← uriEscapes directive start
      text := text ++ (String.fromUTF8? (ByteArray.mk bytes.toArray)).getD ""
    else
      skip
      text := text.push c
    length := length + 1
  if length == 0 then
    fail (some (if directive then "while parsing a %TAG directive" else "while parsing a tag"))
      start "did not find expected tag URI"
  return text

def tagDirectiveValue (start : Mark) : ScanM (String × String) := do
  skipWhile isBlank
  let handle ← tagHandle true start
  if !isBlank (← ahead 0) then
    fail (some "while scanning a %TAG directive") start "did not find expected whitespace"
  skipWhile isBlank
  let pfx ← tagUri true true "" start
  if !isBlankZ (← ahead 0) then
    fail (some "while scanning a %TAG directive") start
      "did not find expected whitespace or line break"
  return (handle, pfx)

def fetchDirective : ScanM Unit := do
  unrollIndent (-1)
  removeSimpleKey
  modify fun s => { s with simpleKeyAllowed := false }
  let start ← here
  skip
  let name ← directiveName start
  let kind ←
    if name == "YAML" then do
      let (major, minor) ← versionValue start
      pure (TokenKind.versionDirective major minor)
    else if name == "TAG" then do
      let (handle, pfx) ← tagDirectiveValue start
      pure (TokenKind.tagDirective handle pfx)
    else fail (some "while scanning a directive") start "found unknown directive name"
  let stop ← here
  skipWhile isBlank
  if (← ahead 0) == '#' then skipWhile fun c => !isBreakZ c
  if !isBreakZ (← ahead 0) then
    fail (some "while scanning a directive") start "did not find expected comment or line break"
  if isBreak (← ahead 0) then skipLine
  queue kind start stop

/-! ### Indicators -/

def fetchStreamStart : ScanM Unit := do
  modify fun s => { s with indent := -1, simpleKeys := [{}], simpleKeyAllowed := true,
                           streamStartProduced := true }
  let m ← here
  queue .streamStart m m

def fetchStreamEnd : ScanM Unit := do
  modify fun s =>
    if s.mark.column != 0 then { s with mark := { s.mark with column := 0, line := s.mark.line + 1 } }
    else s
  unrollIndent (-1)
  removeSimpleKey
  modify fun s => { s with simpleKeyAllowed := false }
  let m ← here
  queue .streamEnd m m

def fetchDocumentIndicator (kind : TokenKind) : ScanM Unit := do
  unrollIndent (-1)
  removeSimpleKey
  modify fun s => { s with simpleKeyAllowed := false }
  let start ← here
  skip; skip; skip
  queue kind start (← here)

def fetchFlowCollectionStart (kind : TokenKind) : ScanM Unit := do
  saveSimpleKey
  increaseFlowLevel
  modify fun s => { s with simpleKeyAllowed := true }
  let start ← here
  skip
  queue kind start (← here)

def fetchFlowCollectionEnd (kind : TokenKind) : ScanM Unit := do
  removeSimpleKey
  decreaseFlowLevel
  modify fun s => { s with simpleKeyAllowed := false }
  let start ← here
  skip
  queue kind start (← here)

def fetchFlowEntry : ScanM Unit := do
  removeSimpleKey
  modify fun s => { s with simpleKeyAllowed := true }
  let start ← here
  skip
  queue .flowEntry start (← here)

def fetchBlockEntry : ScanM Unit := do
  let s ← get
  if s.flowLevel == 0 then
    if !s.simpleKeyAllowed then
      fail none {} "block sequence entries are not allowed in this context"
    rollIndent s.mark.column none .blockSequenceStart s.mark
  removeSimpleKey
  modify fun s => { s with simpleKeyAllowed := true }
  let start ← here
  skip
  queue .blockEntry start (← here)

def fetchKey : ScanM Unit := do
  let s ← get
  if s.flowLevel == 0 then
    if !s.simpleKeyAllowed then
      fail none {} "mapping keys are not allowed in this context"
    rollIndent s.mark.column none .blockMappingStart s.mark
  removeSimpleKey
  modify fun s => { s with simpleKeyAllowed := s.flowLevel == 0 }
  let start ← here
  skip
  queue .key start (← here)

def fetchValue : ScanM Unit := do
  let s ← get
  match s.simpleKeys with
  | k :: rest =>
    if k.possible then
      insertAt k.tokenNumber ⟨.key, k.mark, k.mark⟩
      rollIndent k.mark.column (some k.tokenNumber) .blockMappingStart k.mark
      modify fun s => { s with simpleKeys := { k with possible := false } :: rest,
                               simpleKeyAllowed := false }
    else
      if s.flowLevel == 0 then
        if !s.simpleKeyAllowed then
          fail none {} "mapping values are not allowed in this context"
        rollIndent s.mark.column none .blockMappingStart s.mark
      modify fun s => { s with simpleKeyAllowed := s.flowLevel == 0 }
  | [] => pure ()
  let start ← here
  skip
  queue .value start (← here)

/-! ### Anchors and tags -/

def fetchAnchor (isAlias : Bool) : ScanM Unit := do
  saveSimpleKey
  modify fun s => { s with simpleKeyAllowed := false }
  let start ← here
  skip
  let name ← takeWhile isWordChar ""
  let stop ← here
  let c ← ahead 0
  if name.isEmpty || !(isBlankZ c || "?:,]\x7d%@`".contains c) then
    fail (some (if isAlias then "while scanning an alias" else "while scanning an anchor")) start
      "did not find expected alphabetic or numeric character"
  queue (if isAlias then .aliased name else .anchor name) start stop

def fetchTag : ScanM Unit := do
  saveSimpleKey
  modify fun s => { s with simpleKeyAllowed := false }
  let start ← here
  let (handle, suffix) ←
    if (← ahead 1) == '<' then do
      skip; skip
      let suffix ← tagUri true false "" start
      if (← ahead 0) != '>' then
        fail (some "while scanning a tag") start "did not find the expected '>'"
      skip
      pure ("", suffix)
    else do
      let handle ← tagHandle false start
      if handle.length > 1 && handle.endsWith "!" then
        let suffix ← tagUri false false "" start
        pure (handle, suffix)
      else
        let suffix ← tagUri false false handle start
        if suffix.isEmpty then pure ("", "!") else pure ("!", suffix)
  let c ← ahead 0
  if !isBlankZ c then
    if (← get).flowLevel == 0 || c != ',' then
      fail (some "while scanning a tag") start "did not find expected whitespace or line break"
  queue (.tag handle suffix) start (← here)

/-! ### Scalars -/

/-- Text gathered for a scalar that spans lines: the text so far, the first line break after
it, further line breaks, and blanks not yet known to be inside the text. -/
structure Pieces where
  text : String := ""
  leadingBreak : String := ""
  trailingBreaks : String := ""
  blanks : String := ""
  leadingBlanks : Bool := false

/-- Joins the gathered breaks into the text: a single LF between two lines folds into a space,
further breaks stay; other breaks stay as they are. -/
def Pieces.fold (p : Pieces) : Pieces :=
  if p.leadingBreak.startsWith "\n" then
    if p.trailingBreaks.isEmpty then { p with text := p.text.push ' ', leadingBreak := "" }
    else { p with text := p.text ++ p.trailingBreaks, trailingBreaks := "", leadingBreak := "" }
  else
    { p with text := p.text ++ p.leadingBreak ++ p.trailingBreaks, leadingBreak := "",
             trailingBreaks := "" }

/-- Joins what lies between two runs of characters: folded breaks, or the blanks. -/
def Pieces.join (p : Pieces) : Pieces :=
  if p.leadingBlanks then { p.fold with leadingBlanks := false }
  else { p with text := p.text ++ p.blanks, blanks := "" }

/-- Whether a document marker (`---` or `...` then a blank) starts here. -/
def atDocumentMarker : ScanM Bool := do
  let c0 ← ahead 0
  let c1 ← ahead 1
  let c2 ← ahead 2
  let c3 ← ahead 3
  return (← here).column == 0 &&
    ((c0 == '-' && c1 == '-' && c2 == '-') || (c0 == '.' && c1 == '.' && c2 == '.')) &&
    isBlankZ c3

/-- Blanks and line breaks between the runs of a multi-line scalar. A tab among the
indentation of a plain scalar is an error when `tabGuard` names its indentation. -/
def gatherBlanks (p : Pieces) (tabGuard : Option (Nat × Mark)) : ScanM Pieces := do
  let mut p := p
  for _ in [0:← room] do
    let c ← ahead 0
    if isBlank c then
      if let some (indent, start) := tabGuard then
        if p.leadingBlanks && (← here).column < indent && c == '\t' then
          fail (some "while scanning a plain scalar") start
            "found a tab character that violates indentation"
      if p.leadingBlanks then skip
      else p := { p with blanks := p.blanks.push (← take) }
    else if isBreak c then
      if !p.leadingBlanks then
        let b ← takeBreak
        p := { p with blanks := "", leadingBreak := String.singleton b, leadingBlanks := true }
      else
        let b ← takeBreak
        p := { p with trailingBreaks := p.trailingBreaks.push b }
    else break
  return p

def scanPlainScalar : ScanM Token := do
  let s ← get
  let indent : Int := s.indent + 1
  let start ← here
  let mut stop := start
  let mut p : Pieces := {}
  for _ in [0:← room] do
    if ← atDocumentMarker then break
    if (← ahead 0) == '#' then break
    for _ in [0:← room] do
      let c ← ahead 0
      if isBlankZ c then break
      let flow := (← get).flowLevel > 0
      let c1 ← ahead 1
      if flow && c == ':' && ",?[]\x7b\x7d".contains c1 then break
      if (c == ':' && isBlankZ c1) || (flow && ",[]\x7b\x7d".contains c) then break
      if p.leadingBlanks || !p.blanks.isEmpty then p := p.join
      p := { p with text := p.text.push (← take) }
      stop ← here
    let c ← ahead 0
    if !(isBlank c || isBreak c) then break
    p ← gatherBlanks p (some (indent.toNat, start))
    if (← get).flowLevel == 0 && ((← here).column : Int) < indent then break
  if p.leadingBlanks then modify fun s => { s with simpleKeyAllowed := true }
  return ⟨.scalar p.text .plain, start, stop⟩

/-- The character an escape after a backslash stands for, or how many hex digits follow. -/
def escapeOf (c : Char) : Option (Sum Char Nat) :=
  match c with
  | '0' => some (.inl '\x00')
  | 'a' => some (.inl '\x07')
  | 'b' => some (.inl '\x08')
  | 't' | '\t' => some (.inl '\t')
  | 'n' => some (.inl '\n')
  | 'v' => some (.inl '\x0b')
  | 'f' => some (.inl '\x0c')
  | 'r' => some (.inl '\r')
  | 'e' => some (.inl '\x1b')
  | ' ' => some (.inl ' ')
  | '"' => some (.inl '"')
  | '/' => some (.inl '/')
  | '\'' => some (.inl '\'')
  | '\\' => some (.inl '\\')
  | 'N' => some (.inl '\x85')
  | '_' => some (.inl '\xa0')
  | 'L' => some (.inl '\u2028')
  | 'P' => some (.inl '\u2029')
  | 'x' => some (.inr 2)
  | 'u' => some (.inr 4)
  | 'U' => some (.inr 8)
  | _ => none

def scanFlowScalar (single : Bool) : ScanM Token := do
  let start ← here
  let quote := if single then '\'' else '"'
  skip
  let mut p : Pieces := {}
  for _ in [0:← room] do
    if ← atDocumentMarker then
      fail (some "while scanning a quoted scalar") start "found unexpected document indicator"
    if isZ (← ahead 0) then
      fail (some "while scanning a quoted scalar") start "found unexpected end of stream"
    p := { p with leadingBlanks := false }
    for _ in [0:← room] do
      let c ← ahead 0
      let c1 ← ahead 1
      if isBlankZ c then break
      if single && c == '\'' && c1 == '\'' then
        p := { p with text := p.text.push '\'' }
        skip; skip
      else if c == quote then break
      else if !single && c == '\\' && isBreak c1 then
        skip
        skipLine
        p := { p with leadingBlanks := true }
        break
      else if !single && c == '\\' then
        match escapeOf c1 with
        | none => fail (some "while parsing a quoted scalar") start "found unknown escape character"
        | some (.inl e) =>
          p := { p with text := p.text.push e }
          skip; skip
        | some (.inr width) =>
          skip; skip
          let mut value := 0
          for k in [0:width] do
            let d ← ahead k
            if !isHexChar d then
              fail (some "while parsing a quoted scalar") start
                "did not find expected hexdecimal number"
            value := value * 16 + hexValue d
          if (0xD800 ≤ value && value ≤ 0xDFFF) || value > 0x10FFFF then
            fail (some "while parsing a quoted scalar") start
              "found invalid Unicode character escape code"
          p := { p with text := p.text.push (Char.ofNat value) }
          for _ in [0:width] do skip
      else
        p := { p with text := p.text.push (← take) }
    if (← ahead 0) == quote then break
    p ← gatherBlanks p none
    p := p.join
  skip
  return ⟨.scalar p.text (if single then .singleQuoted else .doubleQuoted), start, ← here⟩

/-- Indentation spaces and empty lines of a block scalar; fixes the indentation from the
first non-empty line when it is not known. -/
def blockBreaks (indent : Nat) (breaks : String) (start : Mark) :
    ScanM (Nat × String × Mark) := do
  let mut breaks := breaks
  let mut stop ← here
  let mut maxIndent := 0
  for _ in [0:← room] do
    for _ in [0:← room] do
      if (indent == 0 || (← here).column < indent) && (← ahead 0) == ' ' then skip else break
    if (← here).column > maxIndent then maxIndent := (← here).column
    if (indent == 0 || (← here).column < indent) && (← ahead 0) == '\t' then
      fail (some "while scanning a block scalar") start
        "found a tab character where an indentation space is expected"
    if !isBreak (← ahead 0) then break
    breaks := breaks.push (← takeBreak)
    stop ← here
  let indent ←
    if indent == 0 then do
      let s ← get
      let base : Int := s.indent + 1
      pure (max (max maxIndent base.toNat) 1)
    else pure indent
  return (indent, breaks, stop)

def scanBlockScalar (literal : Bool) : ScanM Token := do
  let start ← here
  skip
  let mut chomping : Int := 0
  let mut increment := 0
  let c ← ahead 0
  if c == '+' || c == '-' then
    chomping := if c == '+' then 1 else -1
    skip
    let d ← ahead 0
    if d.isDigit then
      if d == '0' then
        fail (some "while scanning a block scalar") start
          "found an indentation indicator equal to 0"
      increment := d.toNat - 48
      skip
  else if c.isDigit then
    if c == '0' then
      fail (some "while scanning a block scalar") start "found an indentation indicator equal to 0"
    increment := c.toNat - 48
    skip
    let d ← ahead 0
    if d == '+' || d == '-' then
      chomping := if d == '+' then 1 else -1
      skip
  skipWhile isBlank
  if (← ahead 0) == '#' then skipWhile fun c => !isBreakZ c
  if !isBreakZ (← ahead 0) then
    fail (some "while scanning a block scalar") start
      "did not find expected comment or line break"
  if isBreak (← ahead 0) then skipLine
  let s ← get
  let mut indent : Nat :=
    if increment > 0 then (if s.indent ≥ 0 then s.indent.toNat + increment else increment) else 0
  let (i, tb, st) ← blockBreaks indent "" start
  indent := i
  let mut trailing := tb
  let mut stop := st
  let mut text := ""
  let mut leadingBreak := ""
  let mut leadingBlank := false
  for _ in [0:← room] do
    if !((← here).column == indent && !isZ (← ahead 0)) then break
    let trailingBlank := isBlank (← ahead 0)
    if !literal && leadingBreak.startsWith "\n" && !leadingBlank && !trailingBlank then
      if trailing.isEmpty then text := text.push ' '
      leadingBreak := ""
    else
      text := text ++ leadingBreak
      leadingBreak := ""
    text := text ++ trailing
    trailing := ""
    leadingBlank := isBlank (← ahead 0)
    text ← takeWhile (fun c => !isBreakZ c) text
    if isBreak (← ahead 0) then leadingBreak := String.singleton (← takeBreak)
    let (i, tb, st) ← blockBreaks indent "" start
    indent := i
    trailing := tb
    stop := st
  if chomping != -1 then text := text ++ leadingBreak
  if chomping == 1 then text := text ++ trailing
  return ⟨.scalar text (if literal then .literal else .folded), start, stop⟩

def fetchFlowScalar (single : Bool) : ScanM Unit := do
  saveSimpleKey
  modify fun s => { s with simpleKeyAllowed := false }
  let t ← scanFlowScalar single
  modify fun s => { s with tokens := s.tokens.push t }

def fetchPlainScalar : ScanM Unit := do
  saveSimpleKey
  modify fun s => { s with simpleKeyAllowed := false }
  let t ← scanPlainScalar
  modify fun s => { s with tokens := s.tokens.push t }

def fetchBlockScalar (literal : Bool) : ScanM Unit := do
  removeSimpleKey
  modify fun s => { s with simpleKeyAllowed := true }
  let t ← scanBlockScalar literal
  modify fun s => { s with tokens := s.tokens.push t }

/-! ### The next token -/

/-- Whether a plain scalar may start here. -/
def plainStarts (flow : Bool) (c c1 : Char) : Bool :=
  !(isBlankZ c || "-?:,[]\x7b\x7d#&*!|>'\"%@`".contains c) ||
    (c == '-' && !isBlank c1) ||
    (!flow && (c == '?' || c == ':') && !isBlankZ c1)

def fetchNextToken : ScanM Unit := do
  if let some e := (← get).refused then throw e
  if !(← get).streamStartProduced then fetchStreamStart
  else
    toNextToken
    staleSimpleKeys
    unrollIndent (← here).column
    let c ← ahead 0
    let c1 ← ahead 1
    let c2 ← ahead 2
    let c3 ← ahead 3
    let s ← get
    let flow := s.flowLevel > 0
    let col0 := s.mark.column == 0
    if isZ c then fetchStreamEnd
    else if col0 && c == '%' then fetchDirective
    else if col0 && c == '-' && c1 == '-' && c2 == '-' && isBlankZ c3 then
      fetchDocumentIndicator .documentStart
    else if col0 && c == '.' && c1 == '.' && c2 == '.' && isBlankZ c3 then
      fetchDocumentIndicator .documentEnd
    else if c == '[' then fetchFlowCollectionStart .flowSequenceStart
    else if c == '{' then fetchFlowCollectionStart .flowMappingStart
    else if c == ']' then fetchFlowCollectionEnd .flowSequenceEnd
    else if c == '}' then fetchFlowCollectionEnd .flowMappingEnd
    else if c == ',' then fetchFlowEntry
    else if c == '-' && isBlankZ c1 then fetchBlockEntry
    else if c == '?' && (flow || isBlankZ c1) then fetchKey
    else if c == ':' && (flow || isBlankZ c1) then fetchValue
    else if c == '*' then fetchAnchor true
    else if c == '&' then fetchAnchor false
    else if c == '!' then fetchTag
    else if c == '|' && !flow then fetchBlockScalar true
    else if c == '>' && !flow then fetchBlockScalar false
    else if c == '\'' then fetchFlowScalar true
    else if c == '"' then fetchFlowScalar false
    else if plainStarts flow c c1 then fetchPlainScalar
    else
      let m ← here
      fail (some "while scanning for the next token") m "found character that cannot start any token"

/-- Whether more tokens must be fetched before the first queued one can be handed out. -/
def needMore : ScanM Bool := do
  let s ← get
  if s.head ≥ s.tokens.size then return true
  staleSimpleKeys
  let s ← get
  return s.simpleKeys.any fun k => k.possible && k.tokenNumber == s.tokensParsed

end Scan

open Scan in
/-- The next token, fetching as many as needed to know it. -/
def Scanner.peek : ScanM Token := do
  if !(← get).tokenAvailable then
    let mut done := false
    for _ in [0:← room] do
      if ← needMore then fetchNextToken else
        done := true
        break
    if !done then exhausted
    modify fun s => { s with tokenAvailable := true }
  let s ← get
  return s.tokens.getD s.head default

/-- A scanner at the start of a text. -/
def Scanner.start (text : String) : Scanner :=
  { text := text.toList.toArray,
    refused := (Scan.refusedAt text).map fun off =>
      { problem := "control characters are not allowed", offset := off } }

end Shipyard.Yaml
