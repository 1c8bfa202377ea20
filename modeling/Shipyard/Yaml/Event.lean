import Shipyard.Yaml.Scanner
/-!
Parsing YAML tokens into events.

Events describe a document as a walk: a scalar, the start and end of a sequence or a mapping,
an alias of an anchored node. A mapping's events alternate keys and values. Where the text
leaves a node out (a key with no value, `- ` with nothing after it) an empty plain scalar
stands in. Tags are resolved against the directives of the document: `!!` stands for
`tag:yaml.org,2002:` and `!` for itself.

The parser is a state machine over the grammar of YAML streams: a stream is an optional
implicit document and explicit documents; a block node is a scalar, a block or flow
collection, or an indentless sequence as a mapping value.
-/
namespace Shipyard.Yaml

/-- What an event says. -/
inductive EventKind where
  | streamStart
  | streamEnd
  | documentStart (implicit : Bool)
  | documentEnd (implicit : Bool)
  | aliased (name : String)
  | scalar (anchor tag : Option String) (text : String) (style : ScalarStyle)
      (plainImplicit quotedImplicit : Bool)
  | sequenceStart (anchor tag : Option String) (flow : Bool)
  | sequenceEnd
  | mappingStart (anchor tag : Option String) (flow : Bool)
  | mappingEnd
  deriving Repr, Inhabited

/-- An event and where its text starts and ends. -/
structure Event where
  kind : EventKind
  start : Mark
  stop : Mark
  deriving Repr, Inhabited

/-- Where in the grammar the parser stands. -/
inductive ParseState where
  | streamStart
  | implicitDocumentStart
  | documentStart
  | documentContent
  | documentEnd
  | blockNode
  | blockNodeOrIndentlessSequence
  | flowNode
  | blockSequenceFirstEntry
  | blockSequenceEntry
  | indentlessSequenceEntry
  | blockMappingFirstKey
  | blockMappingKey
  | blockMappingValue
  | flowSequenceFirstEntry
  | flowSequenceEntry
  | flowSequenceEntryMappingKey
  | flowSequenceEntryMappingValue
  | flowSequenceEntryMappingEnd
  | flowMappingFirstKey
  | flowMappingKey
  | flowMappingValue
  | flowMappingEmptyValue
  | finished
  deriving Repr, DecidableEq, Inhabited

/-- The state of the parser: the scanner, the state, the states to return to, the places
collections started, and the tag handles of the current document. -/
structure Parser where
  scanner : Scanner
  state : ParseState := .streamStart
  states : List ParseState := []
  marks : List Mark := []
  tagDirectives : List (String × String) := []
  deriving Inhabited

/-- Parsing: the parser state changes, and a syntax error ends it. -/
abbrev ParseM := StateT Parser (Except SyntaxError)

namespace Parse

/-- The tag handles every document knows. -/
def defaultTagDirectives : List (String × String) := [("!", "!"), ("!!", "tag:yaml.org,2002:")]

def peek : ParseM Token := do
  let p ← get
  match Scanner.peek.run p.scanner with
  | .ok (t, sc) => set { p with scanner := sc }; return t
  | .error e => throw e

/-- Hands the first queued token out. -/
def advance : ParseM Unit := modify fun p =>
  { p with scanner := { p.scanner with head := p.scanner.head + 1,
                                       tokensParsed := p.scanner.tokensParsed + 1,
                                       tokenAvailable := false } }

def setState (st : ParseState) : ParseM Unit := modify fun p => { p with state := st }

def push (st : ParseState) : ParseM Unit := modify fun p => { p with states := st :: p.states }

/-- Returns to the state saved last. -/
def pop : ParseM Unit := modify fun p =>
  match p.states with
  | st :: rest => { p with state := st, states := rest }
  | [] => { p with state := .finished }

def pushMark (m : Mark) : ParseM Unit := modify fun p => { p with marks := m :: p.marks }

def popMark : ParseM Mark := do
  let p ← get
  match p.marks with
  | m :: rest => set { p with marks := rest }; return m
  | [] => return {}

def fail (problem : String) (m : Mark) : ParseM α := throw { problem, problemMark := m }

def failIn (context : String) (contextMark : Mark) (problem : String) (m : Mark) : ParseM α :=
  throw { problem, problemMark := m, context := some context, contextMark }

def emptyScalar (m : Mark) : Event := ⟨.scalar none none "" .plain true false, m, m⟩

/-- `%YAML` and `%TAG` directives before a document; the default handles are added after
them. -/
def directives : ParseM (Option (Nat × Nat)) := do
  let mut version : Option (Nat × Nat) := none
  let mut handles : List (String × String) := []
  for _ in [0:(← get).scanner.text.size + 8] do
    let t ← peek
    match t.kind with
    | .versionDirective major minor =>
      if version.isSome then fail "found duplicate %YAML directive" t.start
      if major != 1 || (minor != 1 && minor != 2) then
        fail "found incompatible YAML document" t.start
      version := some (major, minor)
    | .tagDirective handle pfx =>
      if handles.any (·.1 == handle) then fail "found duplicate %TAG directive" t.start
      handles := handles ++ [(handle, pfx)]
    | _ => break
    advance
  let extra := defaultTagDirectives.filter fun (h, _) => !handles.any (·.1 == h)
  modify fun p => { p with tagDirectives := handles ++ extra }
  return version

def streamStart : ParseM Event := do
  let t ← peek
  match t.kind with
  | .streamStart =>
    setState .implicitDocumentStart
    advance
    return ⟨.streamStart, t.start, t.stop⟩
  | _ => fail "did not find expected <stream-start>" t.start

def documentStart (implicit : Bool) : ParseM Event := do
  let mut t ← peek
  if !implicit then
    for _ in [0:(← get).scanner.text.size + 8] do
      match t.kind with
      | .documentEnd => advance; t ← peek
      | _ => break
  let isStart (k : TokenKind) : Bool := match k with
    | .versionDirective .. | .tagDirective .. | .documentStart | .streamEnd => true
    | _ => false
  match t.kind with
  | .streamEnd =>
    setState .finished
    advance
    return ⟨.streamEnd, t.start, t.stop⟩
  | k =>
    if implicit && !isStart k then
      let _ ← directives
      push .documentEnd
      setState .blockNode
      return ⟨.documentStart true, t.start, t.start⟩
    else
      let start := t.start
      let _ ← directives
      let t' ← peek
      match t'.kind with
      | .documentStart =>
        push .documentEnd
        setState .documentContent
        advance
        return ⟨.documentStart false, start, t'.stop⟩
      | _ => fail "did not find expected <document start>" t'.start

def documentContent : ParseM (Option Event) := do
  let t ← peek
  match t.kind with
  | .versionDirective .. | .tagDirective .. | .documentStart | .documentEnd | .streamEnd =>
    pop
    return some (emptyScalar t.start)
  | _ => return none

def documentEnd : ParseM Event := do
  let t ← peek
  let (implicit, stop) ← match t.kind with
    | .documentEnd => do advance; pure (false, t.stop)
    | _ => pure (true, t.start)
  modify fun p => { p with tagDirectives := [] }
  setState .documentStart
  return ⟨.documentEnd implicit, t.start, stop⟩

/-- A node: an alias, or properties (anchor, tag) and then content. -/
def node (block indentless : Bool) : ParseM Event := do
  let t ← peek
  match t.kind with
  | .aliased name =>
    pop
    advance
    return ⟨.aliased name, t.start, t.stop⟩
  | _ =>
    let mut start := t.start
    let mut stop := t.start
    let mut anchor : Option String := none
    let mut tagParts : Option (String × String) := none
    let mut tagMark := t.start
    let mut t := t
    match t.kind with
    | .anchor name =>
      anchor := some name
      stop := t.stop
      advance
      t ← peek
      match t.kind with
      | .tag h s =>
        tagParts := some (h, s)
        tagMark := t.start
        stop := t.stop
        advance
        t ← peek
      | _ => pure ()
    | .tag h s =>
      tagParts := some (h, s)
      tagMark := t.start
      stop := t.stop
      advance
      t ← peek
      match t.kind with
      | .anchor name =>
        anchor := some name
        stop := t.stop
        advance
        t ← peek
      | _ => pure ()
    | _ => pure ()
    let tag : Option String ←
      match tagParts with
      | none => pure none
      | some (h, s) =>
        if h.isEmpty then pure (some s)
        else
          match (← get).tagDirectives.find? (·.1 == h) with
          | some (_, pfx) => pure (some (pfx ++ s))
          | none => failIn "while parsing a node" start "found undefined tag handle" tagMark
    let implicit := match tag with
      | none => true
      | some g => g.isEmpty
    match t.kind with
    | .blockEntry =>
      if indentless then
        setState .indentlessSequenceEntry
        return ⟨.sequenceStart anchor tag false, start, t.stop⟩
      else
        if anchor.isSome || tag.isSome then
          pop
          return ⟨.scalar anchor tag "" .plain implicit false, start, stop⟩
        failIn (if block then "while parsing a block node" else "while parsing a flow node")
          start "did not find expected node content" t.start
    | .scalar text style =>
      let plainImplicit := (style == .plain && tag.isNone) || tag == some "!"
      let quotedImplicit := !plainImplicit && tag.isNone
      pop
      advance
      return ⟨.scalar anchor tag text style plainImplicit quotedImplicit, start, t.stop⟩
    | .flowSequenceStart =>
      setState .flowSequenceFirstEntry
      return ⟨.sequenceStart anchor tag true, start, t.stop⟩
    | .flowMappingStart =>
      setState .flowMappingFirstKey
      return ⟨.mappingStart anchor tag true, start, t.stop⟩
    | .blockSequenceStart =>
      if block then
        setState .blockSequenceFirstEntry
        return ⟨.sequenceStart anchor tag false, start, t.stop⟩
      else if anchor.isSome || tag.isSome then
        pop
        return ⟨.scalar anchor tag "" .plain implicit false, start, stop⟩
      else failIn "while parsing a flow node" start "did not find expected node content" t.start
    | .blockMappingStart =>
      if block then
        setState .blockMappingFirstKey
        return ⟨.mappingStart anchor tag false, start, t.stop⟩
      else if anchor.isSome || tag.isSome then
        pop
        return ⟨.scalar anchor tag "" .plain implicit false, start, stop⟩
      else failIn "while parsing a flow node" start "did not find expected node content" t.start
    | _ =>
      if anchor.isSome || tag.isSome then
        pop
        return ⟨.scalar anchor tag "" .plain implicit false, start, stop⟩
      failIn (if block then "while parsing a block node" else "while parsing a flow node")
        start "did not find expected node content" t.start

def blockSequenceEntry (first : Bool) : ParseM Event := do
  if first then
    let t ← peek
    pushMark t.start
    advance
  let t ← peek
  match t.kind with
  | .blockEntry =>
    let m := t.stop
    advance
    let t ← peek
    match t.kind with
    | .blockEntry | .blockEnd =>
      setState .blockSequenceEntry
      return emptyScalar m
    | _ =>
      push .blockSequenceEntry
      node true false
  | .blockEnd =>
    pop
    let _ ← popMark
    advance
    return ⟨.sequenceEnd, t.start, t.stop⟩
  | _ =>
    let m ← popMark
    failIn "while parsing a block collection" m "did not find expected '-' indicator" t.start

def indentlessSequenceEntry : ParseM Event := do
  let t ← peek
  match t.kind with
  | .blockEntry =>
    let m := t.stop
    advance
    let t ← peek
    match t.kind with
    | .blockEntry | .key | .value | .blockEnd =>
      setState .indentlessSequenceEntry
      return emptyScalar m
    | _ =>
      push .indentlessSequenceEntry
      node true false
  | _ =>
    pop
    return ⟨.sequenceEnd, t.start, t.start⟩

def blockMappingKey (first : Bool) : ParseM Event := do
  if first then
    let t ← peek
    pushMark t.start
    advance
  let t ← peek
  match t.kind with
  | .key =>
    let m := t.stop
    advance
    let t ← peek
    match t.kind with
    | .key | .value | .blockEnd =>
      setState .blockMappingValue
      return emptyScalar m
    | _ =>
      push .blockMappingValue
      node true true
  | .blockEnd =>
    pop
    let _ ← popMark
    advance
    return ⟨.mappingEnd, t.start, t.stop⟩
  | _ =>
    let m ← popMark
    failIn "while parsing a block mapping" m "did not find expected key" t.start

def blockMappingValue : ParseM Event := do
  let t ← peek
  match t.kind with
  | .value =>
    let m := t.stop
    advance
    let t ← peek
    match t.kind with
    | .key | .value | .blockEnd =>
      setState .blockMappingKey
      return emptyScalar m
    | _ =>
      push .blockMappingKey
      node true true
  | _ =>
    setState .blockMappingKey
    return emptyScalar t.start

def flowSequenceEntry (first : Bool) : ParseM Event := do
  if first then
    let t ← peek
    pushMark t.start
    advance
  let mut t ← peek
  match t.kind with
  | .flowSequenceEnd => pure ()
  | _ =>
    if !first then
      match t.kind with
      | .flowEntry => advance; t ← peek
      | _ =>
        let m ← popMark
        failIn "while parsing a flow sequence" m "did not find expected ',' or ']'" t.start
    match t.kind with
    | .key =>
      setState .flowSequenceEntryMappingKey
      advance
      return ⟨.mappingStart none none true, t.start, t.stop⟩
    | .flowSequenceEnd => pure ()
    | _ =>
      push .flowSequenceEntry
      return ← node false false
  pop
  let _ ← popMark
  advance
  return ⟨.sequenceEnd, t.start, t.stop⟩

def flowSequenceEntryMappingKey : ParseM Event := do
  let t ← peek
  match t.kind with
  | .value | .flowEntry | .flowSequenceEnd =>
    setState .flowSequenceEntryMappingValue
    return emptyScalar t.start
  | _ =>
    push .flowSequenceEntryMappingValue
    node false false

def flowSequenceEntryMappingValue : ParseM Event := do
  let t ← peek
  match t.kind with
  | .value =>
    advance
    let t ← peek
    match t.kind with
    | .flowEntry | .flowSequenceEnd =>
      setState .flowSequenceEntryMappingEnd
      return emptyScalar t.start
    | _ =>
      push .flowSequenceEntryMappingEnd
      node false false
  | _ =>
    setState .flowSequenceEntryMappingEnd
    return emptyScalar t.start

def flowSequenceEntryMappingEnd : ParseM Event := do
  let t ← peek
  setState .flowSequenceEntry
  return ⟨.mappingEnd, t.start, t.start⟩

def flowMappingKey (first : Bool) : ParseM Event := do
  if first then
    let t ← peek
    pushMark t.start
    advance
  let mut t ← peek
  match t.kind with
  | .flowMappingEnd => pure ()
  | _ =>
    if !first then
      match t.kind with
      | .flowEntry => advance; t ← peek
      | _ =>
        let m ← popMark
        failIn "while parsing a flow mapping" m "did not find expected ',' or '\x7d'" t.start
    match t.kind with
    | .key =>
      advance
      let t' ← peek
      match t'.kind with
      | .value | .flowEntry | .flowMappingEnd =>
        setState .flowMappingValue
        return emptyScalar t'.start
      | _ =>
        push .flowMappingValue
        return ← node false false
    | .flowMappingEnd => pure ()
    | _ =>
      push .flowMappingEmptyValue
      return ← node false false
  pop
  let _ ← popMark
  advance
  return ⟨.mappingEnd, t.start, t.stop⟩

def flowMappingValue (empty : Bool) : ParseM Event := do
  let t ← peek
  if empty then
    setState .flowMappingKey
    return emptyScalar t.start
  match t.kind with
  | .value =>
    advance
    let t ← peek
    match t.kind with
    | .flowEntry | .flowMappingEnd =>
      setState .flowMappingKey
      return emptyScalar t.start
    | _ =>
      push .flowMappingKey
      node false false
  | _ =>
    setState .flowMappingKey
    return emptyScalar t.start

/-- The next event, or `none` after the end of the stream. -/
def next : ParseM (Option Event) := do
  match (← get).state with
  | .streamStart => some <$> streamStart
  | .implicitDocumentStart => some <$> documentStart true
  | .documentStart => some <$> documentStart false
  | .documentContent =>
    match ← documentContent with
    | some e => return some e
    | none => some <$> node true false
  | .documentEnd => some <$> documentEnd
  | .blockNode => some <$> node true false
  | .blockNodeOrIndentlessSequence => some <$> node true true
  | .flowNode => some <$> node false false
  | .blockSequenceFirstEntry => some <$> blockSequenceEntry true
  | .blockSequenceEntry => some <$> blockSequenceEntry false
  | .indentlessSequenceEntry => some <$> indentlessSequenceEntry
  | .blockMappingFirstKey => some <$> blockMappingKey true
  | .blockMappingKey => some <$> blockMappingKey false
  | .blockMappingValue => some <$> blockMappingValue
  | .flowSequenceFirstEntry => some <$> flowSequenceEntry true
  | .flowSequenceEntry => some <$> flowSequenceEntry false
  | .flowSequenceEntryMappingKey => some <$> flowSequenceEntryMappingKey
  | .flowSequenceEntryMappingValue => some <$> flowSequenceEntryMappingValue
  | .flowSequenceEntryMappingEnd => some <$> flowSequenceEntryMappingEnd
  | .flowMappingFirstKey => some <$> flowMappingKey true
  | .flowMappingKey => some <$> flowMappingKey false
  | .flowMappingValue => some <$> flowMappingValue false
  | .flowMappingEmptyValue => some <$> flowMappingValue true
  | .finished => return none

end Parse

/-- The events of a text, up to the end of the stream or the first syntax error. -/
def events (text : String) : Array Event × Option SyntaxError := Id.run do
  let mut p : Parser := { scanner := Scanner.start text }
  let mut out : Array Event := #[]
  for _ in [0:8 * text.length + 64] do
    match Parse.next.run p with
    | .error e => return (out, some e)
    | .ok (none, _) => return (out, none)
    | .ok (some ev, p') =>
      out := out.push ev
      p := p'
  return (out, some { problem := "parser ran out of steps" })

end Shipyard.Yaml
