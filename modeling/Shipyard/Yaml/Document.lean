import Shipyard.Yaml.Event
/-!
The first document of a YAML stream, as a tree.

A stream may hold several documents; a reader of one value takes the first and only notes
whether another follows. The first document's events become a tree of `Node`s. An alias stays
a reference to the anchor it names, resolved when the tree is read (so that a node may refer
to one that encloses it, and reading it unfolds as far as the reader goes).

Anchors are numbered as they are defined: a new name takes the number of names seen so far,
and a name defined again takes that number afresh. The node an anchor number refers to is
the last one defined with it in the whole document, so a redefinition that happens to take
the number of an older name takes over that name's aliases too.

When the events stop early, because the text has a syntax error or an alias names an anchor
not yet defined, the tree ends in `cut`: collections that were open are marked not closed,
and the cause is kept with the document. A stream with no document at all gives `void`.
-/
namespace Shipyard.Yaml

/-- A node of a document. -/
inductive Node where
  | scalar (text : String) (style : ScalarStyle) (tag : Option String) (mark : Mark)
  /-- A sequence; `closed` is false when the events stop inside it. -/
  | seq (tag : Option String) (mark : Mark) (items : List Node) (closed : Bool)
  /-- A mapping, its entries in the order written; `closed` is false when the events stop
  inside it. -/
  | map (tag : Option String) (mark : Mark) (entries : List (Node × Node)) (closed : Bool)
  /-- A reference to the node of an anchor number. -/
  | aliased (anchor : Nat) (mark : Mark)
  /-- The document holds no node at all. -/
  | void (mark : Mark)
  /-- The events stop here. -/
  | cut
  deriving Repr, Inhabited

namespace Node

/-- Where a node starts; `cut` has no place. -/
def mark? : Node → Option Mark
  | .scalar _ _ _ m | .seq _ m _ _ | .map _ m _ _ | .aliased _ m | .void m => some m
  | .cut => none

mutual
/-- Whether the events of a node are all there: no `cut` inside and every collection closed. -/
def complete : Node → Bool
  | .seq _ _ items closed => closed && completeItems items
  | .map _ _ entries closed => closed && completeEntries entries
  | .cut => false
  | _ => true

def completeItems : List Node → Bool
  | [] => true
  | n :: ns => complete n && completeItems ns

def completeEntries : List (Node × Node) → Bool
  | [] => true
  | (k, v) :: rest => complete k && complete v && completeEntries rest
end

end Node

/-- Why a document does not give a value. -/
inductive Failure where
  /-- A mismatch between the document and what was expected, placed at a node and the path to
  it once known. -/
  | mismatch (message : String) (place : Option (Mark × String))
  | malformed (e : SyntaxError)
  | unknownAnchor (mark : Mark)
  /-- The document ends where a value is still expected. -/
  | endOfStream
  /-- Collections nest deeper than 128 levels. -/
  | recursionLimit (mark : Mark)
  /-- Aliases are followed more than a hundred times per event of the document. -/
  | repetitionLimit
  | severalDocuments
  deriving Inhabited

namespace Failure

/-- ` at line L column C`, left out at the very start of the text. -/
def atMark (m : Mark) : String := if m.atStart then "" else " at " ++ m.text

def message : Failure → String
  | .mismatch msg none => msg
  | .mismatch msg (some (m, path)) =>
    (if path == "." then "" else path ++ ": ") ++ msg ++ atMark m
  | .malformed e => e.message
  | .unknownAnchor m => "unknown anchor" ++ atMark m
  | .endOfStream => "EOF while parsing a value"
  | .recursionLimit m => "recursion limit exceeded" ++ atMark m
  | .repetitionLimit => "repetition limit exceeded"
  | .severalDocuments => "deserializing from YAML containing more than one document is not supported"

/-- Places a mismatch that has no place yet. -/
def locate (m : Mark) (path : String) : Failure → Failure
  | .mismatch msg none => .mismatch msg (some (m, path))
  | f => f

end Failure

/-- An event of the first document that builds its nodes. -/
inductive Step where
  | scalar (text : String) (style : ScalarStyle) (tag : Option String) (mark : Mark)
  | aliased (anchor : Nat) (mark : Mark)
  | seqStart (tag : Option String) (mark : Mark)
  | seqEnd
  | mapStart (tag : Option String) (mark : Mark)
  | mapEnd
  | void (mark : Mark)
  deriving Inhabited

/-- The steps of the first document as they are collected. -/
structure Steps where
  steps : Array Step := #[]
  /-- Anchor names and their numbers. -/
  names : List (String × Nat) := []
  /-- Anchor numbers and the step that defines them, the latest first. -/
  anchorAt : List (Nat × Nat) := []
  /-- Why the steps stop early. -/
  error : Option Failure := none
  /-- Whether another document follows the first. -/
  more : Bool := false
  deriving Inhabited

namespace Steps

/-- Defines an anchor at the step about to be added. -/
def define (s : Steps) : Option String → Steps
  | none => s
  | some name =>
    let number := s.names.length
    let names := if s.names.any (·.1 == name) then
        s.names.map fun (n, k) => if n == name then (n, number) else (n, k)
      else s.names ++ [(name, number)]
    { s with names, anchorAt := (number, s.steps.size) :: s.anchorAt }

def push (s : Steps) (st : Step) : Steps := { s with steps := s.steps.push st }

/-- Collects the steps of the first document from the events of a stream; `err` is the
syntax error that ended the events, if one did. -/
def collect (err : Option SyntaxError) : List Event → Steps → Steps
  | [], s => { s with error := err.map Failure.malformed, more := true }
  | ev :: rest, s =>
    match ev.kind with
    | .streamStart | .documentStart _ => collect err rest s
    | .streamEnd => if s.steps.isEmpty then s.push (.void ev.start) else s
    | .documentEnd _ =>
      let more := match rest with
        | e :: _ => match e.kind with
          | .streamEnd => false
          | _ => true
        | [] => true
      { s with more }
    | .aliased name =>
      match s.names.lookup name with
      | some a => collect err rest (s.push (.aliased a ev.start))
      | none => { s with error := some (.unknownAnchor ev.start) }
    | .scalar anchor tag text style _ _ =>
      collect err rest ((s.define anchor).push (.scalar text style tag ev.start))
    | .sequenceStart anchor tag _ =>
      collect err rest ((s.define anchor).push (.seqStart tag ev.start))
    | .sequenceEnd => collect err rest (s.push .seqEnd)
    | .mappingStart anchor tag _ =>
      collect err rest ((s.define anchor).push (.mapStart tag ev.start))
    | .mappingEnd => collect err rest (s.push .mapEnd)

end Steps

namespace Build

mutual
/-- The node whose first step is `i`, and the step after it. -/
def node (steps : Array Step) : Nat → Nat → Node × Nat
  | 0, i => (.cut, i)
  | fuel + 1, i =>
    match steps[i]? with
    | none => (.cut, i)
    | some (.scalar text style tag m) => (.scalar text style tag m, i + 1)
    | some (.aliased a m) => (.aliased a m, i + 1)
    | some (.void m) => (.void m, i + 1)
    | some (.seqStart tag m) =>
      let (items, closed, j) := items steps fuel (i + 1)
      (.seq tag m items closed, j)
    | some (.mapStart tag m) =>
      let (entries, closed, j) := entries steps fuel (i + 1)
      (.map tag m entries closed, j)
    | some .seqEnd | some .mapEnd => (.cut, steps.size)

/-- The items of a sequence from step `i`, whether its end was reached, and the step after. -/
def items (steps : Array Step) : Nat → Nat → List Node × Bool × Nat
  | 0, i => ([], false, i)
  | fuel + 1, i =>
    match steps[i]? with
    | none => ([], false, i)
    | some .seqEnd => ([], true, i + 1)
    | some _ =>
      let (n, j) := node steps fuel i
      let (rest, closed, k) := items steps fuel j
      (n :: rest, closed, k)

/-- The entries of a mapping from step `i`, whether its end was reached, and the step after. -/
def entries (steps : Array Step) : Nat → Nat → List (Node × Node) × Bool × Nat
  | 0, i => ([], false, i)
  | fuel + 1, i =>
    match steps[i]? with
    | none => ([], false, i)
    | some .mapEnd => ([], true, i + 1)
    | some _ =>
      let (k, j) := node steps fuel i
      if steps.size ≤ j then ([(k, .cut)], false, j)
      else
        let (v, j') := node steps fuel j
        let (rest, closed, j'') := entries steps fuel j'
        ((k, v) :: rest, closed, j'')
end

end Build

/-- The first document of a stream. -/
structure Document where
  root : Node
  /-- Anchor numbers and their nodes. -/
  anchors : List (Nat × Node)
  /-- Why the document's events stop early, if they do. -/
  error : Option Failure
  /-- Whether another document follows. -/
  more : Bool
  /-- The number of events of the document. -/
  size : Nat
  deriving Inhabited

namespace Document

/-- Keeps the first pair of each key. -/
def firstOfEach : List (Nat × Nat) → List (Nat × Nat) → List (Nat × Nat)
  | [], acc => acc.reverse
  | (a, k) :: rest, acc =>
    if acc.any (·.1 == a) then firstOfEach rest acc else firstOfEach rest ((a, k) :: acc)

/-- The first document of a text. -/
def ofText (text : String) : Document :=
  let (evs, err) := events text
  let s := Steps.collect err evs.toList {}
  let fuel := s.steps.size + 2
  let nodeAt (i : Nat) := (Build.node s.steps fuel i).1
  { root := nodeAt 0,
    anchors := (firstOfEach s.anchorAt []).map fun (a, k) => (a, nodeAt k),
    error := s.error, more := s.more, size := s.steps.size }

/-- The node an anchor number refers to. -/
def anchor? (d : Document) (a : Nat) : Option Node := d.anchors.lookup a

/-- What reading past the end of the document's events meets. -/
def cutFailure (d : Document) : Failure := d.error.getD .endOfStream

end Document

end Shipyard.Yaml
