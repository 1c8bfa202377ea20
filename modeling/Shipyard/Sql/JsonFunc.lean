import Shipyard.Sql.JsonPath
import Shipyard.Sql.Jsonb
import Shipyard.Sql.Error
/-!
# The JSON functions

The SQL functions over JSON text. A function's result that is JSON text is marked as such, and
an argument so marked is taken as JSON where a plain text would be a string: `json_array(json(
'[1]'))` is `[[1]]`, while `json_array('[1]')` is `["[1]"]`. Each function returns its value
with that mark. The functions whose names start with `jsonb` give the binary form of what the
others write as text: a blob, which is not marked.

A document argument that is null makes the result null; one that is not JSON (or is empty) is
an error, `malformed JSON`. A blob in the binary form is a document as well, and any other blob
is read as text. A path must start with `$`, except for the right side of `->` and
`->>`, where an integer `N` stands for `$[N]` and a label for `$.label`.
-/
namespace Shipyard.Sql

/-- An argument of a JSON function: its value, and whether it is JSON text made by a JSON
function. -/
structure JsonArg where
  value : Value
  isJson : Bool := false
  deriving Inhabited

/-- The result of a JSON function: its value, and whether it is JSON text. -/
abbrev JsonResult := Except SqlError (Value × Bool)

/-- The error of a document that is not JSON. -/
def malformedJson : SqlError := .plain "malformed JSON"

/-- The error of a path that cannot be read. -/
def badJsonPath (path : String) : SqlError :=
  .plain ("bad JSON path: '" ++ String.ofList (path.toList.flatMap fun c =>
    if c == '\'' then ['\'', '\''] else [c]) ++ "'")

/-- The error of a blob given where JSON is built. -/
def blobInJson : SqlError := .plain "JSON cannot hold BLOB values"

/-- A value's text as the JSON functions read it. -/
def jsonSourceText (v : Value) : String := (v.text?).getD ""

/-- The document a blob in the binary form holds. -/
def binaryDocument (b : List UInt8) : Except SqlError JsonNode :=
  match jsonbDocument b with
  | some node => pure node
  | none => throw malformedJson

/-- The document an argument holds: none for null. -/
def documentOf (v : Value) : Except SqlError (Option JsonNode) :=
  match v with
  | .null => pure none
  | .blob b => if isJsonb b then some <$> binaryDocument b else textDocument v
  | v => textDocument v
where
  /-- The document of a value read as text. -/
  textDocument (v : Value) : Except SqlError (Option JsonNode) :=
    let text := jsonSourceText v
    if text.isEmpty then throw malformedJson
    else match (readJsonText text).1 with
      | .ok node => pure (some node)
      | .error _ => throw malformedJson

/-- A value appended to JSON text that is being built: null, a number, a string, or the text
of JSON made by a JSON function as it is. -/
def sqlValueJson (a : JsonArg) : Except SqlError (List Char) :=
  match a.value with
  | .null => pure "null".toList
  | .integer i => pure (Decimal.intText i).toList
  | .real r => pure ((formatReal r 'g' { altForm := true, zeroPad := true, precision := some 15 }).getD [])
  | .text s => pure (if a.isJson then s.toString.toList else quoteJson s.toString)
  | .blob b => if isJsonb b then JsonNode.render <$> binaryDocument b else throw blobInJson

/-- A value put into a document by an edit: a string for text (JSON for JSON text), a number,
or null. -/
def nodeOfArg (a : JsonArg) : Except SqlError JsonNode :=
  match a.value with
  | .null => pure .null
  | .blob b => if isJsonb b then binaryDocument b else throw blobInJson
  | .text s =>
    if a.isJson then
      match (readJsonText s.toString).1 with
      | .ok node => pure node
      | .error _ => throw malformedJson
    else pure (.string ⟨s.toString, .raw⟩)
  | .integer i => pure (.integer (Decimal.intText i) false)
  | .real r =>
    let t := realText r
    if t.startsWith "I" then pure (.real "9e999" false)
    else if t.startsWith "-I" then pure (.real "-9e999" false)
    else pure (.real t false)

/-- JSON text as a result marked as JSON. -/
def jsonText (node : JsonNode) : Value × Bool := (.text node.text, true)

/-- A document as a result: JSON text marked as JSON, or the blob of its binary form. -/
def jsonOut (binary : Bool) (node : JsonNode) : Value × Bool :=
  if binary then (.blob node.jsonb, false) else jsonText node

/-- JSON text that a function has built, as a result: the text marked as JSON, or the blob of
the binary form of the document it holds. -/
def builtOut (binary : Bool) (text : List Char) : JsonResult :=
  if binary then
    match (readJsonText (String.ofList text)).1 with
    | .ok node => pure (.blob node.jsonb, false)
    | .error _ => throw malformedJson
  else pure (.text (String.ofList text), true)

/-- The SQL value of a document's value, an error when a number in it cannot be read. -/
def sqlValueOf (node : JsonNode) : Except SqlError Value :=
  match node.sqlValue with
  | some v => pure v
  | none => throw malformedJson

/-- Fuel enough to walk a path. -/
def pathFuel (path : String) : Nat := path.length + 2

/-- What `json_extract` and the arrows give for the value a path names. -/
inductive ExtractMode where
  /-- `json_extract`: the SQL value, arrays and objects as JSON. -/
  | value
  /-- `->`: JSON text. -/
  | json
  /-- `->>`: the SQL value. -/
  | sql
  deriving DecidableEq

/-- The path of the right side of an arrow: `$`-paths as they are; else an integer is an
index, a label of letters, digits and underscores a label, `[...]` an index, and anything else
a quoted label. The result is the path after its `$`. -/
def arrowPath (v : Value) (path : String) : List Char :=
  let cs := path.toList
  match v with
  | .integer _ => '[' :: cs ++ [']']
  | _ =>
    if cs.all (fun c => isAlnum c || c == '_') then '.' :: cs
    else if cs.head? == some '[' && cs.length ≥ 3 && cs.getLast? == some ']' then cs
    else '.' :: '"' :: cs ++ ['"']

/-- `json_extract(X, P, ...)`, `X -> P` and `X ->> P`: the value each path names; with more
than one path, a JSON array of them (null for a path that names nothing). The binary variant
gives arrays and objects, and the array of several paths, in the binary form. -/
def jsonExtract (mode : ExtractMode) (args : List JsonArg) (binary : Bool := false) :
    JsonResult := do
  match args with
  | [] | [_] => pure (.null, false)
  | doc :: paths =>
    let some root ← documentOf doc.value | pure (.null, false)
    let single := paths.length == 1
    let rec go : List JsonArg → List (List Char) → JsonResult
      | [], acc => builtOut binary ('[' :: (acc.reverse.intersperse [',']).flatten ++ [']'])
      | p :: rest, acc => do
        let some path := p.value.text? | pure (.null, false)
        let steps ← match path.toList with
          | '$' :: steps => pure steps
          | _ => if mode == .value then throw (badJsonPath path) else pure (arrowPath p.value path)
        match root.lookup (pathFuel path) steps with
        | .ok node =>
          if single then
            match mode with
            | .json => pure (jsonText node)
            | .sql => pure (← sqlValueOf node, false)
            | .value =>
              if node.isContainer then pure (jsonOut binary node)
              else pure (← sqlValueOf node, false)
          else go rest (node.render :: acc)
        | .error .notFound =>
          if single then pure (.null, false) else go rest ("null".toList :: acc)
        | .error .badPath => throw (badJsonPath path)
    go paths []

/-- `json_type(X, P)`: the type of the value the path names. -/
def jsonType (args : List JsonArg) : JsonResult := do
  let some root ← documentOf ((args.head?.map (·.value)).getD .null) | pure (.null, false)
  match args with
  | [_, p] =>
    let some path := p.value.text? | pure (.null, false)
    match path.toList with
    | '$' :: steps =>
      match root.lookup (pathFuel path) steps with
      | .ok node => pure (.text node.typeName, false)
      | .error .notFound => pure (.null, false)
      | .error .badPath => throw (badJsonPath path)
    | _ => throw (badJsonPath path)
  | _ => pure (.text root.typeName, false)

/-- `json_array_length(X, P)`: the number of items of the array the path names, 0 for any
other value. -/
def jsonArrayLength (args : List JsonArg) : JsonResult := do
  let some root ← documentOf ((args.head?.map (·.value)).getD .null) | pure (.null, false)
  let count (node : JsonNode) : Value × Bool := match node with
    | .array items => (.integer items.length, false)
    | _ => (.integer 0, false)
  match args with
  | [_, p] =>
    match p.value.text? with
    | none => pure (.null, false)
    | some path =>
      let steps := match path.toList with
        | '$' :: steps => steps
        | _ => ['@']
      match root.lookup (pathFuel path) steps with
      | .ok node => pure (count node)
      | .error .notFound => pure (.null, false)
      | .error .badPath => throw (badJsonPath path)
  | _ => pure (count root)

/-- `json_valid(X, F)`: whether the text is JSON; with flag 1 of `F` (the default) strict
JSON, with flag 2 JSON5. A blob in the binary form is valid under flag 4 (its first header is
all that is looked at) or under flag 8 when every value in it is well formed, and not valid
under the text flags alone. -/
def jsonValid (args : List JsonArg) : JsonResult := do
  let flags ← match args with
    | [_, f] =>
      let n := f.value.toInt
      if n < 1 || n > 15 then
        throw (.plain "FLAGS parameter to json_valid() must be between 1 and 15")
      else pure (n % 16)
    | _ => pure 1
  match (args.head?.map (·.value)).getD .null with
  | .null => pure (.null, false)
  | .blob b =>
    if isJsonb b then
      if (flags / 4) % 2 == 1 then pure (.integer 1, false)
      else if (flags / 8) % 2 == 1 then pure (.integer (if jsonbCheck b == 0 then 1 else 0), false)
      else pure (.integer 0, false)
    else textValid flags (.blob b)
  | v => textValid flags v
where
  /-- Whether a value read as text is JSON under the flags. -/
  textValid (flags : Int) (v : Value) : JsonResult :=
    if flags % 4 == 0 then pure (.integer 0, false) else
    let text := jsonSourceText v
    if text.isEmpty then pure (.integer 0, false) else
    match readJsonText text with
    | (.ok _, nonstandard) =>
      pure (.integer (if (flags / 2) % 2 == 1 || !nonstandard then 1 else 0), false)
    | (.error _, _) => pure (.integer 0, false)

/-- `json_error_position(X)`: 0 when the text is JSON, else the place (from 1) of the first
character that is not; for a blob in the binary form, 0 when it is well formed, else one more
than the place of the first faulty byte (from 0). -/
def jsonErrorPosition (args : List JsonArg) : JsonResult := do
  match (args.head?.map (·.value)).getD .null with
  | .null => pure (.null, false)
  | .blob b =>
    if isJsonb b then pure (.integer (jsonbCheck b), false) else textPosition (.blob b)
  | v => textPosition v
where
  /-- The place of the first error of a value read as text. -/
  textPosition (v : Value) : JsonResult := do
    let text := jsonSourceText v
    match readJsonText text with
    | (.ok _, _) => pure (.integer 0, false)
    | (.error pos, _) =>
      let before := (text.toList.take pos).takeWhile (· != '\x00')
      pure (.integer (before.length + 1), false)

/-- `json(X)`: the document written as canonical JSON; `jsonb(X)`: its binary form. -/
def jsonMinify (args : List JsonArg) (binary : Bool := false) : JsonResult := do
  let some root ← documentOf ((args.head?.map (·.value)).getD .null) | pure (.null, false)
  pure (jsonOut binary root)

/-- `json_array(...)`: a JSON array of the values. -/
def jsonArray (args : List JsonArg) (binary : Bool := false) : JsonResult := do
  let items ← args.mapM sqlValueJson
  builtOut binary ('[' :: (items.intersperse [',']).flatten ++ [']'])

/-- `json_object(label, value, ...)`: a JSON object of the pairs; the labels must be text. -/
def jsonObject (args : List JsonArg) (binary : Bool := false) : JsonResult := do
  if args.length % 2 == 1 then
    throw (.plain "json_object() requires an even number of arguments")
  let rec pairs : List JsonArg → Except SqlError (List (List Char))
    | l :: v :: rest => do
      match l.value with
      | .text s =>
        let value ← sqlValueJson v
        pure ((quoteJson s.toString ++ ':' :: value) :: (← pairs rest))
      | _ => throw (.plain "json_object() labels must be TEXT")
    | _ => pure []
  let members ← pairs args
  builtOut binary ('{' :: (members.intersperse [',']).flatten ++ ['}'])

/-- `json_quote(X)`: a value as JSON. -/
def jsonQuote (args : List JsonArg) : JsonResult := do
  let text ← sqlValueJson (args.head?.getD {value := .null})
  pure (.text (String.ofList text), true)

/-- `json_remove(X, P, ...)`: the document with what each path names deleted; `$` itself makes
the result null. -/
def jsonRemove (args : List JsonArg) (binary : Bool := false) : JsonResult := do
  match args with
  | [] => pure (.null, false)
  | doc :: paths =>
    let some root ← documentOf doc.value | pure (.null, false)
    let rec go : JsonNode → List JsonArg → JsonResult
      | node, [] => pure (jsonOut binary node)
      | node, p :: rest => do
        let some path := p.value.text? | pure (.null, false)
        match path.toList with
        | '$' :: steps =>
          if steps.isEmpty then pure (.null, false) else
          match JsonNode.edit .delete .null (pathFuel path) node steps with
          | .ok (some node) => go node rest
          | .ok none => pure (.null, false)
          | .error .notFound => go node rest
          | .error .badPath => throw (badJsonPath path)
        | _ => throw (badJsonPath path)
    go root paths

/-- `json_insert`, `json_replace` and `json_set(X, P, V, ...)`: the document with each value
put at its path; a null path is passed over. -/
def jsonEdit (mode : JsonEdit) (name : String) (args : List JsonArg) (binary : Bool := false) :
    JsonResult := do
  match args with
  | [] => pure (.null, false)
  | doc :: rest =>
    if rest.length % 2 == 1 then
      throw (.plain ("json_" ++ name ++ "() needs an odd number of arguments"))
    let some root ← documentOf doc.value | pure (.null, false)
    let rec go : JsonNode → List JsonArg → JsonResult
      | node, p :: v :: rest => do
        match p.value with
        | .null => go node rest
        | pv =>
          let path := (pv.text?).getD ""
          match path.toList with
          | '$' :: steps =>
            let value ← nodeOfArg v
            if steps.isEmpty then
              go (if mode == .replace || mode == .set then value else node) rest
            else
              match JsonNode.edit mode value (pathFuel path) node steps with
              | .ok (some node) => go node rest
              | .ok none => go node rest
              | .error .notFound => go node rest
              | .error .badPath => throw (badJsonPath path)
          | _ => throw (badJsonPath path)
      | node, _ => pure (jsonOut binary node)
    go root rest

/-- `json_patch(T, P)`: the merge patch `P` applied to `T`. -/
def jsonPatch (args : List JsonArg) (binary : Bool := false) : JsonResult := do
  let some target ← documentOf ((args.head?.map (·.value)).getD .null) | pure (.null, false)
  let some patch ← documentOf ((args[1]?.map (·.value)).getD .null) | pure (.null, false)
  pure (jsonOut binary (target.mergePatch (patch.text.length + 2) patch))

/-- `json_pretty(X, I)`: the document written with a line for each item and member, indented
by `I` (four blanks by default) for each level. -/
def jsonPretty (args : List JsonArg) : JsonResult := do
  let some root ← documentOf ((args.head?.map (·.value)).getD .null) | pure (.null, false)
  let indent := match args[1]?.map (·.value) with
    | some v => ((v.text?).getD "    ").toList
    | none => "    ".toList
  pure (.text (String.ofList (root.pretty indent 0)), false)

/-- `json_group_array(X)`: a JSON array of the values of a group. -/
def jsonGroupArray (rows : List JsonArg) (binary : Bool := false) : JsonResult :=
  jsonArray rows binary

/-- `json_group_object(L, V)`: a JSON object of the pairs of a group, a null label passed
over. -/
def jsonGroupObject (rows : List (JsonArg × JsonArg)) (binary : Bool := false) : JsonResult := do
  let members ← rows.filterMapM fun (l, v) => do
    match l.value.text? with
    | none => pure none
    | some s => pure (some (quoteJson s ++ ':' :: (← sqlValueJson v)))
  builtOut binary ('{' :: (members.intersperse [',']).flatten ++ ['}'])

/-- The JSON function of a name, if it is one. -/
def jsonCall (name : String) (args : List JsonArg) : Option JsonResult :=
  match name with
  | "json" => some (jsonMinify args)
  | "jsonb" => some (jsonMinify args true)
  | "json_array" => some (jsonArray args)
  | "jsonb_array" => some (jsonArray args true)
  | "json_object" => some (jsonObject args)
  | "jsonb_object" => some (jsonObject args true)
  | "json_quote" => some (jsonQuote args)
  | "json_extract" => some (jsonExtract .value args)
  | "jsonb_extract" => some (jsonExtract .value args true)
  | "json_type" => some (jsonType args)
  | "json_array_length" => some (jsonArrayLength args)
  | "json_valid" => some (jsonValid args)
  | "json_error_position" => some (jsonErrorPosition args)
  | "json_remove" => some (jsonRemove args)
  | "jsonb_remove" => some (jsonRemove args true)
  | "json_insert" => some (jsonEdit .insert "insert" args)
  | "jsonb_insert" => some (jsonEdit .insert "insert" args true)
  | "json_replace" => some (jsonEdit .replace "replace" args)
  | "jsonb_replace" => some (jsonEdit .replace "replace" args true)
  | "json_set" => some (jsonEdit .set "set" args)
  | "jsonb_set" => some (jsonEdit .set "set" args true)
  | "json_patch" => some (jsonPatch args)
  | "jsonb_patch" => some (jsonPatch args true)
  | "json_pretty" => some (jsonPretty args)
  | _ => none

end Shipyard.Sql
