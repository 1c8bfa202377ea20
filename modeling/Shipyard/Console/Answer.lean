import Shipyard.Json.Decode
/-!
Reading commands and writing answers.

A command is a JSON object. A text field that is absent or not text reads as the empty text,
a flag as `false`. A failed command answers `{"error": kind, "message": text}`.
-/
namespace Shipyard.Console

open Shipyard.Json (decode)

/-- The answer of a failed command. -/
def failure (kind message : String) : Json :=
  .obj [("error", .str kind), ("message", .str message)]

/-- A text field, empty when absent. -/
def text (cmd : Json) (k : String) : String := (cmd.fieldStr? k).getD ""

/-- A text field with its default. -/
def textOr (cmd : Json) (k d : String) : String := (cmd.fieldStr? k).getD d

/-- A text field that may be `null` or absent. -/
def text? (cmd : Json) (k : String) : Option String := cmd.fieldStr? k

/-- A flag, `d` when absent. -/
def flag (cmd : Json) (k : String) (d : Bool := false) : Bool :=
  ((cmd.field? k).bind Json.bool?).getD d

/-- An integer field. -/
def int? (cmd : Json) (k : String) : Option Int := (cmd.field? k).bind Json.int?

/-- A field read against a schema; a failure names the field. -/
def typed (cmd : Json) (k : String) (s : Schema) : Except Json Json :=
  match Json.check s ((cmd.field? k).getD .null) with
  | .ok v => .ok v
  | .error m => .error (failure "BadInput" (k ++ ": " ++ m))

/-- Collapses an answer that may have failed. -/
def settle : Except Json Json → Json
  | .ok v => v
  | .error e => e

end Shipyard.Console
