import Shipyard.Config.Basic
/-!
# Reading settings from a command line

Options are written `--<name> <value>` or `--<name>=<value>`, the name being the setting's in
kebab case; `--` ends the options, and `--help` (or `-h`, for the short form) asks for help.
After `--` every argument is one that no option takes, so an option still waiting for its value
does not get one there.

A value is taken by the option before it, unless it looks like an option itself (it starts with
`-` and is more than `-`). An option's value is checked only when the next option starts, or at
the end: so an unknown argument right after a bad value is the error reported. Giving an option
twice is refused when its second value is checked, before that value is read.
-/
namespace Shipyard.Config

open Shipyard.Text

/-- Why a command line is refused. -/
inductive CommandLineError where
  | unknownArgument (arg : String)
  /-- A value that is none of the allowed ones; the empty value means a missing one. -/
  | invalidValue (option value : String)
  | valueValidation (option value reason : String)
  | usedTwice (option : String)
  /-- A value given to an option that takes none. -/
  | tooManyValues (option value : String)
  /-- A request for help: the short form (`-h`) or the long one (`--help`). -/
  | help (long : Bool)
  deriving DecidableEq, Repr

namespace CommandLineError

/-- The name of the kind of refusal. -/
def kind : CommandLineError → String
  | .unknownArgument _ => "UnknownArgument"
  | .invalidValue _ _ => "InvalidValue"
  | .valueValidation _ _ _ => "ValueValidation"
  | .usedTwice _ => "ArgumentConflict"
  | .tooManyValues _ _ => "TooManyValues"
  | .help _ => "DisplayHelp"

/-- The first line of the refusal's message. -/
def message : CommandLineError → String
  | .unknownArgument a => "error: unexpected argument '" ++ a ++ "' found"
  | .invalidValue o v =>
    if v.isEmpty then "error: a value is required for '" ++ o ++ "' but none was supplied"
    else "error: invalid value '" ++ v ++ "' for '" ++ o ++ "'"
  | .valueValidation o v r => "error: invalid value '" ++ v ++ "' for '" ++ o ++ "': " ++ r
  | .usedTwice o => "error: the argument '" ++ o ++ "' cannot be used multiple times"
  | .tooManyValues o v =>
    "error: unexpected value '" ++ v ++ "' for '" ++ o ++ "' found; no more were expected"
  | .help true => "Runtime configuration for the control plane."
  | .help false => "Runtime configuration for the control plane"

end CommandLineError

/-- Why a decimal integer does not read. -/
inductive IntegerFault where
  | empty
  | invalidDigit
  | tooLarge
  | tooSmall
  deriving DecidableEq, Repr

def IntegerFault.message : IntegerFault → String
  | .empty => "cannot parse integer from empty string"
  | .invalidDigit => "invalid digit found in string"
  | .tooLarge => "number too large to fit in target type"
  | .tooSmall => "number too small to fit in target type"

/-- A decimal integer with an optional sign (`-` only when `signed`), in `bits` bits; digits are
read from the left and the first fault met is the answer. -/
def parseInteger (signed : Bool) (bits : Nat) (s : String) : Except IntegerFault Int :=
  let (negative, digits) : Bool × List Char := match s.toList with
    | '+' :: rest => (false, rest)
    | '-' :: rest => if signed then (true, rest) else (false, s.toList)
    | cs => (false, cs)
  let limit : Nat :=
    if negative then Nat.pow 2 (bits - 1) else if signed then Nat.pow 2 (bits - 1) - 1
    else Nat.pow 2 bits - 1
  let step (acc : Except IntegerFault Nat) (c : Char) : Except IntegerFault Nat :=
    acc.bind fun n =>
      if !('0' ≤ c && c ≤ '9') then .error .invalidDigit
      else
        let m := n * 10 + (c.toNat - 48)
        if m > limit then .error (if negative then .tooSmall else .tooLarge) else .ok m
  if s.isEmpty then .error .empty
  else if digits.isEmpty then .error .invalidDigit
  else (digits.foldl step (.ok 0)).map fun n => if negative then -(n : Int) else n

/-- The long name of a field: snake case to kebab case. -/
def longName (field : String) : String := field.map fun c => if c == '_' then '-' else c

/-- How an option is shown in messages: `--<name> <FIELD>`. -/
def optionText (field : String) : String :=
  "--" ++ longName field ++ " <" ++ field.toUpper ++ ">"

/-- Reads an option's value. -/
def readValue (field : String) (kind : ValueKind) (v : String) : Except CommandLineError Value :=
  let o := optionText field
  match kind with
  | .port =>
    match parseInteger true 64 v with
    | .error f => .error (.valueValidation o v f.message)
    | .ok n =>
      if 0 ≤ n && n ≤ 65535 then .ok (.number n.toNat)
      else .error (.valueValidation o v (toString n ++ " is not in 0..=65535"))
  | .seconds =>
    match parseInteger false 64 v with
    | .error f => .error (.valueValidation o v f.message)
    | .ok n => .ok (.number n.toNat)
  | .switch =>
    if v == "true" then .ok (.flag true) else if v == "false" then .ok (.flag false)
    else .error (.invalidValue o v)
  | .path => if v.isEmpty then .error (.invalidValue o "") else .ok (.text v)
  | .duration =>
    match parseDuration v with
    | .ok n => .ok (.number n)
    | .error e => .error (.valueValidation o v e.message)
  | .text => .ok (.text v)

/-- The command line read so far: the settings, the options given, and an option that still
waits for its value (with the value, once one came). -/
structure Reading where
  settings : Settings := {}
  given : List String := []
  pending : Option (String × Option String) := none

namespace Reading

/-- Settles the waiting option: it needs its value, may not be given twice, and its value must
read. -/
def settle (r : Reading) : Except CommandLineError Reading :=
  match r.pending with
  | none => .ok r
  | some (field, value) =>
    let o := optionText field
    match value with
    | none => .error (.invalidValue o "")
    | some v =>
      if r.given.contains field then .error (.usedTwice o)
      else
        match (options.lookup field) with
        | none => .ok { r with pending := none }
        | some kind => do
          let val ← readValue field kind v
          .ok { settings := r.settings.assign field val, given := field :: r.given, pending := none }

/-- Reads the arguments; `trailing` once `--` was seen. -/
def run (r : Reading) (trailing : Bool) : List String → Except CommandLineError Reading
  | [] => r.settle
  | t :: rest =>
    let waiting := match r.pending with | some (_, none) => true | _ => false
    let isLong := t.startsWith "--" && t.length > 2
    let isShort := !t.startsWith "--" && t.startsWith "-" && t.length > 1
    if !trailing && t == "--" then r.run true rest
    else if !trailing && isLong then
      let body := String.ofList (t.toList.drop 2)
      let (name, attached) := match body.splitOn "=" with
        | n :: v :: more => (n, some ("=".intercalate (v :: more)))
        | _ => (body, none)
      if name == "help" then do
        let _ ← r.settle
        match attached with
        | some v => .error (.tooManyValues "--help" v)
        | none => .error (.help true)
      else
        match options.find? (fun (f, _) => longName f == name) with
        | none => .error (.unknownArgument ("--" ++ name))
        | some (field, _) => do
          let r ← r.settle
          match attached with
          | some v => do
            let r ← Reading.settle { r with pending := some (field, some v) }
            r.run trailing rest
          | none => Reading.run { r with pending := some (field, none) } trailing rest
    else if !trailing && isShort then
      match t.toList with
      | _ :: 'h' :: _ => do let _ ← r.settle; .error (.help false)
      | _ :: c :: _ => .error (.unknownArgument (String.ofList ['-', c]))
      | _ => .error (.unknownArgument t)
    else if waiting && !trailing then
      match r.pending with
      | some (field, _) => Reading.run { r with pending := some (field, some t) } trailing rest
      | none => r.run trailing rest
    else .error (.unknownArgument t)

end Reading

/-- The settings a command line gives. -/
def Settings.ofArgs (args : List String) : Except CommandLineError Settings :=
  (({} : Reading).run false args).map (·.settings)

end Shipyard.Config
