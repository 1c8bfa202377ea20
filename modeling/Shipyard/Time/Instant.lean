import Shipyard.Decimal.Text
/-!
Instants and their text.

An instant is a count of microseconds since 1970-01-01T00:00:00Z. Its text is the RFC 3339
form in UTC with six fractional digits, `YYYY-MM-DDTHH:MM:SS.ffffffZ`, and a year past 9999 is
written with a `+` before it; for the years 0000 to 9999 the texts sort in the same order as
the instants. Calendar dates come from the day count by the proleptic Gregorian rules (eras of
400 years, March-based years).
-/
namespace Shipyard

/-- Microseconds since the Unix epoch. -/
structure Instant where
  micros : Nat
  deriving Repr, DecidableEq, Ord

namespace Instant

instance : LT Instant := ⟨fun a b => a.micros < b.micros⟩
instance (a b : Instant) : Decidable (a < b) := inferInstanceAs (Decidable (a.micros < b.micros))

def ofSeconds (s : Nat) : Instant := ⟨s * 1000000⟩

/-- Whole seconds since the epoch. -/
def seconds (t : Instant) : Nat := t.micros / 1000000

/-- The instant `d` microseconds later. -/
def addMicros (t : Instant) (d : Nat) : Instant := ⟨t.micros + d⟩

/-- Year, month and day of a count of days since the epoch. -/
def civilOfDays (days : Nat) : Nat × Nat × Nat :=
  let z := days + 719468
  let era := z / 146097
  let doe := z - era * 146097
  let yoe := (doe - doe / 1460 + doe / 36524 - doe / 146096) / 365
  let y := yoe + era * 400
  let doy := doe - (365 * yoe + yoe / 4 - yoe / 100)
  let mp := (5 * doy + 2) / 153
  let d := doy - (153 * mp + 2) / 5 + 1
  let m := if mp < 10 then mp + 3 else mp - 9
  (if m ≤ 2 then y + 1 else y, m, d)

/-- `n` in exactly `width` digits (more when it does not fit). -/
def padded (width n : Nat) : String :=
  let t := Decimal.natText n
  String.ofList (List.replicate (width - t.length) '0') ++ t

/-- RFC 3339 text in UTC with microseconds. -/
def text (t : Instant) : String :=
  let secs := t.micros / 1000000
  let frac := t.micros % 1000000
  let (y, m, d) := civilOfDays (secs / 86400)
  let r := secs % 86400
  (if y ≤ 9999 then "" else "+") ++ padded 4 y ++ "-" ++ padded 2 m ++ "-" ++ padded 2 d ++ "T" ++
    padded 2 (r / 3600) ++ ":" ++ padded 2 (r / 60 % 60) ++ ":" ++ padded 2 (r % 60) ++ "." ++ padded 6 frac ++ "Z"

end Instant

end Shipyard
