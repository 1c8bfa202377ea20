import Shipyard.Time.DateTime
import Shipyard.Error
import Shipyard.Text.Escape
/-!
# Moments of the clock

A moment is a date-time of the clock library in UTC: whole seconds from
1970-01-01T00:00:00Z, before it as well as after, and the nanoseconds into the second. The
store's `Instant` is the part of it from the epoch on, counted in whole microseconds
(`Moment.ofInstant`, `Moment.toInstant`). A leap second, which the clock library keeps as a
second nanosecond count, is not a moment here: a reader counts it as the second before it, as
`DateTime.toInstant` does.

The store writes a moment (`Moment.text`) in RFC 3339 in UTC to the microsecond: the date of the
proleptic Gregorian calendar, the time of day, six digits of the fraction, cut and not rounded,
and `Z`; a year outside 0000–9999 is written with its sign. It reads a text back
(`Store.parseMoment`) as `DateTime.parse` reads it, moved to UTC by its offset.
-/
namespace Shipyard

/-- A date-time of the clock library in UTC. -/
@[ext]
structure Moment where
  /-- Whole seconds since the epoch, negative before it. -/
  seconds : Int
  /-- Nanoseconds into the second. -/
  nanos : Nat
  nanos_lt : nanos < 1000000000
  deriving DecidableEq

namespace Moment

/-- A moment is earlier than another when its second is, or in the same second its
nanosecond count. -/
instance : LT Moment := ⟨fun a b => a.seconds < b.seconds ∨ a.seconds = b.seconds ∧ a.nanos < b.nanos⟩

instance (a b : Moment) : Decidable (a < b) :=
  inferInstanceAs (Decidable (a.seconds < b.seconds ∨ a.seconds = b.seconds ∧ a.nanos < b.nanos))

/-- The moment cut to whole microseconds. -/
def truncMicros (m : Moment) : Moment :=
  ⟨m.seconds, m.nanos / 1000 * 1000, by have := m.nanos_lt; omega⟩

/-- The date of a moment in UTC: year, month and day. -/
def date (m : Moment) : Int × Nat × Nat := DateTime.civilOfDays (m.seconds / 86400)

/-- The year of a moment in UTC. -/
def year (m : Moment) : Int := m.date.1

/-- RFC 3339 text in UTC with microseconds. -/
def text (m : Moment) : String :=
  let r := (m.seconds % 86400).toNat
  let (y, mo, d) := m.date
  DateTime.yearText y ++ "-" ++ Instant.padded 2 mo ++ "-" ++ Instant.padded 2 d ++ "T" ++
    Instant.padded 2 (r / 3600) ++ ":" ++ Instant.padded 2 (r / 60 % 60) ++ ":" ++
    Instant.padded 2 (r % 60) ++ "." ++ Instant.padded 6 (m.nanos / 1000) ++ "Z"

/-- A store instant as a moment. -/
def ofInstant (t : Instant) : Moment :=
  ⟨(t.micros / 1000000 : Nat), t.micros % 1000000 * 1000, by omega⟩

/-- The store instant of a moment: whole microseconds since the epoch, the epoch for any
earlier moment. -/
def toInstant (m : Moment) : Instant :=
  ⟨(m.seconds * 1000000 + ((m.nanos / 1000 : Nat) : Int)).toNat⟩

end Moment

/-- The moment a date-time names; whole seconds among its nanoseconds are carried into its
seconds, and a leap second counts as the second before it. -/
def DateTime.toMoment (t : DateTime) : Moment :=
  let secs : Int := daysOfCivil t.year t.month t.day * 86400 +
    ((t.hour * 3600 + t.minute * 60 + (if t.second == 60 then 59 else t.second) : Nat) : Int) -
    t.offset
  ⟨secs + ((t.nanos / 1000000000 : Nat) : Int), t.nanos % 1000000000, Nat.mod_lt _ (by decide)⟩

/-- The moment a text of the store writes. -/
def Store.parseMoment (text : String) : Except StoreError Moment :=
  match DateTime.parse text with
  | .ok t => .ok t.toMoment
  | .error e => .error (.other ⟨["Failed to parse timestamp " ++ Text.debugQuote text, e.message]⟩)

end Shipyard
