import Shipyard.Time.Instant
/-!
# Date-times written in RFC 3339

A date-time is read as `YYYY-MM-DD`, a `T` (either case) or a space, `HH:MM:SS`, an optional
fraction of a second (a point and one to nine digits, further digits skipped), and an offset:
`Z` (either case), or a sign (`+`, `-` or the minus sign U+2212) with `HH:MM`. The text is read
byte by byte, and every field is checked for its range as soon as it is read: month 1–12, day
1–31, hour 0–23, minute 0–59, second 0–60 (60 being a leap second), and the offset's minutes
below 60. Once the offset is read it must lie within ±23:59, nothing may follow it, and the
day must be one that its month has.

A failure is one of four: a byte that does not belong where it stands, a field out of range, a
text that ends early, or a text that goes on after the offset. A field of digits that the text
is too short for ends early, whatever bytes stand there.

A date-time is written back in UTC to the second, `YYYY-MM-DDTHH:MM:SSZ`; the offset moves the
clock and perhaps the date, and a year outside 0000–9999 is written with its sign.
-/
namespace Shipyard

/-- Why a text is not a date-time. -/
inductive DateTimeError where
  | outOfRange
  | invalid
  | tooShort
  | tooLong
  deriving DecidableEq, Repr

def DateTimeError.message : DateTimeError → String
  | .outOfRange => "input is out of range"
  | .invalid => "input contains invalid characters"
  | .tooShort => "premature end of input"
  | .tooLong => "trailing input"

/-- A date and time of day at an offset from UTC. -/
structure DateTime where
  year : Nat
  month : Nat
  day : Nat
  hour : Nat
  minute : Nat
  /-- The second, 60 for a leap second. -/
  second : Nat
  nanos : Nat
  /-- Seconds east of UTC. -/
  offset : Int
  deriving DecidableEq, Repr

namespace DateTime

/-- Whether a year of the proleptic Gregorian calendar has 29 February. -/
def isLeapYear (y : Nat) : Bool := y % 4 == 0 && (y % 100 != 0 || y % 400 == 0)

/-- The number of days of a month. -/
def daysInMonth (y m : Nat) : Nat :=
  if m == 2 then (if isLeapYear y then 29 else 28)
  else if m == 4 || m == 6 || m == 9 || m == 11 then 30
  else 31

/-- Reads the bytes of a date-time. -/
abbrev ReadM := StateT (List UInt8) (Except DateTimeError)

def isDigitByte (b : UInt8) : Bool := 48 ≤ b && b ≤ 57

/-- A number of `least` to `most` digits; the text must have `least` bytes left at all. -/
def number (least most : Nat) : ReadM Nat := do
  let s ← get
  if s.length < least then throw .tooShort
  let ds := (s.take most).takeWhile isDigitByte
  if ds.length < least then throw .invalid
  set (s.drop ds.length)
  return ds.foldl (fun n b => n * 10 + (b.toNat - 48)) 0

/-- The byte `c`. -/
def byte (c : UInt8) : ReadM Unit := do
  match ← get with
  | b :: rest => if b == c then set rest else throw .invalid
  | [] => throw .tooShort

/-- A number checked for its range. -/
def field (least most lo hi : Nat) : ReadM Nat := do
  let n ← number least most
  if n < lo || n > hi then throw .outOfRange
  return n

/-- The fraction of a second after its point, in nanoseconds. -/
def fraction : ReadM Nat := do
  let before := (← get).length
  let v ← number 1 9
  let taken := before - (← get).length
  modify (·.dropWhile isDigitByte)
  return v * Nat.pow 10 (9 - taken)

/-- The sign of an offset: whether it is negative, and the bytes after it. -/
def offsetSign : List UInt8 → Except DateTimeError (Bool × List UInt8)
  | [] => .error .tooShort
  | b :: rest =>
    if b == 43 then .ok (false, rest)
    else if b == 45 then .ok (true, rest)
    else match rest with
      | b2 :: b3 :: more => if b == 0xE2 && b2 == 0x88 && b3 == 0x92 then .ok (true, more)
                            else .error .invalid
      | _ => .error .invalid

/-- Two digits of an offset; the first of the minutes must be below 6. -/
def offsetDigits (minutes : Bool) : ReadM Nat := do
  match ← get with
  | d1 :: d2 :: more =>
    if isDigitByte d1 && isDigitByte d2 then
      if minutes && d1.toNat - 48 ≥ 6 then throw .outOfRange
      set more
      return (d1.toNat - 48) * 10 + (d2.toNat - 48)
    else throw .invalid
  | _ => throw .tooShort

/-- The offset: `Z`, or a sign with hours, a colon and minutes. -/
def offsetPart : ReadM Int := do
  let s ← get
  match s with
  | b :: rest =>
    if b == 90 || b == 122 then
      set rest
      return 0
  | [] => pure ()
  let (negative, rest) ← liftM (offsetSign s)
  set rest
  let hours ← offsetDigits false
  byte 58
  let minutes ← offsetDigits true
  let secs : Int := ((hours * 3600 + minutes * 60 : Nat) : Int)
  return if negative then -secs else secs

/-- The greatest offset allowed, in seconds. -/
def maxOffset : Nat := 23 * 3600 + 59 * 60

/-- Reads a whole date-time. -/
def read : ReadM DateTime := do
  let year ← number 4 4
  byte 45
  let month ← field 2 2 1 12
  byte 45
  let day ← field 2 2 1 31
  match ← get with
  | b :: rest => if b == 84 || b == 116 || b == 32 then set rest else throw .invalid
  | [] => throw .tooShort
  let hour ← field 2 2 0 23
  byte 58
  let minute ← field 2 2 0 59
  byte 58
  let second ← field 2 2 0 60
  let nanos ← match ← get with
    | b :: rest => if b == 46 then do set rest; fraction else pure 0
    | [] => pure 0
  let offset ← offsetPart
  if offset.natAbs > maxOffset then throw .outOfRange
  if !(← get).isEmpty then throw .tooLong
  if day > daysInMonth year month then throw .outOfRange
  return { year, month, day, hour, minute, second, nanos, offset }

/-- The date-time a text writes. -/
def parse (text : String) : Except DateTimeError DateTime :=
  (read.run text.toUTF8.toList).map (·.1)

/-- Days since 1970-01-01 of a date of the proleptic Gregorian calendar (integer division
rounds down here, so eras before year 0 count too). -/
def daysOfCivil (y m d : Int) : Int :=
  let y := if m ≤ 2 then y - 1 else y
  let era := y / 400
  let yoe := y - era * 400
  let mp := if m > 2 then m - 3 else m + 9
  let doy := (153 * mp + 2) / 5 + d - 1
  let doe := yoe * 365 + yoe / 4 - yoe / 100 + doy
  era * 146097 + doe - 719468

/-- The date of a count of days since 1970-01-01, for any count. -/
def civilOfDays (z : Int) : Int × Nat × Nat :=
  let z := z + 719468
  let era := z / 146097
  let doe := (z - era * 146097).toNat
  let yoe := (doe - doe / 1460 + doe / 36524 - doe / 146096) / 365
  let doy := doe - (365 * yoe + yoe / 4 - yoe / 100)
  let mp := (5 * doy + 2) / 153
  let d := doy - (153 * mp + 2) / 5 + 1
  let m := if mp < 10 then mp + 3 else mp - 9
  let y : Int := (yoe : Int) + era * 400
  (if m ≤ 2 then y + 1 else y, m, d)

/-- The instant of a date-time, counted in whole microseconds from the epoch (the epoch for
any earlier one). A leap second counts as the second before it. -/
def toInstant (t : DateTime) : Instant :=
  let secs : Int := daysOfCivil t.year t.month t.day * 86400 +
    ((t.hour * 3600 + t.minute * 60 + (if t.second == 60 then 59 else t.second) : Nat) : Int) -
    t.offset
  ⟨(secs * 1000000 + ((t.nanos / 1000 : Nat) : Int)).toNat⟩

/-- A year as RFC 3339 writes it: four digits, or a sign and at least four digits outside
0000–9999. -/
def yearText (y : Int) : String :=
  if 0 ≤ y && y ≤ 9999 then Instant.padded 4 y.toNat
  else (if y < 0 then "-" else "+") ++ Instant.padded 4 y.natAbs

/-- The date-time in UTC, to the second. -/
def utcText (t : DateTime) : String :=
  let leap := t.second == 60
  let secs : Int := daysOfCivil t.year t.month t.day * 86400 +
    ((t.hour * 3600 + t.minute * 60 + (if leap then 59 else t.second) : Nat) : Int) - t.offset
  let days := secs / 86400
  let r := (secs - days * 86400).toNat
  let (y, m, d) := civilOfDays days
  yearText y ++ "-" ++ Instant.padded 2 m ++ "-" ++ Instant.padded 2 d ++ "T" ++
    Instant.padded 2 (r / 3600) ++ ":" ++ Instant.padded 2 (r / 60 % 60) ++ ":" ++
    Instant.padded 2 (if leap then 60 else r % 60) ++ "Z"

end DateTime

end Shipyard
