import Shipyard.Sql.Value
import Shipyard.Sql.RealDigits
/-!
# Dates and times

The date and time functions hold a moment in one of two forms, or both: a Julian day number
in whole milliseconds (`jd`, the days since noon of 4714-11-24 BC on the proleptic Gregorian
calendar, times 86400000), and the broken-down fields year, month, day, hour, minute and
seconds. Flags say which forms are current; each function computes the form it needs from
the other, so a field that was read from text, such as the hour `24` of `24:00`, stays as it
was read until the moment is changed.

A moment is read from text (`YYYY-MM-DD`, a time `HH:MM[:SS[.FFF]]` after it or alone, a
time zone `±HH:MM` or `Z`, or `now`) or from a number, a Julian day or, after the modifier
`unixepoch`, seconds since 1970. Modifiers then move it: `±N days` and the other units,
`±YYYY-MM-DD`, `±HH:MM:SS`, `start of day|month|year`, `weekday N`, `floor` and `ceiling`,
`auto`, `julianday`, `unixepoch`, `localtime`, `utc` and `subsec`. The years that can be
written run from -4713 to 9999; a moment beyond them is an error, and so null.

Integer divisions here round toward zero, as the engine's arithmetic does (`Int.tdiv`), and
the Julian day conversions run in double precision where the engine's do.
-/
namespace Shipyard.Sql

/-- A moment as the date functions hold it. -/
structure Moment where
  /-- The Julian day number times 86400000. -/
  jd : Int := 0
  year : Int := 0
  month : Int := 0
  day : Int := 0
  hour : Int := 0
  minute : Int := 0
  /-- The time zone offset in minutes. -/
  zone : Int := 0
  second : Float := 0
  validJd : Bool := false
  validYmd : Bool := false
  validHms : Bool := false
  /-- The days to go back to the end of the month when the day overflowed it (`floor`). -/
  floorDays : Int := 0
  /-- Whether `second` holds a number as given, not yet known to be a day or a timestamp. -/
  raw : Bool := false
  error : Bool := false
  subsec : Bool := false
  utc : Bool := false
  isLocal : Bool := false
  deriving Inhabited

namespace Moment

/-- The moment of an error: every field cleared. -/
def failed : Moment := { error := true }

/-- A real cut toward zero to an integer. -/
def cutReal (r : Float) : Int := realToInt r

/-- The greatest Julian day number, in milliseconds: 9999-12-31 23:59:59.999. -/
def lastJd : Int := 464269060799999

/-- Whether a Julian day number in milliseconds is within the years that can be written. -/
def validJulianDay (jd : Int) : Bool := 0 ≤ jd && jd ≤ lastJd

/-- The Julian day number, from the fields (2000-01-01 when there is no date); the time zone
is then folded into it. A year beyond -4713 to 9999, or a number not yet placed, is an
error. -/
def withJd (p : Moment) : Moment :=
  if p.validJd then p else
  let (y, m, d) := if p.validYmd then (p.year, p.month, p.day) else (2000, 1, 1)
  if y < -4713 || y > 9999 || p.raw then failed else
  let (y, m) := if m ≤ 2 then (y - 1, m + 12) else (y, m)
  let a := y.tdiv 100
  let b := 2 - a + a.tdiv 4
  let x1 := (36525 * (y + 4716)).tdiv 100
  let x2 := (306001 * (m + 1)).tdiv 10000
  let p := { p with jd := (x1 + x2 + d + b) * 86400000 - 131716800000, validJd := true }
  if !p.validHms then p else
  let clock := p.hour * 3600000 + p.minute * 60000 + cutReal (p.second * 1000 + 0.5)
  let p := { p with jd := p.jd + clock }
  if p.zone == 0 then p
  else { p with
    jd := p.jd - p.zone * 60000, validYmd := false, validHms := false, zone := 0
    utc := true, isLocal := false }

/-- The year, month and day, from the Julian day number (2000-01-01 when there is none). -/
def withYmd (p : Moment) : Moment :=
  if p.validYmd then p
  else if !p.validJd then { p with year := 2000, month := 1, day := 1, validYmd := true }
  else if !validJulianDay p.jd then failed
  else
    let z := (p.jd + 43200000).tdiv 86400000
    let alpha := cutReal ((Float.ofInt z + 32044.75) / 36524.25) - 52
    let a := z + 1 + alpha - (alpha + 100).tdiv 4 + 25
    let b := a + 1524
    let c := cutReal ((Float.ofInt b - 122.1) / 365.25)
    let d := (36525 * (c % 32768)).tdiv 100
    let e := cutReal (Float.ofInt (b - d) / 30.6001)
    let x1 := cutReal (30.6001 * Float.ofInt e)
    let month := if e < 14 then e - 1 else e - 13
    { p with
      day := b - d - x1, month, year := if month > 2 then c - 4716 else c - 4715
      validYmd := true }

/-- The hour, minute and seconds, from the Julian day number. -/
def withHms (p : Moment) : Moment :=
  if p.validHms then p else
  let p := p.withJd
  let dayMs := (p.jd + 43200000).tmod 86400000
  let dayMin := dayMs.tdiv 60000
  { p with
    second := Float.ofInt (dayMs.tmod 60000) / 1000.0, minute := dayMin.tmod 60
    hour := dayMin.tdiv 60, raw := false, validHms := true }

/-- Both the date and the time of day. -/
def withFields (p : Moment) : Moment := p.withYmd.withHms

/-- The moment with its fields cleared, the Julian day number alone current. -/
def clearFields (p : Moment) : Moment := { p with validYmd := false, validHms := false, zone := 0 }

/-- The days by which the day overflows its month: what `floor` takes back. -/
def withFloor (p : Moment) : Moment :=
  let f :=
    if p.day ≤ 28 then 0
    else if [1, 3, 5, 7, 8, 10, 12].contains p.month then 0
    else if p.month != 2 then (if p.day == 31 then 1 else 0)
    else if p.year.tmod 4 != 0 || (p.year.tmod 100 == 0 && p.year.tmod 400 != 0) then p.day - 28
    else p.day - 29
  { p with floorDays := f }

/-- The time of day of a day in the seconds since 1970: the date and the time in whole
seconds, as the C library breaks a time down in UTC. -/
def breakDown (t : Int) : Int × Int × Int × Int × Int × Int :=
  let days := t / 86400
  let secs := t % 86400
  let z := days + 719468
  let era := z / 146097
  let doe := z - era * 146097
  let yoe := (doe - doe / 1460 + doe / 36524 - doe / 146096) / 365
  let doy := doe - (365 * yoe + yoe / 4 - yoe / 100)
  let mp := (5 * doy + 2) / 153
  let d := doy - (153 * mp + 2) / 5 + 1
  let m := if mp < 10 then mp + 3 else mp - 9
  let y := yoe + era * 400 + (if m ≤ 2 then 1 else 0)
  (y, m, d, secs / 3600, (secs / 60) % 60, secs % 60)

/-- The moment as local time, the local time zone being UTC. A year outside 1970 to 2037 is
first moved by a multiple of four years into it and moved back after. -/
def toLocal (p : Moment) : Moment :=
  let p := p.withJd
  let (diff, t) :=
    if p.jd < 210866760000000 || p.jd > 213014145600000 then
      let x := p.withFields
      let diff := (2000 + x.year.tmod 4) - x.year
      let x := { x with year := x.year + diff, validJd := false }.withJd
      (diff, x.jd.tdiv 1000 - 210866760000)
    else (0, p.jd.tdiv 1000 - 210866760000)
  let (y, m, d, h, mi, s) := breakDown t
  { p with
    year := y - diff, month := m, day := d, hour := h, minute := mi
    second := Float.ofInt s + Float.ofInt (p.jd.tmod 1000) * 0.001, validYmd := true
    validHms := true, validJd := false, raw := false, zone := 0, error := false }

/-- A number as the first argument: a Julian day when it is one, kept raw in any case for
`unixepoch` and `auto`. -/
def ofNumber (r : Float) : Moment :=
  let p : Moment := { second := r, raw := true }
  if r ≥ 0 && r < 5373484.5 then { p with jd := cutReal (r * 86400000.0 + 0.5), validJd := true }
  else p

/-- Moves a raw number to the moment it names: a Julian day when the Julian day reading
already holds, else seconds since 1970 within the years that can be written. -/
def autoAdjust (p : Moment) : Moment :=
  if !p.raw || p.validJd then { p with raw := false }
  else if p.second ≥ -210866760000 && p.second ≤ 253402300799 then
    let r := p.second * 1000.0 + 210866760000000.0
    { p.clearFields with jd := cutReal (r + 0.5), validJd := true, raw := false }
  else p

end Moment

/-! ## Reading a moment -/

/-- One field of a fixed-width date text: its number of digits, its least and greatest
values, and the character that must follow it (none for the last). -/
structure DateField where
  width : Nat
  least : Nat
  most : Nat
  next : Option Char

/-- The values of fixed-width fields read in order, stopping at the first that is not there,
out of range, or not followed by its character. -/
def readFields : List DateField → List Char → List Nat
  | [], _ => []
  | f :: fs, cs =>
    let ds := cs.take f.width
    if ds.length != f.width || !ds.all isDigitChar then [] else
    let v := digitsValue ds
    let rest := cs.drop f.width
    let nextOk := match f.next with
      | none => true
      | some c => rest.head? == some c
    if v < f.least || v > f.most || !nextOk then []
    else v :: (if f.next.isNone then [] else readFields fs (rest.drop 1))

/-- `HH:MM` fields: the hour up to `most`. -/
def clockFields (most : Nat) : List DateField := [⟨2, 0, most, some ':'⟩, ⟨2, 0, 59, none⟩]

/-- A time zone at the end of a text: blanks, then `±HH:MM` or `Z`, then blanks; nothing at
all is no zone. None when something else follows. -/
def readZone (cs : List Char) (p : Moment) : Option Moment :=
  let cs := cs.dropWhile isSpace
  let p := { p with zone := 0 }
  match cs with
  | [] => some p
  | c :: rest =>
    if c == '-' || c == '+' then
      match readFields (clockFields 14) rest with
      | [h, m] =>
        let sign : Int := if c == '-' then -1 else 1
        if ((rest.drop 5).dropWhile isSpace).isEmpty then
          some { p with zone := sign * ((m : Int) + h * 60) }
        else none
      | _ => none
    else if c == 'Z' || c == 'z' then
      if (rest.dropWhile isSpace).isEmpty then some { p with isLocal := false, utc := true }
      else none
    else none

/-- The fraction of a second after a point, cut below one millisecond short of a second. -/
def readFraction (ds : List Char) : Float :=
  let (ms, scale) := ds.foldl (fun (ms, scale) c =>
    (ms * 10.0 + Float.ofNat (c.toNat - 48), scale * 10.0)) ((0 : Float), (1 : Float))
  let ms := ms / scale
  if ms > 0.999 then 0.999 else ms

/-- A time `HH:MM`, `HH:MM:SS` or `HH:MM:SS.FFF`, then a time zone. -/
def readClock (cs : List Char) (p : Moment) : Option Moment := do
  let [h, m] := readFields (clockFields 24) cs | none
  let cs := cs.drop 5
  let (s, ms, cs) ← match cs with
    | ':' :: rest =>
      match readFields [⟨2, 0, 59, none⟩] rest with
      | [s] =>
        let rest := rest.drop 2
        match rest with
        | '.' :: d :: more =>
          if isDigitChar d then
            let ds := (d :: more).takeWhile isDigitChar
            some (s, readFraction ds, (d :: more).drop ds.length)
          else some (s, 0, rest)
        | _ => some (s, 0, rest)
      | _ => none
    | _ => some (0, 0, cs)
  readZone cs { p with
    validJd := false, raw := false, validHms := true, hour := h, minute := m
    second := Float.ofNat s + ms }

/-- A date `YYYY-MM-DD` (a year of four digits, perhaps negative), then blanks or `T` and a
time, or nothing. -/
def readDate (cs : List Char) (p : Moment) : Option Moment := do
  let (negative, cs) := match cs with
    | '-' :: rest => (true, rest)
    | _ => (false, cs)
  let [y, m, d] := readFields [⟨4, 0, 14712, some '-'⟩, ⟨2, 1, 12, some '-'⟩, ⟨2, 1, 31, none⟩] cs
    | none
  let cs := (cs.drop 10).dropWhile fun c => isSpace c || c == 'T'
  let p ← match readClock cs p with
    | some p => some p
    | none => if cs.isEmpty then some { p with validHms := false } else none
  let p := { p with
    validJd := false, validYmd := true, year := if negative then -(y : Int) else y
    month := m, day := d }
  let p := p.withFloor
  some (if p.zone != 0 then p.withJd else p)

/-- The moment of the clock of a call, given as `YYYY-MM-DD HH:MM:SS` in UTC. -/
def Moment.now (clock : String) : Option Moment :=
  match readDate clock.toList {} with
  | some p =>
    let p := p.withJd
    if p.jd > 0 then some { p.clearFields with validJd := true, utc := true, isLocal := false }
    else none
  | none => none

/-- The moment a text names: a date with or without a time, a time alone, `now`, a number, or
`subsec` (now, shown to the millisecond). -/
def readMoment (clock : String) (cs : List Char) : Option Moment :=
  match readDate cs {} with
  | some p => some p
  | none =>
    match readClock cs {} with
    | some p => some p
    | none =>
      let lower := (String.ofList cs).toLower
      if lower == "now" then Moment.now clock
      else
        let (r, code) := readReal cs
        if code > 0 then some (Moment.ofNumber r)
        else if lower == "subsec" || lower == "subsecond" then
          (Moment.now clock).map fun p => { p with subsec := true }
        else none

/-! ## Modifiers -/

/-- A unit of the modifiers `±N unit`: its name, the bound on `N`, and its length in
seconds. The bounds are the single-precision values the engine compares against. -/
structure TimeUnit where
  name : String
  limit : Float
  seconds : Float

/-- The units, `month` and `year` counted in whole months and years first. -/
def timeUnits : List TimeUnit :=
  [⟨"second", 464269992787968.0, 1.0⟩, ⟨"minute", 7737900007424.0, 60.0⟩,
   ⟨"hour", 128969998336.0, 3600.0⟩, ⟨"day", 5373485.0, 86400.0⟩,
   ⟨"month", 176546.0, 2592000.0⟩, ⟨"year", 14713.0, 31536000.0⟩]

/-- A month number brought into 1 to 12, the years it passed carried into the year. -/
def Moment.normalizeMonth (p : Moment) : Moment :=
  let x := if p.month > 0 then (p.month - 1).tdiv 12 else (p.month - 12).tdiv 12
  { p with year := p.year + x, month := p.month - x * 12 }

/-- `±N unit`: months and years move the date by their whole part first; the rest, in the
unit's length, is added to the Julian day number, rounded half away from zero. -/
def Moment.addUnits (p : Moment) (r : Float) (unit : List Char) : Option Moment :=
  let n := unit.length
  if n < 3 || n > 10 then none else
  let name := if (unit.getLast?.map Char.toLower) == some 's' then unit.take (n - 1) else unit
  let p := p.withJd
  let rounder : Float := if r < 0 then -0.5 else 0.5
  let p := { p with floorDays := 0 }
  let found := timeUnits.find? fun u =>
    u.name.length == name.length && (String.ofList name).toLower == u.name &&
      r > -u.limit && r < u.limit
  match found with
  | none => none
  | some u =>
    let whole := Moment.cutReal r
    let (p, r) :=
      if u.name == "month" then
        let p := { p.withFields with month := p.withFields.month + whole }.normalizeMonth
        ({ p.withFloor with validJd := false }, r - Float.ofInt whole)
      else if u.name == "year" then
        let p := { p.withFields with year := p.withFields.year + whole }
        ({ p.withFloor with validJd := false }, r - Float.ofInt whole)
      else (p, r)
    let p := p.withJd
    some { p with jd := p.jd + Moment.cutReal (r * 1000.0 * u.seconds + rounder) }.clearFields

/-- `±HH:MM[:SS[.FFF]]`: the time of day added or taken away. -/
def Moment.addClock (p : Moment) (negative : Bool) (cs : List Char) : Option Moment := do
  let cs := match cs with
    | c :: rest => if isDigitChar c then cs else rest
    | [] => []
  let tx ← readClock cs {}
  let tx := tx.withJd
  let j := tx.jd - 43200000
  let j := j - j.tdiv 86400000 * 86400000
  let j := if negative then -j else j
  let p := p.withJd
  some { p.clearFields with jd := p.jd + j }

/-- Whether a text is a sign and `width` digits: the year of a `±YYYY-MM-DD` modifier. -/
def yearDigits (width : Nat) (cs : List Char) : Bool :=
  (readFields [⟨width, 0, 14712, none⟩] (cs.drop 1)).length == 1

/-- The modifiers that start with a sign or a digit: `±N unit`, `±YYYY-MM-DD [HH:MM[:SS]]`
and `±HH:MM[:SS]`. -/
def Moment.numeric (p : Moment) (cs : List Char) : Option Moment := do
  -- the number runs to a colon, a blank, or the dash after a year of four or five digits
  let rec numberEnd : Nat → Nat → List Char → Nat
    | 0, n, _ => n
    | _ + 1, n, [] => n
    | fuel + 1, n, c :: rest =>
      if c == ':' || isSpace c then n
      else if c == '-' && ((n == 5 && yearDigits 4 cs) || (n == 6 && yearDigits 5 cs)) then n
      else numberEnd fuel (n + 1) rest
  let n := numberEnd cs.length 1 (cs.drop 1)
  let (r, code) := readReal (cs.take n)
  if code ≤ 0 then none
  let first := cs.head?.getD ' '
  let negative := first == '-'
  let after := cs.drop n
  if after.head? == some '-' then
    if first != '+' && first != '-' then none
    let width := if n == 5 then 4 else 5
    let [y, m, d] := readFields [⟨width, 0, 14712, some '-'⟩, ⟨2, 0, 12, some '-'⟩,
      ⟨2, 0, 31, none⟩] (cs.drop 1) | none
    if m ≥ 12 || d ≥ 31 then none
    let q := { p.withFields with validJd := false }
    let (q, days) : Moment × Int := if negative
      then ({ q with year := q.year - y, month := q.month - m }, -(d : Int))
      else ({ q with year := q.year + y, month := q.month + m }, d)
    let q := q.normalizeMonth.withFloor.withJd
    let q := { q with validHms := false, validYmd := false, jd := q.jd + days * 86400000 }
    let rest := cs.drop (width + 7)
    match rest with
    | [] => some q
    | c :: time =>
      if isSpace c && (readFields (clockFields 24) time).length == 2 then
        q.addClock negative time
      else none
  else if after.head? == some ':' then p.addClock negative cs
  else p.addUnits r ((after.dropWhile isSpace).takeWhile (· != '\x00'))

/-- Applies the modifier at place `index` (from 1) of a date function's arguments; none when
it is not one, or not allowed there. -/
def Moment.modify (p : Moment) (index : Nat) (text : String) : Option Moment :=
  let cs := text.toList.takeWhile (· != '\x00')
  let lower := (String.ofList cs).toLower
  match cs.head?.map Char.toLower with
  | some 'a' =>
    if lower == "auto" && index ≤ 1 then some p.autoAdjust else none
  | some 'c' =>
    if lower == "ceiling" then some { p.withJd.clearFields with floorDays := 0 } else none
  | some 'f' =>
    if lower == "floor" then
      let p := p.withJd
      some { p with jd := p.jd - p.floorDays * 86400000 }.clearFields
    else none
  | some 'j' =>
    if lower == "julianday" && index ≤ 1 && p.validJd && p.raw then some { p with raw := false }
    else none
  | some 'l' =>
    if lower == "localtime" then
      some { (if p.isLocal then p else p.toLocal) with utc := false, isLocal := true }
    else none
  | some 'u' =>
    if lower == "unixepoch" && p.raw then
      if index > 1 then none else
      let r := p.second * 1000.0 + 210866760000000.0
      if r ≥ 0 && r < 464269060800000.0 then
        some { p.clearFields with jd := Moment.cutReal (r + 0.5), validJd := true, raw := false }
      else none
    else if lower == "utc" then
      if p.utc then some p
      else
        -- the local time zone is UTC, so the first guess is the answer
        let p := p.withJd
        some { jd := p.jd, validJd := true, utc := true }
    else none
  | some 'w' =>
    if (String.ofList (cs.take 8)).toLower == "weekday " then
      let (r, code) := readReal (cs.drop 8)
      let n := Moment.cutReal r
      if code > 0 && r ≥ 0 && r < 7 && Float.ofInt n == r then
        let q := { p.withFields with zone := 0, validJd := false }.withJd
        let z := ((q.jd + 129600000).tdiv 86400000).tmod 7
        let z := if z > n then z - 7 else z
        some { q with jd := q.jd + (n - z) * 86400000 }.clearFields
      else none
    else none
  | some 's' =>
    if (String.ofList (cs.take 9)).toLower != "start of " then
      if lower == "subsec" || lower == "subsecond" then some { p with subsec := true } else none
    else if !p.validJd && !p.validYmd && !p.validHms then none
    else
      let q := { p.withYmd with
        validHms := true, hour := 0, minute := 0, second := 0
        raw := false, zone := 0, validJd := false }
      let unit := (String.ofList (cs.drop 9)).toLower
      if unit == "month" then some { q with day := 1 }
      else if unit == "year" then some { q with month := 1, day := 1 }
      else if unit == "day" then some q
      else none
  | some c =>
    if c == '+' || c == '-' || isDigitChar c then p.numeric cs else none
  | none => none

/-- The moment a date function's arguments name: the first read as a moment (`now` when there
are none), each later one applied as a modifier. None when one does not read, or the moment
falls outside the years that can be written. -/
def momentOf (clock : String) (args : List Value) : Option Moment := do
  match args with
  | [] => Moment.now clock
  | first :: mods =>
    let p ← match first with
      | .null => none
      | .integer i => some (Moment.ofNumber (Float.ofInt i))
      | .real r => some (Moment.ofNumber r)
      | v => readMoment clock v.chars
    let (p, _) ← mods.foldlM (fun (p, i) m => match m with
      | .null => none
      | v => (p.modify i ((v.text?).getD "")).map (·, i + 1)) (p, 1)
    let p := p.withJd
    if p.error || !Moment.validJulianDay p.jd then none
    else if mods.isEmpty && p.validYmd && p.day > 28 then some { p with validYmd := false }
    else some p

/-! ## Writing a moment -/

/-- An integer with zeros before it to a width, the sign counted in the width (`%0Nd`). -/
def zeroPadded (width : Nat) (n : Int) : String :=
  let digits := (Nat.toDigits 10 n.natAbs)
  let room := if n < 0 then width - 1 else width
  let digits := List.replicate (room - digits.length) '0' ++ digits
  String.ofList (if n < 0 then '-' :: digits else digits)

/-- An integer with blanks before it to a width (`%Nd`). -/
def blankPadded (width : Nat) (n : Int) : String :=
  let s := Decimal.intText n
  String.ofList (List.replicate (width - s.length) ' ') ++ s

/-- A real written by a format conversion, as text. -/
def realWith (r : Float) (conv : Char) (spec : FormatSpec) : String :=
  String.ofList ((formatReal r conv spec).getD [])

namespace Moment

/-- `YYYY-MM-DD`, a negative year with a sign before its four digits. -/
def dateText (p : Moment) : String :=
  let y := p.year.natAbs
  let digit (n : Nat) : Char := Char.ofNat (48 + n % 10)
  String.ofList ((if p.year < 0 then ['-'] else []) ++
    [digit (y / 1000), digit (y / 100), digit (y / 10), digit y, '-',
     digit (p.month.toNat / 10), digit p.month.toNat, '-', digit (p.day.toNat / 10),
     digit p.day.toNat])

/-- `HH:MM:SS`, or `HH:MM:SS.SSS` when shown to the millisecond. -/
def clockText (p : Moment) : String :=
  let digit (n : Nat) : Char := Char.ofNat (48 + n % 10)
  let seconds : List Char :=
    if p.subsec then
      let s := (cutReal (1000.0 * p.second + 0.5)).toNat
      [digit (s / 10000), digit (s / 1000), '.', digit (s / 100), digit (s / 10), digit s]
    else
      let s := (cutReal p.second).toNat
      [digit (s / 10), digit s]
  String.ofList ([digit (p.hour.toNat / 10), digit p.hour.toNat, ':', digit (p.minute.toNat / 10),
    digit p.minute.toNat, ':'] ++ seconds)

/-- The days since the last January 1 (0 on January 1). -/
def daysAfterNewYear (p : Moment) : Int :=
  let jan := { p with validJd := false, month := 1, day := 1 }.withJd
  (p.jd - jan.jd + 43200000).tdiv 86400000

/-- The days since the last Monday (0 on a Monday). -/
def daysAfterMonday (p : Moment) : Int := ((p.jd + 43200000).tdiv 86400000).tmod 7

/-- The days since the last Sunday (0 on a Sunday). -/
def daysAfterSunday (p : Moment) : Int := ((p.jd + 129600000).tdiv 86400000).tmod 7

/-- The Thursday of the week of a moment, which fixes the week's year in ISO 8601. -/
def thursday (p : Moment) : Moment :=
  { p with jd := p.jd + (3 - p.daysAfterMonday) * 86400000, validYmd := false }.withYmd

/-- The seconds since 1970. -/
def unixSeconds (p : Moment) : Int := p.jd.tdiv 1000 - 210866760000

/-- The seconds since 1970, to the millisecond. -/
def unixReal (p : Moment) : Float := Float.ofInt (p.jd - 210866760000000) / 1000.0

/-- What a conversion of `strftime` writes; none for an unknown one. -/
def conversion (p : Moment) (c : Char) : Option String :=
  match c with
  | 'd' => some (zeroPadded 2 p.day)
  | 'e' => some (blankPadded 2 p.day)
  | 'f' =>
    let s := if p.second > 59.999 then 59.999 else p.second
    some (realWith s 'f' { zeroPad := true, width := 6, precision := some 3 })
  | 'F' => some (zeroPadded 4 p.year ++ "-" ++ zeroPadded 2 p.month ++ "-" ++ zeroPadded 2 p.day)
  | 'G' => some (zeroPadded 4 p.thursday.year)
  | 'g' => some (zeroPadded 2 (p.thursday.year.tmod 100))
  | 'H' => some (zeroPadded 2 p.hour)
  | 'k' => some (blankPadded 2 p.hour)
  | 'I' | 'l' =>
    let h := if p.hour > 12 then p.hour - 12 else p.hour
    let h := if h == 0 then 12 else h
    some (if c == 'I' then zeroPadded 2 h else blankPadded 2 h)
  | 'j' => some (zeroPadded 3 (p.daysAfterNewYear + 1))
  | 'J' => some (realWith (Float.ofInt p.jd / 86400000.0) 'g' { precision := some 16 })
  | 'm' => some (zeroPadded 2 p.month)
  | 'M' => some (zeroPadded 2 p.minute)
  | 'p' => some (if p.hour ≥ 12 then "PM" else "AM")
  | 'P' => some (if p.hour ≥ 12 then "pm" else "am")
  | 'R' => some (zeroPadded 2 p.hour ++ ":" ++ zeroPadded 2 p.minute)
  | 's' => some (if p.subsec then realWith p.unixReal 'f' { precision := some 3 }
      else Decimal.intText p.unixSeconds)
  | 'S' => some (zeroPadded 2 (cutReal p.second))
  | 'T' => some (zeroPadded 2 p.hour ++ ":" ++ zeroPadded 2 p.minute ++ ":" ++
      zeroPadded 2 (cutReal p.second))
  | 'u' => let d := p.daysAfterSunday
      some (Decimal.intText (if d == 0 then 7 else d))
  | 'w' => some (Decimal.intText p.daysAfterSunday)
  | 'U' => some (zeroPadded 2 ((p.daysAfterNewYear - p.daysAfterSunday + 7).tdiv 7))
  | 'V' => some (zeroPadded 2 (p.thursday.daysAfterNewYear.tdiv 7 + 1))
  | 'W' => some (zeroPadded 2 ((p.daysAfterNewYear - p.daysAfterMonday + 7).tdiv 7))
  | 'Y' => some (zeroPadded 4 p.year)
  | '%' => some "%"
  | _ => none

end Moment

/-- `strftime`: the format with each `%` conversion replaced; none when one is unknown or a
`%` ends the format. -/
def strftime (fmt : List Char) (p : Moment) : Option String :=
  let p := p.withJd.withFields
  let rec go : List Char → Option (List Char)
    | '%' :: c :: rest => do
      let piece ← p.conversion c
      let tail ← go rest
      some (piece.toList ++ tail)
    | ['%'] => none
    | c :: rest => (c :: ·) <$> go rest
    | [] => some []
  String.ofList <$> go (fmt.takeWhile (· != '\x00'))

/-- `timediff(a, b)`: the years, months, days and time to add to `b` to reach `a`, as
`±YYYY-MM-DD HH:MM:SS.SSS`. -/
def timediff (clock : String) (a b : Value) : Option String := do
  let d1 ← momentOf clock [a]
  let d2 ← momentOf clock [b]
  let d1 := d1.withFields
  let d2 := d2.withFields
  let later := d1.jd ≥ d2.jd
  -- move d2 to d1's year and month, then back a month at a time while it passes d1
  let years := if later then d1.year - d2.year else d2.year - d1.year
  let d2 := if years != 0 then { d2 with year := d1.year, validJd := false }.withJd else d2
  let months := if later then d1.month - d2.month else d2.month - d1.month
  let (years, months) := if months < 0 then (years - 1, months + 12) else (years, months)
  let d2 := if months != 0 then { d2 with month := d1.month, validJd := false }.withJd else d2
  let rec settle : Nat → Int × Int × Moment → Int × Int × Moment
    | 0, acc => acc
    | fuel + 1, (years, months, d2) =>
      if (later && d1.jd < d2.jd) || (!later && d1.jd > d2.jd) then
        let (years, months) := if months - 1 < 0 then (years - 1, 11) else (years, months - 1)
        let d2 := if later then
            if d2.month - 1 < 1 then { d2 with month := 12, year := d2.year - 1 }
            else { d2 with month := d2.month - 1 }
          else
            if d2.month + 1 > 12 then { d2 with month := 1, year := d2.year + 1 }
            else { d2 with month := d2.month + 1 }
        settle fuel (years, months, { d2 with validJd := false }.withJd)
      else (years, months, d2)
  let (years, months, d2) := settle 24 (years, months, d2)
  let span := (if later then d1.jd - d2.jd else d2.jd - d1.jd) + 148699540800000
  let d := ({ jd := span, validJd := true } : Moment).withFields
  let secondsSpec : FormatSpec := { zeroPad := true, width := 6, precision := some 3 }
  some (String.ofList [if later then '+' else '-'] ++ zeroPadded 4 years ++ "-" ++
    zeroPadded 2 months ++ "-" ++ zeroPadded 2 (d.day - 1) ++ " " ++ zeroPadded 2 d.hour ++ ":" ++
    zeroPadded 2 d.minute ++ ":" ++ realWith d.second 'f' secondsSpec)

end Shipyard.Sql
