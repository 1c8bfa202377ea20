import Shipyard.Proofs.Time.Calendar
import Shipyard.Proofs.Text.Digits
import Shipyard.Store.Sessions
/-!
# Timestamps written and read back

An instant is stored as its RFC 3339 text (`Instant.text`); the store parses that text back
(`Store.parseTimestamp`) and compares stored texts as text. Up to the end of the year 9999 the
text is the seven fields of the instant (`textFields`) in fixed widths between fixed separators.
So the reader takes it back to the same instant (`parseTimestamp_text`), and two such texts sort
as their instants do (`text_lt_text_iff`). From `tenThousand` on, the year is written with a sign
and neither holds.

The reader is run symbolically, one lemma per step of `DateTime.read`: a run of digits, a
separator byte, the fraction, the offset `Z`. Each lemma takes the bytes a field is written as.
-/
namespace Shipyard.DateTime

/-! ## Reading bytes -/

theorem except_ok_bind {ε α β : Type} (a : α) (f : α → Except ε β) :
    (Except.ok a >>= f) = f a := rfl

/-- The value of a run of digit bytes, as `number` folds it. -/
def bytesValue (ds : List UInt8) : Nat := ds.foldl (fun n b => n * 10 + (b.toNat - 48)) 0

/-- `number` takes a run of at least `least` and at most `most` digits up to the first byte that
is not one. -/
theorem number_run {least most : Nat} {ds rest : List UInt8} (hl : least ≤ ds.length)
    (hm : ds.length ≤ most) (hd : ∀ b ∈ ds, isDigitByte b = true)
    (hstop : ∀ b ∈ rest.head?, isDigitByte b = false) :
    (number least most).run (ds ++ rest) = .ok (bytesValue ds, rest) := by
  have htake : ((ds ++ rest).take most).takeWhile isDigitByte = ds := by
    rw [List.take_append, List.take_of_length_le hm, List.takeWhile_append_of_pos hd]
    cases rest with
    | nil => simp
    | cons b rest =>
      cases h : most - ds.length with
      | zero => simp
      | succ k => simp [hstop b (by simp)]
  have hlen : ¬ (ds ++ rest).length < least := by simp; omega
  simp only [number, StateT.run_bind, StateT.run_get, pure_bind, htake, if_neg hlen,
    if_neg (Nat.not_lt.2 hl), StateT.run_set, List.drop_left]
  rfl

theorem field_run {least most lo hi : Nat} {ds rest : List UInt8} (hl : least ≤ ds.length)
    (hm : ds.length ≤ most) (hd : ∀ b ∈ ds, isDigitByte b = true)
    (hstop : ∀ b ∈ rest.head?, isDigitByte b = false) (hlo : lo ≤ bytesValue ds)
    (hhi : bytesValue ds ≤ hi) :
    (field least most lo hi).run (ds ++ rest) = .ok (bytesValue ds, rest) := by
  have hin : (bytesValue ds < lo || bytesValue ds > hi) = false := by
    simp only [Bool.or_eq_false_iff, decide_eq_false_iff_not]
    omega
  simp only [field, StateT.run_bind, number_run hl hm hd hstop, except_ok_bind, hin]
  rfl

theorem byte_run (c : UInt8) (rest : List UInt8) : (byte c).run (c :: rest) = .ok ((), rest) := by
  simp only [byte, StateT.run_bind, StateT.run_get, pure_bind, beq_self_eq_true, if_true]
  rfl

theorem fraction_run {ds rest : List UInt8} (h1 : 1 ≤ ds.length) (h9 : ds.length ≤ 9)
    (hd : ∀ b ∈ ds, isDigitByte b = true) {b : UInt8} (hb : isDigitByte b = false) :
    fraction.run (ds ++ b :: rest) = .ok (bytesValue ds * Nat.pow 10 (9 - ds.length), b :: rest) := by
  have hstop : ∀ x ∈ (b :: rest).head?, isDigitByte x = false := by simpa using hb
  simp only [fraction, StateT.run_bind, StateT.run_get, pure_bind, number_run h1 h9 hd hstop,
    except_ok_bind, StateT.run_modify, List.dropWhile_cons, hb, Bool.false_eq_true, if_false,
    List.length_append, Nat.add_sub_cancel, StateT.run_pure]
  rfl

/-- A byte that is not a digit where a number must start fails the number. -/
theorem number_run_not_digit (least most : Nat) (hl : 0 < least) {b : UInt8}
    (hb : isDigitByte b = false) (rest : List UInt8) :
    ∃ err, (number least most).run (b :: rest) = .error err := by
  by_cases hs : (b :: rest).length < least
  · exact ⟨.tooShort, by simp only [number, StateT.run_bind, StateT.run_get, pure_bind, if_pos hs]; rfl⟩
  · refine ⟨.invalid, ?_⟩
    have hds : ((b :: rest).take most).takeWhile isDigitByte = [] := by
      cases most with
      | zero => rfl
      | succ k => simp [hb]
    simp only [number, StateT.run_bind, StateT.run_get, pure_bind, if_neg hs, hds, List.length_nil,
      if_pos hl]
    rfl

/-- A text whose first byte is not a digit is no date-time: the year comes first. -/
theorem read_run_not_digit {b : UInt8} (hb : isDigitByte b = false) (rest : List UInt8) :
    ∃ err, read.run (b :: rest) = .error err := by
  obtain ⟨err, herr⟩ := number_run_not_digit 4 4 (by decide) hb rest
  exact ⟨err, by simp only [read, StateT.run_bind, herr]; rfl⟩

theorem offsetPart_run_Z (rest : List UInt8) : offsetPart.run (90 :: rest) = .ok (0, rest) := rfl

end Shipyard.DateTime

namespace Shipyard.Decimal

/-! ## The bytes of digits -/

/-- A digit character is one byte, with the same code. -/
theorem toNat_toUInt8_of_isDigit {c : Char} (h : c.isDigit) : c.toUInt8.toNat = c.toNat := by
  have hb := digit_bounds h
  change c.val.toUInt8.toNat = c.val.toNat
  rw [UInt32.toNat_toUInt8]
  change c.toNat % 256 = c.toNat
  omega

theorem isDigitByte_toUInt8 {c : Char} (h : c.isDigit) : DateTime.isDigitByte c.toUInt8 = true := by
  have hb := digit_bounds h
  have hn := toNat_toUInt8_of_isDigit h
  simp only [DateTime.isDigitByte, Bool.and_eq_true, decide_eq_true_eq, UInt8.le_iff_toNat_le, hn]
  exact ⟨hb.1, hb.2⟩

/-- The bytes of a run of digits are digit bytes with the same value. -/
theorem WritesIn.bytes {w n : Nat} {l : List Char} (h : WritesIn w n l) :
    (l.map Char.toUInt8).length = w ∧ (∀ b ∈ l.map Char.toUInt8, DateTime.isDigitByte b = true) ∧
      DateTime.bytesValue (l.map Char.toUInt8) = n := by
  refine ⟨by rw [List.length_map, h.length], ?_, ?_⟩
  · intro b hb
    obtain ⟨c, hc, rfl⟩ := List.mem_map.1 hb
    exact isDigitByte_toUInt8 (h.isDigit c hc)
  · rw [← h.value, DateTime.bytesValue, List.foldl_map, digitsValue]
    -- each byte is read as the character it encodes
    suffices ∀ acc, l.foldl (fun n c => n * 10 + (c.toUInt8.toNat - 48)) acc =
        l.foldl (fun acc c => acc * 10 + (c.toNat - 48)) acc from this 0
    have hd := h.isDigit
    clear h
    induction l with
    | nil => intro acc; rfl
    | cons c l ih =>
      intro acc
      simp only [List.foldl_cons, toNat_toUInt8_of_isDigit (hd c (by simp))]
      exact ih (fun x hx => hd x (by simp [hx])) _

end Shipyard.Decimal

namespace Shipyard.DateTime

open Decimal

theorem number_run_padded (w : Nat) {n : Nat} (hw : 0 < w) (hn : n < Nat.pow 10 w) (sep : UInt8)
    (hsep : isDigitByte sep = false) (rest : List UInt8) :
    (number w w).run ((Instant.padded w n).toList.map Char.toUInt8 ++ sep :: rest) = .ok (n, sep :: rest) := by
  obtain ⟨hlen, hdig, hval⟩ := (writesIn_padded hw hn).bytes
  rw [number_run (by omega) (by omega) hdig (by simpa using hsep), hval]

/-- A field followed by a separator is read as its number when it is in range. -/
theorem field_run_padded (w : Nat) {n lo hi : Nat} (hw : 0 < w) (hn : n < Nat.pow 10 w) (hlo : lo ≤ n)
    (hhi : n ≤ hi) (sep : UInt8) (hsep : isDigitByte sep = false) (rest : List UInt8) :
    (field w w lo hi).run ((Instant.padded w n).toList.map Char.toUInt8 ++ sep :: rest) =
      .ok (n, sep :: rest) := by
  obtain ⟨hlen, hdig, hval⟩ := (writesIn_padded hw hn).bytes
  rw [field_run (by omega) (by omega) hdig (by simpa using hsep) (by omega) (by omega), hval]

/-- Six digits of a fraction are read as that many microseconds, in nanoseconds. -/
theorem fraction_run_padded {u : Nat} (hu : u < 1000000) (sep : UInt8)
    (hsep : isDigitByte sep = false) (rest : List UInt8) :
    fraction.run ((Instant.padded 6 u).toList.map Char.toUInt8 ++ sep :: rest) =
      .ok (u * 1000, sep :: rest) := by
  obtain ⟨hlen, hdig, hval⟩ := (writesIn_padded (by decide) hu : WritesIn 6 u _).bytes
  rw [fraction_run (by omega) (by omega) hdig hsep, hval, hlen]

end Shipyard.DateTime

namespace Shipyard.Instant

open Decimal

/-! ## The fields of an instant's text -/

/-- The seven numbers an instant's text writes. -/
structure TextFields where
  year : Nat
  month : Nat
  day : Nat
  hour : Nat
  minute : Nat
  second : Nat
  micro : Nat

/-- The fields of an instant's text in UTC. -/
def textFields (t : Instant) : TextFields :=
  let secs := t.micros / 1000000
  let date := civilOfDays (secs / 86400)
  let r := secs % 86400
  ⟨date.1, date.2.1, date.2.2, r / 3600, r / 60 % 60, r % 60, t.micros % 1000000⟩

namespace TextFields

/-- The text of the fields, as `Instant.text` writes it before the year 10000. -/
def text (f : TextFields) : String :=
  padded 4 f.year ++ "-" ++ padded 2 f.month ++ "-" ++ padded 2 f.day ++ "T" ++ padded 2 f.hour ++
    ":" ++ padded 2 f.minute ++ ":" ++ padded 2 f.second ++ "." ++ padded 6 f.micro ++ "Z"

/-- The characters of the fields between their separators, `YYYY-MM-DDTHH:MM:SS.ffffffZ`. -/
def chars (f : TextFields) : List Char :=
  (padded 4 f.year).toList ++ '-' :: ((padded 2 f.month).toList ++ '-' ::
    ((padded 2 f.day).toList ++ 'T' :: ((padded 2 f.hour).toList ++ ':' ::
      ((padded 2 f.minute).toList ++ ':' :: ((padded 2 f.second).toList ++ '.' ::
        ((padded 6 f.micro).toList ++ ['Z']))))))

/-- The fields as one number, `yyyymmddhhmmssffffff`. -/
def key (f : TextFields) : Nat :=
  (((((f.year * 100 + f.month) * 100 + f.day) * 100 + f.hour) * 100 + f.minute) * 100 +
    f.second) * 1000000 + f.micro

/-- Every field fits its width. -/
structure Fits (f : TextFields) : Prop where
  year : f.year < 10000
  month : f.month < 100
  day : f.day < 100
  hour : f.hour < 100
  minute : f.minute < 100
  second : f.second < 100
  micro : f.micro < 1000000

/-- Texts of fields that fit compare as their keys do. -/
theorem chars_lt_iff {f₁ f₂ : TextFields} (h₁ : f₁.Fits) (h₂ : f₂.Fits) :
    f₁.chars < f₂.chars ↔ f₁.key < f₂.key := by
  -- field by field, each run of digits decides unless it writes the same number
  rw [chars, chars, padded_append_cons_lt_iff 4 (by decide) h₁.year h₂.year,
    padded_append_cons_lt_iff 2 (by decide) h₁.month h₂.month,
    padded_append_cons_lt_iff 2 (by decide) h₁.day h₂.day,
    padded_append_cons_lt_iff 2 (by decide) h₁.hour h₂.hour,
    padded_append_cons_lt_iff 2 (by decide) h₁.minute h₂.minute,
    padded_append_cons_lt_iff 2 (by decide) h₁.second h₂.second,
    padded_append_cons_lt_iff 6 (by decide) h₁.micro h₂.micro]
  obtain ⟨-, _, _, _, _, _, _⟩ := h₁
  obtain ⟨-, _, _, _, _, _, _⟩ := h₂
  simp only [List.not_lt_nil, and_false, or_false, key]
  omega

theorem toList_dash : "-".toList = ['-'] := by simp
theorem toList_T : "T".toList = ['T'] := by simp
theorem toList_colon : ":".toList = [':'] := by simp
theorem toList_point : ".".toList = ['.'] := by simp
theorem toList_Z : "Z".toList = ['Z'] := by simp

theorem toList_text (f : TextFields) : f.text.toList = f.chars := by
  simp only [text, String.toList_append, toList_dash, toList_T, toList_colon, toList_point,
    toList_Z, List.append_assoc, List.cons_append, List.nil_append, chars]

/-- The date-time the fields write, at offset zero. -/
def dateTime (f : TextFields) : DateTime :=
  { year := f.year, month := f.month, day := f.day, hour := f.hour, minute := f.minute,
    second := f.second, nanos := f.micro * 1000, offset := 0 }

/-- The fields lie in the ranges a reader checks. -/
structure InRange (f : TextFields) : Prop where
  year : f.year ≤ 9999
  date : IsDate f.year f.month f.day
  hour : f.hour ≤ 23
  minute : f.minute ≤ 59
  second : f.second ≤ 59
  micro : f.micro < 1000000

theorem InRange.fits {f : TextFields} (h : f.InRange) : f.Fits where
  year := Nat.lt_succ_of_le h.year
  month := Nat.lt_of_le_of_lt h.date.month_le (by decide)
  day := Nat.lt_of_le_of_lt (Nat.le_trans h.date.day_le (daysInMonth_le _ _)) (by decide)
  hour := Nat.lt_of_le_of_lt h.hour (by decide)
  minute := Nat.lt_of_le_of_lt h.minute (by decide)
  second := Nat.lt_of_le_of_lt h.second (by decide)
  micro := h.micro

theorem key_eq (f : TextFields) :
    f.key = dateKey (f.year, f.month, f.day) * 1000000000000 +
      (((f.hour * 100 + f.minute) * 100 + f.second) * 1000000 + f.micro) := by
  unfold key dateKey
  dsimp only
  omega

/-- Fields are written in ASCII. -/
theorem chars_ascii (f : TextFields) : ∀ c ∈ f.chars, c.toNat < 128 := by
  intro c hc
  simp only [chars, List.mem_append, List.mem_cons, List.not_mem_nil, or_false] at hc
  rcases hc with h | rfl | h | rfl | h | rfl | h | rfl | h | rfl | h | rfl | h | rfl | h | rfl <;>
    first
    | decide
    | exact Nat.lt_of_le_of_lt (digit_bounds (isDigit_of_mem_padded h)).2 (by decide)

open DateTime in
/-- Fields in their ranges, written between their separators, are read back. -/
theorem read_chars {f : TextFields} (h : f.InRange) :
    DateTime.read.run (f.chars.map Char.toUInt8) = .ok (f.dateTime, []) := by
  have hf := h.fits
  have hd := h.date
  have hday : f.day ≤ 31 := Nat.le_trans hd.day_le (daysInMonth_le _ _)
  simp only [chars, List.map_append, List.map_cons, List.map_nil,
    show '-'.toUInt8 = 45 from rfl, show 'T'.toUInt8 = 84 from rfl,
    show ':'.toUInt8 = 58 from rfl, show '.'.toUInt8 = 46 from rfl,
    show 'Z'.toUInt8 = 90 from rfl]
  simp only [DateTime.read, StateT.run_bind, except_ok_bind,
    number_run_padded 4 (by decide) hf.year 45 (by decide),
    byte_run,
    field_run_padded 2 (by decide) hf.month hd.month_pos hd.month_le 45 (by decide),
    field_run_padded 2 (by decide) hf.day hd.day_pos hday 84 (by decide), StateT.run_get, pure_bind]
  -- past the date: the separator `T`, the time of day, the fraction and the offset `Z`
  simp only [show ((84 : UInt8) == 84 || (84 : UInt8) == 116 || (84 : UInt8) == 32) = true from rfl,
    show ((46 : UInt8) == 46) = true from rfl, if_true, StateT.run_bind, StateT.run_set, pure_bind,
    except_ok_bind, byte_run, StateT.run_get,
    field_run_padded 2 (by decide) hf.hour (Nat.zero_le _) h.hour 58 (by decide),
    field_run_padded 2 (by decide) hf.minute (Nat.zero_le _) h.minute 58 (by decide),
    field_run_padded 2 (by decide) hf.second (Nat.zero_le _) (Nat.le_succ_of_le h.second) 46 (by decide),
    fraction_run_padded hf.micro 90 (by decide), offsetPart_run_Z]
  have hfit : ¬ f.day > daysInMonth f.year f.month := Nat.not_lt.2 hd.day_le
  simp only [show ¬ Int.natAbs 0 > maxOffset by decide, if_false, StateT.run_bind,
    StateT.run_get, pure_bind, List.isEmpty_nil, Bool.not_true, Bool.false_eq_true, hfit]
  rfl

/-- Fields in their ranges read back from their text, at offset zero. -/
theorem parse_text {f : TextFields} (h : f.InRange) : DateTime.parse f.text = .ok f.dateTime := by
  have hascii : ∀ c ∈ f.text.toList, c.toNat < 128 := (toList_text f) ▸ f.chars_ascii
  rw [DateTime.parse, Text.toUTF8_toList_of_ascii hascii, toList_text, read_chars h]
  rfl

end TextFields

theorem textFields_date (t : Instant) :
    ((textFields t).year, (textFields t).month, (textFields t).day) =
      civilOfDays (t.micros / 1000000 / 86400) :=
  Prod.ext rfl (Prod.ext rfl rfl)

/-- Before the year 10000 an instant's text is the text of its fields. -/
theorem text_eq {t : Instant} (h : (textFields t).year ≤ 9999) : t.text = (textFields t).text := by
  unfold text TextFields.text
  dsimp only
  rw [← textFields_date]
  simp only [if_pos h, String.empty_append]
  rfl

theorem text_toList {t : Instant} (h : (textFields t).year ≤ 9999) :
    t.text.toList = (textFields t).chars := by
  rw [text_eq h, TextFields.toList_text]

/-! ## Instants before the year 10000 -/

/-- The first instant of the year 10000, 10000-01-01T00:00:00Z: from it on the text of an
instant starts with a sign. -/
def tenThousand : Instant := ⟨253402300800000000⟩

/-- The time of day as `hhmmss`. -/
def clockKey (r : Nat) : Nat := (r / 3600 * 100 + r / 60 % 60) * 100 + r % 60

theorem clockKey_lt_clockKey {r₁ r₂ : Nat} (h : r₁ < r₂) : clockKey r₁ < clockKey r₂ := by
  unfold clockKey
  -- hours first, then minutes, then seconds
  have hh : r₁ / 3600 ≤ r₂ / 3600 := Nat.div_le_div_right (Nat.le_of_lt h)
  rcases Nat.lt_or_eq_of_le hh with hh | hh
  · omega
  · have hm : r₁ / 60 ≤ r₂ / 60 := Nat.div_le_div_right (Nat.le_of_lt h)
    rcases Nat.lt_or_eq_of_le hm with hm | hm <;> omega

theorem textFields_key (t : Instant) :
    (textFields t).key = dateKey (civilOfDays (t.micros / 1000000 / 86400)) * 1000000000000 +
      (clockKey (t.micros / 1000000 % 86400) * 1000000 + t.micros % 1000000) := by
  have hh : (textFields t).hour = t.micros / 1000000 % 86400 / 3600 := rfl
  have hn : (textFields t).minute = t.micros / 1000000 % 86400 / 60 % 60 := rfl
  have hs : (textFields t).second = t.micros / 1000000 % 86400 % 60 := rfl
  have hu : (textFields t).micro = t.micros % 1000000 := rfl
  rw [TextFields.key_eq, textFields_date, hh, hn, hs, hu, clockKey]

/-- A later instant has fields with a greater key. -/
theorem textFields_key_lt {t₁ t₂ : Instant} (h : t₁ < t₂) :
    (textFields t₁).key < (textFields t₂).key := by
  have hm : t₁.micros < t₂.micros := h
  have hd : t₁.micros / 1000000 / 86400 ≤ t₂.micros / 1000000 / 86400 :=
    Nat.div_le_div_right (Nat.div_le_div_right (Nat.le_of_lt hm))
  rw [textFields_key, textFields_key]
  rcases Nat.lt_or_eq_of_le hd with hd | hd
  · -- a later day: the date decides, the clock being below 10^12
    have := dateKey_civilOfDays_lt hd
    have := clockKey_lt_clockKey (Nat.mod_lt (t₁.micros / 1000000) (by decide : 86400 > 0))
    have := (by decide : clockKey 86400 = 240000)
    omega
  · -- the same day: the time of day decides, then the microsecond
    rw [hd]
    have hr : t₁.micros / 1000000 % 86400 ≤ t₂.micros / 1000000 % 86400 := by omega
    rcases Nat.lt_or_eq_of_le hr with hr | hr
    · have := clockKey_lt_clockKey hr
      omega
    · rw [hr]
      omega

/-- The date of the last day before `tenThousand`. -/
theorem civilOfDays_last : civilOfDays 2932896 = (9999, 12, 31) := by decide

/-- Before `tenThousand` the year has four digits. -/
theorem textFields_year_le {t : Instant} (h : t < tenThousand) : (textFields t).year ≤ 9999 := by
  have hm : t.micros < 253402300800000000 := h
  have hdays : t.micros / 1000000 / 86400 ≤ 2932896 := by omega
  have hkey : dateKey (civilOfDays (t.micros / 1000000 / 86400)) ≤ dateKey (civilOfDays 2932896) := by
    rcases Nat.lt_or_eq_of_le hdays with hlt | heq
    · exact Nat.le_of_lt (dateKey_civilOfDays_lt hlt)
    · rw [heq]
  rw [civilOfDays_last, ← textFields_date] at hkey
  unfold dateKey at hkey
  dsimp only at hkey
  omega

theorem textFields_inRange {t : Instant} (h : t < tenThousand) : (textFields t).InRange where
  year := textFields_year_le h
  date := by
    have := civilOfDays_isDate (t.micros / 1000000 / 86400)
    rwa [← textFields_date] at this
  hour := show t.micros / 1000000 % 86400 / 3600 ≤ 23 by omega
  minute := show t.micros / 1000000 % 86400 / 60 % 60 ≤ 59 by omega
  second := show t.micros / 1000000 % 86400 % 60 ≤ 59 by omega
  micro := Nat.mod_lt _ (by decide)

/-- Before `tenThousand` an instant's text reads back as its fields, at offset zero. -/
theorem parse_text {t : Instant} (h : t < tenThousand) :
    DateTime.parse t.text = .ok (textFields t).dateTime := by
  have hr := textFields_inRange h
  rw [text_eq hr.year]
  exact TextFields.parse_text hr

/-- The fields of an instant name that instant again. -/
theorem toInstant_dateTime (t : Instant) : (textFields t).dateTime.toInstant = t := by
  have hdays : DateTime.daysOfCivil (textFields t).year (textFields t).month (textFields t).day =
      ((t.micros / 1000000 / 86400 : Nat) : Int) := by
    have := daysOfCivil_civilOfDays (t.micros / 1000000 / 86400)
    rwa [← textFields_date] at this
  have hh : (textFields t).hour = t.micros / 1000000 % 86400 / 3600 := rfl
  have hn : (textFields t).minute = t.micros / 1000000 % 86400 / 60 % 60 := rfl
  have hsec : (textFields t).second = t.micros / 1000000 % 86400 % 60 := rfl
  have hu : (textFields t).micro = t.micros % 1000000 := rfl
  have hs : ((textFields t).second == 60) = false := by
    rw [hsec, beq_eq_false_iff_ne]
    exact Nat.ne_of_lt (by omega)
  simp only [DateTime.toInstant, TextFields.dateTime, hs, Bool.false_eq_true, if_false, hdays]
  rw [hh, hn, hsec, hu]
  -- back to whole seconds of the day, then to microseconds
  have hclock : t.micros / 1000000 % 86400 / 3600 * 3600 + t.micros / 1000000 % 86400 / 60 % 60 * 60 +
      t.micros / 1000000 % 86400 % 60 = t.micros / 1000000 % 86400 := by omega
  have hsecs : t.micros / 1000000 / 86400 * 86400 + t.micros / 1000000 % 86400 = t.micros / 1000000 :=
    Nat.div_add_mod' _ _
  rw [hclock, Nat.mul_div_cancel _ (by decide : 0 < 1000)]
  have htoNat : ∀ d r u : Nat, (((d : Int) * 86400 + (r : Int)) * 1000000 + (u : Int)).toNat =
      (d * 86400 + r) * 1000000 + u := by
    intro d r u
    rw [← Int.toNat_natCast ((d * 86400 + r) * 1000000 + u)]
    push_cast
    rfl
  rw [Int.sub_zero, htoNat, hsecs, Nat.div_add_mod']

/-- Before `tenThousand` a stored expiry reads back as the instant it was written from. -/
theorem parseTimestamp_text {t : Instant} (h : t < tenThousand) :
    Store.parseTimestamp t.text = .ok t := by
  rw [Store.parseTimestamp, parse_text h]
  exact congrArg Except.ok (toInstant_dateTime t)

/-- Before `tenThousand` the texts of instants sort as the instants do. -/
theorem text_lt_text_iff {t₁ t₂ : Instant} (h₁ : t₁ < tenThousand) (h₂ : t₂ < tenThousand) :
    t₁.text < t₂.text ↔ t₁ < t₂ := by
  have r₁ := textFields_inRange h₁
  have r₂ := textFields_inRange h₂
  rw [String.lt_iff, text_toList r₁.year, text_toList r₂.year,
    TextFields.chars_lt_iff r₁.fits r₂.fits]
  constructor
  · intro hk
    refine Nat.lt_of_not_le fun hle => ?_
    rcases Nat.lt_or_eq_of_le hle with hlt | heq
    · exact Nat.lt_asymm hk (textFields_key_lt hlt)
    · have : t₂ = t₁ := by cases t₁; cases t₂; simp only at heq; rw [heq]
      rw [this] at hk
      exact Nat.lt_irrefl _ hk
  · exact textFields_key_lt


/-! ## Instants from the year 10000 on -/

/-- The date of the first day of `tenThousand`. -/
theorem civilOfDays_tenThousand : civilOfDays 2932897 = (10000, 1, 1) := by decide

/-- From `tenThousand` on the year has more than four digits. -/
theorem year_lt_textFields {t : Instant} (h : ¬ t < tenThousand) : 9999 < (textFields t).year := by
  have hm : 253402300800000000 ≤ t.micros := Nat.le_of_not_lt h
  have hdays : 2932897 ≤ t.micros / 1000000 / 86400 := by omega
  have hkey : dateKey (civilOfDays 2932897) ≤ dateKey (civilOfDays (t.micros / 1000000 / 86400)) := by
    rcases Nat.lt_or_eq_of_le hdays with hlt | heq
    · exact Nat.le_of_lt (dateKey_civilOfDays_lt hlt)
    · rw [heq]
  have hd := civilOfDays_isDate (t.micros / 1000000 / 86400)
  have hday := Nat.le_trans hd.day_le (daysInMonth_le _ _)
  rw [civilOfDays_tenThousand, ← textFields_date] at hkey
  rw [← textFields_date] at hd hday
  have hmonth := hd.month_le
  unfold dateKey at hkey
  dsimp only at hkey hmonth hday
  omega

/-- A stored expiry reads back only before `tenThousand`, and then as itself: from the year 10000
on the text starts with a sign, which the reader refuses. -/
theorem parseTimestamp_text_eq {t e : Instant} (h : Store.parseTimestamp t.text = .ok e) :
    t < tenThousand ∧ e = t := by
  by_cases ht : t < tenThousand
  · rw [parseTimestamp_text ht] at h
    exact ⟨ht, (Except.ok.inj h).symm⟩
  · exfalso
    have hplus : t.text = "+" ++ (padded 4 (textFields t).year ++ "-" ++
        padded 2 (textFields t).month ++ "-" ++ padded 2 (textFields t).day ++ "T" ++
        padded 2 (textFields t).hour ++ ":" ++ padded 2 (textFields t).minute ++ ":" ++
        padded 2 (textFields t).second ++ "." ++ padded 6 (textFields t).micro ++ "Z") := by
      unfold text
      dsimp only
      rw [← textFields_date]
      simp only [if_neg (Nat.not_le_of_lt (year_lt_textFields ht)), String.append_assoc]
      rfl
    obtain ⟨err, herr⟩ := DateTime.read_run_not_digit (show DateTime.isDigitByte 43 = false by decide)
      (String.toUTF8 (padded 4 (textFields t).year ++ "-" ++
        padded 2 (textFields t).month ++ "-" ++ padded 2 (textFields t).day ++ "T" ++
        padded 2 (textFields t).hour ++ ":" ++ padded 2 (textFields t).minute ++ ":" ++
        padded 2 (textFields t).second ++ "." ++ padded 6 (textFields t).micro ++ "Z")).toList
    have hbytes : "+".toUTF8.toList = [43] := by
      rw [Text.byteArray_toList]
      rfl
    rw [Store.parseTimestamp, DateTime.parse, hplus, Text.toUTF8_toList_append, hbytes,
      List.singleton_append, herr] at h
    cases h

end Shipyard.Instant
