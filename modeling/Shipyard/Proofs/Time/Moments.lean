import Mathlib.Tactic.SplitIfs
import Mathlib.Tactic.Ring
import Shipyard.Proofs.Time.Timestamp
import Shipyard.Time.Moment
/-!
# Moments written and read back

For every moment of the years 0000 to 9999, the texts the store writes sort as the moments do
to the microsecond, and a text reads back as its moment cut to the microsecond
(`text_sorts_and_reads_back`). The store's own instants are the moments from the epoch on,
written and read alike (`text_ofInstant`, `parseTimestamp_eq_map`).

`DateTime.civilOfDays` counts days on both sides of the epoch. Moving a day count by whole eras
of 146097 days moves the year by 400 and keeps month and day (`civilOfDays_eq_eras`), so each
fact of the calendar of day counts from the epoch on (`Instant.civilOfDays`) holds before it too:
the date is a real one, `daysOfCivil` counts it back, and a later day has a later date. Up to the
year 9999 a moment's text is the text of its seven fields (`Moment.fields`), whose reading and
order the texts of instants already give.
-/
namespace Shipyard.Instant

theorem daysInMonth_sub_eras {y k : Nat} (m : Nat) (hk : 400 * k ≤ y) :
    DateTime.daysInMonth (y - 400 * k) m = DateTime.daysInMonth y m := by
  have hleap := isLeapYear_add_era k (y - 400 * k)
  rw [show k * 400 + (y - 400 * k) = y by omega] at hleap
  simp only [DateTime.daysInMonth, hleap]

/-- A date stays a date whole eras earlier. -/
theorem IsDate.sub_eras {y m d k : Nat} (h : IsDate y m d) (hk : 400 * k ≤ y) :
    IsDate (y - 400 * k) m d :=
  ⟨h.month_pos, h.month_le, h.day_pos, (daysInMonth_sub_eras m hk) ▸ h.day_le⟩

end Shipyard.Instant

namespace Shipyard.DateTime

/-! ## The calendar of every day count -/

/-- The date of a day count whole eras before a count from the epoch on: the same month and
day, 400 years earlier an era. -/
theorem civilOfDays_eq_eras {z : Int} {n k : Nat} (h : (n : Int) = z + 146097 * k) :
    civilOfDays z = (((Instant.civilOfDays n).1 : Int) - 400 * k, (Instant.civilOfDays n).2) := by
  have hera : (z + 719468) / 146097 = (((n + 719468) / 146097 : Nat) : Int) - k := by omega
  have hdoe : (z + 719468 - (z + 719468) / 146097 * 146097).toNat =
      n + 719468 - (n + 719468) / 146097 * 146097 := by omega
  simp only [civilOfDays, Instant.civilOfDays, hdoe]
  rw [hera]
  -- past the era both count the same day of the era; only the year moves, by 400 an era
  generalize n + 719468 - (n + 719468) / 146097 * 146097 = doe
  generalize (n + 719468) / 146097 = era
  split_ifs <;> refine Prod.ext ?_ rfl <;> push_cast <;> ring

/-- Every day count lies whole eras before a day count from the epoch on. -/
theorem exists_eras (z : Int) : ∃ n k : Nat, (n : Int) = z + 146097 * k :=
  ⟨(z + 146097 * z.natAbs).toNat, z.natAbs, by omega⟩

theorem daysOfCivil_sub_eras (y m d : Int) (k : Nat) :
    daysOfCivil (y - 400 * k) m d = daysOfCivil y m d - 146097 * k := by
  -- the year of the era is the same; only the era moves
  simp only [daysOfCivil]
  split
  · have hq : (y - 400 * k - 1) / 400 = (y - 1) / 400 - k := by omega
    have hr : y - 400 * k - 1 - ((y - 1) / 400 - k) * 400 = y - 1 - (y - 1) / 400 * 400 := by ring
    rw [hq, hr]
    ring
  · have hq : (y - 400 * k) / 400 = y / 400 - k := by omega
    have hr : y - 400 * k - (y / 400 - k) * 400 = y - y / 400 * 400 := by ring
    rw [hq, hr]
    ring

/-- `daysOfCivil` counts the days of the date of any day count back to that count. -/
theorem daysOfCivil_civilOfDays (z : Int) :
    daysOfCivil (civilOfDays z).1 (civilOfDays z).2.1 (civilOfDays z).2.2 = z := by
  obtain ⟨n, k, h⟩ := exists_eras z
  have hback := Instant.daysOfCivil_civilOfDays n
  rw [civilOfDays_eq_eras h]
  dsimp only
  rw [daysOfCivil_sub_eras, hback]
  omega

/-- The date of a day count of a year from 0 on is a real date. -/
theorem isDate_civilOfDays {z : Int} (h : 0 ≤ (civilOfDays z).1) :
    Instant.IsDate (civilOfDays z).1.toNat (civilOfDays z).2.1 (civilOfDays z).2.2 := by
  obtain ⟨n, k, hn⟩ := exists_eras z
  rw [civilOfDays_eq_eras hn] at h ⊢
  dsimp only at h ⊢
  rw [show (((Instant.civilOfDays n).1 : Int) - 400 * k).toNat = (Instant.civilOfDays n).1 - 400 * k by
    omega]
  exact (Instant.civilOfDays_isDate n).sub_eras (by omega)

/-- A date as one number, `yyyymmdd` for the years 0 to 9999. -/
def dateKey (ymd : Int × Nat × Nat) : Int := (ymd.1 * 100 + ymd.2.1) * 100 + ymd.2.2

/-- A later day has a later date. -/
theorem dateKey_civilOfDays_lt {z₁ z₂ : Int} (h : z₁ < z₂) :
    dateKey (civilOfDays z₁) < dateKey (civilOfDays z₂) := by
  -- the same number of eras moves both days to counts from the epoch on
  obtain ⟨n₁, k, h₁⟩ := exists_eras z₁
  obtain ⟨n₂, h₂⟩ : ∃ n₂ : Nat, (n₂ : Int) = z₂ + 146097 * k :=
    ⟨(z₂ + 146097 * k).toNat, by omega⟩
  have hlt := Instant.dateKey_civilOfDays_lt (show n₁ < n₂ by omega)
  rw [civilOfDays_eq_eras h₁, civilOfDays_eq_eras h₂]
  unfold Instant.dateKey at hlt
  unfold dateKey
  dsimp only at hlt ⊢
  omega

end Shipyard.DateTime

namespace Shipyard.Moment

open Instant (TextFields)

/-! ## The fields of a moment's text -/

/-- The second of its day that a moment falls in. -/
def secondOfDay (m : Moment) : Nat := (m.seconds % 86400).toNat

/-- The fields a moment's text writes, its year cut to a natural number. -/
def fields (m : Moment) : TextFields :=
  ⟨m.year.toNat, m.date.2.1, m.date.2.2, m.secondOfDay / 3600, m.secondOfDay / 60 % 60,
    m.secondOfDay % 60, m.nanos / 1000⟩

/-- A moment in whole microseconds since the epoch, negative before it. -/
def micros (m : Moment) : Int := m.seconds * 1000000 + ((m.nanos / 1000 : Nat) : Int)

theorem truncMicros_lt_iff {a b : Moment} : a.truncMicros < b.truncMicros ↔ a.micros < b.micros := by
  have ha := a.nanos_lt
  have hb := b.nanos_lt
  show (a.seconds < b.seconds ∨ a.seconds = b.seconds ∧ a.nanos / 1000 * 1000 < b.nanos / 1000 * 1000) ↔ _
  unfold micros
  omega

theorem text_def (m : Moment) : m.text =
    DateTime.yearText m.year ++ "-" ++ Instant.padded 2 m.date.2.1 ++ "-" ++
      Instant.padded 2 m.date.2.2 ++ "T" ++ Instant.padded 2 (m.secondOfDay / 3600) ++ ":" ++
      Instant.padded 2 (m.secondOfDay / 60 % 60) ++ ":" ++ Instant.padded 2 (m.secondOfDay % 60) ++
      "." ++ Instant.padded 6 (m.nanos / 1000) ++ "Z" := rfl

/-- From the year 0 to the year 9999 a moment's text is the text of its fields. -/
theorem text_eq {m : Moment} (h : 0 ≤ m.year ∧ m.year ≤ 9999) : m.text = m.fields.text := by
  have hyear : DateTime.yearText m.year = Instant.padded 4 m.year.toNat := by
    rw [DateTime.yearText, if_pos (by simp only [Bool.and_eq_true, decide_eq_true_eq]; omega)]
  rw [text_def, hyear]
  rfl

theorem fields_inRange {m : Moment} (h : 0 ≤ m.year ∧ m.year ≤ 9999) : m.fields.InRange where
  year := show m.year.toNat ≤ 9999 by omega
  date := DateTime.isDate_civilOfDays h.1
  hour := show (m.seconds % 86400).toNat / 3600 ≤ 23 by omega
  minute := show (m.seconds % 86400).toNat / 60 % 60 ≤ 59 by omega
  second := show (m.seconds % 86400).toNat % 60 ≤ 59 by omega
  micro := show m.nanos / 1000 < 1000000 by have := m.nanos_lt; omega

/-! ## Reading back -/

/-- The fields of a moment name that moment cut to the microsecond. -/
theorem toMoment_dateTime {m : Moment} (h : 0 ≤ m.year) :
    m.fields.dateTime.toMoment = m.truncMicros := by
  have hdays : DateTime.daysOfCivil (m.year.toNat : Int) m.date.2.1 m.date.2.2 = m.seconds / 86400 := by
    rw [Int.toNat_of_nonneg h]
    exact DateTime.daysOfCivil_civilOfDays _
  have hs : ((m.seconds % 86400).toNat % 60 == 60) = false := by
    rw [beq_eq_false_iff_ne]
    exact Nat.ne_of_lt (Nat.mod_lt _ (by decide))
  have hu := m.nanos_lt
  ext
  · simp only [DateTime.toMoment, TextFields.dateTime, fields, secondOfDay, truncMicros, hdays, hs,
      Bool.false_eq_true, if_false]
    omega
  · simp only [DateTime.toMoment, TextFields.dateTime, fields, truncMicros]
    omega

theorem parseMoment_text {m : Moment} (h : 0 ≤ m.year ∧ m.year ≤ 9999) :
    Store.parseMoment m.text = .ok m.truncMicros := by
  rw [Store.parseMoment, text_eq h, TextFields.parse_text (fields_inRange h)]
  exact congrArg Except.ok (toMoment_dateTime h.1)

/-! ## Order -/

theorem fields_key {m : Moment} (h : 0 ≤ m.year) :
    (m.fields.key : Int) = DateTime.dateKey m.date * 1000000000000 +
      ((Instant.clockKey m.secondOfDay * 1000000 + m.nanos / 1000 : Nat) : Int) := by
  rw [TextFields.key_eq]
  have hy : ((m.year.toNat : Nat) : Int) = m.date.1 := Int.toNat_of_nonneg h
  simp only [fields, Instant.dateKey, DateTime.dateKey, Instant.clockKey]
  push_cast
  rw [hy]

/-- A later moment of a year from 0 on has fields with a greater key. -/
theorem fields_key_lt {a b : Moment} (ha : 0 ≤ a.year) (hb : 0 ≤ b.year) (h : a.micros < b.micros) :
    a.fields.key < b.fields.key := by
  have hna := a.nanos_lt
  have hnb := b.nanos_lt
  have hsec : a.seconds ≤ b.seconds := by unfold micros at h; omega
  have hday : a.seconds / 86400 ≤ b.seconds / 86400 := Int.ediv_le_ediv (by decide) hsec
  have ka := fields_key ha
  have kb := fields_key hb
  have hclock := Instant.clockKey_lt_clockKey (show a.secondOfDay < 86400 by unfold secondOfDay; omega)
  have hfull : Instant.clockKey 86400 = 240000 := by decide
  rcases lt_or_eq_of_le hday with hd | hd
  · -- a later day: the date decides, the clock being below 10^12
    have := DateTime.dateKey_civilOfDays_lt hd
    unfold date at ka kb
    omega
  · -- the same day: the time of day decides, then the microsecond
    have hdate : a.date = b.date := by unfold date; rw [hd]
    have hr : a.secondOfDay ≤ b.secondOfDay := by unfold secondOfDay micros at *; omega
    rcases Nat.lt_or_eq_of_le hr with hr | hr
    · have := Instant.clockKey_lt_clockKey hr
      rw [hdate] at ka
      omega
    · rw [hdate, hr] at ka
      have : a.nanos / 1000 < b.nanos / 1000 := by unfold secondOfDay micros at *; omega
      omega

/-- Moments of the same microsecond have the same fields. -/
theorem fields_eq_of_micros_eq {a b : Moment} (h : a.micros = b.micros) : a.fields = b.fields := by
  have hna := a.nanos_lt
  have hnb := b.nanos_lt
  have hs : a.seconds = b.seconds := by unfold micros at h; omega
  have hu : a.nanos / 1000 = b.nanos / 1000 := by unfold micros at h; omega
  simp only [fields, year, date, secondOfDay, hs, hu]

theorem text_lt_text_iff {a b : Moment} (ha : 0 ≤ a.year ∧ a.year ≤ 9999)
    (hb : 0 ≤ b.year ∧ b.year ≤ 9999) : a.text < b.text ↔ a.truncMicros < b.truncMicros := by
  have ra := fields_inRange ha
  have rb := fields_inRange hb
  rw [String.lt_iff, text_eq ha, text_eq hb, TextFields.toList_text, TextFields.toList_text,
    TextFields.chars_lt_iff ra.fits rb.fits, truncMicros_lt_iff]
  constructor
  · intro hk
    refine lt_of_not_ge fun hle => ?_
    rcases lt_or_eq_of_le hle with hlt | heq
    · exact Nat.lt_asymm hk (fields_key_lt hb.1 ha.1 hlt)
    · rw [fields_eq_of_micros_eq heq] at hk
      exact Nat.lt_irrefl _ hk
  · exact fields_key_lt ha.1 hb.1

/-- From the year 0000 to the year 9999, the store's texts of moments sort as the moments do
to the microsecond, and a text reads back as its moment cut to the microsecond. -/
theorem text_sorts_and_reads_back (a b : Moment) (ha : 0 ≤ a.year ∧ a.year ≤ 9999)
    (hb : 0 ≤ b.year ∧ b.year ≤ 9999) :
    (a.text < b.text ↔ a.truncMicros < b.truncMicros) ∧
      Store.parseMoment a.text = .ok a.truncMicros :=
  ⟨text_lt_text_iff ha hb, parseMoment_text ha⟩

/-- Half a microsecond before the epoch and a microsecond's fraction into the year 0: both are
read back to the microsecond, and sort as they fall. -/
theorem year_zero_and_epoch_eve_sort :
    (0 ≤ (⟨-62167219200, 999, by decide⟩ : Moment).year ∧
      (⟨-62167219200, 999, by decide⟩ : Moment).year ≤ 9999) ∧
    (0 ≤ (⟨-1, 999999500, by decide⟩ : Moment).year ∧
      (⟨-1, 999999500, by decide⟩ : Moment).year ≤ 9999) ∧
    (((⟨-62167219200, 999, by decide⟩ : Moment).text < (⟨-1, 999999500, by decide⟩ : Moment).text ↔
        (⟨-62167219200, 999, by decide⟩ : Moment).truncMicros <
          (⟨-1, 999999500, by decide⟩ : Moment).truncMicros) ∧
      Store.parseMoment (⟨-62167219200, 999, by decide⟩ : Moment).text =
        .ok (⟨-62167219200, 999, by decide⟩ : Moment).truncMicros) :=
  have ha : 0 ≤ (⟨-62167219200, 999, by decide⟩ : Moment).year ∧
      (⟨-62167219200, 999, by decide⟩ : Moment).year ≤ 9999 := by decide
  have hb : 0 ≤ (⟨-1, 999999500, by decide⟩ : Moment).year ∧
      (⟨-1, 999999500, by decide⟩ : Moment).year ≤ 9999 := by decide
  ⟨ha, hb, text_sorts_and_reads_back _ _ ha hb⟩

/-! ## The store's instants -/

theorem toInstant_ofInstant (t : Instant) : (ofInstant t).toInstant = t := by
  cases t with
  | mk u =>
    simp only [ofInstant, toInstant, Instant.mk.injEq]
    omega

/-- The store's instants are ordered as their moments. -/
theorem ofInstant_lt_iff {a b : Instant} : ofInstant a < ofInstant b ↔ a < b := by
  show (_ ∨ _) ↔ a.micros < b.micros
  simp only [ofInstant]
  omega

/-- A store instant is written as its moment. -/
theorem text_ofInstant (t : Instant) : (ofInstant t).text = t.text := by
  have hsec : (ofInstant t).seconds / 86400 = ((t.micros / 1000000 / 86400 : Nat) : Int) := by
    simp only [ofInstant]
    omega
  have hdate : (ofInstant t).date =
      (((Instant.textFields t).year : Int), (Instant.textFields t).month, (Instant.textFields t).day) := by
    rw [date, hsec, DateTime.civilOfDays_eq_eras (n := t.micros / 1000000 / 86400) (k := 0) (by omega),
      ← Instant.textFields_date]
    simp
  have hr : (ofInstant t).secondOfDay = t.micros / 1000000 % 86400 := by
    simp only [secondOfDay, ofInstant]
    omega
  have hu : (ofInstant t).nanos / 1000 = t.micros % 1000000 := by
    simp only [ofInstant]
    omega
  rw [text_def, year, hdate, hr, hu]
  unfold Instant.text
  dsimp only
  rw [← Instant.textFields_date]
  -- a year from 10000 on has its sign in both
  by_cases hy : (Instant.textFields t).year ≤ 9999
  · rw [DateTime.yearText, if_pos (by simp only [Bool.and_eq_true, decide_eq_true_eq]; omega),
      if_pos hy, String.empty_append, Int.toNat_natCast]
  · rw [DateTime.yearText, if_neg (by simp only [Bool.and_eq_true, decide_eq_true_eq]; omega),
      if_neg hy, if_neg (by omega), Int.natAbs_natCast]

/-- A date-time names the same store instant as its moment does. -/
theorem toMoment_toInstant (t : DateTime) : t.toMoment.toInstant = t.toInstant := by
  simp only [DateTime.toMoment, DateTime.toInstant, toInstant, Instant.mk.injEq]
  generalize DateTime.daysOfCivil t.year t.month t.day * 86400 +
    ((t.hour * 3600 + t.minute * 60 + (if t.second == 60 then 59 else t.second) : Nat) : Int) -
      t.offset = secs
  omega

/-- The store reads a text as the store instant of the moment the text writes. -/
theorem parseTimestamp_eq_map (s : String) :
    Store.parseTimestamp s = toInstant <$> Store.parseMoment s := by
  unfold Store.parseTimestamp Store.parseMoment
  cases DateTime.parse s with
  | error e => rfl
  | ok t => exact congrArg Except.ok (toMoment_toInstant t).symm

end Shipyard.Moment
