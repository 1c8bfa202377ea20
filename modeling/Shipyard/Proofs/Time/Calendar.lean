import Mathlib.Tactic.SplitIfs
import Shipyard.Time.DateTime
/-!
# The proleptic Gregorian calendar of day counts

`Instant.civilOfDays` turns a count of days since 1970-01-01 into a date the usual way: whole
eras of 400 years (146097 days) counted from 1 March of year 0, years of the era that start on
1 March (so that a leap day ends its year), and months that start on fixed days of such a year.
`EraSplit` names that split with the bounds each piece obeys. From it: the date is a real one
(`civilOfDays_isDate`), `DateTime.daysOfCivil` counts it back to the day
(`daysOfCivil_civilOfDays`), and a later day has a later date (`dateKey_civilOfDays_lt`). The
finite facts of an era, where each of its 400 years starts and ends and the month table of a
year, are checked once by evaluation.
-/
namespace Shipyard.Instant

/-- The March-based year of its era that a day of the era falls in. -/
def yearOfEra (doe : Nat) : Nat := (doe - doe / 1460 + doe / 36524 - doe / 146096) / 365

/-- The day of its era on which a March-based year of the era starts; year 400 is the era's end. -/
def startOfYear (y : Nat) : Nat := if y < 400 then 365 * y + y / 4 - y / 100 else 146097

/-- The month of a March-based year that a day of it falls in: 0 for March to 11 for February. -/
def monthOfYear (doy : Nat) : Nat := (5 * doy + 2) / 153

/-- The day of a March-based year on which its month `mp` starts. -/
def startOfMonth (mp : Nat) : Nat := (153 * mp + 2) / 5

/-- The date of day `doy` of the March-based year `y`: January and February belong to the next
calendar year. -/
def marchDate (y doy : Nat) : Nat × Nat × Nat :=
  let mp := monthOfYear doy
  let m := if mp < 10 then mp + 3 else mp - 9
  (if m ≤ 2 then y + 1 else y, m, doy - startOfMonth mp + 1)

theorem yearOfEra_mono {a b : Nat} (h : a ≤ b) : yearOfEra a ≤ yearOfEra b := by
  unfold yearOfEra
  apply Nat.div_le_div_right
  omega

/-- The first and the last day of every year of an era fall in that year. -/
theorem yearOfEra_table : ∀ y < 400,
    yearOfEra (startOfYear y) = y ∧ yearOfEra (startOfYear (y + 1) - 1) = y := by
  decide +kernel

/-- A March-based year has 366 days exactly when the calendar year it runs into is a leap year. -/
theorem startOfYear_succ : ∀ y < 400,
    startOfYear (y + 1) = startOfYear y + 365 + (if DateTime.isLeapYear (y + 1) then 1 else 0) := by
  decide +kernel

theorem startOfYear_zero : startOfYear 0 = 0 := rfl

theorem startOfYear_four_hundred : startOfYear 400 = 146097 := rfl

theorem startOfYear_le_era {y : Nat} : startOfYear y ≤ 146097 := by
  unfold startOfYear
  split <;> omega

theorem startOfYear_mono {a b : Nat} (h : a ≤ b) : startOfYear a ≤ startOfYear b := by
  rcases Nat.eq_or_lt_of_le h with rfl | hlt
  · exact Nat.le_refl _
  · unfold startOfYear
    split <;> split <;> omega

/-- `yearOfEra` finds the year whose days hold `doe`. -/
theorem yearOfEra_spec {doe : Nat} (h : doe < 146097) :
    yearOfEra doe < 400 ∧ startOfYear (yearOfEra doe) ≤ doe ∧
      doe < startOfYear (yearOfEra doe + 1) := by
  have hlast : yearOfEra doe ≤ 399 :=
    (yearOfEra_table 399 (by decide)).2 ▸ yearOfEra_mono (by rw [startOfYear_four_hundred]; omega)
  refine ⟨by omega, ?_, ?_⟩
  · -- a day before the start of its year would lie in the year before
    apply Nat.le_of_not_lt
    intro hlt
    obtain ⟨k, hk⟩ : ∃ k, yearOfEra doe = k + 1 := by
      refine Nat.exists_eq_add_one.2 (Nat.pos_of_ne_zero fun h0 => ?_)
      rw [h0, startOfYear_zero] at hlt
      omega
    have hle := yearOfEra_mono (show doe ≤ startOfYear (k + 1) - 1 by rw [← hk]; omega)
    rw [(yearOfEra_table k (by omega)).2] at hle
    omega
  · -- and a day past its end in the year after
    apply Nat.lt_of_not_le
    intro hle
    have hnext : yearOfEra doe + 1 < 400 := by
      refine Nat.lt_of_le_of_ne (by omega) fun h400 => ?_
      rw [h400, startOfYear_four_hundred] at hle
      omega
    have hge := yearOfEra_mono hle
    rw [(yearOfEra_table _ hnext).1] at hge
    omega

/-- A day count split into whole eras since 1 March of year 0, whole March-based years of the
era, and the day of the year. -/
structure EraSplit (days : Nat) where
  era : Nat
  yoe : Nat
  doy : Nat
  yoe_lt : yoe < 400
  doy_lt : startOfYear yoe + doy < startOfYear (yoe + 1)
  total : days + 719468 = era * 146097 + startOfYear yoe + doy

/-- The split that `civilOfDays` makes. -/
def eraSplit (days : Nat) : EraSplit days :=
  let z := days + 719468
  have h := yearOfEra_spec (Nat.mod_lt z (by decide : 146097 > 0))
  { era := z / 146097
    yoe := yearOfEra (z % 146097)
    doy := z % 146097 - startOfYear (yearOfEra (z % 146097))
    yoe_lt := h.1
    doy_lt := by omega
    total := by have := Nat.div_add_mod z 146097; omega }

namespace EraSplit

variable {days : Nat} (s : EraSplit days)

/-- The March-based year of the split, counted from year 0. -/
def year : Nat := s.era * 400 + s.yoe

theorem doy_lt_366 : s.doy < 366 := by
  have h := startOfYear_succ s.yoe s.yoe_lt
  have := s.doy_lt
  split at h <;> omega

end EraSplit

theorem civilOfDays_eq (days : Nat) :
    civilOfDays days = marchDate (eraSplit days).year (eraSplit days).doy := by
  have hz : days + 719468 - (days + 719468) / 146097 * 146097 = (days + 719468) % 146097 := by
    have := Nat.div_add_mod (days + 719468) 146097
    omega
  have hy := (eraSplit days).yoe_lt
  simp only [eraSplit] at hy
  simp only [civilOfDays, marchDate, monthOfYear, startOfMonth, eraSplit, EraSplit.year, hz,
    startOfYear, if_pos hy, Nat.add_comm _ ((days + 719468) / 146097 * 400)]
  rfl

/-! ## Months -/

/-- Every day of a March-based year lies in one of its twelve months, on a day that the month
has; 29 February only on the year's 366th day. -/
theorem monthOfYear_table : ∀ doy < 366,
    monthOfYear doy < 12 ∧ startOfMonth (monthOfYear doy) ≤ doy ∧
      doy - startOfMonth (monthOfYear doy) + 1 + (if doy < 365 ∧ monthOfYear doy = 11 then 1 else 0) ≤
        DateTime.daysInMonth 2000 (if monthOfYear doy < 10 then monthOfYear doy + 3 else monthOfYear doy - 9) := by
  decide +kernel

theorem monthOfYear_mono {a b : Nat} (h : a ≤ b) : monthOfYear a ≤ monthOfYear b :=
  Nat.div_le_div_right (by omega)

theorem daysInMonth_of_ne_two {y m : Nat} (y' : Nat) (hm : m ≠ 2) :
    DateTime.daysInMonth y m = DateTime.daysInMonth y' m := by
  simp [DateTime.daysInMonth, hm]

theorem isLeapYear_add_era (era y : Nat) :
    DateTime.isLeapYear (era * 400 + y) = DateTime.isLeapYear y := by
  have h4 : (era * 400 + y) % 4 = y % 4 := by omega
  have h100 : (era * 400 + y) % 100 = y % 100 := by omega
  have h400 : (era * 400 + y) % 400 = y % 400 := by omega
  simp only [DateTime.isLeapYear, h4, h100, h400]

/-- Month `m` of year `y` has a day `d`. -/
structure IsDate (y m d : Nat) : Prop where
  month_pos : 1 ≤ m
  month_le : m ≤ 12
  day_pos : 1 ≤ d
  day_le : d ≤ DateTime.daysInMonth y m

theorem EraSplit.isDate {days : Nat} (s : EraSplit days) :
    IsDate (marchDate s.year s.doy).1 (marchDate s.year s.doy).2.1 (marchDate s.year s.doy).2.2 := by
  obtain ⟨hmp, hstart, hday⟩ := monthOfYear_table s.doy s.doy_lt_366
  have hlen := startOfYear_succ s.yoe s.yoe_lt
  have hlt := s.doy_lt
  simp only [marchDate]
  refine ⟨by split <;> omega, by split <;> omega, by omega, ?_⟩
  by_cases hfeb : monthOfYear s.doy = 11
  · -- February belongs to the calendar year after the March-based one, leap or not with it
    have hm : (if monthOfYear s.doy < 10 then monthOfYear s.doy + 3 else monthOfYear s.doy - 9) = 2 := by
      rw [hfeb]; rfl
    have hfebLen : DateTime.daysInMonth (s.year + 1) 2 =
        if DateTime.isLeapYear (s.yoe + 1) then 29 else 28 := by
      rw [EraSplit.year, Nat.add_assoc, ← isLeapYear_add_era s.era]
      rfl
    rw [hm] at hday ⊢
    rw [if_pos (Nat.le_refl 2), hfebLen]
    rw [show DateTime.daysInMonth 2000 2 = 29 from rfl] at hday
    cases hL : DateTime.isLeapYear (s.yoe + 1) <;>
      simp only [hL, Bool.false_eq_true, if_true, if_false] at hlen ⊢ <;> split at hday <;> omega
  · rw [daysInMonth_of_ne_two 2000 (by split <;> omega)]
    simp only [hfeb, and_false, if_false] at hday
    omega

theorem marchDate_eq (y : Nat) {doy : Nat} (h : doy < 366) :
    marchDate y doy =
      (if monthOfYear doy < 10 then y else y + 1,
        if monthOfYear doy < 10 then monthOfYear doy + 3 else monthOfYear doy - 9,
        doy - startOfMonth (monthOfYear doy) + 1) := by
  have hmp := (monthOfYear_table doy h).1
  simp only [marchDate]
  split <;> simp only [Prod.mk.injEq, and_true] <;> split <;> omega

/-- `daysOfCivil` of the day `d` of month `mp` of the March-based year `y`. -/
theorem daysOfCivil_march (y d : Nat) {mp : Nat} (hmp : mp < 12) :
    DateTime.daysOfCivil (if mp < 10 then y else y + 1 : Nat) (if mp < 10 then mp + 3 else mp - 9 : Nat) d =
      ((y / 400 * 146097 + startOfYear (y % 400) + startOfMonth mp + d : Nat) : Int) - 1 - 719468 := by
  -- the year and month are split again as the calendar's own pieces, one fact at a time
  have hq : (y : Int) / 400 = (y / 400 : Nat) := by omega
  have hr : (y : Int) - (y / 400 : Nat) * 400 = (y % 400 : Nat) := by omega
  have hs : startOfYear (y % 400) = 365 * (y % 400) + y % 400 / 4 - y % 400 / 100 :=
    if_pos (Nat.mod_lt y (by decide))
  rw [hs]
  unfold DateTime.daysOfCivil startOfMonth
  split
  · have hm : ((mp + 3 : Nat) : Int) > 2 := by omega
    have hd : (153 * (((mp + 3 : Nat) : Int) - 3) + 2) / 5 = (((153 * mp + 2) / 5 : Nat) : Int) := by omega
    simp only [show ¬ ((mp + 3 : Nat) : Int) ≤ 2 by omega, if_false, if_pos hm, hq, hr, hd]
    omega
  · have hd : (153 * (((mp - 9 : Nat) : Int) + 9) + 2) / 5 = (((153 * mp + 2) / 5 : Nat) : Int) := by omega
    have hq' : ((y + 1 : Nat) : Int) - 1 = y := by omega
    simp only [show ((mp - 9 : Nat) : Int) ≤ 2 by omega, if_true, show ¬ ((mp - 9 : Nat) : Int) > 2 by omega,
      if_false, hq', hq, hr, hd]
    omega

/-- `daysOfCivil` counts the days back from the date: it undoes the split. -/
theorem EraSplit.daysOfCivil_marchDate {days : Nat} (s : EraSplit days) :
    DateTime.daysOfCivil (marchDate s.year s.doy).1 (marchDate s.year s.doy).2.1
      (marchDate s.year s.doy).2.2 = days := by
  obtain ⟨hmp, hstart, -⟩ := monthOfYear_table s.doy s.doy_lt_366
  have htotal := s.total
  have hq : s.year / 400 = s.era := by have := s.yoe_lt; unfold EraSplit.year; omega
  have hr : s.year % 400 = s.yoe := by have := s.yoe_lt; unfold EraSplit.year; omega
  rw [marchDate_eq _ s.doy_lt_366]
  dsimp only
  rw [daysOfCivil_march _ _ hmp, hq, hr]
  omega

/-! ## Order -/

/-- A date as one number, `yyyymmdd` for years below 10000: dates compare as these do. -/
def dateKey (ymd : Nat × Nat × Nat) : Nat := (ymd.1 * 100 + ymd.2.1) * 100 + ymd.2.2

theorem daysInMonth_le (y m : Nat) : DateTime.daysInMonth y m ≤ 31 := by
  unfold DateTime.daysInMonth
  split_ifs <;> omega

/-- A later day count has a later March-based year, or the same year and a later day of it. -/
theorem EraSplit.lex_lt {d₁ d₂ : Nat} (s₁ : EraSplit d₁) (s₂ : EraSplit d₂) (h : d₁ < d₂) :
    s₁.year < s₂.year ∨ s₁.year = s₂.year ∧ s₁.doy < s₂.doy := by
  have t₁ := s₁.total
  have t₂ := s₂.total
  have b₁ := s₁.doy_lt
  have b₂ := s₂.doy_lt
  have y₁ := s₁.yoe_lt
  have y₂ := s₂.yoe_lt
  have e₁ : startOfYear (s₁.yoe + 1) ≤ 146097 := startOfYear_le_era
  have e₂ : startOfYear (s₂.yoe + 1) ≤ 146097 := startOfYear_le_era
  unfold EraSplit.year
  rcases Nat.lt_trichotomy s₁.era s₂.era with he | he | he
  · left; omega
  · rcases Nat.lt_trichotomy s₁.yoe s₂.yoe with hy | hy | hy
    · left; omega
    · right; rw [he, hy] at t₁; omega
    · -- a later year of the same era starts after the earlier one ends
      have := startOfYear_mono (show s₂.yoe + 1 ≤ s₁.yoe by omega)
      omega
  · omega

theorem marchDate_key_lt {y₁ y₂ doy₁ doy₂ : Nat} (h₁ : doy₁ < 366) (h₂ : doy₂ < 366)
    (h : y₁ < y₂ ∨ y₁ = y₂ ∧ doy₁ < doy₂) :
    dateKey (marchDate y₁ doy₁) < dateKey (marchDate y₂ doy₂) := by
  obtain ⟨m₁, s₁, d₁⟩ := monthOfYear_table doy₁ h₁
  obtain ⟨m₂, s₂, d₂⟩ := monthOfYear_table doy₂ h₂
  have l₁ := daysInMonth_le 2000 (if monthOfYear doy₁ < 10 then monthOfYear doy₁ + 3 else monthOfYear doy₁ - 9)
  have l₂ := daysInMonth_le 2000 (if monthOfYear doy₂ < 10 then monthOfYear doy₂ + 3 else monthOfYear doy₂ - 9)
  rw [marchDate_eq _ h₁, marchDate_eq _ h₂]
  unfold dateKey
  dsimp only
  rcases h with hy | ⟨rfl, hd⟩
  · split_ifs at d₁ d₂ l₁ l₂ ⊢ <;> omega
  · rcases Nat.lt_or_eq_of_le (monthOfYear_mono (Nat.le_of_lt hd)) with hm | hm
    · split_ifs at d₁ d₂ l₁ l₂ ⊢ <;> omega
    · -- the same month: only the day moves
      rw [hm] at s₁ d₁ l₁ ⊢
      split_ifs at d₁ d₂ l₁ l₂ ⊢ <;> omega

/-! ## The calendar of day counts -/

/-- Every day count is a real date. -/
theorem civilOfDays_isDate (days : Nat) :
    IsDate (civilOfDays days).1 (civilOfDays days).2.1 (civilOfDays days).2.2 := by
  rw [civilOfDays_eq]
  exact (eraSplit days).isDate

/-- `daysOfCivil` counts the days of the date of a day count back to that count. -/
theorem daysOfCivil_civilOfDays (days : Nat) :
    DateTime.daysOfCivil (civilOfDays days).1 (civilOfDays days).2.1 (civilOfDays days).2.2 = days := by
  rw [civilOfDays_eq]
  exact (eraSplit days).daysOfCivil_marchDate

/-- A later day has a later date. -/
theorem dateKey_civilOfDays_lt {d₁ d₂ : Nat} (h : d₁ < d₂) :
    dateKey (civilOfDays d₁) < dateKey (civilOfDays d₂) := by
  rw [civilOfDays_eq, civilOfDays_eq]
  exact marchDate_key_lt (eraSplit d₁).doy_lt_366 (eraSplit d₂).doy_lt_366
    ((eraSplit d₁).lex_lt (eraSplit d₂) h)

end Shipyard.Instant
