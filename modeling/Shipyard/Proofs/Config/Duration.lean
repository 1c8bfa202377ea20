import Mathlib
import Shipyard.Config.Value
/-!
# Durations

A duration is read from its text without the white space around it: a run of ASCII digits,
whose value must fit in 64 bits, then one of the units `""`, `s`, `m`, `h`, `d`. The duration is
the value times the unit's seconds, computed in 64-bit words: a product past `2^64 - 1` wraps
and is not refused (`parseDuration_ok_iff`).
-/
namespace Shipyard.Config

/-- The units of a duration with their seconds. -/
def durationUnits : List (String × Nat) := [("", 1), ("s", 1), ("m", 60), ("h", 3600), ("d", 86400)]

theorem digitValue_eq_ofDigitChars (ds : List Char) : digitValue ds = Nat.ofDigitChars 10 ds 0 := by
  rw [digitValue, Nat.ofDigitChars]
  congr 1
  funext acc c
  rw [Nat.mul_comm]
  rfl

/-- The test the reader splits on is the ASCII digit test. -/
theorem digitTest_eq (c : Char) : ('0' ≤ c && c ≤ '9') = c.isDigit := by
  simp only [Char.isDigit, Char.le_def]

/-- A run of digits followed by text that does not start with one splits back into the two. -/
theorem takeWhile_dropWhile_digits {ds rest : List Char} (hd : ∀ c ∈ ds, c.isDigit)
    (hr : ∀ c ∈ rest.head?, c.isDigit = false) :
    (ds ++ rest).takeWhile Char.isDigit = ds ∧ (ds ++ rest).dropWhile Char.isDigit = rest := by
  constructor
  · rw [List.takeWhile_append_of_pos hd]
    cases rest with
    | nil => simp
    | cons c rest => simp [hr c (by simp)]
  · rw [List.dropWhile_append_of_pos hd]
    cases rest with
    | nil => simp
    | cons c rest => simp [hr c (by simp)]

theorem durationUnits_head {unit : String} {scale : Nat} (h : (unit, scale) ∈ durationUnits) :
    ∀ c ∈ unit.toList.head?, c.isDigit = false := by
  simp only [durationUnits, List.mem_cons, Prod.mk.injEq, List.not_mem_nil, or_false] at h
  rcases h with ⟨rfl, -⟩ | ⟨rfl, -⟩ | ⟨rfl, -⟩ | ⟨rfl, -⟩ | ⟨rfl, -⟩ <;> simp

theorem ok_of_scale {n s d : Nat}
    (h : (pure s >>= fun scale => pure (n * scale % Nat.pow 2 64) : Except DurationError Nat) = .ok d) :
    d = n * s % 2 ^ 64 := by
  simp only [bind, Except.bind, pure, Except.pure, Except.ok.injEq] at h
  rw [← h, Nat.pow_eq]

open Text in
/-- What an accepted duration is made of: the digits the reader takes, within 64 bits, and a
unit after them. -/
theorem parseDuration_ok_parts {value : String} {d : Nat} (h : parseDuration value = .ok d) :
    ((trimWhite value).toList.takeWhile Char.isDigit) ≠ [] ∧
      Nat.ofDigitChars 10 ((trimWhite value).toList.takeWhile Char.isDigit) 0 < 2 ^ 64 ∧
      ∃ scale, (String.ofList ((trimWhite value).toList.dropWhile Char.isDigit), scale) ∈ durationUnits ∧
        d = Nat.ofDigitChars 10 ((trimWhite value).toList.takeWhile Char.isDigit) 0 * scale % 2 ^ 64 := by
  simp only [parseDuration, digitTest_eq, digitValue_eq_ofDigitChars] at h
  split at h
  · simp [throw, throwThe, MonadExceptOf.throw, bind, Except.bind] at h
  · rename_i hcount
    simp only [Bool.or_eq_true, List.isEmpty_iff, decide_eq_true_eq, not_or, not_le] at hcount
    refine ⟨hcount.1, by simpa using hcount.2, ?_⟩
    -- five units are read, anything else is refused
    split at h
    case h_6 => simp [throw, throwThe, MonadExceptOf.throw, bind, Except.bind] at h
    all_goals
      rename_i hu
      rw [hu]
      exact ⟨_, by simp [durationUnits], ok_of_scale h⟩

open Text in
/-- A duration is accepted exactly when its text, white space dropped, is a run of digits whose
value fits in 64 bits followed by a unit; it is then the value times the unit's seconds, wrapped
to 64 bits. -/
theorem parseDuration_ok_iff (value : String) (d : Nat) :
    parseDuration value = .ok d ↔
      ∃ ds unit scale, (trimWhite value).toList = ds ++ unit.toList ∧ ds ≠ [] ∧
        (∀ c ∈ ds, c.isDigit) ∧ Nat.ofDigitChars 10 ds 0 < 2 ^ 64 ∧
        (unit, scale) ∈ durationUnits ∧ d = Nat.ofDigitChars 10 ds 0 * scale % 2 ^ 64 := by
  constructor
  · intro h
    obtain ⟨hne, hlt, scale, hu, hd⟩ := parseDuration_ok_parts h
    refine ⟨_, _, scale, ?_, hne, fun c hc => List.mem_takeWhile_imp hc, hlt, hu, hd⟩
    rw [String.toList_ofList, List.takeWhile_append_dropWhile]
  · rintro ⟨ds, unit, scale, hcs, hne, hd, hlt, hu, rfl⟩
    obtain ⟨htake, hdrop⟩ := takeWhile_dropWhile_digits hd (durationUnits_head hu)
    simp only [parseDuration, digitTest_eq, digitValue_eq_ofDigitChars, hcs, htake, hdrop,
      String.ofList_toList]
    rw [if_neg (by simpa [hne] using hlt)]
    simp only [durationUnits, List.mem_cons, Prod.mk.injEq, List.not_mem_nil, or_false] at hu
    rcases hu with ⟨rfl, rfl⟩ | ⟨rfl, rfl⟩ | ⟨rfl, rfl⟩ | ⟨rfl, rfl⟩ | ⟨rfl, rfl⟩ <;> rfl

/-- A count of minutes whose seconds pass `2^64` is accepted and wraps: to 44 seconds. -/
theorem parseDuration_wraps_minutes :
    parseDuration "307445734561825861m" = .ok 44 :=
  (parseDuration_ok_iff _ _).mpr ⟨"307445734561825861".toList, "m", 60, by decide, by simp,
    by simp, by decide, by simp [durationUnits], by decide⟩

end Shipyard.Config
