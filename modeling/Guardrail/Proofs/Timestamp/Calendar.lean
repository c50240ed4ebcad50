import Guardrail.Timestamp
import Mathlib.Tactic.IntervalCases

/-! # Dates of the calendar

The year of a day is the last one that begins on it or before it (`yearOfEra_spec`), so the date of
a day is one of the calendar and leads back to the day (`dateOfDay_spec`). -/

namespace Guardrail.Timestamp

/-- Days before the year of an era. -/
def daysBefore (y : Int) : Int := 365 * y + y / 4 - y / 100

/-- The year `q` of a century of which `r` days are over: its leap days are counted by fours of
years since the era began, so `u` may be one too many in the last year of four, and only there. -/
theorem yearOfCentury_spec {c r u q : Int} (hc : 0 ≤ c ∧ c ≤ 3) (hr : 0 ≤ r ∧ r ≤ 36523)
    (hu : u = (24 * c + r) / 1460) (hq : q = (r - u) / 365) :
    (0 ≤ q ∧ q ≤ 99) ∧ 365 * q + q / 4 ≤ r ∧ r ≤ 365 * q + q / 4 + 365 ∧
      (r = 365 * q + q / 4 + 365 → q % 4 = 3 ∧ q ≠ 99) := by
  obtain ⟨k, hk⟩ : ∃ k, k = q / 4 := ⟨_, rfl⟩
  rw [← hk]
  have hrange : 0 ≤ q ∧ q ≤ 99 := by omega
  have hlow : k ≤ u := by omega
  have hhigh : u ≤ k + 1 := by omega
  refine ⟨hrange, by omega, by omega, fun h => ?_⟩
  have hlast : u = k + 1 := by omega
  omega

theorem yearOfEra_spec {d y : Int} (hd : 0 ≤ d ∧ d ≤ 146096)
    (hy : y = (d - d / 1460 + d / 36524 - d / 146096) / 365) :
    (0 ≤ y ∧ y ≤ 399) ∧ daysBefore y ≤ d ∧ d ≤ daysBefore y + 365 ∧
      (d = daysBefore y + 365 → y = 399 ∨ y % 4 = 3 ∧ y % 100 ≠ 99) := by
  -- The last day of an era would be the first of a fifth century.
  by_cases hlast : d = 146096
  · subst hlast
    obtain rfl : y = 399 := by omega
    decide
  obtain ⟨c, hc⟩ : ∃ c, c = d / 36524 := ⟨_, rfl⟩
  obtain ⟨r, hr⟩ : ∃ r, r = d % 36524 := ⟨_, rfl⟩
  obtain ⟨u, hu⟩ : ∃ u, u = (24 * c + r) / 1460 := ⟨_, rfl⟩
  obtain ⟨q, hq⟩ : ∃ q, q = (r - u) / 365 := ⟨_, rfl⟩
  have hd' : d = 36524 * c + r := by omega
  have hu' : d / 1460 = 25 * c + u := by omega
  have hy' : y = 100 * c + q := by omega
  obtain ⟨hrange, hbelow, habove, hleap⟩ := yearOfCentury_spec (by omega) (by omega) hu hq
  have hdays : daysBefore y = 36524 * c + (365 * q + q / 4) := by
    have hfours : (100 * c + q) / 4 = 25 * c + q / 4 := by omega
    have hcenturies : (100 * c + q) / 100 = c := by omega
    rw [daysBefore, hy', hfours, hcenturies]
    omega
  rw [hdays]
  refine ⟨by omega, by omega, by omega, fun h => .inr ?_⟩
  obtain ⟨hfour, hne⟩ := hleap (by omega)
  omega

/-- Days of a year that begins in March before the month. -/
def daysBeforeMonth (mp : Int) : Int := (153 * mp + 2) / 5

theorem monthOfYear_spec {n mp : Int} (hn : 0 ≤ n ∧ n ≤ 365) (hmp : mp = (5 * n + 2) / 153) :
    (0 ≤ mp ∧ mp ≤ 11) ∧ daysBeforeMonth mp ≤ n ∧ n < daysBeforeMonth (mp + 1) := by
  rw [daysBeforeMonth, daysBeforeMonth]
  omega

/-- The month of the calendar that is so many months after March. -/
def monthAfterMarch (mp : Int) : Nat := (if mp < 10 then mp + 3 else mp - 9).toNat

theorem daysInMonth_of_march {y mp : Int} (hmp : 0 ≤ mp ∧ mp ≤ 10) :
    (daysInMonth y (monthAfterMarch mp) : Int) = daysBeforeMonth (mp + 1) - daysBeforeMonth mp := by
  obtain ⟨hlow, hhigh⟩ := hmp
  interval_cases mp <;> rfl

theorem dateOfDay_spec {day y : Int} {m d : Nat} (h : dateOfDay day = (y, m, d)) :
    (1 ≤ m ∧ m ≤ 12) ∧ (1 ≤ d ∧ d ≤ daysInMonth y m) ∧ dayOfDate y m d = day := by
  obtain ⟨era, hera⟩ : ∃ era, era = (day + 719468) / 146097 := ⟨_, rfl⟩
  obtain ⟨n, hn⟩ : ∃ n, n = (day + 719468) % 146097 := ⟨_, rfl⟩
  obtain ⟨year, hyear⟩ : ∃ year, year = (n - n / 1460 + n / 36524 - n / 146096) / 365 := ⟨_, rfl⟩
  obtain ⟨hrange, hbelow, habove, hleap⟩ := yearOfEra_spec (by omega) hyear
  obtain ⟨dayOfYear, hday⟩ : ∃ dayOfYear, dayOfYear = n - daysBefore year := ⟨_, rfl⟩
  obtain ⟨mp, hmp⟩ : ∃ mp, mp = (5 * dayOfYear + 2) / 153 := ⟨_, rfl⟩
  obtain ⟨hmonth, hstart, hnext⟩ := monthOfYear_spec (by omega) hmp
  have hparts : dateOfDay day = (year + era * 400 + (if monthAfterMarch mp ≤ 2 then 1 else 0),
      monthAfterMarch mp, (dayOfYear - daysBeforeMonth mp + 1).toNat) := by
    subst hmp hday hyear hn hera
    rfl
  rw [hparts, Prod.mk.injEq, Prod.mk.injEq] at h
  obtain ⟨rfl, rfl, rfl⟩ := h
  have hmp' : ((monthAfterMarch mp : Int) + 9) % 12 = mp := by
    rw [monthAfterMarch]
    split <;> omega
  have hd : ((dayOfYear - daysBeforeMonth mp + 1).toNat : Int) =
      dayOfYear - daysBeforeMonth mp + 1 := by omega
  have hm : 1 ≤ monthAfterMarch mp ∧ monthAfterMarch mp ≤ 12 := by
    rw [monthAfterMarch]
    split <;> omega
  refine ⟨hm, ⟨by omega, ?_⟩, ?_⟩
  · -- Only February can end on its last day but one.
    by_cases hfebruary : mp = 11
    · rw [hfebruary, show monthAfterMarch 11 = 2 from rfl, if_pos (by decide)]
      have hshort : 28 ≤ daysInMonth (year + era * 400 + 1) 2 := by
        show 28 ≤ if isLeapYear (year + era * 400 + 1) then 29 else 28
        split <;> decide
      have hstart' : daysBeforeMonth 11 = 337 := rfl
      by_cases hend : dayOfYear = 365
      · have hleapYear : isLeapYear (year + era * 400 + 1) = true := by
          have := hleap (by omega)
          simp only [isLeapYear, Bool.and_eq_true, Bool.or_eq_true, decide_eq_true_eq]
          omega
        rw [daysInMonth, hleapYear]
        show (dayOfYear - daysBeforeMonth 11 + 1).toNat ≤ 29
        omega
      · omega
    · have hlength (y : Int) : (daysInMonth y (monthAfterMarch mp) : Int) =
          daysBeforeMonth (mp + 1) - daysBeforeMonth mp := daysInMonth_of_march (by omega)
      have := hlength (year + era * 400 + (if monthAfterMarch mp ≤ 2 then 1 else 0))
      omega
  · have hyears : (if monthAfterMarch mp ≤ 2 then
        year + era * 400 + (if monthAfterMarch mp ≤ 2 then 1 else 0) - 1
        else year + era * 400 + (if monthAfterMarch mp ≤ 2 then 1 else 0)) = year + era * 400 := by
      split <;> omega
    rw [dayOfDate, hyears, hmp', hd]
    have hera' : (year + era * 400) / 400 = era := by omega
    have hyear' : (year + era * 400) % 400 = year := by omega
    simp only [hera', hyear']
    rw [daysBeforeMonth]
    rw [daysBefore] at hday
    omega

end Guardrail.Timestamp
