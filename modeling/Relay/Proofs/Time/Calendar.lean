import Mathlib.Tactic.IntervalCases
import Relay.Time.Instant

/-!
# Days and dates

Every day has a date that exists (`Date.exists_ofDayNumber`) and whose day it is
(`Date.dayNumber_ofDayNumber`). The days of instants lie in the years that are read
(`Instant.year_bounds`).
-/

namespace Relay.Time

/-- The year that begins in March of a year ends with the February of the next. -/
theorem marchStart_succ (year : Int) :
    marchStart (year + 1) = marchStart year + (if isLeap (year + 1) then 366 else 365) := by
  unfold marchStart isLeap
  split
  · next leap =>
    simp only [Bool.and_eq_true, Bool.or_eq_true, decide_eq_true_eq] at leap
    omega
  · next common =>
    simp only [Bool.and_eq_true, Bool.or_eq_true, decide_eq_true_eq, not_and_or, not_or] at common
    omega

/-- A day comes on or after the first day of its month, and the last month, from March on, has
number 11. -/
theorem month_bounds {ofYear : Nat} {year : Int}
    (h : ofYear < if isLeap (year + 1) then 366 else 365) :
    (153 * ((5 * ofYear + 2) / 153) + 2) / 5 ≤ ofYear ∧ (5 * ofYear + 2) / 153 ≤ 11 := by
  have most : ofYear < 366 := by
    split at h <;> omega
  omega

/-- The place of a day in the year that begins in March. -/
def dayOfYear (n : Int) : Nat := (n + epochDay - marchStart (marchYear (n + epochDay))).toNat

theorem dayOfYear_lt (n : Int) :
    dayOfYear n < if isLeap (marchYear (n + epochDay) + 1) then 366 else 365 := by
  obtain ⟨low, high⟩ := marchYear_bounds (n + epochDay)
  rw [marchStart_succ] at high
  unfold dayOfYear
  split at high <;> simp_all <;> omega

theorem marchStart_add_dayOfYear (n : Int) :
    marchStart (marchYear (n + epochDay)) + dayOfYear n = n + epochDay := by
  have low := (marchYear_bounds (n + epochDay)).1
  unfold dayOfYear
  omega

namespace Date

/-- The two cases of a date: from March on, and in the first months of the next year. -/
theorem ofDayNumber_cases (n : Int) :
    let year := marchYear (n + epochDay)
    let month := (5 * dayOfYear n + 2) / 153
    let day := dayOfYear n - (153 * month + 2) / 5 + 1
    month < 10 ∧ ofDayNumber n = ⟨year, month + 3, day⟩ ∨
      10 ≤ month ∧ ofDayNumber n = ⟨year + 1, month - 9, day⟩ := by
  intro year month day
  by_cases early : month < 10
  · exact .inl ⟨early, if_pos early⟩
  · exact .inr ⟨Nat.not_lt.1 early, if_neg early⟩

/-- **The date of a day is a date of that day.** -/
theorem dayNumber_ofDayNumber (n : Int) : (ofDayNumber n).dayNumber = n := by
  obtain ⟨begun, months⟩ := month_bounds (dayOfYear_lt n)
  have whole := marchStart_add_dayOfYear n
  obtain ⟨early, date⟩ | ⟨late, date⟩ := ofDayNumber_cases n
  · have month : ((5 * dayOfYear n + 2) / 153 + 3 + 9) % 12 = (5 * dayOfYear n + 2) / 153 := by
      omega
    rw [date, dayNumber]
    simp only [month, show ¬ (5 * dayOfYear n + 2) / 153 + 3 ≤ 2 by omega, if_false]
    omega
  · have month : ((5 * dayOfYear n + 2) / 153 - 9 + 9) % 12 = (5 * dayOfYear n + 2) / 153 := by
      omega
    rw [date, dayNumber]
    simp only [month, show (5 * dayOfYear n + 2) / 153 - 9 ≤ 2 by omega, if_true,
      Int.add_sub_cancel]
    omega

/-- The date of a day exists. -/
theorem exists_ofDayNumber (n : Int) : (ofDayNumber n).exists = true := by
  have short := dayOfYear_lt n
  obtain ⟨begun, months⟩ := month_bounds short
  obtain ⟨early, date⟩ | ⟨late, date⟩ := ofDayNumber_cases n
  · rw [date]
    generalize month : (5 * dayOfYear n + 2) / 153 = m at *
    simp only [Date.exists, daysInMonth]
    interval_cases m <;> simp <;> omega
  · rw [date]
    generalize month : (5 * dayOfYear n + 2) / 153 = m at *
    simp only [Date.exists, daysInMonth]
    interval_cases m
    · simp
      omega
    · split at short <;> simp_all <;> omega

end Date

end Relay.Time

namespace Relay.Instant

open Relay.Time

/-- The years of instants. -/
theorem year_bounds (t : Instant) :
    -262143 ≤ (Date.ofDayNumber (t.second / 86400)).year ∧
      (Date.ofDayNumber (t.second / 86400)).year ≤ 262142 := by
  have first := t.first_le
  have last := t.le_last
  unfold firstSecond at first
  unfold lastSecond at last
  have whole := marchStart_add_dayOfYear (t.second / 86400)
  have short := (month_bounds (dayOfYear_lt (t.second / 86400))).2
  have date := Date.ofDayNumber_cases (t.second / 86400)
  generalize marchYear (t.second / 86400 + epochDay) = year at whole date
  unfold marchStart epochDay at whole
  -- the first and the last year need the month of the day, all others do not
  have first_year : year = -262144 ∨ -262143 ≤ year := by omega
  have last_year : year = 262142 ∨ year ≤ 262141 := by omega
  obtain ⟨early, date⟩ | ⟨late, date⟩ := date
  · rw [date]
    constructor
    · obtain rfl | later := first_year
      · simp only at whole ⊢
        omega
      · exact later
    · simp only
      omega
  · rw [date]
    constructor
    · simp only
      omega
    · obtain rfl | sooner := last_year
      · simp only at whole ⊢
        omega
      · simp only
        omega

end Relay.Instant
