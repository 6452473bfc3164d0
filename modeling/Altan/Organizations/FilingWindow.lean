import Altan.Foundation.Gregorian
import Altan.Organizations.Filing

/-!
# The filing period in the calendar

The filing period is found by taking the days of the years off a number of days, one year after the
other. What comes out is the year of the Gregorian calendar that the day is in, and its place there.
The counter of the years has thirty-two bits and there are fewer years than that in the milliseconds
that have sixty-four.

## Main definitions

* `checkedYearAndDay`: the year of a day, with a counter of thirty-two bits

## Main results

* `yearAndDay_eq`: the year of a day is that of the calendar
* `checkedYearAndDay_eq`: the counter does not overflow before the last of the years it can count
* `ensureWithinFilingPeriod_iff`: the filing period is from the first of January to the fifteenth of
  April
-/

open Bounded Dispatch Gregorian

namespace Organizations

/-- The year of a day, with a counter of thirty-two bits for the years. -/
def checkedYearAndDay (year remainingDays : ℕ) : Option (ℕ × ℕ) :=
  if remainingDays < daysInYear year then some (year, remainingDays)
  else match checkedAdd u32Max year 1 with
    | some year' => checkedYearAndDay year' (remainingDays - daysInYear year)
    | none => none
termination_by remainingDays
decreasing_by
  have := daysInYear_pos year
  omega

section Calendar

variable {year days : ℕ}

theorem isLeapYear_iff (year : ℕ) : isLeapYear year = true ↔ IsLeap year := by
  simp [isLeapYear, IsLeap]

theorem daysInYear_eq (year : ℕ) : daysInYear year = yearDays year := by
  unfold daysInYear yearDays
  exact if_congr (isLeapYear_iff year) rfl rfl

theorem yearAndDay_lt (year days : ℕ) :
    (yearAndDay year days).2 < daysInYear (yearAndDay year days).1 := by
  induction year, days using yearAndDay.induct with
  | case1 year days hlt => rwa [yearAndDay, if_pos hlt]
  | case2 year days hlt ih => rwa [yearAndDay, if_neg hlt]

/-- **The year of a day is that of the calendar**, and the place of the day is what has passed of
it. -/
theorem yearAndDay_eq (h : InYear year days) :
    yearAndDay 1970 days = (year, days - Gregorian.newYear year) := by
  obtain ⟨hle, hdays⟩ := yearAndDay_spec 1970 days
  have hlt := yearAndDay_lt 1970 days
  have hnew : Gregorian.newYear (yearAndDay 1970 days).1 + (yearAndDay 1970 days).2 = days := by
    simp only [Gregorian.newYear, ← daysInYear_eq]
    exact hdays.symm
  have hyear : (yearAndDay 1970 days).1 = year := by
    refine InYear.unique ⟨hle, by omega, ?_⟩ h
    rw [newYear_succ hle, ← daysInYear_eq]
    omega
  exact Prod.ext hyear (by rw [← hyear]; omega)

/-- **The counter does not overflow** before it would have to count past its last year. -/
theorem checkedYearAndDay_eq (year days : ℕ) (h : (yearAndDay year days).1 ≤ u32Max) :
    checkedYearAndDay year days = some (yearAndDay year days) := by
  induction year, days using yearAndDay.induct with
  | case1 year days hlt => rw [checkedYearAndDay, yearAndDay, if_pos hlt, if_pos hlt]
  | case2 year days hlt ih =>
    rw [yearAndDay, if_neg hlt] at h
    have hroom : year + 1 ≤ u32Max := (yearAndDay_spec (year + 1) _).1.trans h
    rw [checkedYearAndDay, yearAndDay, if_neg hlt, if_neg hlt,
      checkedAdd_eq_some.mpr ⟨hroom, rfl⟩]
    exact ih h

end Calendar

/-! ### The filing period -/

section Period

variable {secs : ℕ}

/-- The fifteenth of April is the last day of the filing period. -/
theorem apr15Day_eq (year : ℕ) :
    (if isLeapYear year then 106 else 105) = monthStart year 4 + 15 := by
  simp only [monthStart, Finset.sum_Ico_succ_top, Nat.reduceLeDiff, Finset.Ico_self,
    Finset.sum_empty, monthDays, isLeapYear_iff]
  split <;> rfl

/-- The filing period on a date. -/
theorem ensureWithinFilingPeriod_of_date (d : Date) (h : d.number = secs / 86400)
    (hsecs : secs ≠ 0) :
    ensureWithinFilingPeriod secs = .ok () ↔ d.month < 4 ∨ d.month = 4 ∧ d.day ≤ 15 := by
  have hyear := yearAndDay_eq d.inYear
  have hplace : d.number - Gregorian.newYear d.year = d.dayOfYear := Nat.add_sub_cancel_left _ _
  rw [h] at hyear hplace
  have hdate := Date.dayOfYear_lt_iff d (show 1 ≤ 4 by decide) (show 15 ≤ 30 by decide)
  unfold ensureWithinFilingPeriod
  rw [if_neg hsecs, ← hdate, ← apr15Day_eq]
  simp only [hyear, hplace]
  exact ensure_eq_ok.trans Nat.succ_le_iff

/-- **Milliseconds of sixty-four bits end within the years that thirty-two bits can count.** -/
theorem year_le_u32Max (now : UInt64) :
    (yearAndDay 1970 (now.toNat / 1000 / 86400)).1 ≤ u32Max := by
  obtain ⟨year, hyear⟩ := exists_inYear (now.toNat / 1000 / 86400)
  rw [yearAndDay_eq hyear]
  obtain ⟨hepoch, hle, -⟩ := hyear
  have hbounds := (newYear_bounds (Nat.le_refl 1970) hepoch).1
  have hnow := now.toNat_lt
  unfold u32Max
  show year ≤ _
  omega

end Period

/-- **The filing period is from the first of January to the fifteenth of April of every year**, and
open while the clock is not set. For no time in milliseconds does the counter of the years
overflow. -/
theorem ensureWithinFilingPeriod_iff (now : UInt64) :
    checkedYearAndDay 1970 (now.toNat / 1000 / 86400) =
        some (yearAndDay 1970 (now.toNat / 1000 / 86400)) ∧
      (ensureWithinFilingPeriod (now.toNat / 1000) = .ok () ↔
        now.toNat / 1000 = 0 ∨ ∃ d : Date, d.number = now.toNat / 1000 / 86400 ∧
          (d.month < 4 ∨ d.month = 4 ∧ d.day ≤ 15)) := by
  refine ⟨checkedYearAndDay_eq _ _ (year_le_u32Max now), ?_⟩
  obtain ⟨date, hdate⟩ := exists_date (now.toNat / 1000 / 86400)
  by_cases hzero : now.toNat / 1000 = 0
  · rw [hzero]
    exact iff_of_true rfl (Or.inl rfl)
  · rw [ensureWithinFilingPeriod_of_date date hdate hzero]
    constructor
    · intro hmonth
      exact Or.inr ⟨date, hdate, hmonth⟩
    · rintro (hclock | ⟨d, hd, hmonth⟩)
      · exact absurd hclock hzero
      · rw [← ensureWithinFilingPeriod_of_date date hdate hzero,
          ensureWithinFilingPeriod_of_date d hd hzero]
        exact hmonth

end Organizations
