import Altan.AnnualProfitTax.Payments
import Altan.Foundation.Gregorian

/-!
# The calendar of the tax

The years of the tax are counted from an anchor that is said to be the first of January 2026. It is
the first of January 2025, and no year of the tax has a leap day, so that the tax is a year and some
days ahead of the calendar. Within a year the filing window ends with the first second of the
sixteenth of April, and the first day that counts as late is the seventeenth.

## Main definitions

* `LateDays`: the days late agree with the filing window, the calendar and what is charged

## Main results

* `yearStartSecs_eq`, `currentYear_eq`: the years of the tax in days
* `calendar_ahead`: the tax is never in the year of the calendar
* `onTime_iff`: when the filing window and the days late agree
* `lateDays_iff`: the days late are right before the sixteenth of April, and never after
-/

open Bounded Dispatch Gregorian

namespace AnnualProfitTax

/-! ### The years -/

section Years

variable {year : ℕ}

theorem newYear_2026 : newYear 2026 = 20454 := by decide +kernel

/-- When a year of the tax starts. -/
theorem yearStartSecs_eq (h : 2026 ≤ year) :
    yearStartSecs year = (20089 + 365 * (year - 2026)) * 86400 := by
  unfold yearStartSecs anchorTimestamp anchorYear secondsPerYear
  rw [if_pos h]
  omega

/-- The year 2026 of the tax starts with the year 2025. -/
example : yearStartSecs 2026 = newYear 2025 * 86400 := by decide +kernel

/-- The year of the tax at a time. -/
theorem currentYear_eq {now : ℕ} (h : anchorTimestamp ≤ now) :
    currentYear now = (2026 + (now / 86400 - 20089) / 365) % 2 ^ 32 := by
  have helapsed : (now - anchorTimestamp) / secondsPerYear = (now / 86400 - 20089) / 365 := by
    unfold anchorTimestamp secondsPerYear
    omega
  unfold currentYear
  rw [if_pos h, helapsed]
  rfl

/-- The days of a year from 2026 on: there are at least three hundred and sixty-five to a year, and
at most one more. -/
theorem inYear_bounds {n : ℕ} (h : InYear year n) (hyear : 2026 ≤ year) :
    20454 + 365 * (year - 2026) ≤ n ∧ n < 20454 + 366 * (year + 1 - 2026) := by
  obtain ⟨-, hle, hlt⟩ := h
  have hstart := (newYear_bounds (by decide) hyear).1
  have hend := (newYear_bounds (by decide) (Nat.le_succ_of_le hyear)).2
  rw [newYear_2026] at hstart hend
  exact ⟨hstart.trans hle, hlt.trans_le hend⟩

/-- **The tax is ahead of the calendar**: at no time in a year is the year of the tax that year. -/
theorem currentYear_ne {now : UInt64} (h : InYear year (now.toNat / 86400))
    (hyear : 2026 ≤ year) : currentYear now.toNat ≠ year := by
  obtain ⟨hle, hlt⟩ := inYear_bounds h hyear
  have hnow := now.toNat_lt
  have hanchor : anchorTimestamp ≤ now.toNat := by
    unfold anchorTimestamp
    omega
  rw [currentYear_eq hanchor]
  omega

/-- A year of the tax is over before the year begins. -/
theorem yearStartSecs_add_le (hyear : 2026 ≤ year) :
    yearStartSecs year + secondsPerYear ≤ newYear year * 86400 := by
  have hstart := (newYear_bounds (by decide) hyear).1
  rw [newYear_2026] at hstart
  rw [yearStartSecs_eq hyear]
  unfold secondsPerYear
  omega

theorem ensureFilingYear_eq_ok {now : ℕ} : ensureFilingYear now year = .ok () ↔
    year ≤ currentYear now ∧ 2026 ≤ year ∧ now < yearStartSecs year + secondsPerYear := by
  unfold ensureFilingYear
  simp only [ensure_bind_eq_ok, ensure_eq_ok]

end Years

/-- **The calendar of the tax is ahead.** At no time from the first of January 2026 on is the year
of the tax that of the calendar, no year of the tax starts when the year of the calendar does, and
at no time in a year do the checks accept a declaration for it. -/
theorem calendar_ahead (now : UInt64) (year : ℕ) (hyear : 2026 ≤ year) :
    (newYear 2026 * 86400 ≤ now.toNat →
        ¬ InYear (currentYear now.toNat) (now.toNat / 86400)) ∧
      yearStartSecs year ≠ newYear year * 86400 ∧
        (InYear year (now.toNat / 86400) → ensureFilingYear now.toNat year ≠ .ok ()) := by
  have hover := yearStartSecs_add_le hyear
  refine ⟨?_, ?_, ?_⟩
  · intro hnow h
    refine currentYear_ne h ?_ rfl
    -- a day from 2026 on is in no year before
    by_contra hlt
    have hmono := newYear_mono (Nat.add_one_le_of_lt (Nat.not_le.mp hlt))
    have hday := h.2.2
    omega
  · unfold secondsPerYear at hover
    omega
  · intro h hok
    have hnow := (ensureFilingYear_eq_ok.mp hok).2.2
    have hday := h.2.1
    omega

/-- The first day of 2026. -/
theorem calendar_ahead_new_year : ¬ InYear (currentYear 1767225600) (1767225600 / 86400) ∧
    yearStartSecs 2026 ≠ newYear 2026 * 86400 ∧ ensureFilingYear 1767225600 2026 ≠ .ok () := by
  obtain ⟨hyear, hstart, hrefused⟩ := calendar_ahead 1767225600 2026 (by decide)
  exact ⟨hyear (by decide +kernel), hstart, hrefused (by decide +kernel)⟩

/-- At the first second of 2026 the tax is in 2027, and the year 2026 is over for it. -/
theorem new_year_2026 :
    InYear 2026 (1767225600 / 86400) ∧ currentYear 1767225600 = 2027 ∧
      yearStartSecs 2026 ≠ newYear 2026 * 86400 ∧
      ensureFilingYear 1767225600 2026 = .error (.module .filingDeadlineExpired) := by
  decide +kernel

/-! ### The days -/

section Days

variable {now year : ℕ}

/-- The filing window and the days late part on the sixteenth of April: its first second is still on
time, and the others are not on time and not late. -/
theorem onTime_iff (hstart : yearStartSecs year ≤ now) :
    (isOnTime now year = true ↔ daysLate now year = 0) ↔
      now ≤ yearStartSecs year + 105 * 86400 ∨ yearStartSecs year + 106 * 86400 ≤ now := by
  have honTime : isOnTime now year = true ↔ now ≤ yearStartSecs year + 105 * 86400 := by
    unfold isOnTime filingWindowSeconds
    rw [Bool.and_eq_true, decide_eq_true_iff, decide_eq_true_iff]
    exact and_iff_right hstart
  have hlate : daysLate now year = 0 ↔ now < yearStartSecs year + 106 * 86400 := by
    unfold daysLate lateStartOffsetSecs maxDaysLate
    dsimp only
    split <;> omega
  rw [honTime, hlate]
  omega

/-- The days late agree with the filing window, with the days of the year from the hundred and sixth
on, and with what a large profit is charged. -/
structure LateDays (now year : ℕ) : Prop where
  window : isOnTime now year = true ↔ daysLate now year = 0
  counted : daysLate now year = (now - yearStartSecs year) / 86400 + 1 - 105
  charged : ∀ profit isLargeFamily record, 400 ≤ profit →
    assess Runtime.profitTax now year profit isLargeFamily = .ok record →
      (record.shtraf ≠ 0 ∨ record.peni ≠ 0 ↔ isOnTime now year = false)

/-- A profit of four hundred has a tax of twenty at least. -/
theorem twenty_le_baseTaxOf {profit : ℕ} (h : 400 ≤ profit) (isLargeFamily : Bool) :
    20 ≤ baseTaxOf Runtime.profitTax profit isLargeFamily := by
  unfold baseTaxOf Config.rate Runtime.profitTax
  cases isLargeFamily with
  | true =>
    show 20 ≤ profit * 50 / 1000
    omega
  | false =>
    show 20 ≤ profit * 100 / 1000
    omega

/-- **What is charged**: a large profit pays a penalty just when there are days late. -/
theorem charged_iff {profit : ℕ} {isLargeFamily : Bool} {record : ProfitRecord}
    (hlarge : 400 ≤ profit)
    (h : assess Runtime.profitTax now year profit isLargeFamily = .ok record) :
    record.shtraf ≠ 0 ∨ record.peni ≠ 0 ↔ daysLate now year ≠ 0 := by
  obtain ⟨-, -, -, rfl⟩ := assess_eq_ok.mp h
  exact penalty_iff (twenty_le_baseTaxOf hlarge isLargeFamily)

/-- The days late are none before the hundred and seventh day, and one too few from the hundred and
sixth on. -/
theorem daysLate_eq (hstart : yearStartSecs year ≤ now)
    (hend : now < yearStartSecs year + secondsPerYear) :
    daysLate now year = (now - yearStartSecs year) / 86400 - 105 := by
  unfold secondsPerYear at hend
  unfold daysLate lateStartOffsetSecs maxDaysLate
  dsimp only
  split <;> omega

end Days

/-- **The days late are right before the sixteenth of April**, and from then on never: the first of
them is not counted. -/
theorem lateDays_iff (now year : ℕ) (hstart : yearStartSecs year ≤ now)
    (hend : now < yearStartSecs year + secondsPerYear) :
    LateDays now year ↔ now < yearStartSecs year + 105 * 86400 := by
  have hdays := daysLate_eq hstart hend
  constructor
  · intro h
    have hcounted := h.counted
    omega
  · intro hearly
    have hzero : daysLate now year = 0 := by omega
    have hwindow := (onTime_iff hstart).mpr (Or.inl (Nat.le_of_lt hearly))
    refine ⟨hwindow, by omega, fun profit isLargeFamily record hlarge h => ?_⟩
    rw [charged_iff hlarge h, hwindow.mpr hzero, hzero]
    decide

/-- Three months after the new year nothing is late. -/
theorem lateDays_march : LateDays (yearStartSecs 2026 + 89 * 86400) 2026 :=
  (lateDays_iff _ _ (Nat.le_add_right _ _) (by decide)).mpr (by decide)

/-- An hour into the sixteenth of April a declaration is not on time, and no day late. -/
theorem sixteenth_of_april : ¬ LateDays (yearStartSecs 2026 + 105 * 86400 + 3600) 2026 := by
  intro h
  exact absurd (h.window.mpr (by decide)) (by decide)

end AnnualProfitTax
