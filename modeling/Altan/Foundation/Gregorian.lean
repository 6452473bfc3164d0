import Mathlib.Algebra.BigOperators.Intervals
import Mathlib.Algebra.Order.BigOperators.Group.Finset

/-!
# The Gregorian calendar

Days are numbered from the first of January 1970 on. A year has a leap day when four divides it, but
a century only when four hundred does. Every day is one date, and its place in the year tells which.

## Main definitions

* `IsLeap`, `yearDays`, `monthDays`: the lengths of years and months
* `newYear`, `monthStart`: the days before a year, and those of a year before a month
* `InYear`: a day is in a year
* `Date`, `Date.number`: a date that exists, and its day

## Main results

* `exists_inYear`, `InYear.unique`: every day is in one year
* `Date.dayOfYear_lt_iff`: which dates come up to a day of a month
* `exists_date`: every day is a date
-/

namespace Gregorian

/-- A year has a leap day. -/
def IsLeap (year : ℕ) : Prop := year % 4 = 0 ∧ year % 100 ≠ 0 ∨ year % 400 = 0

instance : DecidablePred IsLeap := fun _ => inferInstanceAs (Decidable (_ ∨ _))

/-- The days of a year. -/
def yearDays (year : ℕ) : ℕ := if IsLeap year then 366 else 365

/-- The days of a month. -/
def monthDays (year : ℕ) : ℕ → ℕ
  | 1 => 31
  | 2 => if IsLeap year then 29 else 28
  | 3 => 31
  | 4 => 30
  | 5 => 31
  | 6 => 30
  | 7 => 31
  | 8 => 31
  | 9 => 30
  | 10 => 31
  | 11 => 30
  | 12 => 31
  | _ => 0

/-- The days before a year. -/
def newYear (year : ℕ) : ℕ := ∑ y ∈ Finset.Ico 1970 year, yearDays y

/-- The days of a year before a month. -/
def monthStart (year month : ℕ) : ℕ := ∑ m ∈ Finset.Ico 1 month, monthDays year m

/-! ### Steps -/

/-- A number between two values of a sequence is between two successive ones. -/
theorem exists_step {f : ℕ → ℕ} {a b n : ℕ} (hab : a ≤ b) (ha : f a ≤ n) (hb : n < f b) :
    ∃ i, a ≤ i ∧ i < b ∧ f i ≤ n ∧ n < f (i + 1) := by
  induction b, hab using Nat.le_induction with
  | base => omega
  | succ b hab ih =>
    by_cases hlt : n < f b
    · obtain ⟨i, hai, hib, hi⟩ := ih hlt
      exact ⟨i, hai, hib.trans (Nat.lt_succ_self b), hi⟩
    · exact ⟨b, hab, Nat.lt_succ_self b, Nat.not_lt.mp hlt, hb⟩

/-! ### Years -/

section Years

variable {year year' n : ℕ}

theorem yearDays_cases (year : ℕ) : yearDays year = 365 ∨ yearDays year = 366 := by
  unfold yearDays
  split
  · exact Or.inr rfl
  · exact Or.inl rfl

theorem newYear_succ (h : 1970 ≤ year) : newYear (year + 1) = newYear year + yearDays year :=
  Finset.sum_Ico_succ_top h _

theorem newYear_mono (h : year ≤ year') : newYear year ≤ newYear year' :=
  Finset.sum_le_sum_of_subset (Finset.Ico_subset_Ico_right h)

/-- From one year to another there are at least as many times 365 days, and at most as many times
366. -/
theorem newYear_bounds (hyear : 1970 ≤ year) (h : year ≤ year') :
    newYear year + 365 * (year' - year) ≤ newYear year' ∧
      newYear year' ≤ newYear year + 366 * (year' - year) := by
  induction year', h using Nat.le_induction with
  | base => simp
  | succ year' h ih =>
    rw [newYear_succ (hyear.trans h)]
    rcases yearDays_cases year' with hdays | hdays <;> omega

/-- A day is in a year. -/
def InYear (year n : ℕ) : Prop := 1970 ≤ year ∧ newYear year ≤ n ∧ n < newYear (year + 1)

instance (year n : ℕ) : Decidable (InYear year n) := inferInstanceAs (Decidable (_ ∧ _ ∧ _))

/-- **Every day is in a year**, -/
theorem exists_inYear (n : ℕ) : ∃ year, InYear year n := by
  have hlast : n < newYear (1970 + (n + 1)) := by
    have hbounds := newYear_bounds (Nat.le_refl 1970) (Nat.le_add_right 1970 (n + 1))
    omega
  obtain ⟨year, hyear, -, hle, hlt⟩ :=
    exists_step (Nat.le_add_right 1970 (n + 1)) (Nat.zero_le n) hlast
  exact ⟨year, hyear, hle, hlt⟩

/-- **and in no other.** -/
theorem InYear.unique (h : InYear year n) (h' : InYear year' n) : year = year' := by
  obtain ⟨-, hle, hlt⟩ := h
  obtain ⟨-, hle', hlt'⟩ := h'
  rcases Nat.lt_trichotomy year year' with hyear | hyear | hyear
  · have hmono := newYear_mono (Nat.add_one_le_of_lt hyear)
    omega
  · exact hyear
  · have hmono := newYear_mono (Nat.add_one_le_of_lt hyear)
    omega

end Years

/-! ### Months -/

section Months

variable {year month month' : ℕ}

theorem monthStart_succ (h : 1 ≤ month) :
    monthStart year (month + 1) = monthStart year month + monthDays year month :=
  Finset.sum_Ico_succ_top h _

theorem monthStart_mono (year : ℕ) (h : month ≤ month') :
    monthStart year month ≤ monthStart year month' :=
  Finset.sum_le_sum_of_subset (Finset.Ico_subset_Ico_right h)

/-- The months make up the year. -/
theorem monthStart_end (year : ℕ) : monthStart year 13 = yearDays year := by
  simp only [monthStart, Finset.sum_Ico_succ_top, Nat.reduceLeDiff, Finset.Ico_self,
    Finset.sum_empty, monthDays, yearDays]
  split <;> rfl

end Months

/-! ### Dates -/

/-- A date from 1970 on. -/
structure Date where
  year : ℕ
  month : ℕ
  day : ℕ
  epoch : 1970 ≤ year
  month_pos : 1 ≤ month
  month_le : month ≤ 12
  day_pos : 1 ≤ day
  day_le : day ≤ monthDays year month

namespace Date

variable {month day : ℕ}

/-- The days of the year before a date. -/
def dayOfYear (d : Date) : ℕ := monthStart d.year d.month + (d.day - 1)

/-- The day that a date is. -/
def number (d : Date) : ℕ := newYear d.year + d.dayOfYear

/-- **The dates up to a day of a month** are those of the months before, and of the month up to the
day. -/
theorem dayOfYear_lt_iff (d : Date) (hmonth : 1 ≤ month) (hday : day ≤ monthDays d.year month) :
    d.dayOfYear < monthStart d.year month + day ↔
      d.month < month ∨ d.month = month ∧ d.day ≤ day := by
  have hpos := d.day_pos
  have hle := d.day_le
  unfold dayOfYear
  rcases Nat.lt_trichotomy d.month month with hlt | heq | hgt
  · have hmono := monthStart_mono d.year (Nat.add_one_le_of_lt hlt)
    rw [monthStart_succ d.month_pos] at hmono
    exact iff_of_true (by omega) (Or.inl hlt)
  · rw [heq]
    omega
  · have hmono := monthStart_mono d.year (Nat.add_one_le_of_lt hgt)
    rw [monthStart_succ hmonth] at hmono
    refine iff_of_false (by omega) ?_
    omega

theorem dayOfYear_lt (d : Date) : d.dayOfYear < yearDays d.year := by
  have hlt : d.dayOfYear < monthStart d.year 13 + 0 :=
    (dayOfYear_lt_iff d (by decide) (Nat.zero_le _)).mpr (Or.inl (Nat.lt_succ_of_le d.month_le))
  rwa [monthStart_end, Nat.add_zero] at hlt

/-- A date is in its year. -/
theorem inYear (d : Date) : InYear d.year d.number := by
  have hlt := d.dayOfYear_lt
  refine ⟨d.epoch, Nat.le_add_right _ _, ?_⟩
  rw [newYear_succ d.epoch]
  exact Nat.add_lt_add_left hlt _

end Date

/-- **Every day is a date.** -/
theorem exists_date (n : ℕ) : ∃ d : Date, d.number = n := by
  obtain ⟨year, hepoch, hle, hlt⟩ := exists_inYear n
  rw [newYear_succ hepoch, ← monthStart_end] at hlt
  obtain ⟨month, hpos, hmonth, hstart, hend⟩ :=
    exists_step (f := monthStart year) (a := 1) (b := 13) (n := n - newYear year) (by decide)
      (Nat.zero_le _) (by omega)
  rw [monthStart_succ hpos] at hend
  refine ⟨⟨year, month, n - newYear year - monthStart year month + 1, hepoch, hpos,
    Nat.le_of_lt_succ hmonth, Nat.le_add_left 1 _, by omega⟩, ?_⟩
  simp only [Date.number, Date.dayOfYear]
  omega

end Gregorian
