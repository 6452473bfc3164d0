import Mathlib.Algebra.Order.Field.Rat
import Mathlib.Tactic.FieldSimp
import Mathlib.Tactic.Linarith
import Mathlib.Tactic.Positivity
import Mathlib.Tactic.Ring
import Altan.Foundation.Arithmetic

/-!
# Fixed-point fractions

A fraction is held as a number of billionths, rounded down, and is one from there on where the
numerator reaches the denominator. A fraction of a value is rounded to the nearest unit. Both
operations are monotone, and together they are close to the rational product.

## Main definitions

* `RoundsDown`: what is promised of the billionths of a fraction

## Main results

* `perbill_mono`, `perbill_billion`, `perbill_close`: a number of billionths of a value
* `RoundsDown.fraction_close`: a fraction as a rational number
* `RoundsDown.proportion_close`: a fraction of a value against the rational product
-/

namespace Bounded

variable {parts parts' a a' n n' d : ℕ}

/-- The parts of a value are the rational product rounded to the nearest. -/
theorem perbill_eq (parts a : ℕ) : perbill parts a = (a * parts + 499999999) / 10 ^ 9 := by
  unfold perbill
  dsimp only
  generalize a * parts = x
  split
  · omega
  · omega

theorem perbill_mono (ha : a ≤ a') (hparts : parts ≤ parts') :
    perbill parts a ≤ perbill parts' a' := by
  rw [perbill_eq, perbill_eq]
  apply Nat.div_le_div_right
  exact Nat.add_le_add_right (Nat.mul_le_mul ha hparts) _

/-- A billion billionths are the whole value. -/
theorem perbill_billion (a : ℕ) : perbill (10 ^ 9) a = a := by
  rw [perbill_eq]
  omega

/-- The parts of a value are within half a unit of the rational product. -/
theorem perbill_close (parts a : ℕ) :
    |(perbill parts a : ℚ) - a * parts / 10 ^ 9| ≤ 1 / 2 := by
  have hlow : 2 * (perbill parts a * 10 ^ 9) ≤ 2 * (a * parts) + 10 ^ 9 := by
    rw [perbill_eq]
    omega
  have hhigh : 2 * (a * parts) ≤ 2 * (perbill parts a * 10 ^ 9) + 10 ^ 9 := by
    rw [perbill_eq]
    omega
  have hlow' : 2 * ((perbill parts a : ℚ) * 10 ^ 9) ≤ 2 * (a * parts) + 10 ^ 9 := by
    exact_mod_cast hlow
  have hhigh' : 2 * ((a : ℚ) * parts) ≤ 2 * (perbill parts a * 10 ^ 9) + 10 ^ 9 := by
    exact_mod_cast hhigh
  rw [abs_le]
  constructor
  · rw [neg_le_sub_iff_le_add, div_le_iff₀ (by positivity)]
    linarith
  · rw [sub_le_iff_le_add, ← sub_le_iff_le_add', le_div_iff₀ (by positivity)]
    linarith

/-- What is promised of the billionths of the fraction of two numbers: they are rounded down, and
never more than the whole. -/
def RoundsDown (fromRational : ℕ → ℕ → ℕ) : Prop :=
  ∀ n d, 0 < d → fromRational n d = min (10 ^ 9) (n * 10 ^ 9 / d)

namespace RoundsDown

variable {fromRational : ℕ → ℕ → ℕ}

theorem saturates (h : RoundsDown fromRational) (hd : 0 < d) (hn : d ≤ n) :
    fromRational n d = 10 ^ 9 := by
  have hle : 10 ^ 9 ≤ n * 10 ^ 9 / d := by
    rw [Nat.le_div_iff_mul_le hd, Nat.mul_comm]
    exact Nat.mul_le_mul_right _ hn
  rw [h n d hd, Nat.min_eq_left hle]

theorem mono (h : RoundsDown fromRational) (hd : 0 < d) (hn : n ≤ n') :
    fromRational n d ≤ fromRational n' d := by
  have hle : n * 10 ^ 9 / d ≤ n' * 10 ^ 9 / d :=
    Nat.div_le_div_right (Nat.mul_le_mul_right _ hn)
  rw [h n d hd, h n' d hd]
  omega

/-- A fraction below one is less than a billionth too small. -/
theorem fraction_close (h : RoundsDown fromRational) (hd : 0 < d) (hn : n ≤ d) :
    |(fromRational n d : ℚ) / 10 ^ 9 - n / d| ≤ 1 / 10 ^ 9 := by
  have hwhole : n * 10 ^ 9 / d ≤ 10 ^ 9 :=
    Nat.div_le_of_le_mul (Nat.mul_le_mul_right _ hn)
  rw [h n d hd, Nat.min_eq_right hwhole]
  have hd' : (0 : ℚ) < d := by exact_mod_cast hd
  have hle : ((n * 10 ^ 9 / d : ℕ) : ℚ) * d ≤ n * 10 ^ 9 := by
    exact_mod_cast Nat.div_mul_le_self (n * 10 ^ 9) d
  have hge : (n : ℚ) * 10 ^ 9 ≤ ((n * 10 ^ 9 / d : ℕ) + 1) * d := by
    exact_mod_cast (Nat.lt_mul_of_div_lt (Nat.lt_succ_self (n * 10 ^ 9 / d)) hd).le
  generalize ((n * 10 ^ 9 / d : ℕ) : ℚ) = parts at hle hge ⊢
  have heq : parts / 10 ^ 9 - n / d = (parts * d - n * 10 ^ 9) / (10 ^ 9 * d) := by
    field_simp
  rw [heq, abs_le]
  constructor
  · rw [le_div_iff₀ (by positivity)]
    linarith
  · rw [div_le_iff₀ (by positivity)]
    linarith

/-- **A fraction of a value** is within a billionth of the value, and half a unit, of the rational
product, the fraction being at most one. -/
theorem proportion_close (h : RoundsDown fromRational) (hd : 0 < d) (n a : ℕ) :
    |(perbill (fromRational n d) a : ℚ) - a * min 1 ((n : ℚ) / d)| ≤ a / 10 ^ 9 + 1 / 2 := by
  have hd' : (0 : ℚ) < d := by exact_mod_cast hd
  have ha : (0 : ℚ) ≤ a := Nat.cast_nonneg a
  rcases le_total n d with hn | hn
  -- the errors of the fraction and of the product add up
  · have hone : (n : ℚ) / d ≤ 1 := by
      rw [div_le_one hd']
      exact_mod_cast hn
    rw [min_eq_right hone]
    have hproduct := perbill_close (fromRational n d) a
    have hfraction :
        |(a : ℚ) * ((fromRational n d : ℚ) / 10 ^ 9 - n / d)| ≤ (a : ℚ) * (1 / 10 ^ 9) := by
      rw [abs_mul, abs_of_nonneg ha]
      exact mul_le_mul_of_nonneg_left (h.fraction_close hd hn) ha
    calc |(perbill (fromRational n d) a : ℚ) - a * (n / d)|
        = |((perbill (fromRational n d) a : ℚ) - a * fromRational n d / 10 ^ 9) +
            a * ((fromRational n d : ℚ) / 10 ^ 9 - n / d)| := by
          congr 1
          ring
      _ ≤ 1 / 2 + a * (1 / 10 ^ 9) := (abs_add_le _ _).trans (add_le_add hproduct hfraction)
      _ = a / 10 ^ 9 + 1 / 2 := by ring
  -- the whole value is exact
  · have hone : 1 ≤ (n : ℚ) / d := by
      rw [one_le_div hd']
      exact_mod_cast hn
    rw [min_eq_left hone, h.saturates hd hn, perbill_billion, mul_one, sub_self, abs_zero]
    positivity

end RoundsDown

end Bounded
