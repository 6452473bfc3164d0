import Mathlib.Algebra.Group.Nat.Defs
import Mathlib.Order.Basic
import Mathlib.Tactic.Common

/-!
# Bounded unsigned arithmetic

Unsigned machine integers are natural numbers below a bound. Saturating operations clip at
the bound, checked operations refuse to pass it; below the bound both are the operations of
the natural numbers. Saturating subtraction is the truncated subtraction of `ℕ`.

## Main definitions

* `u16Max`, `u32Max`, `u64Max`, `u128Max`: the largest values of the widths in use
* `saturatingAdd`, `saturatingMul`, `checkedAdd`, `checkedSub`, `checkedMul`, `checkedDiv`: the
  bounded operations
* `wrappingAdd`, `wrappingMul`: those that start over past the bound
* `perbill`: a share in billionths

## Main results

* `saturatingAdd_eq_iff`: a saturating addition is exact just below the bound
* `checkedAdd_eq_some`: a checked addition succeeds just below the bound
-/

namespace Bounded

/-- The largest value of an unsigned 16-bit integer. -/
def u16Max : ℕ := 2 ^ 16 - 1

/-- The largest value of an unsigned 32-bit integer. -/
def u32Max : ℕ := 2 ^ 32 - 1

/-- The largest value of an unsigned 64-bit integer. -/
def u64Max : ℕ := 2 ^ 64 - 1

/-- The largest value of an unsigned 128-bit integer. -/
def u128Max : ℕ := 2 ^ 128 - 1

variable {max a b c : ℕ}

/-- Addition clipped at `max`. -/
def saturatingAdd (max a b : ℕ) : ℕ := min (a + b) max

/-- Multiplication clipped at `max`. -/
def saturatingMul (max a b : ℕ) : ℕ := min (a * b) max

/-- Addition that starts over past `max`. -/
def wrappingAdd (max a b : ℕ) : ℕ := (a + b) % (max + 1)

/-- Multiplication that starts over past `max`. -/
def wrappingMul (max a b : ℕ) : ℕ := a * b % (max + 1)

/-- Addition refused past `max`. -/
def checkedAdd (max a b : ℕ) : Option ℕ := if a + b ≤ max then some (a + b) else none

/-- Subtraction refused below zero. -/
def checkedSub (a b : ℕ) : Option ℕ := if b ≤ a then some (a - b) else none

/-- Multiplication refused past `max`. -/
def checkedMul (max a b : ℕ) : Option ℕ := if a * b ≤ max then some (a * b) else none

/-- Division refused by zero. -/
def checkedDiv (a b : ℕ) : Option ℕ := if b = 0 then none else some (a / b)

/-- A number of billionths of a value, rounded to the nearest, a half down. -/
def perbill (parts a : ℕ) : ℕ :=
  let billion := 10 ^ 9
  a * parts / billion + if billion < 2 * (a * parts % billion) then 1 else 0

theorem saturatingAdd_eq_iff : saturatingAdd max a b = a + b ↔ a + b ≤ max := by
  unfold saturatingAdd
  omega

theorem saturatingAdd_of_le (h : a + b ≤ max) : saturatingAdd max a b = a + b :=
  saturatingAdd_eq_iff.mpr h

theorem saturatingAdd_le_add : saturatingAdd max a b ≤ a + b := Nat.min_le_left _ _

/-- A saturating addition stays within what has room for both terms, or for any value at all. -/
theorem saturatingAdd_le_iff : saturatingAdd max a b ≤ c ↔ max ≤ c ∨ a ≤ c ∧ b ≤ c - a := by
  unfold saturatingAdd
  omega

/-- Clipping before and after a saturating addition is clipping the sum. -/
theorem saturatingAdd_min : saturatingAdd max (min a max) b = min (a + b) max := by
  unfold saturatingAdd
  omega

/-- The successor clipped at `max` is new below it. -/
theorem saturatingAdd_one_of_lt (h : a < max) : saturatingAdd max a 1 = a + 1 :=
  saturatingAdd_of_le h

@[simp] theorem checkedAdd_eq_some : checkedAdd max a b = some c ↔ a + b ≤ max ∧ c = a + b := by
  unfold checkedAdd
  split
  · next h => simp [h, eq_comm]
  · next h => simp [h]

@[simp] theorem checkedSub_eq_some : checkedSub a b = some c ↔ b ≤ a ∧ c = a - b := by
  unfold checkedSub
  split
  · next h => simp [h, eq_comm]
  · next h => simp [h]

@[simp] theorem checkedMul_eq_some : checkedMul max a b = some c ↔ a * b ≤ max ∧ c = a * b := by
  unfold checkedMul
  split
  · next h => simp [h, eq_comm]
  · next h => simp [h]

@[simp] theorem checkedDiv_eq_some : checkedDiv a b = some c ↔ b ≠ 0 ∧ c = a / b := by
  unfold checkedDiv
  split
  · next h => simp [h]
  · next h => simp [h, eq_comm]

end Bounded
