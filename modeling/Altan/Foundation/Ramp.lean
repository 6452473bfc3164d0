import Mathlib.Algebra.Order.Group.Nat
import Altan.Foundation.Arithmetic

/-!
# Ramps in bounded arithmetic

A quantity that rises in proportion over a given run, each height rounded down and each product
clipped at the range of the integers in use. Clipping and rounding keep it monotone and below its
rise; it reaches its rise at the end of the run exactly when the last product is not clipped. Two
ramps, the second from where the first ends, make a curve of two phases.

## Main definitions

* `ramp`: the height of a ramp
* `twoPhases`: a ramp, and a second one on top of it

## Main results

* `ramp_mono`, `ramp_le_rise`, `ramp_run_eq_iff`: the heights of a ramp
* `twoPhases_mono`, `twoPhases_le`: the heights of the two phases
-/

namespace Bounded

variable {max rise run top x y : ℕ}

/-- The height at `x` of a ramp that rises by `rise` over `run`. -/
def ramp (max rise run x : ℕ) : ℕ := saturatingMul max x rise / run

@[simp] theorem ramp_zero : ramp max rise run 0 = 0 := by
  simp [ramp, saturatingMul]

theorem ramp_mono (h : x ≤ y) : ramp max rise run x ≤ ramp max rise run y := by
  apply Nat.div_le_div_right
  exact min_le_min_right max (Nat.mul_le_mul_right rise h)

theorem ramp_le_rise (h : x ≤ run) : ramp max rise run x ≤ rise := by
  apply Nat.div_le_of_le_mul
  calc saturatingMul max x rise ≤ x * rise := Nat.min_le_left _ _
    _ ≤ run * rise := Nat.mul_le_mul_right rise h

/-- The end of the run is at the full rise exactly when the product there is in range. -/
theorem ramp_run_eq_iff (h : 0 < run) : ramp max rise run run = rise ↔ run * rise ≤ max := by
  unfold ramp saturatingMul
  constructor
  · intro heq
    have hle : rise * run ≤ min (run * rise) max := (Nat.le_div_iff_mul_le h).mp heq.ge
    rw [Nat.mul_comm run rise]
    exact hle.trans (Nat.min_le_right _ _)
  · intro hle
    rw [Nat.min_eq_left hle]
    exact Nat.mul_div_cancel_left rise h

/-- The height at `x` of a ramp that rises by `rise` over `run`, and of a steeper one that goes on
from there up to `top` at `full`. -/
def twoPhases (max rise run top full x : ℕ) : ℕ :=
  if x ≤ run then ramp max rise run x
  else saturatingAdd max rise (ramp max (top - rise) (full - run) (x - run))

variable {full : ℕ}

theorem twoPhases_le (hrise : rise ≤ top) (h : x ≤ full) :
    twoPhases max rise run top full x ≤ top := by
  unfold twoPhases
  split
  · next hx => exact (ramp_le_rise hx).trans hrise
  · have hpenalty : ramp max (top - rise) (full - run) (x - run) ≤ top - rise :=
      ramp_le_rise (by omega)
    exact saturatingAdd_le_add.trans (by omega)

theorem twoPhases_mono (hrise : rise ≤ max) (h : x ≤ y) :
    twoPhases max rise run top full x ≤ twoPhases max rise run top full y := by
  unfold twoPhases
  by_cases hy : y ≤ run
  -- both in the first phase
  · rw [if_pos (h.trans hy), if_pos hy]
    exact ramp_mono h
  · rw [if_neg hy]
    by_cases hx : x ≤ run
    -- across the boundary the first phase is at most the base of the second
    · rw [if_pos hx]
      exact (ramp_le_rise hx).trans (Nat.le_min.mpr ⟨Nat.le_add_right _ _, hrise⟩)
    · rw [if_neg hx]
      have hpenalty : ramp max (top - rise) (full - run) (x - run) ≤
          ramp max (top - rise) (full - run) (y - run) := ramp_mono (by omega)
      exact min_le_min_right max (Nat.add_le_add_left hpenalty rise)

/-- The boundary is at the rise of the first phase exactly when the product there is in range. -/
theorem twoPhases_run_eq_iff (h : 0 < run) :
    twoPhases max rise run top full run = rise ↔ run * rise ≤ max := by
  rw [twoPhases, if_pos (Nat.le_refl run)]
  exact ramp_run_eq_iff h

/-- The end is at the top exactly when the product of the second phase is in range. -/
theorem twoPhases_full_eq_iff (hrise : rise ≤ top) (htop : top ≤ max) (h : run < full) :
    twoPhases max rise run top full full = top ↔ (full - run) * (top - rise) ≤ max := by
  have hpenalty : ramp max (top - rise) (full - run) (full - run) ≤ top - rise :=
    ramp_le_rise (Nat.le_refl _)
  have hsum : saturatingAdd max rise (ramp max (top - rise) (full - run) (full - run)) =
      rise + ramp max (top - rise) (full - run) (full - run) := saturatingAdd_of_le (by omega)
  rw [twoPhases, if_neg (Nat.not_le.mpr h), hsum, ← ramp_run_eq_iff (Nat.sub_pos_of_lt h)]
  omega

end Bounded
