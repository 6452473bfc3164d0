import Mathlib.Data.Int.GCD
import Mathlib.Tactic.Ring

/-!
# A steady income collected in instalments

An income of `q` parts in every period of `P` blocks is credited in whole units of `m` parts, for
whole periods since the last time something was collected. A collection drops the part of a period
that has begun and the part of a unit that is left. So the income does not depend on when it is
collected exactly when neither is ever missed: collections come at the end of a period, and what is
left of a unit is less than what the parts of later periods can make up for.

## Main definitions

* `unitsAt`: the units due at a block, whenever they are collected
* `Lossless`: a collection that misses nothing

## Main results

* `div_add_mul_div`, `lt_gcd_of_div_add`: when rounding down can be done one summand at a time
* `unitsAt_of_lossless`, `lossless_of_unitsAt`: what is due after a collection
-/

namespace Instalments

/-! ### Rounding down -/

section Rounding

variable {m q x : ℕ}

/-- What is left of a unit is carried over by no multiple of `q`, if it is less than what all of
these are multiples of. -/
theorem div_add_mul_div (hm : 0 < m) (h : x % m < q.gcd m) (k : ℕ) :
    (x + q * k) / m = x / m + q * k / m := by
  have hpart : q.gcd m ∣ q * k % m :=
    (Nat.dvd_mod_iff (Nat.gcd_dvd_right q m)).mpr ((Nat.gcd_dvd_left q m).mul_right k)
  -- the multiples are at least `gcd q m` short of a unit
  have hshort : q * k % m + q.gcd m ≤ m := by
    obtain ⟨a, ha⟩ := hpart
    obtain ⟨b, hb⟩ := Nat.gcd_dvd_right q m
    have hlt : q.gcd m * a < q.gcd m * b := by
      rw [← ha, ← hb]
      exact Nat.mod_lt _ hm
    have hle : a + 1 ≤ b := Nat.lt_of_mul_lt_mul_left hlt
    calc q * k % m + q.gcd m = q.gcd m * (a + 1) := by rw [ha, Nat.mul_succ]
      _ ≤ q.gcd m * b := Nat.mul_le_mul_left _ hle
      _ = m := hb.symm
  rw [Nat.add_div hm, if_neg (by omega), Nat.add_zero]

/-- Conversely, `m` multiples tell. -/
theorem lt_gcd_of_div_add (hm : 0 < m) (h : ∀ k ≤ m, (x + q * k) / m = x / m + q * k / m) :
    x % m < q.gcd m := by
  rcases Nat.lt_or_ge (q.gcd m) m with hlt | hge
  · obtain ⟨k, -, hk⟩ := Nat.exists_mul_mod_eq_gcd hlt
    obtain ⟨b, hb⟩ := Nat.gcd_dvd_right q m
    have hgcd : 0 < q.gcd m := Nat.gcd_pos_of_pos_right q hm
    -- some multiple is just `gcd q m` short of a unit
    have hlast : q * (k * (b - 1) % m) % m = m - q.gcd m := by
      have hprod : q.gcd m * (b - 1) = m - q.gcd m := by
        rw [Nat.mul_sub_one, ← hb]
      rw [Nat.mul_mod_mod, ← Nat.mul_assoc, Nat.mul_mod, hk, Nat.mul_mod_mod, hprod]
      exact Nat.mod_eq_of_lt (by omega)
    have hcarry := h (k * (b - 1) % m) (Nat.mod_lt _ hm).le
    rw [Nat.add_div hm, hlast] at hcarry
    split at hcarry
    · omega
    · next hnot => omega
  · exact (Nat.mod_lt x hm).trans_le hge

end Rounding

/-! ### Collections -/

section Collections

variable {m P start last q y due : ℕ}

/-- The units due at the block `t`, when `q` parts are earned in a period from the block `start` on
and `y` parts come on top. -/
def unitsAt (m P start q y t : ℕ) : ℕ := (q * ((t - start) / P) + y) / m

/-- A collection at the block `last` misses nothing: nothing is earned any more, or it comes at the
end of a period, and no later part of a unit is carried over with the one that is left. -/
def Lossless (m P start last q y : ℕ) : Prop :=
  q = 0 ∨ (last - start) % P = 0 ∧ (q * ((last - start) / P) + y) % m < q.gcd m

/-- The periods up to a block, from one at which something was collected. -/
theorem periods_eq (hP : 0 < P) (hstart : start ≤ last) {t : ℕ} (ht : last ≤ t) :
    (t - start) / P = (last - start) / P + ((last - start) % P + (t - last)) / P := by
  have hsplit : t - start = (last - start) % P + (t - last) + (last - start) / P * P := by
    have hdiv := Nat.mod_add_div' (last - start) P
    omega
  rw [hsplit, Nat.add_mul_div_right _ _ hP, Nat.add_comm]

/-- **After a collection that misses nothing** the units are as if nothing had been collected. -/
theorem unitsAt_of_lossless (hm : 0 < m) (hP : 0 < P) (hstart : start ≤ last)
    (hdue : due = unitsAt m P start q y last) (h : Lossless m P start last q y) {t : ℕ}
    (ht : last ≤ t) : due + q * ((t - last) / P) / m = unitsAt m P start q y t := by
  subst hdue
  unfold unitsAt
  rcases h with rfl | ⟨hwhole, hpart⟩
  · simp only [Nat.zero_mul, Nat.zero_div, Nat.zero_add, Nat.add_zero]
  · rw [periods_eq hP hstart ht, hwhole, Nat.zero_add, ← div_add_mul_div hm hpart]
    congr 1
    ring

/-- After `k` periods there are `k` more. -/
theorem periods_add (hP : 0 < P) (hstart : start ≤ last) (k : ℕ) :
    (last + k * P - start) / P = (last - start) / P + k := by
  rw [show last + k * P - start = last - start + k * P by omega, Nat.add_mul_div_right _ _ hP]

/-- A collection in the middle of a period misses something: that period is over before one has
passed since the collection. -/
theorem whole_of_unitsAt (hm : 0 < m) (hP : 0 < P) (hstart : start ≤ last) (hq : 0 < q)
    (h : ∀ t, last ≤ t → t ≤ last + m * P →
      due + q * ((t - last) / P) / m = unitsAt m P start q y t) : (last - start) % P = 0 := by
  by_contra hpart
  have hlt : (last - start) % P < P := Nat.mod_lt _ hP
  -- as many periods as there are parts in a unit would then earn nothing
  have hnone : ∀ k ≤ m, q * k / m = 0 := by
    intro k
    induction k with
    | zero => simp
    | succ k ih =>
      intro hk
      have hgrow : (k + 1) * P = k * P + P := Nat.succ_mul k P
      have hrange : (k + 1) * P ≤ m * P := Nat.mul_le_mul_right P hk
      have hend := h (last + (k + 1) * P - (last - start) % P) (by omega) (by omega)
      have hsince : (last + (k + 1) * P - (last - start) % P - last) / P = k := by
        rw [show last + (k + 1) * P - (last - start) % P - last =
          P - (last - start) % P + k * P by omega, Nat.add_mul_div_right _ _ hP,
          Nat.div_eq_of_lt (by omega), Nat.zero_add]
      have hfrom : (last + (k + 1) * P - (last - start) % P - start) / P =
          (last - start) / P + (k + 1) := by
        have hdiv := Nat.mod_add_div' (last - start) P
        have hsum := Nat.add_mul ((last - start) / P) (k + 1) P
        rw [show last + (k + 1) * P - (last - start) % P - start =
          ((last - start) / P + (k + 1)) * P by omega, Nat.mul_div_cancel _ hP]
      have hat := h (last + (k + 1) * P) (Nat.le_add_right last _) (by omega)
      rw [Nat.add_sub_cancel_left, Nat.mul_div_cancel _ hP] at hat
      have hbefore := ih (by omega)
      unfold unitsAt at hat hend
      rw [periods_add hP hstart] at hat
      rw [hsince, hfrom] at hend
      omega
  have hall := hnone m (le_refl m)
  rw [Nat.mul_div_cancel q hm] at hall
  omega

/-- **Conversely**, the units in the following periods tell what a collection has missed. -/
theorem lossless_of_unitsAt (hm : 0 < m) (hP : 0 < P) (hstart : start ≤ last)
    (h : ∀ t, last ≤ t → t ≤ last + m * P →
      due + q * ((t - last) / P) / m = unitsAt m P start q y t) :
    due = unitsAt m P start q y last ∧ Lossless m P start last q y := by
  have hdue : due = unitsAt m P start q y last := by
    have hlast := h last (le_refl last) (Nat.le_add_right last _)
    simpa using hlast
  refine ⟨hdue, ?_⟩
  rcases Nat.eq_zero_or_pos q with hq | hq
  · exact Or.inl hq
  refine Or.inr ⟨whole_of_unitsAt hm hP hstart hq h, lt_gcd_of_div_add hm fun k hk => ?_⟩
  -- `k` periods after the collection
  have hat := h (last + k * P) (Nat.le_add_right last _)
    (Nat.add_le_add_left (Nat.mul_le_mul_right P hk) last)
  rw [Nat.add_sub_cancel_left, Nat.mul_div_cancel k hP] at hat
  unfold unitsAt at hat hdue
  rw [periods_add hP hstart] at hat
  rw [← hdue, hat]
  congr 1
  ring

end Collections

end Instalments
