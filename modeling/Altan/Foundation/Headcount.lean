import Mathlib.Algebra.BigOperators.Group.Finset.Basic
import Mathlib.Data.Set.Card
import Mathlib.Tactic.Common

/-!
# Headcounts

Everyone names at most one thing, and beside the names a count is kept of how many name each thing.
Counting one more when someone gives a name keeps the counts right just when he had given none
before; a name that is replaced stays counted. The things that are named at all can be counted in
the same way, by a counter that goes up when a count leaves zero.

## Main definitions

* `Headcount f n`: `n` counts how many name each thing in `f`
* `Distinct n k`: `k` counts the things with a count

## Main results

* `Headcount.update_iff`: one more name
* `Headcount.pos_iff`, `Headcount.sum_le`: what the counts say of the names
* `Distinct.update`: one more count
-/

variable {V C : Type} [DecidableEq V] [DecidableEq C]

omit [DecidableEq V] [DecidableEq C] in
/-- The count of each thing is how many name it. -/
def Headcount (f : V → Option C) (n : C → ℕ) : Prop := ∀ c, {v | f v = some c}.encard = n c

omit [DecidableEq C] in
/-- The number of things with a count. -/
def Distinct (n : C → ℕ) (k : ℕ) : Prop := {c | n c ≠ 0}.encard = k

namespace Headcount

variable {f g : V → Option C} {n m : C → ℕ} {v : V} {c : C}

omit [DecidableEq V] [DecidableEq C] in
/-- Nobody names anything. -/
theorem nobody : Headcount (fun _ : V => (none : Option C)) fun _ => 0 := by
  intro c
  simp

omit [DecidableEq V] [DecidableEq C] in
theorem congr (h : Headcount f n) (hf : ∀ v, g v = f v) (hn : ∀ c, m c = n c) :
    Headcount g m := by
  intro c
  rw [hn, ← h c]
  simp only [hf]

omit [DecidableEq V] [DecidableEq C] in
/-- A count is not zero just when the thing is named. -/
theorem pos_iff (h : Headcount f n) : 0 < n c ↔ ∃ v, f v = some c := by
  have hpos : 0 < {v | f v = some c}.encard ↔ {v | f v = some c}.Nonempty := Set.encard_pos
  rw [h c] at hpos
  exact_mod_cast hpos

omit [DecidableEq V] [DecidableEq C] in
/-- The count of a thing is the number of any who are those that name it. -/
theorem eq_card (h : Headcount f n) {S : Finset V} (hS : ∀ v, v ∈ S ↔ f v = some c) :
    n c = S.card := by
  have hset : {v | f v = some c} = S := by
    ext v
    exact (hS v).symm
  have hcard := h c
  rw [hset, Set.encard_coe_eq_coe_finsetCard] at hcard
  exact_mod_cast hcard.symm

omit [DecidableEq V] in
/-- No more names are counted than there are people who name something. -/
theorem sum_le (h : Headcount f n) {S : Finset V} (hS : ∀ v c, f v = some c → v ∈ S)
    (T : Finset C) : ∑ c ∈ T, n c ≤ S.card := by
  calc ∑ c ∈ T, n c
      = ∑ c ∈ T, (S.filter fun v => f v = some c).card := by
        refine Finset.sum_congr rfl fun c _ => h.eq_card fun v => ?_
        rw [Finset.mem_filter]
        exact ⟨And.right, fun hv => ⟨hS v c hv, hv⟩⟩
    _ = ∑ c ∈ T.map ⟨some, Option.some_injective C⟩, (S.filter fun v => f v = c).card := by
        rw [Finset.sum_map]
        rfl
    _ = (S.filter fun v => f v ∈ T.map ⟨some, Option.some_injective C⟩).card :=
        Finset.sum_card_fiberwise_eq_card_filter S _ f
    _ ≤ S.card := Finset.card_filter_le S _

/-- Counting a new name counts it once more. -/
theorem update (h : Headcount f n) (hv : f v = none) (c : C) :
    Headcount (Function.update f v (some c)) (Function.update n c (n c + 1)) := by
  intro c'
  by_cases hc : c' = c
  · subst hc
    have hset : {w | Function.update f v (some c') w = some c'} = insert v {w | f w = some c'} := by
      ext w
      by_cases hw : w = v
      · simp [hw]
      · simp [hw]
    rw [hset, Set.encard_insert_of_notMem (by simp [hv]), h c', Function.update_self]
    rfl
  · have hset : {w | Function.update f v (some c) w = some c'} = {w | f w = some c'} := by
      ext w
      by_cases hw : w = v
      · simp [hw, hv, Ne.symm hc]
      · simp [hw]
    rw [hset, h c', Function.update_of_ne hc]

/-- **One more name is counted right just when it is the first of the one who gives it.** -/
theorem update_iff (h : Headcount f n) (v : V) (c : C) :
    Headcount (Function.update f v (some c)) (Function.update n c (n c + 1)) ↔ f v = none := by
  constructor
  · intro h'
    cases hv : f v with
    | none => rfl
    | some c₀ =>
      -- those who named `c₀` before and the one who names `c` now
      exfalso
      by_cases hc : c₀ = c
      · subst hc
        have hsame : Function.update f v (some c₀) = f := by
          rw [← hv]
          exact Function.update_eq_self v f
        have hmore := h' c₀
        rw [hsame, h c₀, Function.update_self] at hmore
        exact absurd (Nat.cast_inj.mp hmore) (by omega)
      · have hset : {w | f w = some c₀} =
            insert v {w | Function.update f v (some c) w = some c₀} := by
          ext w
          by_cases hw : w = v
          · simp [hw, hv]
          · simp [hw]
        have hless := h' c₀
        have hcount := h c₀
        rw [hset, Set.encard_insert_of_notMem (by simp [Ne.symm hc]), hless,
          Function.update_of_ne hc] at hcount
        have hnat : n c₀ + 1 = n c₀ := by exact_mod_cast hcount
        omega
  · intro hv
    exact h.update hv c

end Headcount

namespace Distinct

variable {n m : C → ℕ} {k : ℕ} {c : C}

omit [DecidableEq C] in
theorem nothing : Distinct (fun _ : C => 0) 0 := by
  unfold Distinct
  simp

omit [DecidableEq C] in
theorem congr (h : Distinct n k) (hn : ∀ c, m c = n c) : Distinct m k := by
  unfold Distinct at h ⊢
  simp only [hn]
  exact h

/-- A count that leaves zero is one more. -/
theorem update (h : Distinct n k) (c : C) :
    Distinct (Function.update n c (n c + 1)) (if n c = 0 then k + 1 else k) := by
  have hset : {c' | Function.update n c (n c + 1) c' ≠ 0} = insert c {c' | n c' ≠ 0} := by
    ext c'
    by_cases hc : c' = c
    · simp [hc]
    · simp [hc]
  unfold Distinct at h ⊢
  rw [hset]
  by_cases hzero : n c = 0
  · rw [if_pos hzero, Set.encard_insert_of_notMem (by simpa using hzero), h]
    rfl
  · rw [if_neg hzero, Set.insert_eq_of_mem (by simpa using hzero), h]

end Distinct
