import Mathlib.Tactic.Common

/-!
# Bounded lists

A list of at most a given number of entries carries the bound; a list that is too long is refused.

## Main definitions

* `BoundedVec α n`: a list of at most `n` entries
* `BoundedVec.empty`: the list without entries
* `BoundedVec.tryFrom`: a list as a bounded one, if it fits
* `BoundedVec.tryPush`: with one more entry, if it fits
* `BoundedVec.swapRemove`: without one entry, whose place the last one takes
* `BoundedVec.erase`, `BoundedVec.modify`: without one entry, and with one changed
-/

/-- A list of at most `n` entries. -/
abbrev BoundedVec (α : Type) (n : ℕ) := { l : List α // l.length ≤ n }

namespace BoundedVec

variable {α : Type} {n : ℕ}

/-- The list without entries. -/
def empty : BoundedVec α n := ⟨[], Nat.zero_le n⟩

@[simp] theorem empty_val : (empty : BoundedVec α n).val = [] := rfl

/-- A list as one of at most `n` entries, if it is not too long. -/
def tryFrom (n : ℕ) (l : List α) : Option (BoundedVec α n) :=
  if h : l.length ≤ n then some ⟨l, h⟩ else none

theorem tryFrom_eq_some {l : List α} {v : BoundedVec α n} : tryFrom n l = some v ↔ v.val = l := by
  unfold tryFrom
  split
  · next h => simp [Subtype.ext_iff, eq_comm]
  · next h =>
    refine iff_of_false (by simp) ?_
    rintro rfl
    exact h v.property

/-- The list with one more entry at the end, if it fits. -/
def tryPush (v : BoundedVec α n) (a : α) : Option (BoundedVec α n) := tryFrom n (v.val ++ [a])

theorem tryPush_eq_some {v v' : BoundedVec α n} {a : α} :
    v.tryPush a = some v' ↔ v'.val = v.val ++ [a] :=
  tryFrom_eq_some

/-- An entry that is put at the end, if it fits, is there after that if it was or if there was
room. -/
theorem mem_getD_tryPush {v : BoundedVec α n} {a b : α} (h : a ∈ v.val ∨ v.val.length < n) :
    b ∈ ((v.tryPush a).getD v).val ↔ b ∈ v.val ∨ b = a := by
  cases hpush : v.tryPush a with
  | some v' =>
    rw [Option.getD_some, tryPush_eq_some.mp hpush, List.mem_append, List.mem_singleton]
  | none =>
    have hfull : ¬ v.val.length < n := by
      intro hroom
      have hlength : (v.val ++ [a]).length ≤ n := by
        rw [List.length_append, List.length_singleton]
        exact hroom
      have hsome : v.tryPush a = some ⟨v.val ++ [a], hlength⟩ := tryPush_eq_some.mpr rfl
      rw [hpush] at hsome
      cases hsome
    rw [Option.getD_none]
    refine (or_iff_left_of_imp ?_).symm
    rintro rfl
    exact h.resolve_right hfull

/-- The list without the first entry that equals `a`. -/
def erase [DecidableEq α] (v : BoundedVec α n) (a : α) : BoundedVec α n :=
  ⟨v.val.erase a, Nat.le_trans List.length_erase_le v.property⟩

/-- The list with the entry at a position changed. -/
def modify (v : BoundedVec α n) (position : ℕ) (f : α → α) : BoundedVec α n :=
  ⟨v.val.modify position f, by
    rw [List.length_modify]
    exact v.property⟩

/-- The list without the entry at a position; the last entry takes its place. -/
def swapRemove (v : BoundedVec α n) (position : ℕ) : BoundedVec α n where
  val :=
    match v.val.getLast? with
    | some last => (v.val.set position last).dropLast
    | none => []
  property := by
    split
    · rw [List.length_dropLast, List.length_set]
      exact Nat.le_trans (Nat.sub_le _ _) v.property
    · exact Nat.zero_le n

theorem mem_of_mem_swapRemove {v : BoundedVec α n} {position : ℕ} {a : α}
    (h : a ∈ (v.swapRemove position).val) : a ∈ v.val := by
  unfold swapRemove at h
  cases hlast : v.val.getLast? with
  | none => simp [hlast] at h
  | some last =>
    simp only [hlast] at h
    rcases List.mem_or_eq_of_mem_set ((List.dropLast_sublist _).subset h) with hmem | rfl
    · exact hmem
    · exact List.mem_of_getLast? hlast

end BoundedVec
