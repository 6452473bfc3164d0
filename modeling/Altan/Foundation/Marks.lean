import Altan.Foundation.StorageMap

/-!
# Marks under two keys

A map from pairs to truth values marks, under every first key, some of the second keys: who has
voted on which motion. A key without an entry is not marked, so under every first key there are
finitely many marks.

## Main definitions

* `StorageMap.marked m k`: what is marked under `k`

## Main results

* `mem_marked`: an entry is a mark when it is true
* `card_marked_insert`: one more mark
-/

namespace StorageMap

variable {κ ι : Type} [DecidableEq κ] [DecidableEq ι] {m : StorageMap (κ × ι) Bool} {k k' : κ}
  {i : ι}

/-- What is marked under a first key. -/
def marked (m : StorageMap (κ × ι) Bool) (k : κ) : Finset ι :=
  (m.keys.filter fun p => p.1 = k ∧ m.getD p false = true).image Prod.snd

@[simp] theorem mem_marked : i ∈ m.marked k ↔ m.getD (k, i) false = true := by
  unfold marked
  rw [Finset.mem_image]
  constructor
  · rintro ⟨⟨k', i'⟩, hp, rfl⟩
    obtain ⟨-, rfl, htrue⟩ := Finset.mem_filter.mp hp
    exact htrue
  · intro h
    refine ⟨(k, i), Finset.mem_filter.mpr ⟨?_, rfl, h⟩, rfl⟩
    -- a true entry is an entry
    rw [mem_keys]
    unfold getD at h
    cases hget : m.get (k, i) with
    | none => simp [hget] at h
    | some b => exact ⟨b, rfl⟩

@[simp] theorem marked_empty : (∅ : StorageMap (κ × ι) Bool).marked k = ∅ := by
  ext i
  simp

theorem marked_insert : (m.insert (k, i) true).marked k = Insert.insert i (m.marked k) := by
  ext j
  rw [mem_marked, getD_insert, Finset.mem_insert, mem_marked]
  by_cases hj : j = i
  · simp [hj]
  · simp [hj]

theorem marked_insert_of_ne (h : k' ≠ k) : (m.insert (k, i) true).marked k' = m.marked k' := by
  ext j
  rw [mem_marked, getD_insert, mem_marked, if_neg fun he => h (Prod.ext_iff.mp he).1]

/-- **One more mark.** -/
theorem card_marked_insert (h : m.getD (k, i) false = false) :
    ((m.insert (k, i) true).marked k).card = (m.marked k).card + 1 := by
  rw [marked_insert, Finset.card_insert_of_notMem]
  simp [h]

end StorageMap
