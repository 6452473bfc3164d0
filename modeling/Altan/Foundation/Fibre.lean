import Altan.Foundation.StorageMap

/-!
# The keys with an entry

A map that gives its keys to classes lists, read backwards, the members of every class. Giving
several keys without an entry to a class adds these keys to its members, each once, however often it
is named.

## Main definitions

* `StorageMap.fibre m v`: the keys with the entry `v`

## Main results

* `get_foldl_insert`: several keys given one entry
* `card_fibre_foldl_insert`: how many keys have it then
-/

namespace StorageMap

variable {κ ν : Type} [DecidableEq κ] [DecidableEq ν] {m : StorageMap κ ν} {k : κ} {v w : ν}

/-- The keys with the entry `v`. -/
def fibre (m : StorageMap κ ν) (v : ν) : Finset κ := m.keys.filter fun k => m.get k = some v

@[simp] theorem mem_fibre : k ∈ m.fibre v ↔ m.get k = some v := by
  unfold fibre
  rw [Finset.mem_filter, mem_keys]
  constructor
  · exact And.right
  · intro h
    exact ⟨⟨v, h⟩, h⟩

@[simp] theorem fibre_empty : (∅ : StorageMap κ ν).fibre v = ∅ := by
  ext k
  simp

omit [DecidableEq ν] in
/-- Several keys given one entry. -/
theorem get_foldl_insert (ks : List κ) :
    (ks.foldl (fun m k => m.insert k v) m).get k = if k ∈ ks then some v else m.get k := by
  induction ks generalizing m with
  | nil => rfl
  | cons k' ks ih =>
    rw [List.foldl_cons, ih, get_insert]
    -- the first key keeps the entry, named again or not
    by_cases hk : k = k'
    · rw [if_pos hk, ite_self, if_pos (List.mem_cons.mpr (Or.inl hk))]
    · rw [if_neg hk]
      refine if_congr ?_ rfl rfl
      rw [List.mem_cons, or_iff_right hk]

section Fresh

variable {ks : List κ} (hnew : ∀ k ∈ ks, m.get k = none)
include hnew

/-- Keys without an entry are taken from no class. -/
theorem fibre_foldl_insert_of_ne (hw : w ≠ v) :
    (ks.foldl (fun m k => m.insert k v) m).fibre w = m.fibre w := by
  ext k
  rw [mem_fibre, mem_fibre, get_foldl_insert]
  split
  · next hk =>
    rw [hnew k hk]
    exact iff_of_false (fun h => hw (Option.some.inj h).symm) (by simp)
  · rfl

/-- **Keys without an entry are added to the class, each once.** -/
theorem card_fibre_foldl_insert :
    ((ks.foldl (fun m k => m.insert k v) m).fibre v).card =
      ks.toFinset.card + (m.fibre v).card := by
  have hunion : (ks.foldl (fun m k => m.insert k v) m).fibre v = ks.toFinset ∪ m.fibre v := by
    ext k
    rw [mem_fibre, get_foldl_insert, Finset.mem_union, List.mem_toFinset, mem_fibre]
    split
    · next hk => exact iff_of_true rfl (Or.inl hk)
    · next hk => exact (or_iff_right hk).symm
  -- the keys had no entry, so none was a member
  rw [hunion, Finset.card_union_of_disjoint]
  rw [Finset.disjoint_left]
  intro k hk hm
  rw [mem_fibre, hnew k (List.mem_toFinset.mp hk)] at hm
  cases hm

end Fresh

end StorageMap
