import Mathlib.Data.Finset.Lattice.Fold
import Mathlib.Data.List.Nodup
import Mathlib.Data.List.Range
import Mathlib.Data.Nat.ModEq
import Mathlib.Order.Lattice.Nat
import Altan.Foundation.StorageMap

/-!
# Iterating over a storage map

A storage map is visited in the order of the hashes of its keys. Which order that is decides what a
loop over the entries does first, but not what it visits: every entry, once.

## Main definitions

* `IterationOrder κ`: an order in which any keys are visited
* `IterationOrder.startingAt`: the order that visits one key before the others
* `StorageMap.iter`: the entries of a map in that order
* `StorageMap.row`, `StorageMap.iterPrefix`: the entries under one first key, in that order
* `StorageMap.clearPrefix`: the first of these entries deleted
* `RoundRobin.turn total start count`: the numbers visited in a turn

## Main results

* `mem_iter`, `nodup_iter_keys`: every entry is visited, once
* `mem_iterPrefix`, `map_fst_iterPrefix`, `length_iterPrefix`: so is every entry under a first key
* `get_clearPrefix`: all of them are deleted when there are few enough
* `nodup_turn`, `mem_turn`: a turn within a round visits nothing twice, and one as long as the round
  everything
* `turn_add`: a long turn is two turns
-/

/-- An order in which the keys of a map are visited, each once. -/
structure IterationOrder (κ : Type) where
  arrange : Finset κ → List κ
  nodup : ∀ s, (arrange s).Nodup
  mem : ∀ s k, k ∈ arrange s ↔ k ∈ s

/-- The order of the numbers. -/
def IterationOrder.ascending : IterationOrder ℕ where
  arrange s := (List.range (s.sup id + 1)).filter (· ∈ s)
  nodup s := List.nodup_range.filter _
  mem s k := by
    rw [List.mem_filter, decide_eq_true_iff, List.mem_range]
    exact and_iff_right_of_imp fun hk => Nat.lt_succ_of_le (Finset.le_sup (f := id) hk)

/-- The order that visits one key first, and the others as another order does. -/
def IterationOrder.startingAt {κ : Type} [DecidableEq κ] (k : κ) (order : IterationOrder κ) :
    IterationOrder κ where
  arrange s := if k ∈ s then k :: order.arrange (s.erase k) else order.arrange s
  nodup s := by
    split
    · refine List.nodup_cons.mpr ⟨?_, order.nodup _⟩
      rw [order.mem]
      exact Finset.notMem_erase k s
    · exact order.nodup s
  mem s k' := by
    split
    · next hk =>
      rw [List.mem_cons, order.mem, Finset.mem_erase]
      by_cases he : k' = k
      · rw [he]
        exact iff_of_true (Or.inl rfl) hk
      · rw [or_iff_right he]
        exact and_iff_right he
    · exact order.mem s k'

namespace StorageMap

variable {κ ν : Type} [DecidableEq κ] {order : IterationOrder κ} {m : StorageMap κ ν}

/-- The entries of a map, one after the other. -/
def iter (order : IterationOrder κ) (m : StorageMap κ ν) : List (κ × ν) :=
  (order.arrange m.keys).filterMap fun k => (m.get k).map (Prod.mk k)

/-- **Every entry is visited.** -/
theorem mem_iter {k : κ} {v : ν} : (k, v) ∈ m.iter order ↔ m.get k = some v := by
  unfold iter
  rw [List.mem_filterMap]
  constructor
  · rintro ⟨k', -, hk'⟩
    obtain ⟨v', hv', he⟩ := Option.map_eq_some_iff.mp hk'
    obtain ⟨rfl, rfl⟩ := Prod.ext_iff.mp he
    exact hv'
  · intro h
    exact ⟨k, (order.mem _ _).mpr (mem_keys.mpr ⟨v, h⟩), by rw [h]; rfl⟩

/-- **And once.** -/
theorem nodup_iter_keys (order : IterationOrder κ) (m : StorageMap κ ν) :
    ((m.iter order).map Prod.fst).Nodup := by
  -- an entry is visited with its key
  have hkeys : (m.iter order).map Prod.fst = order.arrange m.keys := by
    unfold iter
    rw [List.map_filterMap]
    refine (List.filterMap_congr (g := some) fun k hk => ?_).trans List.filterMap_some
    obtain ⟨v, hv⟩ := mem_keys.mp ((order.mem _ _).mp hk)
    rw [hv]
    rfl
  rw [hkeys]
  exact order.nodup _

/-- The entry under the key an order starts at is visited first. -/
theorem iter_startingAt (order : IterationOrder κ) {k : κ} {v : ν} (h : m.get k = some v) :
    ∃ rest, m.iter (order.startingAt k) = (k, v) :: rest := by
  have harrange : (order.startingAt k).arrange m.keys = k :: order.arrange (m.keys.erase k) :=
    if_pos (mem_keys.mpr ⟨v, h⟩)
  unfold iter
  rw [harrange]
  exact ⟨_, List.filterMap_cons_some (by rw [h]; rfl)⟩

/-! ### The entries under one first key -/

section Prefix

variable {ι : Type} [DecidableEq ι] {order : IterationOrder ι} {m : StorageMap (κ × ι) ν}
  {k k' : κ} {i : ι} {v : ν}

/-- The second keys of the entries under a first key. -/
def row (m : StorageMap (κ × ι) ν) (k : κ) : Finset ι :=
  (m.keys.filter fun p => p.1 = k).image Prod.snd

@[simp] theorem mem_row : i ∈ m.row k ↔ ∃ v, m.get (k, i) = some v := by
  unfold row
  rw [Finset.mem_image]
  constructor
  · rintro ⟨⟨k', i'⟩, hp, rfl⟩
    obtain ⟨hkeys, rfl⟩ := Finset.mem_filter.mp hp
    exact mem_keys.mp hkeys
  · intro h
    exact ⟨(k, i), Finset.mem_filter.mpr ⟨mem_keys.mpr h, rfl⟩, rfl⟩

theorem notMem_row : i ∉ m.row k ↔ m.get (k, i) = none := by
  rw [mem_row, not_exists, Option.eq_none_iff_forall_ne_some]

theorem row_congr {m' : StorageMap (κ × ι) ν} (h : ∀ i, m'.get (k, i) = m.get (k, i)) :
    m'.row k = m.row k := by
  ext i
  rw [mem_row, mem_row, h]

theorem row_insert_self : (m.insert (k, i) v).row k = Insert.insert i (m.row k) := by
  ext j
  rw [mem_row, Finset.mem_insert, mem_row]
  by_cases hj : j = i
  · subst hj
    exact iff_of_true ⟨v, get_insert_self⟩ (Or.inl rfl)
  · rw [get_insert_of_ne fun he => hj (Prod.ext_iff.mp he).2, or_iff_right hj]

theorem row_insert_of_ne (h : k' ≠ k) : (m.insert (k, i) v).row k' = m.row k' :=
  row_congr fun _ => get_insert_of_ne fun he => h (Prod.ext_iff.mp he).1

/-- The entries under a first key, one after the other. -/
def iterPrefix (order : IterationOrder ι) (m : StorageMap (κ × ι) ν) (k : κ) : List (ι × ν) :=
  (order.arrange (m.row k)).filterMap fun i => (m.get (k, i)).map (Prod.mk i)

theorem mem_iterPrefix : (i, v) ∈ m.iterPrefix order k ↔ m.get (k, i) = some v := by
  unfold iterPrefix
  rw [List.mem_filterMap]
  constructor
  · rintro ⟨i', -, hi'⟩
    obtain ⟨v', hv', he⟩ := Option.map_eq_some_iff.mp hi'
    obtain ⟨rfl, rfl⟩ := Prod.ext_iff.mp he
    exact hv'
  · intro h
    exact ⟨i, (order.mem _ _).mpr (mem_row.mpr ⟨v, h⟩), by rw [h]; rfl⟩

theorem map_fst_iterPrefix : (m.iterPrefix order k).map Prod.fst = order.arrange (m.row k) := by
  unfold iterPrefix
  rw [List.map_filterMap]
  refine (List.filterMap_congr (g := some) fun i hi => ?_).trans List.filterMap_some
  obtain ⟨v, hv⟩ := mem_row.mp ((order.mem _ _).mp hi)
  rw [hv]
  rfl

theorem length_iterPrefix : (m.iterPrefix order k).length = (m.row k).card := by
  rw [← List.length_map (f := Prod.fst), map_fst_iterPrefix,
    ← List.toFinset_card_of_nodup (order.nodup _)]
  congr 1
  ext i
  rw [List.mem_toFinset, order.mem]

/-- How many of the entries under a first key are one value. -/
theorem count_iterPrefix [DecidableEq ν] :
    ((m.iterPrefix order k).map Prod.snd).count v =
      ((m.row k).filter fun i => m.get (k, i) = some v).card := by
  -- both sides count the keys with this value in the order of visiting
  have hmap : (m.iterPrefix order k).map Prod.snd =
      (order.arrange (m.row k)).filterMap fun i => m.get (k, i) := by
    unfold iterPrefix
    rw [List.map_filterMap]
    refine List.filterMap_congr fun i _ => ?_
    rw [Option.map_map]
    exact Option.map_id'
  have hcard : ((m.row k).filter fun i => m.get (k, i) = some v) =
      ((order.arrange (m.row k)).filter fun i => m.get (k, i) = some v).toFinset := by
    ext i
    simp [order.mem]
  rw [hmap, hcard, List.toFinset_card_of_nodup ((order.nodup _).filter _), List.count_filterMap,
    List.countP_eq_length_filter]
  exact congrArg List.length
    (List.filter_congr fun i _ => Bool.beq_eq_decide_eq (m.get (k, i)) (some v))

/-- The entries under a first key, with the first `limit` of them deleted. -/
def clearPrefix (order : IterationOrder ι) (m : StorageMap (κ × ι) ν) (k : κ) (limit : ℕ) :
    StorageMap (κ × ι) ν :=
  ((m.iterPrefix order k).take limit).foldl (fun m e => m.remove (k, e.1)) m

/-- Several entries under a key deleted, one after the other. -/
theorem get_foldl_remove (es : List (ι × ν)) (j : ι) :
    (es.foldl (fun m e => m.remove (k, e.1)) m).get (k, j) =
      if j ∈ es.map Prod.fst then none else m.get (k, j) := by
  induction es generalizing m with
  | nil => rfl
  | cons e es ih =>
    rw [List.foldl_cons, ih, get_remove]
    by_cases hj : j = e.1
    · rw [hj, if_pos rfl, ite_self]
      exact (if_pos List.mem_cons_self).symm
    · rw [if_neg fun he => hj (Prod.ext_iff.mp he).2]
      refine if_congr ?_ rfl rfl
      rw [List.map_cons, List.mem_cons, or_iff_right hj]

theorem get_foldl_remove_of_ne (h : k' ≠ k) (es : List (ι × ν)) (j : ι) :
    (es.foldl (fun m e => m.remove (k, e.1)) m).get (k', j) = m.get (k', j) := by
  induction es generalizing m with
  | nil => rfl
  | cons e es ih =>
    rw [List.foldl_cons, ih, get_remove_of_ne fun he => h (Prod.ext_iff.mp he).1]

/-- **When there are few enough, all entries under the key are deleted.** -/
theorem get_clearPrefix {limit : ℕ} (h : (m.row k).card ≤ limit) (j : ι) :
    (m.clearPrefix order k limit).get (k, j) = none := by
  unfold clearPrefix
  -- the limit cuts nothing off
  rw [get_foldl_remove, List.take_of_length_le (length_iterPrefix.trans_le h), map_fst_iterPrefix]
  split
  · rfl
  · next hj => exact notMem_row.mp fun hrow => hj ((order.mem _ _).mpr hrow)

/-- **No others are deleted.** -/
theorem get_clearPrefix_of_ne (h : k' ≠ k) (limit : ℕ) (j : ι) :
    (m.clearPrefix order k limit).get (k', j) = m.get (k', j) :=
  get_foldl_remove_of_ne h _ j

end Prefix

end StorageMap

/-! ### Going round in turns

Numbered things are visited a few at a time. Each turn takes up where the last has stopped, and
after the last number comes the first again. -/

namespace RoundRobin

variable {total start count i : ℕ}

/-- The numbers visited from `start` on, as many as `count`, where there are `total` in all. -/
def turn (total start count : ℕ) : List ℕ := (List.range count).map fun i => (start + i) % total

/-- **A turn within a round visits nothing twice.** -/
theorem nodup_turn (h : count ≤ total) : (turn total start count).Nodup := by
  refine List.Nodup.map_on ?_ List.nodup_range
  intro i hi j hj heq
  -- two places of the round with one remainder are one place
  have hmod : i ≡ j [MOD total] := Nat.ModEq.add_left_cancel' start heq
  exact hmod.eq_of_lt_of_lt ((List.mem_range.mp hi).trans_le h) ((List.mem_range.mp hj).trans_le h)

/-- **A turn as long as the round visits everything.** -/
theorem mem_turn (h : total ≤ count) (hi : i < total) : i ∈ turn total start count := by
  -- the distance from where the turn starts, around the end
  have hstart : start % total < total := Nat.mod_lt start (Nat.zero_lt_of_lt hi)
  refine List.mem_map.mpr ⟨(i + (total - start % total)) % total, List.mem_range.mpr ?_, ?_⟩
  · exact (Nat.mod_lt _ (Nat.zero_lt_of_lt hi)).trans_le h
  · calc (start + (i + (total - start % total)) % total) % total
        = (start % total + (i + (total - start % total))) % total := by
          rw [Nat.add_mod_mod, Nat.mod_add_mod]
      _ = (i + total) % total := by
          congr 1
          omega
      _ = i := by rw [Nat.add_mod_right, Nat.mod_eq_of_lt hi]

/-- **A long turn is two turns**, of which the second starts where the first has stopped. -/
theorem turn_add (total start a b : ℕ) :
    turn total start (a + b) = turn total start a ++ turn total ((start + a) % total) b := by
  unfold turn
  rw [List.range_add, List.map_append, List.map_map]
  congr 1
  refine List.map_congr_left fun i _ => ?_
  show (start + (a + i)) % total = ((start + a) % total + i) % total
  rw [Nat.mod_add_mod, Nat.add_assoc]

end RoundRobin
