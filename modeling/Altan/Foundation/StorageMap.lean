import Mathlib.Data.Finmap
import Mathlib.Algebra.BigOperators.Group.Finset.Piecewise
import Mathlib.Algebra.Order.BigOperators.Group.Finset

/-!
# Storage maps

A storage map is a finite map. A key without an entry reads as `none`, or as a default where
the map is declared with one. An additive observation of the entries is totalled over all
keys, or over the keys with a given first or second component; inserting or removing one entry
changes a total by that entry alone.

## Main definitions

* `StorageMap κ ν`: finite maps, with `get`, `getD`, `containsKey`, `insert`, `remove`,
  `removeAll`
* `StorageMap.sum f m`: the total of `f` over the entries of `m`
* `StorageMap.count p m`: how many entries are of a kind
* `StorageMap.partTotal p m`: the total of the balances under the keys of a kind
* `StorageMap.total`, `StorageMap.rowTotal`, `StorageMap.columnTotal`: the totals of a map of
  balances

## Main results

* `sum_insert`, `sum_remove`: one entry at a time
* `total_insert`, `rowTotal_insert`, `columnTotal_insert`: the totals of a map of balances after
  an insertion
* `getD_le_total`, `getD_le_rowTotal`: an entry is at most the total it belongs to
* `total_eq_of_rowTotal`: a map of the row totals of another has its total
-/

/-- A finite map from keys to stored values. -/
def StorageMap (κ ν : Type) : Type := Finmap fun _ : κ => ν

namespace StorageMap

variable {κ ν M : Type}

instance : EmptyCollection (StorageMap κ ν) := inferInstanceAs (EmptyCollection (Finmap _))

instance : Inhabited (StorageMap κ ν) := ⟨∅⟩

/-- The keys with an entry. -/
def keys (m : StorageMap κ ν) : Finset κ := Finmap.keys m

variable [DecidableEq κ]

instance [DecidableEq ν] : DecidableEq (StorageMap κ ν) := inferInstanceAs (DecidableEq (Finmap _))

/-- The entry of a key. -/
def get (m : StorageMap κ ν) (k : κ) : Option ν := Finmap.lookup k m

/-- The entry of a key, or the default of the map. -/
def getD (m : StorageMap κ ν) (k : κ) (d : ν) : ν := (m.get k).getD d

/-- Whether a key has an entry. -/
def containsKey (m : StorageMap κ ν) (k : κ) : Bool := (m.get k).isSome

/-- Store an entry, replacing the one under the same key. -/
def insert (m : StorageMap κ ν) (k : κ) (v : ν) : StorageMap κ ν := Finmap.insert k v m

/-- Delete the entry of a key. -/
def remove (m : StorageMap κ ν) (k : κ) : StorageMap κ ν := Finmap.erase k m

/-- Delete the entries of the keys of a kind. -/
def removeAll (m : StorageMap κ ν) (p : κ → Prop) [DecidablePred p] : StorageMap κ ν where
  entries := m.entries.filter fun e => ¬ p e.1
  nodupKeys := by
    obtain ⟨entries, hnodup⟩ := m
    induction entries using Quotient.inductionOn with
    | h l => exact List.NodupKeys.sublist List.filter_sublist hnodup

/-- Apply a function to an entry that exists. -/
def modify (m : StorageMap κ ν) (k : κ) (f : ν → ν) : StorageMap κ ν :=
  match m.get k with
  | some v => m.insert k (f v)
  | none => m

variable {m : StorageMap κ ν} {k k' : κ} {v : ν} {f : ν → ν}

/-! ### Reading after writing -/

@[simp] theorem get_empty (k : κ) : (∅ : StorageMap κ ν).get k = none := Finmap.lookup_empty k

@[simp] theorem getD_empty (k : κ) (d : ν) : (∅ : StorageMap κ ν).getD k d = d := by
  simp [getD]

@[simp] theorem get_insert_self : (m.insert k v).get k = some v := Finmap.lookup_insert m

theorem get_insert_of_ne (h : k' ≠ k) : (m.insert k v).get k' = m.get k' :=
  Finmap.lookup_insert_of_ne m h

theorem get_insert : (m.insert k v).get k' = if k' = k then some v else m.get k' := by
  split
  · next h => rw [h, get_insert_self]
  · next h => exact get_insert_of_ne h

/-- An entry after an insertion is the new one or one that was there. -/
theorem get_insert_cases {w : ν} (h : (m.insert k v).get k' = some w) :
    k' = k ∧ v = w ∨ k' ≠ k ∧ m.get k' = some w := by
  rw [get_insert] at h
  split at h
  · next e => exact Or.inl ⟨e, Option.some.inj h⟩
  · next e => exact Or.inr ⟨e, h⟩

/-- A key without an entry after an insertion is another one that had none. -/
theorem get_insert_eq_none : (m.insert k v).get k' = none ↔ k' ≠ k ∧ m.get k' = none := by
  rw [get_insert]
  split
  · next e => simp [e]
  · next e => simp [e]

@[simp] theorem get_remove_self : (m.remove k).get k = none := Finmap.lookup_erase k m

theorem get_remove_of_ne (h : k' ≠ k) : (m.remove k).get k' = m.get k' := Finmap.lookup_erase_ne h

theorem get_remove : (m.remove k).get k' = if k' = k then none else m.get k' := by
  split
  · next h => rw [h, get_remove_self]
  · next h => exact get_remove_of_ne h

theorem get_removeAll {p : κ → Prop} [DecidablePred p] :
    (m.removeAll p).get k = if p k then none else m.get k := by
  ext v
  have hmem : (m.removeAll p).get k = some v ↔ m.get k = some v ∧ ¬ p k :=
    (Finmap.lookup_eq_some_iff).trans <| Multiset.mem_filter.trans <|
      and_congr_left' Finmap.lookup_eq_some_iff.symm
  by_cases hp : p k
  · simp [hmem, hp]
  · simp [hmem, hp]

theorem getD_removeAll {p : κ → Prop} [DecidablePred p] {d : ν} :
    (m.removeAll p).getD k d = if p k then d else m.getD k d := by
  unfold getD
  rw [get_removeAll]
  split <;> rfl

/-- A claim on whatever entry a key has is one on the entry it has. -/
theorem forall_get_iff {p : ν → Prop} (h : m.get k = some v) :
    (∀ v', m.get k = some v' → p v') ↔ p v := by
  constructor
  · intro hp
    exact hp v h
  · intro hp v' hv'
    rw [h] at hv'
    rwa [← Option.some.inj hv']

@[simp] theorem getD_insert_self {d : ν} : (m.insert k v).getD k d = v := by simp [getD]

theorem getD_insert {d : ν} : (m.insert k v).getD k' d = if k' = k then v else m.getD k' d := by
  unfold getD
  rw [get_insert]
  split <;> rfl

/-- A set with one more key in it. -/
theorem getD_insert_true {used : StorageMap κ Bool} :
    (used.insert k true).getD k' false = true ↔ k = k' ∨ used.getD k' false = true := by
  rw [getD_insert]
  split
  · next e => simp [e]
  · next e => simp [Ne.symm e]

theorem containsKey_iff : m.containsKey k = true ↔ ∃ v, m.get k = some v := by
  simp [containsKey, Option.isSome_iff_exists]

theorem not_containsKey : m.containsKey k = false ↔ m.get k = none := by
  simp [containsKey]

theorem get_modify : (m.modify k f).get k' = if k' = k then (m.get k).map f else m.get k' := by
  unfold modify
  split
  · next v h => rw [get_insert, h, Option.map_some]
  · next h =>
    split
    · next e => rw [e, h, Option.map_none]
    · rfl

@[simp] theorem get_modify_self : (m.modify k f).get k = (m.get k).map f := by
  simp [get_modify]

theorem containsKey_modify : (m.modify k f).containsKey k' = m.containsKey k' := by
  unfold containsKey
  rw [get_modify]
  split
  · next e => rw [e, Option.isSome_map]
  · rfl

/-- A key that has an entry keeps one through an insertion. -/
theorem containsKey_insert_of_containsKey (h : m.containsKey k' = true) :
    (m.insert k v).containsKey k' = true := by
  unfold containsKey
  rw [get_insert]
  split
  · rfl
  · exact h

theorem modify_of_get (h : m.get k = some v) : m.modify k f = m.insert k (f v) := by
  unfold modify
  rw [h]

/-- Whether a key has an entry does not depend on what becomes of the entry. -/
theorem containsKey_of_get_map {m' : StorageMap κ ν} (h : m'.get k = (m.get k).map f) :
    m'.containsKey k = m.containsKey k := by
  unfold containsKey
  rw [h, Option.isSome_map]

theorem mem_keys : k ∈ m.keys ↔ ∃ v, m.get k = some v := Finmap.mem_keys.trans Finmap.mem_iff

theorem notMem_keys : k ∉ m.keys ↔ m.get k = none := by
  rw [mem_keys, ← containsKey_iff, ← not_containsKey, Bool.not_eq_true]

@[simp] theorem keys_remove : (m.remove k).keys = m.keys.erase k := Finmap.keys_erase k m

@[simp] theorem keys_insert : (m.insert k v).keys = Insert.insert k m.keys := by
  ext k'
  rw [Finset.mem_insert, mem_keys, mem_keys, get_insert]
  split
  · next e => simp [e]
  · next e => simp [e]

/-- Replacing an entry keeps the keys. -/
theorem keys_insert_of_get (h : m.get k = some v) (v' : ν) : (m.insert k v').keys = m.keys := by
  rw [keys_insert, Finset.insert_eq_of_mem (mem_keys.mpr ⟨v, h⟩)]

/-- A new entry is one more key. -/
theorem card_keys_insert (h : m.get k = none) : (m.insert k v).keys.card = m.keys.card + 1 := by
  rw [keys_insert, Finset.card_insert_of_notMem (notMem_keys.mpr h)]

@[ext] theorem ext {m m' : StorageMap κ ν} (h : ∀ k, m.get k = m'.get k) : m = m' :=
  Finmap.ext_lookup h

/-- Storing an entry that is there changes nothing. -/
theorem insert_of_get (h : m.get k = some v) : m.insert k v = m := by
  ext k' : 1
  rw [get_insert]
  split
  · next e => rw [e, h]
  · rfl

section Observation

variable {O : Type} {obs : ν → O} {v' : ν}

/-- Replacing an entry by one that looks the same keeps what is seen of the entries. -/
theorem map_get_insert (h : m.get k = some v) (hobs : obs v' = obs v) :
    ((m.insert k v').get k').map obs = (m.get k').map obs := by
  rw [get_insert]
  split
  · next e =>
    rw [e, h]
    exact congrArg some hobs
  · rfl

/-- Changing an entry in what is not seen keeps what is seen of the entries. -/
theorem map_get_modify (hobs : ∀ v, obs (f v) = obs v) :
    ((m.modify k f).get k').map obs = (m.get k').map obs := by
  rw [get_modify]
  split
  · next e =>
    rw [e, Option.map_map]
    exact congrArg (Option.map · _) (funext hobs)
  · rfl

/-- Changing several entries in what is not seen keeps what is seen of the entries. -/
theorem map_get_foldl_modify (hobs : ∀ v, obs (f v) = obs v) (ks : List κ) :
    ((ks.foldl (fun m k => m.modify k f) m).get k').map obs = (m.get k').map obs := by
  induction ks generalizing m with
  | nil => rfl
  | cons k ks ih => rw [List.foldl_cons, ih, map_get_modify hobs]

/-- No two entries look the same. -/
def Distinguishes (obs : ν → O) (m : StorageMap κ ν) : Prop :=
  ∀ k k' o, (m.get k).map obs = some o → (m.get k').map obs = some o → k = k'

theorem distinguishes_empty (obs : ν → O) : Distinguishes obs (∅ : StorageMap κ ν) := by
  intro k k' o hk
  simp at hk

theorem distinguishes_congr {m' : StorageMap κ ν}
    (h : ∀ k, (m'.get k).map obs = (m.get k).map obs) :
    Distinguishes obs m' ↔ Distinguishes obs m := by
  unfold Distinguishes
  simp only [h]

/-- A new entry keeps the entries apart just if it looks like none of them. -/
theorem distinguishes_insert_iff (hk : m.get k = none) (h : Distinguishes obs m) :
    Distinguishes obs (m.insert k v) ↔ ∀ k', (m.get k').map obs ≠ some (obs v) := by
  constructor
  · intro h' k' hk'
    have hne : k' ≠ k := by
      rintro rfl
      rw [hk] at hk'
      cases hk'
    exact hne (h' k' k (obs v) (by rwa [get_insert_of_ne hne]) (by rw [get_insert_self]; rfl))
  · intro hnew j j' o hj hj'
    rw [get_insert] at hj hj'
    split at hj <;> split at hj'
    · next e e' => rw [e, e']
    · rw [← hj] at hj'
      exact absurd hj' (hnew j')
    · rw [← hj'] at hj
      exact absurd hj (hnew j)
    · exact h j j' o hj hj'

/-- An entry that looks a way beside a new one looked so before. -/
theorem map_get_insert_new {o : O} (hk : m.get k = none) (hk' : (m.get k').map obs = some o) :
    ((m.insert k v).get k').map obs = some o := by
  have hne : k' ≠ k := by
    rintro rfl
    rw [hk] at hk'
    cases hk'
  rwa [get_insert_of_ne hne]

/-- Somebody of a kind looks a way after a new entry: the new one, or one of before. -/
theorem exists_map_insert_new {o : O} {p p' : κ → Prop} (hk : m.get k = none)
    (hp : ∀ k', k' ≠ k → (p' k' ↔ p k')) :
    (∃ k', ((m.insert k v).get k').map obs = some o ∧ p' k') ↔
      obs v = o ∧ p' k ∨ ∃ k', (m.get k').map obs = some o ∧ p k' := by
  constructor
  · rintro ⟨k', hk', hpk'⟩
    rw [get_insert] at hk'
    split at hk'
    · next e => exact Or.inl ⟨Option.some.inj hk', e ▸ hpk'⟩
    · next e => exact Or.inr ⟨k', hk', (hp k' e).mp hpk'⟩
  · rintro (⟨ho, hpk⟩ | ⟨k', hk', hpk'⟩)
    · exact ⟨k, by rw [get_insert_self, Option.map_some, ho], hpk⟩
    · have hne : k' ≠ k := by
        rintro rfl
        rw [hk] at hk'
        cases hk'
      exact ⟨k', map_get_insert_new hk hk', (hp k' hne).mpr hpk'⟩

/-- Entries that are apart beside a new one were apart before. -/
theorem Distinguishes.of_insert_new (hk : m.get k = none) (h : Distinguishes obs (m.insert k v)) :
    Distinguishes obs m := by
  intro j j' o hj hj'
  exact h j j' o (map_get_insert_new hk hj) (map_get_insert_new hk hj')

end Observation

/-- One change made to two entries may be made in either order. -/
theorem modify_comm (m : StorageMap κ ν) (f : ν → ν) (k k' : κ) :
    (m.modify k f).modify k' f = (m.modify k' f).modify k f := by
  ext a : 1
  by_cases hk : k' = k
  · rw [hk]
  · simp only [get_modify, if_neg hk, if_neg (Ne.symm hk)]
    by_cases ha : a = k
    · have ha' : a ≠ k' := fun h => hk (h.symm.trans ha)
      simp only [if_pos ha, if_neg ha']
    · simp only [if_neg ha]

/-- Changing an entry to what it is changes nothing. -/
theorem modify_of_fixed (h : m.get k = some v) (hv : f v = v) : m.modify k f = m := by
  rw [modify_of_get h, hv, insert_of_get h]

theorem modify_of_none (h : m.get k = none) : m.modify k f = m := by
  unfold modify
  rw [h]

/-- Two changes of one entry are one change. -/
theorem modify_modify (f g : ν → ν) : (m.modify k f).modify k g = m.modify k fun v => g (f v) := by
  ext k' : 1
  by_cases h : k' = k
  · rw [h, get_modify_self, get_modify_self, get_modify_self, Option.map_map]
    rfl
  · simp only [get_modify, if_neg h]

/-- The order in which one change is made to several entries does not matter. -/
instance (f : ν → ν) : RightCommutative fun (m : StorageMap κ ν) k => m.modify k f where
  right_comm m k k' := modify_comm m f k k'

/-- One change made to several entries, each once. -/
theorem get_foldl_modify {ks : Multiset κ} (hks : ks.Nodup) :
    (ks.foldl (fun m k => m.modify k f) m).get k =
      (m.get k).map fun v => if k ∈ ks then f v else v := by
  induction ks using Multiset.induction_on generalizing m with
  | empty => simp
  | cons k' ks ih =>
    obtain ⟨hnew, hks⟩ := Multiset.nodup_cons.mp hks
    rw [Multiset.foldl_cons, ih hks]
    by_cases hk : k = k'
    · subst hk
      rw [get_modify_self, Option.map_map]
      refine Option.map_congr fun v _ => ?_
      simp [hnew]
    · rw [get_modify, if_neg hk]
      simp [hk]

theorem getD_modify {d : ν} (hd : f d = d) :
    (m.modify k f).getD k' d = if k' = k then f (m.getD k d) else m.getD k' d := by
  unfold getD
  rw [get_modify]
  split
  · cases m.get k with
    | none => exact hd.symm
    | some v => rfl
  · rfl

theorem remove_comm (m : StorageMap κ ν) (k k' : κ) :
    (m.remove k).remove k' = (m.remove k').remove k := Finmap.erase_erase

/-! ### Totals of the entries -/

section Sum

variable [AddCommMonoid M] (g : κ → ν → M)

/-- What a key contributes to a total: its entry observed by `g`, or nothing. -/
def contribution (m : StorageMap κ ν) (k : κ) : M := (m.get k).elim 0 (g k)

/-- The total of `g` over the entries. -/
def sum (m : StorageMap κ ν) : M := ∑ k ∈ m.keys, contribution g m k

theorem contribution_of_get (h : m.get k = some v) : contribution g m k = g k v := by
  simp [contribution, h]

theorem contribution_of_none (h : m.get k = none) : contribution g m k = 0 := by
  simp [contribution, h]

/-- Removing an entry takes its contribution out of the total. -/
theorem sum_remove (k : κ) : contribution g m k + sum g (m.remove k) = sum g m := by
  -- the other keys contribute what they did
  have hrest : sum g (m.remove k) = ∑ k' ∈ m.keys.erase k, contribution g m k' := by
    unfold sum
    rw [keys_remove]
    refine Finset.sum_congr rfl fun k' hk' => ?_
    unfold contribution
    rw [get_remove_of_ne (Finset.ne_of_mem_erase hk')]
  rw [hrest]
  -- a key without an entry contributes nothing
  by_cases hk : k ∈ m.keys
  · exact Finset.add_sum_erase _ _ hk
  · rw [contribution_of_none g (notMem_keys.mp hk), zero_add, Finset.erase_eq_of_notMem hk]
    rfl

theorem remove_insert_self : (m.insert k v).remove k = m.remove k := by
  ext k' : 1
  rw [get_remove, get_remove, get_insert]
  split <;> rfl

/-- Inserting an entry puts its contribution in place of the old one. -/
theorem sum_insert (k : κ) (v : ν) :
    contribution g m k + sum g (m.insert k v) = g k v + sum g m := by
  -- both totals are that of the map without `k`, and one contribution
  have hnew := sum_remove (m := m.insert k v) g k
  rw [remove_insert_self, contribution_of_get g get_insert_self] at hnew
  rw [← hnew, ← sum_remove (m := m) g k, add_left_comm]

/-- A new entry adds its contribution. -/
theorem sum_insert_new (h : m.get k = none) (v : ν) : sum g (m.insert k v) = g k v + sum g m := by
  have hs := sum_insert g (m := m) k v
  rwa [contribution_of_none g h, zero_add] at hs

/-- An entry that is replaced takes its contribution out of the total. -/
theorem sum_insert_of_get (h : m.get k = some v) (v' : ν) :
    g k v + sum g (m.insert k v') = g k v' + sum g m := by
  have hs := sum_insert g (m := m) k v'
  rwa [contribution_of_get g h] at hs

/-- Changing an entry puts its new contribution in place of the old one. -/
theorem sum_modify (k : κ) (f : ν → ν) :
    contribution g m k + sum g (m.modify k f) = ((m.get k).map f).elim 0 (g k) + sum g m := by
  unfold modify
  cases h : m.get k with
  | none => rw [contribution_of_none g h]; rfl
  | some v => exact sum_insert g k (f v)

/-- Observations that agree on the entries have the same total. -/
theorem sum_congr {g' : κ → ν → M} (h : ∀ k v, m.get k = some v → g k v = g' k v) :
    sum g m = sum g' m := by
  refine Finset.sum_congr rfl fun k hk => ?_
  obtain ⟨v, hv⟩ := mem_keys.mp hk
  rw [contribution_of_get g hv, contribution_of_get g' hv, h k v hv]

/-- The entries, without their keys. -/
def values (m : StorageMap κ ν) : Multiset ν := m.keys.val.filterMap m.get

/-- An additive observation of the entries of a kind is totalled over their keys. -/
theorem sum_values (p : ν → Prop) [DecidablePred p] (f : ν → M) :
    ((m.values.filter p).map f).sum = sum (fun _ v => if p v then f v else 0) m := by
  unfold values sum Finset.sum
  -- one key after the other
  induction m.keys.val using Multiset.induction_on with
  | empty => rfl
  | cons k ks ih =>
    rw [Multiset.map_cons, Multiset.sum_cons, ← ih, contribution]
    cases hget : m.get k with
    | none => rw [Multiset.filterMap_cons_none _ _ hget, Option.elim_none, zero_add]
    | some v =>
      rw [Multiset.filterMap_cons_some _ _ _ hget, Option.elim_some]
      by_cases hv : p v
      · rw [Multiset.filter_cons_of_pos _ hv, Multiset.map_cons, Multiset.sum_cons, if_pos hv]
      · rw [Multiset.filter_cons_of_neg _ hv, if_neg hv, zero_add]

theorem contribution_le_sum {h : κ → ν → ℕ} (k : κ) : contribution h m k ≤ sum h m := by
  rw [← sum_remove h k]
  exact Nat.le_add_right _ _

theorem le_sum_of_get {h : κ → ν → ℕ} (hk : m.get k = some v) : h k v ≤ sum h m := by
  rw [← contribution_of_get h hk]
  exact contribution_le_sum k

end Sum

/-! ### Counting the entries -/

section Count

variable {p : ν → Prop} [DecidablePred p]

/-- How many entries are of the kind `p`. -/
def count (p : ν → Prop) [DecidablePred p] (m : StorageMap κ ν) : ℕ :=
  m.sum fun _ v => if p v then 1 else 0

@[simp] theorem count_empty : (∅ : StorageMap κ ν).count p = 0 := rfl

theorem count_insert_new (h : m.get k = none) :
    (m.insert k v).count p = m.count p + if p v then 1 else 0 := by
  rw [Nat.add_comm]
  exact sum_insert_new (fun _ v => if p v then 1 else 0) h v

theorem count_insert (h : m.get k = some v) (v' : ν) :
    (m.insert k v').count p + (if p v then 1 else 0) = m.count p + if p v' then 1 else 0 := by
  rw [Nat.add_comm, Nat.add_comm (m.count p)]
  exact sum_insert_of_get (fun _ v => if p v then 1 else 0) h v'

/-- There are no more entries of a kind than keys. -/
theorem count_le_card_keys : m.count p ≤ m.keys.card := by
  have hone : ∀ k ∈ m.keys, m.contribution (fun _ v => if p v then 1 else 0) k ≤ 1 := by
    intro k hk
    obtain ⟨v, hv⟩ := mem_keys.mp hk
    rw [contribution_of_get _ hv]
    split
    · exact le_refl 1
    · exact Nat.zero_le 1
  exact (Finset.sum_le_card_nsmul m.keys _ 1 hone).trans_eq (Nat.mul_one m.keys.card)

theorem count_eq_zero (h : ∀ k v, m.get k = some v → ¬ p v) : m.count p = 0 := by
  refine Finset.sum_eq_zero fun k hk => ?_
  obtain ⟨v, hv⟩ := mem_keys.mp hk
  rw [contribution_of_get _ hv, if_neg (h k v hv)]

end Count

/-! ### Maps of balances -/

section Balances

variable {b : StorageMap κ ℕ} {n : ℕ}

/-- The total of all stored balances. -/
def total (b : StorageMap κ ℕ) : ℕ := b.sum fun _ n => n

theorem contribution_eq_getD : b.contribution (fun _ n => n) k = b.getD k 0 := by
  unfold contribution getD
  cases b.get k <;> rfl

theorem total_insert (k : κ) (n : ℕ) : b.getD k 0 + (b.insert k n).total = n + b.total := by
  have h := sum_insert (m := b) (fun _ n => n) k n
  rwa [contribution_eq_getD] at h

section Part

variable {p : κ → Prop} [DecidablePred p]

/-- The total of the balances stored under the keys of a kind. -/
def partTotal (p : κ → Prop) [DecidablePred p] (b : StorageMap κ ℕ) : ℕ :=
  b.sum fun k n => if p k then n else 0

theorem contribution_part (k : κ) :
    b.contribution (fun k n => if p k then n else 0) k = if p k then b.getD k 0 else 0 := by
  unfold contribution getD
  cases b.get k <;> simp

/-- An insertion changes the total of a kind by the key it is for, if that is of the kind. -/
theorem partTotal_insert (hp : p k) (n : ℕ) :
    b.getD k 0 + (b.insert k n).partTotal p = n + b.partTotal p := by
  have h := sum_insert (m := b) (fun k n => if p k then n else 0) k n
  rwa [contribution_part, if_pos hp, if_pos hp] at h

theorem partTotal_insert_of_not (hp : ¬ p k) (n : ℕ) :
    (b.insert k n).partTotal p = b.partTotal p := by
  have h := sum_insert (m := b) (fun k n => if p k then n else 0) k n
  rwa [contribution_part, if_neg hp, if_neg hp, zero_add, zero_add] at h

end Part

theorem getD_le_total (k : κ) : b.getD k 0 ≤ b.total := by
  rw [← contribution_eq_getD]
  exact contribution_le_sum k

end Balances

section Rows

variable {ι : Type} [DecidableEq ι] {b : StorageMap (κ × ι) ℕ} {n : ℕ} {j : ι}

/-- The total of the balances stored under the first key `k`. -/
def rowTotal (b : StorageMap (κ × ι) ℕ) (k : κ) : ℕ :=
  b.sum fun p n => if p.1 = k then n else 0

theorem rowTotal_insert (k : κ) (j : ι) (n : ℕ) :
    b.getD (k, j) 0 + (b.insert (k, j) n).rowTotal k = n + b.rowTotal k :=
  partTotal_insert (p := fun q : κ × ι => q.1 = k) rfl n

theorem rowTotal_insert_of_ne (h : k ≠ k') (j : ι) (n : ℕ) :
    (b.insert (k, j) n).rowTotal k' = b.rowTotal k' :=
  partTotal_insert_of_not (p := fun q : κ × ι => q.1 = k') h n

theorem getD_le_rowTotal (k : κ) (j : ι) : b.getD (k, j) 0 ≤ b.rowTotal k := by
  have h := contribution_part (b := b) (p := fun q : κ × ι => q.1 = k) (k, j)
  rw [if_pos rfl] at h
  rw [← h]
  exact contribution_le_sum _

theorem rowTotal_eq_sum (k : κ) :
    b.rowTotal k = ∑ p ∈ b.keys, if p.1 = k then b.getD p 0 else 0 :=
  Finset.sum_congr rfl fun q _ => contribution_part (p := fun q : κ × ι => q.1 = k) q

theorem total_eq_sum {b : StorageMap κ ℕ} : b.total = ∑ k ∈ b.keys, b.getD k 0 :=
  Finset.sum_congr rfl fun _ _ => contribution_eq_getD

/-- A map that keeps the row totals of another has the same total. -/
theorem total_eq_of_rowTotal {t : StorageMap κ ℕ} (h : ∀ k, t.getD k 0 = b.rowTotal k) :
    t.total = b.total := by
  -- a key outside the map of row totals has an empty row
  have hrow : ∀ p, (∑ k ∈ t.keys, if p.1 = k then b.getD p 0 else 0) = b.getD p 0 := by
    intro p
    rw [Finset.sum_ite_eq]
    split
    · rfl
    · next hp =>
      have h0 : b.rowTotal p.1 = 0 := by
        rw [← h, getD, notMem_keys.mp hp, Option.getD_none]
      have hle := getD_le_rowTotal (b := b) p.1 p.2
      rw [h0] at hle
      exact (Nat.le_zero.mp hle).symm
  -- sum the rows one by one, then exchange the two sums
  calc t.total
      = ∑ k ∈ t.keys, b.rowTotal k := by simp only [total_eq_sum, h]
    _ = ∑ k ∈ t.keys, ∑ p ∈ b.keys, if p.1 = k then b.getD p 0 else 0 := by
      simp only [rowTotal_eq_sum]
    _ = ∑ p ∈ b.keys, ∑ k ∈ t.keys, if p.1 = k then b.getD p 0 else 0 := Finset.sum_comm
    _ = ∑ p ∈ b.keys, b.getD p 0 := Finset.sum_congr rfl fun p _ => hrow p
    _ = b.total := total_eq_sum.symm

end Rows

section Columns

variable {ι : Type} [DecidableEq ι] {b : StorageMap (κ × ι) ℕ} {j j' : ι}

/-- The total of the balances stored under the second key `j`. -/
def columnTotal (b : StorageMap (κ × ι) ℕ) (j : ι) : ℕ :=
  b.sum fun p n => if p.2 = j then n else 0

theorem columnTotal_insert (k : κ) (j : ι) (n : ℕ) :
    b.getD (k, j) 0 + (b.insert (k, j) n).columnTotal j = n + b.columnTotal j :=
  partTotal_insert (p := fun q : κ × ι => q.2 = j) rfl n

theorem columnTotal_insert_of_ne (h : j ≠ j') (k : κ) (n : ℕ) :
    (b.insert (k, j) n).columnTotal j' = b.columnTotal j' :=
  partTotal_insert_of_not (p := fun q : κ × ι => q.2 = j') h n

end Columns

end StorageMap
