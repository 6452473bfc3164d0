import Mathlib.Data.List.Pairwise
import Mathlib.Data.List.Range
import Altan.Foundation.StorageMap

/-!
# Catalogues

Records are numbered in the order they are entered and stay for good, though what is noted in them
may change. Beside the records an index lists the numbers of those that bear each tag. An index that
is given every new number under the tag of its record lists the records that bear a tag, each once
and in the order they were entered.

## Main definitions

* `Catalogue.Dense m n`: the numbers in use are those below `n`
* `Catalogue.listed tag m n t`: the numbers of the records that bear the tag `t`, in order
* `Catalogue.Indexes`: what an index says is what is listed
* `Catalogue.Files tag index m`: an index of pairs has every number under the tag of its record

## Main results

* `mem_listed`, `listed_sorted`: what is listed
* `Indexes.enter`, `Indexes.update`, `Files.enter`, `Files.update`: a new record, and a change of
  one
-/

namespace Catalogue

variable {R T : Type} [DecidableEq T] {tag : R → T} {m : StorageMap ℕ R} {n id : ℕ} {r r' : R}
  {t : T} {index index' : T → List ℕ}

/-- The numbers in use are those below `n`. -/
def Dense (m : StorageMap ℕ R) (n : ℕ) : Prop := ∀ id, (∃ r, m.get id = some r) ↔ id < n

theorem dense_empty : Dense (∅ : StorageMap ℕ R) 0 := by
  intro id
  simp

theorem Dense.get_eq_none (h : Dense m n) (hid : n ≤ id) : m.get id = none := by
  cases hget : m.get id with
  | none => rfl
  | some r => exact absurd ((h id).mp ⟨r, hget⟩) (Nat.not_lt.mpr hid)

theorem Dense.lt (h : Dense m n) (hget : m.get id = some r) : id < n := (h id).mp ⟨r, hget⟩

/-- A new record takes the next number. -/
theorem Dense.enter (h : Dense m n) (r : R) : Dense (m.insert n r) (n + 1) := by
  intro id
  rw [StorageMap.get_insert]
  split
  · next hid => simp [hid]
  · next hid =>
    rw [h id]
    omega

/-- A change of a record takes no number. -/
theorem Dense.update (h : Dense m n) (hget : m.get id = some r) (r' : R) :
    Dense (m.insert id r') n := by
  intro id'
  rw [StorageMap.get_insert]
  split
  · next hid =>
    refine iff_of_true ⟨r', rfl⟩ ?_
    rw [hid]
    exact h.lt hget
  · exact h id'

/-- The numbers below `n` of the records that bear a tag, in order. -/
def listed (tag : R → T) (m : StorageMap ℕ R) (n : ℕ) (t : T) : List ℕ :=
  (List.range n).filter fun id => (m.get id).map tag = some t

theorem mem_listed (h : Dense m n) :
    id ∈ listed tag m n t ↔ ∃ r, m.get id = some r ∧ tag r = t := by
  unfold listed
  rw [List.mem_filter, List.mem_range, decide_eq_true_iff, Option.map_eq_some_iff]
  constructor
  · rintro ⟨-, hr⟩
    exact hr
  · rintro ⟨r, hget, ht⟩
    exact ⟨h.lt hget, r, hget, ht⟩

/-- Every number is listed once, in the order of entry. -/
theorem listed_sorted : (listed tag m n t).Pairwise (· < ·) :=
  List.pairwise_lt_range.filter _

/-- What is listed depends on the tags only. -/
theorem listed_congr {m' : StorageMap ℕ R}
    (h : ∀ id, id < n → (m'.get id).map tag = (m.get id).map tag) :
    listed tag m' n t = listed tag m n t := by
  unfold listed
  apply List.filter_congr
  intro id hid
  rw [h id (List.mem_range.mp hid)]

/-- A new record is listed last under its tag. -/
theorem listed_enter (r : R) :
    listed tag (m.insert n r) (n + 1) t =
      if t = tag r then listed tag m n t ++ [n] else listed tag m n t := by
  have hbefore : listed tag (m.insert n r) n t = listed tag m n t := by
    apply listed_congr
    intro id hid
    rw [StorageMap.get_insert_of_ne (Nat.ne_of_lt hid)]
  unfold listed at hbefore ⊢
  rw [List.range_succ, List.filter_append, hbefore]
  by_cases ht : t = tag r
  · simp [ht]
  · simp [ht, Ne.symm ht]

/-- An index says of every tag what is listed under it. -/
def Indexes (tag : R → T) (index : T → List ℕ) (m : StorageMap ℕ R) (n : ℕ) : Prop :=
  ∀ t, index t = listed tag m n t

theorem indexes_empty (h : ∀ t, index t = []) : Indexes tag index (∅ : StorageMap ℕ R) 0 := h

/-- **A new record** that the index is given under its tag. -/
theorem Indexes.enter (h : Indexes tag index m n)
    (hself : index' (tag r) = index (tag r) ++ [n])
    (hother : ∀ t, t ≠ tag r → index' t = index t) :
    Indexes tag index' (m.insert n r) (n + 1) := by
  intro t
  rw [listed_enter]
  split
  · next ht =>
    subst ht
    rw [hself, h]
  · next ht => rw [hother t ht, h]

/-- **A change of a record** that leaves its tag. -/
theorem Indexes.update (h : Indexes tag index m n) (hget : m.get id = some r)
    (htag : tag r' = tag r) : Indexes tag index (m.insert id r') n := by
  intro t
  rw [h t]
  symm
  apply listed_congr
  intro id' _
  exact StorageMap.map_get_insert hget htag

/-- A record is found under its tag. -/
theorem Indexes.mem (h : Indexes tag index m n) (hd : Dense m n) :
    id ∈ index t ↔ ∃ r, m.get id = some r ∧ tag r = t := by
  rw [h t, mem_listed hd]

/-! ### Indices of pairs -/

section Pairs

variable {place : R → Option T} {pairs : StorageMap (T × ℕ) Unit}

/-- The index has every number under the tag of its record, if it bears one. -/
def Files (place : R → Option T) (pairs : StorageMap (T × ℕ) Unit) (m : StorageMap ℕ R) : Prop :=
  ∀ t id, pairs.get (t, id) = some () ↔ ∃ r, m.get id = some r ∧ place r = some t

/-- The index with a number under a tag, if there is one. -/
def filed (pairs : StorageMap (T × ℕ) Unit) (t : Option T) (id : ℕ) : StorageMap (T × ℕ) Unit :=
  match t with
  | some t => pairs.insert (t, id) ()
  | none => pairs

theorem files_empty : Files place ∅ (∅ : StorageMap ℕ R) := by
  intro t id
  simp

theorem get_filed {t' : Option T} {id' : ℕ} :
    (filed pairs t' id').get (t, id) = some () ↔
      t' = some t ∧ id = id' ∨ pairs.get (t, id) = some () := by
  cases t' with
  | none => simp [filed]
  | some t' =>
    unfold filed
    dsimp only
    rw [StorageMap.get_insert]
    split
    · next h =>
      obtain ⟨rfl, rfl⟩ := Prod.mk.inj h
      simp
    · next h =>
      refine (or_iff_right ?_).symm
      rintro ⟨ht, rfl⟩
      exact h (by rw [Option.some.inj ht])

/-- **A new record** that is filed under its tag. -/
theorem Files.enter (h : Files place pairs m) (hnew : m.get id = none) (r : R) :
    Files place (filed pairs (place r) id) (m.insert id r) := by
  intro t id'
  rw [get_filed, h t id', StorageMap.get_insert]
  split
  · next hid =>
    subst hid
    simp [hnew]
  · next hid => simp [hid]

/-- **A change of a record** that leaves its tag. -/
theorem Files.update (h : Files place pairs m) (hget : m.get id = some r)
    (hplace : place r' = place r) : Files place pairs (m.insert id r') := by
  intro t id'
  rw [h t id', StorageMap.get_insert]
  split
  · next hid =>
    subst hid
    simp [hget, hplace]
  · exact Iff.rfl

end Pairs

end Catalogue
