import Mathlib.Algebra.Order.BigOperators.Group.Finset
import Altan.Foundation.Arithmetic
import Altan.Foundation.StorageMap

/-!
# Units and who leads them

The units of a tier are numbered as they are formed. Each has a leader, and beside the units an
index says which unit a leader leads. The index agrees with the units as long as nobody who leads a
unit comes to lead a second one, and no unit is formed under a number that is taken. Units may be
made up of parts. When no part is in two units, the units have as many parts in all as they have
each.

## Main definitions

* `Roster`: the units, the index and the next number
* `Roster.form`: a new unit
* `Roster.Agrees`: the index names exactly the units that are led
* `Roster.Leads`: the unit an account leads
* `Roster.led`: how many units an account leads
* `Roster.Numbered`: the units are numbered as they were formed
* `Exclusive`: no part is in two units
* `together`: the parts of several units

## Main results

* `agrees_form_iff`: when a new unit keeps the index in agreement
* `exclusive_insert_iff`: when a new unit keeps the parts exclusive
* `card_together`: how many parts several units have
-/

open Bounded

/-- Numbered units, the unit each leader leads, and the next number. -/
structure Roster (AccountId U : Type) where
  units : StorageMap ℕ U
  byLeader : StorageMap AccountId ℕ
  nextId : ℕ

variable {AccountId U : Type} [DecidableEq AccountId]

namespace Roster

/-- The roster with a new unit, under the next number. -/
def form (leader : AccountId) (u : U) (r : Roster AccountId U) : Roster AccountId U where
  units := r.units.insert r.nextId u
  byLeader := r.byLeader.insert leader r.nextId
  nextId := saturatingAdd u32Max r.nextId 1

@[simp] theorem form_units (leader : AccountId) (u : U) (r : Roster AccountId U) :
    (r.form leader u).units = r.units.insert r.nextId u := rfl

@[simp] theorem form_byLeader (leader : AccountId) (u : U) (r : Roster AccountId U) :
    (r.form leader u).byLeader = r.byLeader.insert leader r.nextId := rfl

@[simp] theorem form_nextId (leader : AccountId) (u : U) (r : Roster AccountId U) :
    (r.form leader u).nextId = saturatingAdd u32Max r.nextId 1 := rfl

/-! ### The index -/

variable {leaderOf : U → AccountId} {r : Roster AccountId U} {a : AccountId} {u : U}

/-- The index names a unit for an account just if the account leads it. -/
def Agrees (leaderOf : U → AccountId) (r : Roster AccountId U) : Prop :=
  ∀ a i, r.byLeader.get a = some i ↔ ∃ u, r.units.get i = some u ∧ leaderOf u = a

/-- Who comes to lead the next unit leads none yet, and its number is free; or the number is that of
the unit he leads. -/
def MayForm (a : AccountId) (r : Roster AccountId U) : Prop :=
  r.byLeader.get a = none ∧ r.units.get r.nextId = none ∨ r.byLeader.get a = some r.nextId

instance [DecidableEq U] (a : AccountId) (r : Roster AccountId U) : Decidable (r.MayForm a) :=
  inferInstanceAs (Decidable (_ ∨ _))

theorem agrees_empty (leaderOf : U → AccountId) (n : ℕ) :
    Agrees leaderOf (⟨∅, ∅, n⟩ : Roster AccountId U) := by
  intro a i
  simp

/-- The unit an account leads by the index. -/
theorem Agrees.leads (h : r.Agrees leaderOf) {i : ℕ} (hi : r.byLeader.get a = some i) :
    ∃ u, r.units.get i = some u ∧ leaderOf u = a :=
  (h a i).mp hi

/-- The index names the unit of its leader. -/
theorem Agrees.indexed (h : r.Agrees leaderOf) {i : ℕ} (hi : r.units.get i = some u) :
    r.byLeader.get (leaderOf u) = some i :=
  (h _ i).mpr ⟨u, hi, rfl⟩

/-- Only who may form a unit keeps the index in agreement with a new one. -/
theorem Agrees.mayForm_of_form (h : r.Agrees leaderOf)
    (h' : (r.form (leaderOf u) u).Agrees leaderOf) : r.MayForm (leaderOf u) := by
  -- whatever the leader led before is under the next number, and so is its unit his
  have hold : ∀ i, r.byLeader.get (leaderOf u) = some i → i = r.nextId := by
    intro i hi
    obtain ⟨v, hv, hled⟩ := h.leads hi
    by_contra hne
    have hget : (r.form (leaderOf u) u).units.get i = some v :=
      (StorageMap.get_insert_of_ne hne).trans hv
    have hindex := h'.indexed hget
    rw [hled, form_byLeader, StorageMap.get_insert_self] at hindex
    exact hne (Option.some.inj hindex).symm
  cases hled : r.byLeader.get (leaderOf u) with
  | some i => exact Or.inr (hled.trans (congrArg some (hold i hled)))
  | none =>
    refine Or.inl ⟨hled, ?_⟩
    -- a unit that is written over would still be in the index
    by_contra htaken
    obtain ⟨v, hv⟩ := Option.ne_none_iff_exists'.mp htaken
    have hindex := h.indexed hv
    have hne : leaderOf v ≠ leaderOf u := by
      intro he
      rw [he, hled] at hindex
      cases hindex
    have hstale : (r.form (leaderOf u) u).byLeader.get (leaderOf v) = some r.nextId :=
      (StorageMap.get_insert_of_ne hne).trans hindex
    obtain ⟨w, hw, hwled⟩ := h'.leads hstale
    rw [form_units, StorageMap.get_insert_self] at hw
    exact hne (hwled.symm.trans (congrArg leaderOf (Option.some.inj hw).symm))

/-- Who may form a unit leads no other than the one under the next number. -/
theorem Agrees.eq_nextId (h : r.Agrees leaderOf) (hmay : r.MayForm a) {i : ℕ}
    (hi : r.units.get i = some u) (hled : leaderOf u = a) : i = r.nextId := by
  have hindex := h.indexed hi
  rw [hled] at hindex
  rcases hmay with ⟨hnone, -⟩ | hsame
  · rw [hnone] at hindex
    cases hindex
  · rw [hsame] at hindex
    exact (Option.some.inj hindex).symm

/-- Where an account may form a unit, the index gives the next number to nobody else. -/
theorem Agrees.byLeader_ne (h : r.Agrees leaderOf) {b : AccountId} (hmay : r.MayForm b)
    (hab : a ≠ b) : r.byLeader.get a ≠ some r.nextId := by
  intro hindex
  obtain ⟨v, hv, hled⟩ := h.leads hindex
  rcases hmay with ⟨-, hfree⟩ | hsame
  · rw [hfree] at hv
    cases hv
  · obtain ⟨w, hw, hwled⟩ := h.leads hsame
    rw [hv] at hw
    exact hab (hled.symm.trans ((congrArg leaderOf (Option.some.inj hw)).trans hwled))

/-- A new unit keeps the index in agreement if its leader may form it. -/
theorem Agrees.form (h : r.Agrees leaderOf) (hmay : r.MayForm (leaderOf u)) :
    (r.form (leaderOf u) u).Agrees leaderOf := by
  intro a i
  rw [form_byLeader, form_units, StorageMap.get_insert, StorageMap.get_insert]
  by_cases ha : a = leaderOf u
  · subst ha
    rw [if_pos rfl]
    by_cases hi : i = r.nextId
    · rw [if_pos hi, hi]
      exact iff_of_true rfl ⟨u, rfl, rfl⟩
    · rw [if_neg hi]
      refine iff_of_false (fun he => hi (Option.some.inj he).symm) ?_
      rintro ⟨v, hv, hled⟩
      exact hi (h.eq_nextId hmay hv hled)
  · rw [if_neg ha]
    by_cases hi : i = r.nextId
    · rw [if_pos hi, hi]
      refine iff_of_false (h.byLeader_ne hmay ha) ?_
      rintro ⟨v, hv, hled⟩
      exact ha (hled.symm.trans (congrArg leaderOf (Option.some.inj hv).symm))
    · rw [if_neg hi]
      exact h a i

/-- **A new unit keeps the index in agreement just if its leader may form it.** -/
theorem agrees_form_iff (h : r.Agrees leaderOf) :
    (r.form (leaderOf u) u).Agrees leaderOf ↔ r.MayForm (leaderOf u) :=
  ⟨h.mayForm_of_form, h.form⟩

/-- A unit that keeps its leader keeps the index in agreement. -/
theorem Agrees.update (h : r.Agrees leaderOf) {i : ℕ} {v : U} (hi : r.units.get i = some u)
    (hv : leaderOf v = leaderOf u) : Agrees leaderOf { r with units := r.units.insert i v } := by
  intro a j
  rw [h a j]
  show _ ↔ ∃ w, (r.units.insert i v).get j = some w ∧ leaderOf w = a
  rw [StorageMap.get_insert]
  split
  · next hj =>
    rw [hj, hi]
    simp [hv]
  · rfl

/-- The unit that the index names for an account, which leads it. -/
def Leads (leaderOf : U → AccountId) (r : Roster AccountId U) (a : AccountId) (i : ℕ) (u : U) :
    Prop :=
  r.byLeader.get a = some i ∧ r.units.get i = some u ∧ leaderOf u = a

/-- Who forms a unit leads it. -/
theorem leads_form_self {i : ℕ} {v : U} :
    (r.form (leaderOf u) u).Leads leaderOf (leaderOf u) i v ↔ i = r.nextId ∧ v = u := by
  unfold Leads
  rw [form_byLeader, form_units, StorageMap.get_insert_self]
  constructor
  · rintro ⟨hi, hv, -⟩
    obtain rfl := Option.some.inj hi
    rw [StorageMap.get_insert_self] at hv
    exact ⟨rfl, (Option.some.inj hv).symm⟩
  · rintro ⟨rfl, rfl⟩
    exact ⟨rfl, StorageMap.get_insert_self, rfl⟩

/-- The others lead what they did, unless it is written over. -/
theorem leads_form_of_ne (h : leaderOf u ≠ a) {i : ℕ} {v : U} :
    (r.form (leaderOf u) u).Leads leaderOf a i v ↔ i ≠ r.nextId ∧ r.Leads leaderOf a i v := by
  unfold Leads
  rw [form_byLeader, form_units, StorageMap.get_insert_of_ne (Ne.symm h)]
  constructor
  · rintro ⟨hi, hv, hled⟩
    rcases StorageMap.get_insert_cases hv with ⟨-, rfl⟩ | ⟨hne, hv⟩
    · exact absurd hled h
    · exact ⟨hne, hi, hv, hled⟩
  · rintro ⟨hne, hi, hv, hled⟩
    exact ⟨hi, (StorageMap.get_insert_of_ne hne).trans hv, hled⟩

/-! ### How many units are led -/

/-- How many units an account leads. -/
def led (leaderOf : U → AccountId) (r : Roster AccountId U) (a : AccountId) : ℕ :=
  r.units.count fun u => leaderOf u = a

theorem led_eq_zero (h : ∀ i u, r.units.get i = some u → leaderOf u ≠ a) : r.led leaderOf a = 0 :=
  StorageMap.count_eq_zero h

/-- A unit under a number that is free is one more for its leader. -/
theorem led_form (h : r.units.get r.nextId = none) :
    (r.form (leaderOf u) u).led leaderOf a =
      r.led leaderOf a + if leaderOf u = a then 1 else 0 :=
  StorageMap.count_insert_new h

/-- A unit in the place of another is one less for the leader of that. -/
theorem led_form_of_get {v : U} (h : r.units.get r.nextId = some v) :
    (r.form (leaderOf u) u).led leaderOf a + (if leaderOf v = a then 1 else 0) =
      r.led leaderOf a + if leaderOf u = a then 1 else 0 :=
  StorageMap.count_insert h u

/-- After `n` units the counter is at `n` or at the end of its range, and no unit is under a number
from `n` on. -/
structure Numbered (n : ℕ) (r : Roster AccountId U) : Prop where
  nextId : r.nextId = min n u32Max
  below : ∀ i u, r.units.get i = some u → i < n

omit [DecidableEq AccountId] in
theorem numbered_empty : Numbered 0 (⟨∅, ∅, 0⟩ : Roster AccountId U) where
  nextId := rfl
  below i u h := by simp at h

theorem Numbered.form {n : ℕ} (h : r.Numbered n) : (r.form a u).Numbered (n + 1) := by
  have hnext := h.nextId
  constructor
  · rw [form_nextId, hnext, saturatingAdd_min]
  · intro i v hi
    rw [form_units] at hi
    rcases StorageMap.get_insert_cases hi with ⟨rfl, -⟩ | ⟨-, hold⟩
    · omega
    · exact (h.below i v hold).trans (Nat.lt_succ_self n)

omit [DecidableEq AccountId] in
/-- The next number is free for each of the first `2 ^ 32` units. -/
theorem Numbered.free {n : ℕ} (h : r.Numbered n) (hn : n < 2 ^ 32) :
    r.units.get r.nextId = none := by
  have hnext := h.nextId
  unfold u32Max at hnext
  rw [← StorageMap.notMem_keys, StorageMap.mem_keys]
  rintro ⟨u, hu⟩
  have hlt := h.below _ u hu
  omega

end Roster

/-! ### Parts -/

section Parts

variable {P : Type} {parts : U → List P} {units : StorageMap ℕ U} {n : ℕ} {u v : U}

/-- No part is in two units. -/
def Exclusive (parts : U → List P) (units : StorageMap ℕ U) : Prop :=
  ∀ i j u v, units.get i = some u → units.get j = some v →
    ∀ p ∈ parts u, p ∈ parts v → i = j

/-- No part of a list is in a unit, other than the one with a number. -/
def Unassigned (parts : U → List P) (units : StorageMap ℕ U) (n : ℕ) (l : List P) : Prop :=
  ∀ p ∈ l, ∀ i v, units.get i = some v → p ∈ parts v → i = n

theorem exclusive_empty (parts : U → List P) : Exclusive parts ∅ := by
  intro i j u v hi
  simp at hi

/-- **A new unit keeps the parts exclusive just if its parts are in no other unit.** -/
theorem exclusive_insert_iff (h : Exclusive parts units) :
    Exclusive parts (units.insert n u) ↔ Unassigned parts units n (parts u) := by
  constructor
  · intro h' p hp i v hv hpv
    by_contra hne
    have hget : (units.insert n u).get i = some v := (StorageMap.get_insert_of_ne hne).trans hv
    exact hne (h' i n v u hget StorageMap.get_insert_self p hpv hp)
  · intro hfree i j v w hi hj p hpv hpw
    rcases StorageMap.get_insert_cases hi with ⟨rfl, rfl⟩ | ⟨-, holdi⟩
    · rcases StorageMap.get_insert_cases hj with ⟨rfl, -⟩ | ⟨-, holdj⟩
      · rfl
      · exact (hfree p hpv j w holdj hpw).symm
    · rcases StorageMap.get_insert_cases hj with ⟨rfl, rfl⟩ | ⟨-, holdj⟩
      · exact hfree p hpw i v holdi hpv
      · exact h i j v w holdi holdj p hpv hpw

/-- A unit that loses parts keeps the parts exclusive. -/
theorem Exclusive.shrink (h : Exclusive parts units) (hn : units.get n = some u)
    (hv : ∀ p ∈ parts v, p ∈ parts u) : Exclusive parts (units.insert n v) := by
  rw [exclusive_insert_iff h]
  intro p hp i w hw hpw
  exact h i n w u hw hn p hpw (hv p hp)

end Parts

/-! ### How many parts -/

section Together

variable {parts : U → List ℕ} {units : StorageMap ℕ U} {s : Finset ℕ} {k : ℕ}

/-- The parts of a numbered unit. -/
def partsOf (parts : U → List ℕ) (units : StorageMap ℕ U) (i : ℕ) : Finset ℕ :=
  ((units.get i).map fun u => (parts u).toFinset).getD ∅

/-- The parts of several units. -/
def together (parts : U → List ℕ) (units : StorageMap ℕ U) (s : Finset ℕ) : Finset ℕ :=
  s.biUnion (partsOf parts units)

theorem partsOf_of_get {i : ℕ} {u : U} (h : units.get i = some u) :
    partsOf parts units i = (parts u).toFinset := by
  unfold partsOf
  rw [h]
  rfl

theorem mem_together {p : ℕ} :
    p ∈ together parts units s ↔ ∃ i ∈ s, ∃ u, units.get i = some u ∧ p ∈ parts u := by
  unfold together partsOf
  rw [Finset.mem_biUnion]
  refine exists_congr fun i => and_congr_right fun _ => ?_
  cases units.get i with
  | none => simp
  | some u => simp

/-- **Units of `k` different parts each, none of them shared, have `k` times as many parts as there
are units.** -/
theorem card_together (h : Exclusive parts units)
    (hs : ∀ i ∈ s, ∃ u, units.get i = some u ∧ (parts u).Nodup ∧ (parts u).length = k) :
    (together parts units s).card = k * s.card := by
  unfold together
  have hdisjoint : (s : Set ℕ).PairwiseDisjoint (partsOf parts units) := by
    intro i hi j hj hne
    obtain ⟨u, hu, -, -⟩ := hs i hi
    obtain ⟨v, hv, -, -⟩ := hs j hj
    rw [Function.onFun, partsOf_of_get hu, partsOf_of_get hv, Finset.disjoint_left]
    intro p hpu hpv
    rw [List.mem_toFinset] at hpu hpv
    exact hne (h i j u v hu hv p hpu hpv)
  have hcard : ∀ i ∈ s, (partsOf parts units i).card = k := by
    intro i hi
    obtain ⟨u, hu, hnodup, hlength⟩ := hs i hi
    rw [partsOf_of_get hu, List.toFinset_card_of_nodup hnodup, hlength]
  calc (s.biUnion (partsOf parts units)).card
      = ∑ i ∈ s, (partsOf parts units i).card := Finset.card_biUnion hdisjoint
    _ = k * s.card := by
      rw [Finset.sum_congr rfl hcard, Finset.sum_const, Nat.nsmul_eq_mul, Nat.mul_comm]

end Together
