import Altan.Foundation.Accounting
import Altan.Foundation.Arithmetic
import Altan.Foundation.StorageMap

/-!
# Registers of records that are closed once

A register numbers its records: a new one is opened under the next identifier, and an open record
is closed once, with its terms kept. The counter of identifiers clips at the end of its range; as
long as it has not reached it, no record is ever written over.

## Main definitions

* `Register R`: records under identifiers, and the next identifier
* `Register.Event`, `Register.Changed`: what a step does to a register
* `Register.Fresh`: no identifier from the next one on is in use
* `Register.Kept`: the records are still there with their terms
* `Register.closed`: whether the record of an identifier is closed, as a number

## Main results

* `Register.Changed.fresh`, `Register.Changed.kept`, `Register.Changed.closed`: what one step does
* `Register.run_register`: in a run that opens few enough records they are all kept, and each is
  closed at most once
-/

open Bounded TransitionSystem

/-- Records under identifiers, and the next identifier. -/
structure Register (R : Type) where
  records : StorageMap ℕ R
  next : ℕ

namespace Register

/-- What a step does to a register. -/
inductive Event
  | unchanged
  | opening
  | closing (id : ℕ)
  deriving DecidableEq, Repr

variable {R T : Type}

/-- A register before and after an event. A record has terms, and is open or closed. -/
def Changed (max : ℕ) (terms : R → T) (isOpen : R → Bool) (r r' : Register R) : Event → Prop
  | .unchanged => r' = r
  | .opening => ∃ record, isOpen record = true ∧
      r' = { records := r.records.insert r.next record
             next := saturatingAdd max r.next 1 }
  | .closing id => ∃ record record', r.records.get id = some record ∧ isOpen record = true ∧
      terms record' = terms record ∧ isOpen record' = false ∧
        r' = { r with records := r.records.insert id record' }

/-- No identifier from the next one on is in use. -/
def Fresh (r : Register R) : Prop := ∀ id, r.next ≤ id → r.records.get id = none

/-- The records of `r` are still there in `r'`, with their terms. -/
def Kept (terms : R → T) (r r' : Register R) : Prop :=
  ∀ id record, r.records.get id = some record →
    ∃ record', r'.records.get id = some record' ∧ terms record' = terms record

/-- One if the record of an identifier is closed, else zero. -/
def closed (isOpen : R → Bool) (r : Register R) (id : ℕ) : ℕ :=
  r.records.contribution (fun _ record => if isOpen record = true then 0 else 1) id

variable {max : ℕ} {terms : R → T} {isOpen : R → Bool} {r r' : Register R} {event : Event}

theorem closed_le_one (isOpen : R → Bool) (r : Register R) (id : ℕ) : r.closed isOpen id ≤ 1 := by
  unfold closed StorageMap.contribution
  cases r.records.get id with
  | none => exact Nat.zero_le 1
  | some record =>
    show (if isOpen record = true then 0 else 1) ≤ 1
    split
    · exact Nat.zero_le 1
    · exact Nat.le_refl 1

theorem closed_of_get {id : ℕ} {record : R} (h : r.records.get id = some record) :
    r.closed isOpen id = if isOpen record = true then 0 else 1 :=
  StorageMap.contribution_of_get _ h

theorem closed_of_none {id : ℕ} (h : r.records.get id = none) : r.closed isOpen id = 0 :=
  StorageMap.contribution_of_none _ h

theorem Kept.refl (r : Register R) : Kept terms r r := fun _ record h => ⟨record, h, rfl⟩

theorem Kept.trans {r₁ r₂ r₃ : Register R} (h : Kept terms r₁ r₂) (h' : Kept terms r₂ r₃) :
    Kept terms r₁ r₃ := by
  intro id record hrecord
  obtain ⟨record₂, h₂, ht₂⟩ := h id record hrecord
  obtain ⟨record₃, h₃, ht₃⟩ := h' id record₂ h₂
  exact ⟨record₃, h₃, ht₃.trans ht₂⟩

/-- A new record leaves the identifiers after it free. -/
theorem Fresh.insert_next (hf : r.Fresh) (hroom : r.next < max) (record : R) :
    Fresh { records := r.records.insert r.next record, next := saturatingAdd max r.next 1 } := by
  intro id hid
  have hlt : r.next < id := by
    rw [saturatingAdd_one_of_lt hroom] at hid
    exact hid
  exact (StorageMap.get_insert_of_ne (Nat.ne_of_gt hlt)).trans (hf id hlt.le)

/-- A record that is there is under an identifier in use. -/
theorem Fresh.insert_of_get (hf : r.Fresh) {id : ℕ} {record : R}
    (h : r.records.get id = some record) (record' : R) :
    Fresh { r with records := r.records.insert id record' } := by
  intro id' hid'
  have hne : id' ≠ id := by
    rintro rfl
    have hfree := hf id' hid'
    rw [h] at hfree
    cases hfree
  exact (StorageMap.get_insert_of_ne hne).trans (hf id' hid')

namespace Changed

/-- Only an opening advances the counter, by one. -/
theorem next_le (h : Changed max terms isOpen r r' event) :
    r'.next ≤ r.next + if event = .opening then 1 else 0 := by
  cases event with
  | unchanged => exact (congrArg next h).le
  | opening =>
    obtain ⟨record, -, rfl⟩ := h
    exact saturatingAdd_le_add
  | closing id =>
    obtain ⟨record, record', -, -, -, -, rfl⟩ := h
    exact Nat.le_refl _

/-- The identifiers from the next one on stay free. -/
theorem fresh (h : Changed max terms isOpen r r' event) (hf : r.Fresh)
    (hroom : event = .opening → r.next < max) : r'.Fresh := by
  cases event with
  | unchanged =>
    rw [show r' = r from h]
    exact hf
  | opening =>
    obtain ⟨record, -, rfl⟩ := h
    exact hf.insert_next (hroom rfl) record
  | closing id =>
    obtain ⟨record, record', hrecord, -, -, -, rfl⟩ := h
    exact hf.insert_of_get hrecord record'

/-- A record keeps its terms, unless another one is opened under its identifier. -/
theorem kept_at (h : Changed max terms isOpen r r' event) {id : ℕ} {record : R}
    (hrecord : r.records.get id = some record) (hne : event = .opening → r.next ≠ id) :
    ∃ record', r'.records.get id = some record' ∧ terms record' = terms record := by
  cases event with
  | unchanged =>
    rw [show r' = r from h]
    exact ⟨record, hrecord, rfl⟩
  | opening =>
    obtain ⟨record₁, -, rfl⟩ := h
    exact ⟨record, (StorageMap.get_insert_of_ne (Ne.symm (hne rfl))).trans hrecord, rfl⟩
  | closing id' =>
    obtain ⟨record₁, record', hrecord₁, -, hterms, -, rfl⟩ := h
    by_cases hid : id = id'
    · rw [← hid, hrecord] at hrecord₁
      rw [hid, Option.some.inj hrecord₁]
      exact ⟨record', StorageMap.get_insert_self, hterms⟩
    · exact ⟨record, (StorageMap.get_insert_of_ne hid).trans hrecord, rfl⟩

/-- The records keep their terms. -/
theorem kept (h : Changed max terms isOpen r r' event) (hf : r.Fresh) : Kept terms r r' := by
  intro id record hrecord
  refine h.kept_at hrecord fun _ hnext => ?_
  -- a new record is under a free identifier
  rw [hf id hnext.le] at hrecord
  cases hrecord

/-- **One closing at a time.** A step closes the record it names and no other. -/
theorem closed (h : Changed max terms isOpen r r' event) (hf : r.Fresh) (id : ℕ) :
    r'.closed isOpen id = r.closed isOpen id + if event = .closing id then 1 else 0 := by
  cases event with
  | unchanged =>
    rw [show r' = r from h]
    rfl
  | opening =>
    obtain ⟨record, hopen, rfl⟩ := h
    rw [if_neg (by simp), Nat.add_zero]
    by_cases hid : id = r.next
    -- a fresh record is open
    · rw [hid, closed_of_none (hf r.next (Nat.le_refl _))]
      refine (closed_of_get StorageMap.get_insert_self).trans ?_
      rw [if_pos hopen]
    · unfold Register.closed StorageMap.contribution
      rw [StorageMap.get_insert_of_ne hid]
  | closing id' =>
    obtain ⟨record, record', hrecord, hopen, -, hclosed, rfl⟩ := h
    by_cases hid : id = id'
    · rw [hid, if_pos rfl, closed_of_get hrecord, if_pos hopen]
      refine (closed_of_get StorageMap.get_insert_self).trans ?_
      rw [hclosed]
      rfl
    · have hne : Event.closing id' ≠ Event.closing id := fun he => hid (Event.closing.inj he).symm
      rw [if_neg hne, Nat.add_zero]
      unfold Register.closed StorageMap.contribution
      rw [StorageMap.get_insert_of_ne hid]

end Changed

section Runs

variable {σ ι ε : Type} {step : ι → σ → Except ε σ} {register : σ → Register R}
  {event : ι → Event} {is js : List ι} {s : σ}

/-- An opening finds an identifier left. -/
def HasRoom (max : ℕ) (register : σ → Register R) (event : ι → Event) (s : σ) (i : ι) : Prop :=
  event i = .opening → (register s).next < max

variable (hstep : ∀ i s s', step i s = .ok s' →
  Changed max terms isOpen (register s) (register s') (event i))

include hstep

theorem along_hasRoom
    (h : (register s).next + accepted step (fun i => event i = .opening) is s ≤ max) :
    Along step (HasRoom max register event) is s :=
  along_of_accepted_le (c := fun s => (register s).next)
    (fun i s s' h => (hstep i s s' h).next_le) h

theorem fresh_run (hfresh : (register s).Fresh)
    (hroom : Along step (HasRoom max register event) is s) :
    (register (run step is s)).Fresh := by
  refine run_of_along (P := fun t => (register t).Fresh) ?_ hfresh hroom
  intro i t t' hf hq h
  exact (hstep i t t' h).fresh hf hq

theorem kept_run (hfresh : (register s).Fresh)
    (hroom : Along step (HasRoom max register event) is s) :
    Kept terms (register s) (register (run step is s)) := by
  have hkept : (register (run step is s)).Fresh ∧
      Kept terms (register s) (register (run step is s)) := by
    refine run_of_along (P := fun t => (register t).Fresh ∧
      Kept terms (register s) (register t)) ?_ ⟨hfresh, Kept.refl _⟩ hroom
    rintro i t t' ⟨hf, hk⟩ hq h
    have hchanged := hstep i t t' h
    exact ⟨hchanged.fresh hf hq, hk.trans (hchanged.kept hf)⟩
  exact hkept.2

/-- Every accepted closing is counted once, and nothing is taken off the count. -/
theorem closed_run (hfresh : (register s).Fresh)
    (hroom : Along step (HasRoom max register event) is s) (id : ℕ) :
    (register (run step is s)).closed isOpen id =
      (register s).closed isOpen id + accepted step (fun i => event i = .closing id) is s := by
  rw [accepted_eq_tally]
  refine tally_credit (P := fun t => (register t).Fresh)
    (fun t => (register t).closed isOpen id)
    (fun _ i => if event i = .closing id then 1 else 0) ?_ ?_ hfresh hroom
  · intro i t t' hf hq h
    exact (hstep i t t' h).fresh hf hq
  · intro i t t' hf _ h
    exact (hstep i t t' h).closed hf id

/-- **Closed once.** In a run that opens no more records than there are identifiers, every record
is kept from when it is opened, and closed at most once. -/
theorem run_register (hfresh : (register s).Fresh)
    (hroom : (register s).next + accepted step (fun i => event i = .opening) (is ++ js) s ≤ max) :
    Kept terms (register (run step is s)) (register (run step (is ++ js) s)) ∧
      ∀ id, accepted step (fun i => event i = .closing id) (is ++ js) s ≤ 1 := by
  have halong := along_hasRoom hstep hroom
  obtain ⟨hfirst, hsecond⟩ := along_append.mp halong
  refine ⟨?_, fun id => ?_⟩
  · rw [run_append]
    exact kept_run hstep (fresh_run hstep hfresh hfirst) hsecond
  · have hcount := closed_run hstep hfresh halong id
    have hle := closed_le_one isOpen (register (run step (is ++ js) s)) id
    omega

end Runs

end Register
