import Altan.Foundation.Accounting
import Altan.Foundation.StorageMap

/-!
# Keys that are used once

A key is absent until it is opened, active until it is spent, and spent for good only if no input
opens it a second time. In any system whose inputs open and spend keys, the runs in which spent
keys stay spent are those that open absent keys only. A set of marks, of which each input may take
one that is free, grows by one with every input that takes one.

## Main definitions

* `Phase`: absent, active or spent
* `Phase.Turned`: the phases before and after an input that spends and opens keys
* `Phase.OpensAbsent`: the input opens an absent key, if any
* `Marked`: the marks before and after an input that may take one

## Main results

* `Phase.spent_run`: a key is spent as often as an input spends it
* `Phase.rank_le_run`: phases only move forward
* `Phase.final_iff`: the runs in which spent keys are never active again
* `Marked.card_run`, `Marked.accepted_le_one`: as many marks as inputs that take one, each at
  most once
-/

open TransitionSystem

/-- How far a key has come. -/
inductive Phase
  | absent
  | active
  | spent
  deriving DecidableEq, Repr

namespace Phase

variable {κ : Type} {p p' : κ → Phase} {spends opens : Option κ} {k : κ}

/-- The order in which a key passes its phases. -/
def rank : Phase → ℕ
  | absent => 0
  | active => 1
  | spent => 2

/-- One if the key is spent, else zero. -/
def spentMark (q : Phase) : ℕ := if q = spent then 1 else 0

/-- The phases before and after an input that spends one key and opens one. A key that is spent
was active; one that is opened was not, unless the same input spends it. -/
structure Turned (p p' : κ → Phase) (spends opens : Option κ) : Prop where
  active : ∀ k, spends = some k → p k = .active
  inactive : ∀ k, opens = some k → spends ≠ some k → p k ≠ .active
  spent : ∀ k, spends = some k → opens ≠ some k → p' k = .spent
  opened : ∀ k, opens = some k → p' k = .active
  others : ∀ k, spends ≠ some k → opens ≠ some k → p' k = p k

namespace Turned

/-- An input that neither spends nor opens a key. -/
theorem unchanged (h : ∀ k, p' k = p k) : Turned p p' none none where
  active k hk := by cases hk
  inactive k hk := by cases hk
  spent k hk := by cases hk
  opened k hk := by cases hk
  others k _ _ := h k

/-- An input that opens an inactive key. -/
theorem opening (hk : p k ≠ .active) (hk' : p' k = .active) (h : ∀ j, j ≠ k → p' j = p j) :
    Turned p p' none (some k) where
  active j hj := by cases hj
  inactive j hj _ := Option.some.inj hj ▸ hk
  spent j hj := by cases hj
  opened j hj := Option.some.inj hj ▸ hk'
  others j _ hj := h j fun he => hj (congrArg some he.symm)

/-- An input that spends an active key. -/
theorem spending (hk : p k = .active) (hk' : p' k = .spent) (h : ∀ j, j ≠ k → p' j = p j) :
    Turned p p' (some k) none where
  active j hj := Option.some.inj hj ▸ hk
  inactive j hj := by cases hj
  spent j hj _ := Option.some.inj hj ▸ hk'
  opened j hj := by cases hj
  others j hj _ := h j fun he => hj (congrArg some he.symm)

/-- An input that opens absent keys only does not open the key it spends. -/
theorem opens_ne (h : Turned p p' spends opens) (habsent : ∀ k, opens = some k → p k = absent)
    (hk : spends = some k) : opens ≠ some k := by
  intro hopen
  have hactive := h.active k hk
  rw [habsent k hopen] at hactive
  cases hactive

theorem spentMark_eq [DecidableEq κ] (h : Turned p p' spends opens)
    (habsent : ∀ k, opens = some k → p k = absent) (k : κ) :
    spentMark (p' k) = spentMark (p k) + if spends = some k then 1 else 0 := by
  by_cases hspend : spends = some k
  · rw [if_pos hspend, h.active k hspend, h.spent k hspend (h.opens_ne habsent hspend)]
    rfl
  · rw [if_neg hspend, Nat.add_zero]
    by_cases hopen : opens = some k
    · rw [h.opened k hopen, habsent k hopen]
      rfl
    · rw [h.others k hspend hopen]

theorem rank_le (h : Turned p p' spends opens) (habsent : ∀ k, opens = some k → p k = absent)
    (k : κ) : rank (p k) ≤ rank (p' k) := by
  by_cases hspend : spends = some k
  · rw [h.active k hspend, h.spent k hspend (h.opens_ne habsent hspend)]
    exact Nat.le_succ 1
  · by_cases hopen : opens = some k
    · rw [h.opened k hopen, habsent k hopen]
      exact Nat.zero_le _
    · rw [h.others k hspend hopen]

/-- A phase moves forward by one at most. -/
theorem rank_le_succ (h : Turned p p' spends opens) (habsent : ∀ k, opens = some k → p k = absent)
    (k : κ) : rank (p' k) ≤ rank (p k) + 1 := by
  by_cases hspend : spends = some k
  · rw [h.active k hspend, h.spent k hspend (h.opens_ne habsent hspend)]
    exact Nat.le_refl 2
  · by_cases hopen : opens = some k
    · rw [h.opened k hopen, habsent k hopen]
      exact Nat.le_refl 1
    · rw [h.others k hspend hopen]
      exact Nat.le_succ _

end Turned

section Runs

variable {σ ι ε : Type} [DecidableEq κ] {step : ι → σ → Except ε σ}

/-- The key an input opens, if any, is absent. -/
def OpensAbsent (phase : σ → κ → Phase) (opens : ι → Option κ) (s : σ) (i : ι) : Prop :=
  ∀ k, opens i = some k → phase s k = absent

instance (phase : σ → κ → Phase) (opens : ι → Option κ) (s : σ) (i : ι) :
    Decidable (OpensAbsent phase opens s i) :=
  match h : opens i with
  | some k => decidable_of_iff (phase s k = absent)
      ⟨fun hk k' hk' => Option.some.inj (h ▸ hk') ▸ hk, fun hk => hk k h⟩
  | none => isTrue fun k hk => by rw [h] at hk; cases hk

variable {phase : σ → κ → Phase} {spends opens : ι → Option κ}
  (hturn : ∀ i s s', step i s = .ok s' → Turned (phase s) (phase s') (spends i) (opens i))
include hturn

/-- **Spent as often as an input spends it.** -/
theorem spent_run {is : List ι} {s : σ} (h : Along step (OpensAbsent phase opens) is s) (k : κ) :
    spentMark (phase (run step is s) k) =
      spentMark (phase s k) + accepted step (fun i => spends i = some k) is s := by
  rw [accepted_eq_tally]
  refine tally_credit (P := fun _ => True) (fun s => spentMark (phase s k)) _
    (fun _ _ _ _ _ _ => trivial) ?_ trivial h
  intro i s s' _ habsent hs
  exact (hturn i s s' hs).spentMark_eq habsent k

omit [DecidableEq κ] in
/-- **Phases only move forward.** -/
theorem rank_le_run {is : List ι} {s : σ} (h : Along step (OpensAbsent phase opens) is s) (k : κ) :
    rank (phase s k) ≤ rank (phase (run step is s) k) := by
  refine run_of_along (P := fun s' => rank (phase s k) ≤ rank (phase s' k)) ?_ (Nat.le_refl _) h
  intro i s₁ s₂ hle habsent hs
  exact hle.trans ((hturn i s₁ s₂ hs).rank_le habsent k)

/-- From a state where every key is absent, a run that opens absent keys only spends each at most
once, and the spent ones are those it has spent. -/
theorem accepted_spends {is : List ι} {s : σ} (hs : ∀ k, phase s k = absent)
    (h : Along step (OpensAbsent phase opens) is s) (k : κ) :
    accepted step (fun i => spends i = some k) is s = spentMark (phase (run step is s) k) := by
  rw [spent_run hturn h k, hs k]
  exact (Nat.zero_add _).symm

theorem accepted_spends_le_one {is : List ι} {s : σ} (hs : ∀ k, phase s k = absent)
    (h : Along step (OpensAbsent phase opens) is s) (k : κ) :
    accepted step (fun i => spends i = some k) is s ≤ 1 := by
  rw [accepted_spends hturn hs h k, spentMark]
  split
  · exact Nat.le_refl 1
  · exact Nat.zero_le 1

/-- **Finality.** From a state where every key is absent, a key that has been spent is never active
again in exactly the runs that open absent keys only. -/
theorem final_iff {is : List ι} {s : σ} (hs : ∀ k, phase s k = absent) :
    (∀ js, js <+: is → ∀ k, 0 < accepted step (fun i => spends i = some k) js s →
      phase (run step js s) k ≠ active) ↔ Along step (OpensAbsent phase opens) is s := by
  refine initial_iff_along (fun k h => absurd h (Nat.lt_irrefl 0)) ?_ ?_
  · intro js i s' hjs _ hstep
    have hrun : run step (js ++ [i]) s = s' := by
      rw [run_append, run_cons, exec_ok hstep, run_nil]
    have hcount : ∀ k, accepted step (fun i => spends i = some k) (js ++ [i]) s =
        spentMark (phase (run step js s) k) + if spends i = some k then 1 else 0 := by
      intro k
      rw [accepted_append, accepted_spends hturn hs hjs k, accepted_cons_ok hstep]
      rfl
    have hlast := hturn i _ s' hstep
    rw [hrun]
    constructor
    -- a key opened now is active, so it has not been spent before, nor by this input
    · intro hfinal k hopen
      have hzero : ¬ 0 < spentMark (phase (run step js s) k) + if spends i = some k then 1 else 0 :=
        fun hpos => hfinal k (hcount k ▸ hpos) (hlast.opened k hopen)
      have hspend : spends i ≠ some k := fun hk => by simp [hk] at hzero
      have hinactive := hlast.inactive k hopen hspend
      cases hphase : phase (run step js s) k with
      | absent => rfl
      | active => exact absurd hphase hinactive
      | spent => simp [hphase, spentMark] at hzero
    -- a key spent so far is spent now
    · intro habsent k hpos hactive
      have hmark := hlast.spentMark_eq habsent k
      rw [← hcount k, hactive] at hmark
      rw [← hmark] at hpos
      exact Nat.lt_irrefl 0 hpos
  · intro js i e hjs hstep k hpos
    rw [run_append, run_cons, exec_error hstep, run_nil]
    rw [accepted_append, accepted_cons_error hstep] at hpos
    exact hjs k hpos

end Runs

end Phase

/-! ### Marks -/

section Marks

variable {κ ν : Type} [DecidableEq κ]

/-- The marks before and after an input that may take one: a mark that is taken was free. -/
def Marked (m m' : StorageMap κ ν) : Option κ → Prop
  | some k => m.get k = none ∧ ∃ v, m' = m.insert k v
  | none => m' = m

namespace Marked

variable {σ ι ε : Type} {step : ι → σ → Except ε σ} {marks : σ → StorageMap κ ν}
  {takes : ι → Option κ}

theorem card {m m' : StorageMap κ ν} {o : Option κ} (h : Marked m m' o) :
    m'.keys.card = m.keys.card + if o.isSome = true then 1 else 0 := by
  cases o with
  | none => exact congrArg (fun m => m.keys.card) h
  | some k =>
    obtain ⟨hfree, v, rfl⟩ := h
    exact StorageMap.card_keys_insert hfree

/-- A mark that is taken stays taken. -/
theorem get_ne_none {m m' : StorageMap κ ν} {o : Option κ} {k : κ} (h : Marked m m' o)
    (hk : m.get k ≠ none) : m'.get k ≠ none := by
  cases o with
  | none => rwa [show m' = m from h]
  | some k' =>
    obtain ⟨hfree, v, rfl⟩ := h
    have hne : k ≠ k' := by
      rintro rfl
      exact hk hfree
    rwa [StorageMap.get_insert_of_ne hne]

variable (hmark : ∀ i s s', step i s = .ok s' → Marked (marks s) (marks s') (takes i))
include hmark

/-- There are as many marks as inputs that took one. -/
theorem card_run (is : List ι) (s : σ) :
    (marks (run step is s)).keys.card =
      (marks s).keys.card + accepted step (fun i => (takes i).isSome = true) is s := by
  rw [accepted_eq_tally]
  refine tally_credit (P := fun _ => True) (fun s => (marks s).keys.card) _
    (fun _ _ _ _ _ _ => trivial) ?_ trivial (along_true is s)
  intro i s s' _ _ hs
  exact (hmark i s s' hs).card

/-- No mark is taken twice. -/
theorem accepted_le_one (is : List ι) (s : σ) (k : κ) :
    accepted step (fun i => takes i = some k) is s ≤ 1 := by
  -- the mark is the token: it is free before, and taken after
  have hfree : ∀ i s s', takes i = some k → step i s = .ok s' → (marks s).get k = none := by
    intro i s s' htake hs
    have hm := hmark i s s' hs
    rw [htake] at hm
    exact hm.1
  have htaken : ∀ i s s', takes i = some k → step i s = .ok s' →
      ¬ (marks s').get k = none := by
    intro i s s' htake hs
    have hm := hmark i s s' hs
    rw [htake] at hm
    obtain ⟨-, v, hm⟩ := hm
    rw [hm, StorageMap.get_insert_self]
    exact Option.some_ne_none v
  exact TransitionSystem.accepted_le_one hfree htaken
    (fun i s s' hk hs => (hmark i s s' hs).get_ne_none hk) is s

end Marked

end Marks
