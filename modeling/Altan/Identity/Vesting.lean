import Altan.Identity.Spec

/-!
# The vesting of citizens

A citizen vests by being verified, by coming into an Arbad and by leading a Zun. An Arbad and a Zun
raise the level and never lower it. A verification writes its level whatever the citizen had, and
one who was taken into an Arbad may be verified afterwards.

## Main definitions

* `CitizenRecord.vestingRank`, `vesting`: how far a citizen has vested
* `NotYetVested`: who is verified has no more than what the verification gives

## Main results

* `vesting_ascends_iff`: vesting never goes down in exactly the runs that verify nobody who has
  vested further
-/

open Bounded Dispatch Ledger TransitionSystem Runtime

namespace Identity

variable {AccountId L : Type}

/-- How far a citizen has vested. -/
def CitizenRecord.vestingRank (r : CitizenRecord) : ℕ :=
  match r.vestingLevel with
  | none => 0
  | some level => level.rank + 1

theorem vestingRank_le_advanceVesting (level : VestingLevel) (r : CitizenRecord) :
    r.vestingRank ≤ (r.advanceVesting level).vestingRank := by
  unfold CitizenRecord.vestingRank CitizenRecord.advanceVesting
  cases hlevel : r.vestingLevel with
  | none => exact Nat.zero_le _
  | some current =>
    by_cases hlt : current < level
    · simp only [decide_eq_true hlt, if_true]
      exact Nat.succ_le_succ (Nat.le_of_lt hlt)
    · simp [hlt, hlevel]

section Levels

variable [DecidableEq AccountId] {citizens : StorageMap AccountId CitizenRecord}
  {a who : AccountId} {r : CitizenRecord}

/-- How far an account has vested; not at all unless registered. -/
def vesting (citizens : StorageMap AccountId CitizenRecord) (a : AccountId) : ℕ :=
  ((citizens.get a).map CitizenRecord.vestingRank).getD 0

theorem vesting_of_get (h : citizens.get a = some r) : vesting citizens a = r.vestingRank := by
  unfold vesting
  rw [h]
  rfl

theorem vesting_of_none (h : citizens.get a = none) : vesting citizens a = 0 := by
  unfold vesting
  rw [h]
  rfl

theorem vesting_insert (r : CitizenRecord) :
    vesting (citizens.insert who r) = Function.update (vesting citizens) who r.vestingRank := by
  ext a
  unfold vesting
  rw [StorageMap.get_insert, Function.update_apply]
  split <;> rfl

/-- A record that is written keeps everybody's vesting just if it keeps that of its citizen. -/
theorem vesting_le_insert_iff :
    vesting citizens ≤ vesting (citizens.insert who r) ↔ vesting citizens who ≤ r.vestingRank := by
  rw [vesting_insert, le_update_iff]
  exact and_iff_left fun _ _ => Nat.le_refl _

theorem vesting_le_modify {f : CitizenRecord → CitizenRecord}
    (hf : ∀ r, r.vestingRank ≤ (f r).vestingRank) :
    vesting citizens ≤ vesting (citizens.modify who f) := by
  cases h : citizens.get who with
  | none => rw [StorageMap.modify_of_none h]
  | some r =>
    rw [StorageMap.modify_of_get h, vesting_le_insert_iff, vesting_of_get h]
    exact hf r

/-- An Arbad lets nobody down. -/
theorem vesting_le_enrol (now : ℕ) (leader : AccountId) (members : List AccountId)
    (citizens : StorageMap AccountId CitizenRecord) :
    vesting citizens ≤ vesting (enrol now leader members citizens) := by
  unfold enrol
  -- the leader first, and then one member after the other
  apply le_trans (vesting_le_modify fun r => vestingRank_le_advanceVesting _ (r.inOffice _ _ _))
  generalize citizens.modify leader _ = led
  induction members generalizing led with
  | nil => exact le_refl _
  | cons m members ih =>
    exact (vesting_le_modify (vestingRank_le_advanceVesting _)).trans (ih _)

/-- Nobody is verified who has vested further than a verification lets him. -/
def NotYetVested (c : Civics AccountId) : Deed AccountId → Prop
  | .verification who => vesting c.citizens who ≤ 1
  | _ => True

instance (c : Civics AccountId) : (d : Deed AccountId) → Decidable (NotYetVested c d)
  | .verification who => inferInstanceAs (Decidable (vesting c.citizens who ≤ 1))
  | .registration .. | .birth .. | .appointment .. | .arbad .. | .zun .. | .myangad ..
  | .tumed .. | .khural .. | .confederation .. | .leave .. | .other => isTrue trivial

/-- **A deed lets nobody down just if it verifies nobody who has vested further.** -/
theorem vesting_le_effect_iff {period now : ℕ} {d : Deed AccountId} {c c' : Civics AccountId}
    (h : Effect period now d c c') :
    vesting c.citizens ≤ vesting c'.citizens ↔ NotYetVested c d := by
  have hkeep : ∀ {who : AccountId} {r r' : CitizenRecord}, c.citizens.get who = some r →
      r'.vestingLevel = r.vestingLevel →
        vesting c.citizens ≤ vesting (c.citizens.insert who r') := by
    intro who r r' hget hlevel
    rw [vesting_le_insert_iff, vesting_of_get hget]
    unfold CitizenRecord.vestingRank
    rw [hlevel]
  cases h with
  | registration hnew =>
    refine iff_of_true (vesting_le_insert_iff.mpr ?_) trivial
    exact (vesting_of_none hnew).trans_le (Nat.zero_le _)
  | birth hnew =>
    refine iff_of_true (vesting_le_insert_iff.mpr ?_) trivial
    exact (vesting_of_none hnew).trans_le (Nat.zero_le _)
  | verification => exact vesting_le_insert_iff
  | appointment hget => exact iff_of_true (hkeep hget rfl) trivial
  | arbad => exact iff_of_true (vesting_le_enrol _ _ _ _) trivial
  | zun =>
    refine iff_of_true (vesting_le_modify fun r => ?_) trivial
    exact vestingRank_le_advanceVesting _ (r.inOffice _ _ _)
  | myangad => exact iff_of_true (vesting_le_modify fun _ => Nat.le_refl _) trivial
  | tumed => exact iff_of_true (vesting_le_modify fun _ => Nat.le_refl _) trivial
  | khural hget => exact iff_of_true (hkeep hget rfl) trivial
  | confederation hget => exact iff_of_true (hkeep hget rfl) trivial
  | leave => exact iff_of_true (le_refl _) trivial
  | amended hget hsame => exact iff_of_true (hkeep hget hsame.vestingLevel) trivial
  | kept => exact iff_of_true (le_refl _) trivial

end Levels

/-- **Vesting.** In any run, the vesting of every citizen stays or rises from each state to every
later one, just if nobody is verified who has vested further than a verification lets him. -/
theorem vesting_ascends_iff [DecidableEq AccountId] [Currency AccountId L]
    [ReservableCurrency AccountId L] {cfg : Config AccountId L} {xs : List (Input AccountId)}
    {w : World AccountId L} :
    Ascending (step cfg) (fun w w' => vesting w.citizens ≤ vesting w'.citizens) xs w ↔
      Along (step cfg) (fun w x => NotYetVested w.civics x.deed) xs w := by
  apply ascending_iff_along
  · exact fun w => le_refl (vesting w.citizens)
  · exact fun _ _ _ h h' => le_trans h h'
  · exact fun _ _ _ h => vesting_le_effect_iff (step_effect h)

/-- Two citizens are registered and one verified; he takes the other into an Arbad, and verifies
him. -/
def lateVerification : List (Input ℕ) :=
  [decree (registration 3 (.ofByte 1)), decree (registration 4 (.ofByte 2)),
    decree (.bootstrapVerifyCreator 3), signed 3 (.formArbad [4]), signed 3 (.verifyCitizen 4)]

/-- The one who is verified late comes down. -/
theorem vesting_lowered :
    ¬ Ascending (step citizens) (fun w w' => vesting w.citizens ≤ vesting w'.citizens)
      lateVerification noCitizens := by
  intro h
  have hle : (2 : ℕ) ≤ 1 := by
    have hlevel := h (lateVerification.take 4) lateVerification (List.take_prefix _ _)
      (List.prefix_refl _) 4
    have hbefore : vesting (run (step citizens) (lateVerification.take 4) noCitizens).citizens 4
        = 2 := by decide +kernel
    have hafter : vesting (run (step citizens) lateVerification noCitizens).citizens 4 = 1 := by
      decide +kernel
    rwa [hbefore, hafter] at hlevel
  exact absurd hle (by decide)

end Identity
