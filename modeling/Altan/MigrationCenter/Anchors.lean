import Altan.Runtime.Constants

/-!
# The anchors of applications

The index of hashes and the counters agree with the anchors, and the anchor of an application that
has ended stays as it is, in exactly the runs in which nobody submits a second application and the
counter of applications has room. A second application takes the place of the first, whose hash is
still registered for the applicant.

## Main definitions

* `Recorded`: the index and the counters agree with the anchors
* `Kept`: what has ended is as it was
* `SubmitsFirst`: an application is the first of its wallet

## Main results

* `step_cases`: what an accepted input does to the anchors
* `recorded_submit_iff`, `Recorded.advance`: one input
* `anchors_immutable_iff`: the runs in which anchors are immutable records
* `anchor_overwritten`: an approved application that is no longer on record
-/

open Bounded Dispatch TransitionSystem

namespace MigrationCenter

variable {AccountId : Type} [DecidableEq AccountId] {cfg : Config AccountId}
  {s s' : State AccountId} {w w' : World AccountId} {applicant : AccountId}
  {anchor anchor' : ApplicationAnchor AccountId} {applicationIdHash dataHash : Bytes32}

/-! ### What an input does -/

/-- The storage after an application is submitted. -/
def withApplication (applicant : AccountId) (applicationIdHash dataHash : Bytes32) (now : UInt32)
    (s : State AccountId) : State AccountId where
  applicationAnchors :=
    s.applicationAnchors.insert applicant (submitted applicationIdHash dataHash now)
  hashToApplicant := s.hashToApplicant.insert applicationIdHash applicant
  totalApplications := saturatingAdd u64Max s.totalApplications 1
  totalApproved := s.totalApproved

/-- The storage after an anchor is replaced, which counts if it is approved then. -/
def withAnchor (applicant : AccountId) (anchor : ApplicationAnchor AccountId)
    (s : State AccountId) : State AccountId :=
  { s with
    applicationAnchors := s.applicationAnchors.insert applicant anchor
    totalApproved := if anchor.status = .approved then saturatingAdd u64Max s.totalApproved 1
      else s.totalApproved }

/-- The storage is the same, or an application that has not ended moves on. -/
inductive Advances (s : State AccountId) : State AccountId → Prop
  | same : Advances s s
  | anchor (applicant : AccountId) (anchor anchor' : ApplicationAnchor AccountId)
    (hanchor : s.applicationAnchors.get applicant = some anchor)
    (hactive : anchor.status.isTerminal = false)
    (hhash : anchor'.applicationIdHash = anchor.applicationIdHash) :
    Advances s (withAnchor applicant anchor' s)

/-- The input submits an application that is the first of its wallet, while the counter has
room, or none. -/
def SubmitsFirst (w : World AccountId) : Input AccountId → Prop
  | .call (.signed applicant) (.submitApplication _ _) =>
    w.applicationAnchors.get applicant = none ∧ w.totalApplications < u64Max
  | _ => True

/-- **What an accepted input does**: it submits an application under a new hash for a wallet whose
former one has ended, or none. -/
theorem step_cases {i : Input AccountId} (h : step cfg i w = .ok w') :
    (∃ applicant applicationIdHash dataHash,
      i = .call (.signed applicant) (.submitApplication applicationIdHash dataHash) ∧
      w.hashToApplicant.get applicationIdHash = none ∧
      (∀ anchor, w.applicationAnchors.get applicant = some anchor →
        anchor.status.isTerminal = true) ∧
      w'.toState = withApplication applicant applicationIdHash dataHash w.now w.toState) ∨
    (SubmitsFirst w i ∧ Advances w.toState w'.toState) := by
  cases i with
  | block =>
    obtain ⟨-, rfl⟩ := step_block.mp h
    exact Or.inr ⟨trivial, .same⟩
  | call origin c =>
    obtain ⟨s, hs, rfl⟩ := step_call.mp h
    cases c with
    | submitApplication applicationIdHash dataHash =>
      obtain ⟨applicant, rfl, hnew, hended, rfl⟩ := submitApplication_eq_ok.mp hs
      exact Or.inl ⟨applicant, applicationIdHash, dataHash, rfl, hnew, hended, rfl⟩
    | claimApplication applicant officerSig =>
      obtain ⟨officer, anchor, rfl, hanchor, hstatus, -, rfl⟩ := claimApplication_eq_ok.mp hs
      refine Or.inr ⟨trivial, ?_⟩
      exact .anchor applicant anchor (anchor.claimed officer officerSig w.now) hanchor
        (hstatus ▸ rfl) rfl
    | finalizeApplication applicant approved outcomeHash =>
      obtain ⟨officer, anchor, rfl, hanchor, hstatus, -, rfl⟩ := finalizeApplication_eq_ok.mp hs
      refine Or.inr ⟨trivial, ?_⟩
      have hadvance := Advances.anchor (s := w.toState) applicant anchor
        (anchor.finalized approved outcomeHash w.now) hanchor (hstatus ▸ rfl) rfl
      cases approved with
      | true => exact hadvance
      | false => exact hadvance
    | revokeApplication applicant =>
      obtain ⟨rfl, anchor, hanchor, hactive, rfl⟩ := revokeApplication_eq_ok.mp hs
      exact Or.inr ⟨trivial, .anchor applicant anchor { anchor with status := .revoked } hanchor
        hactive rfl⟩

/-! ### The records -/

/-- The index of hashes and the counters agree with the anchors. -/
structure Recorded (s : State AccountId) : Prop where
  index : ∀ hash applicant, applicantByHash s hash = some applicant ↔
    ∃ anchor, s.applicationAnchors.get applicant = some anchor ∧ anchor.applicationIdHash = hash
  approved : s.totalApproved = s.applicationAnchors.count fun anchor => anchor.status = .approved
  applications : s.totalApplications = s.hashToApplicant.keys.card

theorem recorded_genesis : Recorded (genesis : State AccountId) where
  index hash applicant := by simp [applicantByHash, genesis]
  approved := rfl
  applications := rfl

/-- There are no more anchors than hashes. -/
theorem Recorded.card_anchors_le (h : Recorded s) :
    s.applicationAnchors.keys.card ≤ s.hashToApplicant.keys.card := by
  -- every applicant is registered for a hash
  have hsub : s.applicationAnchors.keys.image some ⊆
      s.hashToApplicant.keys.image s.hashToApplicant.get := by
    intro o ho
    obtain ⟨applicant, happlicant, rfl⟩ := Finset.mem_image.mp ho
    obtain ⟨anchor, hanchor⟩ := StorageMap.mem_keys.mp happlicant
    have hhash := (h.index anchor.applicationIdHash applicant).mpr ⟨anchor, hanchor, rfl⟩
    exact Finset.mem_image.mpr
      ⟨anchor.applicationIdHash, StorageMap.mem_keys.mpr ⟨applicant, hhash⟩, hhash⟩
  calc s.applicationAnchors.keys.card
      = (s.applicationAnchors.keys.image some).card :=
        (Finset.card_image_of_injective _ (Option.some_injective AccountId)).symm
    _ ≤ (s.hashToApplicant.keys.image s.hashToApplicant.get).card := Finset.card_le_card hsub
    _ ≤ s.hashToApplicant.keys.card := Finset.card_image_le

/-- **Submitting an application** keeps the records just when it is the first of its wallet and the
counter has room. -/
theorem recorded_submit_iff {now : UInt32} (h : Recorded s)
    (hnew : s.hashToApplicant.get applicationIdHash = none) :
    Recorded (withApplication applicant applicationIdHash dataHash now s) ↔
      s.applicationAnchors.get applicant = none ∧ s.totalApplications < u64Max := by
  constructor
  · intro h'
    constructor
    · -- the hash of an earlier application is still registered for the wallet
      by_contra hsome
      obtain ⟨anchor, hanchor⟩ := Option.ne_none_iff_exists'.mp hsome
      have hold := (h.index anchor.applicationIdHash applicant).mpr ⟨anchor, hanchor, rfl⟩
      have hne : anchor.applicationIdHash ≠ applicationIdHash := by
        rintro rfl
        cases hnew.symm.trans hold
      obtain ⟨anchor', hanchor', hhash⟩ := (h'.index anchor.applicationIdHash applicant).mp
        ((StorageMap.get_insert_of_ne hne).trans hold)
      have hsubmitted := Option.some.inj (StorageMap.get_insert_self.symm.trans hanchor')
      rw [← hsubmitted] at hhash
      exact hne hhash.symm
    · have htotal := h'.applications
      rw [withApplication, StorageMap.card_keys_insert hnew, ← h.applications] at htotal
      exact saturatingAdd_eq_iff.mp htotal
  · rintro ⟨hnone, hroom⟩
    refine ⟨fun hash a => ?_, ?_, ?_⟩
    · unfold applicantByHash withApplication
      rw [StorageMap.get_insert, StorageMap.get_insert]
      have hindex := h.index hash a
      unfold applicantByHash at hindex
      -- the hash is the new one or not, and so is the wallet
      split <;> split
      · next hhash ha => simp [hhash, ha, submitted]
      · next hhash ha =>
        rw [hhash, hnew] at hindex
        rw [hhash, ← hindex]
        simp [Ne.symm ha]
      · next hhash ha =>
        rw [ha, hnone] at hindex
        rw [ha, hindex]
        simp [submitted, Ne.symm hhash]
      · exact hindex
    · have hcount := StorageMap.count_insert_new (p := fun anchor => anchor.status = .approved)
        (v := submitted applicationIdHash dataHash now) hnone
      exact h.approved.trans hcount.symm
    · rw [withApplication, StorageMap.card_keys_insert hnew, ← h.applications]
      exact saturatingAdd_eq_iff.mpr hroom

/-- An application that moves on keeps the records. -/
theorem Recorded.advance (h : Recorded s) (hmax : s.totalApplications ≤ u64Max)
    (hadv : Advances s s') : Recorded s' := by
  cases hadv with
  | same => exact h
  | anchor applicant anchor anchor' hanchor hactive hhash =>
    -- an application that moves on has not ended, so it was not counted as approved
    have hstatus : anchor.status ≠ .approved := by
      intro happroved
      rw [happroved] at hactive
      cases hactive
    have hcount := StorageMap.count_insert (p := fun anchor => anchor.status = .approved) hanchor
      anchor'
    rw [if_neg hstatus, Nat.add_zero, ← h.approved] at hcount
    refine ⟨fun hash a => ?_, ?_, h.applications⟩
    · -- no hash changes
      have hmap : ((s.applicationAnchors.insert applicant anchor').get a).map
          ApplicationAnchor.applicationIdHash =
          (s.applicationAnchors.get a).map ApplicationAnchor.applicationIdHash :=
        StorageMap.map_get_insert hanchor hhash
      have hindex := h.index hash a
      rw [← Option.map_eq_some_iff] at hindex ⊢
      rw [withAnchor, hmap]
      exact hindex
    · -- the approved applications are no more than the hashes, which are counted
      have hle : StorageMap.count (fun anchor => anchor.status = .approved)
          (s.applicationAnchors.insert applicant anchor') ≤ u64Max := by
        refine StorageMap.count_le_card_keys.trans ?_
        rw [StorageMap.keys_insert_of_get hanchor]
        exact h.card_anchors_le.trans (h.applications ▸ hmax)
      unfold withAnchor
      split
      · next happroved =>
        rw [hcount, if_pos happroved] at hle
        rw [hcount, if_pos happroved]
        exact saturatingAdd_eq_iff.mpr hle
      · next hother => rw [hcount, if_neg hother, Nat.add_zero]

/-! ### What has ended -/

/-- What has ended is as it was. -/
structure Kept (s s' : State AccountId) : Prop where
  anchor : ∀ applicant anchor, s.applicationAnchors.get applicant = some anchor →
    anchor.status.isTerminal = true → s'.applicationAnchors.get applicant = some anchor
  approval : ∀ applicant, isApplicationApproved s applicant = true →
    isApplicationApproved s' applicant = true

theorem isApplicationApproved_iff : isApplicationApproved s applicant = true ↔
    ∃ anchor, s.applicationAnchors.get applicant = some anchor ∧ anchor.status = .approved := by
  unfold isApplicationApproved
  cases s.applicationAnchors.get applicant with
  | none => simp
  | some anchor => simp

/-- An approval stays with its anchor. -/
theorem Kept.of_anchor (h : ∀ applicant anchor, s.applicationAnchors.get applicant = some anchor →
    anchor.status.isTerminal = true → s'.applicationAnchors.get applicant = some anchor) :
    Kept s s' where
  anchor := h
  approval applicant happroved := by
    obtain ⟨anchor, hanchor, hstatus⟩ := isApplicationApproved_iff.mp happroved
    have hkept := h applicant anchor hanchor (hstatus ▸ rfl)
    exact isApplicationApproved_iff.mpr ⟨anchor, hkept, hstatus⟩

theorem Kept.refl (s : State AccountId) : Kept s s := ⟨fun _ _ h _ => h, fun _ h => h⟩

theorem Kept.trans {s'' : State AccountId} (h : Kept s s') (h' : Kept s' s'') : Kept s s'' where
  anchor applicant anchor hanchor hended :=
    h'.anchor applicant anchor (h.anchor applicant anchor hanchor hended) hended
  approval applicant happroved := h'.approval applicant (h.approval applicant happroved)

theorem kept_submit {now : UInt32} (hnone : s.applicationAnchors.get applicant = none) :
    Kept s (withApplication applicant applicationIdHash dataHash now s) := by
  refine .of_anchor fun a anchor hanchor _ => ?_
  have hne : a ≠ applicant := by
    rintro rfl
    cases hnone.symm.trans hanchor
  exact (StorageMap.get_insert_of_ne hne).trans hanchor

theorem Advances.kept (h : Advances s s') : Kept s s' := by
  cases h with
  | same => exact .refl s
  | anchor applicant anchor anchor' hanchor hactive hhash =>
    refine .of_anchor fun a ended hget hended => ?_
    have hne : a ≠ applicant := by
      rintro rfl
      obtain rfl := Option.some.inj (hanchor.symm.trans hget)
      cases hactive.symm.trans hended
    exact (StorageMap.get_insert_of_ne hne).trans hget

/-! ### Runs -/

/-- The counter of applications stays within its width. -/
theorem totalApplications_le {i : Input AccountId} (hmax : w.totalApplications ≤ u64Max)
    (h : step cfg i w = .ok w') : w'.totalApplications ≤ u64Max := by
  rcases step_cases h with ⟨applicant, applicationIdHash, dataHash, -, -, -, hw⟩ | ⟨-, hadv⟩
  · rw [hw]
    exact Nat.min_le_right _ _
  · generalize w'.toState = s' at hadv
    cases hadv with
    | same => exact hmax
    | anchor => exact hmax

/-- An input keeps the records just when it submits no second application. -/
theorem recorded_step_iff {i : Input AccountId} (hmax : w.totalApplications ≤ u64Max)
    (hrec : Recorded w.toState) (h : step cfg i w = .ok w') :
    Recorded w'.toState ↔ SubmitsFirst w i := by
  rcases step_cases h with ⟨applicant, applicationIdHash, dataHash, rfl, hnew, -, hw⟩ |
    ⟨hfirst, hadv⟩
  · rw [hw]
    exact recorded_submit_iff hrec hnew
  · exact iff_of_true (hrec.advance hmax hadv) hfirst

/-- And then keeps what has ended. -/
theorem kept_step {i : Input AccountId} (hfirst : SubmitsFirst w i) (h : step cfg i w = .ok w') :
    Kept w.toState w'.toState := by
  rcases step_cases h with ⟨applicant, applicationIdHash, dataHash, rfl, -, -, hw⟩ | ⟨-, hadv⟩
  · rw [hw]
    exact kept_submit hfirst.1
  · exact hadv.kept

/-- **The runs in which anchors are immutable records** are those in which every application is the
first of its wallet, and the counter of applications has room for it. -/
theorem anchors_immutable_iff (cfg : Config AccountId) (now : UInt32)
    (is : List (Input AccountId)) :
    Throughout (step cfg) (fun w => Recorded w.toState) is (.genesis now) ∧
      Ascending (step cfg) (fun w w' => Kept w.toState w'.toState) is (.genesis now) ↔
    Along (step cfg) SubmitsFirst is (.genesis now) := by
  have hrecorded : Throughout (step cfg) (fun w => Recorded w.toState) is (.genesis now) ↔
      Along (step cfg) SubmitsFirst is (.genesis now) := by
    refine throughout_iff_along (J := fun w => w.totalApplications ≤ u64Max) ?_ ?_
      (Nat.zero_le u64Max) recorded_genesis
    · exact fun i w w' hmax h => totalApplications_le hmax h
    · exact fun i w w' hmax hrec h => recorded_step_iff hmax hrec h
  -- where the records agree, what has ended stays
  rw [hrecorded, and_iff_left_iff_imp]
  refine ascending_of_invariant (J := fun _ => True) ?_ ?_ ?_ ?_ trivial
  · exact fun w => .refl w.toState
  · exact fun _ _ _ h h' => h.trans h'
  · exact fun _ _ _ _ _ _ => trivial
  · exact fun i w w' _ hfirst h => kept_step hfirst h

/-! ### A second application -/

/-- The signature that the account `2` claims with. -/
def exampleSig : OfficerSig := (BoundedVec.tryFrom 64 (List.replicate 64 5)).getD .empty

/-- The signature of the account `2` is of the claim of the first application in the block `1`. -/
def exampleCfg : Config ℕ :=
  Runtime.migrationCenter (Runtime.acceptsOnly (Vector.replicate 64 5) 2 (.ofByte 1) 1)

/-- The account `1` applies, and is approved by the account `2`. -/
def firstApplication : List (Input ℕ) :=
  [.call (.signed 1) (.submitApplication (.ofByte 1) (.ofByte 7)),
    .call (.signed 2) (.claimApplication 1 exampleSig),
    .call (.signed 2) (.finalizeApplication 1 true (.ofByte 8))]

/-- And then applies again. -/
def secondApplication : List (Input ℕ) :=
  firstApplication ++ [.call (.signed 1) (.submitApplication (.ofByte 2) (.ofByte 7))]

/-- **An approved application that is no longer on record.** The wallet applies again, which is
neither kept from it nor leaves the anchor: the approval is gone, and no anchor carries the hash
that is registered for the wallet. -/
theorem anchor_overwritten :
    isApplicationApproved (run (step exampleCfg) firstApplication (.genesis 1)).toState 1 = true ∧
    isApplicationApproved (run (step exampleCfg) secondApplication (.genesis 1)).toState 1 =
      false ∧
    applicantByHash (run (step exampleCfg) secondApplication (.genesis 1)).toState (.ofByte 1) =
      some 1 ∧
    ¬ (Throughout (step exampleCfg) (fun w => Recorded w.toState) secondApplication (.genesis 1) ∧
      Ascending (step exampleCfg) (fun w w' => Kept w.toState w'.toState) secondApplication
        (.genesis 1)) := by
  have hbefore :
      isApplicationApproved (run (step exampleCfg) firstApplication (.genesis 1)).toState 1 =
        true := by
    decide +kernel
  have hafter :
      isApplicationApproved (run (step exampleCfg) secondApplication (.genesis 1)).toState 1 =
        false := by
    decide +kernel
  refine ⟨hbefore, hafter, by decide +kernel, ?_⟩
  rintro ⟨-, hkept⟩
  have hstep := hkept firstApplication secondApplication (List.prefix_append _ _)
    (List.prefix_refl secondApplication)
  exact absurd ((hstep.approval 1 hbefore).symm.trans hafter) nofun

end MigrationCenter
