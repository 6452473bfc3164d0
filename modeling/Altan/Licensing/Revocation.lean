import Altan.Foundation.Accounting
import Altan.Runtime.Constants

/-!
# Revocations are final

A license that was revoked shall never be active again, nothing that renews it be approved from then
on, and only a license that has not expired be renewed. The enactment of a renewal does not look at
the license it renews, so what is revoked while the delegates vote is renewed all the same; a
renewal does not look at the block in which the license expires; and the last number is given again,
to a license that is active.

## Main definitions

* `record`: the licenses that were revoked
* `Final`: what is asked of every input
* `Heeds`: when an input meets it

## Main results

* `enactAll_licenses_of_lt`, `enactAll_licenses_next`: what enactments issue
* `final_iff_heeds`: one input
* `revocation_final_iff`: the runs in which revocations are final
* `revoked_license_renewed`: they are not in every run
-/

open Bounded Dispatch Ledger TransitionSystem Identity

namespace Licensing

variable {AccountId L : Type}

/-- An accepted input is recorded: the license that it revokes. -/
def record (_w : World AccountId L) (x : Input AccountId L) (revoked : ℕ → Bool) : ℕ → Bool :=
  fun licenseId => decide (x.revokes = some licenseId) || revoked licenseId

/-- What is asked of every input, by the states before and after it and the licenses that were
revoked: they are not active, no application that renews one is approved, and what is renewed has
not expired. -/
structure Final (w w' : World AccountId L) (revoked : ℕ → Bool) (x : Input AccountId L) :
    Prop where
  inactive : ∀ licenseId license, record w x revoked licenseId = true →
    w'.licenses.get licenseId = some license → license.isActive = false
  unrenewed : ∀ appId app app' licenseId, w.licenseApplications.get appId = some app →
    app.status = .pendingKhural → app.renewsLicenseId = some licenseId →
      revoked licenseId = true → w'.licenseApplications.get appId = some app' →
        app'.status ≠ .approved
  unexpired : ∀ licenseId license, x.renews = some licenseId →
    w.licenses.get licenseId = some license → w.now < license.expiresBlock

/-- When an input heeds the revocations: no application that is listed for the block which starts
and has the votes renews a license that was revoked, or gets the number of one; and a renewal is of
a license that has not expired. -/
def Heeds (cfg : Config AccountId) (w : World AccountId L) (revoked : ℕ → Bool) :
    Input AccountId L → Prop
  | .block => ∀ appId ∈ (w.appsEnding (w.now + 1)).val, ∀ app,
    w.licenseApplications.get appId = some app → app.status = .pendingKhural →
      app.passes cfg = true →
        (∀ licenseId, app.renewsLicenseId = some licenseId → revoked licenseId = false) ∧
          revoked w.nextLicenseId = false
  | x => ∀ licenseId license, x.renews = some licenseId →
    w.licenses.get licenseId = some license → w.now < license.expiresBlock

/-- The licenses have the numbers that were given out, of which the last is given again. -/
def NumbersGiven (s : State AccountId L) : Prop :=
  ∀ licenseId license, s.licenses.get licenseId = some license →
    licenseId ≤ u32Max ∧ (licenseId < s.nextLicenseId ∨ s.nextLicenseId = u32Max)

/-- What every run that heeds the revocations keeps: licenses are numbered upwards, and those that
were revoked are still there and not active. -/
structure Numbered (w : World AccountId L) (revoked : ℕ → Bool) : Prop where
  fits : w.nextLicenseId ≤ u32Max
  given : NumbersGiven w.toState
  revoked : ∀ licenseId, revoked licenseId = true →
    ∃ license, w.licenses.get licenseId = some license ∧ license.isActive = false

/-! ### What enactments issue -/

section Issues

variable [DecidableEq AccountId] [Currency AccountId L] [EscrowCurrency AccountId L]
  {cfg : Config AccountId} {n licenseId : ℕ} {ids : List ℕ} {s : State AccountId L}

/-- A listed application that is voted on and has the votes. -/
def Passing (cfg : Config AccountId) (s : State AccountId L) (ids : List ℕ) : Prop :=
  ∃ appId ∈ ids, ∃ app, s.licenseApplications.get appId = some app ∧
    app.status = .pendingKhural ∧ app.passes cfg = true

/-- One enactment issues a license under the next number, or none. -/
theorem enactListed_licenses (cfg : Config AccountId) (n appId : ℕ) (s : State AccountId L) :
    (Passing cfg s [appId] ∧ ∃ license : License AccountId, license.isActive = true ∧
        (enactListed cfg n s appId).licenses = s.licenses.insert s.nextLicenseId license ∧
        (enactListed cfg n s appId).nextLicenseId = saturatingAdd u32Max s.nextLicenseId 1) ∨
      ¬ Passing cfg s [appId] ∧ (enactListed cfg n s appId).licenses = s.licenses ∧
        (enactListed cfg n s appId).nextLicenseId = s.nextLicenseId := by
  rcases enactListed_cases cfg n appId s with ⟨app, hget, hpending, he⟩ | ⟨hdecided, he⟩
  · rw [he]
    rcases enactApplication_licenses cfg n appId app s with
      ⟨hpasses, hissued, hnext⟩ | ⟨hfails, hsame, hnext⟩
    · exact Or.inl ⟨⟨appId, List.mem_singleton_self _, app, hget, hpending, hpasses⟩, _, rfl,
        hissued, hnext⟩
    · refine Or.inr ⟨?_, hsame, hnext⟩
      rintro ⟨appId', hmem, app', hget', -, hpasses⟩
      obtain rfl := List.mem_singleton.mp hmem
      obtain rfl := Option.some.inj (hget.symm.trans hget')
      exact Bool.false_ne_true (hfails.symm.trans hpasses)
  · rw [he]
    refine Or.inr ⟨?_, rfl, rfl⟩
    rintro ⟨appId', hmem, app', hget', hpending, -⟩
    obtain rfl := List.mem_singleton.mp hmem
    exact hdecided app' hget' hpending

/-- What passes with others passes first, or after the first enactment. -/
theorem passing_cons {appId : ℕ} : Passing cfg s (appId :: ids) ↔
    Passing cfg s [appId] ∨ Passing cfg (enactListed cfg n s appId) ids := by
  constructor
  · rintro ⟨appId', hmem, app, hget, hpending, hpasses⟩
    by_cases hfirst : appId' = appId
    · exact Or.inl ⟨appId', hfirst ▸ List.mem_singleton_self _, app, hget, hpending, hpasses⟩
    · have hmem' := (List.mem_cons.mp hmem).resolve_left hfirst
      refine Or.inr ⟨appId', hmem', app, ?_, hpending, hpasses⟩
      rw [enactListed_applications, if_neg hfirst]
      exact hget
  · rintro (⟨appId', hmem, hpassing⟩ | ⟨appId', hmem, app, hget, hpending, hpasses⟩)
    · exact ⟨appId', List.mem_cons.mpr (Or.inl (List.mem_singleton.mp hmem)), hpassing⟩
    · rw [enactListed_applications] at hget
      split at hget
      -- what is enacted is decided
      · obtain ⟨app', -, rfl⟩ := Option.map_eq_some_iff.mp hget
        exact absurd hpending (app'.enacted_status cfg)
      · exact ⟨appId', List.mem_cons_of_mem _ hmem, app, hget, hpending, hpasses⟩

/-- **Enactments leave the licenses that are numbered already.** -/
theorem enactAll_licenses_of_lt (hfits : s.nextLicenseId ≤ u32Max)
    (hlt : licenseId < s.nextLicenseId) :
    (enactAll cfg n ids s).licenses.get licenseId = s.licenses.get licenseId := by
  induction ids generalizing s with
  | nil => rfl
  | cons appId ids ih =>
    change (enactAll cfg n ids (enactListed cfg n s appId)).licenses.get licenseId = _
    obtain ⟨hle, hfits'⟩ := enactListed_nextLicenseId cfg n appId hfits
    rw [ih hfits' (hlt.trans_le hle)]
    rcases enactListed_licenses cfg n appId s with ⟨-, license, -, hissued, -⟩ | ⟨-, hsame, -⟩
    · rw [hissued, StorageMap.get_insert_of_ne (Nat.ne_of_lt hlt)]
    · rw [hsame]

/-- What is active stays so. -/
theorem enactAll_active {license : License AccountId} (hactive : license.isActive = true)
    (hget : s.licenses.get licenseId = some license) :
    ∃ license : License AccountId, license.isActive = true ∧
      (enactAll cfg n ids s).licenses.get licenseId = some license := by
  induction ids generalizing s license with
  | nil => exact ⟨license, hactive, hget⟩
  | cons appId ids ih =>
    rcases enactListed_licenses cfg n appId s with ⟨-, new, hnew, hissued, -⟩ | ⟨-, hsame, -⟩
    · by_cases hid : licenseId = s.nextLicenseId
      · refine ih hnew (s := enactListed cfg n s appId) ?_
        rw [hissued, hid, StorageMap.get_insert_self]
      · refine ih hactive (s := enactListed cfg n s appId) ?_
        rw [hissued, StorageMap.get_insert_of_ne hid, hget]
    · refine ih hactive (s := enactListed cfg n s appId) ?_
      rw [hsame, hget]

/-- **The next number goes to the first that passes.** -/
theorem enactAll_licenses_next (h : Passing cfg s ids) :
    ∃ license : License AccountId, license.isActive = true ∧
      (enactAll cfg n ids s).licenses.get s.nextLicenseId = some license := by
  induction ids generalizing s with
  | nil =>
    obtain ⟨_, hmem, -⟩ := h
    cases hmem
  | cons appId ids ih =>
    change ∃ license : License AccountId, license.isActive = true ∧
      (enactAll cfg n ids (enactListed cfg n s appId)).licenses.get s.nextLicenseId = some license
    rcases enactListed_licenses cfg n appId s with
      ⟨-, new, hnew, hissued, -⟩ | ⟨hfails, -, hnext⟩
    · refine enactAll_active hnew ?_
      rw [hissued, StorageMap.get_insert_self]
    · rw [← hnext]
      exact ih (((passing_cons (n := n)).mp h).resolve_left hfails)

/-- Where nothing passes nothing is issued. -/
theorem enactAll_licenses_of_not_passing (h : ¬ Passing cfg s ids) :
    (enactAll cfg n ids s).licenses = s.licenses := by
  induction ids generalizing s with
  | nil => rfl
  | cons appId ids ih =>
    obtain ⟨hfirst, hrest⟩ := not_or.mp (mt (passing_cons (n := n)).mpr h)
    change (enactAll cfg n ids (enactListed cfg n s appId)).licenses = _
    rw [ih hrest]
    rcases enactListed_licenses cfg n appId s with ⟨hpassing, -⟩ | ⟨-, hsame, -⟩
    · exact absurd hpassing hfirst
    · exact hsame

theorem enactAll_numbersGiven (hfits : s.nextLicenseId ≤ u32Max) (h : NumbersGiven s) :
    NumbersGiven (enactAll cfg n ids s) := by
  induction ids generalizing s with
  | nil => exact h
  | cons appId ids ih =>
    have hfits' := (enactListed_nextLicenseId cfg n appId hfits).2
    refine ih hfits' fun licenseId license hget => ?_
    rcases enactListed_licenses cfg n appId s with ⟨-, new, -, hissued, hnext⟩ | ⟨-, hsame, hnext⟩
    · rw [hissued] at hget
      rw [hnext]
      unfold saturatingAdd
      rcases StorageMap.get_insert_cases hget with ⟨rfl, -⟩ | ⟨-, hget⟩
      · omega
      · have hold := h licenseId license hget
        omega
    · rw [hsame] at hget
      rw [hnext]
      exact h licenseId license hget

theorem enactAll_isSome (h : (s.licenses.get licenseId).isSome) :
    ((enactAll cfg n ids s).licenses.get licenseId).isSome := by
  induction ids generalizing s with
  | nil => exact h
  | cons appId ids ih =>
    refine ih ?_
    rcases enactListed_licenses cfg n appId s with ⟨-, new, -, hissued, -⟩ | ⟨-, hsame, -⟩
    · rw [hissued, StorageMap.get_insert]
      split
      · rfl
      · exact h
    · rwa [hsame]

end Issues

/-! ### One input -/

section Inputs

variable [DecidableEq AccountId] [Currency AccountId L] [EscrowCurrency AccountId L]
  {cfg : Config AccountId} {w w' : World AccountId L} {revoked : ℕ → Bool}
  {x : Input AccountId L}

omit [DecidableEq AccountId] [Currency AccountId L] [EscrowCurrency AccountId L] in
theorem record_of_revokes_eq_none (h : x.revokes = none) : record w x revoked = revoked := by
  funext licenseId
  simp [record, h]

/-- An input other than the start of a block activates no license and approves nothing. -/
theorem Numbered.calls (hk : Numbered w revoked) (hx : x ≠ .block)
    (h : Transition cfg w x w'.toState) :
    (∀ licenseId, record w x revoked licenseId = true →
        ∃ license, w'.licenses.get licenseId = some license ∧ license.isActive = false) ∧
      ∀ appId app app', w.licenseApplications.get appId = some app →
        app.status = .pendingKhural → w'.licenseApplications.get appId = some app' →
          app'.status ≠ .approved := by
  have hpending : ∀ {appId app app'}, w.licenseApplications.get appId = some app →
      app.status = .pendingKhural → w.licenseApplications.get appId = some app' →
        app'.status ≠ .approved := by
    intro appId app app' hget hpending hget'
    obtain rfl := Option.some.inj (hget.symm.trans hget')
    rw [hpending]
    exact fun h => by cases h
  generalize w'.toState = s' at h ⊢
  cases h with
  | ministries x ministries hrenews hrevokes =>
    rw [record_of_revokes_eq_none hrevokes]
    exact ⟨hk.revoked, fun _ _ _ => hpending⟩
  | filed caller citizens c ministryRec filing ledger ids hduration hrenews hrevokes =>
    rw [record_of_revokes_eq_none hrevokes]
    refine ⟨hk.revoked, fun appId app app' hget hstatus hget' => ?_⟩
    rcases StorageMap.get_insert_cases hget' with ⟨-, rfl⟩ | ⟨-, hget'⟩
    · exact fun h => by cases h
    · exact hpending hget hstatus hget'
  -- a vote leaves the status, and decides nothing
  | voted caller citizens appId approve app hget =>
    refine ⟨hk.revoked, fun appId' app' app'' hget' hstatus hget'' => ?_⟩
    rcases StorageMap.get_insert_cases hget'' with ⟨rfl, rfl⟩ | ⟨-, hget''⟩
    · obtain rfl := Option.some.inj (hget.symm.trans hget')
      rw [LicenseApplication.withVote_status, hstatus]
      exact fun h => by cases h
    · exact hpending hget' hstatus hget''
  | revoked x licenseId reason license hrenews hrevokes hget =>
    refine ⟨fun licenseId' hrevoked => ?_, fun _ _ _ => hpending⟩
    by_cases hid : licenseId' = licenseId
    · exact ⟨license.revoked reason, hid ▸ StorageMap.get_insert_self, rfl⟩
    · have hother : x.revokes ≠ some licenseId' := by
        rw [hrevokes]
        exact fun h => hid (Option.some.inj h).symm
      obtain ⟨license', hget', hinactive⟩ := hk.revoked licenseId' (by
        simpa [record, hother] using hrevoked)
      exact ⟨license', (StorageMap.get_insert_of_ne hid).trans hget', hinactive⟩
  | elsewhere ledger => exact ⟨hk.revoked, fun _ _ _ => hpending⟩
  | block => exact absurd rfl hx

/-- What the start of a block does to the licenses that were revoked. -/
theorem Numbered.block_inactive_iff (hk : Numbered w revoked) (cfg : Config AccountId) :
    (∀ licenseId license, revoked licenseId = true →
        (onInitialize cfg (w.now + 1) w.toState).licenses.get licenseId = some license →
          license.isActive = false) ↔
      (Passing cfg w.toState (w.appsEnding (w.now + 1)).val →
        revoked w.nextLicenseId = false) := by
  constructor
  · intro h hpassing
    by_contra hrevoked
    -- the license with the next number is active
    obtain ⟨license, hactive, hget⟩ := enactAll_licenses_next (n := w.now + 1)
      (s := w.toState.withoutEnding (w.now + 1)) hpassing
    have hinactive := h _ license (Bool.eq_true_of_not_eq_false hrevoked) hget
    exact Bool.false_ne_true (hinactive.symm.trans hactive)
  · intro h licenseId license hrevoked hget
    obtain ⟨license', hget', hinactive⟩ := hk.revoked licenseId hrevoked
    suffices hsame : (onInitialize cfg (w.now + 1) w.toState).licenses.get licenseId =
        w.licenses.get licenseId by
      obtain rfl := Option.some.inj (hget.symm.trans (hsame.trans hget'))
      exact hinactive
    by_cases hpassing : Passing cfg w.toState (w.appsEnding (w.now + 1)).val
    · have hnext := h hpassing
      refine enactAll_licenses_of_lt (s := w.toState.withoutEnding (w.now + 1)) hk.fits ?_
      -- what has the last number is not revoked
      obtain ⟨hle, hlt | hlast⟩ := hk.given licenseId license' hget'
      · exact hlt
      · refine Nat.lt_of_le_of_ne (hlast.symm ▸ hle) fun heq => ?_
        rw [heq] at hrevoked
        exact Bool.false_ne_true (hnext.symm.trans hrevoked)
    · have hsame := enactAll_licenses_of_not_passing (n := w.now + 1)
        (s := w.toState.withoutEnding (w.now + 1)) hpassing
      exact congrArg (StorageMap.get · licenseId) hsame

/-- **An input is final exactly when it heeds the revocations.** -/
theorem final_iff_heeds (hk : Numbered w revoked) (hs : step cfg x w = .ok w') :
    Final w w' revoked x ↔ Heeds cfg w revoked x := by
  by_cases hx : x = .block
  · subst hx
    obtain ⟨hfits, rfl⟩ := step_block_eq_ok.mp hs
    have hinactive := hk.block_inactive_iff cfg
    constructor
    · -- what is enacted is approved, so that it renews nothing revoked
      intro hfinal appId hmem app hget hpending hpasses
      refine ⟨fun licenseId hid => ?_, ?_⟩
      · by_contra hrevoked
        refine hfinal.unrenewed appId app (app.enacted cfg) licenseId hget hpending hid
          (Bool.eq_true_of_not_eq_false hrevoked) ?_
          ((LicenseApplication.enacted_approved hpending).mpr hpasses)
        exact onInitialize_applications.trans (by rw [if_pos hmem, hget]; rfl)
      · exact hinactive.mp hfinal.inactive ⟨appId, hmem, app, hget, hpending, hpasses⟩
    · intro hheeds
      refine ⟨hinactive.mpr ?_, ?_, fun _ _ hrenews => by cases hrenews⟩
      · rintro ⟨appId, hmem, app, hget, hpending, hpasses⟩
        exact (hheeds appId hmem app hget hpending hpasses).2
      · intro appId app app' licenseId hget hpending hid hrevoked hget' happroved
        have hget'' := onInitialize_applications.symm.trans hget'
        split at hget''
        · next hmem =>
          rw [hget] at hget''
          obtain rfl := Option.some.inj hget''
          have hpasses := (LicenseApplication.enacted_approved hpending).mp happroved
          have hspared := (hheeds appId hmem app hget hpending hpasses).1 licenseId hid
          exact Bool.false_ne_true (hspared.symm.trans hrevoked)
        · rw [hget] at hget''
          obtain rfl := Option.some.inj hget''
          cases hpending.symm.trans happroved
  · -- a call decides nothing, and only its own renewal is left
    obtain ⟨hinactive, hunrenewed⟩ := hk.calls hx (step_transition hs)
    have hheeds : Heeds cfg w revoked x ↔ ∀ licenseId license, x.renews = some licenseId →
        w.licenses.get licenseId = some license → w.now < license.expiresBlock := by
      cases x with
      | block => exact absurd rfl hx
      | call => exact Iff.rfl
      | judicialRevoke => exact Iff.rfl
      | elsewhere => exact Iff.rfl
    rw [hheeds]
    refine ⟨Final.unexpired, fun h => ⟨fun licenseId license hrevoked hget => ?_, ?_, h⟩⟩
    · obtain ⟨license', hget', hfalse⟩ := hinactive licenseId hrevoked
      obtain rfl := Option.some.inj (hget.symm.trans hget')
      exact hfalse
    · intro appId app app' licenseId hget hpending _ _
      exact hunrenewed appId app app' hget hpending

/-- Every input gives out numbers upwards. -/
theorem Transition.numbersGiven {s' : State AccountId L} (h : Transition cfg w x s')
    (hfits : w.nextLicenseId ≤ u32Max) (hgiven : NumbersGiven w.toState) :
    s'.nextLicenseId ≤ u32Max ∧ NumbersGiven s' := by
  cases h with
  | ministries => exact ⟨hfits, hgiven⟩
  | filed => exact ⟨hfits, hgiven⟩
  | voted => exact ⟨hfits, hgiven⟩
  | elsewhere => exact ⟨hfits, hgiven⟩
  | revoked x licenseId reason license hrenews hrevokes hget =>
    refine ⟨hfits, fun licenseId' license' hget' => ?_⟩
    rcases StorageMap.get_insert_cases hget' with ⟨rfl, -⟩ | ⟨-, hget'⟩
    · exact hgiven licenseId' license hget
    · exact hgiven licenseId' license' hget'
  | block =>
    have hfits' : (w.toState.withoutEnding (w.now + 1)).nextLicenseId ≤ u32Max := hfits
    exact ⟨(enactAll_nextLicenseId cfg _ _ hfits').2, enactAll_numbersGiven hfits' hgiven⟩

/-- What is final keeps the licenses numbered. -/
theorem Numbered.step (hk : Numbered w revoked) (hfinal : Final w w' revoked x)
    (hs : Licensing.step cfg x w = .ok w') : Numbered w' (record w x revoked) := by
  have htransition := step_transition hs
  obtain ⟨hfits, hgiven⟩ := htransition.numbersGiven hk.fits hk.given
  refine ⟨hfits, hgiven, fun licenseId hrevoked => ?_⟩
  suffices hthere : (w'.licenses.get licenseId).isSome by
    obtain ⟨license, hget⟩ := Option.isSome_iff_exists.mp hthere
    exact ⟨license, hget, hfinal.inactive licenseId license hrevoked hget⟩
  by_cases hx : x = .block
  · subst hx
    obtain ⟨-, rfl⟩ := step_block_eq_ok.mp hs
    obtain ⟨license, hget, -⟩ := hk.revoked licenseId hrevoked
    exact enactAll_isSome (Option.isSome_iff_exists.mpr ⟨license, hget⟩)
  · obtain ⟨license, hget, -⟩ := (hk.calls hx htransition).1 licenseId hrevoked
    exact Option.isSome_iff_exists.mpr ⟨license, hget⟩

end Inputs

/-- **The runs in which revocations are final are those in which every input heeds them.** -/
theorem revocation_final_iff [DecidableEq AccountId] [Currency AccountId L]
    [EscrowCurrency AccountId L] (cfg : Config AccountId) (ledger : L) (now : ℕ)
    (hnow : now ≤ u32Max) (xs : List (Input AccountId L)) :
    Along (recording record (step cfg))
        (fun t x => Final t.1 (exec (step cfg) x t.1) t.2 x) xs
        (.genesis ledger now hnow, fun _ => false) ↔
      Along (recording record (step cfg)) (fun t x => Heeds cfg t.1 t.2 x) xs
        (.genesis ledger now hnow, fun _ => false) := by
  refine along_congr_carrying (J := fun t => Numbered t.1 t.2) ?_ ?_ ?_
  · rintro x ⟨w, revoked⟩ ⟨w', revoked'⟩ hk hheeds hs
    obtain ⟨hs, rfl⟩ := recording_eq_ok.mp hs
    exact hk.step ((final_iff_heeds hk hs).mpr hheeds) hs
  · rintro x ⟨w, revoked⟩ ⟨w', revoked'⟩ hk hs
    obtain ⟨hs, -⟩ := recording_eq_ok.mp hs
    dsimp only
    rw [exec_ok hs]
    exact final_iff_heeds hk hs
  · refine ⟨Nat.zero_le _, fun licenseId license hget => ?_, fun _ h => by cases h⟩
    cases (StorageMap.get_empty licenseId).symm.trans hget

/-! ### A revoked license that is renewed -/

/-- Account one is given a license and applies for its renewal; two delegates approve, and the
license is revoked before the renewal is enacted. -/
def revokedMeanwhile : List Runtime.LicensingInput :=
  [Runtime.ministryAuthorized,
    Runtime.amongDelegates (.signed 1)
      (.submitLicenseApplication 9 .mineralExtraction 0 1 (.ofByte 0) 5),
    Runtime.amongDelegates (.signed 2) (.voteOnLicense 0 true),
    .block,
    Runtime.amongDelegates (.signed 1) (.renewLicense 0 (.ofByte 0) 5),
    Runtime.amongDelegates (.signed 2) (.voteOnLicense 1 true),
    .judicialRevoke 0 []]

theorem revocation_final_iff_meanwhile :
    Along (recording record (step (Runtime.briefLicensing 1)))
        (fun t x => Final t.1 (exec (step (Runtime.briefLicensing 1)) x t.1) t.2 x)
        revokedMeanwhile (Runtime.licensingGenesis, fun _ => false) ↔
      Along (recording record (step (Runtime.briefLicensing 1)))
        (fun t x => Heeds (Runtime.briefLicensing 1) t.1 t.2 x) revokedMeanwhile
        (Runtime.licensingGenesis, fun _ => false) :=
  revocation_final_iff (Runtime.briefLicensing 1) (ProvidedBalances.ofFree []) 0 (Nat.zero_le _)
    revokedMeanwhile

/-- The state in which it is enacted. -/
def beforeRenewal : Licensing.World ℕ (Runtime.EscrowLedger ℕ) × (ℕ → Bool) :=
  run (recording record (step (Runtime.briefLicensing 1))) revokedMeanwhile
    (Runtime.licensingGenesis, fun _ => false)

/-- Revocations are not final in every run: what is revoked meanwhile is renewed. -/
theorem revoked_license_renewed : ¬ ∀ (cfg : Config ℕ) (xs : List Runtime.LicensingInput),
    Along (recording record (step cfg)) (fun t x => Final t.1 (exec (step cfg) x t.1) t.2 x) xs
      (Runtime.licensingGenesis, fun _ => false) := by
  intro h
  obtain ⟨-, hlast, -⟩ := along_append.mp
    (h (Runtime.briefLicensing 1) (revokedMeanwhile ++ [.block]))
  obtain ⟨t', ht'⟩ := exists_ok (x := recording record (step (Runtime.briefLicensing 1)) .block
    beforeRenewal) (by decide +kernel)
  have hbefore : (beforeRenewal.1.licenseApplications.get 1).map
      (fun app => (app.status, app.renewsLicenseId)) = some (.pendingKhural, some 0) := by
    decide +kernel
  have hafter : ((exec (step (Runtime.briefLicensing 1)) .block
      beforeRenewal.1).licenseApplications.get 1).map LicenseApplication.status =
        some .approved := by
    decide +kernel
  obtain ⟨app, hget, heq⟩ := Option.map_eq_some_iff.mp hbefore
  obtain ⟨app', hget', happroved⟩ := Option.map_eq_some_iff.mp hafter
  obtain ⟨hpending, hrenews⟩ := Prod.ext_iff.mp heq
  exact (hlast t' ht').unrenewed 1 app app' 0 hget hpending hrenews (by decide +kernel) hget'
    happroved

end Licensing
