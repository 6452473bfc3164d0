import Altan.Foundation.Accounting
import Altan.Foundation.Deposits
import Altan.Runtime.Constants

/-!
# The licensing protocol

An application is on the list of the block in which its vote ends until that block starts, which
decides it by the votes that were counted, one for each account that voted. It is approved with a
license of its own, or rejected, and its deposit is reserved until then.

## Main definitions

* `Fits`: the counters, the tallies and the blocks stay within their bounds
* `Approves`: the votes that approve an application
* `decisions`: when applications were decided
* `Sound`: what is asked of every state
* `Kept`: the invariant of the runs, with the lists as they are while a block starts

## Main results

* `Kept.file`, `Kept.vote`, `Kept.enact`: what the operations keep
* `licensing_protocol`: every run is sound
-/

open Bounded Dispatch Ledger TransitionSystem Identity

namespace Licensing

variable {AccountId L : Type}

/-! ### What is asked of the runs -/

/-- How many have voted on an application. -/
def State.votesOn (s : State AccountId L) (appId : ℕ) : ℕ :=
  (s.licenseApplications.get appId).elim 0 fun app => app.votesFor + app.votesAgainst

/-- There are numbers left for applications and licenses, the tallies are small, and the blocks to
come have numbers. -/
def Fits (cfg : Config AccountId) (w : World AccountId L) : Prop :=
  w.nextLicenseAppId < u32Max ∧ w.nextLicenseId < u32Max ∧
    (∀ appId ∈ w.licenseApplications.keys, w.votesOn appId < 2 ^ 30) ∧
    w.now + cfg.licenseVotingPeriod ≤ u32Max ∧ w.now + maxLicenseBlocks ≤ u32Max

instance (cfg : Config AccountId) (w : World AccountId L) : Decidable (Fits cfg w) :=
  inferInstanceAs (Decidable (_ ∧ _))

/-- The votes approve: enough are for it, and more than against it or, where two thirds are needed,
two thirds of some votes. -/
def Approves (cfg : Config AccountId) (app : LicenseApplication AccountId) : Prop :=
  cfg.minLicenseQuorum ≤ app.votesFor ∧
    if app.licenseType.requiresSupermajority then
      0 < app.votesFor + app.votesAgainst ∧
        2 * (app.votesFor + app.votesAgainst) ≤ 3 * app.votesFor
    else app.votesAgainst < app.votesFor

/-- Whether an application is voted on. -/
def State.isPending (s : State AccountId L) (appId : ℕ) : Bool :=
  (s.licenseApplications.get appId).any fun app => decide (app.status = .pendingKhural)

/-- The block that an input starts. -/
def Input.starts (w : World AccountId L) : Input AccountId L → Option ℕ
  | .block => some (w.now + 1)
  | _ => none

section Definitions

variable [DecidableEq AccountId]

/-- An accepted input is recorded: the applications that it decides, with the block that it
starts. -/
def decisions [Currency AccountId L] [EscrowCurrency AccountId L] (cfg : Config AccountId)
    (w : World AccountId L) (x : Input AccountId L) (h : ℕ → List (Option ℕ)) :
    ℕ → List (Option ℕ) :=
  fun appId =>
    if w.isPending appId && !(exec (step cfg) x w).isPending appId then h appId ++ [x.starts w]
    else h appId

/-- What is asked of every state, with the decisions so far. -/
structure Sound (cfg : Config AccountId) (w : World AccountId L) (h : ℕ → List (Option ℕ)) :
    Prop where
  nodup : ∀ block, (w.appsEnding block).val.Nodup
  listed : ∀ block appId, appId ∈ (w.appsEnding block).val ↔
    ∃ app, w.licenseApplications.get appId = some app ∧ app.status = .pendingKhural ∧
      app.endBlock = block
  pending : ∀ appId app, w.licenseApplications.get appId = some app →
    (app.status = .pendingKhural ↔ w.now < app.endBlock)
  decided : ∀ appId app, w.licenseApplications.get appId = some app →
    h appId = if app.endBlock ≤ w.now then [some app.endBlock] else []
  tallied : ∀ appId app, w.licenseApplications.get appId = some app →
    app.votesFor + app.votesAgainst = (w.voters appId).card
  approved : ∀ appId app, w.licenseApplications.get appId = some app →
    app.status ≠ .pendingKhural → (app.status = .approved ↔ Approves cfg app)
  licensed : ∀ appId app, w.licenseApplications.get appId = some app → app.status = .approved →
    ∃! licenseId, ∃ license, w.licenses.get licenseId = some license ∧ license.appId = appId
  lasting : ∀ licenseId license, w.licenses.get licenseId = some license →
    ∃ app, w.licenseApplications.get license.appId = some app ∧ app.status = .approved ∧
      license.expiresBlock = license.issuedBlock + app.requestedDuration ∧
      app.requestedDuration ≤ maxLicenseBlocks
  deposited : ∀ appId, (w.applicationDepositors.get appId).isSome ↔
    ∃ app, w.licenseApplications.get appId = some app ∧ app.status = .pendingKhural

/-- What was decided stays as it is, with those who voted on it. -/
def Settled (w w' : World AccountId L) : Prop :=
  ∀ appId app, w.licenseApplications.get appId = some app → app.status ≠ .pendingKhural →
    w'.licenseApplications.get appId = some app ∧ w'.voters appId = w.voters appId

/-- Other modules leave what an account has reserved. -/
def Undisturbed [Currency AccountId L] (a : AccountId) (w : World AccountId L)
    (x : Input AccountId L) : Prop :=
  ∀ ledger, x = .elsewhere ledger → reservedBalance ledger a = reservedBalance w.ledger a

/-- What is reserved for the applications of an account that are voted on. -/
def State.deposits (s : State AccountId L) (a : AccountId) : ℕ :=
  Deposits.owed some s.applicationDepositors a

/-! ### The invariant -/

/-- What every run keeps of an application. -/
structure AppKept (cfg : Config AccountId) (s : State AccountId L) (now appId : ℕ)
    (app : LicenseApplication AccountId) : Prop where
  lt : appId < s.nextLicenseAppId
  duration : app.requestedDuration ≤ maxLicenseBlocks
  votes : app.votesFor + app.votesAgainst = (s.voters appId).card
  pending : app.status = .pendingKhural → now ≤ app.endBlock
  decided : app.status ≠ .pendingKhural →
    app.endBlock ≤ now ∧ app.status = if app.passes cfg then .approved else .rejected

/-- The deposit that is due for an application. -/
def depositFor (cfg : Config AccountId) (app : LicenseApplication AccountId) :
    Option (AccountId × ℕ) :=
  if app.status = .pendingKhural then some (app.submitter, cfg.applicationDeposit) else none

omit [DecidableEq AccountId] in
/-- What every run keeps of the licenses: they are numbered, and there is one for every application
that is approved and none for any other. -/
structure LicensesKept (s : State AccountId L) : Prop where
  licensed : ∀ licenseId license, s.licenses.get licenseId = some license →
    licenseId < s.nextLicenseId ∧
      ∃ app, s.licenseApplications.get license.appId = some app ∧ app.status = .approved ∧
        license.expiresBlock = license.issuedBlock + app.requestedDuration
  issued : ∀ appId app, s.licenseApplications.get appId = some app → app.status = .approved →
    ∃ licenseId license, s.licenses.get licenseId = some license ∧ license.appId = appId
  single : ∀ licenseId licenseId' license license', s.licenses.get licenseId = some license →
    s.licenses.get licenseId' = some license' → license.appId = license'.appId →
      licenseId = licenseId'

/-- What every run keeps, when the applications in `due` are on the lists. -/
structure Kept (cfg : Config AccountId) (s : State AccountId L) (now : ℕ) (due : ℕ → List ℕ) : Prop
    extends LicensesKept s where
  nodup : ∀ block, (due block).Nodup
  listed : ∀ block appId, appId ∈ due block ↔
    ∃ app, s.licenseApplications.get appId = some app ∧ app.status = .pendingKhural ∧
      app.endBlock = block
  apps : ∀ appId app, s.licenseApplications.get appId = some app → AppKept cfg s now appId app
  unvoted : ∀ appId, s.licenseApplications.get appId = none → s.voters appId = ∅
  deposits : ∀ appId, s.applicationDepositors.get appId =
    (s.licenseApplications.get appId).bind (depositFor cfg)

/-- The applications on the lists. -/
def State.due (s : State AccountId L) (block : ℕ) : List ℕ := (s.appsEnding block).val

end Definitions

section Invariant

variable [DecidableEq AccountId] {cfg : Config AccountId} {s s' : State AccountId L}
  {now now' n appId : ℕ} {due : ℕ → List ℕ} {app : LicenseApplication AccountId}

omit [DecidableEq AccountId] in
@[simp] theorem LicenseApplication.enacted_passes (app : LicenseApplication AccountId) :
    (app.enacted cfg).passes cfg = app.passes cfg := by
  unfold LicenseApplication.enacted
  split <;> rfl

omit [DecidableEq AccountId] in
/-- The votes approve an application exactly when it passes. -/
theorem passes_iff (h : app.votesFor + app.votesAgainst < 2 ^ 30) :
    app.passes cfg = true ↔ Approves cfg app := by
  have htotal : saturatingAdd u32Max app.votesFor app.votesAgainst =
      app.votesFor + app.votesAgainst := saturatingAdd_of_le (by unfold u32Max; omega)
  have hdouble : saturatingMul u32Max (app.votesFor + app.votesAgainst) 2 =
      2 * (app.votesFor + app.votesAgainst) := by
    unfold saturatingMul u32Max
    omega
  have htriple : saturatingMul u32Max app.votesFor 3 = 3 * app.votesFor := by
    unfold saturatingMul u32Max
    omega
  unfold LicenseApplication.passes Approves
  dsimp only
  rw [htotal, hdouble, htriple]
  split
  · simp
  · simp

theorem AppKept.congr (h : AppKept cfg s now appId app)
    (hnext : s.nextLicenseAppId ≤ s'.nextLicenseAppId)
    (hvoters : s'.voters appId = s.voters appId) : AppKept cfg s' now appId app :=
  { h with lt := h.lt.trans_le hnext, votes := hvoters ▸ h.votes }

/-- Later blocks are still open for what is voted on, when nothing ends at the block. -/
theorem Kept.later (h : Kept cfg s now due) (hnone : due now = []) : Kept cfg s (now + 1) due :=
  { h with
    apps := fun appId app hget => by
      have hkept := h.apps appId app hget
      refine { hkept with pending := fun hpending => ?_, decided := fun hdecided => ?_ }
      · refine Nat.lt_of_le_of_ne (hkept.pending hpending) fun heq => ?_
        have hmem := (h.listed app.endBlock appId).mpr ⟨app, hget, hpending, rfl⟩
        rw [← heq, hnone] at hmem
        cases hmem
      · obtain ⟨hend, hstatus⟩ := hkept.decided hdecided
        exact ⟨hend.trans (Nat.le_succ _), hstatus⟩ }

/-- What is not there yet is not on a list. -/
theorem Kept.next_eq_none (h : Kept cfg s now due) :
    s.licenseApplications.get s.nextLicenseAppId = none := by
  cases hget : s.licenseApplications.get s.nextLicenseAppId with
  | none => rfl
  | some app => exact absurd (h.apps _ app hget).lt (Nat.lt_irrefl _)

/-- **A vote keeps the invariant.** -/
theorem Kept.vote (h : Kept cfg s now due) {caller : AccountId} (approve : Bool)
    (hget : s.licenseApplications.get appId = some app) (hpending : app.status = .pendingKhural)
    (hfirst : s.hasVotedOnLicense.getD (appId, caller) false = false)
    (hfew : app.votesFor + app.votesAgainst < u32Max) :
    Kept cfg (voted caller appId approve app s) now due where
  nodup := h.nodup
  -- a vote decides nothing, so that the lists stay
  listed block appId' := by
    rw [h.listed]
    by_cases hid : appId' = appId
    · subst hid
      constructor
      · rintro ⟨app', hget', -, hend⟩
        obtain rfl := Option.some.inj (hget.symm.trans hget')
        exact ⟨_, StorageMap.get_insert_self, by rwa [app.withVote_status],
          by rwa [app.withVote_endBlock]⟩
      · rintro ⟨app', hget', -, hend⟩
        obtain rfl := Option.some.inj (StorageMap.get_insert_self.symm.trans hget')
        exact ⟨app, hget, hpending, by rwa [app.withVote_endBlock] at hend⟩
    · simp only [voted, StorageMap.get_insert_of_ne hid]
  apps appId' app' hget' := by
    rcases StorageMap.get_insert_cases hget' with ⟨rfl, rfl⟩ | ⟨hid, hget'⟩
    · -- the vote is the first of the caller, and is counted
      have hkept := h.apps appId' app hget
      refine ⟨hkept.lt, ?_, ?_, ?_, ?_⟩
      · rw [app.withVote_requestedDuration]
        exact hkept.duration
      · rw [LicenseApplication.withVote_tally hfew, hkept.votes]
        exact (StorageMap.card_marked_insert hfirst).symm
      · rw [app.withVote_endBlock]
        exact fun _ => hkept.pending hpending
      · rw [app.withVote_status]
        exact fun hdecided => absurd hpending hdecided
    · exact (h.apps appId' app' hget').congr (Nat.le_refl _) (StorageMap.marked_insert_of_ne hid)
  unvoted appId' hnone := by
    obtain ⟨hid, hnone⟩ := StorageMap.get_insert_eq_none.mp hnone
    exact (StorageMap.marked_insert_of_ne hid).trans (h.unvoted appId' hnone)
  deposits appId' := by
    rw [voted, StorageMap.get_insert, h.deposits]
    split
    · next hid =>
      rw [hid, hget, Option.bind_some, Option.bind_some, depositFor, depositFor,
        app.withVote_status, if_pos hpending, if_pos hpending]
      unfold LicenseApplication.withVote
      split <;> rfl
    · rfl
  -- a license is of an application that is decided, and this one is not
  licensed licenseId license hlicense := by
    obtain ⟨hlt, app', hget', happroved, hexpires⟩ := h.licensed licenseId license hlicense
    refine ⟨hlt, app', ?_, happroved, hexpires⟩
    refine (StorageMap.get_insert_of_ne fun hid => ?_).trans hget'
    rw [hid, hget] at hget'
    obtain rfl := Option.some.inj hget'
    cases hpending.symm.trans happroved
  issued appId' app' hget' happroved := by
    rcases StorageMap.get_insert_cases hget' with ⟨-, rfl⟩ | ⟨-, hget'⟩
    · rw [app.withVote_status, hpending] at happroved
      cases happroved
    · exact h.issued appId' app' hget' happroved
  single := h.single

/-- The lists with one more application. -/
def listedAlso (due : ℕ → List ℕ) (block appId : ℕ) : ℕ → List ℕ :=
  Function.update due block (due block ++ [appId])

theorem mem_listedAlso {block block' appId' : ℕ} : appId' ∈ listedAlso due block appId block' ↔
    appId' ∈ due block' ∨ block' = block ∧ appId' = appId := by
  unfold listedAlso
  by_cases hblock : block' = block
  · subst hblock
    simp
  · rw [Function.update_of_ne hblock]
    simp [hblock]

/-- **A filing keeps the invariant.** -/
theorem Kept.file (h : Kept cfg s now due) (caller : AccountId) (ministryRec : MinistryRecord)
    {filing : Filing AccountId} (ledger : L) (ids : AppIds)
    (hduration : filing.duration ≤ maxLicenseBlocks) (hnext : s.nextLicenseAppId < u32Max)
    (hend : now ≤ saturatingAdd u32Max now cfg.licenseVotingPeriod) :
    Kept cfg (filed cfg now caller ministryRec filing ledger ids s) now
      (listedAlso due (saturatingAdd u32Max now cfg.licenseVotingPeriod) s.nextLicenseAppId) := by
  have hnone := h.next_eq_none
  have hsucc : saturatingAdd u32Max s.nextLicenseAppId 1 = s.nextLicenseAppId + 1 :=
    saturatingAdd_one_of_lt hnext
  refine ⟨⟨?_, ?_, h.single⟩, ?_, ?_, ?_, ?_, ?_⟩
  · -- the number of the application is free, so that no license refers to it
    intro licenseId license hlicense
    obtain ⟨hlt, app, hget, happroved, hexpires⟩ := h.licensed licenseId license hlicense
    refine ⟨hlt, app, ?_, happroved, hexpires⟩
    refine (StorageMap.get_insert_of_ne fun hid => ?_).trans hget
    rw [hid, hnone] at hget
    cases hget
  · intro appId app hget happroved
    rcases StorageMap.get_insert_cases hget with ⟨-, rfl⟩ | ⟨-, hget⟩
    · cases happroved
    · exact h.issued appId app hget happroved
  · -- nor is it on a list
    intro block
    unfold listedAlso
    by_cases hblock : block = saturatingAdd u32Max now cfg.licenseVotingPeriod
    · rw [← hblock, Function.update_self, List.nodup_append]
      refine ⟨h.nodup block, List.nodup_singleton _, fun appId hmem appId' hmem' heq => ?_⟩
      obtain ⟨app, hget, -⟩ := (h.listed block appId).mp hmem
      rw [heq, List.mem_singleton.mp hmem', hnone] at hget
      cases hget
    · rw [Function.update_of_ne hblock]
      exact h.nodup block
  · -- its list is that of the block in which its vote ends
    intro block appId
    rw [mem_listedAlso, h.listed]
    by_cases hid : appId = s.nextLicenseAppId
    · subst hid
      simp only [filed, StorageMap.get_insert_self, Option.some.injEq, exists_eq_left',
        hnone, and_true, Filing.application, true_and]
      simp [eq_comm]
    · simp only [filed, StorageMap.get_insert_of_ne hid, hid, and_false, or_false]
  · intro appId app hget
    rcases StorageMap.get_insert_cases hget with ⟨rfl, rfl⟩ | ⟨hid, hget⟩
    · refine ⟨?_, hduration, ?_, fun _ => hend, fun hdecided => absurd rfl hdecided⟩
      · exact (Nat.lt_succ_self _).trans_eq hsucc.symm
      · exact (Finset.card_eq_zero.mpr (h.unvoted _ hnone)).symm
    · refine (h.apps appId app hget).congr ?_ rfl
      exact (Nat.le_succ _).trans_eq hsucc.symm
  · intro appId hget
    exact h.unvoted appId (StorageMap.get_insert_eq_none.mp hget).2
  · intro appId
    simp only [filed, StorageMap.get_insert, h.deposits]
    split
    · rfl
    · rfl

/-- **A revocation keeps the invariant.** -/
theorem Kept.revoke (h : Kept cfg s now due) {licenseId : ℕ} {license : License AccountId}
    (reason : BoundedVec UInt8 256) (hget : s.licenses.get licenseId = some license) :
    Kept cfg { s with licenses := s.licenses.insert licenseId (license.revoked reason) } now due :=
  -- a license keeps the application that it refers to
  have hsame : ∀ {licenseId' license'},
      (s.licenses.insert licenseId (license.revoked reason)).get licenseId' = some license' →
        ∃ license'', s.licenses.get licenseId' = some license'' ∧
          license''.appId = license'.appId ∧ license''.issuedBlock = license'.issuedBlock ∧
          license''.expiresBlock = license'.expiresBlock := by
    intro licenseId' license' hget'
    rcases StorageMap.get_insert_cases hget' with ⟨rfl, rfl⟩ | ⟨-, hget'⟩
    · exact ⟨license, hget, rfl, rfl, rfl⟩
    · exact ⟨license', hget', rfl, rfl, rfl⟩
  { nodup := h.nodup
    listed := h.listed
    apps := fun appId app hget => (h.apps appId app hget).congr (Nat.le_refl _) rfl
    unvoted := h.unvoted
    deposits := h.deposits
    licensed := fun licenseId' license' hget' => by
      obtain ⟨license'', hget'', happ, hissued, hexpires⟩ := hsame hget'
      rw [← happ, ← hissued, ← hexpires]
      exact h.licensed licenseId' license'' hget''
    issued := fun appId app hget' happroved => by
      obtain ⟨licenseId', license', hlicense, happ⟩ := h.issued appId app hget' happroved
      by_cases hid : licenseId' = licenseId
      · subst hid
        obtain rfl := Option.some.inj (hget.symm.trans hlicense)
        exact ⟨licenseId', _, StorageMap.get_insert_self, happ⟩
      · exact ⟨licenseId', license', (StorageMap.get_insert_of_ne hid).trans hlicense, happ⟩
    single := fun licenseId₁ licenseId₂ license₁ license₂ h₁ h₂ happ => by
      obtain ⟨license₁', h₁', happ₁, -⟩ := hsame h₁
      obtain ⟨license₂', h₂', happ₂, -⟩ := hsame h₂
      exact h.single _ _ _ _ h₁' h₂' (happ₁.trans (happ.trans happ₂.symm)) }

/-- The lists without the first application of one of them. -/
theorem mem_update_due {block appId' : ℕ} {rest : List ℕ} (hnodup : (due n).Nodup)
    (hdue : due n = appId :: rest) :
    appId' ∈ Function.update due n rest block ↔
      appId' ∈ due block ∧ ¬ (block = n ∧ appId' = appId) := by
  by_cases hblock : block = n
  · subst hblock
    rw [hdue, List.nodup_cons] at hnodup
    rw [Function.update_self, hdue, List.mem_cons]
    constructor
    · intro hmem
      exact ⟨Or.inr hmem, fun heq => hnodup.1 (heq.2 ▸ hmem)⟩
    · rintro ⟨rfl | hmem, hne⟩
      · exact absurd ⟨rfl, rfl⟩ hne
      · exact hmem
  · rw [Function.update_of_ne hblock]
    simp [hblock]

section Enactment

variable [Currency AccountId L] [EscrowCurrency AccountId L]

omit [DecidableEq AccountId] [Currency AccountId L] [EscrowCurrency AccountId L] in
/-- The licenses refer to other applications than a pending one. -/
theorem LicensesKept.appId_ne (h : LicensesKept s)
    (hget : s.licenseApplications.get appId = some app) (hpending : app.status = .pendingKhural)
    {licenseId : ℕ} {license : License AccountId}
    (hlicense : s.licenses.get licenseId = some license) : license.appId ≠ appId := by
  intro heq
  obtain ⟨-, app', hget', happroved, -⟩ := h.licensed licenseId license hlicense
  rw [heq, hget] at hget'
  obtain rfl := Option.some.inj hget'
  cases hpending.symm.trans happroved

/-- An enactment issues a license for the application that it approves. -/
theorem LicensesKept.enact (h : LicensesKept s) (hget : s.licenseApplications.get appId = some app)
    (hpending : app.status = .pendingKhural) (hduration : app.requestedDuration ≤ maxLicenseBlocks)
    (hgiven : (enactApplication cfg n appId app s).nextLicenseId < u32Max)
    (hblocks : n + maxLicenseBlocks ≤ u32Max) :
    LicensesKept (enactApplication cfg n appId app s) := by
  have happs := enactApplication_applications cfg n appId s hpending
  have hother : ∀ {licenseId license}, s.licenses.get licenseId = some license →
      license.appId ≠ appId := fun hlicense => h.appId_ne hget hpending hlicense
  rcases enactApplication_licenses cfg n appId app s with
    ⟨hpasses, hlicenses, hnext⟩ | ⟨hfails, hlicenses, hnext⟩
  · have hsucc : (enactApplication cfg n appId app s).nextLicenseId = s.nextLicenseId + 1 := by
      rw [hnext] at hgiven ⊢
      unfold saturatingAdd at hgiven ⊢
      omega
    have happroved : (app.enacted cfg).status = .approved :=
      (LicenseApplication.enacted_approved hpending).mpr hpasses
    refine ⟨?_, ?_, ?_⟩
    · -- the new license refers to the application, which is approved now
      intro licenseId license hlicense
      rw [hlicenses] at hlicense
      rw [hsucc, happs]
      rcases StorageMap.get_insert_cases hlicense with ⟨rfl, rfl⟩ | ⟨-, hlicense⟩
      · refine ⟨Nat.lt_succ_self _, _, StorageMap.get_insert_self, happroved, ?_⟩
        rw [app.enacted_requestedDuration]
        exact saturatingAdd_of_le ((Nat.add_le_add_left hduration n).trans hblocks)
      · obtain ⟨hlt, hrefers⟩ := h.licensed licenseId license hlicense
        rw [StorageMap.get_insert_of_ne (hother hlicense)]
        exact ⟨hlt.trans (Nat.lt_succ_self _), hrefers⟩
    · intro appId' app' hget' happroved'
      rw [hlicenses]
      rw [happs] at hget'
      rcases StorageMap.get_insert_cases hget' with ⟨rfl, -⟩ | ⟨-, hget'⟩
      · exact ⟨_, _, StorageMap.get_insert_self, rfl⟩
      · obtain ⟨licenseId, license, hlicense, heq⟩ := h.issued appId' app' hget' happroved'
        refine ⟨licenseId, license, ?_, heq⟩
        rw [StorageMap.get_insert_of_ne (h.licensed licenseId license hlicense).1.ne, hlicense]
    · -- no other license refers to the application
      intro licenseId licenseId' license license' hlicense hlicense' heq
      rw [hlicenses] at hlicense hlicense'
      rcases StorageMap.get_insert_cases hlicense with ⟨rfl, rfl⟩ | ⟨-, hlicense⟩
      · rcases StorageMap.get_insert_cases hlicense' with ⟨rfl, -⟩ | ⟨-, hlicense'⟩
        · rfl
        · exact absurd heq.symm (hother hlicense')
      · rcases StorageMap.get_insert_cases hlicense' with ⟨rfl, rfl⟩ | ⟨-, hlicense'⟩
        · exact absurd heq (hother hlicense)
        · exact h.single _ _ _ _ hlicense hlicense' heq
  -- a rejection leaves the licenses
  · refine ⟨?_, ?_, ?_⟩
    · intro licenseId license hlicense
      rw [hlicenses] at hlicense
      rw [hnext, happs, StorageMap.get_insert_of_ne (hother hlicense)]
      exact h.licensed licenseId license hlicense
    · intro appId' app' hget' happroved'
      rw [hlicenses]
      rw [happs] at hget'
      rcases StorageMap.get_insert_cases hget' with ⟨-, rfl⟩ | ⟨-, hget'⟩
      · have hpasses := (LicenseApplication.enacted_approved hpending).mp happroved'
        exact absurd (hfails.symm.trans hpasses) Bool.false_ne_true
      · exact h.issued appId' app' hget' happroved'
    · rw [hlicenses]
      exact h.single

/-- **An enactment keeps the invariant**, and takes the application off its list. -/
theorem Kept.enact (h : Kept cfg s n due) {rest : List ℕ} (hdue : due n = appId :: rest)
    (hgiven : (enactListed cfg n s appId).nextLicenseId < u32Max)
    (hblocks : n + maxLicenseBlocks ≤ u32Max) :
    Kept cfg (enactListed cfg n s appId) n (Function.update due n rest) := by
  obtain ⟨app, hget, hpending, hend⟩ :=
    (h.listed n appId).mp (hdue ▸ List.mem_cons_self)
  have he := enactListed_of_pending cfg n hget hpending
  rw [he] at hgiven ⊢
  have happs := enactApplication_applications cfg n appId s hpending
  have hspared := enactApplication_spared cfg n appId app s
  have hvoters : ∀ appId', (enactApplication cfg n appId app s).voters appId' = s.voters appId' :=
    fun appId' => congrArg (StorageMap.marked · appId') hspared.hasVotedOnLicense
  have hkept := h.apps appId app hget
  refine ⟨h.toLicensesKept.enact hget hpending hkept.duration hgiven hblocks, ?_, ?_, ?_, ?_, ?_⟩
  · intro block
    by_cases hblock : block = n
    · subst hblock
      have hnodup := h.nodup block
      rw [hdue] at hnodup
      rw [Function.update_self]
      exact (List.nodup_cons.mp hnodup).2
    · rw [Function.update_of_ne hblock]
      exact h.nodup block
  · -- the application is decided and off its list, and the others stay on theirs
    intro block appId'
    rw [mem_update_due (h.nodup n) hdue, h.listed, happs]
    by_cases hid : appId' = appId
    · subst hid
      simp only [hget, Option.some.injEq, exists_eq_left', StorageMap.get_insert_self,
        app.enacted_status cfg, false_and, iff_false]
      rintro ⟨⟨-, hblock⟩, hne⟩
      exact hne ⟨hblock.symm.trans hend, trivial⟩
    · simp only [StorageMap.get_insert_of_ne hid, hid, and_false, not_false_iff, and_true]
  · intro appId' app' hget'
    rw [happs] at hget'
    rcases StorageMap.get_insert_cases hget' with ⟨rfl, rfl⟩ | ⟨-, hget'⟩
    · refine ⟨?_, ?_, ?_, fun hstill => absurd hstill (app.enacted_status cfg), fun _ => ?_⟩
      · rw [hspared.nextLicenseAppId]
        exact hkept.lt
      · rw [app.enacted_requestedDuration]
        exact hkept.duration
      · rw [hvoters, ← hkept.votes]
        unfold LicenseApplication.enacted
        split <;> rfl
      · refine ⟨by rw [app.enacted_endBlock, hend], ?_⟩
        rw [app.enacted_passes]
        unfold LicenseApplication.enacted
        rw [if_pos hpending]
    · exact (h.apps appId' app' hget').congr hspared.nextLicenseAppId.ge (hvoters appId')
  · intro appId' hnone
    rw [happs] at hnone
    rw [hvoters]
    exact h.unvoted appId' (StorageMap.get_insert_eq_none.mp hnone).2
  · intro appId'
    rw [enactApplication_depositors, happs, StorageMap.get_remove, StorageMap.get_insert,
      h.deposits]
    split
    · rw [Option.bind_some, depositFor, if_neg (app.enacted_status cfg)]
    · rfl

/-- **The enactments of a list keep the invariant.** -/
theorem Kept.enactAll (h : Kept cfg s n due) {ids : List ℕ} (hdue : due n = ids)
    (hfits : s.nextLicenseId ≤ u32Max)
    (hgiven : (Licensing.enactAll cfg n ids s).nextLicenseId < u32Max)
    (hblocks : n + maxLicenseBlocks ≤ u32Max) :
    Kept cfg (Licensing.enactAll cfg n ids s) n (Function.update due n []) := by
  induction ids generalizing s due with
  | nil =>
    rw [show Function.update due n [] = due from hdue ▸ Function.update_eq_self n due]
    exact h
  | cons appId ids ih =>
    obtain ⟨-, hfits'⟩ := enactListed_nextLicenseId cfg n appId hfits
    have hgiven' := (enactAll_nextLicenseId cfg n ids hfits').1.trans_lt hgiven
    have hrest := ih (h.enact hdue hgiven' hblocks) (Function.update_self n ids due) hfits' hgiven
    rwa [Function.update_idem] at hrest

end Enactment

end Invariant

/-! ### One input -/

section Inputs

variable [DecidableEq AccountId] [Currency AccountId L] [EscrowCurrency AccountId L]
  {cfg : Config AccountId} {w w' : World AccountId L} {x : Input AccountId L}

/-- What every run keeps in a block: nothing that is voted on ends in it. -/
structure KeptIn (cfg : Config AccountId) (w : World AccountId L) : Prop where
  kept : Kept cfg w.toState w.now w.due
  started : w.due w.now = []

omit [Currency AccountId L] [EscrowCurrency AccountId L] in
/-- The invariant is about the applications, their votes, deposits and licenses. -/
theorem Kept.congr {s s' : State AccountId L} {now : ℕ} {due : ℕ → List ℕ} (h : Kept cfg s now due)
    (happs : s'.licenseApplications = s.licenseApplications)
    (hnext : s'.nextLicenseAppId = s.nextLicenseAppId)
    (hvotes : s'.hasVotedOnLicense = s.hasVotedOnLicense)
    (hdeposits : s'.applicationDepositors = s.applicationDepositors)
    (hlicenses : s'.licenses = s.licenses) (hids : s'.nextLicenseId = s.nextLicenseId) :
    Kept cfg s' now due := by
  have hvoters : ∀ appId, s'.voters appId = s.voters appId := fun appId =>
    congrArg (StorageMap.marked · appId) hvotes
  refine ⟨⟨?_, ?_, ?_⟩, h.nodup, ?_, ?_, ?_, ?_⟩
  · rw [happs, hlicenses, hids]
    exact h.licensed
  · rw [happs, hlicenses]
    exact h.issued
  · rw [hlicenses]
    exact h.single
  · rw [happs]
    exact h.listed
  · intro appId app hget
    rw [happs] at hget
    exact (h.apps appId app hget).congr hnext.ge (hvoters appId)
  · intro appId hnone
    rw [happs] at hnone
    rw [hvoters]
    exact h.unvoted appId hnone
  · rw [happs, hdeposits]
    exact h.deposits

omit [DecidableEq AccountId] [Currency AccountId L] [EscrowCurrency AccountId L] in
/-- The tallies that fit. -/
theorem Fits.votes (h : Fits cfg w) {appId : ℕ} {app : LicenseApplication AccountId}
    (hget : w.licenseApplications.get appId = some app) :
    app.votesFor + app.votesAgainst < 2 ^ 30 := by
  have hvotes := h.2.2.1 appId (StorageMap.mem_keys.mpr ⟨app, hget⟩)
  rwa [State.votesOn, hget] at hvotes

/-- **Every input keeps the invariant.** -/
theorem KeptIn.step (hk : KeptIn cfg w) (hperiod : 0 < cfg.licenseVotingPeriod)
    (hfits : Fits cfg w) (hfits' : Fits cfg w') (hs : Licensing.step cfg x w = .ok w') :
    KeptIn cfg w' := by
  obtain ⟨hkept, hstarted⟩ := hk
  have htransition := step_transition hs
  rcases step_now hs with ⟨hx, hnow⟩ | ⟨rfl, -⟩
  · suffices hlater : Kept cfg w'.toState w.now w'.due ∧ w'.due w.now = [] by
      rw [← hnow] at hlater
      exact ⟨hlater.1, hlater.2⟩
    generalize w'.toState = s' at htransition ⊢
    cases htransition with
    | ministries => exact ⟨hkept.congr rfl rfl rfl rfl rfl rfl, hstarted⟩
    | elsewhere => exact ⟨hkept.congr rfl rfl rfl rfl rfl rfl, hstarted⟩
    | revoked x licenseId reason license hrenews hrevokes hget =>
      exact ⟨hkept.revoke reason hget, hstarted⟩
    | voted caller citizens appId approve app hget hpending hopen hfirst =>
      have hfew := hfits.votes hget
      exact ⟨hkept.vote approve hget hpending hfirst (by unfold u32Max; omega), hstarted⟩
    | filed caller citizens c ministryRec filing ledger ids hduration hrenews hrevokes hactive
        hfileable =>
      have hend : saturatingAdd u32Max w.now cfg.licenseVotingPeriod =
          w.now + cfg.licenseVotingPeriod := saturatingAdd_of_le hfits.2.2.2.1
      have hdue : (filed cfg w.now caller ministryRec filing ledger ids w.toState).due =
          listedAlso w.due (saturatingAdd u32Max w.now cfg.licenseVotingPeriod)
            w.nextLicenseAppId := by
        funext block
        unfold listedAlso State.due State.appsEnding
        rw [filed, StorageMap.getD_insert]
        split
        · next hblock =>
          rw [hblock, Function.update_self]
          exact hfileable.listed
        · next hblock => rw [Function.update_of_ne hblock]
      rw [hdue]
      refine ⟨hkept.file caller ministryRec ledger ids hduration hfits.1 ?_, ?_⟩
      · rw [hend]
        exact Nat.le_add_right _ _
      · unfold listedAlso
        rw [Function.update_of_ne (by omega), hstarted]
    | block => exact absurd rfl hx
  · obtain ⟨hle, rfl⟩ := step_block_eq_ok.mp hs
    have hlist : (w.toState.withoutEnding (w.now + 1)).nextLicenseId ≤ u32Max := hfits.2.1.le
    have hlater : Kept cfg (w.toState.withoutEnding (w.now + 1)) (w.now + 1) w.due :=
      (hkept.later hstarted).congr rfl rfl rfl rfl rfl rfl
    have hrun := hlater.enactAll rfl hlist hfits'.2.1 hfits'.2.2.2.2
    -- the list of the block is gone
    have hdue : (onInitialize cfg (w.now + 1) w.toState).due =
        Function.update w.due (w.now + 1) [] := by
      funext block
      unfold State.due State.appsEnding
      rw [(onInitialize_spared cfg _ _).licenseAppsEnding, State.withoutEnding]
      dsimp only
      unfold StorageMap.getD
      rw [StorageMap.get_remove]
      split
      · next hblock =>
        rw [hblock, Function.update_self]
        rfl
      · next hblock =>
        rw [Function.update_of_ne hblock]
    refine ⟨?_, ?_⟩
    · change Kept cfg (onInitialize cfg (w.now + 1) w.toState) (w.now + 1)
        (onInitialize cfg (w.now + 1) w.toState).due
      rw [hdue]
      exact hrun
    · change (onInitialize cfg (w.now + 1) w.toState).due (w.now + 1) = []
      rw [hdue, Function.update_self]

/-- What an accepted input does to an application: nothing; or it is filed or voted on; or the block
in which its vote ends starts and decides it. -/
theorem KeptIn.turn (hk : KeptIn cfg w) (hs : Licensing.step cfg x w = .ok w') (appId : ℕ) :
    (w'.licenseApplications.get appId = w.licenseApplications.get appId ∧
        w'.voters appId = w.voters appId) ∨
      ((∀ app, w.licenseApplications.get appId = some app → app.status = .pendingKhural) ∧
        ∃ app, w'.licenseApplications.get appId = some app ∧ app.status = .pendingKhural) ∨
      ∃ app, w.licenseApplications.get appId = some app ∧ app.status = .pendingKhural ∧
        x = .block ∧ app.endBlock = w.now + 1 ∧
        w'.licenseApplications.get appId = some (app.enacted cfg) := by
  have htransition := step_transition hs
  change (w'.toState.licenseApplications.get appId = _ ∧ w'.toState.voters appId = _) ∨
    (_ ∧ ∃ app, w'.toState.licenseApplications.get appId = some app ∧ _) ∨
      ∃ app, _ ∧ _ ∧ _ ∧ _ ∧ w'.toState.licenseApplications.get appId = _
  -- the transitions are those of the state without the clock
  generalize w'.toState = s' at htransition ⊢
  cases htransition with
  | ministries => exact Or.inl ⟨rfl, rfl⟩
  | elsewhere => exact Or.inl ⟨rfl, rfl⟩
  | revoked => exact Or.inl ⟨rfl, rfl⟩
  | filed caller citizens c ministryRec filing ledger ids =>
    by_cases hid : appId = w.nextLicenseAppId
    · subst hid
      refine Or.inr (Or.inl ⟨fun app hget => ?_, _, StorageMap.get_insert_self, rfl⟩)
      cases hk.kept.next_eq_none.symm.trans hget
    · exact Or.inl ⟨StorageMap.get_insert_of_ne hid, rfl⟩
  | voted caller citizens appId' approve app hget hpending =>
    by_cases hid : appId = appId'
    · subst hid
      refine Or.inr (Or.inl ⟨fun app' hget' => ?_, _, StorageMap.get_insert_self, ?_⟩)
      · obtain rfl := Option.some.inj (hget.symm.trans hget')
        exact hpending
      · rw [app.withVote_status, hpending]
    · exact Or.inl ⟨StorageMap.get_insert_of_ne hid, StorageMap.marked_insert_of_ne hid⟩
  | block =>
    rw [onInitialize_applications]
    by_cases hmem : appId ∈ (w.appsEnding (w.now + 1)).val
    · obtain ⟨app, hget, hpending, hend⟩ := (hk.kept.listed (w.now + 1) appId).mp hmem
      refine Or.inr (Or.inr ⟨app, hget, hpending, rfl, hend, ?_⟩)
      rw [if_pos hmem, hget]
      rfl
    · rw [if_neg hmem]
      exact Or.inl ⟨rfl, congrArg (StorageMap.marked · appId)
        (onInitialize_spared cfg _ _).hasVotedOnLicense⟩

/-- The decision of an application that is decided. -/
def World.decisionsOf (w : World AccountId L) (appId : ℕ) : List (Option ℕ) :=
  (w.licenseApplications.get appId).elim [] fun app =>
    if app.status = .pendingKhural then [] else [some app.endBlock]

/-- **What is decided is recorded once**, with the block in which the vote ends. -/
theorem KeptIn.decisions_eq (hk : KeptIn cfg w) (hs : Licensing.step cfg x w = .ok w') :
    decisions cfg w x w.decisionsOf = w'.decisionsOf := by
  funext appId
  unfold decisions World.decisionsOf State.isPending
  rw [exec_ok hs]
  rcases hk.turn hs appId with ⟨hsame, -⟩ | ⟨hbefore, app', hget', hafter⟩ |
    ⟨app, hget, hpending, rfl, hend, hget'⟩
  · rw [hsame]
    simp
  · rw [hget']
    cases hget : w.licenseApplications.get appId with
    | none => simp [hafter]
    | some app => simp [hafter, hbefore app hget]
  · rw [hget, hget']
    simp [hpending, app.enacted_status cfg, Input.starts, hend]

/-- What is decided is settled. -/
theorem KeptIn.settled (hk : KeptIn cfg w) (hs : Licensing.step cfg x w = .ok w') :
    Settled w w' := by
  intro appId app hget hdecided
  rcases hk.turn hs appId with ⟨hsame, hvoters⟩ | ⟨hbefore, -⟩ | ⟨app', hget', hpending, -⟩
  · exact ⟨hsame.trans hget, hvoters⟩
  · exact absurd (hbefore app hget) hdecided
  · obtain rfl := Option.some.inj (hget.symm.trans hget')
    exact absurd hpending hdecided

omit [Currency AccountId L] [EscrowCurrency AccountId L] in
/-- **The invariant is sound.** -/
theorem KeptIn.sound (hk : KeptIn cfg w) (hfits : Fits cfg w) : Sound cfg w w.decisionsOf := by
  obtain ⟨hkept, hstarted⟩ := hk
  have hpending : ∀ appId app, w.licenseApplications.get appId = some app →
      (app.status = .pendingKhural ↔ w.now < app.endBlock) := by
    intro appId app hget
    constructor
    · intro hpending
      exact ((hkept.later hstarted).apps appId app hget).pending hpending
    · intro hlt
      by_contra hdecided
      exact absurd ((hkept.apps appId app hget).decided hdecided).1 (Nat.not_le.mpr hlt)
  refine ⟨hkept.nodup, hkept.listed, hpending, ?_, ?_, ?_, ?_, ?_, ?_⟩
  · -- there is one decision from the end of the vote on
    intro appId app hget
    unfold World.decisionsOf
    rw [hget, Option.elim_some]
    have hiff := hpending appId app hget
    by_cases hlt : w.now < app.endBlock
    · rw [if_pos (hiff.mpr hlt), if_neg (Nat.not_le.mpr hlt)]
    · rw [if_neg (mt hiff.mp hlt), if_pos (Nat.not_lt.mp hlt)]
  · exact fun appId app hget => (hkept.apps appId app hget).votes
  · intro appId app hget hdecided
    rw [← passes_iff (hfits.votes hget), ((hkept.apps appId app hget).decided hdecided).2]
    split
    · next h => exact iff_of_true rfl h
    · next h => exact iff_of_false (fun h => by cases h) h
  · -- one license for each application that is approved
    intro appId app hget happroved
    obtain ⟨licenseId, license, hlicense, heq⟩ := hkept.issued appId app hget happroved
    refine ⟨licenseId, ⟨license, hlicense, heq⟩, ?_⟩
    rintro licenseId' ⟨license', hlicense', heq'⟩
    exact hkept.single _ _ _ _ hlicense' hlicense (heq'.trans heq.symm)
  · intro licenseId license hlicense
    obtain ⟨-, app, hget, happroved, hexpires⟩ := hkept.licensed licenseId license hlicense
    exact ⟨app, hget, happroved, hexpires, (hkept.apps _ app hget).duration⟩
  · -- a deposit for each that is pending
    intro appId
    rw [hkept.deposits]
    cases hget : w.licenseApplications.get appId with
    | none => simp
    | some app =>
      rw [Option.bind_some, depositFor]
      split
      · next h => simp [h]
      · next h => simp [h]

/-! ### Deposits -/

/-- An account has reserved what its applications need, over what it had reserved before. -/
def Reserving (a : AccountId) (base : ℕ) (s : State AccountId L) : Prop :=
  reservedBalance s.ledger a = base + s.deposits a

omit [DecidableEq AccountId] in
/-- What is settled is taken from its depositor. -/
theorem settleDeposit_others {approved : Bool} {depositor a : AccountId} {amount : ℕ} {l : L}
    (h : a ≠ depositor) :
    reservedBalance (settleDeposit approved (some (depositor, amount)) l) a =
      reservedBalance l a := by
  cases approved with
  | true => exact (EscrowCurrency.unreserve_released l depositor amount).othersReserved a h
  | false => exact (EscrowCurrency.slashReserved_slashed l depositor amount).othersReserved a h

omit [DecidableEq AccountId] in
/-- What is reserved is settled in full. -/
theorem settleDeposit_reserved {approved : Bool} {depositor : AccountId} {amount : ℕ} {l : L}
    (h : amount ≤ reservedBalance l depositor) :
    reservedBalance (settleDeposit approved (some (depositor, amount)) l) depositor + amount =
      reservedBalance l depositor := by
  cases approved with
  | true =>
    have hreleased := EscrowCurrency.unreserve_released l depositor amount
    rw [Nat.min_eq_left h] at hreleased
    exact hreleased.reserved
  | false =>
    have hslashed := EscrowCurrency.slashReserved_slashed l depositor amount
    rw [Nat.min_eq_left h] at hslashed
    exact hslashed.reserved

/-- **An enactment settles the deposit of its application.** -/
theorem Reserving.enact {a : AccountId} {base n appId : ℕ} {s : State AccountId L}
    (h : Reserving a base s) : Reserving a base (enactListed cfg n s appId) := by
  rcases enactListed_cases cfg n appId s with ⟨app, -, -, he⟩ | ⟨-, he⟩
  · rw [he]
    unfold Reserving State.deposits at h ⊢
    rw [enactApplication_depositors, enactApplication_ledger]
    have howed : Deposits.share a ((s.applicationDepositors.get appId).bind some) +
        Deposits.owed some (s.applicationDepositors.remove appId) a =
          Deposits.owed some s.applicationDepositors a := Deposits.owed_remove
    rw [Option.bind_fun_some] at howed
    cases hget : s.applicationDepositors.get appId with
    | none =>
      rw [hget, show Deposits.share a none = 0 from rfl, Nat.zero_add] at howed
      rw [howed]
      exact h
    | some p =>
      obtain ⟨depositor, amount⟩ := p
      rw [hget] at howed
      by_cases ha : a = depositor
      · subst ha
        rw [Deposits.share_self] at howed
        have hsettled : reservedBalance
            (settleDeposit (app.passes cfg) (some (a, amount)) s.ledger) a + amount =
              reservedBalance s.ledger a := settleDeposit_reserved (by omega)
        omega
      · rw [Deposits.share_of_ne ha, Nat.zero_add] at howed
        rw [settleDeposit_others ha, howed, h]
  · rwa [he]

theorem Reserving.enactAll {a : AccountId} {base n : ℕ} {ids : List ℕ} {s : State AccountId L}
    (h : Reserving a base s) : Reserving a base (Licensing.enactAll cfg n ids s) := by
  induction ids generalizing s with
  | nil => exact h
  | cons appId ids ih => exact ih h.enact

/-- **Every input keeps what is reserved for the applications**, when other modules do. -/
theorem Reserving.step {a : AccountId} {base : ℕ} (h : Reserving a base w.toState)
    (hk : KeptIn cfg w) (hothers : Undisturbed a w x) (hs : Licensing.step cfg x w = .ok w') :
    Reserving a base w'.toState := by
  have htransition := step_transition hs
  generalize w'.toState = s' at htransition ⊢
  cases htransition with
  | ministries => exact h
  | elsewhere ledger => exact (hothers ledger rfl).trans h
  | revoked => exact h
  | voted => exact h
  | block => exact Reserving.enactAll (s := w.toState.withoutEnding (w.now + 1)) h
  | filed caller citizens c ministryRec filing ledger ids hduration hrenews hrevokes hactive
      hfileable =>
    have hreserved := ReservableCurrency.reserve_ok _ _ _ _ hfileable.reserved
    have hfresh : w.applicationDepositors.get w.nextLicenseAppId = none := by
      rw [hk.kept.deposits, hk.kept.next_eq_none]
      rfl
    have howed : Deposits.share a ((w.applicationDepositors.get w.nextLicenseAppId).bind some) +
        Deposits.owed some (w.applicationDepositors.insert w.nextLicenseAppId
          (caller, cfg.applicationDeposit)) a =
        Deposits.share a (some (caller, cfg.applicationDeposit)) +
          Deposits.owed some w.applicationDepositors a := Deposits.owed_insert
    rw [hfresh, Option.bind_none, show Deposits.share a none = 0 from rfl, Nat.zero_add] at howed
    unfold Reserving State.deposits at h ⊢
    change reservedBalance ledger a = base + Deposits.owed some (w.applicationDepositors.insert
      w.nextLicenseAppId (caller, cfg.applicationDeposit)) a
    rw [howed]
    by_cases ha : a = caller
    · subst ha
      rw [Deposits.share_self, hreserved.reserved, h]
      omega
    · rw [Deposits.share_of_ne ha, Nat.zero_add, hreserved.othersReserved a ha, h]

end Inputs

/-! ### The runs -/

section Runs

variable [DecidableEq AccountId]

omit [DecidableEq AccountId] in
theorem World.decisionsOf_genesis (ledger : L) (now : ℕ) (hnow : now ≤ u32Max) :
    (World.genesis ledger now hnow : World AccountId L).decisionsOf = fun _ => [] := by
  funext appId
  unfold World.decisionsOf
  rw [show (World.genesis ledger now hnow : World AccountId L).licenseApplications.get appId = none
    from StorageMap.get_empty appId]
  rfl

theorem keptIn_genesis (cfg : Config AccountId) (ledger : L) (now : ℕ) (hnow : now ≤ u32Max) :
    KeptIn cfg (World.genesis ledger now hnow : World AccountId L) := by
  have happs : ∀ appId,
      (World.genesis ledger now hnow : World AccountId L).licenseApplications.get appId = none :=
    StorageMap.get_empty
  have hlicenses : ∀ licenseId,
      (World.genesis ledger now hnow : World AccountId L).licenses.get licenseId = none :=
    StorageMap.get_empty
  have hdue : ∀ block, (World.genesis ledger now hnow : World AccountId L).due block = [] := by
    intro block
    unfold State.due State.appsEnding
    rw [show (World.genesis ledger now hnow : World AccountId L).licenseAppsEnding = ∅ from rfl,
      StorageMap.getD_empty]
  refine ⟨⟨⟨?_, ?_, ?_⟩, ?_, ?_, ?_, ?_, ?_⟩, hdue now⟩
  · intro licenseId license hget
    cases (hlicenses licenseId).symm.trans hget
  · intro appId app hget
    cases (happs appId).symm.trans hget
  · intro licenseId licenseId' license license' hget
    cases (hlicenses licenseId).symm.trans hget
  · intro block
    rw [hdue]
    exact List.nodup_nil
  · intro block appId
    rw [hdue]
    refine iff_of_false List.not_mem_nil ?_
    rintro ⟨app, hget, -⟩
    cases (happs appId).symm.trans hget
  · intro appId app hget
    cases (happs appId).symm.trans hget
  · exact fun appId _ => StorageMap.marked_empty
  · intro appId
    rw [happs]
    exact StorageMap.get_empty appId

/-- **The licensing protocol.** In every run that fits, every state is sound; what is decided stays
as it is; and a ministry whose reserved balance other modules leave has reserved what its
applications that are voted on need, over what it had reserved before. -/
theorem licensing_protocol [Currency AccountId L] [EscrowCurrency AccountId L]
    (cfg : Config AccountId) (hperiod : 0 < cfg.licenseVotingPeriod) (ledger : L) (now : ℕ)
    (hnow : now ≤ u32Max) (xs : List (Input AccountId L))
    (hfits : Throughout (step cfg) (Fits cfg) xs (.genesis ledger now hnow)) :
    Throughout (recording (decisions cfg) (step cfg)) (fun t => Sound cfg t.1 t.2) xs
        (.genesis ledger now hnow, fun _ => []) ∧
      Ascending (step cfg) Settled xs (World.genesis ledger now hnow : World AccountId L) ∧
      ∀ a, Along (step cfg) (Undisturbed a) xs (.genesis ledger now hnow) →
        Throughout (step cfg)
          (fun w => reservedBalance w.ledger a = reservedBalance ledger a + w.deposits a) xs
          (.genesis ledger now hnow) := by
  have hgenesis := keptIn_genesis cfg ledger now hnow
  -- the states before and after every input fit
  have hboth := hfits.along_both
  have hkept : ∀ {x : Input AccountId L} {w w'}, KeptIn cfg w →
      (Fits cfg w ∧ Fits cfg (exec (step cfg) x w)) →
      step cfg x w = .ok w' → KeptIn cfg w' := by
    intro x w w' hk hfits hs
    rw [exec_ok hs] at hfits
    exact hk.step hperiod hfits.1 hfits.2 hs
  refine ⟨?_, ?_, fun a hothers => ?_⟩
  · have hrun : Throughout (recording (decisions cfg) (step cfg))
        (fun t => (KeptIn cfg t.1 ∧ Fits cfg t.1) ∧ t.2 = t.1.decisionsOf) xs
        (.genesis ledger now hnow, fun _ => []) := by
      refine throughout_of_along (Q := fun t x => Fits cfg t.1 ∧ Fits cfg (exec (step cfg) x t.1))
        ?_ ⟨⟨hgenesis, hfits.head⟩, (World.decisionsOf_genesis ledger now hnow).symm⟩
        (along_recording (Q := fun w x => Fits cfg w ∧ Fits cfg (exec (step cfg) x w)).mpr hboth)
      rintro x ⟨w, h⟩ ⟨w', h'⟩ ⟨⟨hk, -⟩, hrecorded⟩ hfits hs
      obtain ⟨hs, rfl⟩ := recording_eq_ok.mp hs
      obtain rfl : h = w.decisionsOf := hrecorded
      refine ⟨⟨hkept hk hfits hs, ?_⟩, hk.decisions_eq hs⟩
      exact exec_ok hs ▸ hfits.2
    refine hrun.imp fun t ht => ?_
    rw [ht.2]
    exact ht.1.1.sound ht.1.2
  · refine ascending_of_invariant (J := KeptIn cfg) ?_ ?_
      (fun x w w' hk hfits hs => hkept hk hfits hs)
      (fun x w w' hk _ hs => hk.settled hs) hgenesis hboth
    · exact fun w appId app hget _ => ⟨hget, rfl⟩
    · intro w w' w'' h h' appId app hget hdecided
      obtain ⟨hget', hvoters⟩ := h appId app hget hdecided
      obtain ⟨hget'', hvoters'⟩ := h' appId app hget' hdecided
      exact ⟨hget'', hvoters'.trans hvoters⟩
  · refine (throughout_of_along (P := fun w => KeptIn cfg w ∧
        Reserving a (reservedBalance ledger a) w.toState)
      (Q := fun w x => (Fits cfg w ∧ Fits cfg (exec (step cfg) x w)) ∧ Undisturbed a w x) ?_
      ⟨hgenesis, ?_⟩ ?_).imp fun w h => h.2
    · rintro x w w' ⟨hk, hreserving⟩ ⟨hfits, hothers⟩ hs
      exact ⟨hkept hk hfits hs, hreserving.step hk hothers hs⟩
    · rfl
    · exact hboth.and hothers

end Runs

/-! ### A license that is granted, and one that nobody votes on -/

/-- Account one applies for a license, which a delegate approves. -/
def granted : List Runtime.LicensingInput :=
  [Runtime.ministryAuthorized,
    Runtime.amongDelegates (.signed 1)
      (.submitLicenseApplication 9 .mineralExtraction 0 1 (.ofByte 0) 5),
    Runtime.amongDelegates (.signed 2) (.voteOnLicense 0 true),
    .block]

theorem licensing_protocol_granted :
    Throughout (recording (decisions (Runtime.briefLicensing 1)) (step (Runtime.briefLicensing 1)))
        (fun t => Sound (Runtime.briefLicensing 1) t.1 t.2) granted
        (Runtime.licensingGenesis, fun _ => []) ∧
      Ascending (step (Runtime.briefLicensing 1)) Settled granted Runtime.licensingGenesis ∧
      Throughout (step (Runtime.briefLicensing 1))
        (fun w => reservedBalance w.ledger 1 =
          reservedBalance Runtime.licensingGenesis.ledger 1 + w.deposits 1) granted
        Runtime.licensingGenesis := by
  obtain ⟨hsound, hsettled, hreserved⟩ := licensing_protocol (Runtime.briefLicensing 1) (by decide)
    (ProvidedBalances.ofFree []) 0 (Nat.zero_le _) granted (by decide +kernel)
  refine ⟨hsound, hsettled, hreserved 1 ?_⟩
  refine ⟨?_, ?_, ?_, ?_, trivial⟩ <;> exact fun _ _ _ h => by cases h

/-- Account one applies for a nuclear operation, on which nobody votes. -/
def unvoted : List Runtime.LicensingInput :=
  [Runtime.ministryAuthorized,
    Runtime.amongDelegates (.signed 1)
      (.submitLicenseApplication 9 .nuclearOperator 0 1 (.ofByte 0) 5),
    .block]

/-- Two thirds of no votes approve nothing, even where no approvals are needed. -/
theorem unvoted_rejected : ¬ ∀ (cfg : Config ℕ) (xs : List Runtime.LicensingInput),
    0 < cfg.licenseVotingPeriod →
      Throughout (step cfg) (Fits cfg) xs Runtime.licensingGenesis →
        Throughout (step cfg)
          (fun w => ∀ appId app, w.licenseApplications.get appId = some app →
            app.status ≠ .pendingKhural →
              (app.status = .approved ↔ cfg.minLicenseQuorum ≤ app.votesFor ∧
                if app.licenseType.requiresSupermajority then
                  2 * (app.votesFor + app.votesAgainst) ≤ 3 * app.votesFor
                else app.votesAgainst < app.votesFor)) xs Runtime.licensingGenesis := by
  intro h
  have hlast := (h (Runtime.briefLicensing 0) unvoted (by decide) (by decide +kernel)).last
  have happ : ((run (step (Runtime.briefLicensing 0)) unvoted
      Runtime.licensingGenesis).licenseApplications.get 0).map
        (fun app => (app.status, app.votesFor, app.votesAgainst,
          app.licenseType.requiresSupermajority)) = some (.rejected, 0, 0, true) := by
    decide +kernel
  obtain ⟨app, hget, heq⟩ := Option.map_eq_some_iff.mp happ
  simp only [Prod.mk.injEq] at heq
  obtain ⟨hstatus, hfor, hagainst, hsuper⟩ := heq
  have hiff := hlast 0 app hget (by simp [hstatus])
  simp [hstatus, hfor, hagainst, hsuper, Runtime.briefLicensing] at hiff

end Licensing
