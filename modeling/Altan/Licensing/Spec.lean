import Altan.Foundation.Marks
import Altan.Foundation.TransitionSystem
import Altan.Licensing.Model

/-!
# Licensing as a state machine

Calls come from anybody, with what is known of the citizens when they are dispatched, and the courts
revoke licenses; other modules move balances in between; and blocks follow each other, each with the
enactments at its start. This module says once what an accepted input goes through and does.

## Main definitions

* `Input`, `World`, `step`: the module as a state machine
* `filed`: the storage after an application is filed
* `LicenseApplication.enacted`: an application after its enactment
* `Transition`: what an accepted input goes through and does

## Main results

* `step_transition`: every accepted input is a transition
* `onInitialize_applications`: the start of a block enacts what is listed
-/

open Bounded Dispatch Ledger TransitionSystem Identity

namespace Licensing

variable {AccountId L : Type}

/-! ### The state machine -/

/-- A call with what it is dispatched with, a verdict that revokes a license, what other modules do
to the balances, or the start of the next block. -/
inductive Input (AccountId L : Type)
  | call (origin : Origin AccountId) (citizens : AccountId → Option CitizenRecord)
    (c : Call AccountId)
  | judicialRevoke (licenseId : ℕ) (reason : List UInt8)
  | elsewhere (ledger : L)
  | block

/-- The storage in a block, whose number fits. -/
structure World (AccountId L : Type) extends State AccountId L where
  now : ℕ
  now_le : now ≤ u32Max

/-- The storage before any call, in a block. -/
def World.genesis (ledger : L) (now : ℕ) (h : now ≤ u32Max) : World AccountId L :=
  { Licensing.genesis ledger with now := now, now_le := h }

/-- The license that an input renews. -/
def Input.renews : Input AccountId L → Option ℕ
  | .call _ _ (.renewLicense licenseId _ _) => some licenseId
  | _ => none

/-- The license that an input revokes. -/
def Input.revokes : Input AccountId L → Option ℕ
  | .call _ _ (.revokeLicense licenseId _) => some licenseId
  | .judicialRevoke licenseId _ => some licenseId
  | _ => none

section Step

variable [DecidableEq AccountId] [Currency AccountId L] [EscrowCurrency AccountId L]

/-- The state after one input. -/
def step (cfg : Config AccountId) :
    Input AccountId L → World AccountId L → Result (World AccountId L)
  | .call origin citizens c, w => do
    let s ← dispatch cfg ⟨origin, w.now, citizens⟩ c w.toState
    return { w with toState := s }
  | .judicialRevoke licenseId reason, w => do
    let s ← judicialRevoke licenseId reason w.toState
    return { w with toState := s }
  | .elsewhere ledger, w => .ok { w with ledger := ledger }
  | .block, w =>
    if h : w.now + 1 ≤ u32Max then
      .ok { toState := onInitialize cfg (w.now + 1) w.toState, now := w.now + 1, now_le := h }
    else .error .panic

end Step

/-! ### The calls -/

/-- Who has voted on an application. -/
def State.voters [DecidableEq AccountId] (s : State AccountId L) (appId : ℕ) : Finset AccountId :=
  s.hasVotedOnLicense.marked appId

/-- The application of a filing. -/
def Filing.application (cfg : Config AccountId) (now appId : ℕ) (caller : AccountId)
    (ministryRec : MinistryRecord) (filing : Filing AccountId) : LicenseApplication AccountId where
  appId := appId
  orgAccount := filing.orgAccount
  licenseType := filing.licenseType
  regionId := filing.regionId
  nationId := filing.nationId
  submitter := caller
  ministryTag := ministryRec.tag
  auditHash := filing.auditHash
  requestedDuration := filing.duration
  votesFor := 0
  votesAgainst := 0
  status := .pendingKhural
  endBlock := saturatingAdd u32Max now cfg.licenseVotingPeriod
  isRenewal := filing.renewsLicenseId.isSome
  renewsLicenseId := filing.renewsLicenseId

/-- The storage after an application is filed. -/
def filed [DecidableEq AccountId] (cfg : Config AccountId) (now : ℕ) (caller : AccountId)
    (ministryRec : MinistryRecord) (filing : Filing AccountId) (ledger : L) (ids : AppIds)
    (s : State AccountId L) : State AccountId L :=
  { s with
    ledger := ledger
    licenseApplications := s.licenseApplications.insert s.nextLicenseAppId
      (filing.application cfg now s.nextLicenseAppId caller ministryRec)
    nextLicenseAppId := saturatingAdd u32Max s.nextLicenseAppId 1
    licenseAppsEnding :=
      s.licenseAppsEnding.insert (saturatingAdd u32Max now cfg.licenseVotingPeriod) ids
    applicationDepositors :=
      s.applicationDepositors.insert s.nextLicenseAppId (caller, cfg.applicationDeposit) }

/-- What the filing of an application goes through: the deposit is reserved, and there is room on
the list of its last block. -/
structure Fileable [Currency AccountId L] [EscrowCurrency AccountId L] (cfg : Config AccountId)
    (now : ℕ) (caller : AccountId) (ledger : L) (ids : AppIds) (s : State AccountId L) : Prop where
  reserved : ReservableCurrency.reserve s.ledger caller cfg.applicationDeposit = .ok ledger
  listed : ids.val =
    (s.appsEnding (saturatingAdd u32Max now cfg.licenseVotingPeriod)).val ++ [s.nextLicenseAppId]

section Calls

variable [DecidableEq AccountId] {cfg : Config AccountId} {ctx : Context AccountId}
  {s s' : State AccountId L} {w w' : World AccountId L} {x : Input AccountId L}

theorem LicenseType.defaultDuration_le (licenseType : LicenseType) :
    licenseType.defaultDuration ≤ maxLicenseBlocks := by
  cases licenseType <;> decide

theorem submittedDuration_le {licenseType : LicenseType} {requestedDuration duration : ℕ}
    (h : submittedDuration licenseType requestedDuration = .ok duration) :
    duration ≤ maxLicenseBlocks := by
  unfold submittedDuration at h
  split at h
  · rw [← Except.ok.inj h]
    exact licenseType.defaultDuration_le
  · simp only [ensure_bind_eq_ok, pure_eq_ok] at h
    obtain ⟨-, hle, rfl⟩ := h
    exact hle

theorem renewedDuration_le {licenseType : LicenseType} {requestedDuration duration : ℕ}
    (h : renewedDuration licenseType requestedDuration = .ok duration) :
    duration ≤ maxLicenseBlocks := by
  unfold renewedDuration at h
  split at h
  · rw [← Except.ok.inj h]
    exact licenseType.defaultDuration_le
  · simp only [ensure_bind_eq_ok, pure_eq_ok] at h
    obtain ⟨hle, rfl⟩ := h
    exact hle

omit [DecidableEq AccountId] in
@[simp] theorem LicenseApplication.withVote_status (app : LicenseApplication AccountId)
    (approve : Bool) : (app.withVote approve).status = app.status := by
  unfold LicenseApplication.withVote
  split <;> rfl

omit [DecidableEq AccountId] in
@[simp] theorem LicenseApplication.withVote_endBlock (app : LicenseApplication AccountId)
    (approve : Bool) : (app.withVote approve).endBlock = app.endBlock := by
  unfold LicenseApplication.withVote
  split <;> rfl

omit [DecidableEq AccountId] in
@[simp] theorem LicenseApplication.withVote_requestedDuration
    (app : LicenseApplication AccountId) (approve : Bool) :
    (app.withVote approve).requestedDuration = app.requestedDuration := by
  unfold LicenseApplication.withVote
  split <;> rfl

omit [DecidableEq AccountId] in
/-- A vote is one vote more while the tally fits. -/
theorem LicenseApplication.withVote_tally {app : LicenseApplication AccountId}
    (h : app.votesFor + app.votesAgainst < u32Max) (approve : Bool) :
    (app.withVote approve).votesFor + (app.withVote approve).votesAgainst =
      app.votesFor + app.votesAgainst + 1 := by
  unfold LicenseApplication.withVote
  cases approve with
  | true =>
    rw [if_pos rfl, saturatingAdd_of_le (by omega)]
    exact Nat.add_right_comm _ _ _
  | false =>
    rw [if_neg Bool.false_ne_true, saturatingAdd_of_le (by omega)]
    exact (Nat.add_assoc _ _ _).symm

section Filing

variable [Currency AccountId L] [EscrowCurrency AccountId L] {caller : AccountId}
  {ministryRec : MinistryRecord} {filing : Filing AccountId}

theorem fileApplication_eq_ok : fileApplication cfg ctx caller ministryRec filing s = .ok s' ↔
    ∃ ledger ids, Fileable cfg ctx.now caller ledger ids s ∧
      s' = filed cfg ctx.now caller ministryRec filing ledger ids s := by
  unfold fileApplication
  constructor
  · intro h
    obtain ⟨ledger, hledger, h⟩ := bind_eq_ok.mp h
    obtain ⟨ids, hids, h⟩ := bind_eq_ok.mp h
    exact ⟨ledger, ids, ⟨mapError_eq_ok.mp hledger,
      BoundedVec.tryPush_eq_some.mp (required_eq_ok.mp hids)⟩, (pure_eq_ok.mp h).symm⟩
  · rintro ⟨ledger, ids, hfileable, rfl⟩
    refine bind_eq_ok.mpr ⟨ledger, mapError_eq_ok.mpr hfileable.reserved, ?_⟩
    exact bind_eq_ok.mpr
      ⟨ids, required_eq_ok.mpr (BoundedVec.tryPush_eq_some.mpr hfileable.listed), rfl⟩

omit [Currency AccountId L] [EscrowCurrency AccountId L] in
theorem authorizedMinistry_bind_eq_ok {α : Type} {k : MinistryRecord → Result α} {b : α} :
    (authorizedMinistry caller s >>= k) = .ok b ↔
      ∃ ministryRec, s.authorizedMinistries.get caller = some ministryRec ∧
        ministryRec.isActive = true ∧ k ministryRec = .ok b := by
  simp only [authorizedMinistry, bind_assoc, required_bind_eq_ok, ensure_bind_eq_ok, pure_bind]

/-- An accepted application is filed, for no more than the longest duration. -/
theorem submitLicenseApplication_filed {orgAccount : AccountId} {licenseType : LicenseType}
    {regionId : UInt8} {nationId requestedDuration : ℕ} {auditHash : Bytes32}
    (h : submitLicenseApplication cfg ctx orgAccount licenseType regionId nationId auditHash
      requestedDuration s = .ok s') :
    ∃ caller ministryRec filing ledger ids, ctx.origin = .signed caller ∧
      filing.duration ≤ maxLicenseBlocks ∧ filing.renewsLicenseId = none ∧
      Fileable cfg ctx.now caller ledger ids s ∧
      s' = filed cfg ctx.now caller ministryRec filing ledger ids s := by
  simp only [submitLicenseApplication, ensureSigned_bind_eq_ok, authorizedMinistry_bind_eq_ok] at h
  obtain ⟨caller, horigin, ministryRec, -, -, h⟩ := h
  obtain ⟨duration, hduration, h⟩ := bind_eq_ok.mp h
  obtain ⟨ledger, ids, hfileable, rfl⟩ := fileApplication_eq_ok.mp h
  refine ⟨caller, ministryRec, _, ledger, ids, horigin, ?_, ?_, hfileable, rfl⟩
  · exact submittedDuration_le hduration
  · rfl

/-- An accepted renewal is filed for an active license, and for no more than the longest
duration. -/
theorem renewLicense_filed {licenseId requestedDuration : ℕ} {auditHash : Bytes32}
    (h : renewLicense cfg ctx licenseId auditHash requestedDuration s = .ok s') :
    ∃ caller ministryRec filing ledger ids, ctx.origin = .signed caller ∧
      filing.duration ≤ maxLicenseBlocks ∧ filing.renewsLicenseId = some licenseId ∧
      (∃ license, s.licenses.get licenseId = some license ∧ license.isActive = true) ∧
      Fileable cfg ctx.now caller ledger ids s ∧
      s' = filed cfg ctx.now caller ministryRec filing ledger ids s := by
  simp only [renewLicense, ensureSigned_bind_eq_ok, authorizedMinistry_bind_eq_ok,
    required_bind_eq_ok, ensure_bind_eq_ok] at h
  obtain ⟨caller, horigin, ministryRec, -, -, license, hget, hactive, h⟩ := h
  obtain ⟨duration, hduration, h⟩ := bind_eq_ok.mp h
  obtain ⟨ledger, ids, hfileable, rfl⟩ := fileApplication_eq_ok.mp h
  refine ⟨caller, ministryRec, _, ledger, ids, horigin, ?_, ?_, ⟨license, hget, hactive⟩,
    hfileable, rfl⟩
  · exact renewedDuration_le hduration
  · rfl

end Filing

/-- The storage after a vote. -/
def voted (caller : AccountId) (appId : ℕ) (approve : Bool) (app : LicenseApplication AccountId)
    (s : State AccountId L) : State AccountId L :=
  { s with
    hasVotedOnLicense := s.hasVotedOnLicense.insert (appId, caller) true
    licenseApplications := s.licenseApplications.insert appId (app.withVote approve) }

theorem voteOnLicense_voted {appId : ℕ} {approve : Bool}
    (h : voteOnLicense ctx appId approve s = .ok s') :
    ∃ caller app, ctx.origin = .signed caller ∧ s.licenseApplications.get appId = some app ∧
      app.status = .pendingKhural ∧ ctx.now < app.endBlock ∧
      s.hasVotedOnLicense.getD (appId, caller) false = false ∧
      s' = voted caller appId approve app s := by
  simp only [voteOnLicense, ensureSigned_bind_eq_ok, required_bind_eq_ok, ensure_bind_eq_ok] at h
  obtain ⟨caller, horigin, app, hget, hpending, hopen, h⟩ := h
  obtain ⟨_, -, h⟩ := bind_eq_ok.mp h
  simp only [ensure_bind_eq_ok, pure_eq_ok] at h
  obtain ⟨hfirst, rfl⟩ := h
  exact ⟨caller, app, horigin, hget, hpending, hopen, hfirst, rfl⟩

omit [DecidableEq AccountId] in
theorem revokeLicense_eq_ok {licenseId : ℕ} {reason : BoundedVec UInt8 256} :
    revokeLicense ctx licenseId reason s = .ok s' ↔
      ctx.origin = .root ∧ ∃ license, s.licenses.get licenseId = some license ∧
        license.isActive = true ∧
        s' = { s with licenses := s.licenses.insert licenseId (license.revoked reason) } := by
  simp only [revokeLicense, ensureRoot_bind_eq_ok, required_bind_eq_ok, ensure_bind_eq_ok,
    pure_eq_ok, eq_comm (a := s')]

omit [DecidableEq AccountId] in
theorem judicialRevoke_eq_ok {licenseId : ℕ} {reason : List UInt8} :
    judicialRevoke licenseId reason s = .ok s' ↔
      ∃ boundedReason license, boundedReason.val = reason ∧
        s.licenses.get licenseId = some license ∧
        s' = { s with
          licenses := s.licenses.insert licenseId (license.revoked boundedReason) } := by
  simp only [judicialRevoke, required_bind_eq_ok, pure_eq_ok, BoundedVec.tryFrom_eq_some,
    eq_comm (a := s'), exists_and_left]

end Calls

/-! ### The end of a vote -/

/-- An application after its enactment. -/
def LicenseApplication.enacted (cfg : Config AccountId) (app : LicenseApplication AccountId) :
    LicenseApplication AccountId :=
  if app.status = .pendingKhural then
    { app with status := if app.passes cfg then .approved else .rejected }
  else app

@[simp] theorem LicenseApplication.enacted_endBlock (cfg : Config AccountId)
    (app : LicenseApplication AccountId) : (app.enacted cfg).endBlock = app.endBlock := by
  unfold LicenseApplication.enacted
  split <;> rfl

@[simp] theorem LicenseApplication.enacted_requestedDuration (cfg : Config AccountId)
    (app : LicenseApplication AccountId) :
    (app.enacted cfg).requestedDuration = app.requestedDuration := by
  unfold LicenseApplication.enacted
  split <;> rfl

theorem LicenseApplication.enacted_of_ne {cfg : Config AccountId}
    {app : LicenseApplication AccountId} (h : app.status ≠ .pendingKhural) :
    app.enacted cfg = app := if_neg h

/-- An enacted application is decided. -/
theorem LicenseApplication.enacted_status (cfg : Config AccountId)
    (app : LicenseApplication AccountId) : (app.enacted cfg).status ≠ .pendingKhural := by
  unfold LicenseApplication.enacted
  split
  · dsimp only
    split <;> exact fun h => by cases h
  · next h => exact h

theorem LicenseApplication.enacted_enacted (cfg : Config AccountId)
    (app : LicenseApplication AccountId) : (app.enacted cfg).enacted cfg = app.enacted cfg :=
  enacted_of_ne (app.enacted_status cfg)

/-- An enacted application is approved when it was, or was voted on and passes. -/
theorem LicenseApplication.enacted_approved {cfg : Config AccountId}
    {app : LicenseApplication AccountId} (hpending : app.status = .pendingKhural) :
    (app.enacted cfg).status = .approved ↔ app.passes cfg = true := by
  unfold LicenseApplication.enacted
  rw [if_pos hpending]
  dsimp only
  split
  · next h => simp [h]
  · next h => simp [h]

section Enactment

variable [DecidableEq AccountId] [Currency AccountId L] [EscrowCurrency AccountId L]
  {cfg : Config AccountId} {n id id' : ℕ} {s : State AccountId L}
  {app : LicenseApplication AccountId}

/-- What the enactment of an application leaves. -/
structure Spared (s s' : State AccountId L) : Prop where
  authorizedMinistries : s'.authorizedMinistries = s.authorizedMinistries
  licenseAppsEnding : s'.licenseAppsEnding = s.licenseAppsEnding
  hasVotedOnLicense : s'.hasVotedOnLicense = s.hasVotedOnLicense
  nextLicenseAppId : s'.nextLicenseAppId = s.nextLicenseAppId

omit [DecidableEq AccountId] [Currency AccountId L] [EscrowCurrency AccountId L] in
theorem Spared.trans {s s' s'' : State AccountId L} (h : Spared s s') (h' : Spared s' s'') :
    Spared s s'' where
  authorizedMinistries := h'.authorizedMinistries.trans h.authorizedMinistries
  licenseAppsEnding := h'.licenseAppsEnding.trans h.licenseAppsEnding
  hasVotedOnLicense := h'.hasVotedOnLicense.trans h.hasVotedOnLicense
  nextLicenseAppId := h'.nextLicenseAppId.trans h.nextLicenseAppId

theorem enactApplication_spared (cfg : Config AccountId) (n id : ℕ)
    (app : LicenseApplication AccountId) (s : State AccountId L) :
    Spared s (enactApplication cfg n id app s) := by
  unfold enactApplication
  split <;> exact ⟨rfl, rfl, rfl, rfl⟩

theorem enactApplication_applications (cfg : Config AccountId) (n id : ℕ) (s : State AccountId L)
    (hpending : app.status = .pendingKhural) :
    (enactApplication cfg n id app s).licenseApplications =
      s.licenseApplications.insert id (app.enacted cfg) := by
  unfold enactApplication LicenseApplication.enacted
  rw [if_pos hpending]
  split
  · rfl
  · rfl

theorem enactApplication_depositors :
    (enactApplication cfg n id app s).applicationDepositors =
      s.applicationDepositors.remove id := by
  unfold enactApplication
  split <;> rfl

theorem enactApplication_ledger : (enactApplication cfg n id app s).ledger =
    settleDeposit (app.passes cfg) (s.applicationDepositors.get id) s.ledger := by
  unfold enactApplication
  split
  · next h => rw [h]
  · next h => rw [Bool.eq_false_of_not_eq_true h]

/-- A license is issued under the next number, or none is. -/
theorem enactApplication_licenses (cfg : Config AccountId) (n id : ℕ)
    (app : LicenseApplication AccountId) (s : State AccountId L) :
    app.passes cfg = true ∧
        (enactApplication cfg n id app s).licenses =
          s.licenses.insert s.nextLicenseId (app.license s.nextLicenseId id n) ∧
        (enactApplication cfg n id app s).nextLicenseId =
          saturatingAdd u32Max s.nextLicenseId 1 ∨
      app.passes cfg = false ∧
        (enactApplication cfg n id app s).licenses = s.licenses ∧
        (enactApplication cfg n id app s).nextLicenseId = s.nextLicenseId := by
  unfold enactApplication
  split
  · next h => exact Or.inl ⟨h, rfl, rfl⟩
  · next h => exact Or.inr ⟨Bool.eq_false_of_not_eq_true h, rfl, rfl⟩

/-- An enactment of a list: of an application that is voted on, or of nothing. -/
theorem enactListed_cases (cfg : Config AccountId) (n id : ℕ) (s : State AccountId L) :
    (∃ app, s.licenseApplications.get id = some app ∧ app.status = .pendingKhural ∧
        enactListed cfg n s id = enactApplication cfg n id app s) ∨
      (∀ app, s.licenseApplications.get id = some app → app.status ≠ .pendingKhural) ∧
        enactListed cfg n s id = s := by
  unfold enactListed
  cases hget : s.licenseApplications.get id with
  | none => exact Or.inr ⟨(fun app happ => by cases happ), rfl⟩
  | some app =>
    dsimp only
    split
    · next hpending => exact Or.inl ⟨app, rfl, hpending, rfl⟩
    · next hpending => exact Or.inr ⟨fun app' happ' => Option.some.inj happ' ▸ hpending, rfl⟩

/-- The enactment of an application that is voted on is not skipped. -/
theorem enactListed_of_pending (cfg : Config AccountId) (n : ℕ)
    (hget : s.licenseApplications.get id = some app) (hpending : app.status = .pendingKhural) :
    enactListed cfg n s id = enactApplication cfg n id app s := by
  rcases enactListed_cases cfg n id s with ⟨app', hget', -, he⟩ | ⟨hdecided, -⟩
  · obtain rfl := Option.some.inj (hget.symm.trans hget')
    exact he
  · exact absurd hpending (hdecided app hget)

theorem enactListed_spared : Spared s (enactListed cfg n s id) := by
  rcases enactListed_cases cfg n id s with ⟨app, -, -, he⟩ | ⟨-, he⟩
  · rw [he]
    exact enactApplication_spared cfg n id app s
  · rw [he]
    exact ⟨rfl, rfl, rfl, rfl⟩

/-- **A listed application is enacted, and no other is.** -/
theorem enactListed_applications : (enactListed cfg n s id).licenseApplications.get id' =
    if id' = id then (s.licenseApplications.get id).map (LicenseApplication.enacted cfg)
    else s.licenseApplications.get id' := by
  rcases enactListed_cases cfg n id s with ⟨app, hget, hpending, he⟩ | ⟨hdecided, he⟩
  · rw [he, enactApplication_applications cfg n id s hpending, StorageMap.get_insert, hget]
    rfl
  · rw [he]
    split
    · next hid =>
      rw [hid]
      cases hget : s.licenseApplications.get id with
      | none => rfl
      | some app =>
        rw [Option.map_some, LicenseApplication.enacted_of_ne (hdecided app hget)]
    · rfl

/-- Several listed applications are enacted, one after the other. -/
def enactAll (cfg : Config AccountId) (n : ℕ) (ids : List ℕ) (s : State AccountId L) :
    State AccountId L := ids.foldl (enactListed cfg n) s

theorem enactAll_spared (ids : List ℕ) : Spared s (enactAll cfg n ids s) := by
  induction ids generalizing s with
  | nil => exact ⟨rfl, rfl, rfl, rfl⟩
  | cons id ids ih => exact enactListed_spared.trans ih

theorem enactAll_applications (ids : List ℕ) :
    (enactAll cfg n ids s).licenseApplications.get id =
      if id ∈ ids then (s.licenseApplications.get id).map (LicenseApplication.enacted cfg)
      else s.licenseApplications.get id := by
  induction ids generalizing s with
  | nil => rfl
  | cons first ids ih =>
    change (enactAll cfg n ids (enactListed cfg n s first)).licenseApplications.get id = _
    rw [ih, enactListed_applications]
    by_cases hfirst : id = first
    · subst hfirst
      rw [if_pos rfl, if_pos List.mem_cons_self, Option.map_map]
      -- twice on the list is as good as once
      have htwice : LicenseApplication.enacted cfg ∘ LicenseApplication.enacted cfg =
          LicenseApplication.enacted cfg := funext (LicenseApplication.enacted_enacted cfg)
      rw [htwice, ite_self]
    · rw [if_neg hfirst]
      simp only [List.mem_cons, hfirst, false_or]

/-- The storage without the list of a block. -/
def State.withoutEnding (s : State AccountId L) (block : ℕ) : State AccountId L :=
  { s with licenseAppsEnding := s.licenseAppsEnding.remove block }

/-- **The start of a block enacts what is listed for it.** -/
theorem onInitialize_applications : (onInitialize cfg n s).licenseApplications.get id =
    if id ∈ (s.appsEnding n).val then
      (s.licenseApplications.get id).map (LicenseApplication.enacted cfg)
    else s.licenseApplications.get id :=
  enactAll_applications (s.appsEnding n).val

theorem onInitialize_spared (cfg : Config AccountId) (n : ℕ) (s : State AccountId L) :
    Spared (s.withoutEnding n) (onInitialize cfg n s) :=
  enactAll_spared (s.appsEnding n).val

/-- An enactment gives out a number or none. -/
theorem enactListed_nextLicenseId (cfg : Config AccountId) (n id : ℕ)
    (hfits : s.nextLicenseId ≤ u32Max) :
    s.nextLicenseId ≤ (enactListed cfg n s id).nextLicenseId ∧
      (enactListed cfg n s id).nextLicenseId ≤ u32Max := by
  rcases enactListed_cases cfg n id s with ⟨app, -, -, he⟩ | ⟨-, he⟩
  · rw [he]
    rcases enactApplication_licenses cfg n id app s with
      ⟨-, -, hnext⟩ | ⟨-, -, hnext⟩
    · rw [hnext]
      exact ⟨Nat.le_min.mpr ⟨Nat.le_succ _, hfits⟩, Nat.min_le_right _ _⟩
    · rw [hnext]
      exact ⟨Nat.le_refl _, hfits⟩
  · rw [he]
    exact ⟨Nat.le_refl _, hfits⟩

theorem enactAll_nextLicenseId (cfg : Config AccountId) (n : ℕ) (ids : List ℕ)
    (hfits : s.nextLicenseId ≤ u32Max) :
    s.nextLicenseId ≤ (enactAll cfg n ids s).nextLicenseId ∧
      (enactAll cfg n ids s).nextLicenseId ≤ u32Max := by
  induction ids generalizing s with
  | nil => exact ⟨Nat.le_refl _, hfits⟩
  | cons first ids ih =>
    obtain ⟨hfirst, hfits'⟩ := enactListed_nextLicenseId cfg n first hfits
    obtain ⟨hrest, hlast⟩ := ih hfits'
    exact ⟨hfirst.trans hrest, hlast⟩

end Enactment

/-! ### What an accepted input does -/

/-- What an accepted input goes through, and the storage after it. -/
inductive Transition [DecidableEq AccountId] [Currency AccountId L] [EscrowCurrency AccountId L]
    (cfg : Config AccountId) (w : World AccountId L) : Input AccountId L → State AccountId L → Prop
  | ministries (x : Input AccountId L) (ministries : StorageMap AccountId MinistryRecord)
    (hrenews : x.renews = none) (hrevokes : x.revokes = none) :
    Transition cfg w x { w.toState with authorizedMinistries := ministries }
  | filed (caller : AccountId) (citizens : AccountId → Option CitizenRecord) (c : Call AccountId)
    (ministryRec : MinistryRecord) (filing : Filing AccountId) (ledger : L) (ids : AppIds)
    (hduration : filing.duration ≤ maxLicenseBlocks)
    (hrenews : filing.renewsLicenseId = Input.renews (L := L) (.call (.signed caller) citizens c))
    (hrevokes : Input.revokes (L := L) (.call (.signed caller) citizens c) = none)
    (hactive : ∀ licenseId, filing.renewsLicenseId = some licenseId →
      ∃ license, w.licenses.get licenseId = some license ∧ license.isActive = true)
    (hfileable : Fileable cfg w.now caller ledger ids w.toState) :
    Transition cfg w (.call (.signed caller) citizens c)
      (filed cfg w.now caller ministryRec filing ledger ids w.toState)
  | voted (caller : AccountId) (citizens : AccountId → Option CitizenRecord) (appId : ℕ)
    (approve : Bool) (app : LicenseApplication AccountId)
    (hget : w.licenseApplications.get appId = some app) (hpending : app.status = .pendingKhural)
    (hopen : w.now < app.endBlock)
    (hfirst : w.hasVotedOnLicense.getD (appId, caller) false = false) :
    Transition cfg w (.call (.signed caller) citizens (.voteOnLicense appId approve))
      (voted caller appId approve app w.toState)
  | revoked (x : Input AccountId L) (licenseId : ℕ) (reason : BoundedVec UInt8 256)
    (license : License AccountId) (hrenews : x.renews = none)
    (hrevokes : x.revokes = some licenseId) (hget : w.licenses.get licenseId = some license) :
    Transition cfg w x
      { w.toState with licenses := w.licenses.insert licenseId (license.revoked reason) }
  | elsewhere (ledger : L) :
    Transition cfg w (.elsewhere ledger) { w.toState with ledger := ledger }
  | block (h : w.now + 1 ≤ u32Max) :
    Transition cfg w .block (onInitialize cfg (w.now + 1) w.toState)

section Transitions

variable [DecidableEq AccountId] [Currency AccountId L] [EscrowCurrency AccountId L]
  {cfg : Config AccountId} {w w' : World AccountId L} {x : Input AccountId L}

theorem step_block_eq_ok : step cfg .block w = .ok w' ↔ ∃ h : w.now + 1 ≤ u32Max,
    w' = { toState := onInitialize cfg (w.now + 1) w.toState, now := w.now + 1, now_le := h } := by
  change (if h : _ then _ else _) = _ ↔ _
  split
  · next h => simp [h, eq_comm]
  · next h => simp [h]

/-- **Every accepted input is a transition.** -/
theorem step_transition (h : step cfg x w = .ok w') : Transition cfg w x w'.toState := by
  cases x with
  | elsewhere ledger =>
    obtain rfl := Except.ok.inj h
    exact .elsewhere ledger
  | block =>
    obtain ⟨hfits, rfl⟩ := step_block_eq_ok.mp h
    exact .block hfits
  | judicialRevoke licenseId reason =>
    obtain ⟨s, hs, h⟩ := bind_eq_ok.mp h
    obtain rfl := pure_eq_ok.mp h
    obtain ⟨boundedReason, license, -, hget, rfl⟩ := judicialRevoke_eq_ok.mp hs
    exact .revoked _ licenseId boundedReason license rfl rfl hget
  | call origin citizens c =>
    obtain ⟨s, hs, h⟩ := bind_eq_ok.mp h
    obtain rfl := pure_eq_ok.mp h
    cases c with
    | authorizeMinistry ministry tag nationId =>
      simp only [dispatch, authorizeMinistry, ensure_bind_eq_ok, pure_eq_ok] at hs
      obtain ⟨-, -, rfl⟩ := hs
      exact .ministries _ _ rfl rfl
    | deauthorizeMinistry ministry =>
      simp only [dispatch, deauthorizeMinistry, ensure_bind_eq_ok, pure_eq_ok] at hs
      obtain ⟨-, rfl⟩ := hs
      exact .ministries _ _ rfl rfl
    | submitLicenseApplication orgAccount licenseType regionId nationId auditHash
        requestedDuration =>
      obtain ⟨caller, ministryRec, filing, ledger, ids, horigin, hduration, hrenews, hfileable,
        rfl⟩ := submitLicenseApplication_filed hs
      obtain rfl : origin = .signed caller := horigin
      refine .filed caller citizens _ ministryRec filing ledger ids hduration hrenews rfl ?_
        hfileable
      intro licenseId hid
      rw [hrenews] at hid
      cases hid
    | voteOnLicense appId approve =>
      obtain ⟨caller, app, horigin, hget, hpending, hopen, hfirst, rfl⟩ := voteOnLicense_voted hs
      obtain rfl : origin = .signed caller := horigin
      exact .voted caller citizens appId approve app hget hpending hopen hfirst
    | revokeLicense licenseId reason =>
      obtain ⟨-, license, hget, -, rfl⟩ := revokeLicense_eq_ok.mp hs
      exact .revoked _ licenseId reason license rfl rfl hget
    | renewLicense licenseId auditHash requestedDuration =>
      obtain ⟨caller, ministryRec, filing, ledger, ids, horigin, hduration, hrenews, hactive,
        hfileable, rfl⟩ := renewLicense_filed hs
      obtain rfl : origin = .signed caller := horigin
      refine .filed caller citizens _ ministryRec filing ledger ids hduration hrenews rfl ?_
        hfileable
      intro licenseId' hid
      obtain rfl := Option.some.inj (hrenews.symm.trans hid)
      exact hactive

/-- Only the start of a block moves the block. -/
theorem step_now (h : step cfg x w = .ok w') :
    x ≠ .block ∧ w'.now = w.now ∨ x = .block ∧ w'.now = w.now + 1 := by
  cases x with
  | elsewhere ledger =>
    obtain rfl := Except.ok.inj h
    exact Or.inl ⟨(fun h => by cases h), rfl⟩
  | block =>
    obtain ⟨hfits, rfl⟩ := step_block_eq_ok.mp h
    exact Or.inr ⟨rfl, rfl⟩
  | judicialRevoke licenseId reason =>
    obtain ⟨s, -, h⟩ := bind_eq_ok.mp h
    obtain rfl := pure_eq_ok.mp h
    exact Or.inl ⟨(fun h => by cases h), rfl⟩
  | call origin citizens c =>
    obtain ⟨s, -, h⟩ := bind_eq_ok.mp h
    obtain rfl := pure_eq_ok.mp h
    exact Or.inl ⟨(fun h => by cases h), rfl⟩

end Transitions

end Licensing
