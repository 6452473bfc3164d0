import Altan.Foundation.BoundedVec
import Altan.Foundation.Dispatch
import Altan.Foundation.Escrow
import Altan.Foundation.StorageMap
import Altan.Identity.Model

/-!
# Licensing

A ministry applies for a license, for an organization, or to renew one, and reserves a deposit. The
delegates of the nation vote until the end of the voting period; at the start of that block the
application is enacted: with enough approvals, and more than there are votes against it, a license
is issued and the deposit given back, else the deposit is slashed. Weapons and nuclear operations
are voted on by the delegates of the confederation and need two thirds. A license is revoked by a
court.

## Main definitions

* `LicenseApplication`, `License`: what is voted on, and what is issued
* `Config`, `Context`, `State`: the constants, what a call is dispatched with, and the storage
* `enactApplication`, `onInitialize`: the end of a vote
* `judicialRevoke`: what the courts call
* `Call`, `dispatch`: the dispatchables
-/

open Bounded Dispatch Ledger Identity

namespace Licensing

/-- The blocks of a year. -/
def blocksPerYear : ℕ := 5256000

/-- The longest duration of a license: ten years. -/
def maxLicenseBlocks : ℕ := blocksPerYear * 10

/-- The duration of a license when nothing else is said: three years. -/
def defaultLicenseBlocks : ℕ := blocksPerYear * 3

/-- The errors of the module. -/
inductive Error
  | notAuthorizedMinistry
  | applicationNotFound
  | applicationNotActive
  | alreadyVoted
  | notKhuralDelegate
  | wrongNation
  | licenseNotFound
  | licenseNotActive
  | durationExceedsConstitutionalMax
  | durationMustBePositive
  | citizenInactive
  | revocationReasonTooLong
  | tagTooLong
  | tooManyAppsAtBlock
  | insufficientDeposit
  | notRegistered
  | renewalTargetNotActive
  | notConfederationDelegate
  deriving DecidableEq, Repr

/-- The outcome of a function of the module. -/
abbrev Result (α : Type) := Except (DispatchError Error) α

/-- What a license is for. -/
inductive LicenseType
  | mineralExtraction
  | oilGasExtraction
  | waterExtraction
  | forestryHarvesting
  | fishingCommercial
  | aviationOperator
  | aviationCharter
  | aviationCargo
  | railwayOperator
  | hazmatTransport
  | microfinanceLender
  | insuranceProvider
  | currencyExchange
  | pharmaceuticalMfg
  | telecomOperator
  | broadcastMedia
  | landConcession
  | subsoilConcession
  | miningPlot
  | weaponsManufacture
  | nuclearOperator
  deriving DecidableEq, Repr

/-- The types that the confederation votes on. -/
def LicenseType.isConfederalOnly : LicenseType → Bool
  | .weaponsManufacture
  | .nuclearOperator => true
  | _ => false

/-- The types that need two thirds of the votes. -/
def LicenseType.requiresSupermajority (licenseType : LicenseType) : Bool :=
  licenseType.isConfederalOnly

/-- The duration when the applicant does not say: ten years for resources and networks, five for
transport, three for all others. -/
def LicenseType.defaultDuration : LicenseType → ℕ
  | .mineralExtraction
  | .oilGasExtraction
  | .subsoilConcession
  | .miningPlot
  | .forestryHarvesting
  | .telecomOperator
  | .railwayOperator => maxLicenseBlocks
  | .aviationOperator
  | .aviationCharter
  | .aviationCargo
  | .hazmatTransport => blocksPerYear * 5
  | _ => defaultLicenseBlocks

/-- Where an application stands. Nothing withdraws one. -/
inductive AppStatus
  | pendingKhural
  | approved
  | rejected
  | withdrawn
  deriving DecidableEq, Repr

/-- A ministry that may apply. -/
structure MinistryRecord where
  tag : BoundedVec UInt8 64
  nationId : Option ℕ
  isActive : Bool
  deriving DecidableEq

/-- An application for a license. -/
structure LicenseApplication (AccountId : Type) where
  appId : ℕ
  orgAccount : AccountId
  licenseType : LicenseType
  regionId : UInt8
  nationId : ℕ
  submitter : AccountId
  ministryTag : BoundedVec UInt8 64
  auditHash : Bytes32
  requestedDuration : ℕ
  votesFor : ℕ
  votesAgainst : ℕ
  status : AppStatus
  endBlock : ℕ
  isRenewal : Bool
  renewsLicenseId : Option ℕ
  deriving DecidableEq

/-- A license. -/
structure License (AccountId : Type) where
  licenseId : ℕ
  orgAccount : AccountId
  licenseType : LicenseType
  regionId : UInt8
  nationId : ℕ
  issuedBlock : ℕ
  expiresBlock : ℕ
  isActive : Bool
  auditHash : Bytes32
  appId : ℕ
  revocationReason : Option (BoundedVec UInt8 256)
  deriving DecidableEq

/-- The constants of the module, and who manages the ministries. -/
structure Config (AccountId : Type) where
  isExecutive : Origin AccountId → Bool
  licenseVotingPeriod : ℕ
  minLicenseQuorum : ℕ
  applicationDeposit : ℕ

/-- What a call is dispatched with: its origin, the current block, and the citizens. -/
structure Context (AccountId : Type) where
  origin : Origin AccountId
  now : ℕ
  citizens : AccountId → Option CitizenRecord

/-- The applications that end at one block. -/
abbrev AppIds := BoundedVec ℕ 50

/-- The licenses of an organization. -/
abbrev LicenseIds := BoundedVec ℕ 100

/-- The storage of the module, and the ledger it shares. -/
structure State (AccountId L : Type) where
  ledger : L
  authorizedMinistries : StorageMap AccountId MinistryRecord
  licenseApplications : StorageMap ℕ (LicenseApplication AccountId)
  licenseAppsEnding : StorageMap ℕ AppIds
  hasVotedOnLicense : StorageMap (ℕ × AccountId) Bool
  licenses : StorageMap ℕ (License AccountId)
  licensesByOrg : StorageMap AccountId LicenseIds
  nextLicenseAppId : ℕ
  nextLicenseId : ℕ
  applicationDepositors : StorageMap ℕ (AccountId × ℕ)

variable {AccountId L : Type}

/-- The storage before any call. -/
def genesis (ledger : L) : State AccountId L where
  ledger := ledger
  authorizedMinistries := ∅
  licenseApplications := ∅
  licenseAppsEnding := ∅
  hasVotedOnLicense := ∅
  licenses := ∅
  licensesByOrg := ∅
  nextLicenseAppId := 0
  nextLicenseId := 0
  applicationDepositors := ∅

/-- The applications that end at a block. -/
def State.appsEnding (s : State AccountId L) (block : ℕ) : AppIds :=
  s.licenseAppsEnding.getD block ⟨[], Nat.zero_le _⟩

/-- Fail unless an account may vote on an application: an active citizen, who is a delegate of the
confederation or of the nation. -/
def validateKhuralVoter (ctx : Context AccountId) (who : AccountId)
    (app : LicenseApplication AccountId) : Result Unit := do
  let rec ← required (ctx.citizens who) (.module .notRegistered)
  ensure (rec.status = .active) (.module .citizenInactive)
  if app.licenseType.isConfederalOnly then
    ensure (rec.role = .confederationDelegate) (.module .notConfederationDelegate)
  else
    ensure (rec.role = .khuralDelegate) (.module .notKhuralDelegate)
    ensure (rec.nationId = app.nationId) (.module .wrongNation)

/-- An application with one more vote. -/
def LicenseApplication.withVote (app : LicenseApplication AccountId) (approve : Bool) :
    LicenseApplication AccountId :=
  if approve then { app with votesFor := saturatingAdd u32Max app.votesFor 1 }
  else { app with votesAgainst := saturatingAdd u32Max app.votesAgainst 1 }

/-- Whether the votes on an application approve it. -/
def LicenseApplication.passes (cfg : Config AccountId) (app : LicenseApplication AccountId) :
    Bool :=
  let totalVotes := saturatingAdd u32Max app.votesFor app.votesAgainst
  let quorumMet : Bool := decide (cfg.minLicenseQuorum ≤ app.votesFor)
  let majority : Bool :=
    if app.licenseType.requiresSupermajority then
      decide (0 < totalVotes) &&
        decide (saturatingMul u32Max totalVotes 2 ≤ saturatingMul u32Max app.votesFor 3)
    else decide (app.votesAgainst < app.votesFor)
  quorumMet && majority

/-- The duration of an application, the default one for nothing. -/
def submittedDuration (licenseType : LicenseType) (requestedDuration : ℕ) : Result ℕ :=
  if requestedDuration = 0 then .ok licenseType.defaultDuration
  else do
    ensure (0 < requestedDuration) (.module .durationMustBePositive)
    ensure (requestedDuration ≤ maxLicenseBlocks) (.module .durationExceedsConstitutionalMax)
    return requestedDuration

/-- The duration of a renewal, the default one for nothing. -/
def renewedDuration (licenseType : LicenseType) (requestedDuration : ℕ) : Result ℕ :=
  if requestedDuration = 0 then .ok licenseType.defaultDuration
  else do
    ensure (requestedDuration ≤ maxLicenseBlocks) (.module .durationExceedsConstitutionalMax)
    return requestedDuration

variable [DecidableEq AccountId]

/-! ### The ministries -/

/-- Add a ministry to those that may apply. -/
def authorizeMinistry (cfg : Config AccountId) (ctx : Context AccountId) (ministry : AccountId)
    (tag : BoundedVec UInt8 64) (nationId : Option ℕ) (s : State AccountId L) :
    Result (State AccountId L) := do
  ensure (cfg.isExecutive ctx.origin = true) .badOrigin
  ensure (tag.val.length ≤ 64) (.module .tagTooLong)
  return { s with
    authorizedMinistries := s.authorizedMinistries.insert ministry
      { tag := tag, nationId := nationId, isActive := true } }

/-- Take a ministry off those that may apply. -/
def deauthorizeMinistry (cfg : Config AccountId) (ctx : Context AccountId) (ministry : AccountId)
    (s : State AccountId L) : Result (State AccountId L) := do
  ensure (cfg.isExecutive ctx.origin = true) .badOrigin
  return { s with authorizedMinistries := s.authorizedMinistries.remove ministry }

/-- The record of a ministry that may apply. -/
def authorizedMinistry (who : AccountId) (s : State AccountId L) : Result MinistryRecord := do
  let ministryRec ← required (s.authorizedMinistries.get who) (.module .notAuthorizedMinistry)
  ensure (ministryRec.isActive = true) (.module .notAuthorizedMinistry)
  return ministryRec

/-! ### Applications -/

/-- What an application is for. -/
structure Filing (AccountId : Type) where
  orgAccount : AccountId
  licenseType : LicenseType
  regionId : UInt8
  nationId : ℕ
  auditHash : Bytes32
  duration : ℕ
  renewsLicenseId : Option ℕ

section Submission

variable [Currency AccountId L] [EscrowCurrency AccountId L]

/-- File an application: reserve the deposit, and put the application on the list of the block in
which the voting period ends. -/
def fileApplication (cfg : Config AccountId) (ctx : Context AccountId) (caller : AccountId)
    (ministryRec : MinistryRecord) (filing : Filing AccountId) (s : State AccountId L) :
    Result (State AccountId L) := do
  let deposit := cfg.applicationDeposit
  let ledger ← (ReservableCurrency.reserve s.ledger caller deposit).mapError
    fun _ => .module .insufficientDeposit
  -- the last number is given again
  let appId := s.nextLicenseAppId
  let endBlock := saturatingAdd u32Max ctx.now cfg.licenseVotingPeriod
  let ids ← required ((s.appsEnding endBlock).tryPush appId) (.module .tooManyAppsAtBlock)
  return { s with
    ledger := ledger
    licenseApplications := s.licenseApplications.insert appId
      { appId := appId
        orgAccount := filing.orgAccount
        licenseType := filing.licenseType
        regionId := filing.regionId
        nationId := filing.nationId
        submitter := caller
        ministryTag := ministryRec.tag
        auditHash := filing.auditHash
        requestedDuration := filing.duration
        votesFor := 0
        votesAgainst := 0
        status := .pendingKhural
        endBlock := endBlock
        isRenewal := filing.renewsLicenseId.isSome
        renewsLicenseId := filing.renewsLicenseId }
    nextLicenseAppId := saturatingAdd u32Max appId 1
    licenseAppsEnding := s.licenseAppsEnding.insert endBlock ids
    applicationDepositors := s.applicationDepositors.insert appId (caller, deposit) }

/-- Apply for a license, as a ministry. -/
def submitLicenseApplication (cfg : Config AccountId) (ctx : Context AccountId)
    (orgAccount : AccountId) (licenseType : LicenseType) (regionId : UInt8) (nationId : ℕ)
    (auditHash : Bytes32) (requestedDuration : ℕ) (s : State AccountId L) :
    Result (State AccountId L) := do
  let caller ← ensureSigned ctx.origin
  let ministryRec ← authorizedMinistry caller s
  let duration ← submittedDuration licenseType requestedDuration
  fileApplication cfg ctx caller ministryRec
    ⟨orgAccount, licenseType, regionId, nationId, auditHash, duration, none⟩ s

/-- Apply for the renewal of a license, as a ministry. Whether the license has expired is not
looked at. -/
def renewLicense (cfg : Config AccountId) (ctx : Context AccountId) (licenseId : ℕ)
    (auditHash : Bytes32) (requestedDuration : ℕ) (s : State AccountId L) :
    Result (State AccountId L) := do
  let caller ← ensureSigned ctx.origin
  let ministryRec ← authorizedMinistry caller s
  let license ← required (s.licenses.get licenseId) (.module .licenseNotFound)
  ensure (license.isActive = true) (.module .renewalTargetNotActive)
  let duration ← renewedDuration license.licenseType requestedDuration
  fileApplication cfg ctx caller ministryRec
    ⟨license.orgAccount, license.licenseType, license.regionId, license.nationId, auditHash,
      duration, some licenseId⟩ s

end Submission

/-- Vote on an application, as a delegate. -/
def voteOnLicense (ctx : Context AccountId) (appId : ℕ) (approve : Bool) (s : State AccountId L) :
    Result (State AccountId L) := do
  let caller ← ensureSigned ctx.origin
  let app ← required (s.licenseApplications.get appId) (.module .applicationNotFound)
  ensure (app.status = .pendingKhural) (.module .applicationNotActive)
  ensure (ctx.now < app.endBlock) (.module .applicationNotActive)
  validateKhuralVoter ctx caller app
  ensure (s.hasVotedOnLicense.getD (appId, caller) false = false) (.module .alreadyVoted)
  return { s with
    hasVotedOnLicense := s.hasVotedOnLicense.insert (appId, caller) true
    licenseApplications := s.licenseApplications.insert appId (app.withVote approve) }

/-! ### Revocations -/

/-- A license that is revoked. -/
def License.revoked (reason : BoundedVec UInt8 256) (license : License AccountId) :
    License AccountId :=
  { license with isActive := false, revocationReason := some reason }

omit [DecidableEq AccountId] in
/-- Revoke an active license, as root. -/
def revokeLicense (ctx : Context AccountId) (licenseId : ℕ) (reason : BoundedVec UInt8 256)
    (s : State AccountId L) : Result (State AccountId L) := do
  ensureRoot ctx.origin
  let license ← required (s.licenses.get licenseId) (.module .licenseNotFound)
  ensure (license.isActive = true) (.module .licenseNotActive)
  return { s with licenses := s.licenses.insert licenseId (license.revoked reason) }

omit [DecidableEq AccountId] in
/-- Revoke a license, active or not, by a verdict. -/
def judicialRevoke (licenseId : ℕ) (reason : List UInt8) (s : State AccountId L) :
    Result (State AccountId L) := do
  let boundedReason ← required (BoundedVec.tryFrom 256 reason) (.module .revocationReasonTooLong)
  let license ← required (s.licenses.get licenseId) (.module .licenseNotFound)
  return { s with licenses := s.licenses.insert licenseId (license.revoked boundedReason) }

/-! ### The end of a vote -/

section Enactment

variable [Currency AccountId L] [EscrowCurrency AccountId L]

/-- The license that an application results in. -/
def LicenseApplication.license (app : LicenseApplication AccountId) (licenseId appId current : ℕ) :
    License AccountId where
  licenseId := licenseId
  orgAccount := app.orgAccount
  licenseType := app.licenseType
  regionId := app.regionId
  nationId := app.nationId
  issuedBlock := current
  expiresBlock := saturatingAdd u32Max current app.requestedDuration
  isActive := true
  auditHash := app.auditHash
  appId := appId
  revocationReason := none

omit [DecidableEq AccountId] in
/-- Give the deposit of an application back when it is approved, else slash it. -/
def settleDeposit (approved : Bool) (deposit : Option (AccountId × ℕ)) (ledger : L) : L :=
  match deposit with
  | some (depositor, amount) =>
    if approved then EscrowCurrency.unreserve ledger depositor amount
    else EscrowCurrency.slashReserved ledger depositor amount
  | none => ledger

/-- Enact an application: issue the license, or reject it. -/
def enactApplication (cfg : Config AccountId) (current appId : ℕ)
    (app : LicenseApplication AccountId) (s : State AccountId L) : State AccountId L :=
  if app.passes cfg then
    -- the last number is given again
    let licenseId := s.nextLicenseId
    let ids := s.licensesByOrg.getD app.orgAccount ⟨[], Nat.zero_le _⟩
    { s with
      licenses := s.licenses.insert licenseId (app.license licenseId appId current)
      nextLicenseId := saturatingAdd u32Max licenseId 1
      -- a list that is full stays as it is
      licensesByOrg := s.licensesByOrg.insert app.orgAccount ((ids.tryPush licenseId).getD ids)
      licenseApplications := s.licenseApplications.insert appId { app with status := .approved }
      applicationDepositors := s.applicationDepositors.remove appId
      ledger := settleDeposit true (s.applicationDepositors.get appId) s.ledger }
  else
    { s with
      licenseApplications := s.licenseApplications.insert appId { app with status := .rejected }
      applicationDepositors := s.applicationDepositors.remove appId
      ledger := settleDeposit false (s.applicationDepositors.get appId) s.ledger }

/-- Enact the application of a list, when it is still voted on. -/
def enactListed (cfg : Config AccountId) (current : ℕ) (s : State AccountId L) (appId : ℕ) :
    State AccountId L :=
  match s.licenseApplications.get appId with
  | some app => if app.status = .pendingKhural then enactApplication cfg current appId app s else s
  | none => s

/-- Enact the applications that end at the block which starts. -/
def onInitialize (cfg : Config AccountId) (n : ℕ) (s : State AccountId L) : State AccountId L :=
  (s.appsEnding n).val.foldl (enactListed cfg n)
    { s with licenseAppsEnding := s.licenseAppsEnding.remove n }

/-! ### Dispatch -/

/-- The dispatchables with their arguments. -/
inductive Call (AccountId : Type)
  | authorizeMinistry (ministry : AccountId) (tag : BoundedVec UInt8 64) (nationId : Option ℕ)
  | deauthorizeMinistry (ministry : AccountId)
  | submitLicenseApplication (orgAccount : AccountId) (licenseType : LicenseType)
    (regionId : UInt8) (nationId : ℕ) (auditHash : Bytes32) (requestedDuration : ℕ)
  | voteOnLicense (appId : ℕ) (approve : Bool)
  | revokeLicense (licenseId : ℕ) (reason : BoundedVec UInt8 256)
  | renewLicense (licenseId : ℕ) (auditHash : Bytes32) (requestedDuration : ℕ)
  deriving DecidableEq

/-- Dispatch a call. -/
def dispatch (cfg : Config AccountId) (ctx : Context AccountId) :
    Call AccountId → State AccountId L → Result (State AccountId L)
  | .authorizeMinistry ministry tag nationId => authorizeMinistry cfg ctx ministry tag nationId
  | .deauthorizeMinistry ministry => deauthorizeMinistry cfg ctx ministry
  | .submitLicenseApplication orgAccount licenseType regionId nationId auditHash
      requestedDuration =>
    submitLicenseApplication cfg ctx orgAccount licenseType regionId nationId auditHash
      requestedDuration
  | .voteOnLicense appId approve => voteOnLicense ctx appId approve
  | .revokeLicense licenseId reason => revokeLicense ctx licenseId reason
  | .renewLicense licenseId auditHash requestedDuration =>
    renewLicense cfg ctx licenseId auditHash requestedDuration

end Enactment

end Licensing
