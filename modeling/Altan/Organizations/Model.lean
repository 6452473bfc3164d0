import Altan.Foundation.Arithmetic
import Altan.Foundation.Blake2b
import Altan.Foundation.BoundedVec
import Altan.Foundation.Currency
import Altan.Foundation.Dispatch
import Altan.Foundation.Iteration
import Altan.Foundation.Scale

/-!
# Organizations and their taxes

An organization is registered, and active once enough of its founders have paid a deposit. Its
directors file a tax return in time; an organization that has not filed for longer than a tax period
is delinquent, its directors are frozen, and a debt accrues until it files. Delinquency is found by
a scan of a few organizations in every block, and by citizens, who are rewarded for reporting it.

## Main definitions

* `Config`, `State`: the constants and the modules that are called, and the storage
* `applyPunishment`: what becomes of an organization whose tax period is over
* `onInitialize`: the scan
* `registerOrganization`, ..., `spendOrgFunds`: the dispatchables
* `Call`, `dispatch`, `Input`, `step`: the module as a state machine
-/

open Bounded Dispatch

namespace Organizations

/-- The errors of the module. -/
inductive Error
  | orgNotFound
  | notDirector
  | alreadyCrewMember
  | nameTooLong
  | insufficientBankBalance
  | orgIsFrozen
  | taxPeriodNotExpired
  | alreadyDelinquent
  | shieldedCommitmentNotFound
  | zkAmountZero
  | belowMinimumTax
  | outsideTaxFilingPeriod
  | orgIsPending
  | alreadyDeposited
  | tooManyFounders
  | alreadyActivated
  deriving DecidableEq, Repr

/-- The outcome of a function of the module. -/
abbrev Result (α : Type) := Except (DispatchError Error) α

/-- The bytes of a name at most. -/
def maxNameLength : ℕ := 64

/-- The founders of an organization at most. -/
def maxFounders : ℕ := 20

/-- How an organization stands. -/
inductive OrgStatus
  | pending
  | active
  | delinquent
  | frozen
  deriving DecidableEq, Repr

/-- What somebody is in an organization. -/
inductive OrgRole
  | director
  | employee
  deriving DecidableEq, Repr

/-- What is recorded of an organization. -/
structure Organization (AccountId : Type) where
  name : BoundedVec UInt8 maxNameLength
  hqRegion : ℕ
  status : OrgStatus
  bankAccountId : AccountId
  lastTaxPeriodPaid : ℕ
  registeredAt : ℕ
  deriving DecidableEq

/-- What is recorded of a member of an organization. -/
structure CrewMember where
  role : OrgRole
  regionAssigned : ℕ
  activeSince : ℕ
  deriving DecidableEq, Repr

/-- What is recorded of a founder's deposit. -/
structure FounderDeposit (AccountId : Type) where
  founder : AccountId
  amount : ℕ
  blockNumber : ℕ
  deriving DecidableEq, Repr

/-- What is recorded of a tax return. -/
structure TaxDeclaration where
  orgId : ℕ
  regionId : ℕ
  amountPaid : ℕ
  declaredProfit : ℕ
  confederationShare : ℕ
  regionalShare : ℕ
  documentHash : Bytes32
  timestamp : ℕ
  viaZkVault : Bool
  deriving DecidableEq

/-- The constants of the module, the account a hash decodes to, the order in which the members of an
organization are visited, and the two modules that are called: one freezes a citizen, the other pays
a tax, in a block, from what is shielded under a commitment. -/
structure Config (AccountId L C V : Type) where
  taxPeriodBlocks : ℕ
  penaltyAccrualPeriodBlocks : ℕ
  basePenaltyAmount : ℕ
  auditorRewardAmount : ℕ
  regionTreasuryAccount : AccountId
  confederationTreasuryAccount : AccountId
  minTaxAmount : ℕ
  maxOrgsPerBlock : ℕ
  maxDirectorsPerOrg : ℕ
  orgActivationDeposit : ℕ
  decode : List UInt8 → AccountId
  order : IterationOrder AccountId
  freezeCitizen : AccountId → C → Except Unit C
  unshieldForTax : ℕ → Bytes32 → Bytes32 → ℕ → AccountId → V × L → Except Unit (V × L)

/-- What a call is dispatched with: its origin, the block, and the time in seconds. -/
structure Context (AccountId : Type) where
  origin : Origin AccountId
  now : ℕ
  nowSecs : ℕ

/-- The storage of the module, the ledger, the citizens and the shielded vaults. -/
structure State (AccountId L C V : Type) where
  nextOrgId : ℕ
  organizations : StorageMap ℕ (Organization AccountId)
  crewMembers : StorageMap (ℕ × AccountId) CrewMember
  nextDeclarationId : ℕ
  taxDeclarations : StorageMap ℕ TaxDeclaration
  orgPenaltyDebt : StorageMap ℕ ℕ
  lastPenaltyBlock : StorageMap ℕ ℕ
  orgFounderDeposits : StorageMap ℕ (BoundedVec (FounderDeposit AccountId) maxFounders)
  orgRequiredFounders : StorageMap ℕ ℕ
  orgScanCursor : ℕ
  ledger : L
  citizens : C
  vaults : V

variable {AccountId L C V : Type}

/-- The storage before any call. -/
def genesis (ledger : L) (citizens : C) (vaults : V) : State AccountId L C V where
  nextOrgId := 0
  organizations := ∅
  crewMembers := ∅
  nextDeclarationId := 0
  taxDeclarations := ∅
  orgPenaltyDebt := ∅
  lastPenaltyBlock := ∅
  orgFounderDeposits := ∅
  orgRequiredFounders := ∅
  orgScanCursor := 0
  ledger := ledger
  citizens := citizens
  vaults := vaults

/-- The debt of an organization. -/
def State.debt (s : State AccountId L C V) (orgId : ℕ) : ℕ := s.orgPenaltyDebt.getD orgId 0

/-- The deposits for an organization. -/
def State.deposits (s : State AccountId L C V) (orgId : ℕ) :
    BoundedVec (FounderDeposit AccountId) maxFounders :=
  s.orgFounderDeposits.getD orgId ⟨[], Nat.zero_le _⟩

/-! ### The calendar -/

/-- Whether a year has a leap day. -/
def isLeapYear (year : ℕ) : Bool := (year % 4 == 0 && year % 100 != 0) || year % 400 == 0

/-- The days of a year. -/
def daysInYear (year : ℕ) : ℕ := if isLeapYear year then 366 else 365

theorem daysInYear_pos (year : ℕ) : 0 < daysInYear year := by
  unfold daysInYear
  split <;> decide

/-- The year of a day that is so many days after the first of a year, and its place there. -/
def yearAndDay (year remainingDays : ℕ) : ℕ × ℕ :=
  if remainingDays < daysInYear year then (year, remainingDays)
  else yearAndDay (year + 1) (remainingDays - daysInYear year)
termination_by remainingDays
decreasing_by
  have := daysInYear_pos year
  omega

/-- Fail outside the filing period, from the first of January to the fifteenth of April. -/
def ensureWithinFilingPeriod (nowSecs : ℕ) : Result Unit :=
  -- the time is not set yet
  if nowSecs = 0 then return ()
  else do
    let totalDays := nowSecs / 86400
    let (year, remainingDays) := yearAndDay 1970 totalDays
    let dayOfYear := remainingDays + 1
    let apr15Day := if isLeapYear year then 106 else 105
    ensure (dayOfYear ≤ apr15Day) (.module .outsideTaxFilingPeriod)

/-! ### Helpers -/

/-- The account of an organization. -/
def deriveOrgAccount (cfg : Config AccountId L C V) (orgId : ℕ) : AccountId :=
  cfg.decode (Blake2b.hash 32
    ("altan/org/".toList.map (fun c => UInt8.ofNat c.toNat) ++ Scale.littleEndian 4 orgId))

/-- The parts of a tax for the confederation, three tenths, and for the region. -/
def constitutionalTaxSplit (amount : ℕ) : ℕ × ℕ :=
  let confederationShare := wrappingMul u128Max amount 3 / 10
  (confederationShare, amount - confederationShare)

section Calls

variable [DecidableEq AccountId]

/-- Fail unless somebody is a director of an organization. -/
def ensureDirector (caller : AccountId) (orgId : ℕ) (s : State AccountId L C V) : Result Unit := do
  ensure (s.organizations.containsKey orgId = true) (.module .orgNotFound)
  let crew ← required (s.crewMembers.get (orgId, caller)) (.module .notDirector)
  ensure (crew.role = .director) (.module .notDirector)

/-! ### The punishment -/

/-- The directors that are found when some members of an organization are visited. -/
def visitedDirectors (cfg : Config AccountId L C V) (orgId : ℕ) (s : State AccountId L C V) :
    List AccountId :=
  ((s.crewMembers.iterPrefix cfg.order orgId).take cfg.maxDirectorsPerOrg).filterMap
    fun (account, crew) => if crew.role = .director then some account else none

/-- Make an organization delinquent: it owes the base penalty, and its directors are frozen. -/
def markDelinquent (cfg : Config AccountId L C V) (orgId now : ℕ) (s : State AccountId L C V) :
    State AccountId L C V :=
  { s with
    organizations := s.organizations.modify orgId fun o => { o with status := .delinquent }
    orgPenaltyDebt := s.orgPenaltyDebt.insert orgId
      (saturatingAdd u128Max (s.debt orgId) cfg.basePenaltyAmount)
    lastPenaltyBlock := s.lastPenaltyBlock.insert orgId now
    -- a director who cannot be frozen is passed over
    citizens := (visitedDirectors cfg orgId s).foldl
      (fun citizens director => attempt (cfg.freezeCitizen director) citizens) s.citizens }

/-- Add a hundredth to the debt of an organization, if the last time is long enough ago. -/
def accruePenalty (cfg : Config AccountId L C V) (orgId now : ℕ) (s : State AccountId L C V) :
    State AccountId L C V :=
  let currentDebt := s.debt orgId
  let accrual := currentDebt / 100
  if cfg.penaltyAccrualPeriodBlocks ≤ now - s.lastPenaltyBlock.getD orgId 0 ∧ 0 < accrual then
    { s with
      orgPenaltyDebt := s.orgPenaltyDebt.insert orgId (saturatingAdd u128Max currentDebt accrual)
      lastPenaltyBlock := s.lastPenaltyBlock.insert orgId now }
  else s

/-- The tax period of an organization is over. -/
def Overdue (cfg : Config AccountId L C V) (now : ℕ) (org : Organization AccountId) : Prop :=
  cfg.taxPeriodBlocks < now - org.lastTaxPeriodPaid

instance (cfg : Config AccountId L C V) (now : ℕ) (org : Organization AccountId) :
    Decidable (Overdue cfg now org) := inferInstanceAs (Decidable (_ < _))

/-- Punish an organization whose tax period is over, and say whether it was active until now. -/
def applyPunishment (cfg : Config AccountId L C V) (orgId now : ℕ) (s : State AccountId L C V) :
    State AccountId L C V × Bool :=
  match s.organizations.get orgId with
  | none => (s, false)
  | some org =>
    if Overdue cfg now org then
      let newlyDelinquent := decide (org.status = .active)
      let s := if newlyDelinquent then markDelinquent cfg orgId now s else s
      (accruePenalty cfg orgId now s, newlyDelinquent)
    else (s, false)

/-- One organization of the scan: punished, unless it is frozen. -/
def scanOrg (cfg : Config AccountId L C V) (now orgId : ℕ) (s : State AccountId L C V) :
    State AccountId L C V :=
  match s.organizations.get orgId with
  | some org => if org.status ≠ .frozen then (applyPunishment cfg orgId now s).1 else s
  | none => s

/-- The rounds of the scan that are left, from the `i`-th on, and where the next scan starts. -/
def scan (cfg : Config AccountId L C V) (now totalOrgs cursor : ℕ) :
    ℕ → ℕ → ℕ → State AccountId L C V → State AccountId L C V × ℕ
  | 0, _, nextCursor, s => (s, nextCursor)
  | rounds + 1, i, _, s =>
    let s := scanOrg cfg now (wrappingAdd u32Max cursor i % totalOrgs) s
    let processed := i + 1
    -- a full cycle starts over
    if totalOrgs ≤ processed then (s, 0)
    else scan cfg now totalOrgs cursor rounds (i + 1)
      (wrappingAdd u32Max (wrappingAdd u32Max cursor i) 1 % totalOrgs) s

/-- What happens at the beginning of a block. -/
def onInitialize (cfg : Config AccountId L C V) (now : ℕ) (s : State AccountId L C V) :
    State AccountId L C V :=
  if s.nextOrgId = 0 then s
  else
    let (s', nextCursor) :=
      scan cfg now s.nextOrgId s.orgScanCursor cfg.maxOrgsPerBlock 0 s.orgScanCursor s
    { s' with orgScanCursor := nextCursor }

/-! ### The dispatchables -/

/-- Register an organization, of which the signer is a director. -/
def registerOrganization (cfg : Config AccountId L C V) (ctx : Context AccountId)
    (name : List UInt8) (hqRegion requiredFounders : ℕ) (s : State AccountId L C V) :
    Result (State AccountId L C V) := do
  let caller ← ensureSigned ctx.origin
  let requiredFounders := max requiredFounders 1
  ensure (requiredFounders ≤ maxFounders) (.module .tooManyFounders)
  let boundedName ← required (BoundedVec.tryFrom maxNameLength name) (.module .nameTooLong)
  let orgId := s.nextOrgId
  return { s with
    organizations := s.organizations.insert orgId
      { name := boundedName
        hqRegion := hqRegion
        status := .pending
        bankAccountId := deriveOrgAccount cfg orgId
        lastTaxPeriodPaid := ctx.now
        registeredAt := ctx.now }
    crewMembers := s.crewMembers.insert (orgId, caller) ⟨.director, hqRegion, ctx.now⟩
    orgRequiredFounders := s.orgRequiredFounders.insert orgId requiredFounders
    nextOrgId := saturatingAdd u32Max orgId 1 }

/-- Add a member to an organization, as a director. -/
def addCrewMember (ctx : Context AccountId) (orgId : ℕ) (member : AccountId) (role : OrgRole)
    (regionAssigned : ℕ) (s : State AccountId L C V) : Result (State AccountId L C V) := do
  let caller ← ensureSigned ctx.origin
  let org ← required (s.organizations.get orgId) (.module .orgNotFound)
  ensure (org.status ≠ .frozen) (.module .orgIsFrozen)
  ensure (org.status ≠ .pending) (.module .orgIsPending)
  ensureDirector caller orgId s
  ensure (s.crewMembers.containsKey (orgId, member) = false) (.module .alreadyCrewMember)
  return { s with
    crewMembers := s.crewMembers.insert (orgId, member) ⟨role, regionAssigned, ctx.now⟩ }

/-- Freeze an organization, as root. -/
def freezeOrganization (ctx : Context AccountId) (orgId : ℕ) (s : State AccountId L C V) :
    Result (State AccountId L C V) := do
  ensureRoot ctx.origin
  let org ← required (s.organizations.get orgId) (.module .orgNotFound)
  return { s with
    organizations := s.organizations.insert orgId { org with status := .frozen } }

/-- Enter a tax return: the organization has paid until now, and its debt is gone. -/
def declareTax (declaration : TaxDeclaration) (s : State AccountId L C V) :
    Result (State AccountId L C V) := do
  let org ← required (s.organizations.get declaration.orgId) (.module .orgNotFound)
  return { s with
    taxDeclarations := s.taxDeclarations.insert s.nextDeclarationId declaration
    nextDeclarationId := saturatingAdd u32Max s.nextDeclarationId 1
    organizations := s.organizations.insert declaration.orgId
      { org with
        lastTaxPeriodPaid := declaration.timestamp
        status := if org.status = .delinquent then .active else org.status }
    orgPenaltyDebt := s.orgPenaltyDebt.remove declaration.orgId
    lastPenaltyBlock := s.lastPenaltyBlock.remove declaration.orgId }

variable [Currency AccountId L]

/-- Pay the deposit of a founder, which makes an organization active once enough have paid. -/
def activateOrganization (cfg : Config AccountId L C V) (ctx : Context AccountId) (orgId : ℕ)
    (s : State AccountId L C V) : Result (State AccountId L C V) := do
  let caller ← ensureSigned ctx.origin
  let org ← required (s.organizations.get orgId) (.module .orgNotFound)
  ensure (org.status = .pending) (.module .alreadyActivated)
  ensureDirector caller orgId s
  ensure (∀ d ∈ (s.deposits orgId).val, d.founder ≠ caller) (.module .alreadyDeposited)
  let depositAmount := cfg.orgActivationDeposit
  let ledger ← liftCurrency
    (Currency.transfer s.ledger caller org.bankAccountId depositAmount .keepAlive)
  let deposits ← required
    (BoundedVec.tryFrom maxFounders ((s.deposits orgId).val ++ [⟨caller, depositAmount, ctx.now⟩]))
    (.module .tooManyFounders)
  let s := { s with
    ledger := ledger
    orgFounderDeposits := s.orgFounderDeposits.insert orgId deposits }
  -- the organization is active once all have paid
  return if s.orgRequiredFounders.getD orgId 0 ≤ deposits.val.length then { s with
    organizations := s.organizations.insert orgId { org with status := .active } }
  else s

/-- File a tax return and pay the tax from the account of an organization, as a director. -/
def fileTaxReturn (cfg : Config AccountId L C V) (ctx : Context AccountId)
    (orgId regionId declaredProfit amount : ℕ) (documentHash : Bytes32)
    (s : State AccountId L C V) : Result (State AccountId L C V) := do
  let caller ← ensureSigned ctx.origin
  let org ← required (s.organizations.get orgId) (.module .orgNotFound)
  ensure (org.status ≠ .frozen) (.module .orgIsFrozen)
  ensureDirector caller orgId s
  ensureWithinFilingPeriod ctx.nowSecs
  ensure (cfg.minTaxAmount ≤ amount) (.module .belowMinimumTax)
  let (confederationShare, regionalShare) := constitutionalTaxSplit amount
  let ledger ← (Currency.transfer s.ledger org.bankAccountId cfg.regionTreasuryAccount
    regionalShare .keepAlive).mapError fun _ => .module .insufficientBankBalance
  let ledger ← (Currency.transfer ledger org.bankAccountId cfg.confederationTreasuryAccount
    confederationShare .keepAlive).mapError fun _ => .module .insufficientBankBalance
  declareTax
    { orgId := orgId
      regionId := regionId
      amountPaid := amount
      declaredProfit := declaredProfit
      confederationShare := confederationShare
      regionalShare := regionalShare
      documentHash := documentHash
      timestamp := ctx.now
      viaZkVault := false }
    { s with ledger := ledger }

/-- File a tax return and pay the tax from what is shielded under a commitment, as a director. -/
def fileTaxReturnZk (cfg : Config AccountId L C V) (ctx : Context AccountId)
    (orgId regionId declaredProfit : ℕ) (nullifier commitment : Bytes32) (amountPaid : ℕ)
    (documentHash : Bytes32) (s : State AccountId L C V) : Result (State AccountId L C V) := do
  let caller ← ensureSigned ctx.origin
  let org ← required (s.organizations.get orgId) (.module .orgNotFound)
  ensure (org.status ≠ .frozen) (.module .orgIsFrozen)
  ensureDirector caller orgId s
  ensureWithinFilingPeriod ctx.nowSecs
  ensure (0 < amountPaid) (.module .zkAmountZero)
  ensure (cfg.minTaxAmount ≤ amountPaid) (.module .belowMinimumTax)
  let (confederationShare, regionalShare) := constitutionalTaxSplit amountPaid
  -- the region receives all of it, and passes on the part of the confederation
  let (vaults, ledger) ← (cfg.unshieldForTax ctx.now nullifier commitment amountPaid
    cfg.regionTreasuryAccount (s.vaults, s.ledger)).mapError
      fun _ => .module .shieldedCommitmentNotFound
  let ledger ← (Currency.transfer ledger cfg.regionTreasuryAccount
    cfg.confederationTreasuryAccount confederationShare .keepAlive).mapError
      fun _ => .module .insufficientBankBalance
  declareTax
    { orgId := orgId
      regionId := regionId
      amountPaid := amountPaid
      declaredProfit := declaredProfit
      confederationShare := confederationShare
      regionalShare := regionalShare
      documentHash := documentHash
      timestamp := ctx.now
      viaZkVault := true }
    { s with
      vaults := vaults
      ledger := ledger }

/-- Pay whoever reports an organization. A payment that fails is let go. -/
def payAuditor (cfg : Config AccountId L C V) (reporter : AccountId) (s : State AccountId L C V) :
    State AccountId L C V :=
  { s with
    ledger := attempt (fun ledger => Currency.transfer ledger cfg.regionTreasuryAccount reporter
      cfg.auditorRewardAmount .keepAlive) s.ledger }

/-- Report an organization whose tax period is over. -/
def reportTaxEvasion (cfg : Config AccountId L C V) (ctx : Context AccountId) (orgId : ℕ)
    (s : State AccountId L C V) : Result (State AccountId L C V) := do
  let reporter ← ensureSigned ctx.origin
  let org ← required (s.organizations.get orgId) (.module .orgNotFound)
  ensure (org.status ≠ .frozen) (.module .orgIsFrozen)
  ensure (org.status ≠ .delinquent) (.module .alreadyDelinquent)
  ensure (Overdue cfg ctx.now org) (.module .taxPeriodNotExpired)
  -- whether the organization was active is not looked at
  let (s, _) := applyPunishment cfg orgId ctx.now s
  return payAuditor cfg reporter s

/-- Pay from the account of an organization, as a director. -/
def spendOrgFunds (ctx : Context AccountId) (orgId : ℕ) (beneficiary : AccountId) (amount : ℕ)
    (s : State AccountId L C V) : Result (State AccountId L C V) := do
  let caller ← ensureSigned ctx.origin
  let org ← required (s.organizations.get orgId) (.module .orgNotFound)
  ensure (org.status ≠ .frozen) (.module .orgIsFrozen)
  ensureDirector caller orgId s
  let ledger ← (Currency.transfer s.ledger org.bankAccountId beneficiary amount
    .keepAlive).mapError fun _ => .module .insufficientBankBalance
  return { s with ledger := ledger }

end Calls

/-! ### Dispatch -/

/-- The dispatchables with their arguments. -/
inductive Call (AccountId : Type)
  | registerOrganization (name : List UInt8) (hqRegion requiredFounders : ℕ)
  | activateOrganization (orgId : ℕ)
  | addCrewMember (orgId : ℕ) (member : AccountId) (role : OrgRole) (regionAssigned : ℕ)
  | fileTaxReturn (orgId regionId declaredProfit amount : ℕ) (documentHash : Bytes32)
  | reportTaxEvasion (orgId : ℕ)
  | freezeOrganization (orgId : ℕ)
  | fileTaxReturnZk (orgId regionId declaredProfit : ℕ) (nullifier commitment : Bytes32)
    (amountPaid : ℕ) (documentHash : Bytes32)
  | spendOrgFunds (orgId : ℕ) (beneficiary : AccountId) (amount : ℕ)
  deriving DecidableEq

/-- What happens: a call, or the beginning of a block. -/
inductive Input (AccountId : Type)
  | call (ctx : Context AccountId) (c : Call AccountId)
  | onInitialize (now : ℕ)

variable [DecidableEq AccountId] [Currency AccountId L]

/-- Dispatch a call. -/
def dispatch (cfg : Config AccountId L C V) (ctx : Context AccountId) :
    Call AccountId → State AccountId L C V → Result (State AccountId L C V)
  | .registerOrganization name hqRegion requiredFounders =>
    registerOrganization cfg ctx name hqRegion requiredFounders
  | .activateOrganization orgId => activateOrganization cfg ctx orgId
  | .addCrewMember orgId member role regionAssigned =>
    addCrewMember ctx orgId member role regionAssigned
  | .fileTaxReturn orgId regionId declaredProfit amount documentHash =>
    fileTaxReturn cfg ctx orgId regionId declaredProfit amount documentHash
  | .reportTaxEvasion orgId => reportTaxEvasion cfg ctx orgId
  | .freezeOrganization orgId => freezeOrganization ctx orgId
  | .fileTaxReturnZk orgId regionId declaredProfit nullifier commitment amountPaid documentHash =>
    fileTaxReturnZk cfg ctx orgId regionId declaredProfit nullifier commitment amountPaid
      documentHash
  | .spendOrgFunds orgId beneficiary amount => spendOrgFunds ctx orgId beneficiary amount

/-- One input as a step of the state machine. -/
def step (cfg : Config AccountId L C V) :
    Input AccountId → State AccountId L C V → Result (State AccountId L C V)
  | .call ctx c, s => dispatch cfg ctx c s
  | .onInitialize now, s => .ok (onInitialize cfg now s)

end Organizations
