import Altan.Foundation.Arithmetic
import Altan.Foundation.Currency
import Altan.Foundation.Dispatch
import Altan.Foundation.StorageMap

/-!
# The bank operator

A citizen locks collateral with the bank and asks for a credit; root issues it, nine times the
collateral, by creating the amount. A repayment pays the interest due to the bank first and burns
the rest as principal; once nothing is owed the collateral goes back, less a fee. The citizen's
credit score fixes the rate of a credit when it is issued and moves with its repayments and
defaults.

## Main definitions

* `Config`, `State`: the constants and the storage
* `CollateralContract`, `CreditContract`, `CreditScoreRecord`: the records
* `calculateAccruedInterest`: the interest of a credit since it was last accrued
* `Call`, `dispatch`: the dispatchables
-/

open Bounded Dispatch

namespace BankOperator

/-- The errors of the module. -/
inductive Error
  | bankAccountNotConfigured
  | collateralNotFound
  | creditNotFound
  | invalidCollateralStatus
  | creditNotActive
  | insufficientBalance
  | notCreditOwner
  | collateralMismatch
  | arithmeticOverflow
  | zeroRepayment
  | zeroCollateral
  | creditNotRequested
  | notCollateralOwner
  | creditAlreadyRequested
  | invalidReserveMultiplier
  | mintingProhibited
  | creditAlreadyClosed
  deriving DecidableEq, Repr

/-- The outcome of a function of the module. -/
abbrev Result (α : Type) := Except (DispatchError Error) α

/-! ### Credit ratings -/

/-- The rating of a credit, which fixes its rate. -/
inductive CreditTier
  | excellent
  | good
  | fair
  | belowFair
  | poor
  deriving DecidableEq, Repr

namespace CreditTier

/-- The rating that goes with a score. -/
def fromScore (score : ℕ) : CreditTier :=
  if 750 ≤ score ∧ score ≤ 850 then .excellent
  else if 700 ≤ score ∧ score ≤ 749 then .good
  else if 650 ≤ score ∧ score ≤ 699 then .fair
  else if 600 ≤ score ∧ score ≤ 649 then .belowFair
  else .poor

/-- The annual rate in basis points. -/
def annualRateBps : CreditTier → ℕ
  | excellent => 0
  | good => 300
  | fair => 700
  | belowFair => 1000
  | poor => 1500

/-- The daily rate in basis points, rounded up. -/
def dailyRateBps (tier : CreditTier) : ℕ :=
  let annual := tier.annualRateBps
  if annual = 0 then 0 else saturatingAdd u32Max annual 364 / 365

end CreditTier

/-- The credit history of a citizen. -/
structure CreditScoreRecord where
  score : ℕ
  creditsRepaid : ℕ
  creditsDefaulted : ℕ
  deriving DecidableEq, Repr

namespace CreditScoreRecord

/-- The record of a citizen without a history. -/
def newDefault : CreditScoreRecord where
  score := 650
  creditsRepaid := 0
  creditsDefaulted := 0

/-- The bonus for a credit repaid in full. -/
def applyFullRepayment (r : CreditScoreRecord) : CreditScoreRecord :=
  { r with
    score := min (saturatingAdd u16Max r.score 20) 850
    creditsRepaid := saturatingAdd u32Max r.creditsRepaid 1 }

/-- The bonus for a repayment in part. -/
def applyPartialRepayment (r : CreditScoreRecord) : CreditScoreRecord :=
  { r with score := min (saturatingAdd u16Max r.score 5) 850 }

/-- The penalty for a default. -/
def applyDefault (r : CreditScoreRecord) : CreditScoreRecord :=
  { r with
    score := max (r.score - 100) 300
    creditsDefaulted := saturatingAdd u32Max r.creditsDefaulted 1 }

/-- The rating the score stands for. -/
def tier (r : CreditScoreRecord) : CreditTier := .fromScore r.score

end CreditScoreRecord

/-! ### Storage -/

/-- The kind of asset that is locked. -/
inductive AssetType
  | altanCoin
  | land
  | naturalResource
  | infrastructure
  deriving DecidableEq, Repr

/-- Whether a collateral is locked, backs a credit, or has been given back. -/
inductive CollateralStatus
  | locked
  | active
  | released
  deriving DecidableEq, Repr

/-- Whether a credit is running, repaid or in default. -/
inductive CreditStatus
  | active
  | repaid
  | default
  deriving DecidableEq, Repr

/-- Why the freeze of an account is requested. -/
inductive AccountFreezeReason
  | creditDefault
  | fraudulentCollateral
  | contractViolation
  deriving DecidableEq, Repr

/-- A collateral, of which the bank keeps a fee. -/
structure CollateralContract (AccountId : Type) where
  citizen : AccountId
  assetType : AssetType
  collateralAmount : ℕ
  bankFee : ℕ
  collateralNet : ℕ
  createdAt : ℕ
  status : CollateralStatus
  creditRequested : Bool
  deriving DecidableEq

/-- A credit, with the principal and the interest owed on it. -/
structure CreditContract (AccountId : Type) where
  citizen : AccountId
  collateralId : ℕ
  creditAmount : ℕ
  outstanding : ℕ
  accruedInterest : ℕ
  issuedAt : ℕ
  lastInterestBlock : ℕ
  tier : CreditTier
  status : CreditStatus
  deriving DecidableEq

/-- The constants of the module. -/
structure Config where
  reserveMultiplier : ℕ
  interestPeriodBlocks : ℕ

/-- What a call is dispatched with. -/
structure Context (AccountId : Type) where
  origin : Origin AccountId
  blockNumber : ℕ

/-- The storage of the module, and the ledger. -/
structure State (AccountId L : Type) where
  collateralContracts : StorageMap ℕ (CollateralContract AccountId)
  nextCollateralId : ℕ
  creditContracts : StorageMap ℕ (CreditContract AccountId)
  nextCreditId : ℕ
  bankSpecialAccount : Option AccountId
  totalCreditOutstanding : ℕ
  creditScores : StorageMap AccountId CreditScoreRecord
  ledger : L

variable {AccountId L : Type}

/-- The storage before any call, on a ledger. -/
def genesis (ledger : L) : State AccountId L where
  collateralContracts := ∅
  nextCollateralId := 0
  creditContracts := ∅
  nextCreditId := 0
  bankSpecialAccount := none
  totalCreditOutstanding := 0
  creditScores := ∅
  ledger := ledger

/-- The block number as an unsigned 32-bit integer, zero where it does not fit. -/
def currentBlock (ctx : Context AccountId) : ℕ :=
  if ctx.blockNumber ≤ u32Max then ctx.blockNumber else 0

/-- The credit history of a citizen, which starts with the default. -/
def State.scoreRecord [DecidableEq AccountId] (s : State AccountId L) (citizen : AccountId) :
    CreditScoreRecord :=
  s.creditScores.getD citizen .newDefault

/-- The interest accrued on a credit since it was last accrued, in whole periods. -/
def calculateAccruedInterest (cfg : Config) (ctx : Context AccountId)
    (credit : CreditContract AccountId) : ℕ :=
  let dailyRateBps := credit.tier.dailyRateBps
  if dailyRateBps = 0 then 0
  else
    let blocksElapsed := currentBlock ctx - credit.lastInterestBlock
    let periodBlocks := cfg.interestPeriodBlocks
    if periodBlocks = 0 ∨ blocksElapsed < periodBlocks then 0
    else
      let periods := blocksElapsed / periodBlocks
      saturatingMul u128Max (saturatingMul u128Max credit.outstanding dailyRateBps) periods / 10000

/-- What a citizen owes on active credits in all, for other modules. -/
def totalOutstandingDebtFor [DecidableEq AccountId] (s : State AccountId L) (who : AccountId) : ℕ :=
  min (s.creditContracts.sum fun _ credit =>
    if credit.citizen = who ∧ credit.status = .active then credit.outstanding else 0) u128Max

/-! ### Dispatchables -/

/-- Set the account of the bank, as root. -/
def setBankAccount (ctx : Context AccountId) (account : AccountId) (s : State AccountId L) :
    Result (State AccountId L) := do
  ensureRoot ctx.origin
  return { s with bankSpecialAccount := some account }

/-- Assess an asset, as root; only an event records it. -/
def assessRwa (ctx : Context AccountId) (_citizen : AccountId) (_assetType : AssetType)
    (_valueInAltan : ℕ) (s : State AccountId L) : Result (State AccountId L) := do
  ensureRoot ctx.origin
  return s

section Funds

variable [Currency AccountId L]

/-- A transfer that leaves its source alive. -/
def pay (source dest : AccountId) (amount : ℕ) (ledger : L) : Result L :=
  (Currency.transfer ledger source dest amount .keepAlive).mapError
    fun _ => .module .insufficientBalance

/-- Lock collateral with the bank, which keeps a tenth of it as a fee. -/
def lockCollateral (ctx : Context AccountId) (amount : ℕ) (assetType : AssetType)
    (s : State AccountId L) : Result (State AccountId L) := do
  let citizen ← ensureSigned ctx.origin
  ensure (0 < amount) (.module .zeroCollateral)
  let bankAccount ← required s.bankSpecialAccount (.module .bankAccountNotConfigured)
  let ledger ← pay citizen bankAccount amount s.ledger
  let bankFee := amount / 10
  let contractId := s.nextCollateralId
  return { s with
    collateralContracts := s.collateralContracts.insert contractId
      { citizen := citizen
        assetType := assetType
        collateralAmount := amount
        bankFee := bankFee
        collateralNet := amount - bankFee
        createdAt := min ctx.blockNumber u32Max
        status := .locked
        creditRequested := false }
    nextCollateralId := saturatingAdd u32Max contractId 1
    ledger := ledger }

end Funds

section Credits

variable [DecidableEq AccountId]

/-- Ask for a credit on a locked collateral. -/
def requestCredit (ctx : Context AccountId) (collateralId : ℕ) (s : State AccountId L) :
    Result (State AccountId L) := do
  let citizen ← ensureSigned ctx.origin
  let col ← required (s.collateralContracts.get collateralId) (.module .collateralNotFound)
  ensure (col.citizen = citizen) (.module .notCollateralOwner)
  ensure (col.status = .locked) (.module .invalidCollateralStatus)
  ensure (col.creditRequested = false) (.module .creditAlreadyRequested)
  return { s with
    collateralContracts :=
      s.collateralContracts.insert collateralId { col with creditRequested := true } }

/-- The amount of the credit on a collateral. -/
def creditAmount (cfg : Config) (col : CollateralContract AccountId) : ℕ :=
  saturatingMul u128Max col.collateralNet cfg.reserveMultiplier

/-- Issue the credit asked for on a collateral, as root. The amount is created. -/
def issueCredit [Currency AccountId L] (cfg : Config) (ctx : Context AccountId)
    (collateralId : ℕ) (s : State AccountId L) : Result (State AccountId L) := do
  ensureRoot ctx.origin
  ensure (cfg.reserveMultiplier = 9) (.module .invalidReserveMultiplier)
  let col ← required (s.collateralContracts.get collateralId) (.module .collateralNotFound)
  ensure (col.status = .locked) (.module .invalidCollateralStatus)
  ensure (col.creditRequested = true) (.module .creditNotRequested)
  let amount := creditAmount cfg col
  let scoreRecord := s.scoreRecord col.citizen
  let creditScores :=
    if s.creditScores.get col.citizen = none then s.creditScores.insert col.citizen .newDefault
    else s.creditScores
  let creditId := s.nextCreditId
  return { s with
    collateralContracts := s.collateralContracts.insert collateralId { col with status := .active }
    creditContracts := s.creditContracts.insert creditId
      { citizen := col.citizen
        collateralId := collateralId
        creditAmount := amount
        outstanding := amount
        accruedInterest := 0
        issuedAt := currentBlock ctx
        lastInterestBlock := currentBlock ctx
        tier := scoreRecord.tier
        status := .active }
    nextCreditId := saturatingAdd u32Max creditId 1
    totalCreditOutstanding := saturatingAdd u128Max s.totalCreditOutstanding amount
    creditScores := creditScores
    ledger := Currency.depositCreating s.ledger col.citizen amount }

/-- Accrue the interest of an active credit; anyone may. -/
def accrueInterest (cfg : Config) (ctx : Context AccountId) (creditId : ℕ)
    (s : State AccountId L) : Result (State AccountId L) := do
  let _caller ← ensureSigned ctx.origin
  let credit ← required (s.creditContracts.get creditId) (.module .creditNotFound)
  ensure (credit.status = .active) (.module .creditNotActive)
  let accrued := calculateAccruedInterest cfg ctx credit
  if 0 < accrued then
    return { s with
      creditContracts := s.creditContracts.insert creditId { credit with
        accruedInterest := saturatingAdd u128Max credit.accruedInterest accrued
        lastInterestBlock := currentBlock ctx } }
  else
    return s

/-- Declare an active credit in default, as root. -/
def declareDefault (ctx : Context AccountId) (creditId : ℕ) (s : State AccountId L) :
    Result (State AccountId L) := do
  ensureRoot ctx.origin
  let credit ← required (s.creditContracts.get creditId) (.module .creditNotFound)
  ensure (credit.status = .active) (.module .creditNotActive)
  return { s with
    creditContracts := s.creditContracts.insert creditId { credit with status := .default }
    creditScores :=
      s.creditScores.insert credit.citizen (s.scoreRecord credit.citizen).applyDefault }

/-! ### Repayment -/

/-- A credit with the interest accrued up to the current block. -/
def accrueLazily (cfg : Config) (ctx : Context AccountId) (credit : CreditContract AccountId) :
    CreditContract AccountId :=
  { credit with
    accruedInterest := saturatingAdd u128Max credit.accruedInterest
      (calculateAccruedInterest cfg ctx credit)
    lastInterestBlock := currentBlock ctx }

/-- Pay the interest due on a credit to the bank, as far as the payment goes. Gives what is left of
the payment, the credit and the ledger. -/
def payInterest [Currency AccountId L] (citizen bankAccount : AccountId) (amount : ℕ)
    (credit : CreditContract AccountId) (ledger : L) :
    Result (ℕ × CreditContract AccountId × L) :=
  let interestDue := credit.accruedInterest
  if 0 < interestDue ∧ 0 < amount then do
    let payInterest := min interestDue amount
    let ledger ← pay citizen bankAccount payInterest ledger
    return (amount - payInterest,
      { credit with accruedInterest := credit.accruedInterest - payInterest }, ledger)
  else
    .ok (amount, credit, ledger)

/-- Burn the principal repaid. -/
def burnPrincipal [Currency AccountId L] (citizen : AccountId) (principalRepay : ℕ) (ledger : L) :
    Result L :=
  if 0 < principalRepay then
    (Currency.withdraw ledger citizen principalRepay .keepAlive).mapError
      fun _ => .module .insufficientBalance
  else
    .ok ledger

/-- The credit scores after a repayment, which are written only if the score has changed. -/
def updateScore (citizen : AccountId) (fullyRepaid : Bool) (principalBurned : ℕ)
    (s : State AccountId L) : StorageMap AccountId CreditScoreRecord :=
  let old := s.scoreRecord citizen
  let new :=
    if fullyRepaid then old.applyFullRepayment
    else if 0 < principalBurned then old.applyPartialRepayment
    else old
  if old.score ≠ new.score then s.creditScores.insert citizen new else s.creditScores

/-- Close a credit repaid in full and give its collateral back, or keep it open. -/
def closeCredit [Currency AccountId L] (citizen bankAccount : AccountId) (creditId : ℕ)
    (fullyRepaid : Bool) (credit : CreditContract AccountId) (s : State AccountId L) :
    Result (State AccountId L) :=
  if fullyRepaid then do
    let s := { s with
      creditContracts := s.creditContracts.insert creditId { credit with status := .repaid } }
    let col ← required (s.collateralContracts.get credit.collateralId) (.module .collateralNotFound)
    let ledger ← pay bankAccount citizen col.collateralNet s.ledger
    return { s with
      collateralContracts :=
        s.collateralContracts.modify credit.collateralId fun c => { c with status := .released }
      ledger := ledger }
  else
    .ok { s with creditContracts := s.creditContracts.insert creditId credit }

/-- Repay a credit: the interest due first, then the principal, which is burned. -/
def repayCredit [Currency AccountId L] (cfg : Config) (ctx : Context AccountId)
    (creditId amount : ℕ) (s : State AccountId L) : Result (State AccountId L) := do
  let citizen ← ensureSigned ctx.origin
  ensure (0 < amount) (.module .zeroRepayment)
  let credit ← required (s.creditContracts.get creditId) (.module .creditNotFound)
  ensure (credit.citizen = citizen) (.module .notCreditOwner)
  ensure (credit.status = .active) (.module .creditNotActive)
  let bankAccount ← required s.bankSpecialAccount (.module .bankAccountNotConfigured)
  let credit := accrueLazily cfg ctx credit
  let (remainingPayment, credit, ledger) ← payInterest citizen bankAccount amount credit s.ledger
  let principalRepay := min remainingPayment credit.outstanding
  let ledger ← burnPrincipal citizen principalRepay ledger
  let credit := { credit with outstanding := credit.outstanding - principalRepay }
  let fullyRepaid := decide (credit.outstanding = 0 ∧ credit.accruedInterest = 0)
  closeCredit citizen bankAccount creditId fullyRepaid credit { s with
    totalCreditOutstanding := s.totalCreditOutstanding - principalRepay
    creditScores := updateScore citizen fullyRepaid principalRepay s
    ledger := ledger }

end Credits

/-- Request the freeze of an account, as root; only an event records it. -/
def requestAccountFreeze (ctx : Context AccountId) (_citizen : AccountId)
    (_reason : AccountFreezeReason) (s : State AccountId L) : Result (State AccountId L) := do
  ensureRoot ctx.origin
  return s

/-! ### Dispatch -/

/-- The dispatchables with their arguments. -/
inductive Call (AccountId : Type)
  | setBankAccount (account : AccountId)
  | assessRwa (citizen : AccountId) (assetType : AssetType) (valueInAltan : ℕ)
  | lockCollateral (amount : ℕ) (assetType : AssetType)
  | requestCredit (collateralId : ℕ)
  | issueCredit (collateralId : ℕ)
  | accrueInterest (creditId : ℕ)
  | repayCredit (creditId amount : ℕ)
  | declareDefault (creditId : ℕ)
  | requestAccountFreeze (citizen : AccountId) (reason : AccountFreezeReason)
  deriving DecidableEq

variable [DecidableEq AccountId] [Currency AccountId L]

/-- Dispatch a call. -/
def dispatch (cfg : Config) (ctx : Context AccountId) :
    Call AccountId → State AccountId L → Result (State AccountId L)
  | .setBankAccount account => setBankAccount ctx account
  | .assessRwa citizen assetType valueInAltan => assessRwa ctx citizen assetType valueInAltan
  | .lockCollateral amount assetType => lockCollateral ctx amount assetType
  | .requestCredit collateralId => requestCredit ctx collateralId
  | .issueCredit collateralId => issueCredit cfg ctx collateralId
  | .accrueInterest creditId => accrueInterest cfg ctx creditId
  | .repayCredit creditId amount => repayCredit cfg ctx creditId amount
  | .declareDefault creditId => declareDefault ctx creditId
  | .requestAccountFreeze citizen reason => requestAccountFreeze ctx citizen reason

/-- A dispatched call: its context and the call itself. -/
abbrev Extrinsic (AccountId : Type) := Context AccountId × Call AccountId

/-- One extrinsic as a step of the state machine. -/
def step (cfg : Config) (x : Extrinsic AccountId) (s : State AccountId L) :
    Result (State AccountId L) :=
  dispatch cfg x.1 x.2 s

end BankOperator
