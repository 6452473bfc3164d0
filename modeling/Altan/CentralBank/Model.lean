import Altan.Foundation.Arithmetic
import Altan.Foundation.Currency
import Altan.Foundation.StorageMap

/-!
# The central bank

The central bank issues and destroys currency: it mints to licensed operators, burns from them,
grants a fixed amount to new citizens, and lends from a rotating credit pool whose debts are
kept for each operator and epoch. It also routes the genesis supply to one confederation
treasury, and to a treasury and a pension fund for each region; the accounts it routes to are
pure proxies, which the proxy module creates on the way.

## Main definitions

* `ProxyModule`: what the central bank relies on of the proxy module
* `Config`, `State`: the constants and the storage
* `genesis`: the storage at genesis
* `doRequestCredit`, `doRepayCredit`: borrowing from and repaying to the credit pool
* `triggerGenesisDistribution`: the routing of the genesis supply
* `Call`, `dispatch`: the dispatchables
-/

open Bounded Dispatch

namespace CentralBank

/-- The errors of the module, and the one error of the proxy module it can run into. -/
inductive Error
  | notLicensedOperator
  | notCreator
  | alreadyDistributed
  | alreadyLicensed
  | alreadyRevoked
  | zeroAmount
  | arithmeticOverflow
  | insufficientOperatorBalance
  | epochNotFound
  | insufficientDebt
  | insufficientBalance
  | creditPoolExhausted
  | rateExceedsMax
  | invalidRegion
  | proxyDuplicate
  deriving DecidableEq, Repr

/-- The outcome of a function of the module. -/
abbrev Result (α : Type) := Except (DispatchError Error) α

/-- The pure proxies there are, each with its creator and the deposit on it. -/
abbrev Proxies (AccountId : Type) := StorageMap AccountId (AccountId × ℕ)

/-- The proxy module on a ledger. It creates pure proxies at new addresses only, and records them;
the deposit is reserved from the creator. -/
class ProxyModule (AccountId : outParam Type) [DecidableEq AccountId] (L : Type)
    [Ledger AccountId L] where
  createPure : (pureProxy who : AccountId) → (deposit : ℕ) → Proxies AccountId → L →
    Result (Proxies AccountId × L)
  createPure_fresh : ∀ pureProxy who deposit proxies (l : L) r,
    createPure pureProxy who deposit proxies l = .ok r → proxies.get pureProxy = none
  createPure_recorded : ∀ pureProxy who deposit proxies (l : L) r,
    createPure pureProxy who deposit proxies l = .ok r → r.1.get pureProxy = some (who, deposit)
  createPure_reserved : ∀ pureProxy who deposit proxies (l : L) r,
    createPure pureProxy who deposit proxies l = .ok r → Ledger.Reserved l r.2 who deposit

/-- A credit epoch: its rate in basis points, and what was issued and repaid in it. -/
structure EpochInfo where
  startBlock : ℕ
  keyRate : ℕ
  totalIssued : ℕ
  totalRepaid : ℕ
  creditLimit : ℕ
  deriving DecidableEq, Repr

/-- The official codes of the 83 regions. -/
def regionCodes83 : List ℕ := List.range' 1 79 ++ [83, 86, 87, 89]

/-- The constants of the module, and how the proxy module derives the address of a pure proxy
from its creator, the block and extrinsic of its creation, and an index. -/
structure Config (AccountId : Type) where
  creatorAccount : AccountId
  centralBankAccountId : AccountId
  creditEpochLimit : ℕ
  optimalKeyRate : ℕ
  maxProtectiveRate : ℕ
  optimalUtilization : ℕ
  proxyDepositBase : ℕ
  proxyDepositFactor : ℕ
  pureAccount : AccountId → ℕ → ℕ → ℕ → AccountId
  creditEpochLimit_le : creditEpochLimit ≤ u128Max

/-- What a call is dispatched with: its origin, which origins pass as the banking branch at the
time, and its place in the chain. -/
structure Context (AccountId : Type) where
  origin : Origin AccountId
  bankingOrigin : Origin AccountId → Bool
  blockNumber : ℕ
  extrinsicIndex : Option ℕ

/-- The storage of the module, with the pure proxies and the ledger it works on. -/
structure State (AccountId L : Type) where
  licensedOperators : StorageMap AccountId Bool
  totalEmitted : ℕ
  totalBurned : ℕ
  nextTrancheId : ℕ
  genesisDistributed : Bool
  currentEpochId : ℕ
  epochs : StorageMap ℕ EpochInfo
  confederationTreasury : Option AccountId
  regionalTreasuries : StorageMap ℕ AccountId
  pensionFunds : StorageMap ℕ AccountId
  operatorDebt : StorageMap (AccountId × ℕ) ℕ
  totalOperatorDebt : StorageMap AccountId ℕ
  genesisCreditAvailable : ℕ
  totalOutstanding : ℕ
  baseKeyRate : ℕ
  proxies : Proxies AccountId
  ledger : L

variable {AccountId L : Type} [DecidableEq AccountId]

/-- The storage at genesis, on the ledger `l`. -/
def genesis (cfg : Config AccountId) (licensedOperators : List (AccountId × Bool)) (l : L) :
    State AccountId L where
  licensedOperators := licensedOperators.foldl (fun m p => m.insert p.1 p.2) ∅
  totalEmitted := 0
  totalBurned := 0
  nextTrancheId := 0
  genesisDistributed := false
  currentEpochId := 1
  epochs := (∅ : StorageMap ℕ EpochInfo).insert 1
    { startBlock := 0
      keyRate := 0
      totalIssued := 0
      totalRepaid := 0
      creditLimit := cfg.creditEpochLimit }
  confederationTreasury := none
  regionalTreasuries := ∅
  pensionFunds := ∅
  operatorDebt := ∅
  totalOperatorDebt := ∅
  genesisCreditAvailable := cfg.creditEpochLimit
  totalOutstanding := 0
  baseKeyRate := cfg.optimalKeyRate
  proxies := ∅
  ledger := l

/-- Whether an account is a licensed operator. -/
def State.isLicensed (s : State AccountId L) (operator : AccountId) : Bool :=
  s.licensedOperators.getD operator false

/-- The debt of an operator in an epoch. -/
def State.debt (s : State AccountId L) (operator : AccountId) (epochId : ℕ) : ℕ :=
  s.operatorDebt.getD (operator, epochId) 0

/-- The recorded total debt of an operator. -/
def State.totalDebt (s : State AccountId L) (operator : AccountId) : ℕ :=
  s.totalOperatorDebt.getD operator 0

/-- The checks `T::BankingOrigin::ensure_origin`. -/
def ensureBankingOrigin (ctx : Context AccountId) : Result Unit :=
  ensure (ctx.bankingOrigin ctx.origin = true) .badOrigin

/-! ### The dynamic key rate -/

/-- The share of the credit pool in use, in percent. -/
def utilizationPercent (cfg : Config AccountId) (outstanding : ℕ) : ℕ :=
  let percent := saturatingMul u128Max outstanding 100 / cfg.creditEpochLimit
  -- `unwrap_or(0)` of the conversion to 32 bits
  if percent ≤ u32Max then percent else 0

/-- The key rate for a given outstanding credit: linear up to the optimal utilization, and
steeper beyond it. The division by an optimal utilization of zero panics. -/
def computeDynamicRate (cfg : Config AccountId) (outstanding : ℕ) : Option ℕ :=
  if cfg.creditEpochLimit = 0 ∨ outstanding = 0 then some 0
  else
    let utilization := utilizationPercent cfg outstanding
    if utilization ≤ cfg.optimalUtilization then
      checkedDiv (saturatingMul u32Max utilization cfg.optimalKeyRate) cfg.optimalUtilization
    else
      -- the penalty is in proportion to the excess over the optimal utilization
      let excessUtilization := utilization - cfg.optimalUtilization
      let maxExcess := 100 - cfg.optimalUtilization
      if maxExcess = 0 then some cfg.maxProtectiveRate
      else
        let penaltySpread := cfg.maxProtectiveRate - cfg.optimalKeyRate
        (checkedDiv (saturatingMul u32Max excessUtilization penaltySpread) maxExcess).map
          (saturatingAdd u32Max cfg.optimalKeyRate)

/-- Write a rate to the record of the current epoch. -/
def applyDynamicRateToEpoch (dynamicRate : ℕ) (s : State AccountId L) :
    Result (State AccountId L) := do
  let epoch ← required (s.epochs.get s.currentEpochId) (.module .epochNotFound)
  return { s with epochs := s.epochs.insert s.currentEpochId { epoch with keyRate := dynamicRate } }

/-- Compute the key rate and write it to the current epoch. -/
def updateDynamicRate (cfg : Config AccountId) (s : State AccountId L) :
    Result (State AccountId L) := do
  let dynamicRate ← required (computeDynamicRate cfg s.totalOutstanding) .panic
  applyDynamicRateToEpoch dynamicRate s

/-- Close the current epoch and open the next one. -/
def doEpochTransition (cfg : Config AccountId) (ctx : Context AccountId) (oldEpochId : ℕ)
    (s : State AccountId L) : Result (State AccountId L) := do
  -- at the end of the range the epoch is written over
  let newEpochId := saturatingAdd u32Max oldEpochId 1
  let currentDynamicRate ← required (computeDynamicRate cfg s.totalOutstanding) .panic
  return { s with
    epochs := s.epochs.insert newEpochId
      { startBlock := ctx.blockNumber
        keyRate := currentDynamicRate
        totalIssued := 0
        totalRepaid := 0
        creditLimit := cfg.creditEpochLimit }
    currentEpochId := newEpochId }

/-! ### The monetary infrastructure -/

/-- Register a licensed operator. -/
def grantOperatorLicense (ctx : Context AccountId) (operator : AccountId)
    (s : State AccountId L) : Result (State AccountId L) := do
  ensureBankingOrigin ctx
  ensure (s.isLicensed operator = false) (.module .alreadyLicensed)
  return { s with licensedOperators := s.licensedOperators.insert operator true }

/-- Revoke the license of an operator. -/
def revokeOperatorLicense (ctx : Context AccountId) (operator : AccountId)
    (s : State AccountId L) : Result (State AccountId L) := do
  ensureBankingOrigin ctx
  ensure (s.isLicensed operator = true) (.module .alreadyRevoked)
  return { s with licensedOperators := s.licensedOperators.insert operator false }

/-- Close the current epoch by hand. -/
def transitionEpoch (cfg : Config AccountId) (ctx : Context AccountId) (s : State AccountId L) :
    Result (State AccountId L) := do
  ensureBankingOrigin ctx
  doEpochTransition cfg ctx s.currentEpochId s

/-- Set the base rate. -/
def setBaseRate (cfg : Config AccountId) (ctx : Context AccountId) (newRateBps : ℕ)
    (s : State AccountId L) : Result (State AccountId L) := do
  ensureBankingOrigin ctx
  ensure (newRateBps ≤ cfg.maxProtectiveRate) (.module .rateExceedsMax)
  return { s with baseKeyRate := newRateBps }

section Emission

variable [Currency AccountId L]

/-- Mint to a licensed operator. -/
def mintToOperator (ctx : Context AccountId) (operator : AccountId) (amount : ℕ)
    (s : State AccountId L) : Result (State AccountId L) := do
  ensureBankingOrigin ctx
  ensure (0 < amount) (.module .zeroAmount)
  ensure (s.isLicensed operator = true) (.module .notLicensedOperator)
  -- the imbalance, which says what was really created, is dropped
  let ledger := Currency.depositCreating s.ledger operator amount
  let totalEmitted ← required (checkedAdd u128Max s.totalEmitted amount)
    (.module .arithmeticOverflow)
  return { s with
    ledger := ledger
    -- the identifiers of tranches clip at the end of their range
    nextTrancheId := saturatingAdd u32Max s.nextTrancheId 1
    totalEmitted := totalEmitted }

/-- Burn from the free balance of a licensed operator. -/
def burn (ctx : Context AccountId) (operator : AccountId) (amount : ℕ)
    (s : State AccountId L) : Result (State AccountId L) := do
  ensureBankingOrigin ctx
  ensure (amount ≠ 0) (.module .zeroAmount)
  ensure (s.isLicensed operator = true) (.module .notLicensedOperator)
  ensure (amount ≤ Ledger.freeBalance s.ledger operator) (.module .insufficientOperatorBalance)
  -- any error of the withdrawal is reported as an insufficient balance
  let ledger ← (Currency.withdraw s.ledger operator amount .keepAlive).mapError
    fun _ => .module .insufficientOperatorBalance
  let totalBurned ← required (checkedAdd u128Max s.totalBurned amount)
    (.module .arithmeticOverflow)
  return { s with
    ledger := ledger
    totalBurned := totalBurned }

/-- The amount of a genesis grant. -/
def genesisGrant : ℕ := 100000000000000

/-- Grant the genesis amount to a citizen of a region. -/
def issueGenesisGrant (ctx : Context AccountId) (citizen : AccountId) (regionCode : ℕ)
    (s : State AccountId L) : Result (State AccountId L) := do
  ensureBankingOrigin ctx
  ensure (s.pensionFunds.containsKey regionCode = true) (.module .invalidRegion)
  -- the imbalance is dropped here too
  let ledger := Currency.depositCreating s.ledger citizen genesisGrant
  let totalEmitted ← required (checkedAdd u128Max s.totalEmitted genesisGrant)
    (.module .arithmeticOverflow)
  return { s with
    ledger := ledger
    totalEmitted := totalEmitted }

/-! ### The credit pool -/

/-- Lend to a licensed operator from the credit pool. -/
def doRequestCredit (cfg : Config AccountId) (operator : AccountId) (amount : ℕ)
    (s : State AccountId L) : Result (State AccountId L) := do
  ensure (0 < amount) (.module .zeroAmount)
  ensure (s.isLicensed operator = true) (.module .notLicensedOperator)
  let newDebt := saturatingAdd u128Max (s.totalDebt operator) amount
  ensure (amount ≤ s.genesisCreditAvailable) (.module .creditPoolExhausted)
  let epochId := s.currentEpochId
  ensure (s.epochs.containsKey epochId = true) (.module .epochNotFound)
  -- the currency is created, whatever comes of it on the account
  updateDynamicRate cfg { s with
    genesisCreditAvailable := s.genesisCreditAvailable - amount
    totalOutstanding := saturatingAdd u128Max s.totalOutstanding amount
    ledger := Currency.depositCreating s.ledger operator amount
    epochs := s.epochs.modify epochId fun e =>
      { e with totalIssued := saturatingAdd u128Max e.totalIssued amount }
    operatorDebt := s.operatorDebt.insert (operator, epochId)
      (saturatingAdd u128Max (s.debt operator epochId) amount)
    totalOperatorDebt := s.totalOperatorDebt.insert operator newDebt }

/-- Take back from an operator a debt of a given epoch. -/
def doRepayCredit (cfg : Config AccountId) (operator : AccountId) (epochId amount : ℕ)
    (s : State AccountId L) : Result (State AccountId L) := do
  ensure (0 < amount) (.module .zeroAmount)
  ensure (s.epochs.containsKey epochId = true) (.module .epochNotFound)
  let outstanding := s.debt operator epochId
  ensure (amount ≤ outstanding) (.module .insufficientDebt)
  ensure (amount ≤ Ledger.freeBalance s.ledger operator) (.module .insufficientBalance)
  let ledger ← (Currency.withdraw s.ledger operator amount .keepAlive).mapError
    fun _ => .module .insufficientBalance
  -- the total debt of an operator is not checked, only the debt in the epoch
  updateDynamicRate cfg { s with
    ledger := ledger
    operatorDebt := s.operatorDebt.insert (operator, epochId) (outstanding - amount)
    epochs := s.epochs.modify epochId fun e =>
      { e with totalRepaid := saturatingAdd u128Max e.totalRepaid amount }
    totalOperatorDebt := s.totalOperatorDebt.insert operator (s.totalDebt operator - amount)
    genesisCreditAvailable :=
      min (saturatingAdd u128Max s.genesisCreditAvailable amount) cfg.creditEpochLimit
    totalOutstanding := s.totalOutstanding - amount }

/-- Borrow as the signer. -/
def requestCredit (cfg : Config AccountId) (ctx : Context AccountId) (amount : ℕ)
    (s : State AccountId L) : Result (State AccountId L) := do
  let who ← ensureSigned ctx.origin
  doRequestCredit cfg who amount s

/-- Repay as the signer. -/
def repayCredit (cfg : Config AccountId) (ctx : Context AccountId) (epochId amount : ℕ)
    (s : State AccountId L) : Result (State AccountId L) := do
  let who ← ensureSigned ctx.origin
  doRepayCredit cfg who epochId amount s

end Emission

/-! ### The genesis distribution -/

/-- One unit of the currency. -/
def unit : ℕ := 1000000000000

/-- The share of the pension funds, 90 percent of the genesis supply. -/
def totalReserve : ℕ := 1890000000000 * unit

/-- The share of the regional treasuries, 7 percent. -/
def totalRegional : ℕ := 147000000000 * unit

/-- The share of the confederation treasury, 3 percent. -/
def totalConfederation : ℕ := 63000000000 * unit

/-- What one pension fund receives. -/
def reservePerRegion : ℕ := totalReserve / 83

/-- What one regional treasury receives. -/
def regionalPerRegion : ℕ := totalRegional / 83

section Distribution

variable [Currency AccountId L] [ProxyModule AccountId L]

/-- The address of the pure proxy with an index, created by `who` in this call. -/
def computePure (cfg : Config AccountId) (ctx : Context AccountId) (who : AccountId)
    (index : ℕ) : AccountId :=
  cfg.pureAccount who ctx.blockNumber (ctx.extrinsicIndex.getD 0) index

/-- Have the proxy module create a pure proxy, for a deposit on a list of one entry, the creator. -/
def createPure (cfg : Config AccountId) (ctx : Context AccountId) (index : ℕ)
    (s : State AccountId L) : Result (State AccountId L) := do
  let who ← ensureSigned ctx.origin
  let r ← ProxyModule.createPure (computePure cfg ctx who index) who
    (cfg.proxyDepositBase + cfg.proxyDepositFactor) s.proxies s.ledger
  return { s with
    ledger := r.2
    proxies := r.1 }

/-- Create a pure proxy and fund it from the central bank. -/
def createAndFund (cfg : Config AccountId) (ctx : Context AccountId) (who : AccountId)
    (amount index : ℕ) (s : State AccountId L) : Result (State AccountId L) := do
  let s ← createPure cfg ctx index s
  let ledger ← liftCurrency (Currency.transfer s.ledger cfg.centralBankAccountId
    (computePure cfg ctx who index) amount .keepAlive)
  return { s with ledger := ledger }

/-- Create and fund the treasury and the pension fund of one region, with two indices from
`index` on. -/
def distributeRegion (cfg : Config AccountId) (ctx : Context AccountId) (who : AccountId)
    (regionCode index : ℕ) (s : State AccountId L) : Result (State AccountId L) := do
  let s ← createAndFund cfg ctx who regionalPerRegion index s
  let s := { s with
    regionalTreasuries := s.regionalTreasuries.insert regionCode (computePure cfg ctx who index) }
  let s ← createAndFund cfg ctx who reservePerRegion (index + 1) s
  return { s with
    pensionFunds := s.pensionFunds.insert regionCode (computePure cfg ctx who (index + 1)) }

/-- The loop over the region codes, from `index` on. -/
def distributeRegions (cfg : Config AccountId) (ctx : Context AccountId) (who : AccountId) :
    List ℕ → ℕ → State AccountId L → Result (State AccountId L)
  | [], _, s => return s
  | regionCode :: codes, index, s => do
    let s ← distributeRegion cfg ctx who regionCode index s
    distributeRegions cfg ctx who codes (index + 2) s

/-- Route the genesis supply from the central bank to the treasuries and pension funds. -/
def triggerGenesisDistribution (cfg : Config AccountId) (ctx : Context AccountId)
    (s : State AccountId L) : Result (State AccountId L) := do
  let who ← ensureSigned ctx.origin
  ensure (who = cfg.creatorAccount) (.module .notCreator)
  ensure (s.genesisDistributed = false) (.module .alreadyDistributed)
  -- the flag is set first; a failure later on takes it back
  let s := { s with genesisDistributed := true }
  let s ← createAndFund cfg ctx who totalConfederation 0 s
  let s := { s with confederationTreasury := some (computePure cfg ctx who 0) }
  distributeRegions cfg ctx who regionCodes83 1 s

/-! ### The dispatchables -/

/-- The dispatchables with their arguments. -/
inductive Call (AccountId : Type)
  | grantOperatorLicense (operator : AccountId)
  | revokeOperatorLicense (operator : AccountId)
  | mintToOperator (operator : AccountId) (amount : ℕ)
  | burn (operator : AccountId) (amount : ℕ)
  | transitionEpoch
  | setBaseRate (newRateBps : ℕ)
  | requestCredit (amount : ℕ)
  | repayCredit (epochId amount : ℕ)
  | triggerGenesisDistribution
  | issueGenesisGrant (citizen : AccountId) (regionCode : ℕ)
  deriving DecidableEq, Repr

/-- Dispatch a call. -/
def dispatch (cfg : Config AccountId) (ctx : Context AccountId) :
    Call AccountId → State AccountId L → Result (State AccountId L)
  | .grantOperatorLicense operator => grantOperatorLicense ctx operator
  | .revokeOperatorLicense operator => revokeOperatorLicense ctx operator
  | .mintToOperator operator amount => mintToOperator ctx operator amount
  | .burn operator amount => burn ctx operator amount
  | .transitionEpoch => transitionEpoch cfg ctx
  | .setBaseRate newRateBps => setBaseRate cfg ctx newRateBps
  | .requestCredit amount => requestCredit cfg ctx amount
  | .repayCredit epochId amount => repayCredit cfg ctx epochId amount
  | .triggerGenesisDistribution => triggerGenesisDistribution cfg ctx
  | .issueGenesisGrant citizen regionCode => issueGenesisGrant ctx citizen regionCode

/-- A dispatched call: its context and the call itself. -/
abbrev Extrinsic (AccountId : Type) := Context AccountId × Call AccountId

/-- One extrinsic as a step of the state machine. -/
def step (cfg : Config AccountId) (x : Extrinsic AccountId) (s : State AccountId L) :
    Result (State AccountId L) :=
  dispatch cfg x.1 x.2 s

end Distribution

end CentralBank
