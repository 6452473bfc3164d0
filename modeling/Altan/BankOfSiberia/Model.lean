import Altan.CentralBank.Model
import Altan.Foundation.Scale

/-!
# The Bank of Siberia

The bank keeps accounts of citizens and of sub-accounts derived from them, lends to citizens
against a lock on their balance, holds escrow contracts and time deposits in its treasury, takes
collateral into the treasury, and pays cash advances that its server has signed. The treasury is
one keyless account: what the bank owes to the parties of its contracts and what it pays out for
loans, advances, interest and its own debts to the central bank come from the same balance.

## Main definitions

* `Config`, `State`: the constants and the storage
* `Call`, `dispatch`: the dispatchables
* `payload`: the message a bank server signature covers
-/

open Bounded Dispatch

namespace BankOfSiberia

/-- The errors of the module, with those of the central bank it calls. -/
inductive Error
  | accountAlreadyExists
  | masterAccountRequired
  | duplicateAccountType
  | subAccountNotFound
  | notSubAccountOwner
  | zeroLoanAmount
  | zeroEscrowAmount
  | selfEscrow
  | zeroAmount
  | escrowNotFound
  | escrowNotLocked
  | notDepositor
  | notCounterparty
  | loanNotFound
  | loanNotPending
  | borrowerHasActiveLoan
  | zeroDepositAmount
  | zeroDepositDuration
  | depositNotFound
  | depositorMismatch
  | depositNotMatured
  | depositAlreadyClaimed
  | treasuryInsufficientFunds
  | subAccountNotEmpty
  | citizenNotApproved
  | nonceAlreadyUsed
  | invalidSignature
  | centralBank (e : CentralBank.Error)
  deriving DecidableEq, Repr

/-- The outcome of a function of the module. -/
abbrev Result (α : Type) := Except (DispatchError Error) α

/-- The kinds of sub-accounts. -/
inductive AccountType
  | savings
  | credit
  | company
  deriving DecidableEq, Repr

/-- The byte a kind contributes to the derivation of a sub-account. -/
def AccountType.derivationIndex : AccountType → UInt8
  | .savings => 0
  | .credit => 1
  | .company => 2

/-- Whether a time deposit has been claimed. -/
inductive DepositStatus
  | active
  | claimed
  deriving DecidableEq, Repr

/-- The standing of a bank account. -/
inductive AccountStatus
  | active
  | suspended
  deriving DecidableEq, Repr

/-- The stages of a loan. -/
inductive LoanStatus
  | pending
  | active
  | repaid
  | default
  deriving DecidableEq, Repr

/-- The stages of an escrow contract. -/
inductive EscrowStatus
  | locked
  | released
  | refunded
  deriving DecidableEq, Repr

/-- The account of a citizen. -/
structure BankAccount (AccountId : Type) where
  owner : AccountId
  openedAt : ℕ
  status : AccountStatus
  deriving DecidableEq, Repr

/-- A sub-account and the account that controls it. -/
structure SubAccountRecord (AccountId : Type) where
  master : AccountId
  accountType : AccountType
  openedAt : ℕ
  deriving DecidableEq, Repr

/-- A loan, from its request on. -/
structure LoanRequest (AccountId : Type) where
  borrower : AccountId
  collateral : ℕ
  amount : ℕ
  submittedAt : ℕ
  status : LoanStatus
  outstandingBalance : ℕ
  deriving DecidableEq, Repr

/-- An amount lent to the bank for a term. -/
structure TimeDeposit (AccountId : Type) where
  depositor : AccountId
  amount : ℕ
  interestRateBps : ℕ
  openedAt : ℕ
  maturityBlock : ℕ
  documentHash : List UInt8
  status : DepositStatus
  deriving DecidableEq, Repr

/-- An amount the treasury holds between two parties. -/
structure EscrowContract (AccountId : Type) where
  depositor : AccountId
  counterparty : AccountId
  amount : ℕ
  itemHash : List UInt8
  createdAt : ℕ
  status : EscrowStatus
  deriving DecidableEq, Repr

/-- A signature of one of the three schemes. -/
inductive MultiSignature
  | ed25519 (bytes : List UInt8)
  | sr25519 (bytes : List UInt8)
  | ecdsa (bytes : List UInt8)
  deriving DecidableEq, Repr

/-- The rate of time deposits, in basis points a year. -/
def annualRateBps : ℕ := 500

/-- The number of blocks in a year. -/
def blocksPerYear : ℕ := 5256000

/-- The identifier of the lock on a borrower's balance, `*b"bos/loan"`. -/
def loanLockId : LockIdentifier := [98, 111, 115, 47, 108, 111, 97, 110]

/-- The constants of the module; and of the code it rests on, the hash that derives an account
from bytes, the verification of signatures, and the fixed-point proportion of an amount. -/
structure Config (AccountId : Type) where
  centralBank : CentralBank.Config AccountId
  treasuryAccount : AccountId
  encodeAccount : AccountId → List UInt8
  hashAccount : List UInt8 → AccountId
  verify : MultiSignature → List UInt8 → List UInt8 → Bool
  proportion : ℕ → ℕ → ℕ → ℕ

/-- What a call is dispatched with: its origin, which origins pass as the banking branch at the
time, the block, and which citizens the migration centre has approved. -/
structure Context (AccountId : Type) where
  origin : Origin AccountId
  bankingOrigin : Origin AccountId → Bool
  blockNumber : ℕ
  isApplicationApproved : AccountId → Bool

/-- The storage of the module, with that of the central bank. -/
structure State (AccountId L : Type) where
  bankAccounts : StorageMap AccountId (BankAccount AccountId)
  subAccounts : StorageMap (AccountId × AccountId) AccountType
  subAccountMeta : StorageMap AccountId (SubAccountRecord AccountId)
  loanRequests : StorageMap ℕ (LoanRequest AccountId)
  nextLoanId : ℕ
  activeLoanByBorrower : StorageMap AccountId ℕ
  loanCollateral : StorageMap (AccountId × ℕ) ℕ
  escrowContracts : StorageMap ℕ (EscrowContract AccountId)
  nextEscrowId : ℕ
  timeDeposits : StorageMap ℕ (TimeDeposit AccountId)
  nextTimeDepositId : ℕ
  bankServerKey : Option AccountId
  usedNonces : StorageMap ℕ Bool
  collateralBalances : StorageMap AccountId ℕ
  centralBank : CentralBank.State AccountId L

section Helpers

variable {AccountId L : Type}

/-- The storage before any call, on a storage of the central bank. -/
def genesis (centralBank : CentralBank.State AccountId L) : State AccountId L where
  bankAccounts := ∅
  subAccounts := ∅
  subAccountMeta := ∅
  loanRequests := ∅
  nextLoanId := 0
  activeLoanByBorrower := ∅
  loanCollateral := ∅
  escrowContracts := ∅
  nextEscrowId := 0
  timeDeposits := ∅
  nextTimeDepositId := 0
  bankServerKey := none
  usedNonces := ∅
  collateralBalances := ∅
  centralBank := centralBank

/-- The ledger the bank and the central bank share. -/
def State.ledger (s : State AccountId L) : L := s.centralBank.ledger

/-- The storage on another ledger. -/
def State.withLedger (s : State AccountId L) (l : L) : State AccountId L :=
  { s with centralBank := { s.centralBank with ledger := l } }

@[simp] theorem State.withLedger_ledger (s : State AccountId L) (l : L) :
    (s.withLedger l).ledger = l := rfl

/-- The check `T::BankingOrigin::ensure_origin`. -/
def ensureBankingOrigin (ctx : Context AccountId) : Result Unit :=
  ensure (ctx.bankingOrigin ctx.origin = true) .badOrigin

/-- The block number as an unsigned 32-bit integer, zero when it does not fit. -/
def currentBlock (ctx : Context AccountId) : ℕ :=
  if ctx.blockNumber ≤ u32Max then ctx.blockNumber else 0

/-- The address of a sub-account. -/
def deriveSubAccount (cfg : Config AccountId) (master : AccountId) (accountType : AccountType)
    (nonce : ℕ) : AccountId :=
  cfg.hashAccount
    (cfg.encodeAccount master ++ [accountType.derivationIndex] ++ Scale.littleEndian 4 nonce)

/-- The interest on an amount for the term of a deposit. -/
def calculateInterest (cfg : Config AccountId)
    (amount interestRateBps openedAt maturityBlock : ℕ) : ℕ :=
  let duration := maturityBlock - openedAt
  let numerator := saturatingMul u64Max interestRateBps duration
  let denominator := saturatingMul u64Max 10000 blocksPerYear
  -- the denominator is a constant and not zero
  if denominator = 0 then 0 else cfg.proportion numerator denominator amount

/-- The message a signature of the bank server covers: the encoded caller, amount and nonce. -/
def payload (cfg : Config AccountId) (caller : AccountId) (amount nonce : ℕ) : List UInt8 :=
  cfg.encodeAccount caller ++ Scale.littleEndian 16 amount ++ Scale.littleEndian 8 nonce

/-- The server key as a 32-byte account: the first 32 bytes of its encoding. -/
def serverKey32 (cfg : Config AccountId) (serverKey : AccountId) : Option (List UInt8) :=
  let bytes := cfg.encodeAccount serverKey
  if 32 ≤ bytes.length then some (bytes.take 32) else none

/-- The checks on a bank server signature: the server key is set, decodes, and verifies the
signature of the payload. -/
def ensureSignature (cfg : Config AccountId) (caller : AccountId) (amount nonce : ℕ)
    (bankSignature : MultiSignature) (s : State AccountId L) : Result Unit := do
  let serverKey ← required s.bankServerKey (.module .invalidSignature)
  let serverKey32 ← required (serverKey32 cfg serverKey) (.module .invalidSignature)
  ensure (cfg.verify bankSignature (payload cfg caller amount nonce) serverKey32 = true)
    (.module .invalidSignature)

variable [Currency AccountId L]

/-- A transfer on the ledger. -/
def transfer (source dest : AccountId) (amount : ℕ) (er : ExistenceRequirement)
    (s : State AccountId L) : Result (State AccountId L) := do
  let ledger ← liftCurrency (Currency.transfer s.ledger source dest amount er)
  return s.withLedger ledger

/-- The central bank's part of a call. -/
def onCentralBank
    (f : CentralBank.State AccountId L → CentralBank.Result (CentralBank.State AccountId L))
    (s : State AccountId L) : Result (State AccountId L) := do
  let centralBank ← (f s.centralBank).mapError (DispatchError.map .centralBank)
  return { s with centralBank := centralBank }

end Helpers

section Calls

variable {AccountId L : Type} [DecidableEq AccountId]

/-! ### Accounts -/

/-- The record of a sub-account that `master` controls. -/
def ensureSubAccountOwner (master subAccount : AccountId) (s : State AccountId L) :
    Result (SubAccountRecord AccountId) := do
  let record ← required (s.subAccountMeta.get subAccount) (.module .subAccountNotFound)
  ensure (record.master = master) (.module .notSubAccountOwner)
  return record

/-- Open a bank account as the signer. -/
def openMasterAccount (ctx : Context AccountId) (s : State AccountId L) :
    Result (State AccountId L) := do
  let citizen ← ensureSigned ctx.origin
  ensure (ctx.isApplicationApproved citizen = true) (.module .citizenNotApproved)
  ensure (s.bankAccounts.containsKey citizen = false) (.module .accountAlreadyExists)
  return { s with
    bankAccounts := s.bankAccounts.insert citizen
      { owner := citizen
        openedAt := currentBlock ctx
        status := .active } }

/-- Open the sub-account of a kind. -/
def openSubAccount (cfg : Config AccountId) (ctx : Context AccountId) (accountType : AccountType)
    (s : State AccountId L) : Result (State AccountId L) := do
  let master ← ensureSigned ctx.origin
  ensure (s.bankAccounts.containsKey master = true) (.module .masterAccountRequired)
  let subAccount := deriveSubAccount cfg master accountType 0
  ensure (s.subAccounts.containsKey (master, subAccount) = false) (.module .duplicateAccountType)
  return { s with
    subAccounts := s.subAccounts.insert (master, subAccount) accountType
    subAccountMeta := s.subAccountMeta.insert subAccount
      { master := master
        accountType := accountType
        openedAt := currentBlock ctx } }

/-- The storage without a sub-account. -/
def removeSubAccount (master subAccount : AccountId) (s : State AccountId L) :
    State AccountId L :=
  { s with
    subAccounts := s.subAccounts.remove (master, subAccount)
    subAccountMeta := s.subAccountMeta.remove subAccount }

section Funds

variable [Currency AccountId L]

/-- Move funds from a savings sub-account to its master; a full withdrawal removes its
records. -/
def withdrawFromSavings (ctx : Context AccountId) (subAccount : AccountId) (amount : ℕ)
    (s : State AccountId L) : Result (State AccountId L) := do
  let master ← ensureSigned ctx.origin
  let record ← ensureSubAccountOwner master subAccount s
  ensure (record.accountType = .savings) (.module .notSubAccountOwner)
  ensure (0 < amount) (.module .zeroAmount)
  -- the records go before the transfer, whose failure brings them back
  let s := if Ledger.freeBalance s.ledger subAccount ≤ amount then
    removeSubAccount master subAccount s else s
  transfer subAccount master amount .allowDeath s

/-- Close an empty sub-account. -/
def closeSubAccount (ctx : Context AccountId) (subAccount : AccountId) (s : State AccountId L) :
    Result (State AccountId L) := do
  let master ← ensureSigned ctx.origin
  let _ ← ensureSubAccountOwner master subAccount s
  ensure (Ledger.freeBalance s.ledger subAccount = 0) (.module .subAccountNotEmpty)
  return removeSubAccount master subAccount s

/-! ### Loans -/

variable [LockableCurrency AccountId L]

/-- Repay the signer's active loan. A loan paid off gives back its collateral and the lock. -/
def payCredit (cfg : Config AccountId) (ctx : Context AccountId) (subAccount : AccountId)
    (amount : ℕ) (s : State AccountId L) : Result (State AccountId L) := do
  let master ← ensureSigned ctx.origin
  let record ← ensureSubAccountOwner master subAccount s
  ensure (record.accountType = .credit) (.module .notSubAccountOwner)
  ensure (0 < amount) (.module .zeroAmount)
  let loanId ← required (s.activeLoanByBorrower.get master) (.module .loanNotFound)
  let loan ← required (s.loanRequests.get loanId) (.module .loanNotFound)
  ensure (loan.status = .active) (.module .loanNotFound)
  let s ← transfer master cfg.treasuryAccount amount .keepAlive s
  -- what is paid beyond the outstanding balance stays with the treasury
  let newOutstanding := loan.outstandingBalance - amount
  if newOutstanding = 0 then
    -- the one lock of the master is removed, whatever else it secures
    return { s.withLedger (LockableCurrency.removeLock s.ledger loanLockId master) with
      loanCollateral := s.loanCollateral.remove (master, loanId)
      activeLoanByBorrower := s.activeLoanByBorrower.remove master
      loanRequests := s.loanRequests.insert loanId
        { loan with outstandingBalance := newOutstanding, status := .repaid } }
  else
    return { s with
      loanRequests := s.loanRequests.insert loanId
        { loan with outstandingBalance := newOutstanding } }

/-- Ask for a loan against a lock on the signer's balance. -/
def requestLoan (ctx : Context AccountId) (amount collateral : ℕ) (s : State AccountId L) :
    Result (State AccountId L) := do
  let borrower ← ensureSigned ctx.origin
  ensure (s.bankAccounts.containsKey borrower = true) (.module .masterAccountRequired)
  ensure (0 < amount) (.module .zeroLoanAmount)
  let loanId := s.nextLoanId
  -- the lock is set to this collateral, not raised by it
  return { s.withLedger (LockableCurrency.setLock s.ledger loanLockId borrower collateral) with
    nextLoanId := saturatingAdd u32Max loanId 1
    loanCollateral := s.loanCollateral.insert (borrower, loanId) collateral
    loanRequests := s.loanRequests.insert loanId
      { borrower := borrower
        collateral := collateral
        amount := amount
        submittedAt := currentBlock ctx
        status := .pending
        outstandingBalance := amount } }

/-- Approve a pending loan and pay it out. -/
def approveLoan (cfg : Config AccountId) (ctx : Context AccountId) (loanId : ℕ)
    (s : State AccountId L) : Result (State AccountId L) := do
  ensureBankingOrigin ctx
  let loan ← required (s.loanRequests.get loanId) (.module .loanNotFound)
  ensure (loan.status = .pending) (.module .loanNotPending)
  ensure (s.activeLoanByBorrower.containsKey loan.borrower = false)
    (.module .borrowerHasActiveLoan)
  -- the whole balance counts, owed to others or not
  ensure (loan.amount ≤ Ledger.freeBalance s.ledger cfg.treasuryAccount)
    (.module .treasuryInsufficientFunds)
  let s ← transfer cfg.treasuryAccount loan.borrower loan.amount .keepAlive s
  return { s with
    loanRequests := s.loanRequests.insert loanId { loan with status := .active }
    activeLoanByBorrower := s.activeLoanByBorrower.insert loan.borrower loanId }

/-- Cancel the signer's pending loan request. -/
def cancelLoanRequest (ctx : Context AccountId) (loanId : ℕ) (s : State AccountId L) :
    Result (State AccountId L) := do
  let borrower ← ensureSigned ctx.origin
  let loan ← required (s.loanRequests.get loanId) (.module .loanNotFound)
  ensure (loan.borrower = borrower) (.module .notSubAccountOwner)
  ensure (loan.status = .pending) (.module .loanNotPending)
  return { s.withLedger (LockableCurrency.removeLock s.ledger loanLockId borrower) with
    loanCollateral := s.loanCollateral.remove (borrower, loanId)
    loanRequests := s.loanRequests.insert loanId { loan with status := .repaid } }

/-! ### Escrow contracts -/

/-- Deposit an amount for a counterparty. -/
def createEscrow (cfg : Config AccountId) (ctx : Context AccountId) (counterparty : AccountId)
    (amount : ℕ) (itemHash : List UInt8) (s : State AccountId L) :
    Result (State AccountId L) := do
  let depositor ← ensureSigned ctx.origin
  ensure (s.bankAccounts.containsKey depositor = true) (.module .masterAccountRequired)
  ensure (0 < amount) (.module .zeroEscrowAmount)
  ensure (depositor ≠ counterparty) (.module .selfEscrow)
  let s ← transfer depositor cfg.treasuryAccount amount .allowDeath s
  let escrowId := s.nextEscrowId
  return { s with
    nextEscrowId := saturatingAdd u32Max escrowId 1
    escrowContracts := s.escrowContracts.insert escrowId
      { depositor := depositor
        counterparty := counterparty
        amount := amount
        itemHash := itemHash
        createdAt := currentBlock ctx
        status := .locked } }

/-- Pay an escrowed amount to the counterparty, as the depositor. -/
def releaseEscrow (cfg : Config AccountId) (ctx : Context AccountId) (escrowId : ℕ)
    (s : State AccountId L) : Result (State AccountId L) := do
  let caller ← ensureSigned ctx.origin
  let contract ← required (s.escrowContracts.get escrowId) (.module .escrowNotFound)
  ensure (contract.depositor = caller) (.module .notDepositor)
  ensure (contract.status = .locked) (.module .escrowNotLocked)
  let s ← transfer cfg.treasuryAccount contract.counterparty contract.amount .allowDeath s
  return { s with
    escrowContracts := s.escrowContracts.insert escrowId { contract with status := .released } }

/-- Pay an escrowed amount back to the depositor, as the counterparty. -/
def refundEscrow (cfg : Config AccountId) (ctx : Context AccountId) (escrowId : ℕ)
    (s : State AccountId L) : Result (State AccountId L) := do
  let caller ← ensureSigned ctx.origin
  let contract ← required (s.escrowContracts.get escrowId) (.module .escrowNotFound)
  ensure (contract.counterparty = caller) (.module .notCounterparty)
  ensure (contract.status = .locked) (.module .escrowNotLocked)
  let s ← transfer cfg.treasuryAccount contract.depositor contract.amount .allowDeath s
  return { s with
    escrowContracts := s.escrowContracts.insert escrowId { contract with status := .refunded } }

/-! ### Time deposits -/

/-- Deposit an amount for a number of blocks. -/
def openTimeDeposit (cfg : Config AccountId) (ctx : Context AccountId)
    (amount durationBlocks : ℕ) (documentHash : List UInt8) (s : State AccountId L) :
    Result (State AccountId L) := do
  let depositor ← ensureSigned ctx.origin
  ensure (s.bankAccounts.containsKey depositor = true) (.module .masterAccountRequired)
  ensure (0 < amount) (.module .zeroDepositAmount)
  ensure (0 < durationBlocks) (.module .zeroDepositDuration)
  let openedAt := currentBlock ctx
  let maturityBlock := saturatingAdd u32Max openedAt durationBlocks
  let s ← transfer depositor cfg.treasuryAccount amount .allowDeath s
  let depositId := s.nextTimeDepositId
  return { s with
    nextTimeDepositId := saturatingAdd u32Max depositId 1
    timeDeposits := s.timeDeposits.insert depositId
      { depositor := depositor
        amount := amount
        interestRateBps := annualRateBps
        openedAt := openedAt
        maturityBlock := maturityBlock
        documentHash := documentHash
        status := .active } }

/-- What a matured deposit pays: its amount and the interest on it. -/
def TimeDeposit.payout (cfg : Config AccountId) (deposit : TimeDeposit AccountId) : ℕ :=
  saturatingAdd u128Max deposit.amount
    (calculateInterest cfg deposit.amount deposit.interestRateBps deposit.openedAt
      deposit.maturityBlock)

/-- Claim a matured deposit with its interest. -/
def claimTimeDeposit (cfg : Config AccountId) (ctx : Context AccountId) (depositId : ℕ)
    (s : State AccountId L) : Result (State AccountId L) := do
  let caller ← ensureSigned ctx.origin
  let deposit ← required (s.timeDeposits.get depositId) (.module .depositNotFound)
  ensure (deposit.depositor = caller) (.module .depositorMismatch)
  ensure (deposit.status = .active) (.module .depositAlreadyClaimed)
  ensure (deposit.maturityBlock ≤ currentBlock ctx) (.module .depositNotMatured)
  let total := deposit.payout cfg
  ensure (total ≤ Ledger.freeBalance s.ledger cfg.treasuryAccount)
    (.module .treasuryInsufficientFunds)
  let s ← transfer cfg.treasuryAccount caller total .allowDeath s
  return { s with
    timeDeposits := s.timeDeposits.insert depositId { deposit with status := .claimed } }

/-! ### The treasury -/

/-- Fund the treasury as the signer, with the authority of the banking branch. -/
def fundTreasury (cfg : Config AccountId) (ctx : Context AccountId) (amount : ℕ)
    (s : State AccountId L) : Result (State AccountId L) := do
  let who ← ensureSigned ctx.origin
  ensureBankingOrigin ctx
  ensure (0 < amount) (.module .zeroAmount)
  transfer who cfg.treasuryAccount amount .keepAlive s

/-- Set the account whose signatures release collateral and cash advances. -/
def setBankServerKey (ctx : Context AccountId) (key : AccountId) (s : State AccountId L) :
    Result (State AccountId L) := do
  ensureBankingOrigin ctx
  return { s with bankServerKey := some key }

/-- The recorded collateral of an account. -/
def State.collateral (s : State AccountId L) (account : AccountId) : ℕ :=
  s.collateralBalances.getD account 0

/-- Move collateral to the treasury. -/
def lockCollateral (cfg : Config AccountId) (ctx : Context AccountId) (amount : ℕ)
    (s : State AccountId L) : Result (State AccountId L) := do
  let caller ← ensureSigned ctx.origin
  ensure (0 < amount) (.module .zeroAmount)
  let s ← transfer caller cfg.treasuryAccount amount .keepAlive s
  let newBalance := saturatingAdd u128Max (s.collateral caller) amount
  return { s with collateralBalances := s.collateralBalances.insert caller newBalance }

/-- Take collateral back, with a signature of the bank server. -/
def unlockCollateral (cfg : Config AccountId) (ctx : Context AccountId) (amount nonce : ℕ)
    (bankSignature : MultiSignature) (s : State AccountId L) : Result (State AccountId L) := do
  let caller ← ensureSigned ctx.origin
  ensure (0 < amount) (.module .zeroAmount)
  ensure (s.usedNonces.getD nonce false = false) (.module .nonceAlreadyUsed)
  ensureSignature cfg caller amount nonce bankSignature s
  -- too little collateral is reported as a zero amount
  ensure (amount ≤ s.collateral caller) (.module .zeroAmount)
  transfer cfg.treasuryAccount caller amount .keepAlive { s with
    usedNonces := s.usedNonces.insert nonce true
    collateralBalances := s.collateralBalances.insert caller (s.collateral caller - amount) }

/-- Draw a cash advance from the treasury, with a signature of the bank server. -/
def claimCashAdvance (cfg : Config AccountId) (ctx : Context AccountId) (amount nonce : ℕ)
    (bankSignature : MultiSignature) (s : State AccountId L) : Result (State AccountId L) := do
  let who ← ensureSigned ctx.origin
  ensure (s.usedNonces.getD nonce false = false) (.module .nonceAlreadyUsed)
  -- the message is that of `unlock_collateral`
  ensureSignature cfg who amount nonce bankSignature s
  transfer cfg.treasuryAccount who amount .keepAlive { s with
    usedNonces := s.usedNonces.insert nonce true }

/-- Pay a cash advance back to the treasury. -/
def repayCashAdvance (cfg : Config AccountId) (ctx : Context AccountId) (amount : ℕ)
    (s : State AccountId L) : Result (State AccountId L) := do
  let who ← ensureSigned ctx.origin
  ensure (0 < amount) (.module .zeroAmount)
  transfer who cfg.treasuryAccount amount .keepAlive s

/-- Borrow from the central bank into the treasury. -/
def borrowWholesale (cfg : Config AccountId) (ctx : Context AccountId) (amount : ℕ)
    (s : State AccountId L) : Result (State AccountId L) := do
  ensureBankingOrigin ctx
  onCentralBank (CentralBank.doRequestCredit cfg.centralBank cfg.treasuryAccount amount) s

/-- Repay the central bank from the treasury. -/
def repayWholesale (cfg : Config AccountId) (ctx : Context AccountId) (epochId amount : ℕ)
    (s : State AccountId L) : Result (State AccountId L) := do
  ensureBankingOrigin ctx
  onCentralBank (CentralBank.doRepayCredit cfg.centralBank cfg.treasuryAccount epochId amount) s

/-! ### The dispatchables -/

/-- The dispatchables with their arguments. -/
inductive Call (AccountId : Type)
  | openMasterAccount
  | openSubAccount (accountType : AccountType)
  | withdrawFromSavings (subAccount : AccountId) (amount : ℕ)
  | payCredit (subAccount : AccountId) (amount : ℕ)
  | closeSubAccount (subAccount : AccountId)
  | requestLoan (amount collateral : ℕ)
  | createEscrow (counterparty : AccountId) (amount : ℕ) (itemHash : List UInt8)
  | openTimeDeposit (amount durationBlocks : ℕ) (documentHash : List UInt8)
  | claimTimeDeposit (depositId : ℕ)
  | releaseEscrow (escrowId : ℕ)
  | refundEscrow (escrowId : ℕ)
  | approveLoan (loanId : ℕ)
  | fundTreasury (amount : ℕ)
  | cancelLoanRequest (loanId : ℕ)
  | setBankServerKey (key : AccountId)
  | claimCashAdvance (amount nonce : ℕ) (bankSignature : MultiSignature)
  | lockCollateral (amount : ℕ)
  | unlockCollateral (amount nonce : ℕ) (bankSignature : MultiSignature)
  | repayCashAdvance (amount : ℕ)
  | borrowWholesale (amount : ℕ)
  | repayWholesale (epochId amount : ℕ)
  deriving DecidableEq, Repr

/-- Dispatch a call. -/
def dispatch (cfg : Config AccountId) (ctx : Context AccountId) :
    Call AccountId → State AccountId L → Result (State AccountId L)
  | .openMasterAccount => openMasterAccount ctx
  | .openSubAccount accountType => openSubAccount cfg ctx accountType
  | .withdrawFromSavings subAccount amount => withdrawFromSavings ctx subAccount amount
  | .payCredit subAccount amount => payCredit cfg ctx subAccount amount
  | .closeSubAccount subAccount => closeSubAccount ctx subAccount
  | .requestLoan amount collateral => requestLoan ctx amount collateral
  | .createEscrow counterparty amount itemHash => createEscrow cfg ctx counterparty amount itemHash
  | .openTimeDeposit amount durationBlocks documentHash =>
    openTimeDeposit cfg ctx amount durationBlocks documentHash
  | .claimTimeDeposit depositId => claimTimeDeposit cfg ctx depositId
  | .releaseEscrow escrowId => releaseEscrow cfg ctx escrowId
  | .refundEscrow escrowId => refundEscrow cfg ctx escrowId
  | .approveLoan loanId => approveLoan cfg ctx loanId
  | .fundTreasury amount => fundTreasury cfg ctx amount
  | .cancelLoanRequest loanId => cancelLoanRequest ctx loanId
  | .setBankServerKey key => setBankServerKey ctx key
  | .claimCashAdvance amount nonce bankSignature =>
    claimCashAdvance cfg ctx amount nonce bankSignature
  | .lockCollateral amount => lockCollateral cfg ctx amount
  | .unlockCollateral amount nonce bankSignature =>
    unlockCollateral cfg ctx amount nonce bankSignature
  | .repayCashAdvance amount => repayCashAdvance cfg ctx amount
  | .borrowWholesale amount => borrowWholesale cfg ctx amount
  | .repayWholesale epochId amount => repayWholesale cfg ctx epochId amount

/-- A dispatched call: its context and the call itself. -/
abbrev Extrinsic (AccountId : Type) := Context AccountId × Call AccountId

/-- One extrinsic as a step of the state machine. -/
def step (cfg : Config AccountId) (x : Extrinsic AccountId) (s : State AccountId L) :
    Result (State AccountId L) :=
  dispatch cfg x.1 x.2 s

end Funds

end Calls

end BankOfSiberia
