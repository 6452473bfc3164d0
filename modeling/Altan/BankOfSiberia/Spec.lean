import Altan.BankOfSiberia.Model
import Altan.CentralBank.Spec

/-!
# What the bank's calls do

Each dispatchable, when it succeeds, has passed its checks, moved funds at most once, and
changed the storage in one way.

## Main definitions

* `Signed`: a bank server signature is accepted
* `Call.records`: the records a call is about

## Main results

* `transfer_eq_ok`, `onCentralBank_eq_ok`: the two ways a call reaches the ledger
* One lemma for each dispatchable
* `step_frame`: the other records are left alone
-/

open Bounded Dispatch

namespace BankOfSiberia

variable {AccountId L : Type} {cfg : Config AccountId} {ctx : Context AccountId}
  {s s' : State AccountId L} {source dest key : AccountId} {amount nonce : ℕ}
  {er : ExistenceRequirement} {bankSignature : MultiSignature}

theorem ensureBankingOrigin_bind_eq_ok {α : Type} {k : Unit → Result α} {a : α} :
    (ensureBankingOrigin ctx >>= k) = .ok a ↔ ctx.bankingOrigin ctx.origin = true ∧ k () = .ok a :=
  ensure_bind_eq_ok

/-- The server key is set, decodes, and verifies the signature of the payload. -/
def Signed (cfg : Config AccountId) (caller : AccountId) (amount nonce : ℕ)
    (bankSignature : MultiSignature) (s : State AccountId L) : Prop :=
  ∃ serverKey, s.bankServerKey = some serverKey ∧
    ∃ key, serverKey32 cfg serverKey = some key ∧
      cfg.verify bankSignature (payload cfg caller amount nonce) key = true

theorem ensureSignature_bind_eq_ok {α : Type} {caller : AccountId} {k : Unit → Result α} {a : α} :
    (ensureSignature cfg caller amount nonce bankSignature s >>= k) = .ok a ↔
      Signed cfg caller amount nonce bankSignature s ∧ k () = .ok a := by
  rw [bind_eq_ok]
  simp only [ensureSignature, required_bind_eq_ok, ensure_eq_ok, Signed]
  constructor
  · rintro ⟨_, hsigned, hk⟩
    exact ⟨hsigned, hk⟩
  · rintro ⟨hsigned, hk⟩
    exact ⟨(), hsigned, hk⟩

/-- The checks on a signature do not involve the ledger. -/
theorem ensureSignature_ne_currency {caller : AccountId} {e : CurrencyError} :
    ensureSignature cfg caller amount nonce bankSignature s ≠ .error (.currency e) := by
  intro h
  obtain ⟨_, _, h⟩ := required_bind_eq_currency.mp h
  obtain ⟨_, _, h⟩ := required_bind_eq_currency.mp h
  unfold ensure at h
  split at h <;> cases h

theorem setBankServerKey_eq_ok : setBankServerKey ctx key s = .ok s' ↔
    ctx.bankingOrigin ctx.origin = true ∧ s' = { s with bankServerKey := some key } := by
  simp only [setBankServerKey, ensureBankingOrigin_bind_eq_ok, pure_eq_ok, eq_comm (a := s')]

section Funds

variable [Currency AccountId L]

theorem transfer_bind_eq_ok {α : Type} {k : State AccountId L → Result α} {a : α} :
    (transfer source dest amount er s >>= k) = .ok a ↔
      ∃ l, Currency.transfer s.ledger source dest amount er = .ok l ∧
        k (s.withLedger l) = .ok a := by
  simp only [bind_eq_ok, transfer, liftCurrency_eq_ok, pure_eq_ok]
  constructor
  · rintro ⟨_, ⟨l, hl, rfl⟩, hk⟩
    exact ⟨l, hl, hk⟩
  · rintro ⟨l, hl, hk⟩
    exact ⟨_, ⟨l, hl, rfl⟩, hk⟩

theorem transfer_eq_ok : transfer source dest amount er s = .ok s' ↔
    ∃ l, Currency.transfer s.ledger source dest amount er = .ok l ∧ s' = s.withLedger l := by
  simp only [transfer, liftCurrency_bind_eq_ok, pure_eq_ok, eq_comm (a := s')]

theorem transfer_eq_currency {e : CurrencyError} :
    transfer source dest amount er s = .error (.currency e) ↔
      Currency.transfer s.ledger source dest amount er = .error e := by
  unfold transfer
  rw [bind_eq_error]
  constructor
  · rintro (h | ⟨_, _, h⟩)
    · exact liftCurrency_eq_currency.mp h
    · cases h
  · intro h
    exact Or.inl (liftCurrency_eq_currency.mpr h)

/-- A transfer that the ledger refuses, whatever is recorded after it. -/
theorem transfer_bind_eq_currency {f : State AccountId L → State AccountId L}
    {e : CurrencyError}
    (h : (transfer source dest amount er s >>= fun t => pure (f t)) = .error (.currency e)) :
    Currency.transfer s.ledger source dest amount er = .error e := by
  rcases bind_eq_error.mp h with h | ⟨_, _, h⟩
  · exact transfer_eq_currency.mp h
  · cases h

omit [Currency AccountId L] in
theorem onCentralBank_eq_ok
    {f : CentralBank.State AccountId L → CentralBank.Result (CentralBank.State AccountId L)} :
    onCentralBank f s = .ok s' ↔
      ∃ c, f s.centralBank = .ok c ∧ s' = { s with centralBank := c } := by
  simp only [onCentralBank, mapError_bind_eq_ok, pure_eq_ok, eq_comm (a := s')]

theorem fundTreasury_eq_ok : fundTreasury cfg ctx amount s = .ok s' ↔
    ∃ who, ctx.origin = .signed who ∧ ctx.bankingOrigin ctx.origin = true ∧ 0 < amount ∧
      ∃ l, Currency.transfer s.ledger who cfg.treasuryAccount amount .keepAlive = .ok l ∧
        s' = s.withLedger l := by
  simp only [fundTreasury, ensureSigned_bind_eq_ok, ensureBankingOrigin_bind_eq_ok,
    ensure_bind_eq_ok, transfer_eq_ok]

theorem claimCashAdvance_eq_ok : claimCashAdvance cfg ctx amount nonce bankSignature s = .ok s' ↔
    ∃ who, ctx.origin = .signed who ∧ s.usedNonces.getD nonce false = false ∧
      Signed cfg who amount nonce bankSignature s ∧
        ∃ l, Currency.transfer s.ledger cfg.treasuryAccount who amount .keepAlive = .ok l ∧
          s' = { s.withLedger l with usedNonces := s.usedNonces.insert nonce true } := by
  simp only [claimCashAdvance, ensureSigned_bind_eq_ok, ensure_bind_eq_ok,
    ensureSignature_bind_eq_ok, transfer_eq_ok]
  rfl

theorem repayCashAdvance_eq_ok : repayCashAdvance cfg ctx amount s = .ok s' ↔
    ∃ who, ctx.origin = .signed who ∧ 0 < amount ∧
      ∃ l, Currency.transfer s.ledger who cfg.treasuryAccount amount .keepAlive = .ok l ∧
        s' = s.withLedger l := by
  simp only [repayCashAdvance, ensureSigned_bind_eq_ok, ensure_bind_eq_ok, transfer_eq_ok]

end Funds

variable [DecidableEq AccountId] {accountType : AccountType}
  {master subAccount counterparty : AccountId}
  {loanId escrowId depositId epochId collateral durationBlocks : ℕ} {hash : List UInt8}

theorem ensureSubAccountOwner_bind_eq_ok {α : Type}
    {k : SubAccountRecord AccountId → Result α} {a : α} :
    (ensureSubAccountOwner master subAccount s >>= k) = .ok a ↔
      ∃ record, s.subAccountMeta.get subAccount = some record ∧ record.master = master ∧
        k record = .ok a := by
  rw [bind_eq_ok]
  simp only [ensureSubAccountOwner, required_bind_eq_ok, ensure_bind_eq_ok, pure_eq_ok]
  constructor
  · rintro ⟨_, ⟨record, hget, hmaster, rfl⟩, hk⟩
    exact ⟨record, hget, hmaster, hk⟩
  · rintro ⟨record, hget, hmaster, hk⟩
    exact ⟨record, ⟨record, hget, hmaster, rfl⟩, hk⟩

theorem openMasterAccount_eq_ok : openMasterAccount ctx s = .ok s' ↔
    ∃ citizen, ctx.origin = .signed citizen ∧ ctx.isApplicationApproved citizen = true ∧
      s.bankAccounts.containsKey citizen = false ∧
        s' = { s with
          bankAccounts := s.bankAccounts.insert citizen
            { owner := citizen
              openedAt := currentBlock ctx
              status := .active } } := by
  simp only [openMasterAccount, ensureSigned_bind_eq_ok, ensure_bind_eq_ok, pure_eq_ok,
    eq_comm (a := s')]

theorem openSubAccount_eq_ok : openSubAccount cfg ctx accountType s = .ok s' ↔
    ∃ master, ctx.origin = .signed master ∧ s.bankAccounts.containsKey master = true ∧
      s.subAccounts.containsKey (master, deriveSubAccount cfg master accountType 0) = false ∧
        s' = { s with
          subAccounts :=
            s.subAccounts.insert (master, deriveSubAccount cfg master accountType 0) accountType
          subAccountMeta := s.subAccountMeta.insert (deriveSubAccount cfg master accountType 0)
            { master := master
              accountType := accountType
              openedAt := currentBlock ctx } } := by
  simp only [openSubAccount, ensureSigned_bind_eq_ok, ensure_bind_eq_ok, pure_eq_ok,
    eq_comm (a := s')]

section Funds

variable [Currency AccountId L]

/-- The storage a withdrawal leaves: without the sub-account when it is emptied. -/
def withdrawn (master subAccount : AccountId) (amount : ℕ) (s : State AccountId L) :
    State AccountId L :=
  if Ledger.freeBalance s.ledger subAccount ≤ amount then removeSubAccount master subAccount s
  else s

@[simp] theorem withdrawn_ledger :
    (withdrawn master subAccount amount s).ledger = s.ledger := by
  unfold withdrawn
  split <;> rfl

theorem withdrawFromSavings_eq_ok : withdrawFromSavings ctx subAccount amount s = .ok s' ↔
    ∃ master, ctx.origin = .signed master ∧
      ∃ record, s.subAccountMeta.get subAccount = some record ∧ record.master = master ∧
        record.accountType = .savings ∧ 0 < amount ∧
          ∃ l, Currency.transfer s.ledger subAccount master amount .allowDeath = .ok l ∧
            s' = (withdrawn master subAccount amount s).withLedger l := by
  simp only [withdrawFromSavings, ensureSigned_bind_eq_ok, ensureSubAccountOwner_bind_eq_ok,
    ensure_bind_eq_ok, transfer_eq_ok]
  have hw : ∀ m, (if Ledger.freeBalance s.ledger subAccount ≤ amount then
      removeSubAccount m subAccount s else s) = withdrawn m subAccount amount s := fun m => rfl
  simp only [hw, withdrawn_ledger]

theorem closeSubAccount_eq_ok : closeSubAccount ctx subAccount s = .ok s' ↔
    ∃ master, ctx.origin = .signed master ∧
      ∃ record, s.subAccountMeta.get subAccount = some record ∧ record.master = master ∧
        Ledger.freeBalance s.ledger subAccount = 0 ∧ s' = removeSubAccount master subAccount s := by
  simp only [closeSubAccount, ensureSigned_bind_eq_ok, ensureSubAccountOwner_bind_eq_ok,
    ensure_bind_eq_ok, pure_eq_ok, eq_comm (a := s')]

theorem approveLoan_eq_ok : approveLoan cfg ctx loanId s = .ok s' ↔
    ctx.bankingOrigin ctx.origin = true ∧
      ∃ loan, s.loanRequests.get loanId = some loan ∧ loan.status = .pending ∧
        s.activeLoanByBorrower.containsKey loan.borrower = false ∧
          loan.amount ≤ Ledger.freeBalance s.ledger cfg.treasuryAccount ∧
            ∃ l, Currency.transfer s.ledger cfg.treasuryAccount loan.borrower loan.amount
                .keepAlive = .ok l ∧
              s' = { s.withLedger l with
                loanRequests := s.loanRequests.insert loanId { loan with status := .active }
                activeLoanByBorrower := s.activeLoanByBorrower.insert loan.borrower loanId } := by
  simp only [approveLoan, ensureBankingOrigin_bind_eq_ok, required_bind_eq_ok, ensure_bind_eq_ok,
    transfer_bind_eq_ok, pure_eq_ok, eq_comm (a := s')]
  rfl

theorem createEscrow_eq_ok : createEscrow cfg ctx counterparty amount hash s = .ok s' ↔
    ∃ depositor, ctx.origin = .signed depositor ∧
      s.bankAccounts.containsKey depositor = true ∧ 0 < amount ∧ depositor ≠ counterparty ∧
        ∃ l, Currency.transfer s.ledger depositor cfg.treasuryAccount amount .allowDeath = .ok l ∧
          s' = { s.withLedger l with
            nextEscrowId := saturatingAdd u32Max s.nextEscrowId 1
            escrowContracts := s.escrowContracts.insert s.nextEscrowId
              { depositor := depositor
                counterparty := counterparty
                amount := amount
                itemHash := hash
                createdAt := currentBlock ctx
                status := .locked } } := by
  simp only [createEscrow, ensureSigned_bind_eq_ok, ensure_bind_eq_ok, transfer_bind_eq_ok,
    pure_eq_ok, eq_comm (a := s')]
  rfl

theorem releaseEscrow_eq_ok : releaseEscrow cfg ctx escrowId s = .ok s' ↔
    ∃ caller, ctx.origin = .signed caller ∧
      ∃ contract, s.escrowContracts.get escrowId = some contract ∧ contract.depositor = caller ∧
        contract.status = .locked ∧
          ∃ l, Currency.transfer s.ledger cfg.treasuryAccount contract.counterparty
              contract.amount .allowDeath = .ok l ∧
            s' = { s.withLedger l with
              escrowContracts :=
                s.escrowContracts.insert escrowId { contract with status := .released } } := by
  simp only [releaseEscrow, ensureSigned_bind_eq_ok, required_bind_eq_ok, ensure_bind_eq_ok,
    transfer_bind_eq_ok, pure_eq_ok, eq_comm (a := s')]
  rfl

theorem refundEscrow_eq_ok : refundEscrow cfg ctx escrowId s = .ok s' ↔
    ∃ caller, ctx.origin = .signed caller ∧
      ∃ contract, s.escrowContracts.get escrowId = some contract ∧
        contract.counterparty = caller ∧ contract.status = .locked ∧
          ∃ l, Currency.transfer s.ledger cfg.treasuryAccount contract.depositor
              contract.amount .allowDeath = .ok l ∧
            s' = { s.withLedger l with
              escrowContracts :=
                s.escrowContracts.insert escrowId { contract with status := .refunded } } := by
  simp only [refundEscrow, ensureSigned_bind_eq_ok, required_bind_eq_ok, ensure_bind_eq_ok,
    transfer_bind_eq_ok, pure_eq_ok, eq_comm (a := s')]
  rfl

theorem openTimeDeposit_eq_ok : openTimeDeposit cfg ctx amount durationBlocks hash s = .ok s' ↔
    ∃ depositor, ctx.origin = .signed depositor ∧
      s.bankAccounts.containsKey depositor = true ∧ 0 < amount ∧ 0 < durationBlocks ∧
        ∃ l, Currency.transfer s.ledger depositor cfg.treasuryAccount amount .allowDeath = .ok l ∧
          s' = { s.withLedger l with
            nextTimeDepositId := saturatingAdd u32Max s.nextTimeDepositId 1
            timeDeposits := s.timeDeposits.insert s.nextTimeDepositId
              { depositor := depositor
                amount := amount
                interestRateBps := annualRateBps
                openedAt := currentBlock ctx
                maturityBlock := saturatingAdd u32Max (currentBlock ctx) durationBlocks
                documentHash := hash
                status := .active } } := by
  simp only [openTimeDeposit, ensureSigned_bind_eq_ok, ensure_bind_eq_ok, transfer_bind_eq_ok,
    pure_eq_ok, eq_comm (a := s')]
  rfl

theorem claimTimeDeposit_eq_ok : claimTimeDeposit cfg ctx depositId s = .ok s' ↔
    ∃ caller, ctx.origin = .signed caller ∧
      ∃ deposit, s.timeDeposits.get depositId = some deposit ∧ deposit.depositor = caller ∧
        deposit.status = .active ∧ deposit.maturityBlock ≤ currentBlock ctx ∧
          deposit.payout cfg ≤ Ledger.freeBalance s.ledger cfg.treasuryAccount ∧
            ∃ l, Currency.transfer s.ledger cfg.treasuryAccount caller (deposit.payout cfg)
                .allowDeath = .ok l ∧
              s' = { s.withLedger l with
                timeDeposits :=
                  s.timeDeposits.insert depositId { deposit with status := .claimed } } := by
  simp only [claimTimeDeposit, ensureSigned_bind_eq_ok, required_bind_eq_ok, ensure_bind_eq_ok,
    transfer_bind_eq_ok, pure_eq_ok, eq_comm (a := s')]
  rfl

theorem lockCollateral_eq_ok : lockCollateral cfg ctx amount s = .ok s' ↔
    ∃ caller, ctx.origin = .signed caller ∧ 0 < amount ∧
      ∃ l, Currency.transfer s.ledger caller cfg.treasuryAccount amount .keepAlive = .ok l ∧
        s' = { s.withLedger l with
          collateralBalances := s.collateralBalances.insert caller
            (saturatingAdd u128Max (s.collateral caller) amount) } := by
  simp only [lockCollateral, ensureSigned_bind_eq_ok, ensure_bind_eq_ok, transfer_bind_eq_ok,
    pure_eq_ok, eq_comm (a := s')]
  rfl

theorem unlockCollateral_eq_ok : unlockCollateral cfg ctx amount nonce bankSignature s = .ok s' ↔
    ∃ caller, ctx.origin = .signed caller ∧ 0 < amount ∧
      s.usedNonces.getD nonce false = false ∧ Signed cfg caller amount nonce bankSignature s ∧
        amount ≤ s.collateral caller ∧
          ∃ l, Currency.transfer s.ledger cfg.treasuryAccount caller amount .keepAlive = .ok l ∧
            s' = { s.withLedger l with
              usedNonces := s.usedNonces.insert nonce true
              collateralBalances :=
                s.collateralBalances.insert caller (s.collateral caller - amount) } := by
  simp only [unlockCollateral, ensureSigned_bind_eq_ok, ensure_bind_eq_ok,
    ensureSignature_bind_eq_ok, transfer_eq_ok]
  rfl

theorem borrowWholesale_eq_ok : borrowWholesale cfg ctx amount s = .ok s' ↔
    ctx.bankingOrigin ctx.origin = true ∧
      ∃ c, CentralBank.doRequestCredit cfg.centralBank cfg.treasuryAccount amount s.centralBank =
          .ok c ∧
        s' = { s with centralBank := c } := by
  simp only [borrowWholesale, ensureBankingOrigin_bind_eq_ok, onCentralBank_eq_ok]

theorem repayWholesale_eq_ok : repayWholesale cfg ctx epochId amount s = .ok s' ↔
    ctx.bankingOrigin ctx.origin = true ∧
      ∃ c, CentralBank.doRepayCredit cfg.centralBank cfg.treasuryAccount epochId amount
          s.centralBank = .ok c ∧
        s' = { s with centralBank := c } := by
  simp only [repayWholesale, ensureBankingOrigin_bind_eq_ok, onCentralBank_eq_ok]

/-! ### Payments the ledger refuses -/

theorem releaseEscrow_eq_currency {e : CurrencyError}
    (h : releaseEscrow cfg ctx escrowId s = .error (.currency e)) :
    ∃ contract, s.escrowContracts.get escrowId = some contract ∧ contract.status = .locked ∧
      Currency.transfer s.ledger cfg.treasuryAccount contract.counterparty contract.amount
        .allowDeath = .error e := by
  obtain ⟨_, _, h⟩ := ensureSigned_bind_eq_currency.mp h
  obtain ⟨contract, hcontract, h⟩ := required_bind_eq_currency.mp h
  obtain ⟨_, h⟩ := ensure_bind_eq_currency.mp h
  obtain ⟨hlocked, h⟩ := ensure_bind_eq_currency.mp h
  exact ⟨contract, hcontract, hlocked, transfer_bind_eq_currency h⟩

theorem refundEscrow_eq_currency {e : CurrencyError}
    (h : refundEscrow cfg ctx escrowId s = .error (.currency e)) :
    ∃ contract, s.escrowContracts.get escrowId = some contract ∧ contract.status = .locked ∧
      Currency.transfer s.ledger cfg.treasuryAccount contract.depositor contract.amount
        .allowDeath = .error e := by
  obtain ⟨_, _, h⟩ := ensureSigned_bind_eq_currency.mp h
  obtain ⟨contract, hcontract, h⟩ := required_bind_eq_currency.mp h
  obtain ⟨_, h⟩ := ensure_bind_eq_currency.mp h
  obtain ⟨hlocked, h⟩ := ensure_bind_eq_currency.mp h
  exact ⟨contract, hcontract, hlocked, transfer_bind_eq_currency h⟩

theorem unlockCollateral_eq_currency {e : CurrencyError}
    (h : unlockCollateral cfg ctx amount nonce bankSignature s = .error (.currency e)) :
    ∃ caller, amount ≤ s.collateral caller ∧
      Currency.transfer s.ledger cfg.treasuryAccount caller amount .keepAlive = .error e := by
  obtain ⟨caller, _, h⟩ := ensureSigned_bind_eq_currency.mp h
  obtain ⟨_, h⟩ := ensure_bind_eq_currency.mp h
  obtain ⟨_, h⟩ := ensure_bind_eq_currency.mp h
  -- a refusal by the ledger does not come from the signature
  rcases bind_eq_error.mp h with h | ⟨_, _, h⟩
  · exact absurd h ensureSignature_ne_currency
  · obtain ⟨hle, h⟩ := ensure_bind_eq_currency.mp h
    have htransfer := transfer_eq_currency.mp h
    exact ⟨caller, hle, htransfer⟩

variable [LockableCurrency AccountId L]

theorem requestLoan_eq_ok : requestLoan ctx amount collateral s = .ok s' ↔
    ∃ borrower, ctx.origin = .signed borrower ∧ s.bankAccounts.containsKey borrower = true ∧
      0 < amount ∧
        s' = { s.withLedger (LockableCurrency.setLock s.ledger loanLockId borrower collateral) with
          nextLoanId := saturatingAdd u32Max s.nextLoanId 1
          loanCollateral := s.loanCollateral.insert (borrower, s.nextLoanId) collateral
          loanRequests := s.loanRequests.insert s.nextLoanId
            { borrower := borrower
              collateral := collateral
              amount := amount
              submittedAt := currentBlock ctx
              status := .pending
              outstandingBalance := amount } } := by
  simp only [requestLoan, ensureSigned_bind_eq_ok, ensure_bind_eq_ok, pure_eq_ok,
    eq_comm (a := s')]

/-- The storage after a payment on a loan: with the loan repaid, its collateral and the lock
given back when nothing is outstanding any more. -/
def paid (master : AccountId) (loanId : ℕ) (loan : LoanRequest AccountId) (amount : ℕ)
    (s : State AccountId L) : State AccountId L :=
  if loan.outstandingBalance - amount = 0 then
    { s.withLedger (LockableCurrency.removeLock s.ledger loanLockId master) with
      loanCollateral := s.loanCollateral.remove (master, loanId)
      activeLoanByBorrower := s.activeLoanByBorrower.remove master
      loanRequests := s.loanRequests.insert loanId
        { loan with outstandingBalance := loan.outstandingBalance - amount, status := .repaid } }
  else
    { s with
      loanRequests := s.loanRequests.insert loanId
        { loan with outstandingBalance := loan.outstandingBalance - amount } }

theorem payCredit_eq_ok : payCredit cfg ctx subAccount amount s = .ok s' ↔
    ∃ master, ctx.origin = .signed master ∧
      ∃ record, s.subAccountMeta.get subAccount = some record ∧ record.master = master ∧
        record.accountType = .credit ∧ 0 < amount ∧
          ∃ loanId, s.activeLoanByBorrower.get master = some loanId ∧
            ∃ loan, s.loanRequests.get loanId = some loan ∧ loan.status = .active ∧
              ∃ l, Currency.transfer s.ledger master cfg.treasuryAccount amount .keepAlive = .ok l ∧
                s' = paid master loanId loan amount (s.withLedger l) := by
  simp only [payCredit, ensureSigned_bind_eq_ok, ensureSubAccountOwner_bind_eq_ok,
    ensure_bind_eq_ok, required_bind_eq_ok, transfer_bind_eq_ok]
  -- both branches of the model end in `paid`
  have hp : ∀ m i (loan : LoanRequest AccountId) (t : State AccountId L),
      (if loan.outstandingBalance - amount = 0 then
        (pure { t.withLedger (LockableCurrency.removeLock t.ledger loanLockId m) with
          loanCollateral := t.loanCollateral.remove (m, i)
          activeLoanByBorrower := t.activeLoanByBorrower.remove m
          loanRequests := t.loanRequests.insert i
            { loan with
              outstandingBalance := loan.outstandingBalance - amount
              status := .repaid } } :
          Result (State AccountId L))
      else
        pure { t with
          loanRequests := t.loanRequests.insert i
            { loan with outstandingBalance := loan.outstandingBalance - amount } }) =
        .ok (paid m i loan amount t) := by
    intro m i loan t
    unfold paid
    split <;> rfl
  simp only [hp, Except.ok.injEq, eq_comm (a := s')]

theorem cancelLoanRequest_eq_ok : cancelLoanRequest ctx loanId s = .ok s' ↔
    ∃ borrower, ctx.origin = .signed borrower ∧
      ∃ loan, s.loanRequests.get loanId = some loan ∧ loan.borrower = borrower ∧
        loan.status = .pending ∧
          s' = { s.withLedger (LockableCurrency.removeLock s.ledger loanLockId borrower) with
            loanCollateral := s.loanCollateral.remove (borrower, loanId)
            loanRequests := s.loanRequests.insert loanId { loan with status := .repaid } } := by
  simp only [cancelLoanRequest, ensureSigned_bind_eq_ok, required_bind_eq_ok, ensure_bind_eq_ok,
    pure_eq_ok, eq_comm (a := s')]

end Funds

/-! ### What a call leaves alone -/

/-- The records that belong together. -/
inductive Records
  | subAccounts
  | escrows
  | deposits
  | creditPool
  deriving DecidableEq

/-- The records a call is about, if any of these. -/
def Call.records : Call AccountId → Option Records
  | .openSubAccount _ | .withdrawFromSavings _ _ | .closeSubAccount _ => some .subAccounts
  | .createEscrow _ _ _ | .releaseEscrow _ | .refundEscrow _ => some .escrows
  | .openTimeDeposit _ _ _ | .claimTimeDeposit _ => some .deposits
  | .borrowWholesale _ | .repayWholesale _ _ => some .creditPool
  | _ => none

section Frame

variable [Currency AccountId L] [LockableCurrency AccountId L] {records : Records}

/-- The records are the same in both states; of the central bank's, all but the ledger. -/
def Records.Same (s s' : State AccountId L) : Records → Prop
  | .subAccounts => (s'.subAccounts, s'.subAccountMeta) = (s.subAccounts, s.subAccountMeta)
  | .escrows => (s'.escrowContracts, s'.nextEscrowId) = (s.escrowContracts, s.nextEscrowId)
  | .deposits => (s'.timeDeposits, s'.nextTimeDepositId) = (s.timeDeposits, s.nextTimeDepositId)
  | .creditPool => s'.centralBank = { s.centralBank with ledger := s'.ledger }

/-- **A successful call leaves the records alone that it is not about.** -/
theorem step_frame {x : Extrinsic AccountId} (h : step cfg x s = .ok s')
    (hx : x.2.records ≠ some records) : records.Same s s' := by
  obtain ⟨ctx, call⟩ := x
  cases call with
  | openMasterAccount =>
    obtain ⟨_, _, _, _, rfl⟩ := openMasterAccount_eq_ok.mp h
    cases records <;> rfl
  | requestLoan amount collateral =>
    obtain ⟨_, _, _, _, rfl⟩ := requestLoan_eq_ok.mp h
    cases records <;> rfl
  | approveLoan loanId =>
    obtain ⟨_, _, _, _, _, _, _, _, rfl⟩ := approveLoan_eq_ok.mp h
    cases records <;> rfl
  | fundTreasury amount =>
    obtain ⟨_, _, _, _, _, _, rfl⟩ := fundTreasury_eq_ok.mp h
    cases records <;> rfl
  | cancelLoanRequest loanId =>
    obtain ⟨_, _, _, _, _, _, rfl⟩ := cancelLoanRequest_eq_ok.mp h
    cases records <;> rfl
  | setBankServerKey key =>
    obtain ⟨_, rfl⟩ := setBankServerKey_eq_ok.mp h
    cases records <;> rfl
  | claimCashAdvance amount nonce bankSignature =>
    obtain ⟨_, _, _, _, _, _, rfl⟩ := claimCashAdvance_eq_ok.mp h
    cases records <;> rfl
  | lockCollateral amount =>
    obtain ⟨_, _, _, _, _, rfl⟩ := lockCollateral_eq_ok.mp h
    cases records <;> rfl
  | unlockCollateral amount nonce bankSignature =>
    obtain ⟨_, _, _, _, _, _, _, _, rfl⟩ := unlockCollateral_eq_ok.mp h
    cases records <;> rfl
  | repayCashAdvance amount =>
    obtain ⟨_, _, _, _, _, rfl⟩ := repayCashAdvance_eq_ok.mp h
    cases records <;> rfl
  | payCredit subAccount amount =>
    obtain ⟨_, _, _, _, _, _, _, _, _, _, _, _, _, _, rfl⟩ := payCredit_eq_ok.mp h
    unfold paid
    split <;> cases records <;> rfl
  -- the other calls are about some of the records, and leave the rest
  | openSubAccount accountType =>
    obtain ⟨_, _, _, _, rfl⟩ := openSubAccount_eq_ok.mp h
    cases records <;> first | exact absurd rfl hx | rfl
  | closeSubAccount subAccount =>
    obtain ⟨_, _, _, _, _, _, rfl⟩ := closeSubAccount_eq_ok.mp h
    cases records <;> first | exact absurd rfl hx | rfl
  | createEscrow counterparty amount itemHash =>
    obtain ⟨_, _, _, _, _, _, _, rfl⟩ := createEscrow_eq_ok.mp h
    cases records <;> first | exact absurd rfl hx | rfl
  | releaseEscrow escrowId =>
    obtain ⟨_, _, _, _, _, _, _, _, rfl⟩ := releaseEscrow_eq_ok.mp h
    cases records <;> first | exact absurd rfl hx | rfl
  | refundEscrow escrowId =>
    obtain ⟨_, _, _, _, _, _, _, _, rfl⟩ := refundEscrow_eq_ok.mp h
    cases records <;> first | exact absurd rfl hx | rfl
  | openTimeDeposit amount durationBlocks documentHash =>
    obtain ⟨_, _, _, _, _, _, _, rfl⟩ := openTimeDeposit_eq_ok.mp h
    cases records <;> first | exact absurd rfl hx | rfl
  | claimTimeDeposit depositId =>
    obtain ⟨_, _, _, _, _, _, _, _, _, _, rfl⟩ := claimTimeDeposit_eq_ok.mp h
    cases records <;> first | exact absurd rfl hx | rfl
  | borrowWholesale amount =>
    obtain ⟨_, _, _, rfl⟩ := borrowWholesale_eq_ok.mp h
    cases records <;> first | exact absurd rfl hx | rfl
  | repayWholesale epochId amount =>
    obtain ⟨_, _, _, rfl⟩ := repayWholesale_eq_ok.mp h
    cases records <;> first | exact absurd rfl hx | rfl
  | withdrawFromSavings subAccount amount =>
    obtain ⟨_, _, _, _, _, _, _, _, _, rfl⟩ := withdrawFromSavings_eq_ok.mp h
    unfold withdrawn
    split <;> cases records <;> first | exact absurd rfl hx | rfl

end Frame

end BankOfSiberia

/-! ### In the runtime

The constants the runtime gives the bank, and a small world to evaluate calls in: accounts are
numbers, hashes are collision free, and a signature is the signed message under the signer's key. -/

namespace Runtime

/-- The parts in a billion of a fraction, rounded down; one when it is not below one. -/
def perbill (numerator denominator : ℕ) : ℕ :=
  if denominator = 0 ∨ denominator < numerator then 1000000000
  else numerator * 1000000000 / denominator

/-- The proportion of an amount, rounded to the nearest and down when in the middle. -/
def perbillProportion (numerator denominator amount : ℕ) : ℕ :=
  let parts := perbill numerator denominator
  let rest := amount % 1000000000 * parts
  amount / 1000000000 * parts + rest / 1000000000 +
    if 500000000 < rest % 1000000000 then 1 else 0

/-- A number for a list of bytes, above the numbers of ordinary accounts. -/
def accountOfBytes (bytes : List UInt8) : ℕ :=
  bytes.foldl (fun n byte => 257 * n + byte.toNat + 1) 1

/-- The bank, with numbers as accounts: the creator is 0, the central bank 1 and the treasury
2. -/
def bankOfSiberia : BankOfSiberia.Config ℕ where
  centralBank := centralBank 0 1 fun _ _ _ index => 1000 + index
  treasuryAccount := 2
  encodeAccount := Scale.littleEndian 32
  hashAccount := accountOfBytes
  verify signature message key := decide (signature = .ed25519 (key ++ message))
  proportion := perbillProportion

/-- The signature of the server with the account `key`. -/
def serverSignature (key caller amount nonce : ℕ) : BankOfSiberia.MultiSignature :=
  .ed25519 (Scale.littleEndian 32 key ++ BankOfSiberia.payload bankOfSiberia caller amount nonce)

/-- The storage at genesis in a world where the treasury 2, the citizens 7 and 8 and the central
bank have a thousand units each. -/
def bankGenesis : BankOfSiberia.State ℕ (NativeLedger ℕ) :=
  BankOfSiberia.genesis (CentralBank.genesis bankOfSiberia.centralBank []
    (Balances.ofFree ([1, 2, 7, 8].map fun account => (account, 1000 * CentralBank.unit))))

/-- A call of the bank signed by an account, every citizen being approved. -/
def citizenContext {AccountId : Type} (who : AccountId) (blockNumber : ℕ) :
    BankOfSiberia.Context AccountId where
  origin := .signed who
  bankingOrigin
    | .root => true
    | _ => false
  blockNumber := blockNumber
  isApplicationApproved _ := true

/-- A call of the bank dispatched by root. -/
def officerContext {AccountId : Type} (blockNumber : ℕ) : BankOfSiberia.Context AccountId where
  origin := .root
  bankingOrigin
    | .root => true
    | _ => false
  blockNumber := blockNumber
  isApplicationApproved _ := true

end Runtime
