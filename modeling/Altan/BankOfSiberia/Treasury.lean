import Altan.BankOfSiberia.Spec

/-!
# What the bank's calls do to the treasury

The treasury is an ordinary account of the ledger. Escrow contracts, time deposits and collateral
are obligations recorded beside it; every other payment into or out of it leaves no trace in the
storage, except that a signed one uses up its nonce.

## Main definitions

* `Contracts`, `State.contracts`: the records of obligations and the used nonces
* `State.funds`: the free balance of the treasury
* `Moved`: a payment, as far as the treasury is concerned
* `TreasuryEffect`: the effect of an extrinsic on both

## Main results

* `step_treasury`: a successful call has the effect of its kind
-/

open Bounded Dispatch

namespace BankOfSiberia

variable {AccountId L : Type}

/-- The records of obligations, and the used nonces. -/
structure Contracts (AccountId : Type) where
  escrows : StorageMap ℕ (EscrowContract AccountId)
  deposits : StorageMap ℕ (TimeDeposit AccountId)
  collateral : StorageMap AccountId ℕ
  nonces : StorageMap ℕ Bool

/-- The records in the storage. -/
def State.contracts (s : State AccountId L) : Contracts AccountId where
  escrows := s.escrowContracts
  deposits := s.timeDeposits
  collateral := s.collateralBalances
  nonces := s.usedNonces

/-- The free balance of the treasury. -/
def State.funds [Ledger AccountId L] (cfg : Config AccountId) (s : State AccountId L) : ℕ :=
  Ledger.freeBalance s.ledger cfg.treasuryAccount

section Effects

variable [DecidableEq AccountId] [Currency AccountId L]

/-- The payment of an amount, as far as the treasury is concerned. -/
def Moved (cfg : Config AccountId) (s s' : State AccountId L) (source dest : AccountId)
    (amount : ℕ) (er : ExistenceRequirement) : Prop :=
  ∃ l, Currency.transfer s.ledger source dest amount er = .ok l ∧
    s'.funds cfg = Ledger.freeBalance l cfg.treasuryAccount

/-- The effect of an extrinsic on the treasury and on the records of its obligations. -/
def TreasuryEffect (cfg : Config AccountId) (x : Extrinsic AccountId)
    (s s' : State AccountId L) : Prop :=
  match x.2 with
  | .withdrawFromSavings subAccount amount => ∃ master, x.1.origin = .signed master ∧
      s'.contracts = s.contracts ∧ Moved cfg s s' subAccount master amount .allowDeath
  | .createEscrow _ amount _ => ∃ depositor, x.1.origin = .signed depositor ∧
      ∃ contract, contract.amount = amount ∧ contract.status = .locked ∧
        s'.contracts = { s.contracts with
          escrows := s.escrowContracts.insert s.nextEscrowId contract } ∧
        Moved cfg s s' depositor cfg.treasuryAccount amount .allowDeath
  | .openTimeDeposit amount _ _ => ∃ depositor, x.1.origin = .signed depositor ∧
      ∃ deposit, deposit.amount = amount ∧ deposit.status = .active ∧
        s'.contracts = { s.contracts with
          deposits := s.timeDeposits.insert s.nextTimeDepositId deposit } ∧
        Moved cfg s s' depositor cfg.treasuryAccount amount .allowDeath
  | .claimTimeDeposit depositId => ∃ caller, x.1.origin = .signed caller ∧
      ∃ deposit, s.timeDeposits.get depositId = some deposit ∧ deposit.status = .active ∧
        s'.contracts = { s.contracts with
          deposits := s.timeDeposits.insert depositId { deposit with status := .claimed } } ∧
        Moved cfg s s' cfg.treasuryAccount caller (deposit.payout cfg) .allowDeath
  | .releaseEscrow escrowId => ∃ contract, s.escrowContracts.get escrowId = some contract ∧
      contract.status = .locked ∧
        s'.contracts = { s.contracts with
          escrows := s.escrowContracts.insert escrowId { contract with status := .released } } ∧
        Moved cfg s s' cfg.treasuryAccount contract.counterparty contract.amount .allowDeath
  | .refundEscrow escrowId => ∃ contract, s.escrowContracts.get escrowId = some contract ∧
      contract.status = .locked ∧
        s'.contracts = { s.contracts with
          escrows := s.escrowContracts.insert escrowId { contract with status := .refunded } } ∧
        Moved cfg s s' cfg.treasuryAccount contract.depositor contract.amount .allowDeath
  | .approveLoan loanId => ∃ loan, s.loanRequests.get loanId = some loan ∧
      s'.contracts = s.contracts ∧
        Moved cfg s s' cfg.treasuryAccount loan.borrower loan.amount .keepAlive
  | .payCredit _ amount | .fundTreasury amount | .repayCashAdvance amount =>
      ∃ who, x.1.origin = .signed who ∧ s'.contracts = s.contracts ∧
        Moved cfg s s' who cfg.treasuryAccount amount .keepAlive
  | .claimCashAdvance amount nonce bankSignature => ∃ who, x.1.origin = .signed who ∧
      s.usedNonces.getD nonce false = false ∧ Signed cfg who amount nonce bankSignature s ∧
        s'.contracts = { s.contracts with nonces := s.usedNonces.insert nonce true } ∧
        Moved cfg s s' cfg.treasuryAccount who amount .keepAlive
  | .lockCollateral amount => ∃ caller, x.1.origin = .signed caller ∧
      s'.contracts = { s.contracts with
        collateral := s.collateralBalances.insert caller
          (saturatingAdd u128Max (s.collateral caller) amount) } ∧
      Moved cfg s s' caller cfg.treasuryAccount amount .keepAlive
  | .unlockCollateral amount nonce bankSignature => ∃ caller, x.1.origin = .signed caller ∧
      s.usedNonces.getD nonce false = false ∧ Signed cfg caller amount nonce bankSignature s ∧
        amount ≤ s.collateral caller ∧
          s'.contracts = { s.contracts with
            collateral := s.collateralBalances.insert caller (s.collateral caller - amount)
            nonces := s.usedNonces.insert nonce true } ∧
          Moved cfg s s' cfg.treasuryAccount caller amount .keepAlive
  | .borrowWholesale _ => s'.contracts = s.contracts ∧ s.funds cfg ≤ s'.funds cfg
  | .repayWholesale _ amount => s'.contracts = s.contracts ∧ s'.funds cfg + amount = s.funds cfg
  | _ => s'.contracts = s.contracts ∧ s'.funds cfg = s.funds cfg

end Effects

section Steps

variable [DecidableEq AccountId] [Currency AccountId L] [LockableCurrency AccountId L]
  {cfg : Config AccountId} {s s' : State AccountId L}

/-- **A successful call has the effect of its kind on the treasury.** -/
theorem step_treasury {x : Extrinsic AccountId} (h : step cfg x s = .ok s') :
    TreasuryEffect cfg x s s' := by
  obtain ⟨ctx, call⟩ := x
  cases call with
  | openMasterAccount =>
    obtain ⟨_, _, _, _, rfl⟩ := openMasterAccount_eq_ok.mp h
    exact ⟨rfl, rfl⟩
  | openSubAccount accountType =>
    obtain ⟨_, _, _, _, rfl⟩ := openSubAccount_eq_ok.mp h
    exact ⟨rfl, rfl⟩
  | withdrawFromSavings subAccount amount =>
    obtain ⟨master, horigin, _, _, _, _, _, l, hl, rfl⟩ := withdrawFromSavings_eq_ok.mp h
    refine ⟨master, horigin, ?_, l, hl, rfl⟩
    unfold withdrawn
    split <;> rfl
  | payCredit subAccount amount =>
    obtain ⟨master, horigin, _, _, _, _, _, loanId, _, loan, _, _, l, hl, rfl⟩ :=
      payCredit_eq_ok.mp h
    refine ⟨master, horigin, ?_, l, hl, ?_⟩
    · unfold paid
      split <;> rfl
    -- removing a lock moves no funds
    · unfold paid
      split
      · exact LockableCurrency.removeLock_free _ _ _ _
      · rfl
  | closeSubAccount subAccount =>
    obtain ⟨_, _, _, _, _, _, rfl⟩ := closeSubAccount_eq_ok.mp h
    exact ⟨rfl, rfl⟩
  | requestLoan amount collateral =>
    obtain ⟨_, _, _, _, rfl⟩ := requestLoan_eq_ok.mp h
    exact ⟨rfl, LockableCurrency.setLock_free _ _ _ _ _⟩
  | createEscrow counterparty amount itemHash =>
    obtain ⟨depositor, horigin, _, _, _, l, hl, rfl⟩ := createEscrow_eq_ok.mp h
    exact ⟨depositor, horigin, _, rfl, rfl, rfl, l, hl, rfl⟩
  | openTimeDeposit amount durationBlocks documentHash =>
    obtain ⟨depositor, horigin, _, _, _, l, hl, rfl⟩ := openTimeDeposit_eq_ok.mp h
    exact ⟨depositor, horigin, _, rfl, rfl, rfl, l, hl, rfl⟩
  | claimTimeDeposit depositId =>
    obtain ⟨caller, horigin, deposit, hdeposit, _, hactive, _, _, l, hl, rfl⟩ :=
      claimTimeDeposit_eq_ok.mp h
    exact ⟨caller, horigin, deposit, hdeposit, hactive, rfl, l, hl, rfl⟩
  | releaseEscrow escrowId =>
    obtain ⟨_, _, contract, hcontract, _, hlocked, l, hl, rfl⟩ := releaseEscrow_eq_ok.mp h
    exact ⟨contract, hcontract, hlocked, rfl, l, hl, rfl⟩
  | refundEscrow escrowId =>
    obtain ⟨_, _, contract, hcontract, _, hlocked, l, hl, rfl⟩ := refundEscrow_eq_ok.mp h
    exact ⟨contract, hcontract, hlocked, rfl, l, hl, rfl⟩
  | approveLoan loanId =>
    obtain ⟨_, loan, hloan, _, _, _, l, hl, rfl⟩ := approveLoan_eq_ok.mp h
    exact ⟨loan, hloan, rfl, l, hl, rfl⟩
  | fundTreasury amount =>
    obtain ⟨who, horigin, _, _, l, hl, rfl⟩ := fundTreasury_eq_ok.mp h
    exact ⟨who, horigin, rfl, l, hl, rfl⟩
  | cancelLoanRequest loanId =>
    obtain ⟨_, _, _, _, _, _, rfl⟩ := cancelLoanRequest_eq_ok.mp h
    exact ⟨rfl, LockableCurrency.removeLock_free _ _ _ _⟩
  | setBankServerKey key =>
    obtain ⟨_, rfl⟩ := setBankServerKey_eq_ok.mp h
    exact ⟨rfl, rfl⟩
  | claimCashAdvance amount nonce bankSignature =>
    obtain ⟨who, horigin, hunused, hsigned, l, hl, rfl⟩ := claimCashAdvance_eq_ok.mp h
    exact ⟨who, horigin, hunused, hsigned, rfl, l, hl, rfl⟩
  | lockCollateral amount =>
    obtain ⟨caller, horigin, _, l, hl, rfl⟩ := lockCollateral_eq_ok.mp h
    exact ⟨caller, horigin, rfl, l, hl, rfl⟩
  | unlockCollateral amount nonce bankSignature =>
    obtain ⟨caller, horigin, _, hunused, hsigned, hle, l, hl, rfl⟩ :=
      unlockCollateral_eq_ok.mp h
    exact ⟨caller, horigin, hunused, hsigned, hle, rfl, l, hl, rfl⟩
  | repayCashAdvance amount =>
    obtain ⟨who, horigin, _, l, hl, rfl⟩ := repayCashAdvance_eq_ok.mp h
    exact ⟨who, horigin, rfl, l, hl, rfl⟩
  -- the loan is created on the treasury, unless the amount is dust
  | borrowWholesale amount =>
    obtain ⟨_, c, hreq, rfl⟩ := borrowWholesale_eq_ok.mp h
    refine ⟨rfl, ?_⟩
    show _ ≤ Ledger.freeBalance c.ledger cfg.treasuryAccount
    rw [(CentralBank.doRequestCredit_lent hreq).ledger]
    exact Currency.depositCreating_ge _ _ _ _
  -- the repayment is destroyed on the treasury
  | repayWholesale epochId amount =>
    obtain ⟨_, c, hrep, rfl⟩ := repayWholesale_eq_ok.mp h
    have hwithdraw := (CentralBank.doRepayCredit_repaid hrep).ledger
    exact ⟨rfl, (Currency.withdraw_keepAlive _ _ _ _ hwithdraw).free⟩

end Steps

end BankOfSiberia
