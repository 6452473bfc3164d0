import Altan.BankOfSiberia.Spec

/-!
# What the bank's calls do to loans

Four calls write the loan records, the index of active loans, the recorded collateral and the
lock on the borrower's balance; all other calls leave the four of them as they are.

## Main definitions

* `LoanRequest.Live`: the loan is pending or active
* `State.loanBook`, `State.lock`: the loan storage and the lock on an account
* `Requested`, `Paid`, `Approved`, `Cancelled`, `Untouched`: the effects of the calls

## Main results

* `step_loans`: a successful call has the effect of its kind
-/

open Bounded Dispatch

namespace BankOfSiberia

variable {AccountId L : Type}

/-- The loan is pending or active. -/
def LoanRequest.Live (loan : LoanRequest AccountId) : Prop :=
  loan.status = .pending ∨ loan.status = .active

instance (loan : LoanRequest AccountId) : Decidable loan.Live :=
  inferInstanceAs (Decidable (_ ∨ _))

/-- The storage of loans. -/
structure LoanBook (AccountId : Type) where
  requests : StorageMap ℕ (LoanRequest AccountId)
  nextId : ℕ
  active : StorageMap AccountId ℕ
  collateral : StorageMap (AccountId × ℕ) ℕ

/-- The loans in the storage. -/
def State.loanBook (s : State AccountId L) : LoanBook AccountId where
  requests := s.loanRequests
  nextId := s.nextLoanId
  active := s.activeLoanByBorrower
  collateral := s.loanCollateral

/-- The loan as it is requested. -/
def LoanRequest.requested (borrower : AccountId) (amount collateral submittedAt : ℕ) :
    LoanRequest AccountId where
  borrower := borrower
  collateral := collateral
  amount := amount
  submittedAt := submittedAt
  status := .pending
  outstandingBalance := amount

/-- The loan after a payment: repaid when nothing is outstanding. -/
def LoanRequest.afterPayment (loan : LoanRequest AccountId) (amount : ℕ) :
    LoanRequest AccountId :=
  if loan.outstandingBalance - amount = 0 then
    { loan with outstandingBalance := loan.outstandingBalance - amount, status := .repaid }
  else { loan with outstandingBalance := loan.outstandingBalance - amount }

/-- Whether a payment pays a loan off. -/
theorem afterPayment_cases (loan : LoanRequest AccountId) (amount : ℕ) :
    (loan.outstandingBalance - amount = 0 ∧ (loan.afterPayment amount).status = .repaid) ∨
      (loan.outstandingBalance - amount ≠ 0 ∧ (loan.afterPayment amount).status = loan.status ∧
        (loan.afterPayment amount).outstandingBalance = loan.outstandingBalance - amount) := by
  unfold LoanRequest.afterPayment
  split
  · exact Or.inl ⟨‹_›, rfl⟩
  · exact Or.inr ⟨‹_›, rfl, rfl⟩

theorem afterPayment_terms (loan : LoanRequest AccountId) (amount : ℕ) :
    (loan.afterPayment amount).borrower = loan.borrower ∧
      (loan.afterPayment amount).amount = loan.amount ∧
        (loan.afterPayment amount).collateral = loan.collateral := by
  unfold LoanRequest.afterPayment
  split <;> exact ⟨rfl, rfl, rfl⟩

section Effects

variable [DecidableEq AccountId] [Ledger AccountId L]

/-- The amount of the loan lock on an account. -/
def State.lock (s : State AccountId L) (account : AccountId) : ℕ :=
  Ledger.lockAmount s.ledger loanLockId account

/-- The loans and the locks stay as they are. -/
structure Untouched (s s' : State AccountId L) : Prop where
  loanBook : s'.loanBook = s.loanBook
  lock : ∀ account, s'.lock account = s.lock account

/-- A loan is recorded under the next identifier; a collateral replaces the borrower's lock. -/
structure Requested (s s' : State AccountId L) (borrower : AccountId)
    (amount collateral submittedAt : ℕ) : Prop where
  pos : 0 < amount
  loanBook : s'.loanBook =
    { requests := s.loanRequests.insert s.nextLoanId
        (.requested borrower amount collateral submittedAt)
      nextId := saturatingAdd u32Max s.nextLoanId 1
      active := s.activeLoanByBorrower
      collateral := s.loanCollateral.insert (borrower, s.nextLoanId) collateral }
  lock : ∀ account, s'.lock account =
    if account = borrower then collateral else s.lock account

/-- A payment on the master's active loan; paying it off removes the index entry, the collateral
and the lock. -/
structure Paid (s s' : State AccountId L) (master : AccountId) (loanId : ℕ)
    (loan : LoanRequest AccountId) (amount : ℕ) : Prop where
  pos : 0 < amount
  indexed : s.activeLoanByBorrower.get master = some loanId
  found : s.loanRequests.get loanId = some loan
  active : loan.status = .active
  loanBook : s'.loanBook =
    { requests := s.loanRequests.insert loanId (loan.afterPayment amount)
      nextId := s.nextLoanId
      active := if loan.outstandingBalance - amount = 0 then s.activeLoanByBorrower.remove master
        else s.activeLoanByBorrower
      collateral := if loan.outstandingBalance - amount = 0 then
          s.loanCollateral.remove (master, loanId)
        else s.loanCollateral }
  lock : ∀ account, s'.lock account =
    if account = master ∧ loan.outstandingBalance - amount = 0 then 0 else s.lock account

/-- A pending loan of a borrower without an active one becomes active. -/
structure Approved (s s' : State AccountId L) (loanId : ℕ) (loan : LoanRequest AccountId) :
    Prop where
  found : s.loanRequests.get loanId = some loan
  pending : loan.status = .pending
  unindexed : s.activeLoanByBorrower.get loan.borrower = none
  loanBook : s'.loanBook =
    { requests := s.loanRequests.insert loanId { loan with status := .active }
      nextId := s.nextLoanId
      active := s.activeLoanByBorrower.insert loan.borrower loanId
      collateral := s.loanCollateral }
  lock : ∀ account, s'.lock account = s.lock account

/-- A pending loan is withdrawn with its collateral and the borrower's lock. -/
structure Cancelled (s s' : State AccountId L) (borrower : AccountId) (loanId : ℕ)
    (loan : LoanRequest AccountId) : Prop where
  found : s.loanRequests.get loanId = some loan
  owned : loan.borrower = borrower
  pending : loan.status = .pending
  loanBook : s'.loanBook =
    { requests := s.loanRequests.insert loanId { loan with status := .repaid }
      nextId := s.nextLoanId
      active := s.activeLoanByBorrower
      collateral := s.loanCollateral.remove (borrower, loanId) }
  lock : ∀ account, s'.lock account = if account = borrower then 0 else s.lock account

/-- The effect of an extrinsic on the loans. -/
def LoanEffect (x : Extrinsic AccountId) (s s' : State AccountId L) : Prop :=
  match x.2 with
  | .requestLoan amount collateral => ∃ borrower, x.1.origin = .signed borrower ∧
      Requested s s' borrower amount collateral (currentBlock x.1)
  | .payCredit _ amount => ∃ master, x.1.origin = .signed master ∧
      ∃ loanId loan, Paid s s' master loanId loan amount
  | .approveLoan loanId => ∃ loan, Approved s s' loanId loan
  | .cancelLoanRequest loanId => ∃ borrower, x.1.origin = .signed borrower ∧
      ∃ loan, Cancelled s s' borrower loanId loan
  | _ => Untouched s s'

end Effects

section Steps

variable [DecidableEq AccountId] [Currency AccountId L] [LockableCurrency AccountId L]
  {cfg : Config AccountId} {s s' : State AccountId L}

omit [DecidableEq AccountId] in
/-- A transfer leaves all loan locks. -/
theorem lock_transfer {source dest : AccountId} {amount : ℕ} {er : ExistenceRequirement} {l : L}
    (h : Currency.transfer s.ledger source dest amount er = .ok l) (account : AccountId) :
    Ledger.lockAmount l loanLockId account = s.lock account :=
  LockableCurrency.transfer_lock _ _ _ _ _ _ h _ _

/-- **A successful call has the effect of its kind on the loans.** -/
theorem step_loans {x : Extrinsic AccountId} (h : step cfg x s = .ok s') : LoanEffect x s s' := by
  obtain ⟨ctx, call⟩ := x
  cases call with
  | openMasterAccount =>
    obtain ⟨_, _, _, _, rfl⟩ := openMasterAccount_eq_ok.mp h
    exact ⟨rfl, fun _ => rfl⟩
  | openSubAccount accountType =>
    obtain ⟨_, _, _, _, rfl⟩ := openSubAccount_eq_ok.mp h
    exact ⟨rfl, fun _ => rfl⟩
  | withdrawFromSavings subAccount amount =>
    obtain ⟨master, _, _, _, _, _, _, l, hl, rfl⟩ := withdrawFromSavings_eq_ok.mp h
    refine ⟨?_, lock_transfer hl⟩
    unfold withdrawn
    split <;> rfl
  | payCredit subAccount amount =>
    obtain ⟨master, horigin, record, _, _, _, hpos, loanId, hindex, loan, hloan, hactive, l, hl,
      rfl⟩ := payCredit_eq_ok.mp h
    have htransfer := lock_transfer hl
    refine ⟨master, horigin, loanId, loan, hpos, hindex, hloan, hactive, ?_, ?_⟩
    · unfold paid LoanRequest.afterPayment
      split <;> rfl
    · intro account
      unfold paid
      split
      -- paid off: the lock of the master is gone, the others stay
      · by_cases ha : account = master
        · rw [if_pos ⟨ha, ‹_›⟩, ha]
          exact LockableCurrency.removeLock_self _ _ _
        · rw [if_neg fun hc => ha hc.1, ← htransfer account]
          exact LockableCurrency.removeLock_others _ _ _ _ ha
      · rw [if_neg fun hc => ‹¬ _› hc.2, ← htransfer account]
        rfl
  | closeSubAccount subAccount =>
    obtain ⟨_, _, _, _, _, _, rfl⟩ := closeSubAccount_eq_ok.mp h
    exact ⟨rfl, fun _ => rfl⟩
  | requestLoan amount collateral =>
    obtain ⟨borrower, horigin, _, hpos, rfl⟩ := requestLoan_eq_ok.mp h
    refine ⟨borrower, horigin, hpos, rfl, ?_⟩
    intro account
    by_cases ha : account = borrower
    · rw [if_pos ha, ha]
      exact LockableCurrency.setLock_amount _ _ _ _
    · rw [if_neg ha]
      exact LockableCurrency.setLock_others _ _ _ _ _ ha
  | createEscrow counterparty amount itemHash =>
    obtain ⟨_, _, _, _, _, l, hl, rfl⟩ := createEscrow_eq_ok.mp h
    exact ⟨rfl, lock_transfer hl⟩
  | openTimeDeposit amount durationBlocks documentHash =>
    obtain ⟨_, _, _, _, _, l, hl, rfl⟩ := openTimeDeposit_eq_ok.mp h
    exact ⟨rfl, lock_transfer hl⟩
  | claimTimeDeposit depositId =>
    obtain ⟨_, _, _, _, _, _, _, _, l, hl, rfl⟩ := claimTimeDeposit_eq_ok.mp h
    exact ⟨rfl, lock_transfer hl⟩
  | releaseEscrow escrowId =>
    obtain ⟨_, _, _, _, _, _, l, hl, rfl⟩ := releaseEscrow_eq_ok.mp h
    exact ⟨rfl, lock_transfer hl⟩
  | refundEscrow escrowId =>
    obtain ⟨_, _, _, _, _, _, l, hl, rfl⟩ := refundEscrow_eq_ok.mp h
    exact ⟨rfl, lock_transfer hl⟩
  | approveLoan loanId =>
    obtain ⟨_, loan, hloan, hpending, hindex, _, l, hl, rfl⟩ := approveLoan_eq_ok.mp h
    exact ⟨loan, hloan, hpending, StorageMap.not_containsKey.mp hindex, rfl, lock_transfer hl⟩
  | fundTreasury amount =>
    obtain ⟨_, _, _, _, l, hl, rfl⟩ := fundTreasury_eq_ok.mp h
    exact ⟨rfl, lock_transfer hl⟩
  | cancelLoanRequest loanId =>
    obtain ⟨borrower, horigin, loan, hloan, howned, hpending, rfl⟩ := cancelLoanRequest_eq_ok.mp h
    refine ⟨borrower, horigin, loan, hloan, howned, hpending, rfl, ?_⟩
    intro account
    by_cases ha : account = borrower
    · rw [if_pos ha, ha]
      exact LockableCurrency.removeLock_self _ _ _
    · rw [if_neg ha]
      exact LockableCurrency.removeLock_others _ _ _ _ ha
  | setBankServerKey key =>
    obtain ⟨_, rfl⟩ := setBankServerKey_eq_ok.mp h
    exact ⟨rfl, fun _ => rfl⟩
  | claimCashAdvance amount nonce bankSignature =>
    obtain ⟨_, _, _, _, l, hl, rfl⟩ := claimCashAdvance_eq_ok.mp h
    exact ⟨rfl, lock_transfer hl⟩
  | lockCollateral amount =>
    obtain ⟨_, _, _, l, hl, rfl⟩ := lockCollateral_eq_ok.mp h
    exact ⟨rfl, lock_transfer hl⟩
  | unlockCollateral amount nonce bankSignature =>
    obtain ⟨_, _, _, _, _, _, l, hl, rfl⟩ := unlockCollateral_eq_ok.mp h
    exact ⟨rfl, lock_transfer hl⟩
  | repayCashAdvance amount =>
    obtain ⟨_, _, _, l, hl, rfl⟩ := repayCashAdvance_eq_ok.mp h
    exact ⟨rfl, lock_transfer hl⟩
  -- creating and destroying on the treasury touches no lock
  | borrowWholesale amount =>
    obtain ⟨_, c, hreq, rfl⟩ := borrowWholesale_eq_ok.mp h
    refine ⟨rfl, fun account => ?_⟩
    show Ledger.lockAmount c.ledger loanLockId account = s.lock account
    rw [(CentralBank.doRequestCredit_lent hreq).ledger]
    exact LockableCurrency.depositCreating_lock _ _ _ _ _
  | repayWholesale epochId amount =>
    obtain ⟨_, c, hrep, rfl⟩ := repayWholesale_eq_ok.mp h
    refine ⟨rfl, fun account => ?_⟩
    have hwithdraw := (CentralBank.doRepayCredit_repaid hrep).ledger
    exact LockableCurrency.withdraw_lock _ _ _ _ _ hwithdraw _ _

end Steps

end BankOfSiberia
