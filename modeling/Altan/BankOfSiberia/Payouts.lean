import Altan.BankOfSiberia.Spec
import Altan.BankOfSiberia.Treasury
import Altan.Foundation.Register

/-!
# Payouts of escrow contracts and time deposits

Escrow contracts and time deposits are two registers of records that are closed once. Closing a
record pays its amount out of the treasury: an escrowed amount to the party that did not sign, a
deposit with its interest to the depositor once it has matured. Whatever the parties do and in
whatever order, a contract is paid out at most once, and keeps its terms.

## Main definitions

* `State.escrowRegister`, `State.depositRegister`: the two registers
* `escrowEvent`, `depositEvent`: what a call does to them
* `PaidOut`: what a call that closes a record pays

## Main results

* `step_registers`: a successful call does its event to each register
* `step_paidOut`: a successful call pays what the record says
* `payouts_once`: what every run with fewer contracts than identifiers keeps
* `payout_clips`: a deposit whose interest cannot be added
-/

open Bounded Dispatch TransitionSystem Runtime

namespace BankOfSiberia

variable {AccountId L : Type}

/-- The register of the escrow contracts. -/
def State.escrowRegister (s : State AccountId L) : Register (EscrowContract AccountId) where
  records := s.escrowContracts
  next := s.nextEscrowId

/-- The register of the time deposits. -/
def State.depositRegister (s : State AccountId L) : Register (TimeDeposit AccountId) where
  records := s.timeDeposits
  next := s.nextTimeDepositId

/-- An escrow contract but for its status. -/
def EscrowContract.terms (contract : EscrowContract AccountId) : EscrowContract AccountId :=
  { contract with status := .locked }

/-- A time deposit but for its status. -/
def TimeDeposit.terms (deposit : TimeDeposit AccountId) : TimeDeposit AccountId :=
  { deposit with status := .active }

/-- The contract can still be released or refunded. -/
def EscrowContract.isOpen (contract : EscrowContract AccountId) : Bool :=
  contract.status = .locked

/-- The deposit can still be claimed. -/
def TimeDeposit.isOpen (deposit : TimeDeposit AccountId) : Bool := deposit.status = .active

theorem EscrowContract.eq_of_terms {contract contract' : EscrowContract AccountId}
    (h : contract'.terms = contract.terms) :
    contract' = { contract with status := contract'.status } := by
  cases contract
  cases contract'
  simp only [terms, mk.injEq] at h ⊢
  tauto

theorem TimeDeposit.eq_of_terms {deposit deposit' : TimeDeposit AccountId}
    (h : deposit'.terms = deposit.terms) :
    deposit' = { deposit with status := deposit'.status } := by
  cases deposit
  cases deposit'
  simp only [terms, mk.injEq] at h ⊢
  tauto

/-- What a call does to the register of the escrow contracts. -/
def escrowEvent (x : Extrinsic AccountId) : Register.Event :=
  match x.2 with
  | .createEscrow _ _ _ => .opening
  | .releaseEscrow escrowId => .closing escrowId
  | .refundEscrow escrowId => .closing escrowId
  | _ => .unchanged

/-- What a call does to the register of the time deposits. -/
def depositEvent (x : Extrinsic AccountId) : Register.Event :=
  match x.2 with
  | .openTimeDeposit _ _ _ => .opening
  | .claimTimeDeposit depositId => .closing depositId
  | _ => .unchanged

/-- The interest on a time deposit for its whole term. -/
def TimeDeposit.interest (cfg : Config AccountId) (deposit : TimeDeposit AccountId) : ℕ :=
  calculateInterest cfg deposit.amount deposit.interestRateBps deposit.openedAt
    deposit.maturityBlock

/-- A payout is the amount with its interest, unless the sum is out of range. -/
theorem TimeDeposit.payout_cases (cfg : Config AccountId) (deposit : TimeDeposit AccountId) :
    deposit.payout cfg = deposit.amount + deposit.interest cfg ∨
      deposit.payout cfg = u128Max ∧ u128Max < deposit.amount + deposit.interest cfg := by
  unfold payout interest saturatingAdd
  omega

theorem currentBlock_le (ctx : Context AccountId) : currentBlock ctx ≤ ctx.blockNumber := by
  unfold currentBlock
  split
  · exact Nat.le_refl _
  · exact Nat.zero_le _

section Steps

variable [DecidableEq AccountId] [Currency AccountId L] [LockableCurrency AccountId L]
  {cfg : Config AccountId} {s s' : State AccountId L}

/-- A call that is not about the escrow contracts leaves their register alone. -/
theorem escrowRegister_frame {x : Extrinsic AccountId} (h : step cfg x s = .ok s')
    (hx : x.2.records ≠ some .escrows) : s'.escrowRegister = s.escrowRegister := by
  have hsame : Records.Same s s' .escrows := step_frame h hx
  obtain ⟨hcontracts, hnext⟩ := Prod.mk.inj hsame
  unfold State.escrowRegister
  rw [hcontracts, hnext]

/-- A call that is not about the time deposits leaves their register alone. -/
theorem depositRegister_frame {x : Extrinsic AccountId} (h : step cfg x s = .ok s')
    (hx : x.2.records ≠ some .deposits) : s'.depositRegister = s.depositRegister := by
  have hsame : Records.Same s s' .deposits := step_frame h hx
  obtain ⟨hdeposits, hnext⟩ := Prod.mk.inj hsame
  unfold State.depositRegister
  rw [hdeposits, hnext]

/-- **A successful call does its event to each register.** -/
theorem step_registers {x : Extrinsic AccountId} (h : step cfg x s = .ok s') :
    Register.Changed u32Max EscrowContract.terms EscrowContract.isOpen s.escrowRegister
        s'.escrowRegister (escrowEvent x) ∧
      Register.Changed u32Max TimeDeposit.terms TimeDeposit.isOpen s.depositRegister
        s'.depositRegister (depositEvent x) := by
  obtain ⟨ctx, call⟩ := x
  cases call with
  | createEscrow counterparty amount itemHash =>
    refine ⟨?_, depositRegister_frame h nofun⟩
    obtain ⟨_, _, _, _, _, _, _, rfl⟩ := createEscrow_eq_ok.mp h
    exact ⟨_, rfl, rfl⟩
  | releaseEscrow escrowId =>
    refine ⟨?_, depositRegister_frame h nofun⟩
    obtain ⟨_, _, contract, hcontract, _, hlocked, _, _, rfl⟩ := releaseEscrow_eq_ok.mp h
    exact ⟨contract, { contract with status := .released }, hcontract, decide_eq_true hlocked,
      rfl, rfl, rfl⟩
  | refundEscrow escrowId =>
    refine ⟨?_, depositRegister_frame h nofun⟩
    obtain ⟨_, _, contract, hcontract, _, hlocked, _, _, rfl⟩ := refundEscrow_eq_ok.mp h
    exact ⟨contract, { contract with status := .refunded }, hcontract, decide_eq_true hlocked,
      rfl, rfl, rfl⟩
  | openTimeDeposit amount durationBlocks documentHash =>
    refine ⟨escrowRegister_frame h nofun, ?_⟩
    obtain ⟨_, _, _, _, _, _, _, rfl⟩ := openTimeDeposit_eq_ok.mp h
    exact ⟨_, rfl, rfl⟩
  | claimTimeDeposit depositId =>
    refine ⟨escrowRegister_frame h nofun, ?_⟩
    obtain ⟨_, _, deposit, hdeposit, _, hactive, _, _, _, _, rfl⟩ := claimTimeDeposit_eq_ok.mp h
    exact ⟨deposit, { deposit with status := .claimed }, hdeposit, decide_eq_true hactive,
      rfl, rfl, rfl⟩
  -- the other calls touch neither register
  | _ => exact ⟨escrowRegister_frame h nofun, depositRegister_frame h nofun⟩

/-- What a call that closes a contract pays out of the treasury, and who has signed it. -/
def PaidOut (cfg : Config AccountId) (x : Extrinsic AccountId) (s s' : State AccountId L) : Prop :=
  match x.2 with
  | .releaseEscrow escrowId => ∃ contract, s.escrowContracts.get escrowId = some contract ∧
      contract.status = .locked ∧ x.1.origin = .signed contract.depositor ∧
        Currency.transfer s.ledger cfg.treasuryAccount contract.counterparty contract.amount
          .allowDeath = .ok s'.ledger
  | .refundEscrow escrowId => ∃ contract, s.escrowContracts.get escrowId = some contract ∧
      contract.status = .locked ∧ x.1.origin = .signed contract.counterparty ∧
        Currency.transfer s.ledger cfg.treasuryAccount contract.depositor contract.amount
          .allowDeath = .ok s'.ledger
  | .claimTimeDeposit depositId => ∃ deposit, s.timeDeposits.get depositId = some deposit ∧
      deposit.status = .active ∧ x.1.origin = .signed deposit.depositor ∧
        deposit.maturityBlock ≤ x.1.blockNumber ∧
          ∃ amount, Currency.transfer s.ledger cfg.treasuryAccount deposit.depositor amount
              .allowDeath = .ok s'.ledger ∧
            (amount = deposit.amount + deposit.interest cfg ∨
              amount = u128Max ∧ u128Max < deposit.amount + deposit.interest cfg ∧
                s.funds cfg = u128Max)
  | _ => True

/-- **A successful call pays what the record says.** -/
theorem step_paidOut {x : Extrinsic AccountId} (h : step cfg x s = .ok s') :
    PaidOut cfg x s s' := by
  obtain ⟨ctx, call⟩ := x
  cases call with
  | releaseEscrow escrowId =>
    obtain ⟨caller, horigin, contract, hcontract, rfl, hlocked, l, hl, rfl⟩ :=
      releaseEscrow_eq_ok.mp h
    exact ⟨contract, hcontract, hlocked, horigin, hl⟩
  | refundEscrow escrowId =>
    obtain ⟨caller, horigin, contract, hcontract, rfl, hlocked, l, hl, rfl⟩ :=
      refundEscrow_eq_ok.mp h
    exact ⟨contract, hcontract, hlocked, horigin, hl⟩
  | claimTimeDeposit depositId =>
    obtain ⟨caller, horigin, deposit, hdeposit, rfl, hactive, hmature, hfunds, l, hl, rfl⟩ :=
      claimTimeDeposit_eq_ok.mp h
    refine ⟨deposit, hdeposit, hactive, horigin, hmature.trans (currentBlock_le ctx), _, hl, ?_⟩
    -- a treasury that can pay a clipped sum holds all there can be
    rcases deposit.payout_cases cfg with hsum | ⟨hmax, hrange⟩
    · exact Or.inl hsum
    · have hle := Ledger.balance_le_totalIssuance s.ledger cfg.treasuryAccount
      have htop := Ledger.totalIssuance_le s.ledger
      refine Or.inr ⟨hmax, hrange, ?_⟩
      rw [hmax] at hfunds
      unfold State.funds
      omega
  | _ => trivial

/-- **Paid out at most once.** In every run with fewer escrow contracts and fewer time deposits
than identifiers, a contract is released or refunded at most once and a deposit claimed at most
once; each of these calls pays the recorded amount out of the treasury, a release to the
counterparty on the depositor's signature, a refund to the depositor on the counterparty's, a
claim with its interest to the depositor at maturity; and no record changes but for its
status. -/
theorem payouts_once (cfg : Config AccountId) (c : CentralBank.State AccountId L)
    (xs ys : List (Extrinsic AccountId))
    (hescrows : accepted (step cfg) (fun x => escrowEvent x = .opening) (xs ++ ys) (genesis c) <
      u32Max)
    (hdeposits : accepted (step cfg) (fun x => depositEvent x = .opening) (xs ++ ys)
      (genesis c) < u32Max) :
    let s := run (step cfg) xs (genesis c)
    let s' := run (step cfg) (xs ++ ys) (genesis c)
    (∀ id, accepted (step cfg) (fun x => escrowEvent x = .closing id) (xs ++ ys) (genesis c) ≤ 1) ∧
      (∀ id, accepted (step cfg) (fun x => depositEvent x = .closing id) (xs ++ ys)
        (genesis c) ≤ 1) ∧
      (∀ x (t t' : State AccountId L), step cfg x t = .ok t' → PaidOut cfg x t t') ∧
      (∀ id contract, s.escrowContracts.get id = some contract →
        ∃ status, s'.escrowContracts.get id = some { contract with status := status }) ∧
      ∀ id deposit, s.timeDeposits.get id = some deposit →
        ∃ status, s'.timeDeposits.get id = some { deposit with status := status } := by
  intro s s'
  -- both registers start empty, with the identifier zero
  have hfresh : (genesis c : State AccountId L).escrowRegister.Fresh := fun _ _ => rfl
  have hfresh' : (genesis c : State AccountId L).depositRegister.Fresh := fun _ _ => rfl
  have hroom : 0 + accepted (step cfg) (fun x => escrowEvent x = .opening) (xs ++ ys)
      (genesis c) ≤ u32Max := (Nat.zero_add _).trans_le hescrows.le
  have hroom' : 0 + accepted (step cfg) (fun x => depositEvent x = .opening) (xs ++ ys)
      (genesis c) ≤ u32Max := (Nat.zero_add _).trans_le hdeposits.le
  obtain ⟨hkept, honce⟩ :=
    Register.run_register (fun _ _ _ h => (step_registers h).1) hfresh hroom
  obtain ⟨hkept', honce'⟩ :=
    Register.run_register (fun _ _ _ h => (step_registers h).2) hfresh' hroom'
  refine ⟨honce, honce', fun x t t' h => step_paidOut h, ?_, ?_⟩
  · intro id contract hcontract
    obtain ⟨contract', hcontract', hterms⟩ := hkept id contract hcontract
    rw [EscrowContract.eq_of_terms hterms] at hcontract'
    exact ⟨_, hcontract'⟩
  · intro id deposit hdeposit
    obtain ⟨deposit', hdeposit', hterms⟩ := hkept' id deposit hdeposit
    rw [TimeDeposit.eq_of_terms hterms] at hdeposit'
    exact ⟨_, hdeposit'⟩

end Steps

/-- Two citizens with an escrow contract that is released and then disputed, and a time deposit
that is claimed too early and then twice. -/
def twoContracts : List (Extrinsic ℕ) :=
  [(citizenContext 7 1, .openMasterAccount),
    (citizenContext 7 1, .createEscrow 8 (10 * CentralBank.unit) []),
    (citizenContext 7 1, .openTimeDeposit (20 * CentralBank.unit) 5256000 []),
    (citizenContext 7 2, .releaseEscrow 0),
    (citizenContext 8 3, .refundEscrow 0),
    (citizenContext 7 5256000, .claimTimeDeposit 0),
    (citizenContext 7 5256001, .claimTimeDeposit 0),
    (citizenContext 7 5256002, .claimTimeDeposit 0)]

/-- In the run of the two contracts each is paid out once. -/
theorem payouts_once_twoContracts :
    accepted (step bankOfSiberia) (fun x => escrowEvent x = .closing 0) twoContracts
        bankGenesis = 1 ∧
      accepted (step bankOfSiberia) (fun x => depositEvent x = .closing 0) twoContracts
        bankGenesis = 1 := by
  obtain ⟨hescrow, hdeposit, -⟩ := payouts_once bankOfSiberia bankGenesis.centralBank []
    twoContracts (by decide +kernel) (by decide +kernel)
  -- at most once by the law, and once in this run
  have hreleased : 0 < accepted (step bankOfSiberia) (fun x => escrowEvent x = .closing 0)
      twoContracts bankGenesis := by decide +kernel
  have hclaimed : 0 < accepted (step bankOfSiberia) (fun x => depositEvent x = .closing 0)
      twoContracts bankGenesis := by decide +kernel
  exact ⟨Nat.le_antisymm (hescrow 0) hreleased, Nat.le_antisymm (hdeposit 0) hclaimed⟩

/-- A citizen who owns all the currency there can be deposits it for a year. -/
def wholeDeposit : State ℕ (NativeLedger ℕ) :=
  run (step bankOfSiberia)
    [(citizenContext 7 1, .openMasterAccount),
      (citizenContext 7 1, .openTimeDeposit u128Max 5256000 [])]
    (genesis (CentralBank.genesis bankOfSiberia.centralBank []
      (Balances.ofFree [(7, u128Max)])))

/-- The record of the deposit. -/
def wholeDepositRecord : TimeDeposit ℕ where
  depositor := 7
  amount := u128Max
  interestRateBps := 500
  openedAt := 1
  maturityBlock := 5256001
  documentHash := []
  status := .active

/-- The sum of the deposit and its interest is out of range: the claim at maturity is accepted
and pays the deposit alone. -/
theorem payout_clips :
    wholeDeposit.timeDeposits.get 0 = some wholeDepositRecord ∧
      0 < wholeDepositRecord.interest bankOfSiberia ∧
        ∃ s', step bankOfSiberia (citizenContext 7 5256001, .claimTimeDeposit 0) wholeDeposit =
            .ok s' ∧
          wholeDeposit.funds bankOfSiberia = s'.funds bankOfSiberia + wholeDepositRecord.amount := by
  have hok : (step bankOfSiberia (citizenContext 7 5256001, .claimTimeDeposit 0)
      wholeDeposit).isOk = true := by decide +kernel
  obtain ⟨s', hs'⟩ := exists_ok hok
  refine ⟨by decide +kernel, by decide +kernel, s', hs', ?_⟩
  rw [← exec_ok hs']
  decide +kernel

end BankOfSiberia
