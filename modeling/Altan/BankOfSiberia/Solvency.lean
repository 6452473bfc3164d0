import Altan.BankOfSiberia.Spec
import Altan.BankOfSiberia.Treasury
import Altan.Foundation.TransitionSystem

/-!
# The solvency of the treasury

What the treasury holds for others (locked escrows, active deposits, collateral) and what it
spends (loans, cash advances, interest, its own debts) are one balance, and no payment looks at
what is owed. The treasury stays solvent exactly in the runs in which every payment is covered
by what it holds beyond its obligations, and leaves it with enough to exist. With the existential
deposit to spare throughout, it gives back collateral too.

## Main definitions

* `Contracts.liabilities`: what the treasury owes
* `Solvent`: its free balance covers what it owes, with something to spare
* `Covers`: a payment leaves enough for what remains owed
* `KeepsSolvent`: what an extrinsic must meet for the treasury to stay solvent
* `Redeemable`, `GivesBack`: what is not refused for lack of funds

## Main results

* `solvent_step_iff`: an accepted call keeps the treasury solvent exactly when it meets
  `KeepsSolvent`
* `solvent_throughout_iff`: the same of runs, and what a solvent treasury never refuses
* `loan_spends_escrow`: an approved loan is paid out of an escrowed amount
-/

open Bounded Dispatch TransitionSystem Runtime

namespace BankOfSiberia

variable {AccountId L : Type}

/-- What the treasury owes on an escrow contract. -/
def EscrowContract.owed (contract : EscrowContract AccountId) : ℕ :=
  if contract.status = .locked then contract.amount else 0

/-- What the treasury owes on a time deposit, without interest. -/
def TimeDeposit.owed (deposit : TimeDeposit AccountId) : ℕ :=
  if deposit.status = .active then deposit.amount else 0

theorem EscrowContract.owed_of_locked {contract : EscrowContract AccountId}
    (h : contract.status = .locked) : contract.owed = contract.amount := if_pos h

theorem TimeDeposit.owed_of_active {deposit : TimeDeposit AccountId}
    (h : deposit.status = .active) : deposit.owed = deposit.amount := if_pos h

/-- What the treasury owes on the escrow contract with an identifier. -/
def Contracts.escrowedIn (c : Contracts AccountId) (escrowId : ℕ) : ℕ :=
  c.escrows.contribution (fun _ e => e.owed) escrowId

/-- What the treasury owes on the time deposit with an identifier. -/
def Contracts.depositedIn (c : Contracts AccountId) (depositId : ℕ) : ℕ :=
  c.deposits.contribution (fun _ d => d.owed) depositId

theorem Contracts.escrowedIn_of_get {c : Contracts AccountId} {id : ℕ}
    {contract : EscrowContract AccountId} (h : c.escrows.get id = some contract) :
    c.escrowedIn id = contract.owed :=
  StorageMap.contribution_of_get _ h

theorem Contracts.depositedIn_of_get {c : Contracts AccountId} {id : ℕ}
    {deposit : TimeDeposit AccountId} (h : c.deposits.get id = some deposit) :
    c.depositedIn id = deposit.owed :=
  StorageMap.contribution_of_get _ h

section Liabilities

variable [DecidableEq AccountId]

/-- What the treasury owes on escrow contracts. -/
def Contracts.escrowed (c : Contracts AccountId) : ℕ := c.escrows.sum fun _ e => e.owed

/-- What the treasury owes on time deposits. -/
def Contracts.deposited (c : Contracts AccountId) : ℕ := c.deposits.sum fun _ d => d.owed

/-- What the treasury owes: locked escrows, active deposits and collateral. -/
def Contracts.liabilities (c : Contracts AccountId) : ℕ :=
  c.escrowed + c.deposited + c.collateral.total

variable {c : Contracts AccountId}

/-- Writing an escrow contract replaces what is owed on its identifier. -/
theorem Contracts.liabilities_escrow (id : ℕ) (contract : EscrowContract AccountId) :
    c.escrowedIn id + { c with escrows := c.escrows.insert id contract }.liabilities =
      contract.owed + c.liabilities := by
  have h := StorageMap.sum_insert (m := c.escrows) (fun _ e => e.owed) id contract
  unfold liabilities escrowedIn escrowed deposited
  dsimp only
  omega

/-- Writing a time deposit replaces what is owed on its identifier. -/
theorem Contracts.liabilities_deposit (id : ℕ) (deposit : TimeDeposit AccountId) :
    c.depositedIn id + { c with deposits := c.deposits.insert id deposit }.liabilities =
      deposit.owed + c.liabilities := by
  have h := StorageMap.sum_insert (m := c.deposits) (fun _ d => d.owed) id deposit
  unfold liabilities depositedIn escrowed deposited
  dsimp only
  omega

/-- Closing a locked escrow contract settles its amount. -/
theorem Contracts.settle_escrow {id : ℕ} {contract contract' : EscrowContract AccountId}
    (hfound : c.escrows.get id = some contract) (hlocked : contract.status = .locked)
    (hclosed : contract'.owed = 0) :
    { c with escrows := c.escrows.insert id contract' }.liabilities + contract.amount =
      c.liabilities := by
  have h := Contracts.liabilities_escrow (c := c) id contract'
  rw [Contracts.escrowedIn_of_get hfound, contract.owed_of_locked hlocked, hclosed] at h
  omega

/-- Closing an active time deposit settles its amount. -/
theorem Contracts.settle_deposit {id : ℕ} {deposit deposit' : TimeDeposit AccountId}
    (hfound : c.deposits.get id = some deposit) (hactive : deposit.status = .active)
    (hclosed : deposit'.owed = 0) :
    { c with deposits := c.deposits.insert id deposit' }.liabilities + deposit.amount =
      c.liabilities := by
  have h := Contracts.liabilities_deposit (c := c) id deposit'
  rw [Contracts.depositedIn_of_get hfound, deposit.owed_of_active hactive, hclosed] at h
  omega

/-- Writing a collateral replaces the old one. -/
theorem Contracts.liabilities_collateral (account : AccountId) (amount : ℕ) :
    c.collateral.getD account 0 +
        { c with collateral := c.collateral.insert account amount }.liabilities =
      amount + c.liabilities := by
  have h := StorageMap.total_insert (b := c.collateral) account amount
  unfold liabilities escrowed deposited
  dsimp only
  omega

/-- A contract is owed no more than all of them. -/
theorem Contracts.owed_le_liabilities {id : ℕ} {contract : EscrowContract AccountId}
    (h : c.escrows.get id = some contract) : contract.owed ≤ c.liabilities := by
  have hle : contract.owed ≤ c.escrowed := StorageMap.le_sum_of_get (h := fun _ e => e.owed) h
  unfold liabilities
  omega

end Liabilities

section Conditions

variable [DecidableEq AccountId] [Ledger AccountId L]

/-- The treasury's free balance covers what it owes, with something to spare. -/
def Solvent (cfg : Config AccountId) (spare : ℕ) (s : State AccountId L) : Prop :=
  s.contracts.liabilities + spare ≤ s.funds cfg

instance (cfg : Config AccountId) (spare : ℕ) : DecidablePred (Solvent (L := L) cfg spare) :=
  fun _ => inferInstanceAs (Decidable (_ ≤ _))

/-- Paying an amount leaves the treasury without the existential deposit, and so removes it. -/
def Reaped (cfg : Config AccountId) (s : State AccountId L) (amount : ℕ) : Prop :=
  s.funds cfg - amount < Ledger.existentialDeposit L ∧
    Ledger.reservedBalance s.ledger cfg.treasuryAccount = 0

/-- Paying an amount that settles `owed` leaves enough for what remains owed: the treasury pays
itself, or nothing else is to be covered, or the rest covers it and the treasury survives. -/
def Covers (cfg : Config AccountId) (spare : ℕ) (s : State AccountId L) (account : AccountId)
    (amount owed : ℕ) : Prop :=
  account = cfg.treasuryAccount ∨ amount = 0 ∨ s.contracts.liabilities + spare ≤ owed ∨
    (s.contracts.liabilities + spare + amount ≤ s.funds cfg + owed ∧ ¬ Reaped cfg s amount)

/-- What an extrinsic must meet for the treasury to stay solvent. Payments out of the treasury
are covered, and the treasury does not sign contracts with itself beyond what it holds. -/
def KeepsSolvent (cfg : Config AccountId) (spare : ℕ) (s : State AccountId L)
    (x : Extrinsic AccountId) : Prop :=
  match x.2, x.1.origin with
  | .approveLoan loanId, _ => ∀ loan, s.loanRequests.get loanId = some loan →
      Covers cfg spare s loan.borrower loan.amount 0
  | .claimCashAdvance amount _ _, .signed who => Covers cfg spare s who amount 0
  | .claimTimeDeposit depositId, .signed caller => ∀ deposit,
      s.timeDeposits.get depositId = some deposit →
        Covers cfg spare s caller (deposit.payout cfg) deposit.amount
  | .repayWholesale _ amount, _ => s.contracts.liabilities + spare + amount ≤ s.funds cfg
  | .releaseEscrow escrowId, _ => ∀ contract, s.escrowContracts.get escrowId = some contract →
      Covers cfg spare s contract.counterparty contract.amount contract.amount
  | .refundEscrow escrowId, _ => ∀ contract, s.escrowContracts.get escrowId = some contract →
      Covers cfg spare s contract.depositor contract.amount contract.amount
  | .withdrawFromSavings subAccount amount, .signed master =>
    subAccount = cfg.treasuryAccount → Covers cfg spare s master amount 0
  | .createEscrow _ amount _, .signed depositor => depositor = cfg.treasuryAccount →
      s.contracts.liabilities + spare + amount ≤ s.funds cfg + s.contracts.escrowedIn s.nextEscrowId
  | .openTimeDeposit amount _ _, .signed depositor => depositor = cfg.treasuryAccount →
      s.contracts.liabilities + spare + amount ≤
        s.funds cfg + s.contracts.depositedIn s.nextTimeDepositId
  | .lockCollateral amount, .signed caller => caller = cfg.treasuryAccount →
      s.contracts.liabilities + spare + saturatingAdd u128Max (s.collateral caller) amount ≤
        s.funds cfg + s.collateral caller
  | _, _ => True

end Conditions

section Payments

variable [DecidableEq AccountId] [Currency AccountId L] {cfg : Config AccountId}
  {s s' : State AccountId L} {account source : AccountId} {amount owed spare : ℕ}
  {er : ExistenceRequirement}

/-- A payment into the treasury adds its amount, unless the treasury pays itself. -/
theorem Moved.inflow (h : Moved cfg s s' source cfg.treasuryAccount amount er) :
    (source = cfg.treasuryAccount ∧ s'.funds cfg = s.funds cfg) ∨
      (source ≠ cfg.treasuryAccount ∧ s'.funds cfg = s.funds cfg + amount) := by
  obtain ⟨l, hl, hfunds⟩ := h
  by_cases hsource : source = cfg.treasuryAccount
  · rw [Currency.transfer_noop _ _ _ _ _ (Or.inr hsource)] at hl
    rw [← Except.ok.inj hl] at hfunds
    exact Or.inl ⟨hsource, hfunds⟩
  · refine Or.inr ⟨hsource, ?_⟩
    rw [hfunds]
    -- a transfer of nothing adds nothing
    rcases Currency.transfer_cases hl with ⟨hnoop, rfl⟩ | ⟨_, _, ht⟩
    · rw [hnoop.resolve_right hsource]
      rfl
    · exact ht.dest

/-- A payment out of the treasury leaves the remainder, unless nothing moves. -/
theorem Moved.outflow (h : Moved cfg s s' cfg.treasuryAccount account amount er) :
    ((account = cfg.treasuryAccount ∨ amount = 0) ∧ s'.funds cfg = s.funds cfg) ∨
      (account ≠ cfg.treasuryAccount ∧ amount ≠ 0 ∧ amount ≤ s.funds cfg ∧
        s'.funds cfg = Ledger.remainder s.ledger cfg.treasuryAccount amount) := by
  obtain ⟨l, hl, hfunds⟩ := h
  rcases Currency.transfer_cases hl with ⟨hnoop, rfl⟩ | ⟨hamount, hne, ht⟩
  · exact Or.inl ⟨hnoop.symm.imp_left Eq.symm, hfunds⟩
  · exact Or.inr ⟨Ne.symm hne, hamount, ht.funded, hfunds.trans ht.source⟩

/-- A payment between other accounts leaves the treasury as it is, or adds to it. -/
theorem Moved.elsewhere {dest : AccountId} (h : Moved cfg s s' source dest amount er)
    (hsource : source ≠ cfg.treasuryAccount) : s.funds cfg ≤ s'.funds cfg := by
  obtain ⟨l, hl, hfunds⟩ := h
  rw [hfunds]
  rcases Currency.transfer_cases hl with ⟨_, rfl⟩ | ⟨_, _, ht⟩
  · exact Nat.le_refl _
  -- the treasury may still be the receiver
  · by_cases hdest : dest = cfg.treasuryAccount
    · rw [← hdest, ht.dest]
      show Ledger.freeBalance s.ledger cfg.treasuryAccount ≤ _
      rw [← hdest]
      exact Nat.le_add_right _ _
    · rw [ht.others _ (Ne.symm hsource) (Ne.symm hdest)]
      exact Nat.le_refl _

/-- **A payment out of the treasury** that settles `owed` leaves it solvent exactly when it is
covered. -/
theorem solvent_outflow_iff (hs : Solvent cfg spare s)
    (hm : Moved cfg s s' cfg.treasuryAccount account amount er)
    (hsettled : s'.contracts.liabilities + owed = s.contracts.liabilities) :
    Solvent cfg spare s' ↔ Covers cfg spare s account amount owed := by
  unfold Solvent at hs ⊢
  rcases hm.outflow with ⟨hnoop, hfunds⟩ | ⟨hne, hamount, hle, hfunds⟩
  · rw [hfunds]
    refine iff_of_true (by omega) ?_
    -- nothing moves: what is owed does not grow either
    rcases hnoop with hself | hzero
    · exact Or.inl hself
    · exact Or.inr (Or.inl hzero)
  · rw [hfunds]
    unfold Covers
    rw [or_iff_right hne, or_iff_right hamount]
    by_cases hreaped : Reaped cfg s amount
    -- reaped: the rest is lost as dust, so nothing may be owed any more
    · rw [show Ledger.remainder s.ledger cfg.treasuryAccount amount = 0 from if_pos hreaped]
      simp only [hreaped, not_true_eq_false, and_false, or_false]
      omega
    -- alive: the rest has to cover what is still owed
    · rw [show Ledger.remainder s.ledger cfg.treasuryAccount amount = s.funds cfg - amount from
        if_neg hreaped]
      simp only [hreaped, not_false_eq_true, and_true]
      omega

/-- A payment out of the treasury that settles nothing has to be covered in full. -/
theorem solvent_unsettled_iff (hs : Solvent cfg spare s)
    (hm : Moved cfg s s' cfg.treasuryAccount account amount er)
    (howed : s'.contracts.liabilities = s.contracts.liabilities) :
    Solvent cfg spare s' ↔ Covers cfg spare s account amount 0 := by
  apply solvent_outflow_iff hs hm
  rw [howed, Nat.add_zero]

/-- **Closing an escrow contract** by a payment of its amount leaves the treasury solvent exactly
when the payment is covered. -/
theorem solvent_settleEscrow_iff (hs : Solvent cfg spare s) {id : ℕ}
    {contract closed : EscrowContract AccountId} (payee : EscrowContract AccountId → AccountId)
    (hfound : s.escrowContracts.get id = some contract) (hlocked : contract.status = .locked)
    (hclosed : closed.owed = 0)
    (hcontracts : s'.contracts =
      { s.contracts with escrows := s.escrowContracts.insert id closed })
    (hm : Moved cfg s s' cfg.treasuryAccount (payee contract) contract.amount er) :
    Solvent cfg spare s' ↔ ∀ contract, s.escrowContracts.get id = some contract →
      Covers cfg spare s (payee contract) contract.amount contract.amount := by
  have hsettled : s'.contracts.liabilities + contract.amount = s.contracts.liabilities := by
    rw [hcontracts]
    exact Contracts.settle_escrow (c := s.contracts) hfound hlocked hclosed
  rw [solvent_outflow_iff hs hm hsettled, StorageMap.forall_get_iff hfound]

/-- A keep-alive payment that settles its own amount is covered. -/
theorem Moved.covers (h : Moved cfg s s' cfg.treasuryAccount account amount .keepAlive)
    (hs : Solvent cfg spare s) : Covers cfg spare s account amount amount := by
  by_cases hself : account = cfg.treasuryAccount
  · exact Or.inl hself
  · by_cases hzero : amount = 0
    · exact Or.inr (Or.inl hzero)
    · obtain ⟨l, hl, _⟩ := h
      have halive := Currency.transfer_keepAlive _ _ _ _ _ hzero (Ne.symm hself) hl
      refine Or.inr (Or.inr (Or.inr ⟨Nat.add_le_add_right hs _, ?_⟩))
      exact fun hreaped => Nat.not_lt.mpr halive hreaped.1

/-- A payment into the treasury against an obligation of at most its amount. -/
theorem solvent_inflow_iff (hs : Solvent cfg spare s)
    (hm : Moved cfg s s' source cfg.treasuryAccount amount er) {old new : ℕ}
    (hadded : old + s'.contracts.liabilities = new + s.contracts.liabilities)
    (hle : new ≤ old + amount) :
    Solvent cfg spare s' ↔ (source = cfg.treasuryAccount →
      s.contracts.liabilities + spare + new ≤ s.funds cfg + old) := by
  unfold Solvent at hs ⊢
  rcases hm.inflow with ⟨hself, hfunds⟩ | ⟨hne, hfunds⟩
  · rw [hfunds, forall_prop_of_true hself]
    omega
  · rw [hfunds]
    refine iff_of_true (by omega) fun hself => absurd hself hne

end Payments

section Runs

variable [DecidableEq AccountId] [Currency AccountId L] [LockableCurrency AccountId L]
  {cfg : Config AccountId} {s s' : State AccountId L} {spare : ℕ}

/-- **The exact condition of one call.** -/
theorem solvent_step_iff {x : Extrinsic AccountId} (hs : Solvent cfg spare s)
    (h : step cfg x s = .ok s') : Solvent cfg spare s' ↔ KeepsSolvent cfg spare s x := by
  have heffect := step_treasury h
  obtain ⟨ctx, call⟩ := x
  cases call with
  -- payments that settle no obligation
  | approveLoan loanId =>
    obtain ⟨loan, hloan, hcontracts, hm⟩ := heffect
    rw [solvent_unsettled_iff hs hm (congrArg Contracts.liabilities hcontracts)]
    simp only [KeepsSolvent, StorageMap.forall_get_iff hloan]
  | claimCashAdvance amount nonce bankSignature =>
    obtain ⟨who, horigin, _, _, hcontracts, hm⟩ := heffect
    have howed : s'.contracts.liabilities = s.contracts.liabilities := by
      rw [hcontracts]
      rfl
    rw [solvent_unsettled_iff hs hm howed]
    simp only [KeepsSolvent]
    rw [horigin]
  -- payments that settle the obligation of a contract; interest comes on top
  | claimTimeDeposit depositId =>
    obtain ⟨caller, horigin, deposit, hdeposit, hactive, hcontracts, hm⟩ := heffect
    have hsettled : s'.contracts.liabilities + deposit.amount = s.contracts.liabilities := by
      rw [hcontracts]
      exact Contracts.settle_deposit (c := s.contracts) hdeposit hactive rfl
    rw [solvent_outflow_iff hs hm hsettled]
    simp only [KeepsSolvent]
    rw [horigin]
    simp only [StorageMap.forall_get_iff hdeposit]
  | releaseEscrow escrowId =>
    obtain ⟨contract, hcontract, hlocked, hcontracts, hm⟩ := heffect
    exact solvent_settleEscrow_iff hs EscrowContract.counterparty hcontract hlocked rfl hcontracts hm
  | refundEscrow escrowId =>
    obtain ⟨contract, hcontract, hlocked, hcontracts, hm⟩ := heffect
    exact solvent_settleEscrow_iff hs EscrowContract.depositor hcontract hlocked rfl hcontracts hm
  -- the amount is settled and the treasury kept alive, so no condition is left
  | unlockCollateral amount nonce bankSignature =>
    obtain ⟨caller, horigin, _, _, hle, hcontracts, hm⟩ := heffect
    have hwrite : s.collateral caller + s'.contracts.liabilities =
        s.collateral caller - amount + s.contracts.liabilities := by
      rw [hcontracts]
      exact Contracts.liabilities_collateral (c := s.contracts) caller _
    have hsettled : s'.contracts.liabilities + amount = s.contracts.liabilities := by omega
    refine iff_of_true ?_ trivial
    rw [solvent_outflow_iff hs hm hsettled]
    exact hm.covers hs
  | repayWholesale epochId amount =>
    obtain ⟨hcontracts, hfunds⟩ := heffect
    unfold Solvent at hs ⊢
    rw [hcontracts]
    show _ ↔ s.contracts.liabilities + spare + amount ≤ s.funds cfg
    omega
  | borrowWholesale amount =>
    obtain ⟨hcontracts, hfunds⟩ := heffect
    refine iff_of_true ?_ trivial
    unfold Solvent at hs ⊢
    rw [hcontracts]
    exact hs.trans hfunds
  -- a savings account is another account, unless it is recorded as the treasury itself
  | withdrawFromSavings subAccount amount =>
    obtain ⟨master, horigin, hcontracts, hm⟩ := heffect
    simp only [KeepsSolvent]
    rw [horigin]
    by_cases hsub : subAccount = cfg.treasuryAccount
    · rw [hsub] at hm
      rw [solvent_unsettled_iff hs hm (congrArg Contracts.liabilities hcontracts)]
      constructor
      · intro hc _
        exact hc
      · intro hc
        exact hc hsub
    · refine iff_of_true ?_ fun hself => absurd hself hsub
      rw [Solvent, hcontracts]
      exact hs.trans (hm.elsewhere hsub)
  -- payments in against an obligation of the same amount
  | createEscrow counterparty amount itemHash =>
    obtain ⟨depositor, horigin, contract, hamount, hlocked, hcontracts, hm⟩ := heffect
    have hadded : s.contracts.escrowedIn s.nextEscrowId + s'.contracts.liabilities =
        amount + s.contracts.liabilities := by
      rw [hcontracts, ← hamount, ← contract.owed_of_locked hlocked]
      exact Contracts.liabilities_escrow (c := s.contracts) s.nextEscrowId contract
    rw [solvent_inflow_iff hs hm hadded (Nat.le_add_left _ _)]
    simp only [KeepsSolvent]
    rw [horigin]
  | openTimeDeposit amount durationBlocks documentHash =>
    obtain ⟨depositor, horigin, deposit, hamount, hactive, hcontracts, hm⟩ := heffect
    have hadded : s.contracts.depositedIn s.nextTimeDepositId + s'.contracts.liabilities =
        amount + s.contracts.liabilities := by
      rw [hcontracts, ← hamount, ← deposit.owed_of_active hactive]
      exact Contracts.liabilities_deposit (c := s.contracts) s.nextTimeDepositId deposit
    rw [solvent_inflow_iff hs hm hadded (Nat.le_add_left _ _)]
    simp only [KeepsSolvent]
    rw [horigin]
  | lockCollateral amount =>
    obtain ⟨caller, horigin, hcontracts, hm⟩ := heffect
    have hadded : s.collateral caller + s'.contracts.liabilities =
        saturatingAdd u128Max (s.collateral caller) amount + s.contracts.liabilities := by
      rw [hcontracts]
      exact Contracts.liabilities_collateral (c := s.contracts) caller _
    rw [solvent_inflow_iff hs hm hadded saturatingAdd_le_add]
    simp only [KeepsSolvent]
    rw [horigin]
  -- payments in without an obligation
  | payCredit _ amount | fundTreasury amount | repayCashAdvance amount =>
    obtain ⟨who, horigin, hcontracts, hm⟩ := heffect
    refine iff_of_true ?_ trivial
    have hadded : 0 + s'.contracts.liabilities = 0 + s.contracts.liabilities := by rw [hcontracts]
    rw [solvent_inflow_iff hs hm hadded (Nat.zero_le _)]
    exact fun _ => hs
  | _ =>
    obtain ⟨hcontracts, hfunds⟩ := heffect
    refine iff_of_true ?_ trivial
    unfold Solvent
    rw [hcontracts, hfunds]
    exact hs

omit [LockableCurrency AccountId L] in
/-- Before any call nothing is owed. -/
theorem genesis_solvent {c : CentralBank.State AccountId L}
    (h : spare ≤ (genesis c).funds cfg) : Solvent cfg spare (genesis c) := by
  show 0 + spare ≤ _
  rwa [Nat.zero_add]

/-- The ledger refuses a payment because the balance, or the balance less the existential
deposit, does not suffice. -/
def LacksFunds : CurrencyError → Prop
  | .fundsUnavailable | .notExpendable => True
  | _ => False

omit [DecidableEq AccountId] [LockableCurrency AccountId L] in
/-- A payment that is refused for lack of funds is more than its source holds, or would
not keep it alive. -/
theorem transfer_lacksFunds {source dest : AccountId} {amount : ℕ} {er : ExistenceRequirement}
    {e : CurrencyError} (h : Currency.transfer s.ledger source dest amount er = .error e)
    (he : LacksFunds e) :
    Ledger.freeBalance s.ledger source < amount ∨
      (er = .keepAlive ∧
        Ledger.freeBalance s.ledger source < amount + Ledger.existentialDeposit L) := by
  cases e with
  | fundsUnavailable => exact Or.inl (Currency.transfer_fundsUnavailable _ _ _ _ _ h)
  | notExpendable => exact Or.inr (Currency.transfer_notExpendable _ _ _ _ _ h)
  | _ => exact he.elim

/-- What a party of the bank relies on: a locked escrow is released and refunded without lack of
funds, and so is collateral taken back that leaves the treasury its existential deposit. -/
structure Redeemable (cfg : Config AccountId) (s : State AccountId L) : Prop where
  release : ∀ ctx escrowId e, releaseEscrow cfg ctx escrowId s = .error (.currency e) →
    ¬ LacksFunds e
  refund : ∀ ctx escrowId e, refundEscrow cfg ctx escrowId s = .error (.currency e) →
    ¬ LacksFunds e
  unlock : ∀ ctx amount nonce bankSignature e,
    unlockCollateral cfg ctx amount nonce bankSignature s = .error (.currency e) →
      amount + Ledger.existentialDeposit L ≤ s.funds cfg → ¬ LacksFunds e

omit [LockableCurrency AccountId L] in
theorem Solvent.of_spare {spare' : ℕ} (hs : Solvent cfg spare s) (hle : spare' ≤ spare) :
    Solvent cfg spare' s :=
  (Nat.add_le_add_left hle _).trans hs

omit [LockableCurrency AccountId L] in
/-- A solvent treasury honours its contracts. -/
theorem Solvent.redeemable (hs : Solvent cfg 0 s) : Redeemable cfg s := by
  -- each contract is part of what the balance covers
  have hescrow : ∀ escrowId contract, s.escrowContracts.get escrowId = some contract →
      contract.status = .locked → contract.amount ≤ s.funds cfg := by
    intro escrowId contract hcontract hlocked
    have hle := Contracts.owed_le_liabilities (c := s.contracts) hcontract
    rw [contract.owed_of_locked hlocked] at hle
    exact hle.trans hs
  have hpaid : ∀ {dest amount e}, amount ≤ s.funds cfg →
      Currency.transfer s.ledger cfg.treasuryAccount dest amount .allowDeath = .error e →
        ¬ LacksFunds e := by
    intro dest amount e hle h he
    rcases transfer_lacksFunds h he with hlt | ⟨hk, _⟩
    · exact Nat.not_lt.mpr hle hlt
    · cases hk
  constructor
  · intro ctx escrowId e h
    obtain ⟨contract, hcontract, hlocked, htransfer⟩ := releaseEscrow_eq_currency h
    exact hpaid (hescrow escrowId contract hcontract hlocked) htransfer
  · intro ctx escrowId e h
    obtain ⟨contract, hcontract, hlocked, htransfer⟩ := refundEscrow_eq_currency h
    exact hpaid (hescrow escrowId contract hcontract hlocked) htransfer
  · intro ctx amount nonce bankSignature e h hkept he
    obtain ⟨caller, _, htransfer⟩ := unlockCollateral_eq_currency h
    rcases transfer_lacksFunds htransfer he with hlt | ⟨_, hlt⟩
    · exact Nat.not_lt.mpr ((Nat.le_add_right _ _).trans hkept) hlt
    · exact Nat.not_lt.mpr hkept hlt

/-- Collateral is given back without lack of funds. -/
def GivesBack (cfg : Config AccountId) (s : State AccountId L) : Prop :=
  ∀ ctx amount nonce bankSignature e,
    unlockCollateral cfg ctx amount nonce bankSignature s = .error (.currency e) → ¬ LacksFunds e

omit [LockableCurrency AccountId L] in
/-- A treasury with the existential deposit to spare gives collateral back. -/
theorem Solvent.givesBack (hs : Solvent cfg (Ledger.existentialDeposit L) s) :
    GivesBack cfg s := by
  intro ctx amount nonce bankSignature e h
  refine (hs.of_spare (Nat.zero_le _)).redeemable.unlock ctx amount nonce bankSignature e h ?_
  obtain ⟨caller, hle, -⟩ := unlockCollateral_eq_currency h
  -- the collateral is part of what the balance covers
  have howed : amount ≤ s.contracts.liabilities :=
    calc amount ≤ s.collateral caller := hle
      _ ≤ s.contracts.collateral.total := StorageMap.getD_le_total caller
      _ ≤ s.contracts.liabilities := Nat.le_add_left _ _
  exact (Nat.add_le_add_right howed _).trans hs

/-- Starting without contracts, the treasury's balance covers what it owes with something to spare
throughout exactly the runs along `KeepsSolvent`. -/
theorem throughout_solvent_iff {c : CentralBank.State AccountId L}
    (h : spare ≤ (genesis c).funds cfg) (xs : List (Extrinsic AccountId)) :
    Throughout (step cfg) (Solvent cfg spare) xs (genesis c) ↔
      Along (step cfg) (KeepsSolvent cfg spare) xs (genesis c) :=
  throughout_iff_along_of_step (fun _ _ _ hs h => solvent_step_iff hs h) (genesis_solvent h)

/-- **When the treasury is solvent.** Starting without contracts, the treasury's balance covers
what it owes throughout exactly the runs along `KeepsSolvent`; and throughout these runs no
locked escrow is refused its payment for lack of funds, nor is collateral whose payment leaves
the treasury its existential deposit. Throughout the runs that keep the existential deposit to
spare, which a treasury that starts with it does exactly along `KeepsSolvent` too, no collateral is
refused for lack of funds. -/
theorem solvent_throughout_iff (cfg : Config AccountId) (c : CentralBank.State AccountId L)
    (xs : List (Extrinsic AccountId)) :
    (Throughout (step cfg) (Solvent cfg 0) xs (genesis c) ↔
        Along (step cfg) (KeepsSolvent cfg 0) xs (genesis c)) ∧
      (Along (step cfg) (KeepsSolvent cfg 0) xs (genesis c) →
        Throughout (step cfg) (Redeemable cfg) xs (genesis c)) ∧
      (Ledger.existentialDeposit L ≤ (genesis c).funds cfg →
        (Throughout (step cfg) (Solvent cfg (Ledger.existentialDeposit L)) xs (genesis c) ↔
          Along (step cfg) (KeepsSolvent cfg (Ledger.existentialDeposit L)) xs (genesis c)) ∧
        (Along (step cfg) (KeepsSolvent cfg (Ledger.existentialDeposit L)) xs (genesis c) →
          Throughout (step cfg) (GivesBack cfg) xs (genesis c))) := by
  have hiff : Throughout (step cfg) (Solvent cfg 0) xs (genesis c) ↔
      Along (step cfg) (KeepsSolvent cfg 0) xs (genesis c) :=
    throughout_solvent_iff (Nat.zero_le _) xs
  refine ⟨hiff, fun halong => (hiff.mpr halong).imp fun _ hs => hs.redeemable, ?_⟩
  intro hfunds
  have hspare := throughout_solvent_iff hfunds xs
  exact ⟨hspare, fun halong => (hspare.mpr halong).imp fun _ hs => hs.givesBack⟩

end Runs

/-- A citizen escrows an amount and releases it, and has collateral in the treasury meanwhile. -/
def escrowReleased : List (Extrinsic ℕ) :=
  [(citizenContext 7 1, .openMasterAccount),
    (citizenContext 7 1, .lockCollateral (50 * CentralBank.unit)),
    (citizenContext 7 1, .createEscrow 8 (900 * CentralBank.unit) []),
    (citizenContext 7 2, .releaseEscrow 0)]

/-- A treasury that makes no other payments honours its contracts. -/
theorem solvent_throughout_kept :
    Throughout (step bankOfSiberia) (Redeemable bankOfSiberia) escrowReleased bankGenesis ∧
      Throughout (step bankOfSiberia) (GivesBack bankOfSiberia) escrowReleased bankGenesis := by
  have h := solvent_throughout_iff bankOfSiberia bankGenesis.centralBank escrowReleased
  have hsolvent : Throughout (step bankOfSiberia) (Solvent bankOfSiberia 0) escrowReleased
      bankGenesis := by decide +kernel
  have hspare : Throughout (step bankOfSiberia) (Solvent bankOfSiberia
      (Ledger.existentialDeposit (NativeLedger ℕ))) escrowReleased bankGenesis := by
    decide +kernel
  have hthird := h.2.2 (by decide +kernel)
  exact ⟨h.2.1 (h.1.mp hsolvent), hthird.2 (hthird.1.mp hspare)⟩

/-- A citizen escrows an amount, and a loan of more than the treasury's own funds is requested and
approved. -/
def loanFromEscrow : List (Extrinsic ℕ) :=
  [(citizenContext 7 1, .openMasterAccount),
    (citizenContext 8 1, .openMasterAccount),
    (citizenContext 7 1, .createEscrow 8 (900 * CentralBank.unit) []),
    (citizenContext 8 2, .requestLoan (1500 * CentralBank.unit) 0),
    (officerContext 3, .approveLoan 0)]

/-- The loan is paid out of the escrowed amount: the treasury is left with four hundred units and
owes nine hundred. -/
theorem loan_spends_escrow :
    ¬ Throughout (step bankOfSiberia) (Solvent bankOfSiberia 0) loanFromEscrow bankGenesis := by
  intro h
  have hsolvent := h.last
  revert hsolvent
  decide +kernel

end BankOfSiberia
