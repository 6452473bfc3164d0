import Altan.BankOfSiberia.SubAccounts
import Altan.Foundation.Outlay
import Altan.Runtime.Authority

/-!
# Who pays and who issues

Every extrinsic of the banking branch is paid for by accounts that can be read off it: its signer,
the savings sub-account of its signer, the licensed operator a burn names, the treasury of the Bank
of Siberia, or the central bank itself. No other free balance falls. Currency is issued by the
officers of the two banks and to licensed operators only.

## Main definitions

* `payers`: the accounts that pay for an extrinsic
* `ByOfficer`: root or a holder of a legitimate key orders an extrinsic
* `Issues`: what an extrinsic that issues currency must meet
* `Grants`: what an extrinsic that licenses an operator must meet
* `minted`: the most that an extrinsic issues

## Main results

* `step_paidBy`, `step_issuance_le`: who pays for an accepted extrinsic, and what it issues
* `spent_by_payers`: only what an account pays for lowers what it has, in every run
* `issuance_accounted`: after a run no more is issued than its extrinsics say
* `issuance_by_officers`: along the runs in which root creates the organisations of the banks, only
  legitimate officers and licensed operators issue
-/

open Dispatch Ledger TransitionSystem

namespace Runtime

variable {AccountId L : Type} [DecidableEq AccountId]

/-- The account that signs an extrinsic, if any. -/
def Extrinsic.signers (x : Extrinsic AccountId) : List AccountId := x.authority.origin.signers

/-- The accounts that pay for an extrinsic, its fees apart. -/
def payers (cfg : BankOfSiberia.Config AccountId) (x : Extrinsic AccountId) : List AccountId :=
  match x.call with
  | .transfer _ _ _ => x.signers
  | .centralBank (.burn operator _) => [operator]
  | .centralBank (.repayCredit _ _) => x.signers
  -- the deposits of the pure proxies are the creator's
  | .centralBank .triggerGenesisDistribution =>
    [cfg.centralBank.creatorAccount, cfg.centralBank.centralBankAccountId]
  | .bankOfSiberia (.withdrawFromSavings _ _) =>
    x.signers.map fun master => BankOfSiberia.deriveSubAccount cfg master .savings 0
  | .bankOfSiberia (.payCredit _ _) | .bankOfSiberia (.createEscrow _ _ _)
  | .bankOfSiberia (.openTimeDeposit _ _ _) | .bankOfSiberia (.fundTreasury _)
  | .bankOfSiberia (.lockCollateral _) | .bankOfSiberia (.repayCashAdvance _) => x.signers
  | .bankOfSiberia (.approveLoan _) | .bankOfSiberia (.releaseEscrow _)
  | .bankOfSiberia (.refundEscrow _) | .bankOfSiberia (.claimTimeDeposit _)
  | .bankOfSiberia (.claimCashAdvance _ _ _) | .bankOfSiberia (.unlockCollateral _ _ _)
  | .bankOfSiberia (.repayWholesale _ _) => [cfg.treasuryAccount]
  | _ => []

/-- The recorded sub-accounts are at their derived addresses. -/
def SubAccountsDerived (cfg : BankOfSiberia.Config AccountId)
    (s : BankOfSiberia.State AccountId L) : Prop :=
  ∀ subAccount record, s.subAccountMeta.get subAccount = some record →
    subAccount = BankOfSiberia.deriveSubAccount cfg record.master record.accountType 0

/-- Root orders an extrinsic, or the holder of a legitimate key of the organisation. -/
def ByOfficer (orgId : ℕ) (t : Traced AccountId L) (x : Extrinsic AccountId) : Prop :=
  match x.authority.origin with
  | .root => True
  | .signed who => (orgId, who) ∈ t.legitimate
  | .none => False

/-- Whether an account is a licensed operator of the central bank. -/
def State.isLicensed (s : State AccountId L) (operator : AccountId) : Bool :=
  s.bankOfSiberia.centralBank.isLicensed operator

/-- What an extrinsic that issues currency must meet: officers of the central bank mint to licensed
operators and grant, licensed operators borrow, and officers of the Bank of Siberia borrow for a
licensed treasury. -/
def Issues (cfg : BankOfSiberia.Config AccountId) (t : Traced AccountId L)
    (x : Extrinsic AccountId) : Prop :=
  match x.call with
  | .centralBank (.mintToOperator operator _) =>
    ByOfficer cbOrgId t x ∧ t.state.isLicensed operator = true
  | .centralBank (.issueGenesisGrant _ _) => ByOfficer cbOrgId t x
  | .centralBank (.requestCredit _) => ∃ who ∈ x.signers, t.state.isLicensed who = true
  | .bankOfSiberia (.borrowWholesale _) =>
    ByOfficer boSOrgId t x ∧ t.state.isLicensed cfg.treasuryAccount = true
  | _ => False

/-- What an extrinsic that licenses an operator must meet. -/
def Grants (operator : AccountId) (t : Traced AccountId L) (x : Extrinsic AccountId) : Prop :=
  x.call = .centralBank (.grantOperatorLicense operator) ∧ ByOfficer cbOrgId t x

/-- The payers as a set. -/
def payerSet (cfg : BankOfSiberia.Config AccountId) (x : Extrinsic AccountId) : Set AccountId :=
  { a | a ∈ payers cfg x }

end Runtime

/-! ### What the genesis distribution takes -/

namespace CentralBank

variable {AccountId L : Type} [DecidableEq AccountId] [Currency AccountId L]
  [ProxyModule AccountId L] {cfg : Config AccountId} {ctx : Context AccountId}
  {s s' : State AccountId L} {who : AccountId} {amount index regionCode : ℕ}

/-- What a distribution on behalf of `who` does: it is paid for by its creator and by the central
bank, and licenses nobody. -/
structure Distributed (cfg : Config AccountId) (who : AccountId) (s s' : State AccountId L) :
    Prop where
  paidBy : PaidBy {who, cfg.centralBankAccountId} s.ledger s'.ledger
  licences : s'.licensedOperators = s.licensedOperators

omit [DecidableEq AccountId] [ProxyModule AccountId L] in
theorem Distributed.trans {s₁ s₂ s₃ : State AccountId L} (h : Distributed cfg who s₁ s₂)
    (h' : Distributed cfg who s₂ s₃) : Distributed cfg who s₁ s₃ :=
  ⟨h.paidBy.trans h'.paidBy, h'.licences.trans h.licences⟩

theorem createAndFund_distributed (hwho : ctx.origin = .signed who)
    (h : createAndFund cfg ctx who amount index s = .ok s') : Distributed cfg who s s' := by
  obtain ⟨s₁, hs₁, ledger, hledger, rfl⟩ := createAndFund_eq_ok.mp h
  obtain ⟨creator, hcreator, r, hr, rfl⟩ := createPure_eq_ok.mp hs₁
  obtain rfl : creator = who := by
    rw [hwho] at hcreator
    exact (Origin.signed.inj hcreator).symm
  have hdeposit : PaidBy {creator} s.ledger r.2 :=
    (ProxyModule.createPure_reserved _ _ _ _ _ r hr).paidBy
  have hfunding : PaidBy {cfg.centralBankAccountId} r.2 ledger :=
    Currency.paidBy_transfer hledger
  exact ⟨(hdeposit.of_mem (by simp)).trans (hfunding.of_mem (by simp)), rfl⟩

theorem distributeRegion_distributed (hwho : ctx.origin = .signed who)
    (h : distributeRegion cfg ctx who regionCode index s = .ok s') : Distributed cfg who s s' := by
  obtain ⟨s₁, h₁, s₂, h₂, rfl⟩ := distributeRegion_eq_ok.mp h
  have hfirst := createAndFund_distributed hwho h₁
  have hsecond := createAndFund_distributed hwho h₂
  exact hfirst.trans ⟨hsecond.paidBy, hsecond.licences⟩

theorem distributeRegions_distributed {codes : List ℕ} (hwho : ctx.origin = .signed who)
    (h : distributeRegions cfg ctx who codes index s = .ok s') : Distributed cfg who s s' := by
  -- the induction is on the codes that are left
  induction codes generalizing index s with
  | nil =>
    rw [distributeRegions, pure_eq_ok] at h
    rw [h]
    exact ⟨PaidBy.refl _, rfl⟩
  | cons code codes ih =>
    rw [distributeRegions, bind_eq_ok] at h
    obtain ⟨s₁, h₁, hrest⟩ := h
    exact (distributeRegion_distributed hwho h₁).trans (ih hrest)

/-- The genesis distribution is on behalf of the creator. -/
theorem triggerGenesisDistribution_distributed
    (h : triggerGenesisDistribution cfg ctx s = .ok s') :
    Distributed cfg cfg.creatorAccount s s' := by
  obtain ⟨horigin, -, s₁, h₁, hrest⟩ := triggerGenesisDistribution_eq_ok.mp h
  have hconfederation := createAndFund_distributed horigin h₁
  have hregions := distributeRegions_distributed horigin hrest
  exact Distributed.trans ⟨hconfederation.paidBy, hconfederation.licences⟩
    ⟨hregions.paidBy, hregions.licences⟩

end CentralBank

namespace Runtime

variable {AccountId L : Type} {cfg : BankOfSiberia.Config AccountId} {x : Extrinsic AccountId}

/-! ### What an extrinsic takes -/

variable [DecidableEq AccountId] [Currency AccountId L]

section CentralBank

variable [CentralBank.ProxyModule AccountId L] {s s' : CentralBank.State AccountId L}
  {o : OrgRoles.State AccountId}

/-- A call of the central bank is paid for by its payers. -/
theorem centralBank_paidBy {call : CentralBank.Call AccountId} (hcall : x.call = .centralBank call)
    (h : CentralBank.dispatch cfg.centralBank (x.centralBankContext o) call s = .ok s') :
    PaidBy (payerSet cfg x) s.ledger s'.ledger := by
  have hmem : ∀ a, a ∈ payerSet cfg x ↔ a ∈ payers cfg x := fun _ => Iff.rfl
  unfold payers at hmem
  rw [hcall] at hmem
  cases call with
  | grantOperatorLicense operator =>
    obtain ⟨-, -, rfl⟩ := CentralBank.grantOperatorLicense_eq_ok.mp h
    exact PaidBy.refl _
  | revokeOperatorLicense operator =>
    obtain ⟨-, -, rfl⟩ := CentralBank.revokeOperatorLicense_eq_ok.mp h
    exact PaidBy.refl _
  | setBaseRate newRateBps =>
    obtain ⟨-, -, rfl⟩ := CentralBank.setBaseRate_eq_ok.mp h
    exact PaidBy.refl _
  | transitionEpoch =>
    rw [(CentralBank.transitionEpoch_frame h).2]
    exact PaidBy.refl _
  -- creations are paid for by nobody
  | mintToOperator operator amount =>
    obtain ⟨-, -, -, -, rfl⟩ := CentralBank.mintToOperator_eq_ok.mp h
    exact (Currency.paidBy_depositCreating _ _ _).of_empty
  | issueGenesisGrant citizen regionCode =>
    obtain ⟨-, -, -, rfl⟩ := CentralBank.issueGenesisGrant_eq_ok.mp h
    exact (Currency.paidBy_depositCreating _ _ _).of_empty
  | requestCredit amount =>
    obtain ⟨who, -, hcredit⟩ := CentralBank.requestCredit_eq_ok.mp h
    rw [(CentralBank.doRequestCredit_frame hcredit).2.2.2]
    exact (Currency.paidBy_depositCreating _ _ _).of_empty
  | burn operator amount =>
    obtain ⟨-, -, -, -, ledger, hledger, -, rfl⟩ := CentralBank.burn_eq_ok.mp h
    exact (Currency.paidBy_withdraw hledger).of_mem ((hmem _).mpr List.mem_cons_self)
  | repayCredit epochId amount =>
    obtain ⟨who, hwho, hcredit⟩ := CentralBank.repayCredit_eq_ok.mp h
    obtain ⟨-, -, ledger, hledger, hs'⟩ := CentralBank.doRepayCredit_frame hcredit
    rw [hs']
    exact (Currency.paidBy_withdraw hledger).of_mem ((hmem _).mpr (Origin.mem_signers hwho))
  | triggerGenesisDistribution =>
    apply (CentralBank.triggerGenesisDistribution_distributed h).paidBy.mono
    intro a ha
    rw [hmem]
    simpa using ha

end CentralBank

section BankOfSiberia

variable [LockableCurrency AccountId L] {s s' : BankOfSiberia.State AccountId L}
  {o : OrgRoles.State AccountId}

/-- A call of the Bank of Siberia is paid for by its payers, the sub-accounts being at their derived
addresses. -/
theorem bankOfSiberia_paidBy {call : BankOfSiberia.Call AccountId}
    (hcall : x.call = .bankOfSiberia call) (hs : SubAccountsDerived cfg s)
    (h : BankOfSiberia.dispatch cfg (x.bankOfSiberiaContext o) call s = .ok s') :
    PaidBy (payerSet cfg x) s.ledger s'.ledger := by
  have hmem : ∀ a, a ∈ payerSet cfg x ↔ a ∈ payers cfg x := fun _ => Iff.rfl
  unfold payers at hmem
  rw [hcall] at hmem
  cases call with
  | openMasterAccount =>
    obtain ⟨_, _, _, _, rfl⟩ := BankOfSiberia.openMasterAccount_eq_ok.mp h
    exact PaidBy.refl _
  | openSubAccount accountType =>
    obtain ⟨_, _, _, _, rfl⟩ := BankOfSiberia.openSubAccount_eq_ok.mp h
    exact PaidBy.refl _
  | closeSubAccount subAccount =>
    obtain ⟨_, _, _, _, _, _, rfl⟩ := BankOfSiberia.closeSubAccount_eq_ok.mp h
    exact PaidBy.refl _
  | setBankServerKey key =>
    obtain ⟨_, rfl⟩ := BankOfSiberia.setBankServerKey_eq_ok.mp h
    exact PaidBy.refl _
  | requestLoan amount collateral =>
    obtain ⟨_, _, _, _, rfl⟩ := BankOfSiberia.requestLoan_eq_ok.mp h
    exact (Currency.paidBy_setLock _ _ _ _).of_empty
  | cancelLoanRequest loanId =>
    obtain ⟨_, _, _, _, _, _, rfl⟩ := BankOfSiberia.cancelLoanRequest_eq_ok.mp h
    exact (Currency.paidBy_removeLock _ _ _).of_empty
  | borrowWholesale amount =>
    obtain ⟨_, c, hc, rfl⟩ := BankOfSiberia.borrowWholesale_eq_ok.mp h
    have hcredit := (CentralBank.doRequestCredit_frame hc).2.2.2
    change PaidBy _ s.ledger c.ledger
    rw [hcredit]
    exact (Currency.paidBy_depositCreating _ _ _).of_empty
  -- the records say where a withdrawal takes from
  | withdrawFromSavings subAccount amount =>
    obtain ⟨master, hmaster, record, hrecord, rfl, hsavings, _, l, hl, rfl⟩ :=
      BankOfSiberia.withdrawFromSavings_eq_ok.mp h
    have hderived := hs subAccount record hrecord
    rw [hsavings] at hderived
    apply (Currency.paidBy_transfer hl).of_mem
    rw [hmem, hderived]
    exact List.mem_map_of_mem (Origin.mem_signers hmaster)
  -- what the signer pays
  | payCredit subAccount amount =>
    obtain ⟨master, hmaster, _, _, _, _, _, loanId, _, loan, _, _, l, hl, rfl⟩ :=
      BankOfSiberia.payCredit_eq_ok.mp h
    have hpayment : PaidBy (payerSet cfg x) s.ledger l :=
      (Currency.paidBy_transfer hl).of_mem ((hmem _).mpr (Origin.mem_signers hmaster))
    unfold BankOfSiberia.paid
    split
    · exact hpayment.trans ((Currency.paidBy_removeLock l _ _).of_empty)
    · exact hpayment
  | createEscrow counterparty amount itemHash =>
    obtain ⟨depositor, hdepositor, _, _, _, l, hl, rfl⟩ := BankOfSiberia.createEscrow_eq_ok.mp h
    exact (Currency.paidBy_transfer hl).of_mem ((hmem _).mpr (Origin.mem_signers hdepositor))
  | openTimeDeposit amount durationBlocks documentHash =>
    obtain ⟨depositor, hdepositor, _, _, _, l, hl, rfl⟩ := BankOfSiberia.openTimeDeposit_eq_ok.mp h
    exact (Currency.paidBy_transfer hl).of_mem ((hmem _).mpr (Origin.mem_signers hdepositor))
  | fundTreasury amount =>
    obtain ⟨who, hwho, _, _, l, hl, rfl⟩ := BankOfSiberia.fundTreasury_eq_ok.mp h
    exact (Currency.paidBy_transfer hl).of_mem ((hmem _).mpr (Origin.mem_signers hwho))
  | lockCollateral amount =>
    obtain ⟨caller, hcaller, _, l, hl, rfl⟩ := BankOfSiberia.lockCollateral_eq_ok.mp h
    exact (Currency.paidBy_transfer hl).of_mem ((hmem _).mpr (Origin.mem_signers hcaller))
  | repayCashAdvance amount =>
    obtain ⟨who, hwho, _, l, hl, rfl⟩ := BankOfSiberia.repayCashAdvance_eq_ok.mp h
    exact (Currency.paidBy_transfer hl).of_mem ((hmem _).mpr (Origin.mem_signers hwho))
  -- what the treasury pays
  | approveLoan loanId =>
    obtain ⟨_, _, _, _, _, _, l, hl, rfl⟩ := BankOfSiberia.approveLoan_eq_ok.mp h
    exact (Currency.paidBy_transfer hl).of_mem ((hmem _).mpr List.mem_cons_self)
  | releaseEscrow escrowId =>
    obtain ⟨_, _, _, _, _, _, l, hl, rfl⟩ := BankOfSiberia.releaseEscrow_eq_ok.mp h
    exact (Currency.paidBy_transfer hl).of_mem ((hmem _).mpr List.mem_cons_self)
  | refundEscrow escrowId =>
    obtain ⟨_, _, _, _, _, _, l, hl, rfl⟩ := BankOfSiberia.refundEscrow_eq_ok.mp h
    exact (Currency.paidBy_transfer hl).of_mem ((hmem _).mpr List.mem_cons_self)
  | claimTimeDeposit depositId =>
    obtain ⟨_, _, _, _, _, _, _, _, l, hl, rfl⟩ := BankOfSiberia.claimTimeDeposit_eq_ok.mp h
    exact (Currency.paidBy_transfer hl).of_mem ((hmem _).mpr List.mem_cons_self)
  | claimCashAdvance amount nonce bankSignature =>
    obtain ⟨_, _, _, _, l, hl, rfl⟩ := BankOfSiberia.claimCashAdvance_eq_ok.mp h
    exact (Currency.paidBy_transfer hl).of_mem ((hmem _).mpr List.mem_cons_self)
  | unlockCollateral amount nonce bankSignature =>
    obtain ⟨_, _, _, _, _, _, l, hl, rfl⟩ := BankOfSiberia.unlockCollateral_eq_ok.mp h
    exact (Currency.paidBy_transfer hl).of_mem ((hmem _).mpr List.mem_cons_self)
  | repayWholesale epochId amount =>
    obtain ⟨_, c, hc, rfl⟩ := BankOfSiberia.repayWholesale_eq_ok.mp h
    obtain ⟨_, _, l, hl, hcentralBank⟩ := CentralBank.doRepayCredit_frame hc
    change PaidBy _ s.ledger c.ledger
    rw [hcentralBank]
    exact (Currency.paidBy_withdraw hl).of_mem ((hmem _).mpr List.mem_cons_self)

/-- A call of the bank leaves the recorded sub-accounts at their derived addresses. -/
theorem bankOfSiberia_derived {y : BankOfSiberia.Extrinsic AccountId}
    {b b' : BankOfSiberia.State AccountId L} (hb : SubAccountsDerived cfg b)
    (h : BankOfSiberia.step cfg y b = .ok b') : SubAccountsDerived cfg b' := by
  have hkept : b'.subAccountMeta = b.subAccountMeta → SubAccountsDerived cfg b' := by
    intro he
    unfold SubAccountsDerived
    rw [he]
    exact hb
  have hremoved : ∀ subAccount, BankOfSiberia.SubAccountRemoved b b' subAccount →
      SubAccountsDerived cfg b' := by
    rintro subAccount ⟨_, -, -, he⟩ a record hrecord
    rw [he, StorageMap.get_remove] at hrecord
    split at hrecord
    · cases hrecord
    · exact hb a record hrecord
  have heffect := BankOfSiberia.step_index h
  obtain ⟨ctx, call⟩ := y
  cases call with
  | openSubAccount accountType =>
    obtain ⟨master, openedAt, -, he⟩ := heffect
    intro a record hrecord
    rw [he, StorageMap.get_insert] at hrecord
    split at hrecord
    · next ha =>
      rw [ha, ← Option.some.inj hrecord]
    · exact hb a record hrecord
  | withdrawFromSavings subAccount amount =>
    exact heffect.elim (hremoved subAccount) fun hk => hkept hk.2
  | closeSubAccount subAccount => exact hremoved subAccount heffect
  | _ => exact hkept heffect.2

end BankOfSiberia

section Steps

variable [CentralBank.ProxyModule AccountId L] [LockableCurrency AccountId L]
  {s s' : State AccountId L}

/-- **An accepted extrinsic is paid for by its payers.** -/
theorem step_paidBy (hs : SubAccountsDerived cfg s.bankOfSiberia) (h : step cfg x s = .ok s') :
    PaidBy (payerSet cfg x) s.ledger s'.ledger := by
  unfold step at h
  cases hcall : x.call with
  | orgRoles call =>
    rw [hcall] at h
    obtain ⟨o, -, h⟩ := mapError_bind_eq_ok.mp h
    rw [← pure_eq_ok.mp h]
    exact PaidBy.refl _
  | centralBank call =>
    rw [hcall] at h
    obtain ⟨b, hb, rfl⟩ := onBankOfSiberia_eq_ok.mp h
    obtain ⟨c, hc, rfl⟩ := BankOfSiberia.onCentralBank_eq_ok.mp hb
    exact centralBank_paidBy hcall hc
  | bankOfSiberia call =>
    rw [hcall] at h
    obtain ⟨b, hb, rfl⟩ := onBankOfSiberia_eq_ok.mp h
    exact bankOfSiberia_paidBy hcall hs hb
  | transfer dest amount er =>
    rw [hcall] at h
    obtain ⟨source, hsource, h⟩ := ensureSigned_bind_eq_ok.mp h
    obtain ⟨b, hb, rfl⟩ := onBankOfSiberia_eq_ok.mp h
    obtain ⟨l, hl, rfl⟩ := BankOfSiberia.transfer_eq_ok.mp hb
    refine (Currency.paidBy_transfer hl).of_mem ?_
    show source ∈ payers cfg x
    unfold payers
    rw [hcall]
    exact Origin.mem_signers hsource

/-- An accepted extrinsic leaves the recorded sub-accounts at their derived addresses. -/
theorem step_derived (hs : SubAccountsDerived cfg s.bankOfSiberia) (h : step cfg x s = .ok s') :
    SubAccountsDerived cfg s'.bankOfSiberia := by
  unfold step at h
  cases hcall : x.call with
  | orgRoles call =>
    rw [hcall] at h
    obtain ⟨o, -, h⟩ := mapError_bind_eq_ok.mp h
    rw [← pure_eq_ok.mp h]
    exact hs
  | centralBank call =>
    rw [hcall] at h
    obtain ⟨b, hb, rfl⟩ := onBankOfSiberia_eq_ok.mp h
    obtain ⟨c, -, rfl⟩ := BankOfSiberia.onCentralBank_eq_ok.mp hb
    exact hs
  | bankOfSiberia call =>
    rw [hcall] at h
    obtain ⟨b, hb, rfl⟩ := onBankOfSiberia_eq_ok.mp h
    exact bankOfSiberia_derived (y := (x.bankOfSiberiaContext s.orgRoles, call)) hs hb
  | transfer dest amount er =>
    rw [hcall] at h
    obtain ⟨source, -, h⟩ := ensureSigned_bind_eq_ok.mp h
    obtain ⟨b, hb, rfl⟩ := onBankOfSiberia_eq_ok.mp h
    obtain ⟨l, -, rfl⟩ := BankOfSiberia.transfer_eq_ok.mp hb
    exact hs

/-- The storage at genesis, on a storage of the central bank. -/
def genesis (c : CentralBank.State AccountId L) : State AccountId L :=
  ⟨OrgRoles.genesis, BankOfSiberia.genesis c⟩

/-- **Nobody spends another's balance.** In every run, only accepted extrinsics that an account pays
for lower its free balance, or all it holds, and after the run it has at least what these leave of
either, whatever else happens. -/
theorem spent_by_payers (cfg : BankOfSiberia.Config AccountId) (c : CentralBank.State AccountId L)
    (xs : List (Extrinsic AccountId)) :
    Along (step cfg)
        (fun s x => PaidBy (payerSet cfg x) s.ledger (exec (step cfg) x s).ledger) xs (genesis c) ∧
      ∀ a,
        (freeBalance c.ledger a : ℤ) +
            gain (step cfg) (fun x => a ∈ payers cfg x) (fun s => (freeBalance s.ledger a : ℤ)) xs
              (genesis c) ≤
            freeBalance (run (step cfg) xs (genesis c)).ledger a ∧
          (holding c.ledger a : ℤ) +
            gain (step cfg) (fun x => a ∈ payers cfg x) (fun s => (holding s.ledger a : ℤ)) xs
              (genesis c) ≤
            holding (run (step cfg) xs (genesis c)).ledger a := by
  have hderived : SubAccountsDerived cfg (genesis c).bankOfSiberia := fun _ _ h => nomatch h
  constructor
  · refine along_of_invariant (fun _ _ _ hs _ => step_derived hs) ?_ hderived (along_true xs _)
    intro x s s' hs _ h
    rw [exec_ok h]
    exact step_paidBy hs h
  · exact holdings_run_ge State.ledger (payers cfg) (fun _ _ _ => step_derived)
      (fun _ _ _ => step_paidBy) xs hderived

end Steps

/-! ### What is issued -/

/-- What a call of the central bank may issue. -/
def centralBankIssued : CentralBank.Call AccountId → ℕ
  | .mintToOperator _ amount | .requestCredit amount => amount
  | .issueGenesisGrant _ _ => CentralBank.genesisGrant
  | _ => 0

/-- What an extrinsic may issue. -/
def minted (x : Extrinsic AccountId) : ℕ :=
  match x.call with
  | .centralBank call => centralBankIssued call
  | .bankOfSiberia (.borrowWholesale amount) => amount
  | _ => 0

/-- A call of the central bank issues no more than it says. -/
theorem centralBank_issuance_le [CentralBank.ProxyModule AccountId L]
    {bank : CentralBank.Config AccountId} {ctx : CentralBank.Context AccountId}
    {call : CentralBank.Call AccountId} {c c' : CentralBank.State AccountId L}
    (h : CentralBank.dispatch bank ctx call c = .ok c') :
    totalIssuance c'.ledger ≤ totalIssuance c.ledger + centralBankIssued call := by
  have heffect := CentralBank.step_effect (x := (ctx, call)) h
  cases call with
  | mintToOperator operator amount =>
    rw [CentralBank.Emitted.ledger heffect]
    exact Currency.depositCreating_le _ _ _
  | issueGenesisGrant citizen regionCode =>
    rw [CentralBank.Emitted.ledger heffect]
    exact Currency.depositCreating_le _ _ _
  | requestCredit amount =>
    obtain ⟨who, hwho, -⟩ := CentralBank.requestCredit_eq_ok.mp h
    rw [CentralBank.kind_requestCredit hwho] at heffect
    rw [CentralBank.Lent.ledger heffect]
    exact Currency.depositCreating_le _ _ _
  -- what is destroyed is not issued
  | burn operator amount =>
    exact Currency.withdraw_issuance_le (CentralBank.Burned.ledger heffect)
  | repayCredit epochId amount =>
    obtain ⟨who, hwho, -⟩ := CentralBank.repayCredit_eq_ok.mp h
    rw [CentralBank.kind_repayCredit hwho] at heffect
    exact Currency.withdraw_issuance_le (CentralBank.Repaid.ledger heffect)
  -- the other calls leave the money supply as it is
  | _ => exact (CentralBank.Quiet.issuance heffect).le

section BankOfSiberia

variable [LockableCurrency AccountId L] [InertLocks AccountId L]

/-- A call of the Bank of Siberia issues no more than it borrows. -/
theorem bankOfSiberia_issuance_le {ctx : BankOfSiberia.Context AccountId}
    {call : BankOfSiberia.Call AccountId} {s s' : BankOfSiberia.State AccountId L}
    (h : BankOfSiberia.dispatch cfg ctx call s = .ok s') (hx : x.call = .bankOfSiberia call) :
    totalIssuance s'.ledger ≤ totalIssuance s.ledger + minted x := by
  unfold minted
  rw [hx]
  cases call with
  | openMasterAccount =>
    obtain ⟨_, _, _, _, rfl⟩ := BankOfSiberia.openMasterAccount_eq_ok.mp h
    exact Nat.le_refl _
  | openSubAccount accountType =>
    obtain ⟨_, _, _, _, rfl⟩ := BankOfSiberia.openSubAccount_eq_ok.mp h
    exact Nat.le_refl _
  | closeSubAccount subAccount =>
    obtain ⟨_, _, _, _, _, _, rfl⟩ := BankOfSiberia.closeSubAccount_eq_ok.mp h
    exact Nat.le_refl _
  | setBankServerKey key =>
    obtain ⟨_, rfl⟩ := BankOfSiberia.setBankServerKey_eq_ok.mp h
    exact Nat.le_refl _
  | requestLoan amount collateral =>
    obtain ⟨_, _, _, _, rfl⟩ := BankOfSiberia.requestLoan_eq_ok.mp h
    exact (InertLocks.setLock_issuance _ _ _ _).le
  | cancelLoanRequest loanId =>
    obtain ⟨_, _, _, _, _, _, rfl⟩ := BankOfSiberia.cancelLoanRequest_eq_ok.mp h
    exact (InertLocks.removeLock_issuance _ _ _).le
  | borrowWholesale amount =>
    obtain ⟨_, c, hc, rfl⟩ := BankOfSiberia.borrowWholesale_eq_ok.mp h
    change totalIssuance c.ledger ≤ _
    rw [(CentralBank.doRequestCredit_lent hc).ledger]
    exact Currency.depositCreating_le _ _ _
  | repayWholesale epochId amount =>
    obtain ⟨_, c, hc, rfl⟩ := BankOfSiberia.repayWholesale_eq_ok.mp h
    exact Currency.withdraw_issuance_le (CentralBank.doRepayCredit_repaid hc).ledger
  | payCredit subAccount amount =>
    obtain ⟨master, _, _, _, _, _, _, loanId, _, loan, _, _, l, hl, rfl⟩ :=
      BankOfSiberia.payCredit_eq_ok.mp h
    unfold BankOfSiberia.paid
    split
    · exact (InertLocks.removeLock_issuance l _ _).le.trans (Currency.transfer_issuance_le hl)
    · exact Currency.transfer_issuance_le hl
  -- the other calls move what there is
  | withdrawFromSavings subAccount amount =>
    obtain ⟨_, _, _, _, _, _, _, l, hl, rfl⟩ := BankOfSiberia.withdrawFromSavings_eq_ok.mp h
    exact Currency.transfer_issuance_le hl
  | createEscrow counterparty amount itemHash =>
    obtain ⟨_, _, _, _, _, l, hl, rfl⟩ := BankOfSiberia.createEscrow_eq_ok.mp h
    exact Currency.transfer_issuance_le hl
  | openTimeDeposit amount durationBlocks documentHash =>
    obtain ⟨_, _, _, _, _, l, hl, rfl⟩ := BankOfSiberia.openTimeDeposit_eq_ok.mp h
    exact Currency.transfer_issuance_le hl
  | fundTreasury amount =>
    obtain ⟨_, _, _, _, l, hl, rfl⟩ := BankOfSiberia.fundTreasury_eq_ok.mp h
    exact Currency.transfer_issuance_le hl
  | lockCollateral amount =>
    obtain ⟨_, _, _, l, hl, rfl⟩ := BankOfSiberia.lockCollateral_eq_ok.mp h
    exact Currency.transfer_issuance_le hl
  | repayCashAdvance amount =>
    obtain ⟨_, _, _, l, hl, rfl⟩ := BankOfSiberia.repayCashAdvance_eq_ok.mp h
    exact Currency.transfer_issuance_le hl
  | approveLoan loanId =>
    obtain ⟨_, _, _, _, _, _, l, hl, rfl⟩ := BankOfSiberia.approveLoan_eq_ok.mp h
    exact Currency.transfer_issuance_le hl
  | releaseEscrow escrowId =>
    obtain ⟨_, _, _, _, _, _, l, hl, rfl⟩ := BankOfSiberia.releaseEscrow_eq_ok.mp h
    exact Currency.transfer_issuance_le hl
  | refundEscrow escrowId =>
    obtain ⟨_, _, _, _, _, _, l, hl, rfl⟩ := BankOfSiberia.refundEscrow_eq_ok.mp h
    exact Currency.transfer_issuance_le hl
  | claimTimeDeposit depositId =>
    obtain ⟨_, _, _, _, _, _, _, _, l, hl, rfl⟩ := BankOfSiberia.claimTimeDeposit_eq_ok.mp h
    exact Currency.transfer_issuance_le hl
  | claimCashAdvance amount nonce bankSignature =>
    obtain ⟨_, _, _, _, l, hl, rfl⟩ := BankOfSiberia.claimCashAdvance_eq_ok.mp h
    exact Currency.transfer_issuance_le hl
  | unlockCollateral amount nonce bankSignature =>
    obtain ⟨_, _, _, _, _, _, l, hl, rfl⟩ := BankOfSiberia.unlockCollateral_eq_ok.mp h
    exact Currency.transfer_issuance_le hl

variable [CentralBank.ProxyModule AccountId L] {s s' : State AccountId L}

/-- **An accepted extrinsic issues no more than it says.** -/
theorem step_issuance_le (h : step cfg x s = .ok s') :
    totalIssuance s'.ledger ≤ totalIssuance s.ledger + minted x := by
  unfold step at h
  cases hcall : x.call with
  | orgRoles call =>
    rw [hcall] at h
    obtain ⟨o, -, h⟩ := mapError_bind_eq_ok.mp h
    rw [← pure_eq_ok.mp h]
    exact Nat.le_add_right _ _
  | centralBank call =>
    rw [hcall] at h
    obtain ⟨b, hb, rfl⟩ := onBankOfSiberia_eq_ok.mp h
    obtain ⟨c, hc, rfl⟩ := BankOfSiberia.onCentralBank_eq_ok.mp hb
    unfold minted
    rw [hcall]
    exact centralBank_issuance_le hc
  | bankOfSiberia call =>
    rw [hcall] at h
    obtain ⟨b, hb, rfl⟩ := onBankOfSiberia_eq_ok.mp h
    exact bankOfSiberia_issuance_le hb hcall
  | transfer dest amount er =>
    rw [hcall] at h
    obtain ⟨source, -, h⟩ := ensureSigned_bind_eq_ok.mp h
    obtain ⟨b, hb, rfl⟩ := onBankOfSiberia_eq_ok.mp h
    obtain ⟨l, hl, rfl⟩ := BankOfSiberia.transfer_eq_ok.mp hb
    exact (Currency.transfer_issuance_le hl).trans (Nat.le_add_right _ _)

/-- **Where money comes from.** After every run no more has been issued than what the accepted
mints, grants and credits say. -/
theorem issuance_accounted (cfg : BankOfSiberia.Config AccountId)
    (xs : List (Extrinsic AccountId)) (s : State AccountId L) :
    totalIssuance (run (step cfg) xs s).ledger ≤
      totalIssuance s.ledger + tally (step cfg) (fun _ x => minted x) xs s :=
  run_le_add_tally (fun s => totalIssuance s.ledger) (fun _ x => minted x)
    (fun _ _ _ h => step_issuance_le h) xs s

end BankOfSiberia

/-! ### Who issues -/

section Issuance

variable {t : Traced AccountId L}

omit [Currency AccountId L] in
/-- Where the officers are legitimate, whoever passes as one is. -/
theorem byOfficer_of_passes {orgId : ℕ} (ht : Legitimate t) (horg : orgId ∈ bankingOrgs)
    (h : ensureOrgOfficer orgId t.state.orgRoles x.authority.origin = true) :
    ByOfficer orgId t x := by
  unfold ByOfficer
  cases horigin : x.authority.origin with
  | root => trivial
  | none =>
    rw [horigin] at h
    cases h
  | signed who =>
    rw [horigin] at h
    exact ht orgId horg who h

section CentralBank

variable [CentralBank.ProxyModule AccountId L]

/-- A call of the central bank that issues is by its officers or a licensed operator. -/
theorem centralBank_issues {call : CentralBank.Call AccountId} (ht : Legitimate t)
    (hcall : x.call = .centralBank call) {c : CentralBank.State AccountId L}
    (h : CentralBank.dispatch cfg.centralBank (x.centralBankContext t.state.orgRoles) call
      t.state.bankOfSiberia.centralBank = .ok c)
    (hlt : totalIssuance t.state.ledger < totalIssuance c.ledger) : Issues cfg t x := by
  have hpasses : ensureOrgOfficer cbOrgId t.state.orgRoles x.authority.origin = true →
      ByOfficer cbOrgId t x := byOfficer_of_passes ht (by decide)
  have hle := centralBank_issuance_le h
  unfold Issues
  rw [hcall]
  cases call with
  | mintToOperator operator amount =>
    obtain ⟨hofficer, -, hlicensed, -, rfl⟩ := CentralBank.mintToOperator_eq_ok.mp h
    exact ⟨hpasses hofficer, hlicensed⟩
  | issueGenesisGrant citizen regionCode =>
    obtain ⟨hofficer, -, -, rfl⟩ := CentralBank.issueGenesisGrant_eq_ok.mp h
    exact hpasses hofficer
  | requestCredit amount =>
    obtain ⟨who, hwho, hcredit⟩ := CentralBank.requestCredit_eq_ok.mp h
    exact ⟨who, Origin.mem_signers hwho, (CentralBank.doRequestCredit_frame hcredit).2.1⟩
  -- the other calls issue nothing
  | _ => exact absurd hle (Nat.not_le.mpr hlt)

/-- A call of the central bank that licenses an operator is by its officers. -/
theorem centralBank_grants {call : CentralBank.Call AccountId} (ht : Legitimate t)
    (hcall : x.call = .centralBank call) {c : CentralBank.State AccountId L}
    (h : CentralBank.dispatch cfg.centralBank (x.centralBankContext t.state.orgRoles) call
      t.state.bankOfSiberia.centralBank = .ok c) {operator : AccountId}
    (hafter : c.isLicensed operator = true) (hbefore : t.state.isLicensed operator = false) :
    Grants operator t x := by
  have hkept : c.licensedOperators ≠ t.state.bankOfSiberia.centralBank.licensedOperators := by
    intro he
    unfold CentralBank.State.isLicensed at hafter
    rw [he] at hafter
    exact Bool.eq_false_iff.mp hbefore hafter
  cases call with
  | grantOperatorLicense granted =>
    obtain ⟨hofficer, -, rfl⟩ := CentralBank.grantOperatorLicense_eq_ok.mp h
    unfold CentralBank.State.isLicensed at hafter
    -- only the named operator gains a licence
    rcases StorageMap.getD_insert_true.mp hafter with rfl | hbefore'
    · exact ⟨hcall, byOfficer_of_passes ht (by decide) hofficer⟩
    · exact absurd hbefore' (Bool.eq_false_iff.mp hbefore)
  | revokeOperatorLicense revoked =>
    obtain ⟨-, -, rfl⟩ := CentralBank.revokeOperatorLicense_eq_ok.mp h
    unfold CentralBank.State.isLicensed at hafter
    rw [StorageMap.getD_insert] at hafter
    split at hafter
    · cases hafter
    · exact absurd hafter (Bool.eq_false_iff.mp hbefore)
  | setBaseRate newRateBps =>
    obtain ⟨-, -, rfl⟩ := CentralBank.setBaseRate_eq_ok.mp h
    exact absurd rfl hkept
  | transitionEpoch =>
    rw [(CentralBank.transitionEpoch_frame h).2] at hkept
    exact absurd rfl hkept
  | mintToOperator operator amount =>
    obtain ⟨-, -, -, -, rfl⟩ := CentralBank.mintToOperator_eq_ok.mp h
    exact absurd rfl hkept
  | issueGenesisGrant citizen regionCode =>
    obtain ⟨-, -, -, rfl⟩ := CentralBank.issueGenesisGrant_eq_ok.mp h
    exact absurd rfl hkept
  | burn operator amount =>
    obtain ⟨-, -, -, -, ledger, -, -, rfl⟩ := CentralBank.burn_eq_ok.mp h
    exact absurd rfl hkept
  | requestCredit amount =>
    obtain ⟨who, -, hcredit⟩ := CentralBank.requestCredit_eq_ok.mp h
    rw [(CentralBank.doRequestCredit_frame hcredit).2.2.2] at hkept
    exact absurd rfl hkept
  | repayCredit epochId amount =>
    obtain ⟨who, -, hcredit⟩ := CentralBank.repayCredit_eq_ok.mp h
    obtain ⟨-, -, ledger, -, hc⟩ := CentralBank.doRepayCredit_frame hcredit
    rw [hc] at hkept
    exact absurd rfl hkept
  | triggerGenesisDistribution =>
    exact absurd (CentralBank.triggerGenesisDistribution_distributed h).licences hkept

end CentralBank

section BankOfSiberia

variable [LockableCurrency AccountId L] {b : BankOfSiberia.State AccountId L}

/-- A call of the Bank of Siberia that issues is a credit its officers take for its treasury. -/
theorem bankOfSiberia_issues [InertLocks AccountId L] {call : BankOfSiberia.Call AccountId}
    (ht : Legitimate t) (hcall : x.call = .bankOfSiberia call)
    (h : BankOfSiberia.dispatch cfg (x.bankOfSiberiaContext t.state.orgRoles) call
      t.state.bankOfSiberia = .ok b)
    (hlt : totalIssuance t.state.ledger < totalIssuance b.ledger) : Issues cfg t x := by
  have hle := bankOfSiberia_issuance_le h hcall
  unfold minted at hle
  unfold Issues
  rw [hcall] at hle ⊢
  cases call with
  | borrowWholesale amount =>
    obtain ⟨hofficer, c, hc, rfl⟩ := BankOfSiberia.borrowWholesale_eq_ok.mp h
    exact ⟨byOfficer_of_passes ht (by decide) hofficer,
      (CentralBank.doRequestCredit_frame hc).2.1⟩
  | _ => exact absurd hle (Nat.not_le.mpr hlt)

/-- No call of the Bank of Siberia licenses an operator. -/
theorem bankOfSiberia_licences {ctx : BankOfSiberia.Context AccountId}
    {call : BankOfSiberia.Call AccountId} {s : BankOfSiberia.State AccountId L}
    (h : BankOfSiberia.step cfg (ctx, call) s = .ok b) :
    b.centralBank.licensedOperators = s.centralBank.licensedOperators := by
  by_cases hpool : call.records = some .creditPool
  · cases call with
    | borrowWholesale amount =>
      obtain ⟨_, c, hc, rfl⟩ := BankOfSiberia.borrowWholesale_eq_ok.mp h
      show c.licensedOperators = s.centralBank.licensedOperators
      rw [(CentralBank.doRequestCredit_frame hc).2.2.2]
    | repayWholesale epochId amount =>
      obtain ⟨_, c, hc, rfl⟩ := BankOfSiberia.repayWholesale_eq_ok.mp h
      obtain ⟨_, _, _, _, hframe⟩ := CentralBank.doRepayCredit_frame hc
      show c.licensedOperators = s.centralBank.licensedOperators
      rw [hframe]
    | _ => cases hpool
  · have hsame : BankOfSiberia.Records.creditPool.Same s b := BankOfSiberia.step_frame h hpool
    change b.centralBank = { s.centralBank with ledger := b.ledger } at hsame
    rw [hsame]

end BankOfSiberia

section Runs

variable [CentralBank.ProxyModule AccountId L] [LockableCurrency AccountId L]
  [InertLocks AccountId L]

/-- What an accepted extrinsic that issues currency or licenses an operator has met. -/
def Authorised (cfg : BankOfSiberia.Config AccountId) (t : Traced AccountId L)
    (x : Extrinsic AccountId) : Prop :=
  (totalIssuance t.state.ledger < totalIssuance (exec (tracedStep cfg) x t).state.ledger →
      Issues cfg t x) ∧
    ∀ operator, (exec (tracedStep cfg) x t).state.isLicensed operator = true →
      t.state.isLicensed operator = false → Grants operator t x

/-- Where the officers are legitimate, what issues and what licenses is authorised. -/
theorem step_authorised {t t' : Traced AccountId L} (ht : Legitimate t)
    (h : tracedStep cfg x t = .ok t') : Authorised cfg t x := by
  unfold Authorised
  rw [exec_ok h]
  obtain ⟨s, hs, rfl⟩ := tracedStep_eq_ok.mp h
  have hkept : s.bankOfSiberia = t.state.bankOfSiberia →
      (totalIssuance t.state.ledger < totalIssuance s.ledger → Issues cfg t x) ∧
        ∀ operator, s.isLicensed operator = true → t.state.isLicensed operator = false →
          Grants operator t x := by
    intro he
    refine ⟨fun hlt => absurd (show totalIssuance t.state.ledger < totalIssuance s.ledger from hlt)
      ?_, ?_⟩
    · unfold State.ledger
      rw [he]
      exact Nat.lt_irrefl _
    · intro operator hafter hbefore
      unfold State.isLicensed at hafter
      rw [he] at hafter
      exact absurd hafter (Bool.eq_false_iff.mp hbefore)
  unfold step at hs
  cases hcall : x.call with
  | orgRoles call =>
    rw [hcall] at hs
    obtain ⟨o, -, hs⟩ := mapError_bind_eq_ok.mp hs
    rw [← pure_eq_ok.mp hs] at hkept ⊢
    exact hkept rfl
  | centralBank call =>
    rw [hcall] at hs
    obtain ⟨b, hb, rfl⟩ := onBankOfSiberia_eq_ok.mp hs
    obtain ⟨c, hc, rfl⟩ := BankOfSiberia.onCentralBank_eq_ok.mp hb
    exact ⟨centralBank_issues ht hcall hc, fun _ => centralBank_grants ht hcall hc⟩
  | bankOfSiberia call =>
    rw [hcall] at hs
    obtain ⟨b, hb, rfl⟩ := onBankOfSiberia_eq_ok.mp hs
    refine ⟨bankOfSiberia_issues ht hcall hb, ?_⟩
    intro operator hafter hbefore
    change b.centralBank.licensedOperators.getD operator false = true at hafter
    rw [bankOfSiberia_licences hb] at hafter
    exact absurd hafter (Bool.eq_false_iff.mp hbefore)
  | transfer dest amount er =>
    rw [hcall] at hs
    obtain ⟨source, -, hs⟩ := ensureSigned_bind_eq_ok.mp hs
    obtain ⟨b, hb, rfl⟩ := onBankOfSiberia_eq_ok.mp hs
    obtain ⟨l, hl, rfl⟩ := BankOfSiberia.transfer_eq_ok.mp hb
    exact ⟨fun hlt => absurd hlt (Nat.not_lt.mpr (Currency.transfer_issuance_le hl)),
      fun _ hafter hbefore => absurd hafter (Bool.eq_false_iff.mp hbefore)⟩

/-- **Who prints money.** Along every run in which root creates the organisations of the two banks,
an accepted extrinsic that raises the total issuance is a mint or a grant by officers of the central
bank, a credit for a licensed signer, or a credit that officers of the Bank of Siberia take for its
licensed treasury; and an operator gets a licence from officers of the central bank only. All these
officers hold keys that go back to root. -/
theorem issuance_by_officers (cfg : BankOfSiberia.Config AccountId)
    (b : BankOfSiberia.State AccountId L) (xs : List (Extrinsic AccountId))
    (hroot : Along (tracedStep cfg) CreatedByRoot xs (tracedGenesis b)) :
    Along (tracedStep cfg) (Authorised cfg) xs (tracedGenesis b) := by
  have hlegitimate : Throughout (tracedStep cfg) Legitimate xs (tracedGenesis b) :=
    (throughout_iff_along_of_step (fun _ _ _ ht h => legitimate_step_iff ht h)
      (tracedGenesis_legitimate b)).mpr hroot
  have hstep : ∀ x (t t' : Traced AccountId L), Legitimate t → tracedStep cfg x t = .ok t' →
      Authorised cfg t x := fun _ _ _ => step_authorised
  exact Throughout.along hstep hlegitimate

end Runs

end Issuance

/-- Root has the organisations of the banks created; an officer of the first licenses an account and
mints to it, and the account borrows. -/
def rootedIssuance : List (Extrinsic ℕ) :=
  rootedOrganisations ++
    [extrinsic (.signed 6) (.centralBank (.grantOperatorLicense 7)),
      extrinsic (.signed 6) (.centralBank (.mintToOperator 7 CentralBank.unit)),
      extrinsic (.signed 7) (.centralBank (.requestCredit CentralBank.unit))]

/-- Both issues are authorised. -/
theorem issuance_by_officers_rooted :
    Along (tracedStep bankOfSiberia) (Authorised bankOfSiberia) rootedIssuance
        (tracedGenesis bankGenesis) ∧
      totalIssuance (run (tracedStep bankOfSiberia) rootedIssuance
        (tracedGenesis bankGenesis)).state.ledger =
          totalIssuance bankGenesis.ledger + 2 * CentralBank.unit := by
  have hroot : Along (tracedStep bankOfSiberia) CreatedByRoot rootedIssuance
      (tracedGenesis bankGenesis) := by decide +kernel
  exact ⟨issuance_by_officers bankOfSiberia bankGenesis rootedIssuance hroot, by decide +kernel⟩

/-- Two units are minted and borrowed, and no more. -/
theorem issuance_accounted_rooted :
    let s := (tracedGenesis bankGenesis).state
    totalIssuance (run (step bankOfSiberia) rootedIssuance s).ledger ≤
        totalIssuance bankGenesis.ledger + 2 * CentralBank.unit ∧
      accepted (step bankOfSiberia) (fun _ => True) rootedIssuance s = rootedIssuance.length := by
  intro s
  have hminted : tally (step bankOfSiberia) (fun _ x => minted x) rootedIssuance s =
      2 * CentralBank.unit := by
    decide +kernel
  have hissued := issuance_accounted bankOfSiberia rootedIssuance s
  rw [hminted] at hissued
  exact ⟨hissued, by decide +kernel⟩

end Runtime
