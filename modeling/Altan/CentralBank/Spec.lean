import Altan.CentralBank.Model
import Altan.Foundation.Balances

/-!
# What the central bank's calls do

Each dispatchable, when it succeeds, has passed its checks and changed the storage in one way.
By what it does to the money supply a successful call is of one of five kinds: it emits, burns,
lends, takes back a debt, or does none of these.

## Main definitions

* `State.creditPool`: the counters of the credit pool
* `Kind`, `kind`: what a call does to the money supply
* `Quiet`, `Emitted`, `Burned`, `Lent`, `Repaid`: the effect of each kind

## Main results

* `step_effect`: a successful call has the effect of its kind
* `createAndFund_funds`: what one creation and transfer needs and leaves
* `distribution_funded`: an accepted distribution finds the share of a region in its source
-/

open Bounded Dispatch

namespace CentralBank

variable {AccountId L : Type} {cfg : Config AccountId} {ctx : Context AccountId}
  {s s' : State AccountId L}

theorem ensureBankingOrigin_bind_eq_ok {α : Type} {k : Unit → Result α} {a : α} :
    (ensureBankingOrigin ctx >>= k) = .ok a ↔ ctx.bankingOrigin ctx.origin = true ∧ k () = .ok a :=
  ensure_bind_eq_ok

/-- A new key rate changes the current epoch's rate and nothing else. -/
theorem updateDynamicRate_eq_ok : updateDynamicRate cfg s = .ok s' ↔
    ∃ rate, computeDynamicRate cfg s.totalOutstanding = some rate ∧
      ∃ epoch, s.epochs.get s.currentEpochId = some epoch ∧
        s' = { s with
          epochs := s.epochs.insert s.currentEpochId { epoch with keyRate := rate } } := by
  simp only [updateDynamicRate, applyDynamicRateToEpoch, required_bind_eq_ok, pure_eq_ok,
    eq_comm (a := s')]

theorem updateDynamicRate_frame (h : updateDynamicRate cfg s = .ok s') :
    s' = { s with epochs := s'.epochs } := by
  obtain ⟨rate, -, epoch, -, rfl⟩ := updateDynamicRate_eq_ok.mp h
  rfl

variable [DecidableEq AccountId] {operator citizen who : AccountId}
  {amount epochId regionCode newRateBps : ℕ}

theorem grantOperatorLicense_eq_ok : grantOperatorLicense ctx operator s = .ok s' ↔
    ctx.bankingOrigin ctx.origin = true ∧ s.isLicensed operator = false ∧
      s' = { s with licensedOperators := s.licensedOperators.insert operator true } := by
  simp only [grantOperatorLicense, ensureBankingOrigin_bind_eq_ok, ensure_bind_eq_ok, pure_eq_ok,
    eq_comm (a := s')]

theorem revokeOperatorLicense_eq_ok : revokeOperatorLicense ctx operator s = .ok s' ↔
    ctx.bankingOrigin ctx.origin = true ∧ s.isLicensed operator = true ∧
      s' = { s with licensedOperators := s.licensedOperators.insert operator false } := by
  simp only [revokeOperatorLicense, ensureBankingOrigin_bind_eq_ok, ensure_bind_eq_ok, pure_eq_ok,
    eq_comm (a := s')]

omit [DecidableEq AccountId] in
theorem setBaseRate_eq_ok : setBaseRate cfg ctx newRateBps s = .ok s' ↔
    ctx.bankingOrigin ctx.origin = true ∧ newRateBps ≤ cfg.maxProtectiveRate ∧
      s' = { s with baseKeyRate := newRateBps } := by
  simp only [setBaseRate, ensureBankingOrigin_bind_eq_ok, ensure_bind_eq_ok, pure_eq_ok,
    eq_comm (a := s')]

omit [DecidableEq AccountId] in
/-- An epoch transition opens one epoch and changes nothing else. -/
theorem transitionEpoch_frame (h : transitionEpoch cfg ctx s = .ok s') :
    ctx.bankingOrigin ctx.origin = true ∧
      s' = { s with epochs := s'.epochs, currentEpochId := s'.currentEpochId } := by
  simp only [transitionEpoch, doEpochTransition, ensureBankingOrigin_bind_eq_ok,
    required_bind_eq_ok, pure_eq_ok] at h
  obtain ⟨horigin, _, -, rfl⟩ := h
  exact ⟨horigin, rfl⟩

section Emission

variable [Currency AccountId L]

theorem mintToOperator_eq_ok : mintToOperator ctx operator amount s = .ok s' ↔
    ctx.bankingOrigin ctx.origin = true ∧ 0 < amount ∧ s.isLicensed operator = true ∧
      s.totalEmitted + amount ≤ u128Max ∧
        s' = { s with
          ledger := Currency.depositCreating s.ledger operator amount
          nextTrancheId := saturatingAdd u32Max s.nextTrancheId 1
          totalEmitted := s.totalEmitted + amount } := by
  simp only [mintToOperator, ensureBankingOrigin_bind_eq_ok, ensure_bind_eq_ok,
    required_bind_eq_ok, checkedAdd_eq_some, pure_eq_ok, and_assoc, exists_and_left,
    exists_eq_left, eq_comm (a := s')]

omit [DecidableEq AccountId] in
theorem issueGenesisGrant_eq_ok : issueGenesisGrant ctx citizen regionCode s = .ok s' ↔
    ctx.bankingOrigin ctx.origin = true ∧ s.pensionFunds.containsKey regionCode = true ∧
      s.totalEmitted + genesisGrant ≤ u128Max ∧
        s' = { s with
          ledger := Currency.depositCreating s.ledger citizen genesisGrant
          totalEmitted := s.totalEmitted + genesisGrant } := by
  simp only [issueGenesisGrant, ensureBankingOrigin_bind_eq_ok, ensure_bind_eq_ok,
    required_bind_eq_ok, checkedAdd_eq_some, pure_eq_ok, and_assoc, exists_and_left,
    exists_eq_left, eq_comm (a := s')]

theorem burn_eq_ok : burn ctx operator amount s = .ok s' ↔
    ctx.bankingOrigin ctx.origin = true ∧ amount ≠ 0 ∧ s.isLicensed operator = true ∧
      amount ≤ Ledger.freeBalance s.ledger operator ∧
        ∃ ledger, Currency.withdraw s.ledger operator amount .keepAlive = .ok ledger ∧
          s.totalBurned + amount ≤ u128Max ∧
            s' = { s with ledger := ledger, totalBurned := s.totalBurned + amount } := by
  simp only [burn, ensureBankingOrigin_bind_eq_ok, ensure_bind_eq_ok, mapError_bind_eq_ok,
    required_bind_eq_ok, checkedAdd_eq_some, pure_eq_ok, and_assoc, exists_and_left,
    exists_eq_left, eq_comm (a := s')]

/-- What a loan from the credit pool went through, and what it left behind. -/
theorem doRequestCredit_frame (h : doRequestCredit cfg operator amount s = .ok s') :
    0 < amount ∧ s.isLicensed operator = true ∧ amount ≤ s.genesisCreditAvailable ∧
      s' = { s with
        genesisCreditAvailable := s.genesisCreditAvailable - amount
        totalOutstanding := saturatingAdd u128Max s.totalOutstanding amount
        ledger := Currency.depositCreating s.ledger operator amount
        epochs := s'.epochs
        operatorDebt := s.operatorDebt.insert (operator, s.currentEpochId)
          (saturatingAdd u128Max (s.debt operator s.currentEpochId) amount)
        totalOperatorDebt := s.totalOperatorDebt.insert operator
          (saturatingAdd u128Max (s.totalDebt operator) amount) } := by
  simp only [doRequestCredit, ensure_bind_eq_ok] at h
  obtain ⟨hpos, hlicensed, havailable, -, hrate⟩ := h
  exact ⟨hpos, hlicensed, havailable, updateDynamicRate_frame hrate⟩

/-- What a repayment went through, and what it left behind. -/
theorem doRepayCredit_frame (h : doRepayCredit cfg operator epochId amount s = .ok s') :
    0 < amount ∧ amount ≤ s.debt operator epochId ∧
      ∃ ledger, Currency.withdraw s.ledger operator amount .keepAlive = .ok ledger ∧
        s' = { s with
          ledger := ledger
          operatorDebt := s.operatorDebt.insert (operator, epochId)
            (s.debt operator epochId - amount)
          epochs := s'.epochs
          totalOperatorDebt := s.totalOperatorDebt.insert operator (s.totalDebt operator - amount)
          genesisCreditAvailable :=
            min (saturatingAdd u128Max s.genesisCreditAvailable amount) cfg.creditEpochLimit
          totalOutstanding := s.totalOutstanding - amount } := by
  simp only [doRepayCredit, ensure_bind_eq_ok, mapError_bind_eq_ok] at h
  obtain ⟨hpos, -, hdebt, -, ledger, hledger, hrate⟩ := h
  exact ⟨hpos, hdebt, ledger, hledger, updateDynamicRate_frame hrate⟩

theorem requestCredit_eq_ok : requestCredit cfg ctx amount s = .ok s' ↔
    ∃ who, ctx.origin = .signed who ∧ doRequestCredit cfg who amount s = .ok s' :=
  ensureSigned_bind_eq_ok

theorem repayCredit_eq_ok : repayCredit cfg ctx epochId amount s = .ok s' ↔
    ∃ who, ctx.origin = .signed who ∧ doRepayCredit cfg who epochId amount s = .ok s' :=
  ensureSigned_bind_eq_ok

end Emission

/-! ### The effects on the money supply -/

/-- The counters of the credit pool. -/
structure CreditPool (AccountId : Type) where
  available : ℕ
  outstanding : ℕ
  debts : StorageMap (AccountId × ℕ) ℕ
  totalDebts : StorageMap AccountId ℕ

/-- The credit pool in the storage. -/
def State.creditPool (s : State AccountId L) : CreditPool AccountId where
  available := s.genesisCreditAvailable
  outstanding := s.totalOutstanding
  debts := s.operatorDebt
  totalDebts := s.totalOperatorDebt

/-- What a call does to the money supply. -/
inductive Kind (AccountId : Type)
  | quiet
  | emits (receiver : AccountId) (amount : ℕ)
  | burns (operator : AccountId) (amount : ℕ)
  | lends (operator : AccountId) (amount : ℕ)
  | takesBack (operator : AccountId) (epochId amount : ℕ)
  deriving DecidableEq, Repr

/-- The kind of an extrinsic. -/
def kind : Extrinsic AccountId → Kind AccountId
  | (_, .mintToOperator operator amount) => .emits operator amount
  | (_, .issueGenesisGrant citizen _) => .emits citizen genesisGrant
  | (_, .burn operator amount) => .burns operator amount
  | (ctx, .requestCredit amount) =>
    match ctx.origin with
    | .signed who => .lends who amount
    | _ => .quiet
  | (ctx, .repayCredit epochId amount) =>
    match ctx.origin with
    | .signed who => .takesBack who epochId amount
    | _ => .quiet
  | _ => .quiet

omit [DecidableEq AccountId] in
theorem kind_requestCredit (h : ctx.origin = .signed who) :
    kind (ctx, .requestCredit amount) = .lends who amount := by
  simp only [kind]
  rw [h]

omit [DecidableEq AccountId] in
theorem kind_repayCredit (h : ctx.origin = .signed who) :
    kind (ctx, .repayCredit epochId amount) = .takesBack who epochId amount := by
  simp only [kind]
  rw [h]

section Effects

variable [Currency AccountId L]

/-- The money supply stays as it is. -/
structure Quiet (s s' : State AccountId L) : Prop where
  creditPool : s'.creditPool = s.creditPool
  totalEmitted : s'.totalEmitted = s.totalEmitted
  totalBurned : s'.totalBurned = s.totalBurned
  issuance : Ledger.totalIssuance s'.ledger = Ledger.totalIssuance s.ledger

/-- The amount is created on the receiver and counted as emitted. -/
structure Emitted (s s' : State AccountId L) (receiver : AccountId) (amount : ℕ) : Prop where
  pos : 0 < amount
  creditPool : s'.creditPool = s.creditPool
  totalEmitted : s'.totalEmitted = s.totalEmitted + amount
  totalBurned : s'.totalBurned = s.totalBurned
  ledger : s'.ledger = Currency.depositCreating s.ledger receiver amount

/-- The amount is destroyed on the operator and counted as burned. -/
structure Burned (s s' : State AccountId L) (operator : AccountId) (amount : ℕ) : Prop where
  creditPool : s'.creditPool = s.creditPool
  totalEmitted : s'.totalEmitted = s.totalEmitted
  totalBurned : s'.totalBurned = s.totalBurned + amount
  ledger : Currency.withdraw s.ledger operator amount .keepAlive = .ok s'.ledger

/-- The amount is created on the operator and owed to the credit pool. -/
structure Lent (s s' : State AccountId L) (operator : AccountId) (amount : ℕ) : Prop where
  pos : 0 < amount
  available : amount ≤ s.genesisCreditAvailable
  creditPool : s'.creditPool =
    { available := s.genesisCreditAvailable - amount
      outstanding := saturatingAdd u128Max s.totalOutstanding amount
      debts := s.operatorDebt.insert (operator, s.currentEpochId)
        (saturatingAdd u128Max (s.debt operator s.currentEpochId) amount)
      totalDebts := s.totalOperatorDebt.insert operator
        (saturatingAdd u128Max (s.totalDebt operator) amount) }
  totalEmitted : s'.totalEmitted = s.totalEmitted
  totalBurned : s'.totalBurned = s.totalBurned
  ledger : s'.ledger = Currency.depositCreating s.ledger operator amount

/-- The amount is destroyed on the operator and no longer owed. -/
structure Repaid (cfg : Config AccountId) (s s' : State AccountId L) (operator : AccountId)
    (epochId amount : ℕ) : Prop where
  owed : amount ≤ s.debt operator epochId
  creditPool : s'.creditPool =
    { available := min (saturatingAdd u128Max s.genesisCreditAvailable amount) cfg.creditEpochLimit
      outstanding := s.totalOutstanding - amount
      debts := s.operatorDebt.insert (operator, epochId) (s.debt operator epochId - amount)
      totalDebts := s.totalOperatorDebt.insert operator (s.totalDebt operator - amount) }
  totalEmitted : s'.totalEmitted = s.totalEmitted
  totalBurned : s'.totalBurned = s.totalBurned
  ledger : Currency.withdraw s.ledger operator amount .keepAlive = .ok s'.ledger

/-- The effect of each kind. -/
def Effect (cfg : Config AccountId) (s s' : State AccountId L) : Kind AccountId → Prop
  | .quiet => Quiet s s'
  | .emits receiver amount => Emitted s s' receiver amount
  | .burns operator amount => Burned s s' operator amount
  | .lends operator amount => Lent s s' operator amount
  | .takesBack operator epochId amount => Repaid cfg s s' operator epochId amount

omit [DecidableEq AccountId] in
theorem Quiet.refl (s : State AccountId L) : Quiet s s := ⟨rfl, rfl, rfl, rfl⟩

omit [DecidableEq AccountId] in
theorem Quiet.trans {s₁ s₂ s₃ : State AccountId L} (h : Quiet s₁ s₂) (h' : Quiet s₂ s₃) :
    Quiet s₁ s₃ :=
  ⟨h'.creditPool.trans h.creditPool, h'.totalEmitted.trans h.totalEmitted,
    h'.totalBurned.trans h.totalBurned, h'.issuance.trans h.issuance⟩

theorem doRequestCredit_lent (h : doRequestCredit cfg operator amount s = .ok s') :
    Lent s s' operator amount := by
  obtain ⟨hpos, -, havailable, hs'⟩ := doRequestCredit_frame h
  rw [hs']
  exact ⟨hpos, havailable, rfl, rfl, rfl, rfl⟩

theorem doRepayCredit_repaid (h : doRepayCredit cfg operator epochId amount s = .ok s') :
    Repaid cfg s s' operator epochId amount := by
  obtain ⟨-, hdebt, ledger, hledger, hs'⟩ := doRepayCredit_frame h
  rw [hs']
  exact ⟨hdebt, rfl, rfl, rfl, hledger⟩

variable [ProxyModule AccountId L] {index : ℕ}

theorem createPure_eq_ok : createPure cfg ctx index s = .ok s' ↔
    ∃ who, ctx.origin = .signed who ∧
      ∃ r, ProxyModule.createPure (computePure cfg ctx who index) who
          (cfg.proxyDepositBase + cfg.proxyDepositFactor) s.proxies s.ledger = .ok r ∧
        s' = { s with
          ledger := r.2
          proxies := r.1 } := by
  simp only [createPure, bind_eq_ok, ensureSigned_eq_ok, pure_eq_ok, eq_comm (a := s')]

theorem createAndFund_eq_ok : createAndFund cfg ctx who amount index s = .ok s' ↔
    ∃ s₁, createPure cfg ctx index s = .ok s₁ ∧
      ∃ ledger, Currency.transfer s₁.ledger cfg.centralBankAccountId
          (computePure cfg ctx who index) amount .keepAlive = .ok ledger ∧
        s' = { s₁ with ledger := ledger } := by
  simp only [createAndFund, bind_eq_ok, liftCurrency_eq_ok, pure_eq_ok, eq_comm (a := s')]

theorem createAndFund_quiet (h : createAndFund cfg ctx who amount index s = .ok s') :
    Quiet s s' := by
  obtain ⟨s₁, hs₁, ledger, hledger, rfl⟩ := createAndFund_eq_ok.mp h
  obtain ⟨_, _, r, hr, rfl⟩ := createPure_eq_ok.mp hs₁
  -- a deposit is reserved, and a transfer keeps its source alive: nothing is lost as dust
  exact ⟨rfl, rfl, rfl, (Currency.transfer_keepAlive_issuance hledger).trans
    (ProxyModule.createPure_reserved _ _ _ _ _ r hr).issuance⟩

theorem distributeRegion_eq_ok : distributeRegion cfg ctx who regionCode index s = .ok s' ↔
    ∃ s₁, createAndFund cfg ctx who regionalPerRegion index s = .ok s₁ ∧
      ∃ s₂, createAndFund cfg ctx who reservePerRegion (index + 1)
          { s₁ with
            regionalTreasuries :=
              s₁.regionalTreasuries.insert regionCode (computePure cfg ctx who index) } = .ok s₂ ∧
        s' = { s₂ with
          pensionFunds :=
            s₂.pensionFunds.insert regionCode (computePure cfg ctx who (index + 1)) } := by
  simp only [distributeRegion, bind_eq_ok, pure_eq_ok, eq_comm (a := s')]

theorem distributeRegion_quiet (h : distributeRegion cfg ctx who regionCode index s = .ok s') :
    Quiet s s' := by
  obtain ⟨s₁, h₁, s₂, h₂, rfl⟩ := distributeRegion_eq_ok.mp h
  have hq₁ := createAndFund_quiet h₁
  have hq₂ := createAndFund_quiet h₂
  exact hq₁.trans ⟨hq₂.creditPool, hq₂.totalEmitted, hq₂.totalBurned, hq₂.issuance⟩

theorem distributeRegions_quiet {codes : List ℕ}
    (h : distributeRegions cfg ctx who codes index s = .ok s') : Quiet s s' := by
  -- the induction is on the codes that are left
  induction codes generalizing index s with
  | nil =>
    rw [distributeRegions, pure_eq_ok] at h
    rw [h]
    exact Quiet.refl s'
  | cons code codes ih =>
    rw [distributeRegions, bind_eq_ok] at h
    obtain ⟨s₁, h₁, hrest⟩ := h
    exact (distributeRegion_quiet h₁).trans (ih hrest)

theorem triggerGenesisDistribution_eq_ok : triggerGenesisDistribution cfg ctx s = .ok s' ↔
    ctx.origin = .signed cfg.creatorAccount ∧ s.genesisDistributed = false ∧
      ∃ s₁, createAndFund cfg ctx cfg.creatorAccount totalConfederation 0
          { s with genesisDistributed := true } = .ok s₁ ∧
        distributeRegions cfg ctx cfg.creatorAccount regionCodes83 1
          { s₁ with
            confederationTreasury := some (computePure cfg ctx cfg.creatorAccount 0) } =
              .ok s' := by
  simp only [triggerGenesisDistribution, ensureSigned_bind_eq_ok, ensure_bind_eq_ok]
  simp only [bind_eq_ok]
  constructor
  · rintro ⟨who, horigin, rfl, hrest⟩
    exact ⟨horigin, hrest⟩
  · rintro ⟨horigin, hrest⟩
    exact ⟨_, horigin, rfl, hrest⟩

theorem triggerGenesisDistribution_quiet (h : triggerGenesisDistribution cfg ctx s = .ok s') :
    Quiet s s' := by
  obtain ⟨-, -, s₁, h₁, hrest⟩ := triggerGenesisDistribution_eq_ok.mp h
  have hq₁ := createAndFund_quiet h₁
  have hq := distributeRegions_quiet hrest
  exact Quiet.trans ⟨hq₁.creditPool, hq₁.totalEmitted, hq₁.totalBurned, hq₁.issuance⟩
    ⟨hq.creditPool, hq.totalEmitted, hq.totalBurned, hq.issuance⟩

/-- **A successful call has the effect of its kind.** -/
theorem step_effect {x : Extrinsic AccountId} (h : step cfg x s = .ok s') :
    Effect cfg s s' (kind x) := by
  obtain ⟨ctx, call⟩ := x
  unfold step at h
  cases call with
  | grantOperatorLicense operator =>
    obtain ⟨-, -, rfl⟩ := grantOperatorLicense_eq_ok.mp h
    exact ⟨rfl, rfl, rfl, rfl⟩
  | revokeOperatorLicense operator =>
    obtain ⟨-, -, rfl⟩ := revokeOperatorLicense_eq_ok.mp h
    exact ⟨rfl, rfl, rfl, rfl⟩
  | mintToOperator operator amount =>
    obtain ⟨-, hpos, -, -, rfl⟩ := mintToOperator_eq_ok.mp h
    exact ⟨hpos, rfl, rfl, rfl, rfl⟩
  | burn operator amount =>
    obtain ⟨-, -, -, -, ledger, hledger, -, rfl⟩ := burn_eq_ok.mp h
    exact ⟨rfl, rfl, rfl, hledger⟩
  | transitionEpoch =>
    rw [(transitionEpoch_frame h).2]
    exact ⟨rfl, rfl, rfl, rfl⟩
  | setBaseRate newRateBps =>
    obtain ⟨-, -, rfl⟩ := setBaseRate_eq_ok.mp h
    exact ⟨rfl, rfl, rfl, rfl⟩
  -- the two credit calls act for their signer
  | requestCredit amount =>
    obtain ⟨who, horigin, hreq⟩ := requestCredit_eq_ok.mp h
    rw [kind_requestCredit horigin]
    exact doRequestCredit_lent hreq
  | repayCredit epochId amount =>
    obtain ⟨who, horigin, hrep⟩ := repayCredit_eq_ok.mp h
    rw [kind_repayCredit horigin]
    exact doRepayCredit_repaid hrep
  | triggerGenesisDistribution => exact triggerGenesisDistribution_quiet h
  | issueGenesisGrant citizen regionCode =>
    obtain ⟨-, -, -, rfl⟩ := issueGenesisGrant_eq_ok.mp h
    exact ⟨by decide, rfl, rfl, rfl, rfl⟩

end Effects

end CentralBank

/-! ### What the genesis distribution needs

Every account the distribution creates is new, so at most one of them can be the account it
draws from; the first transfer to another account already needs more than a regional treasury
receives. -/

namespace CentralBank

variable {AccountId L : Type} [DecidableEq AccountId] [Currency AccountId L]
  [ProxyModule AccountId L] {cfg : Config AccountId} {ctx : Context AccountId}
  {s s' : State AccountId L} {who : AccountId} {amount index : ℕ}

/-- What the account of the central bank holds. -/
def State.reserve (cfg : Config AccountId) (s : State AccountId L) : ℕ :=
  Ledger.freeBalance s.ledger cfg.centralBankAccountId

/-- A pure proxy is created once, and adds nothing to the account of the central bank. -/
theorem createPure_fresh (horigin : ctx.origin = .signed who)
    (h : createPure cfg ctx index s = .ok s') :
    s.proxies.get (computePure cfg ctx who index) = none ∧
      (∃ entry, s'.proxies.get (computePure cfg ctx who index) = some entry) ∧
        s'.reserve cfg ≤ s.reserve cfg := by
  obtain ⟨who', horigin', r, hr, rfl⟩ := createPure_eq_ok.mp h
  rw [horigin] at horigin'
  rw [← Origin.signed.inj horigin'] at hr
  exact ⟨ProxyModule.createPure_fresh _ _ _ _ _ r hr,
    ⟨_, ProxyModule.createPure_recorded _ _ _ _ _ r hr⟩,
    (ProxyModule.createPure_reserved _ _ _ _ _ r hr).free_le _⟩

/-- A creation and its transfer: the account is new; unless it is the account of the central
bank itself, that account holds the amount. -/
theorem createAndFund_funds (horigin : ctx.origin = .signed who) (hamount : amount ≠ 0)
    (h : createAndFund cfg ctx who amount index s = .ok s') :
    s.proxies.get (computePure cfg ctx who index) = none ∧
      (∃ entry, s'.proxies.get (computePure cfg ctx who index) = some entry) ∧
        ((computePure cfg ctx who index = cfg.centralBankAccountId ∧
            s'.reserve cfg ≤ s.reserve cfg) ∨
          (computePure cfg ctx who index ≠ cfg.centralBankAccountId ∧
            amount ≤ s.reserve cfg)) := by
  obtain ⟨s₁, hs₁, l, hl, rfl⟩ := createAndFund_eq_ok.mp h
  obtain ⟨hfresh, hrecorded, hle⟩ := createPure_fresh horigin hs₁
  refine ⟨hfresh, hrecorded, ?_⟩
  rcases Currency.transfer_cases hl with ⟨hnoop, rfl⟩ | ⟨_, hne, ht⟩
  · exact Or.inl ⟨(hnoop.resolve_left hamount).symm, hle⟩
  · exact Or.inr ⟨Ne.symm hne, ht.funded.trans hle⟩

/-- **An accepted distribution is funded.** The account it draws from holds at least what a
regional treasury receives. -/
theorem distribution_funded (h : triggerGenesisDistribution cfg ctx s = .ok s') :
    regionalPerRegion ≤ s.reserve cfg := by
  obtain ⟨horigin, _, s₁, h₁, hrest⟩ := triggerGenesisDistribution_eq_ok.mp h
  have hregional : regionalPerRegion ≤ totalConfederation := by decide
  obtain ⟨_, ⟨entry, hrecorded⟩, hfunds⟩ := createAndFund_funds horigin (by decide) h₁
  rcases hfunds with ⟨hself, hle⟩ | ⟨_, hfunded⟩
  · -- the first account is the source itself: the second one is another
    obtain ⟨s₂, h₂, _⟩ := bind_eq_ok.mp hrest
    obtain ⟨s₃, h₃, _⟩ := distributeRegion_eq_ok.mp h₂
    obtain ⟨hfresh, _, hfunds₃⟩ := createAndFund_funds horigin (by decide) h₃
    rcases hfunds₃ with ⟨hself₃, _⟩ | ⟨_, hfunded⟩
    · change s₁.proxies.get _ = none at hfresh
      rw [hself] at hrecorded
      rw [hself₃, hrecorded] at hfresh
      cases hfresh
    · exact hfunded.trans hle
  · exact hregional.trans hfunded

end CentralBank

/-! ### In the runtime

The constants the runtime gives the central bank, and the ledger it runs on. -/

namespace Runtime

/-- The existential deposit of the runtime, a thousandth of a unit. -/
def existentialDeposit : ℕ := 1000000000

/-- The ledger of the runtime. -/
abbrev NativeLedger (AccountId : Type) [DecidableEq AccountId] : Type :=
  Balances AccountId existentialDeposit

/-- The proxy module on a currency whose balances can be reserved. -/
instance (AccountId L : Type) [DecidableEq AccountId] [Currency AccountId L]
    [ReservableCurrency AccountId L] : CentralBank.ProxyModule AccountId L where
  createPure pureProxy who deposit proxies l := do
    ensure (proxies.containsKey pureProxy = false) (.module .proxyDuplicate)
    let l ← liftCurrency (ReservableCurrency.reserve l who deposit)
    return (proxies.insert pureProxy (who, deposit), l)
  createPure_fresh _ _ _ _ _ _ h := StorageMap.not_containsKey.mp (ensure_bind_eq_ok.mp h).1
  createPure_recorded _ _ _ _ _ _ h := by
    obtain ⟨_, _, h⟩ := liftCurrency_bind_eq_ok.mp (ensure_bind_eq_ok.mp h).2
    rw [← pure_eq_ok.mp h]
    exact StorageMap.get_insert_self
  createPure_reserved _ _ _ _ _ _ h := by
    obtain ⟨l, hl, h⟩ := liftCurrency_bind_eq_ok.mp (ensure_bind_eq_ok.mp h).2
    rw [← pure_eq_ok.mp h]
    exact ReservableCurrency.reserve_ok _ _ _ _ hl

/-- The constants of the central bank, for given accounts of the creator and the bank and a
given derivation of pure proxies. -/
def centralBank {AccountId : Type} (creator centralBankAccountId : AccountId)
    (pureAccount : AccountId → ℕ → ℕ → ℕ → AccountId) : CentralBank.Config AccountId where
  creatorAccount := creator
  centralBankAccountId := centralBankAccountId
  creditEpochLimit := 18900000000000 * CentralBank.unit
  optimalKeyRate := 850
  maxProtectiveRate := 5000
  optimalUtilization := 80
  proxyDepositBase := CentralBank.unit
  proxyDepositFactor := CentralBank.unit
  pureAccount := pureAccount
  creditEpochLimit_le := by decide

/-- A call dispatched by root, which passes as the banking branch. -/
def rootContext {AccountId : Type} : CentralBank.Context AccountId where
  origin := .root
  bankingOrigin
    | .root => true
    | _ => false
  blockNumber := 1
  extrinsicIndex := some 0

/-- A call signed by an account without the authority of the banking branch. -/
def signedContext {AccountId : Type} (who : AccountId) : CentralBank.Context AccountId :=
  { rootContext with origin := .signed who }

end Runtime
