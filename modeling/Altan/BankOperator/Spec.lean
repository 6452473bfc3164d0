import Altan.BankOperator.Model
import Altan.CentralBank.Spec

/-!
# What the calls of the bank operator do

The checks and changes of every call. Of the calls, one creates money and opens a credit contract,
and one burns money and lowers what is outstanding on a contract; the others leave both as they
are.

## Main definitions

* `interestPaid`, `principalRepaid`, `repaidBy`: what a payment does to a credit
* `State.outstanding`: the principal owed on all contracts
* `Call.mints`, `Call.burns`: what a call creates and what it burns
* `Settled`: the effect of a call that issues no credit

## Main results

* One lemma for each dispatchable
* `step_settled`: the effect of a call that issues no credit
-/

open Bounded Dispatch Ledger

namespace BankOperator

variable {AccountId L : Type} {cfg : Config} {ctx : Context AccountId} {s s' : State AccountId L}
  {l l' : L} {citizen account : AccountId} {amount id : ℕ} {assetType : AssetType}
  {credit : CreditContract AccountId}

theorem setBankAccount_eq_ok : setBankAccount ctx account s = .ok s' ↔
    ctx.origin = .root ∧ s' = { s with bankSpecialAccount := some account } := by
  simp only [setBankAccount, ensureRoot_bind_eq_ok, pure_eq_ok, eq_comm (a := s')]

theorem assessRwa_eq_ok (citizen : AccountId) (assetType : AssetType) (value : ℕ) :
    assessRwa ctx citizen assetType value s = .ok s' ↔ ctx.origin = .root ∧ s' = s := by
  simp only [assessRwa, ensureRoot_bind_eq_ok, pure_eq_ok, eq_comm (a := s')]

theorem requestAccountFreeze_eq_ok (citizen : AccountId) (reason : AccountFreezeReason) :
    requestAccountFreeze ctx citizen reason s = .ok s' ↔ ctx.origin = .root ∧ s' = s := by
  simp only [requestAccountFreeze, ensureRoot_bind_eq_ok, pure_eq_ok, eq_comm (a := s')]

theorem accrueInterest_eq_ok : accrueInterest cfg ctx id s = .ok s' ↔
    ∃ caller, ctx.origin = .signed caller ∧ ∃ credit, s.creditContracts.get id = some credit ∧
      credit.status = .active ∧
        s' = if 0 < calculateAccruedInterest cfg ctx credit then
          { s with creditContracts := s.creditContracts.insert id (accrueLazily cfg ctx credit) }
          else s := by
  simp only [accrueInterest, ensureSigned_bind_eq_ok, required_bind_eq_ok, ensure_bind_eq_ok]
  refine exists_congr fun caller => and_congr_right fun _ => exists_congr fun credit =>
    and_congr_right fun _ => and_congr_right fun _ => ?_
  split
  · rw [pure_eq_ok, eq_comm]
    rfl
  · rw [pure_eq_ok, eq_comm]

/-- A collateral as it is locked. -/
def lockedCollateral (ctx : Context AccountId) (citizen : AccountId) (assetType : AssetType)
    (amount : ℕ) : CollateralContract AccountId where
  citizen := citizen
  assetType := assetType
  collateralAmount := amount
  bankFee := amount / 10
  collateralNet := amount - amount / 10
  createdAt := min ctx.blockNumber u32Max
  status := .locked
  creditRequested := false

section Transfers

variable [Currency AccountId L]

theorem pay_bind_eq_ok {α : Type} {k : L → Result α} {a : α} :
    (pay citizen account amount l >>= k) = .ok a ↔
      ∃ l', Currency.transfer l citizen account amount .keepAlive = .ok l' ∧ k l' = .ok a :=
  mapError_bind_eq_ok

theorem lockCollateral_eq_ok : lockCollateral ctx amount assetType s = .ok s' ↔
    ∃ citizen, ctx.origin = .signed citizen ∧ 0 < amount ∧
      ∃ bankAccount, s.bankSpecialAccount = some bankAccount ∧
        ∃ l', Currency.transfer s.ledger citizen bankAccount amount .keepAlive = .ok l' ∧
          s' = { s with
            collateralContracts := s.collateralContracts.insert s.nextCollateralId
              (lockedCollateral ctx citizen assetType amount)
            nextCollateralId := saturatingAdd u32Max s.nextCollateralId 1
            ledger := l' } := by
  simp only [lockCollateral, ensureSigned_bind_eq_ok, ensure_bind_eq_ok, required_bind_eq_ok,
    pay_bind_eq_ok, pure_eq_ok, eq_comm (a := s'), lockedCollateral]

end Transfers

section Credits

variable [DecidableEq AccountId]

theorem requestCredit_eq_ok : requestCredit ctx id s = .ok s' ↔
    ∃ citizen, ctx.origin = .signed citizen ∧ ∃ col, s.collateralContracts.get id = some col ∧
      col.citizen = citizen ∧ col.status = .locked ∧ col.creditRequested = false ∧
        s' = { s with
          collateralContracts :=
            s.collateralContracts.insert id { col with creditRequested := true } } := by
  simp only [requestCredit, ensureSigned_bind_eq_ok, required_bind_eq_ok, ensure_bind_eq_ok,
    pure_eq_ok, eq_comm (a := s')]

theorem declareDefault_eq_ok : declareDefault ctx id s = .ok s' ↔
    ctx.origin = .root ∧ ∃ credit, s.creditContracts.get id = some credit ∧
      credit.status = .active ∧
        s' = { s with
          creditContracts := s.creditContracts.insert id { credit with status := .default }
          creditScores :=
            s.creditScores.insert credit.citizen (s.scoreRecord credit.citizen).applyDefault } := by
  simp only [declareDefault, ensureRoot_bind_eq_ok, required_bind_eq_ok, ensure_bind_eq_ok,
    pure_eq_ok, eq_comm (a := s')]

/-- A credit as it is issued. -/
def issuedCredit (cfg : Config) (ctx : Context AccountId) (id : ℕ)
    (col : CollateralContract AccountId) (s : State AccountId L) : CreditContract AccountId where
  citizen := col.citizen
  collateralId := id
  creditAmount := creditAmount cfg col
  outstanding := creditAmount cfg col
  accruedInterest := 0
  issuedAt := currentBlock ctx
  lastInterestBlock := currentBlock ctx
  tier := (s.scoreRecord col.citizen).tier
  status := .active

theorem issueCredit_eq_ok [Currency AccountId L] : issueCredit cfg ctx id s = .ok s' ↔
    ctx.origin = .root ∧ cfg.reserveMultiplier = 9 ∧
      ∃ col, s.collateralContracts.get id = some col ∧ col.status = .locked ∧
        col.creditRequested = true ∧
          s' = { s with
            collateralContracts := s.collateralContracts.insert id { col with status := .active }
            creditContracts :=
              s.creditContracts.insert s.nextCreditId (issuedCredit cfg ctx id col s)
            nextCreditId := saturatingAdd u32Max s.nextCreditId 1
            totalCreditOutstanding :=
              saturatingAdd u128Max s.totalCreditOutstanding (creditAmount cfg col)
            creditScores :=
              if s.creditScores.get col.citizen = none then
                s.creditScores.insert col.citizen .newDefault
              else s.creditScores
            ledger := Currency.depositCreating s.ledger col.citizen (creditAmount cfg col) } := by
  simp only [issueCredit, ensureRoot_bind_eq_ok, ensure_bind_eq_ok, required_bind_eq_ok,
    pure_eq_ok, eq_comm (a := s'), issuedCredit]

end Credits

/-! ### Repayments -/

/-- The interest a payment covers. -/
def interestPaid (cfg : Config) (ctx : Context AccountId) (amount : ℕ)
    (credit : CreditContract AccountId) : ℕ :=
  min (accrueLazily cfg ctx credit).accruedInterest amount

/-- The principal the rest of a payment covers. -/
def principalRepaid (cfg : Config) (ctx : Context AccountId) (amount : ℕ)
    (credit : CreditContract AccountId) : ℕ :=
  min (amount - interestPaid cfg ctx amount credit) credit.outstanding

/-- A credit after a payment. -/
def repaidBy (cfg : Config) (ctx : Context AccountId) (amount : ℕ)
    (credit : CreditContract AccountId) : CreditContract AccountId :=
  { accrueLazily cfg ctx credit with
    accruedInterest :=
      (accrueLazily cfg ctx credit).accruedInterest - interestPaid cfg ctx amount credit
    outstanding := credit.outstanding - principalRepaid cfg ctx amount credit }

/-- Neither principal nor interest is owed. -/
def fullyRepaid (credit : CreditContract AccountId) : Bool :=
  decide (credit.outstanding = 0 ∧ credit.accruedInterest = 0)

theorem principalRepaid_le : principalRepaid cfg ctx amount credit ≤ credit.outstanding :=
  Nat.min_le_right _ _

section Funds

variable [Currency AccountId L]

/-- Paying the interest is a transfer, also when none is due. -/
theorem payInterest_bind_eq_ok {α : Type} {k : ℕ × CreditContract AccountId × L → Result α}
    {a : α} :
    (payInterest citizen account amount credit l >>= k) = .ok a ↔
      ∃ l', Currency.transfer l citizen account (min credit.accruedInterest amount) .keepAlive =
          .ok l' ∧
        k (amount - min credit.accruedInterest amount,
          { credit with
            accruedInterest := credit.accruedInterest - min credit.accruedInterest amount },
          l') = .ok a := by
  by_cases h : 0 < credit.accruedInterest ∧ 0 < amount
  · simp only [payInterest, if_pos h, bind_assoc, pay_bind_eq_ok, pure_bind]
  -- nothing is due, or nothing is paid
  · have hmin : min credit.accruedInterest amount = 0 := by omega
    rw [hmin, Currency.transfer_noop l citizen account 0 .keepAlive (Or.inl rfl)]
    simp only [payInterest, if_neg h, bind, Except.bind, Except.ok.injEq, Nat.sub_zero,
      exists_eq_left']

/-- The ledger after some principal is burned. -/
def Burned (l l' : L) (citizen : AccountId) (v : ℕ) : Prop :=
  (v = 0 ∧ l' = l) ∨ (0 < v ∧ Currency.withdraw l citizen v .keepAlive = .ok l')

theorem Burned.issuance {v : ℕ} (h : Burned l l' citizen v) :
    totalIssuance l' + v = totalIssuance l := by
  rcases h with ⟨rfl, rfl⟩ | ⟨_, hw⟩
  · rfl
  · exact (Currency.withdraw_keepAlive l citizen v l' hw).issuance

theorem burnPrincipal_bind_eq_ok {α : Type} {k : L → Result α} {a : α} {v : ℕ} :
    (burnPrincipal citizen v l >>= k) = .ok a ↔ ∃ l', Burned l l' citizen v ∧ k l' = .ok a := by
  unfold burnPrincipal Burned
  split
  · next h =>
    rw [mapError_bind_eq_ok]
    simp [h, h.ne']
  · next h =>
    obtain rfl : v = 0 := Nat.eq_zero_of_not_pos h
    simp [bind, Except.bind]

theorem closeCredit_eq_ok {paidOff : Bool} :
    closeCredit citizen account id paidOff credit s = .ok s' ↔
      (paidOff = true ∧ ∃ col, s.collateralContracts.get credit.collateralId = some col ∧
        ∃ l', Currency.transfer s.ledger account citizen col.collateralNet .keepAlive = .ok l' ∧
          s' = { s with
            creditContracts := s.creditContracts.insert id { credit with status := .repaid }
            collateralContracts := s.collateralContracts.modify credit.collateralId
              fun c => { c with status := .released }
            ledger := l' }) ∨
      (paidOff = false ∧ s' = { s with creditContracts := s.creditContracts.insert id credit }) := by
  cases paidOff
  · simp [closeCredit, eq_comm]
  · simp only [closeCredit, if_true, required_bind_eq_ok, pay_bind_eq_ok, pure_eq_ok,
      eq_comm (a := s'), true_and, reduceCtorEq, false_and, or_false]

theorem repayCredit_eq_ok [DecidableEq AccountId] : repayCredit cfg ctx id amount s = .ok s' ↔
    ∃ citizen, ctx.origin = .signed citizen ∧ 0 < amount ∧
      ∃ credit, s.creditContracts.get id = some credit ∧ credit.citizen = citizen ∧
        credit.status = .active ∧ ∃ bankAccount, s.bankSpecialAccount = some bankAccount ∧
          ∃ l₁, Currency.transfer s.ledger citizen bankAccount
              (interestPaid cfg ctx amount credit) .keepAlive = .ok l₁ ∧
            ∃ l₂, Burned l₁ l₂ citizen (principalRepaid cfg ctx amount credit) ∧
              closeCredit citizen bankAccount id (fullyRepaid (repaidBy cfg ctx amount credit))
                (repaidBy cfg ctx amount credit) { s with
                  totalCreditOutstanding :=
                    s.totalCreditOutstanding - principalRepaid cfg ctx amount credit
                  creditScores := updateScore citizen
                    (fullyRepaid (repaidBy cfg ctx amount credit))
                    (principalRepaid cfg ctx amount credit) s
                  ledger := l₂ } = .ok s' := by
  simp only [repayCredit, ensureSigned_bind_eq_ok, ensure_bind_eq_ok, required_bind_eq_ok,
    payInterest_bind_eq_ok, burnPrincipal_bind_eq_ok]
  rfl

/-- What a repayment has checked and paid, and what it leaves alone. The ledger is `l₂` once the
payment is made. -/
structure Repayment [DecidableEq AccountId] (cfg : Config) (ctx : Context AccountId) (id amount : ℕ)
    (s s' : State AccountId L) (credit : CreditContract AccountId) (bankAccount : AccountId)
    (l₁ l₂ : L) : Prop where
  signer : ctx.origin = .signed credit.citizen
  positive : 0 < amount
  stored : s.creditContracts.get id = some credit
  active : credit.status = .active
  bank : s.bankSpecialAccount = some bankAccount
  interest : Currency.transfer s.ledger credit.citizen bankAccount
    (interestPaid cfg ctx amount credit) .keepAlive = .ok l₁
  principal : Burned l₁ l₂ credit.citizen (principalRepaid cfg ctx amount credit)
  sameBank : s'.bankSpecialAccount = s.bankSpecialAccount
  nextCollateral : s'.nextCollateralId = s.nextCollateralId
  nextCredit : s'.nextCreditId = s.nextCreditId

/-- A repayment either closes the credit and gives the collateral back, or leaves it open. -/
theorem repayCredit_outcome [DecidableEq AccountId]
    (h : repayCredit cfg ctx id amount s = .ok s') :
    ∃ credit bankAccount l₁ l₂, Repayment cfg ctx id amount s s' credit bankAccount l₁ l₂ ∧
      ((fullyRepaid (repaidBy cfg ctx amount credit) = true ∧
        s'.creditContracts =
          s.creditContracts.insert id { repaidBy cfg ctx amount credit with status := .repaid } ∧
        ∃ col, s.collateralContracts.get credit.collateralId = some col ∧
          s'.collateralContracts =
            s.collateralContracts.insert credit.collateralId { col with status := .released } ∧
          Currency.transfer l₂ bankAccount credit.citizen col.collateralNet .keepAlive =
            .ok s'.ledger) ∨
      (fullyRepaid (repaidBy cfg ctx amount credit) = false ∧
        s'.creditContracts = s.creditContracts.insert id (repaidBy cfg ctx amount credit) ∧
        s'.collateralContracts = s.collateralContracts ∧ s'.ledger = l₂)) := by
  obtain ⟨citizen, horigin, hpos, credit, hget, rfl, hactive, bankAccount, hbank, l₁, hl₁, l₂,
    hburned, hclose⟩ := repayCredit_eq_ok.mp h
  refine ⟨credit, bankAccount, l₁, l₂, ?_⟩
  rcases closeCredit_eq_ok.mp hclose with ⟨hfull, col, hcol, l', hl', rfl⟩ | ⟨hfull, rfl⟩
  · refine ⟨⟨horigin, hpos, hget, hactive, hbank, hl₁, hburned, rfl, rfl, rfl⟩,
      Or.inl ⟨hfull, rfl, col, hcol, ?_, hl'⟩⟩
    exact StorageMap.modify_of_get hcol
  · exact ⟨⟨horigin, hpos, hget, hactive, hbank, hl₁, hburned, rfl, rfl, rfl⟩,
      Or.inr ⟨hfull, rfl, rfl, rfl⟩⟩

/-- What is burned in a repayment leaves the issuance; what is paid to the bank and given back does
not. -/
theorem repayCredit_issuance [DecidableEq AccountId] (h : repayCredit cfg ctx id amount s = .ok s') :
    ∃ credit, s.creditContracts.get id = some credit ∧
      totalIssuance s'.ledger + principalRepaid cfg ctx amount credit =
        totalIssuance s.ledger := by
  obtain ⟨citizen, -, -, credit, hget, -, -, bankAccount, -, l₁, hl₁, l₂, hburned, hclose⟩ :=
    repayCredit_eq_ok.mp h
  refine ⟨credit, hget, ?_⟩
  rw [← Currency.transfer_keepAlive_issuance hl₁, ← hburned.issuance]
  rcases closeCredit_eq_ok.mp hclose with ⟨-, col, -, l', hl', rfl⟩ | ⟨-, rfl⟩
  · exact congrArg (· + _) (Currency.transfer_keepAlive_issuance hl')
  · rfl

end Funds

/-! ### Effects -/

section Effects

/-- The principal owed on all contracts. -/
def State.outstanding (s : State AccountId L) : ℕ :=
  s.creditContracts.sum fun _ credit => credit.outstanding

/-- What a call creates, and on which account. -/
def Call.credits (cfg : Config) (s : State AccountId L) : Call AccountId → List (AccountId × ℕ)
  | .issueCredit id =>
    ((s.collateralContracts.get id).map fun col => (col.citizen, creditAmount cfg col)).toList
  | _ => []

/-- How much a call creates. -/
def Call.mints (cfg : Config) (s : State AccountId L) (call : Call AccountId) : ℕ :=
  ((call.credits cfg s).map Prod.snd).sum

/-- How much a call burns. -/
def Call.burns (cfg : Config) (ctx : Context AccountId) (s : State AccountId L) :
    Call AccountId → ℕ
  | .repayCredit id amount => (s.creditContracts.get id).elim 0 (principalRepaid cfg ctx amount)
  | _ => 0

/-- The call issues a credit. -/
def Call.issues : Call AccountId → Bool
  | .issueCredit _ => true
  | _ => false

theorem Call.mints_eq_zero {call : Call AccountId} (h : call.issues = false) :
    call.mints cfg s = 0 := by
  cases call with
  | issueCredit id => cases h
  | _ => rfl

/-- The effect of a call that issues no credit: some principal is burned, and no longer owed. -/
structure Settled [Currency AccountId L] (s s' : State AccountId L) (principal : ℕ) : Prop where
  nextId : s'.nextCreditId = s.nextCreditId
  keys : s'.creditContracts.keys = s.creditContracts.keys
  outstanding : s'.outstanding + principal = s.outstanding
  total : s'.totalCreditOutstanding = s.totalCreditOutstanding - principal
  issuance : totalIssuance s'.ledger + principal = totalIssuance s.ledger

variable [Currency AccountId L]

/-- The contracts are as they were. -/
theorem Settled.unchanged (hnext : s'.nextCreditId = s.nextCreditId)
    (hcontracts : s'.creditContracts = s.creditContracts)
    (htotal : s'.totalCreditOutstanding = s.totalCreditOutstanding)
    (hissuance : totalIssuance s'.ledger = totalIssuance s.ledger) : Settled s s' 0 where
  nextId := hnext
  keys := congrArg StorageMap.keys hcontracts
  outstanding := congrArg
    (StorageMap.sum fun _ (credit : CreditContract AccountId) => credit.outstanding)
    hcontracts
  total := htotal
  issuance := hissuance

/-- One contract is changed, and some of its principal burned. -/
theorem Settled.update {credit' : CreditContract AccountId} {principal : ℕ}
    (hget : s.creditContracts.get id = some credit)
    (hcontracts : s'.creditContracts = s.creditContracts.insert id credit')
    (howed : credit'.outstanding + principal = credit.outstanding)
    (hnext : s'.nextCreditId = s.nextCreditId)
    (htotal : s'.totalCreditOutstanding = s.totalCreditOutstanding - principal)
    (hissuance : totalIssuance s'.ledger + principal = totalIssuance s.ledger) :
    Settled s s' principal where
  nextId := hnext
  keys := by rw [hcontracts, StorageMap.keys_insert_of_get hget]
  outstanding := by
    have hsum := StorageMap.sum_insert_of_get (fun _ (c : CreditContract AccountId) => c.outstanding)
      hget credit'
    unfold State.outstanding
    rw [hcontracts]
    omega
  total := htotal
  issuance := hissuance

theorem accrueInterest_settled (h : accrueInterest cfg ctx id s = .ok s') : Settled s s' 0 := by
  obtain ⟨-, -, credit, hget, -, rfl⟩ := accrueInterest_eq_ok.mp h
  split
  · exact Settled.update hget rfl rfl rfl rfl rfl
  · exact Settled.unchanged rfl rfl rfl rfl

variable [DecidableEq AccountId]

theorem repayCredit_settled (h : repayCredit cfg ctx id amount s = .ok s') :
    Settled s s' ((Call.repayCredit id amount).burns cfg ctx s) := by
  obtain ⟨credit, hget, hissuance⟩ := repayCredit_issuance h
  have hburns : (Call.repayCredit id amount).burns cfg ctx s =
      principalRepaid cfg ctx amount credit := congrArg (Option.elim · 0 _) hget
  have howed : (repaidBy cfg ctx amount credit).outstanding +
      principalRepaid cfg ctx amount credit = credit.outstanding :=
    Nat.sub_add_cancel principalRepaid_le
  obtain ⟨citizen, -, -, credit', hget', -, -, bankAccount, -, l₁, -, l₂, -, hclose⟩ :=
    repayCredit_eq_ok.mp h
  obtain rfl : credit = credit' := Option.some.inj (hget.symm.trans hget')
  rw [hburns]
  -- the contract is stored again, as repaid or as still running
  rcases closeCredit_eq_ok.mp hclose with ⟨-, col, -, l', -, rfl⟩ | ⟨-, rfl⟩
  · exact Settled.update hget rfl howed rfl rfl hissuance
  · exact Settled.update hget rfl howed rfl rfl hissuance

/-- **The effect of a call that issues no credit.** -/
theorem step_settled {x : Extrinsic AccountId} (hx : x.2.issues = false)
    (h : step cfg x s = .ok s') : Settled s s' (x.2.burns cfg x.1 s) := by
  obtain ⟨ctx, call⟩ := x
  cases call with
  | setBankAccount account =>
    obtain ⟨-, rfl⟩ := setBankAccount_eq_ok.mp h
    exact Settled.unchanged rfl rfl rfl rfl
  | assessRwa citizen assetType value =>
    obtain ⟨-, rfl⟩ := (assessRwa_eq_ok citizen assetType value).mp h
    exact Settled.unchanged rfl rfl rfl rfl
  | lockCollateral amount assetType =>
    obtain ⟨_, -, -, _, -, l', hl', rfl⟩ := lockCollateral_eq_ok.mp h
    exact Settled.unchanged rfl rfl rfl (Currency.transfer_keepAlive_issuance hl')
  | requestCredit id =>
    obtain ⟨_, -, _, -, -, -, -, rfl⟩ := requestCredit_eq_ok.mp h
    exact Settled.unchanged rfl rfl rfl rfl
  | issueCredit id => cases hx
  | accrueInterest id => exact accrueInterest_settled h
  | repayCredit id amount => exact repayCredit_settled h
  | declareDefault id =>
    obtain ⟨-, credit, hget, -, rfl⟩ := declareDefault_eq_ok.mp h
    exact Settled.update hget rfl rfl rfl rfl rfl
  | requestAccountFreeze citizen reason =>
    obtain ⟨-, rfl⟩ := (requestAccountFreeze_eq_ok citizen reason).mp h
    exact Settled.unchanged rfl rfl rfl rfl

end Effects

end BankOperator

/-! ### The bank operator in the runtime

The constants the runtime gives the bank operator, in a small world to evaluate calls in: accounts
are numbers, and the account of the bank is 2. -/

namespace Runtime

/-- The bank operator. -/
def bankOperator : BankOperator.Config where
  reserveMultiplier := 9
  interestPeriodBlocks := 14400

/-- The storage at genesis in a world where the bank and the citizens 7 and 8 have a thousand units
each. -/
def operatorGenesis : BankOperator.State ℕ (NativeLedger ℕ) :=
  BankOperator.genesis (Balances.ofFree
    ([2, 7, 8].map fun account => (account, 1000 * CentralBank.unit)))

/-- A call dispatched in a block with an origin. -/
def operatorContext (blockNumber : ℕ) (origin : Origin ℕ) : BankOperator.Context ℕ where
  origin := origin
  blockNumber := blockNumber

end Runtime
