import Altan.BankOperator.Collateral

/-!
# The custody of collateral

Collateral is held on the account of the bank, together with the fees and the interest. The account
covers what it holds for the citizens over exactly the runs in which it is only replaced by an
account that does, and in which the bank does not lock or repay on its own account beyond what it
has. A refund leaves the account alive, so that a credit can be paid off just when the existential
deposit stays behind; an account that is set with it to spare never refuses a refund.

## Main definitions

* `State.held`: what the bank holds for the citizens
* `Covers surplus`: the account of the bank covers it, with something to spare
* `KeepsCovered`: the condition on a call
* `PaysOff`: a citizen pays all that is owed on a credit

## Main results

* `covers_step_iff`: one call
* `paysOff_iff`: one repayment
* `collateral_custody`: a run
* `custody_lost`: the account is replaced, and the last collateral cannot be given back
-/

open Bounded Dispatch Ledger TransitionSystem Runtime

namespace BankOperator

variable {AccountId L : Type} {cfg : Config} {ctx : Context AccountId} {s s' : State AccountId L}
  {x : Extrinsic AccountId} {xs : List (Extrinsic AccountId)} {l l' l₁ l₂ : L}
  {id amount surplus : ℕ} {citizen bankAccount : AccountId}
  {col : CollateralContract AccountId} {credit : CreditContract AccountId}

/-- What the bank holds for the citizen of a collateral. -/
def CollateralContract.held (col : CollateralContract AccountId) : ℕ :=
  if col.status = .released then 0 else col.collateralNet

/-- What the bank holds for the citizens. -/
def State.held (s : State AccountId L) : ℕ := s.collateralContracts.sum fun _ col => col.held

/-- What the bank holds for the collateral under an identifier. -/
def State.heldFor (s : State AccountId L) (id : ℕ) : ℕ :=
  s.collateralContracts.contribution (fun _ col => col.held) id

theorem heldFor_of_get (h : s.collateralContracts.get id = some col) : s.heldFor id = col.held :=
  StorageMap.contribution_of_get _ h

/-- A collateral that is written takes the place of what was held under its identifier. -/
theorem held_insert (h : s'.collateralContracts = s.collateralContracts.insert id col) :
    s.heldFor id + s'.held = col.held + s.held := by
  unfold State.held State.heldFor
  rw [h]
  exact StorageMap.sum_insert _ _ _

theorem held_congr (h : s'.collateralContracts = s.collateralContracts) : s'.held = s.held := by
  unfold State.held
  rw [h]

/-- A collateral changes, and not what is held for it. -/
theorem held_update {col' : CollateralContract AccountId}
    (hget : s.collateralContracts.get id = some col)
    (h : s'.collateralContracts = s.collateralContracts.insert id col')
    (hheld : col'.held = col.held) : s'.held = s.held := by
  have hinsert := held_insert h
  rw [heldFor_of_get hget] at hinsert
  omega

theorem heldFor_le (s : State AccountId L) (id : ℕ) : s.heldFor id ≤ s.held :=
  StorageMap.contribution_le_sum id

section Funds

variable [Currency AccountId L]

/-- The account of the bank covers what it holds for the citizens, with something to spare. -/
def Covers (surplus : ℕ) (s : State AccountId L) : Prop :=
  ∀ bankAccount ∈ s.bankSpecialAccount, s.held + surplus ≤ freeBalance s.ledger bankAccount

instance : Decidable (Covers surplus s) := inferInstanceAs (Decidable (∀ _ ∈ _, _))

theorem covers_iff (h : s.bankSpecialAccount = some bankAccount) :
    Covers surplus s ↔ s.held + surplus ≤ freeBalance s.ledger bankAccount := by
  unfold Covers
  rw [h]
  simp

/-- What a burn does to the free balances. -/
theorem Burned.free [DecidableEq AccountId] {v : ℕ} (h : Burned l l' citizen v) (c : AccountId) :
    freeBalance l' c + (if c = citizen then v else 0) = freeBalance l c := by
  rcases h with ⟨rfl, rfl⟩ | ⟨-, hw⟩
  · rw [ite_self, Nat.add_zero]
  · have hdebited := Currency.withdraw_keepAlive l citizen v l' hw
    split
    · next hc => rw [hc, hdebited.free]
    · next hc => rw [hdebited.others c hc, Nat.add_zero]

variable [DecidableEq AccountId]

/-- What the bank no longer holds after a repayment. -/
def unheld (cfg : Config) (ctx : Context AccountId) (s : State AccountId L) (amount : ℕ)
    (credit : CreditContract AccountId) : ℕ :=
  if fullyRepaid (repaidBy cfg ctx amount credit) = true then s.heldFor credit.collateralId else 0

/-- The call leaves the account of the bank covering what it holds: an account that is set covers
it; where the bank itself locks collateral or repays a credit, which brings nothing in, this is
covered already; and so is a collateral that is given back although it has been released. -/
def KeepsCovered (cfg : Config) (surplus : ℕ) (s : State AccountId L) : Extrinsic AccountId → Prop
  | (_, .setBankAccount account) => s.held + surplus ≤ freeBalance s.ledger account
  | (ctx, .lockCollateral amount _) => ∀ bankAccount ∈ s.bankSpecialAccount,
      ctx.origin = .signed bankAccount →
        s.held + (amount - amount / 10) + surplus ≤
          freeBalance s.ledger bankAccount + s.heldFor s.nextCollateralId
  | (ctx, .repayCredit id amount) => ∀ bankAccount ∈ s.bankSpecialAccount,
      ∀ credit ∈ s.creditContracts.get id,
        if bankAccount = credit.citizen then
          s.held + principalRepaid cfg ctx amount credit + surplus ≤
            freeBalance s.ledger bankAccount + unheld cfg ctx s amount credit
        else fullyRepaid (repaidBy cfg ctx amount credit) = true →
          ∀ col ∈ s.collateralContracts.get credit.collateralId, col.status = .released →
            s.held + col.collateralNet + surplus ≤
              freeBalance s.ledger bankAccount + interestPaid cfg ctx amount credit
  | _ => True

instance : Decidable (KeepsCovered cfg surplus s x) := by
  unfold KeepsCovered
  split <;> infer_instance

omit [Currency AccountId L] [DecidableEq AccountId] in
theorem lockedCollateral_held (citizen : AccountId) (assetType : AssetType) :
    (lockedCollateral ctx citizen assetType amount).held = amount - amount / 10 := by
  simp [CollateralContract.held, lockedCollateral]

/-- A collateral locked by a citizen brings in what is held for it, one locked by the bank itself
does not. -/
theorem lockCollateral_covers_iff {assetType : AssetType} (hcovers : Covers surplus s)
    (h : lockCollateral ctx amount assetType s = .ok s') :
    Covers surplus s' ↔ KeepsCovered cfg surplus s (ctx, .lockCollateral amount assetType) := by
  obtain ⟨citizen, horigin, hpos, bankAccount, hbank, l', hl', hs'⟩ := lockCollateral_eq_ok.mp h
  have hbank' : s'.bankSpecialAccount = some bankAccount := by rw [hs', hbank]
  have hledger : s'.ledger = l' := by rw [hs']
  -- the total held grows by the net amount, less what was held under the identifier
  have hcols : s'.collateralContracts = s.collateralContracts.insert s.nextCollateralId
      (lockedCollateral ctx citizen assetType amount) := by rw [hs']
  have hheld : s.heldFor s.nextCollateralId + s'.held = (amount - amount / 10) + s.held := by
    rw [held_insert hcols, lockedCollateral_held]
  have hcovered := (covers_iff hbank).mp hcovers
  have hfree := Currency.transfer_keepAlive_free hl' bankAccount
  have hguard : KeepsCovered cfg surplus s (ctx, .lockCollateral amount assetType) ↔
      (bankAccount = citizen → s.held + (amount - amount / 10) + surplus ≤
        freeBalance s.ledger bankAccount + s.heldFor s.nextCollateralId) := by
    simp [KeepsCovered, hbank, horigin, eq_comm (a := citizen)]
  rw [hguard, covers_iff hbank', hledger]
  rw [if_pos rfl] at hfree
  by_cases hself : bankAccount = citizen
  · rw [if_pos hself] at hfree
    simp only [hself, true_implies] at hcovered hfree ⊢
    omega
  · rw [if_neg hself] at hfree
    simp only [hself, false_implies, iff_true]
    omega

/-- What a repayment does to the account of the bank and to what it holds. -/
theorem repayCredit_bank (h : repayCredit cfg ctx id amount s = .ok s') :
    ∃ credit bankAccount, s.creditContracts.get id = some credit ∧
      s.bankSpecialAccount = some bankAccount ∧ s'.bankSpecialAccount = some bankAccount ∧
      unheld cfg ctx s amount credit + s'.held = s.held ∧
      if bankAccount = credit.citizen then
        freeBalance s'.ledger bankAccount + principalRepaid cfg ctx amount credit =
          freeBalance s.ledger bankAccount
      else if fullyRepaid (repaidBy cfg ctx amount credit) = true then
        ∃ col, s.collateralContracts.get credit.collateralId = some col ∧
          freeBalance s'.ledger bankAccount + col.collateralNet =
            freeBalance s.ledger bankAccount + interestPaid cfg ctx amount credit
      else freeBalance s'.ledger bankAccount =
        freeBalance s.ledger bankAccount + interestPaid cfg ctx amount credit := by
  obtain ⟨credit, bankAccount, l₁, l₂, hrepay, houtcome⟩ := repayCredit_outcome h
  refine ⟨credit, bankAccount, hrepay.stored, hrepay.bank, hrepay.sameBank.trans hrepay.bank, ?_⟩
  have hinterest := Currency.transfer_keepAlive_free hrepay.interest bankAccount
  have hprincipal := hrepay.principal.free bankAccount
  rw [if_pos rfl] at hinterest
  unfold unheld
  rcases houtcome with ⟨hfull, -, col, hcol, hcols, hl₃⟩ | ⟨hopen, -, hcols, hl₂⟩
  · -- repaid in full: the collateral goes back, and the bank pays it unless it is the citizen
    have hheld := held_insert hcols
    have hrefund := Currency.transfer_keepAlive_free hl₃ bankAccount
    simp only [CollateralContract.held, if_true, Nat.zero_add] at hheld
    rw [if_pos rfl] at hrefund
    rw [if_pos hfull, if_pos hfull]
    refine ⟨hheld, ?_⟩
    by_cases hself : bankAccount = credit.citizen
    · rw [if_pos hself] at hinterest hprincipal hrefund ⊢
      omega
    · rw [if_neg hself] at hinterest hprincipal hrefund ⊢
      exact ⟨col, hcol, by omega⟩
  · have hnot : ¬ fullyRepaid (repaidBy cfg ctx amount credit) = true := by simp [hopen]
    rw [if_neg hnot, if_neg hnot, hl₂]
    refine ⟨(Nat.zero_add _).trans (held_congr hcols), ?_⟩
    by_cases hself : bankAccount = credit.citizen
    · rw [if_pos hself] at hinterest hprincipal ⊢
      omega
    · rw [if_neg hself] at hinterest hprincipal ⊢
      omega

/-- A repayment is covered by what it no longer holds, unless the bank repays a credit of its own or
the collateral has been released before. -/
theorem repayCredit_covers_iff (hcovers : Covers surplus s)
    (h : repayCredit cfg ctx id amount s = .ok s') :
    Covers surplus s' ↔ KeepsCovered cfg surplus s (ctx, .repayCredit id amount) := by
  obtain ⟨credit, bankAccount, hget, hbank, hbank', hheld, hbalance⟩ := repayCredit_bank h
  have hcovered := (covers_iff hbank).mp hcovers
  rw [covers_iff hbank']
  simp only [KeepsCovered, hbank, hget, Option.mem_def, Option.some.injEq, forall_eq']
  by_cases hself : bankAccount = credit.citizen
  · rw [if_pos hself] at hbalance ⊢
    omega
  · rw [if_neg hself] at hbalance ⊢
    by_cases hfull : fullyRepaid (repaidBy cfg ctx amount credit) = true
    · rw [if_pos hfull] at hbalance
      obtain ⟨col, hcol, hbalance⟩ := hbalance
      simp only [hfull, hcol, Option.some.injEq, forall_eq', true_implies]
      -- a collateral that was held is no longer held
      unfold unheld at hheld
      rw [if_pos hfull, heldFor_of_get hcol, CollateralContract.held] at hheld
      by_cases hreleased : col.status = .released
      · rw [if_pos hreleased] at hheld
        simp only [hreleased, true_implies]
        omega
      · rw [if_neg hreleased] at hheld
        simp only [hreleased, false_implies, iff_true]
        omega
    · rw [if_neg hfull] at hbalance
      unfold unheld at hheld
      rw [if_neg hfull] at hheld
      refine iff_of_true (by omega) fun hfull' => absurd hfull' hfull

omit [DecidableEq AccountId] in
/-- The account of the bank covers no less where nothing more is held and no balance falls. -/
theorem Covers.of_le (hcovers : Covers surplus s)
    (hbank : s'.bankSpecialAccount = s.bankSpecialAccount) (hheld : s'.held = s.held)
    (hfree : ∀ c, freeBalance s.ledger c ≤ freeBalance s'.ledger c) : Covers surplus s' := by
  unfold Covers at hcovers ⊢
  rw [hbank, hheld]
  intro bankAccount hmem
  exact (hcovers bankAccount hmem).trans (hfree bankAccount)

/-- **One call keeps the account of the bank covering what it holds just when it meets the
condition.** -/
theorem covers_step_iff (hcovers : Covers surplus s) (h : step cfg x s = .ok s') :
    Covers surplus s' ↔ KeepsCovered cfg surplus s x := by
  obtain ⟨ctx, call⟩ := x
  cases call with
  | setBankAccount account =>
    obtain ⟨-, rfl⟩ := setBankAccount_eq_ok.mp h
    exact covers_iff rfl
  | assessRwa citizen assetType value =>
    obtain ⟨-, rfl⟩ := (assessRwa_eq_ok citizen assetType value).mp h
    exact iff_of_true hcovers trivial
  | lockCollateral amount assetType => exact lockCollateral_covers_iff hcovers h
  | requestCredit id =>
    obtain ⟨_, -, col, hget, -, -, -, rfl⟩ := requestCredit_eq_ok.mp h
    refine iff_of_true (hcovers.of_le rfl ?_ fun _ => Nat.le_refl _) trivial
    exact held_update hget rfl rfl
  | issueCredit id =>
    obtain ⟨-, -, col, hget, hlocked, -, rfl⟩ := issueCredit_eq_ok.mp h
    refine iff_of_true (hcovers.of_le rfl ?_ fun c => ?_) trivial
    · refine held_update hget rfl ?_
      simp [CollateralContract.held, hlocked]
    · exact Currency.depositCreating_ge s.ledger col.citizen (creditAmount cfg col) c
  | accrueInterest id =>
    obtain ⟨-, -, credit, -, -, rfl⟩ := accrueInterest_eq_ok.mp h
    refine iff_of_true ?_ trivial
    split
    · exact hcovers
    · exact hcovers
  | repayCredit id amount => exact repayCredit_covers_iff hcovers h
  | declareDefault id =>
    obtain ⟨-, credit, -, -, rfl⟩ := declareDefault_eq_ok.mp h
    exact iff_of_true hcovers trivial
  | requestAccountFreeze citizen reason =>
    obtain ⟨-, rfl⟩ := (requestAccountFreeze_eq_ok citizen reason).mp h
    exact iff_of_true hcovers trivial

/-! ### Paying a credit off -/

omit [DecidableEq AccountId] in
/-- A citizen pays all that is owed on an active credit, stays alive, and is due a collateral from
an account of the bank without locks. -/
structure PaysOff (cfg : Config) (ctx : Context AccountId) (id amount : ℕ) (s : State AccountId L)
    (credit : CreditContract AccountId) (col : CollateralContract AccountId)
    (bankAccount : AccountId) (l₁ l₂ : L) : Prop where
  signer : ctx.origin = .signed credit.citizen
  positive : 0 < amount
  stored : s.creditContracts.get id = some credit
  active : credit.status = .active
  bank : s.bankSpecialAccount = some bankAccount
  interest : Currency.transfer s.ledger credit.citizen bankAccount
    (interestPaid cfg ctx amount credit) .keepAlive = .ok l₁
  principal : Burned l₁ l₂ credit.citizen (principalRepaid cfg ctx amount credit)
  full : fullyRepaid (repaidBy cfg ctx amount credit) = true
  alive : existentialDeposit L ≤ freeBalance l₂ credit.citizen
  collateral : s.collateralContracts.get credit.collateralId = some col
  unlocked : ∀ lock, lockAmount s.ledger lock bankAccount = 0

/-- What the bank has when the payment is made. -/
theorem bank_before_refund {amount : ℕ}
    (hinterest : Currency.transfer s.ledger credit.citizen bankAccount
      (interestPaid cfg ctx amount credit) .keepAlive = .ok l₁)
    (hprincipal : Burned l₁ l₂ credit.citizen (principalRepaid cfg ctx amount credit))
    (hself : bankAccount ≠ credit.citizen) :
    freeBalance l₂ bankAccount =
      freeBalance s.ledger bankAccount + interestPaid cfg ctx amount credit := by
  have hfirst := Currency.transfer_keepAlive_free hinterest bankAccount
  have hsecond := hprincipal.free bankAccount
  rw [if_neg hself, if_pos rfl] at hfirst
  rw [if_neg hself] at hsecond
  omega

omit [DecidableEq AccountId] in
theorem Burned.lockAmount [LockableCurrency AccountId L] {v : ℕ} (h : Burned l l' citizen v)
    (lock : LockIdentifier) (c : AccountId) : lockAmount l' lock c = lockAmount l lock c := by
  rcases h with ⟨-, rfl⟩ | ⟨-, hw⟩
  · rfl
  · exact LockableCurrency.withdraw_lock _ _ _ _ _ hw lock c

omit [DecidableEq AccountId] in
theorem performAll_lockAmount [LockableCurrency AccountId L] {ms : List (Movement AccountId)}
    (h : performAll ms l = .ok l') (lock : LockIdentifier) (c : AccountId) :
    lockAmount l' lock c = lockAmount l lock c := by
  induction ms generalizing l with
  | nil =>
    cases h
    rfl
  | cons m ms ih =>
    obtain ⟨l₁, hm, hms⟩ := performAll_cons.mp h
    rw [ih hms]
    cases m with
    | collateral id citizen bankAccount amount =>
      exact LockableCurrency.transfer_lock _ _ _ _ _ _ hm lock c
    | credit citizen amount =>
      cases hm
      exact LockableCurrency.depositCreating_lock _ _ _ lock c
    | interest citizen bankAccount amount =>
      exact LockableCurrency.transfer_lock _ _ _ _ _ _ hm lock c
    | principal citizen amount =>
      exact (perform_principal.mp hm).lockAmount lock c
    | refund id bankAccount citizen amount =>
      exact LockableCurrency.transfer_lock _ _ _ _ _ _ hm lock c

/-- A repayment whose refund goes through is made. -/
theorem PaysOff.repaid (hpays : PaysOff cfg ctx id amount s credit col bankAccount l₁ l₂)
    (hrefund : Currency.transfer l₂ bankAccount credit.citizen col.collateralNet .keepAlive =
      .ok l') : ∃ s', repayCredit cfg ctx id amount s = .ok s' :=
  ⟨_, repayCredit_eq_ok.mpr ⟨_, hpays.signer, hpays.positive, credit, hpays.stored, rfl,
    hpays.active, bankAccount, hpays.bank, l₁, hpays.interest, l₂, hpays.principal,
    closeCredit_eq_ok.mpr (Or.inl ⟨hpays.full, col, hpays.collateral, l', hrefund, rfl⟩)⟩⟩

/-- **A credit can be paid off just when the existential deposit is left with the bank**, or the
bank pays itself. -/
theorem paysOff_iff [LockableCurrency AccountId L] [UnlockedTransfers AccountId L]
    (hnet : AllNet s) (hpays : PaysOff cfg ctx id amount s credit col bankAccount l₁ l₂) :
    (∃ s', repayCredit cfg ctx id amount s = .ok s') ↔ bankAccount = credit.citizen ∨
      col.collateralNet + existentialDeposit L ≤
        freeBalance s.ledger bankAccount + interestPaid cfg ctx amount credit := by
  have hpos := (hnet credit.collateralId col hpays.collateral).2
  by_cases hself : bankAccount = credit.citizen
  · refine iff_of_true ?_ (Or.inl hself)
    exact hpays.repaid (Currency.transfer_noop _ _ _ _ _ (Or.inr hself))
  constructor
  · rintro ⟨s', hs'⟩
    obtain ⟨credit', bankAccount', l₁', l₂', hrepay, houtcome⟩ := repayCredit_outcome hs'
    obtain rfl : credit = credit' := Option.some.inj (hpays.stored.symm.trans hrepay.stored)
    obtain rfl : bankAccount = bankAccount' := Option.some.inj (hpays.bank.symm.trans hrepay.bank)
    rcases houtcome with ⟨-, -, col', hcol', -, hrefund⟩ | ⟨hopen, -⟩
    · obtain rfl : col = col' := Option.some.inj (hpays.collateral.symm.trans hcol')
      -- the refund was funded and kept the bank alive
      have halive := Currency.transfer_keepAlive _ _ _ _ _ hpos.ne' hself hrefund
      have hfunded := (Currency.transfer_ok _ _ _ _ _ _ hpos.ne' hself hrefund).funded
      have hbefore := bank_before_refund hrepay.interest hrepay.principal hself
      exact Or.inr (by omega)
    · rw [hpays.full] at hopen
      cases hopen
  · intro hleft
    have hbefore := bank_before_refund hpays.interest hpays.principal hself
    have hunlocked : ∀ lock, lockAmount l₂ lock bankAccount = 0 := by
      intro lock
      rw [hpays.principal.lockAmount,
        LockableCurrency.transfer_lock _ _ _ _ _ _ hpays.interest lock bankAccount]
      exact hpays.unlocked lock
    obtain ⟨l', hl'⟩ := UnlockedTransfers.transfer_unlocked l₂ bankAccount credit.citizen
      col.collateralNet hunlocked (hbefore ▸ hleft.resolve_left hself)
      (hpays.alive.trans (Nat.le_add_right _ _))
    exact hpays.repaid hl'

/-! ### Runs -/

/-- From empty storage, the account of the bank covers what it holds, with something to spare,
throughout exactly the runs whose calls meet the condition. -/
theorem throughout_covers_iff (surplus : ℕ) (l : L) :
    Throughout (step cfg) (Covers surplus) xs (genesis l) ↔
      Along (step cfg) (KeepsCovered cfg surplus) xs (genesis l) := by
  refine throughout_iff_along_of_step ?_ ?_
  · intro x s s' hcovers h
    exact covers_step_iff hcovers h
  · intro bankAccount hbank
    cases hbank

theorem allNet_run (l : L) : AllNet (run (step cfg) xs (genesis l)) := by
  apply run_invariant
  · intro x s s' hnet h
    exact allNet_step hnet h
  · intro id col hget
    cases hget

/-- No call changes a lock. -/
theorem lockAmount_run [LockableCurrency AccountId L] (s : State AccountId L)
    (lock : LockIdentifier) (c : AccountId) :
    lockAmount (run (step cfg) xs s).ledger lock c = lockAmount s.ledger lock c := by
  refine run_invariant
    (P := fun t : State AccountId L => lockAmount t.ledger lock c = lockAmount s.ledger lock c)
    ?_ xs rfl
  intro x t t' ht h
  rw [← ht]
  exact performAll_lockAmount (step_performed h) lock c

theorem cycle_run {l : L}
    (h : Along (step cfg) (fun s x => HasIdentifier s x.2) xs (genesis l)) :
    Cycle (run (step cfg) xs (genesis l)) := by
  rw [← history_state]
  exact (kept_history h).cycle

/-- **Custody.** From empty storage, the account of the bank covers the collateral it holds over
exactly the runs whose calls meet the condition; in every state a credit can be paid off just when
the existential deposit stays behind; and over runs that keep it to spare, with an identifier for
every record, every credit can. -/
theorem collateral_custody [LockableCurrency AccountId L] [UnlockedTransfers AccountId L] {l : L} :
    (Throughout (step cfg) (Covers 0) xs (genesis l) ↔
      Along (step cfg) (KeepsCovered cfg 0) xs (genesis l)) ∧
    (∀ ctx id amount credit col bankAccount l₁ l₂,
      PaysOff cfg ctx id amount (run (step cfg) xs (genesis l)) credit col bankAccount l₁ l₂ →
        ((∃ s', repayCredit cfg ctx id amount (run (step cfg) xs (genesis l)) = .ok s') ↔
          bankAccount = credit.citizen ∨ col.collateralNet + existentialDeposit L ≤
            freeBalance (run (step cfg) xs (genesis l)).ledger bankAccount +
              interestPaid cfg ctx amount credit)) ∧
    (Along (step cfg) (KeepsCovered cfg (existentialDeposit L)) xs (genesis l) →
      Along (step cfg) (fun s x => HasIdentifier s x.2) xs (genesis l) →
        ∀ ctx id amount credit col bankAccount l₁ l₂,
          PaysOff cfg ctx id amount (run (step cfg) xs (genesis l)) credit col bankAccount l₁ l₂ →
            ∃ s', repayCredit cfg ctx id amount (run (step cfg) xs (genesis l)) = .ok s') := by
  refine ⟨throughout_covers_iff 0 l, ?_, ?_⟩
  · intro ctx id amount credit col bankAccount l₁ l₂ hpays
    exact paysOff_iff (allNet_run l) hpays
  · intro hkeeps hid ctx id amount credit col bankAccount l₁ l₂ hpays
    have hcovers := ((throughout_covers_iff _ l).mpr hkeeps).last
    have hcovered := (covers_iff hpays.bank).mp hcovers
    -- the collateral of an active credit is among those the bank covers
    have hgoes := (cycle_run hid).linked.agrees_of_get hpays.stored hpays.collateral
    have hheld : col.collateralNet ≤ (run (step cfg) xs (genesis l)).held := by
      have hle := heldFor_le (run (step cfg) xs (genesis l)) credit.collateralId
      rw [heldFor_of_get hpays.collateral] at hle
      have hactive : col.status = .active := by
        rw [hgoes.2, hpays.active]
        rfl
      simpa [CollateralContract.held, hactive] using hle
    exact (paysOff_iff (allNet_run l) hpays).mpr (Or.inr (by omega))

/-- A citizen pays off a credit on which no interest is due. -/
theorem exists_paysOff (hsigner : ctx.origin = .signed credit.citizen) (hpos : 0 < amount)
    (hstored : s.creditContracts.get id = some credit) (hactive : credit.status = .active)
    (hbank : s.bankSpecialAccount = some bankAccount)
    (hinterest : interestPaid cfg ctx amount credit = 0)
    (hprincipal : 0 < principalRepaid cfg ctx amount credit)
    (hfunds : (Currency.withdraw s.ledger credit.citizen (principalRepaid cfg ctx amount credit)
      .keepAlive).isOk = true)
    (halive : existentialDeposit L + principalRepaid cfg ctx amount credit ≤
      freeBalance s.ledger credit.citizen)
    (hfull : fullyRepaid (repaidBy cfg ctx amount credit) = true)
    (hcol : s.collateralContracts.get credit.collateralId = some col)
    (hunlocked : ∀ lock, lockAmount s.ledger lock bankAccount = 0) :
    ∃ l₁ l₂, PaysOff cfg ctx id amount s credit col bankAccount l₁ l₂ := by
  obtain ⟨l₂, hl₂⟩ := exists_ok hfunds
  have hburned : Burned s.ledger l₂ credit.citizen (principalRepaid cfg ctx amount credit) :=
    Or.inr ⟨hprincipal, hl₂⟩
  have hfree := hburned.free credit.citizen
  rw [if_pos rfl] at hfree
  refine ⟨s.ledger, l₂, hsigner, hpos, hstored, hactive, hbank, ?_, hburned, hfull, by omega, hcol,
    hunlocked⟩
  exact Currency.transfer_noop _ _ _ _ _ (Or.inl hinterest)

end Funds

/-! ### The last collateral -/

/-- The bank keeps its account `bankAccount`; the citizen 7 locks the existential deposit and draws
a credit on it. -/
def leastCollateral (bankAccount : ℕ) : List (Extrinsic ℕ) :=
  [(operatorContext 1 .root, .setBankAccount bankAccount),
    (operatorContext 1 (.signed 7),
      .lockCollateral (existentialDeposit (NativeLedger ℕ)) .altanCoin),
    (operatorContext 1 (.signed 7), .requestCredit 0),
    (operatorContext 1 .root, .issueCredit 0)]

/-- The collateral, with its credit issued. -/
def leastActive : CollateralContract ℕ :=
  { lockedCollateral (operatorContext 1 (.signed 7)) 7 .altanCoin
      (existentialDeposit (NativeLedger ℕ)) with
    creditRequested := true
    status := .active }

/-- The credit. -/
def leastCredit : CreditContract ℕ :=
  issuedCredit bankOperator (operatorContext 1 .root) 0 leastActive operatorGenesis

/-- The credit is paid off in the block it was issued in. -/
theorem leastCredit_paysOff {bankAccount : ℕ} (h : bankAccount = 2 ∨ bankAccount = 3) :
    ∃ l₁ l₂, PaysOff bankOperator (operatorContext 1 (.signed 7)) 0 leastCredit.outstanding
      (run (step bankOperator) (leastCollateral bankAccount) operatorGenesis) leastCredit
      leastActive bankAccount l₁ l₂ := by
  have hlock : ∀ lock, lockAmount (run (step bankOperator) (leastCollateral bankAccount)
      operatorGenesis).ledger lock bankAccount = 0 := by
    intro lock
    rw [lockAmount_run]
    exact Balances.ofFree_lockAmount _ lock bankAccount
  rcases h with rfl | rfl
  · exact exists_paysOff rfl (by decide +kernel) (by decide +kernel) rfl (by decide +kernel)
      (by decide +kernel) (by decide +kernel) (by decide +kernel) (by decide +kernel)
      (by decide +kernel) (by decide +kernel) hlock
  · exact exists_paysOff rfl (by decide +kernel) (by decide +kernel) rfl (by decide +kernel)
      (by decide +kernel) (by decide +kernel) (by decide +kernel) (by decide +kernel)
      (by decide +kernel) (by decide +kernel) hlock

/-- The bank has funds of its own: its only collateral is given back. -/
theorem collateral_custody_least :
    ∃ s', repayCredit bankOperator (operatorContext 1 (.signed 7)) 0 leastCredit.outstanding
      (run (step bankOperator) (leastCollateral 2) (genesis operatorGenesis.ledger)) = .ok s' := by
  obtain ⟨l₁, l₂, hpays⟩ := leastCredit_paysOff (Or.inl rfl)
  exact collateral_custody.2.2 (by decide +kernel) (by decide +kernel) _ _ _ _ _ _ l₁ l₂ hpays

/-- The account is replaced while ninety units are held, and the new one has none of them; and an
account with nothing but the existential deposit locked by a citizen does not give it back. -/
theorem custody_lost :
    (¬ ∀ xs, Throughout (step bankOperator) (Covers 0) xs operatorGenesis) ∧
      ¬ ∀ xs ctx id amount credit col bankAccount l₁ l₂,
        PaysOff bankOperator ctx id amount (run (step bankOperator) xs operatorGenesis) credit col
          bankAccount l₁ l₂ →
        ∃ s', repayCredit bankOperator ctx id amount
          (run (step bankOperator) xs operatorGenesis) = .ok s' := by
  constructor
  · intro h
    have hcovers := (h [(operatorContext 1 .root, .setBankAccount 2),
      (operatorContext 1 (.signed 7), .lockCollateral (100 * CentralBank.unit) .altanCoin),
      (operatorContext 1 .root, .setBankAccount 3)]).last
    exact absurd hcovers (by decide +kernel)
  · intro h
    obtain ⟨l₁, l₂, hpays⟩ := leastCredit_paysOff (Or.inr rfl)
    obtain ⟨s', hs'⟩ := h _ _ _ _ _ _ _ l₁ l₂ hpays
    have hok := (congrArg Except.isOk hs').trans (rfl : _ = true)
    exact absurd hok (by decide +kernel)

end BankOperator
