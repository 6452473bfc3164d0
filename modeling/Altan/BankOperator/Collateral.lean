import Altan.BankOperator.Spec
import Altan.Foundation.Accounting
import Altan.Foundation.Links
import Altan.Foundation.Register

/-!
# The life of a collateral

A collateral is locked, backs the one credit issued on it, and is given back when that credit is
repaid. The two families of records are linked: every credit refers to a collateral of its own,
whose status follows that of the credit. What the calls move on the ledger is kept as a history
beside the state, from which one reads who locked a collateral and what was given back for it.

## Main definitions

* `Movement`, `Call.movements`: what a call moves on the ledger
* `performAll`: movements carried out one after the other
* `Cycle`: the invariant of the two families
* `LifeCycle`: what the statuses of collaterals and credits say of each other
* `Recorded`: what the history says of the collaterals

## Main results

* `step_performed`: the movements of a call are what it does to the ledger
* `cycle_step`, `recorded_step`: one call
* `collateral_lifeCycle`: a run
-/

open Bounded Dispatch Ledger TransitionSystem Runtime

namespace BankOperator

variable {AccountId L : Type} {cfg : Config} {ctx : Context AccountId} {s s' : State AccountId L}
  {x : Extrinsic AccountId} {xs : List (Extrinsic AccountId)} {l l' : L} {id amount : ℕ}
  {col : CollateralContract AccountId} {credit : CreditContract AccountId}

/-! ### Movements on the ledger -/

/-- A movement on the ledger, with what it is for. -/
inductive Movement (AccountId : Type)
  | collateral (id : ℕ) (citizen bankAccount : AccountId) (amount : ℕ)
  | credit (citizen : AccountId) (amount : ℕ)
  | interest (citizen bankAccount : AccountId) (amount : ℕ)
  | principal (citizen : AccountId) (amount : ℕ)
  | refund (id : ℕ) (bankAccount citizen : AccountId) (amount : ℕ)
  deriving DecidableEq

section Performance

variable [Currency AccountId L]

/-- Carry out one movement. -/
def Movement.perform : Movement AccountId → L → Except CurrencyError L
  | .collateral _ citizen bankAccount amount, l =>
    Currency.transfer l citizen bankAccount amount .keepAlive
  | .credit citizen amount, l => .ok (Currency.depositCreating l citizen amount)
  | .interest citizen bankAccount amount, l =>
    Currency.transfer l citizen bankAccount amount .keepAlive
  | .principal citizen amount, l =>
    if 0 < amount then Currency.withdraw l citizen amount .keepAlive else .ok l
  | .refund _ bankAccount citizen amount, l =>
    Currency.transfer l bankAccount citizen amount .keepAlive

/-- Carry out movements one after the other. -/
def performAll : List (Movement AccountId) → L → Except CurrencyError L
  | [], l => .ok l
  | m :: ms, l => m.perform l >>= performAll ms

@[simp] theorem performAll_nil (l : L) : performAll [] l = .ok l := rfl

theorem performAll_cons {m : Movement AccountId} {ms : List (Movement AccountId)} :
    performAll (m :: ms) l = .ok l' ↔ ∃ l₁, m.perform l = .ok l₁ ∧ performAll ms l₁ = .ok l' :=
  bind_eq_ok

theorem performAll_append {ms ms' : List (Movement AccountId)} {l₁ : L}
    (h : performAll ms l = .ok l₁) : performAll (ms ++ ms') l = performAll ms' l₁ := by
  induction ms generalizing l with
  | nil =>
    cases h
    rfl
  | cons m ms ih =>
    obtain ⟨l₂, hm, hms⟩ := performAll_cons.mp h
    rw [List.cons_append, performAll, hm]
    exact ih hms

theorem perform_principal {citizen : AccountId} :
    (Movement.principal citizen amount).perform l = .ok l' ↔ Burned l l' citizen amount := by
  by_cases hpos : 0 < amount
  · simp [Movement.perform, Burned, hpos, hpos.ne']
  · obtain rfl : amount = 0 := Nat.eq_zero_of_not_pos hpos
    simp [Movement.perform, Burned, eq_comm]

end Performance

/-- What goes back to the citizen when a credit is repaid in full. -/
def refundMovements (bankAccount : AccountId) (credit : CreditContract AccountId)
    (s : State AccountId L) : List (Movement AccountId) :=
  match s.collateralContracts.get credit.collateralId with
  | some col => [.refund credit.collateralId bankAccount credit.citizen col.collateralNet]
  | none => []

/-- What a call moves on the ledger. -/
def Call.movements (cfg : Config) (ctx : Context AccountId) (s : State AccountId L) :
    Call AccountId → List (Movement AccountId)
  | .lockCollateral amount _ =>
    match ctx.origin, s.bankSpecialAccount with
    | .signed citizen, some bankAccount =>
      [.collateral s.nextCollateralId citizen bankAccount amount]
    | _, _ => []
  | .issueCredit id =>
    match s.collateralContracts.get id with
    | some col => [.credit col.citizen (creditAmount cfg col)]
    | none => []
  | .repayCredit id amount =>
    match s.creditContracts.get id, s.bankSpecialAccount with
    | some credit, some bankAccount =>
      [.interest credit.citizen bankAccount (interestPaid cfg ctx amount credit),
        .principal credit.citizen (principalRepaid cfg ctx amount credit)] ++
        if fullyRepaid (repaidBy cfg ctx amount credit) = true then
          refundMovements bankAccount credit s
        else []
    | _, _ => []
  | _ => []

theorem movements_lockCollateral {citizen bankAccount : AccountId} (assetType : AssetType)
    (horigin : ctx.origin = .signed citizen) (hbank : s.bankSpecialAccount = some bankAccount) :
    (Call.lockCollateral amount assetType).movements cfg ctx s =
      [.collateral s.nextCollateralId citizen bankAccount amount] := by
  simp only [Call.movements, horigin, hbank]

theorem movements_issueCredit (hget : s.collateralContracts.get id = some col) :
    (Call.issueCredit id).movements cfg ctx s = [.credit col.citizen (creditAmount cfg col)] := by
  simp only [Call.movements, hget]

/-- What a repayment moves before anything is given back. -/
def paymentMovements (cfg : Config) (ctx : Context AccountId) (amount : ℕ) (bankAccount : AccountId)
    (credit : CreditContract AccountId) : List (Movement AccountId) :=
  [.interest credit.citizen bankAccount (interestPaid cfg ctx amount credit),
    .principal credit.citizen (principalRepaid cfg ctx amount credit)]

theorem movements_repayCredit {bankAccount : AccountId}
    (hget : s.creditContracts.get id = some credit)
    (hbank : s.bankSpecialAccount = some bankAccount) :
    (Call.repayCredit id amount).movements cfg ctx s =
      paymentMovements cfg ctx amount bankAccount credit ++
        if fullyRepaid (repaidBy cfg ctx amount credit) = true then
          refundMovements bankAccount credit s
        else [] := by
  simp only [Call.movements, hget, hbank, paymentMovements]

theorem refundMovements_of_get {bankAccount : AccountId}
    (hget : s.collateralContracts.get credit.collateralId = some col) :
    refundMovements bankAccount credit s =
      [.refund credit.collateralId bankAccount credit.citizen col.collateralNet] := by
  simp only [refundMovements, hget]

/-- **The movements of a call are what it does to the ledger.** -/
theorem step_performed [DecidableEq AccountId] [Currency AccountId L]
    (h : step cfg x s = .ok s') :
    performAll (x.2.movements cfg x.1 s) s.ledger = .ok s'.ledger := by
  obtain ⟨ctx, call⟩ := x
  cases call with
  | setBankAccount account =>
    obtain ⟨-, rfl⟩ := setBankAccount_eq_ok.mp h
    rfl
  | assessRwa citizen assetType value =>
    obtain ⟨-, rfl⟩ := (assessRwa_eq_ok citizen assetType value).mp h
    rfl
  | lockCollateral amount assetType =>
    obtain ⟨citizen, horigin, -, bankAccount, hbank, l', hl', rfl⟩ := lockCollateral_eq_ok.mp h
    rw [movements_lockCollateral assetType horigin hbank]
    exact performAll_cons.mpr ⟨l', hl', rfl⟩
  | requestCredit id =>
    obtain ⟨_, -, _, -, -, -, -, rfl⟩ := requestCredit_eq_ok.mp h
    rfl
  | issueCredit id =>
    obtain ⟨-, -, col, hget, -, -, rfl⟩ := issueCredit_eq_ok.mp h
    rw [movements_issueCredit hget]
    exact performAll_cons.mpr ⟨_, rfl, rfl⟩
  | accrueInterest id =>
    obtain ⟨-, -, credit, -, -, rfl⟩ := accrueInterest_eq_ok.mp h
    split <;> rfl
  | repayCredit id amount =>
    obtain ⟨credit, bankAccount, l₁, l₂, hrepay, houtcome⟩ := repayCredit_outcome h
    have hpaid : performAll (paymentMovements cfg ctx amount bankAccount credit) s.ledger =
        .ok l₂ :=
      performAll_cons.mpr ⟨l₁, hrepay.interest,
        performAll_cons.mpr ⟨l₂, perform_principal.mpr hrepay.principal, rfl⟩⟩
    rw [movements_repayCredit hrepay.stored hrepay.bank, performAll_append hpaid]
    -- what is given back comes after the payment
    rcases houtcome with ⟨hfull, -, col, hcol, -, hl₃⟩ | ⟨hfull, -, -, hl₂⟩
    · rw [if_pos hfull, refundMovements_of_get hcol]
      exact performAll_cons.mpr ⟨_, hl₃, rfl⟩
    · rw [if_neg (by simp [hfull]), hl₂]
      rfl
  | declareDefault id =>
    obtain ⟨-, credit, -, -, rfl⟩ := declareDefault_eq_ok.mp h
    rfl
  | requestAccountFreeze citizen reason =>
    obtain ⟨-, rfl⟩ := (requestAccountFreeze_eq_ok citizen reason).mp h
    rfl

/-! ### The two families of records -/

/-- The status of a collateral that backs a credit. -/
def CreditStatus.backing : CreditStatus → CollateralStatus
  | .active => .active
  | .repaid => .released
  | .default => .active

/-- A collateral goes with the credit issued on it. -/
def GoesWith (col : CollateralContract AccountId) (credit : CreditContract AccountId) : Prop :=
  col.citizen = credit.citizen ∧ col.status = credit.status.backing

/-- A collateral backs no credit yet. -/
def IsLocked (col : CollateralContract AccountId) : Prop := col.status = .locked

theorem GoesWith.not_locked (h : GoesWith col credit) : ¬ IsLocked col := by
  unfold IsLocked
  rw [h.2]
  cases credit.status <;> simp [CreditStatus.backing]

/-- The collaterals under their identifiers. -/
def State.collaterals (s : State AccountId L) : Register (CollateralContract AccountId) where
  records := s.collateralContracts
  next := s.nextCollateralId

/-- The credits under their identifiers. -/
def State.credits (s : State AccountId L) : Register (CreditContract AccountId) where
  records := s.creditContracts
  next := s.nextCreditId

/-- Nothing is owed on exactly the credits that are repaid. -/
def Settles (credit : CreditContract AccountId) : Prop :=
  credit.status = .repaid ↔ credit.outstanding = 0 ∧ credit.accruedInterest = 0

/-- What goes back for a collateral is what was locked less the fee, and not nothing. -/
def NetOfFee (col : CollateralContract AccountId) : Prop :=
  col.collateralNet = col.collateralAmount - col.collateralAmount / 10 ∧ 0 < col.collateralNet

/-- Every collateral has a net amount to go back. -/
def AllNet (s : State AccountId L) : Prop :=
  ∀ id col, s.collateralContracts.get id = some col → NetOfFee col

/-- The invariant of the two families of records. -/
structure Cycle (s : State AccountId L) : Prop where
  linked : Linked CreditContract.collateralId GoesWith IsLocked s.collateralContracts
    s.creditContracts
  settles : ∀ id credit, s.creditContracts.get id = some credit → Settles credit
  net : AllNet s
  collaterals : s.collaterals.Fresh
  credits : s.credits.Fresh

/-- A record is opened under an identifier before the end of their range. -/
def HasIdentifier (s : State AccountId L) : Call AccountId → Prop
  | .lockCollateral _ _ => s.nextCollateralId < u32Max
  | .issueCredit _ => s.nextCreditId < u32Max
  | _ => True

instance (s : State AccountId L) (call : Call AccountId) : Decidable (HasIdentifier s call) := by
  unfold HasIdentifier
  split <;> infer_instance

theorem cycle_genesis (l : L) : Cycle (genesis l : State AccountId L) where
  linked := Linked.empty
  settles id credit h := by cases h
  net id col h := by cases h
  collaterals id _ := rfl
  credits id _ := rfl

/-- A property of all entries is kept by an entry that has it. -/
theorem forall_insert {A : Type} {m : StorageMap ℕ A} {p : A → Prop} {a : A}
    (h : ∀ id a, m.get id = some a → p a) (ha : p a) (id : ℕ) :
    ∀ id' a', (m.insert id a).get id' = some a' → p a' := by
  intro id' a' hget
  rw [StorageMap.get_insert] at hget
  split at hget
  · rwa [← Option.some.inj hget]
  · exact h id' a' hget

theorem GoesWith.of_same {col' : CollateralContract AccountId}
    (hcitizen : col'.citizen = col.citizen) (hstatus : col'.status = col.status)
    (h : GoesWith col credit) : GoesWith col' credit :=
  ⟨hcitizen.trans h.1, hstatus.trans h.2⟩

/-- The records as a call changes them: nothing else in the state matters. -/
theorem Cycle.congr (h : Cycle s) (hcols : s'.collateralContracts = s.collateralContracts)
    (hnext : s'.nextCollateralId = s.nextCollateralId)
    (hcredits : s'.creditContracts = s.creditContracts)
    (hnext' : s'.nextCreditId = s.nextCreditId) : Cycle s' := by
  have hregister : s'.collaterals = s.collaterals := by
    rw [State.collaterals, hcols, hnext]
    rfl
  have hregister' : s'.credits = s.credits := by
    rw [State.credits, hcredits, hnext']
    rfl
  refine ⟨?_, ?_, ?_, hregister ▸ h.collaterals, hregister' ▸ h.credits⟩
  · rw [hcols, hcredits]
    exact h.linked
  · rw [hcredits]
    exact h.settles
  · unfold AllNet
    rw [hcols]
    exact h.net

/-- An active credit changes on its own. -/
theorem Cycle.update_credit (h : Cycle s) (credit' : CreditContract AccountId)
    (hget : s.creditContracts.get id = some credit)
    (hcitizen : credit'.citizen = credit.citizen)
    (href : credit'.collateralId = credit.collateralId)
    (hbacking : credit'.status.backing = credit.status.backing) (hsettles : Settles credit')
    (hcols : s'.collateralContracts = s.collateralContracts)
    (hnext : s'.nextCollateralId = s.nextCollateralId)
    (hcredits : s'.creditContracts = s.creditContracts.insert id credit')
    (hnext' : s'.nextCreditId = s.nextCreditId) : Cycle s' where
  linked := by
    rw [hcols, hcredits]
    refine h.linked.update_ref hget href fun col hgoes => ?_
    exact ⟨hgoes.1.trans hcitizen.symm, hgoes.2.trans hbacking.symm⟩
  settles := by
    rw [hcredits]
    exact forall_insert h.settles hsettles id
  net := by
    unfold AllNet
    rw [hcols]
    exact h.net
  collaterals := by
    rw [State.collaterals, hcols, hnext]
    exact h.collaterals
  credits := by
    rw [State.credits, hcredits, hnext']
    exact h.credits.insert_of_get hget credit'

/-- What is owed on an active credit is not nothing, before or after interest is accrued. -/
theorem accrueLazily_settles (hactive : credit.status = .active) (h : Settles credit) :
    Settles (accrueLazily cfg ctx credit) := by
  have howed : ¬ (credit.outstanding = 0 ∧ credit.accruedInterest = 0) := by
    intro hzero
    have hrepaid := h.mpr hzero
    rw [hactive] at hrepaid
    cases hrepaid
  refine iff_of_false ?_ ?_
  · show credit.status ≠ .repaid
    rw [hactive]
    simp
  · show ¬ (credit.outstanding = 0 ∧ min (credit.accruedInterest + _) u128Max = 0)
    unfold u128Max
    omega

theorem lockedCollateral_net {citizen : AccountId} {assetType : AssetType} (h : 0 < amount) :
    NetOfFee (lockedCollateral ctx citizen assetType amount) := by
  refine ⟨rfl, ?_⟩
  show 0 < amount - amount / 10
  omega

theorem repaidBy_settles (hactive : credit.status = .active)
    (h : fullyRepaid (repaidBy cfg ctx amount credit) = false) :
    Settles (repaidBy cfg ctx amount credit) := by
  unfold Settles
  refine iff_of_false ?_ (of_decide_eq_false h)
  show credit.status ≠ .repaid
  rw [hactive]
  simp

section Steps

variable [DecidableEq AccountId]

theorem issuedCredit_settles (hnine : cfg.reserveMultiplier = 9) (hnet : NetOfFee col) :
    Settles (issuedCredit cfg ctx id col s) := by
  refine iff_of_false (by simp [issuedCredit]) ?_
  show ¬ (creditAmount cfg col = 0 ∧ 0 = 0)
  have hpos := hnet.2
  unfold creditAmount saturatingMul u128Max
  rw [hnine]
  omega

variable [Currency AccountId L]

/-- Every call leaves every collateral with a net amount. -/
theorem allNet_step (hnet : AllNet s) (h : step cfg x s = .ok s') : AllNet s' := by
  obtain ⟨ctx, call⟩ := x
  cases call with
  | setBankAccount account =>
    obtain ⟨-, rfl⟩ := setBankAccount_eq_ok.mp h
    exact hnet
  | assessRwa citizen assetType value =>
    obtain ⟨-, rfl⟩ := (assessRwa_eq_ok citizen assetType value).mp h
    exact hnet
  | lockCollateral amount assetType =>
    obtain ⟨citizen, -, hpos, _, -, l', -, rfl⟩ := lockCollateral_eq_ok.mp h
    exact forall_insert hnet (lockedCollateral_net hpos) _
  | requestCredit id =>
    obtain ⟨_, -, col, hget, -, -, -, rfl⟩ := requestCredit_eq_ok.mp h
    refine forall_insert hnet ?_ _
    exact hnet id col hget
  | issueCredit id =>
    obtain ⟨-, -, col, hget, -, -, rfl⟩ := issueCredit_eq_ok.mp h
    refine forall_insert hnet ?_ _
    exact hnet id col hget
  | accrueInterest id =>
    obtain ⟨-, -, credit, -, -, rfl⟩ := accrueInterest_eq_ok.mp h
    split <;> exact hnet
  | repayCredit id amount =>
    obtain ⟨credit, _, _, _, -, houtcome⟩ := repayCredit_outcome h
    unfold AllNet
    rcases houtcome with ⟨-, -, col, hcol, hcols, -⟩ | ⟨-, -, hcols, -⟩
    · rw [hcols]
      refine forall_insert hnet ?_ _
      exact hnet credit.collateralId col hcol
    · rw [hcols]
      exact hnet
  | declareDefault id =>
    obtain ⟨-, credit, -, -, rfl⟩ := declareDefault_eq_ok.mp h
    exact hnet
  | requestAccountFreeze citizen reason =>
    obtain ⟨-, rfl⟩ := (requestAccountFreeze_eq_ok citizen reason).mp h
    exact hnet

/-- **The invariant of the two families is kept by every call.** -/
theorem cycle_step (hcycle : Cycle s) (hid : HasIdentifier s x.2) (h : step cfg x s = .ok s') :
    Cycle s' := by
  have hnet' := allNet_step hcycle.net h
  obtain ⟨ctx, call⟩ := x
  cases call with
  | setBankAccount account =>
    obtain ⟨-, rfl⟩ := setBankAccount_eq_ok.mp h
    exact hcycle.congr rfl rfl rfl rfl
  | assessRwa citizen assetType value =>
    obtain ⟨-, rfl⟩ := (assessRwa_eq_ok citizen assetType value).mp h
    exact hcycle
  | lockCollateral amount assetType =>
    obtain ⟨citizen, -, hpos, _, -, l', -, rfl⟩ := lockCollateral_eq_ok.mp h
    refine ⟨?_, hcycle.settles, hnet', hcycle.collaterals.insert_next hid _, hcycle.credits⟩
    exact hcycle.linked.insert_idle (hcycle.collaterals _ (Nat.le_refl _)) rfl
  | requestCredit id =>
    obtain ⟨_, -, col, hget, -, -, -, rfl⟩ := requestCredit_eq_ok.mp h
    refine ⟨?_, hcycle.settles, hnet', hcycle.collaterals.insert_of_get hget _, hcycle.credits⟩
    exact hcycle.linked.update hget (fun _ hgoes => hgoes.of_same rfl rfl) fun hlocked => hlocked
  | issueCredit id =>
    obtain ⟨-, hnine, col, hget, hlocked, -, rfl⟩ := issueCredit_eq_ok.mp h
    have hnet := hcycle.net id col hget
    refine ⟨?_, forall_insert hcycle.settles (issuedCredit_settles hnine hnet) _, hnet',
      hcycle.collaterals.insert_of_get hget _, hcycle.credits.insert_next hid _⟩
    exact hcycle.linked.link (b := issuedCredit cfg ctx id col s) (fun _ _ => GoesWith.not_locked)
      hget hlocked (hcycle.credits _ (Nat.le_refl _)) ⟨rfl, rfl⟩
  | accrueInterest id =>
    obtain ⟨-, -, credit, hget, hactive, rfl⟩ := accrueInterest_eq_ok.mp h
    split
    · have hsettles : Settles (accrueLazily cfg ctx credit) :=
        accrueLazily_settles hactive (hcycle.settles id credit hget)
      exact hcycle.update_credit (accrueLazily cfg ctx credit) hget rfl rfl rfl hsettles rfl rfl rfl
        rfl
    · exact hcycle
  | repayCredit id amount =>
    obtain ⟨credit, bankAccount, l₁, l₂, hrepay, houtcome⟩ := repayCredit_outcome h
    rcases houtcome with ⟨hfull, hcredits, col, hcol, hcols, -⟩ | ⟨hopen, hcredits, hcols, -⟩
    -- the credit is closed and its collateral released
    · refine ⟨?_, ?_, hnet', ?_, ?_⟩
      · rw [hcols, hcredits]
        refine hcycle.linked.update_pair hrepay.stored rfl ⟨?_, rfl⟩
        exact (hcycle.linked.agrees_of_get hrepay.stored hcol).1
      · rw [hcredits]
        refine forall_insert hcycle.settles ?_ id
        exact iff_of_true rfl (of_decide_eq_true hfull)
      · rw [State.collaterals, hcols, hrepay.nextCollateral]
        exact hcycle.collaterals.insert_of_get hcol _
      · rw [State.credits, hcredits, hrepay.nextCredit]
        exact hcycle.credits.insert_of_get hrepay.stored _
    · have hsettles := repaidBy_settles hrepay.active hopen
      exact hcycle.update_credit (repaidBy cfg ctx amount credit) hrepay.stored rfl rfl rfl hsettles
        hcols hrepay.nextCollateral hcredits hrepay.nextCredit
  | declareDefault id =>
    obtain ⟨-, credit, hget, hactive, rfl⟩ := declareDefault_eq_ok.mp h
    have howed := hcycle.settles id credit hget
    refine hcycle.update_credit { credit with status := .default } hget rfl rfl ?_ ?_ rfl rfl rfl
      rfl
    · rw [hactive]
      rfl
    · unfold Settles at howed ⊢
      rw [hactive] at howed
      exact iff_of_false (by simp) (by simpa using howed)
  | requestAccountFreeze citizen reason =>
    obtain ⟨-, rfl⟩ := (requestAccountFreeze_eq_ok citizen reason).mp h
    exact hcycle

end Steps

/-! ### The history of a collateral -/

/-- Who locked a collateral, and how much. -/
def Movement.lockedFor (id : ℕ) : Movement AccountId → Option (AccountId × ℕ)
  | .collateral id' citizen _ amount => if id = id' then some (citizen, amount) else none
  | _ => none

/-- Who was given back a collateral, and how much. -/
def Movement.refundedFor (id : ℕ) : Movement AccountId → Option (AccountId × ℕ)
  | .refund id' _ citizen amount => if id = id' then some (citizen, amount) else none
  | _ => none

/-- Who locked the collateral of an entry, and how much. -/
def lockEntries : Option (CollateralContract AccountId) → List (AccountId × ℕ)
  | some col => [(col.citizen, col.collateralAmount)]
  | none => []

/-- Who has been given back the collateral of an entry, and how much. -/
def refundEntries : Option (CollateralContract AccountId) → List (AccountId × ℕ)
  | some col => if col.status = .released then [(col.citizen, col.collateralNet)] else []
  | none => []

/-- What the history of movements says of the collaterals: who locked each of them, and that it was
given back to him once if it is released, and not at all otherwise. -/
structure Recorded (s : State AccountId L) (ms : List (Movement AccountId)) : Prop where
  locked : ∀ id, ms.filterMap (Movement.lockedFor id) =
    lockEntries (s.collateralContracts.get id)
  refunded : ∀ id, ms.filterMap (Movement.refundedFor id) =
    refundEntries (s.collateralContracts.get id)

/-- Reading entries of a map after one of them is written. -/
theorem entries_insert {A B : Type} {m : StorageMap ℕ A} {a : A} (f : Option A → List B)
    (new : List B) (h : f (some a) = f (m.get id) ++ new) (id' : ℕ) :
    f ((m.insert id a).get id') = f (m.get id') ++ if id' = id then new else [] := by
  rw [StorageMap.get_insert]
  split
  · next he => rw [he, h]
  · exact (List.append_nil _).symm

/-- Reading entries of a map after one of them is written with the same. -/
theorem entries_unchanged {A B : Type} {m : StorageMap ℕ A} {a : A} (f : Option A → B)
    (h : f (some a) = f (m.get id)) (id' : ℕ) : f ((m.insert id a).get id') = f (m.get id') := by
  rw [StorageMap.get_insert]
  split
  · next he => rw [he, h]
  · rfl

/-- The history with the movements of one more call. -/
theorem Recorded.append {ms new : List (Movement AccountId)} (h : Recorded s ms)
    (hlocked : ∀ id, lockEntries (s'.collateralContracts.get id) =
      lockEntries (s.collateralContracts.get id) ++ new.filterMap (Movement.lockedFor id))
    (hrefunded : ∀ id, refundEntries (s'.collateralContracts.get id) =
      refundEntries (s.collateralContracts.get id) ++ new.filterMap (Movement.refundedFor id)) :
    Recorded s' (ms ++ new) where
  locked id := by rw [List.filterMap_append, h.locked, hlocked]
  refunded id := by rw [List.filterMap_append, h.refunded, hrefunded]

/-- A collateral changes, and neither who locked it nor whether it is released. -/
theorem Recorded.update {ms new : List (Movement AccountId)} (h : Recorded s ms)
    {col' : CollateralContract AccountId} (hget : s.collateralContracts.get id = some col)
    (hcols : s'.collateralContracts = s.collateralContracts.insert id col')
    (hlock : lockEntries (some col') = lockEntries (some col))
    (hrefund : refundEntries (some col') = refundEntries (some col))
    (hnone : ∀ id, new.filterMap (Movement.lockedFor id) = [])
    (hnone' : ∀ id, new.filterMap (Movement.refundedFor id) = []) : Recorded s' (ms ++ new) := by
  apply h.append
  · intro id'
    rw [hnone, List.append_nil, hcols]
    exact entries_unchanged lockEntries (hget ▸ hlock) id'
  · intro id'
    rw [hnone', List.append_nil, hcols]
    exact entries_unchanged refundEntries (hget ▸ hrefund) id'

theorem Recorded.congr {ms new : List (Movement AccountId)} (h : Recorded s ms)
    (hcols : s'.collateralContracts = s.collateralContracts)
    (hnone : ∀ id, new.filterMap (Movement.lockedFor id) = [])
    (hnone' : ∀ id, new.filterMap (Movement.refundedFor id) = []) : Recorded s' (ms ++ new) := by
  apply h.append
  · intro id
    rw [hcols, hnone, List.append_nil]
  · intro id
    rw [hcols, hnone', List.append_nil]

section History

variable [DecidableEq AccountId] [Currency AccountId L]

/-- **Every call is recorded as what it does to the collaterals.** -/
theorem recorded_step {ms : List (Movement AccountId)} (hcycle : Cycle s) (hrec : Recorded s ms)
    (h : step cfg x s = .ok s') : Recorded s' (ms ++ x.2.movements cfg x.1 s) := by
  obtain ⟨ctx, call⟩ := x
  cases call with
  | setBankAccount account =>
    obtain ⟨-, rfl⟩ := setBankAccount_eq_ok.mp h
    exact hrec.congr rfl (fun _ => rfl) fun _ => rfl
  | assessRwa citizen assetType value =>
    obtain ⟨-, rfl⟩ := (assessRwa_eq_ok citizen assetType value).mp h
    exact hrec.congr rfl (fun _ => rfl) fun _ => rfl
  | lockCollateral amount assetType =>
    obtain ⟨citizen, horigin, -, bankAccount, hbank, l', -, rfl⟩ := lockCollateral_eq_ok.mp h
    have hfree : s.collateralContracts.get s.nextCollateralId = none :=
      hcycle.collaterals _ (Nat.le_refl _)
    rw [movements_lockCollateral assetType horigin hbank]
    apply hrec.append
    · intro id
      refine (entries_insert lockEntries [(citizen, amount)] ?_ id).trans ?_
      · rw [hfree]
        rfl
      · simp only [List.filterMap_cons, Movement.lockedFor, List.filterMap_nil]
        split <;> rfl
    · intro id
      refine (entries_unchanged refundEntries ?_ id).trans (List.append_nil _).symm
      rw [hfree]
      rfl
  | requestCredit id =>
    obtain ⟨_, -, col, hget, -, -, -, rfl⟩ := requestCredit_eq_ok.mp h
    exact hrec.update hget rfl rfl rfl (fun _ => rfl) fun _ => rfl
  | issueCredit id =>
    obtain ⟨-, -, col, hget, hlocked, -, rfl⟩ := issueCredit_eq_ok.mp h
    rw [movements_issueCredit hget]
    refine hrec.update hget rfl rfl ?_ (fun _ => rfl) fun _ => rfl
    simp [refundEntries, hlocked]
  | accrueInterest id =>
    obtain ⟨-, -, credit, -, -, rfl⟩ := accrueInterest_eq_ok.mp h
    refine hrec.congr ?_ (fun _ => rfl) fun _ => rfl
    split <;> rfl
  | repayCredit id amount =>
    obtain ⟨credit, bankAccount, l₁, l₂, hrepay, houtcome⟩ := repayCredit_outcome h
    rw [movements_repayCredit hrepay.stored hrepay.bank]
    rcases houtcome with ⟨hfull, -, col, hcol, hcols, -⟩ | ⟨hopen, -, hcols, -⟩
    -- the collateral backed an active credit of its citizen, and is released now
    · have hgoes := hcycle.linked.agrees_of_get hrepay.stored hcol
      have hactive : col.status = .active := by
        rw [hgoes.2, hrepay.active]
        rfl
      rw [if_pos hfull, refundMovements_of_get hcol]
      apply hrec.append
      · intro id'
        rw [hcols]
        refine (entries_unchanged lockEntries ?_ id').trans (List.append_nil _).symm
        rw [hcol]
        rfl
      · intro id'
        rw [hcols]
        refine (entries_insert refundEntries [(col.citizen, col.collateralNet)] ?_ id').trans ?_
        · simp [hcol, refundEntries, hactive]
        · rw [hgoes.1]
          simp only [paymentMovements, List.cons_append, List.nil_append, List.filterMap_cons,
            Movement.refundedFor, List.filterMap_nil]
          split <;> rfl
    · rw [if_neg (by simp [hopen])]
      exact hrec.congr hcols (fun _ => rfl) fun _ => rfl
  | declareDefault id =>
    obtain ⟨-, credit, -, -, rfl⟩ := declareDefault_eq_ok.mp h
    exact hrec.congr rfl (fun _ => rfl) fun _ => rfl
  | requestAccountFreeze citizen reason =>
    obtain ⟨-, rfl⟩ := (requestAccountFreeze_eq_ok citizen reason).mp h
    exact hrec.congr rfl (fun _ => rfl) fun _ => rfl

end History

/-! ### Runs -/

/-- The call locks a collateral. -/
def Call.locks : Call AccountId → Bool
  | .lockCollateral _ _ => true
  | _ => false

/-- What the statuses of collaterals and credits say of each other. -/
structure LifeCycle (s : State AccountId L) : Prop where
  single : ∀ i j credit credit', s.creditContracts.get i = some credit →
    s.creditContracts.get j = some credit' → credit.collateralId = credit'.collateralId → i = j
  locked : ∀ id col, s.collateralContracts.get id = some col → (col.status = .locked ↔
    ∀ i credit, s.creditContracts.get i = some credit → credit.collateralId ≠ id)
  active : ∀ id col, s.collateralContracts.get id = some col → (col.status = .active ↔
    ∃ i credit, s.creditContracts.get i = some credit ∧ credit.collateralId = id ∧
      (credit.status = .active ∨ credit.status = .default))
  released : ∀ id col, s.collateralContracts.get id = some col → (col.status = .released ↔
    ∃ i credit, s.creditContracts.get i = some credit ∧ credit.collateralId = id ∧
      credit.status = .repaid)
  repaid : ∀ i credit, s.creditContracts.get i = some credit → (credit.status = .repaid ↔
    credit.outstanding = 0 ∧ credit.accruedInterest = 0)

theorem Cycle.lifeCycle (h : Cycle s) : LifeCycle s where
  single := h.linked.unique
  locked id col hget := h.linked.idle_iff hget fun _ _ => GoesWith.not_locked
  active id col hget := by
    refine h.linked.status_iff (p := fun col => col.status = .active) hget ?_ ?_
    · intro col hlocked hactive
      rw [show col.status = .locked from hlocked] at hactive
      cases hactive
    · intro col credit hgoes
      rw [hgoes.2]
      cases credit.status <;> simp [CreditStatus.backing]
  released id col hget := by
    refine h.linked.status_iff (p := fun col => col.status = .released) hget ?_ ?_
    · intro col hlocked hreleased
      rw [show col.status = .locked from hlocked] at hreleased
      cases hreleased
    · intro col credit hgoes
      rw [hgoes.2]
      cases credit.status <;> simp [CreditStatus.backing]
  repaid := h.settles

section Runs

variable [DecidableEq AccountId] [Currency AccountId L]

/-- The state after a run from empty storage, and all that the run moved on the ledger. -/
def history (cfg : Config) (l : L) (xs : List (Extrinsic AccountId)) :
    State AccountId L × List (Movement AccountId) :=
  run (recording (fun s x ms => ms ++ x.2.movements cfg x.1 s) (step cfg)) xs (genesis l, [])

theorem history_state (l : L) : (history cfg l xs).1 = run (step cfg) xs (genesis l) :=
  run_recording xs _

theorem nextCreditId_le (h : step cfg x s = .ok s') :
    s'.nextCreditId ≤ s.nextCreditId + if x.2.issues = true then 1 else 0 := by
  obtain ⟨ctx, call⟩ := x
  cases hx : call.issues with
  | true =>
    cases call with
    | issueCredit id =>
      obtain ⟨-, -, col, -, -, -, rfl⟩ := issueCredit_eq_ok.mp h
      exact saturatingAdd_le_add
    | _ => cases hx
  | false => exact (step_settled (x := (ctx, call)) hx h).nextId.le

theorem nextCollateralId_le (h : step cfg x s = .ok s') :
    s'.nextCollateralId ≤ s.nextCollateralId + if x.2.locks = true then 1 else 0 := by
  obtain ⟨ctx, call⟩ := x
  cases call with
  | setBankAccount account =>
    obtain ⟨-, rfl⟩ := setBankAccount_eq_ok.mp h
    exact Nat.le_refl _
  | assessRwa citizen assetType value =>
    obtain ⟨-, rfl⟩ := (assessRwa_eq_ok citizen assetType value).mp h
    exact Nat.le_refl _
  | lockCollateral amount assetType =>
    obtain ⟨_, -, -, _, -, l', -, rfl⟩ := lockCollateral_eq_ok.mp h
    exact saturatingAdd_le_add
  | requestCredit id =>
    obtain ⟨_, -, _, -, -, -, -, rfl⟩ := requestCredit_eq_ok.mp h
    exact Nat.le_refl _
  | issueCredit id =>
    obtain ⟨-, -, col, -, -, -, rfl⟩ := issueCredit_eq_ok.mp h
    exact Nat.le_refl _
  | accrueInterest id =>
    obtain ⟨-, -, credit, -, -, rfl⟩ := accrueInterest_eq_ok.mp h
    split <;> exact Nat.le_refl _
  | repayCredit id amount =>
    obtain ⟨_, _, _, _, hrepay, -⟩ := repayCredit_outcome h
    exact hrepay.nextCollateral.le
  | declareDefault id =>
    obtain ⟨-, credit, -, -, rfl⟩ := declareDefault_eq_ok.mp h
    exact Nat.le_refl _
  | requestAccountFreeze citizen reason =>
    obtain ⟨-, rfl⟩ := (requestAccountFreeze_eq_ok citizen reason).mp h
    exact Nat.le_refl _

/-- A run with fewer collaterals and credits than there are identifiers finds one for each. -/
theorem along_hasIdentifier {l : L}
    (hlocks : accepted (step cfg) (fun x => x.2.locks = true) xs (genesis l) ≤ u32Max)
    (hissues : accepted (step cfg) (fun x => x.2.issues = true) xs (genesis l) ≤ u32Max) :
    Along (step cfg) (fun s x => HasIdentifier s x.2) xs (genesis l) := by
  have hcollaterals : Along (step cfg) (fun s x => x.2.locks = true → s.nextCollateralId < u32Max)
      xs (genesis l) := by
    apply along_of_accepted_le
    · intro x s s' h
      exact nextCollateralId_le h
    · exact (Nat.zero_add _).trans_le hlocks
  have hcredits : Along (step cfg) (fun s x => x.2.issues = true → s.nextCreditId < u32Max)
      xs (genesis l) := by
    apply along_of_accepted_le
    · intro x s s' h
      exact nextCreditId_le h
    · exact (Nat.zero_add _).trans_le hissues
  refine (hcollaterals.and hcredits).imp ?_
  rintro s ⟨ctx, call⟩ ⟨hcollateral, hcredit⟩
  cases call with
  | lockCollateral amount assetType => exact hcollateral rfl
  | issueCredit id => exact hcredit rfl
  | _ => trivial

/-- The two families and the history, which is what became of the ledger. -/
structure Kept (l : L) (t : State AccountId L × List (Movement AccountId)) : Prop where
  cycle : Cycle t.1
  recorded : Recorded t.1 t.2
  performed : performAll t.2 l = .ok t.1.ledger

theorem kept_history {l : L}
    (h : Along (step cfg) (fun s x => HasIdentifier s x.2) xs (genesis l)) :
    Kept l (history cfg l xs) := by
  have hstart : Kept l ((genesis l, []) : State AccountId L × List (Movement AccountId)) :=
    ⟨cycle_genesis l, ⟨fun _ => rfl, fun _ => rfl⟩, rfl⟩
  refine run_of_along ?_ hstart ((along_recording (t := (genesis l, []))).mpr h)
  rintro x t t' hkept hid hstep
  obtain ⟨hs', hms'⟩ := recording_eq_ok.mp hstep
  refine ⟨cycle_step hkept.cycle hid hs', ?_, ?_⟩
  · rw [hms']
    exact recorded_step hkept.cycle hkept.recorded hs'
  · rw [hms', performAll_append hkept.performed]
    exact step_performed hs'

/-- **The life of a collateral.** After every run with fewer collaterals and credits than there are
identifiers, every collateral is referred to by at most one credit, whose status its own follows; a
credit is repaid just when nothing is owed on it; and what the run moved on the ledger gives every
released collateral back once, net of the fee, to the citizen who locked it, and no other. -/
theorem collateral_lifeCycle {l : L}
    (hlocks : accepted (step cfg) (fun x => x.2.locks = true) xs (genesis l) < 2 ^ 32 - 1)
    (hissues : accepted (step cfg) (fun x => x.2.issues = true) xs (genesis l) < 2 ^ 32 - 1) :
    LifeCycle (history cfg l xs).1 ∧ Recorded (history cfg l xs).1 (history cfg l xs).2 ∧
      performAll (history cfg l xs).2 l = .ok (history cfg l xs).1.ledger := by
  have hkept := kept_history (along_hasIdentifier hlocks.le hissues.le)
  exact ⟨hkept.cycle.lifeCycle, hkept.recorded, hkept.performed⟩

end Runs

/-- The citizen 7 locks ten units, draws ninety on each of two collaterals and repays the first. -/
def repaidFirst : List (Extrinsic ℕ) :=
  [(operatorContext 1 .root, .setBankAccount 2),
    (operatorContext 1 (.signed 7), .lockCollateral (10 * CentralBank.unit) .altanCoin),
    (operatorContext 1 (.signed 7), .lockCollateral (10 * CentralBank.unit) .altanCoin),
    (operatorContext 1 (.signed 7), .requestCredit 0),
    (operatorContext 1 (.signed 7), .requestCredit 1),
    (operatorContext 1 .root, .issueCredit 0),
    (operatorContext 1 .root, .issueCredit 1),
    (operatorContext 2 (.signed 7), .repayCredit 0 (81 * CentralBank.unit))]

/-- The first collateral goes back, and the second does not. -/
theorem collateral_lifeCycle_repaidFirst :
    LifeCycle (history bankOperator operatorGenesis.ledger repaidFirst).1 ∧
      Recorded (history bankOperator operatorGenesis.ledger repaidFirst).1
        (history bankOperator operatorGenesis.ledger repaidFirst).2 ∧
      performAll (history bankOperator operatorGenesis.ledger repaidFirst).2
        operatorGenesis.ledger =
          .ok (history bankOperator operatorGenesis.ledger repaidFirst).1.ledger ∧
      (history bankOperator operatorGenesis.ledger repaidFirst).2.filterMap
        (Movement.refundedFor 0) = [(7, 9 * CentralBank.unit)] ∧
      (history bankOperator operatorGenesis.ledger repaidFirst).2.filterMap
        (Movement.refundedFor 1) = [] := by
  have hlocks : accepted (step bankOperator) (fun x => x.2.locks = true) repaidFirst
      (genesis operatorGenesis.ledger) < 2 ^ 32 - 1 := by decide +kernel
  have hissues : accepted (step bankOperator) (fun x => x.2.issues = true) repaidFirst
      (genesis operatorGenesis.ledger) < 2 ^ 32 - 1 := by decide +kernel
  obtain ⟨hcycle, hrecorded, hperformed⟩ := collateral_lifeCycle hlocks hissues
  exact ⟨hcycle, hrecorded, hperformed, by decide +kernel, by decide +kernel⟩

end BankOperator
