import Altan.CentralBank.BaseRate
import Altan.CentralBank.Epochs
import Altan.Runtime.Estates

/-!
# Borrowing and repaying at once

A loan that is repaid at once leaves the credit pool, the debts and the key rate as they were: the
book of debts says the same, and the rate is the one on the curve. The money takes two ways, though.
The loan creates it, whatever becomes of it on the account; the repayment destroys it and keeps the
account alive. So an operator who held less than the existential deposit cannot give back the whole
loan.

## Main definitions

* `ChainInput`, `chainStep`: the central bank, and what happens to the ledger elsewhere
* `Coherent`: the pool is represented, and the rate on the curve
* `Restored`: the pool, the debts, the money of the operator and the key rate are as they were

## Main results

* `coherent_run`: every run is coherent
* `doRepayCredit_isOk_iff`: a loan can be repaid at once when it can be withdrawn
* `restored_of_ledger`: the pool, the debts and the rate are restored with the money
* `round_trip_iff`: the loans after which all is as it was
* `round_trip_refused`: an operator who cannot give back what it has just borrowed
-/

open Bounded Dispatch Ledger TransitionSystem Runtime

namespace CentralBank

variable {AccountId L : Type} [DecidableEq AccountId] [Currency AccountId L]
  {cfg : Config AccountId} {s s' s'' : State AccountId L} {operator : AccountId}
  {amount epochId : ℕ}

/-! ### The chain -/

/-- What happens on the chain: calls to the central bank, and what other modules do to the ledger. A
loan to an operator and its repayment through another module are those of the signed calls. -/
inductive ChainInput (AccountId L : Type)
  | extrinsic (x : Extrinsic AccountId)
  | elsewhere (ledger : L)

/-- The pool is that of a book of debts, and the key rate is on the curve. -/
structure Coherent (cfg : Config AccountId) (s : State AccountId L) : Prop where
  represented : ∃ b, Represents cfg s b
  onCurve : OnCurve cfg s

omit [DecidableEq AccountId] [Currency AccountId L] in
/-- The rate depends on the records of the epochs and on what is outstanding only. -/
theorem OnCurve.of_records (h : OnCurve cfg s) (hrecords : s'.records = s.records)
    (hout : s'.totalOutstanding = s.totalOutstanding) : OnCurve cfg s' := by
  obtain ⟨epoch, hepoch, hrate⟩ := h
  refine ⟨epoch, ?_, hout ▸ hrate⟩
  have hget := congrArg (fun r : Records AccountId => r.epochs.get r.currentEpochId) hrecords
  exact hget.trans hepoch

omit [Currency AccountId L] in
theorem genesis_coherent (cfg : Config AccountId) (licensedOperators : List (AccountId × Bool))
    (l : L) : Coherent cfg (genesis cfg licensedOperators l) where
  represented := ⟨_, genesis_represents licensedOperators l⟩
  onCurve := ⟨_, StorageMap.get_insert_self, if_pos (Or.inr rfl)⟩

section Runs

variable [ProxyModule AccountId L]

/-- One input as a step of the state machine. -/
def chainStep (cfg : Config AccountId) (i : ChainInput AccountId L) (s : State AccountId L) :
    Result (State AccountId L) :=
  match i with
  | .extrinsic x => step cfg x s
  | .elsewhere ledger => .ok { s with ledger := ledger }

/-- A call that writes no rate leaves the records and what is outstanding. -/
theorem onCurve_step {x : Extrinsic AccountId} (h : OnCurve cfg s) (hs : step cfg x s = .ok s') :
    OnCurve cfg s' := by
  by_cases hw : writesRate x.2 = true
  · exact step_onCurve hw hs
  · have hposted := step_posted hs
    have heffect := step_effect hs
    obtain ⟨ctx, call⟩ := x
    cases call with
    | requestCredit amount => exact absurd rfl hw
    | repayCredit epochId amount => exact absurd rfl hw
    | transitionEpoch => exact absurd rfl hw
    | _ => exact h.of_records hposted (congrArg CreditPool.outstanding heffect.creditPool)

/-- **Every run is coherent.** -/
theorem coherent_run (cfg : Config AccountId) (licensedOperators : List (AccountId × Bool)) (l : L)
    (is : List (ChainInput AccountId L)) :
    Coherent cfg (run (chainStep cfg) is (genesis cfg licensedOperators l)) := by
  refine run_invariant (P := Coherent cfg) ?_ is (genesis_coherent cfg licensedOperators l)
  intro i s s' hc hs
  obtain ⟨b, hb⟩ := hc.represented
  cases i with
  | extrinsic x => exact ⟨hb.step hs, onCurve_step hc.onCurve hs⟩
  | elsewhere ledger =>
    obtain rfl := Except.ok.inj hs
    exact ⟨⟨b, hb.of_creditPool_eq rfl⟩, hc.onCurve⟩

end Runs

/-! ### The pool and the rate -/

/-- The key rate of the current epoch. -/
def State.currentKeyRate (s : State AccountId L) : Option ℕ :=
  (s.epochs.get s.currentEpochId).map EpochInfo.keyRate

omit [DecidableEq AccountId] [Currency AccountId L] in
/-- On the curve the rate is that of what is outstanding. -/
theorem OnCurve.currentKeyRate_eq (h : OnCurve cfg s) :
    s.currentKeyRate = computeDynamicRate cfg s.totalOutstanding := by
  obtain ⟨epoch, hepoch, hrate⟩ := h
  rw [State.currentKeyRate, hepoch, Option.map_some, hrate]

/-- The pool, the debts, the key rate, and the money are as they were. -/
structure Restored (s s'' : State AccountId L) (operator : AccountId) : Prop where
  available : s''.genesisCreditAvailable = s.genesisCreditAvailable
  outstanding : s''.totalOutstanding = s.totalOutstanding
  debt : ∀ who epochId, s''.debt who epochId = s.debt who epochId
  totalDebt : ∀ who, s''.totalDebt who = s.totalDebt who
  free : freeBalance s''.ledger operator = freeBalance s.ledger operator
  issuance : totalIssuance s''.ledger = totalIssuance s.ledger
  keyRate : s''.currentKeyRate = s.currentKeyRate

theorem doRepayCredit_onCurve (h : doRepayCredit cfg operator epochId amount s = .ok s') :
    OnCurve cfg s' := by
  simp only [doRepayCredit, ensure_bind_eq_ok, mapError_bind_eq_ok] at h
  obtain ⟨-, -, -, -, ledger, -, hrate⟩ := h
  exact updateDynamicRate_onCurve hrate

theorem doRequestCredit_currentEpochId (h : doRequestCredit cfg operator amount s = .ok s') :
    s'.currentEpochId = s.currentEpochId := by
  obtain ⟨-, -, -, hframe⟩ := doRequestCredit_frame h
  rw [hframe]

/-- **A loan that is repaid at once** leaves the pool, the debts and the rate. -/
theorem restored_of_ledger (hc : Coherent cfg s)
    (h : doRequestCredit cfg operator amount s = .ok s')
    (h' : doRepayCredit cfg operator s'.currentEpochId amount s' = .ok s'')
    (hfree : freeBalance s''.ledger operator = freeBalance s.ledger operator)
    (hissuance : totalIssuance s''.ledger = totalIssuance s.ledger) :
    Restored s s'' operator := by
  obtain ⟨b, hb⟩ := hc.represented
  obtain ⟨b', hborrow, hb'⟩ := hb.lend (doRequestCredit_lent h)
  obtain ⟨b'', hrepay, hb''⟩ := hb'.takeBack (doRepayCredit_repaid h')
  rw [doRequestCredit_currentEpochId h] at hrepay
  have hsame := CreditBook.Same.of_borrow_repay hborrow hrepay
  have hout : s''.totalOutstanding = s.totalOutstanding := by
    rw [hb''.outstanding, hb.outstanding, hsame.outstanding]
  refine ⟨?_, hout, fun who e => ?_, fun who => ?_, hfree, hissuance, ?_⟩
  · have hsum := hb.conserved.1
    have hsum' := hb''.conserved.1
    omega
  · rw [hb''.debt_eq, hb.debt_eq, hsame.debt]
  · rw [hb''.totalDebts, hb.totalDebts, hsame.debtOf]
  · rw [(doRepayCredit_onCurve h').currentKeyRate_eq, hc.onCurve.currentKeyRate_eq, hout]

/-- **A loan can be repaid at once** exactly when its amount can be withdrawn. -/
theorem doRepayCredit_isOk_iff (hc : Coherent cfg s)
    (h : doRequestCredit cfg operator amount s = .ok s') :
    (∃ s'', doRepayCredit cfg operator s'.currentEpochId amount s' = .ok s'') ↔
      ∃ l, Currency.withdraw s'.ledger operator amount .keepAlive = .ok l := by
  constructor
  · rintro ⟨s'', hs''⟩
    obtain ⟨-, -, l, hl, -⟩ := doRepayCredit_frame hs''
    exact ⟨l, hl⟩
  · rintro ⟨l, hl⟩
    obtain ⟨b, hb⟩ := hc.represented
    obtain ⟨hpos, -, havailable, hframe⟩ := doRequestCredit_frame h
    have hexact : RequestExact s operator amount := hb.requestExact havailable
    have hdebt :
        s'.debt operator s'.currentEpochId = s.debt operator s.currentEpochId + amount := by
      rw [← hexact.debt, hframe]
      exact StorageMap.getD_insert_self
    have hout : s'.totalOutstanding = s.totalOutstanding + amount := by
      rw [← hexact.outstanding, hframe]
    have hopen : s'.epochs.containsKey s'.currentEpochId = true := by
      obtain ⟨epoch, hepoch, -⟩ := hc.onCurve
      rw [doRequestCredit_containsKey h, doRequestCredit_currentEpochId h]
      exact StorageMap.containsKey_iff.mpr ⟨epoch, hepoch⟩
    have hfree : amount ≤ freeBalance s'.ledger operator := by
      rw [← (Currency.withdraw_keepAlive _ _ _ _ hl).free]
      exact Nat.le_add_left amount _
    simp only [doRepayCredit, ensure_bind_eq_ok, mapError_bind_eq_ok]
    -- the rate to be written is the one of before the loan, which is defined
    obtain ⟨before, -, hrate⟩ := hc.onCurve
    have hrate' : computeDynamicRate cfg (s'.totalOutstanding - amount) = some before.keyRate := by
      rw [hout, Nat.add_sub_cancel, hrate]
    obtain ⟨epoch, hepoch⟩ := StorageMap.containsKey_iff.mp
      (StorageMap.containsKey_modify.trans hopen)
    exact ⟨_, hpos, hopen, hdebt ▸ Nat.le_add_left amount _, hfree, l, hl,
      updateDynamicRate_eq_ok.mpr ⟨before.keyRate, hrate', epoch, hepoch, rfl⟩⟩

/-! ### The money -/

/-- What is created on the account can be withdrawn without using up what was there: the operator
holds the existential deposit and what is locked, and there is room in the total issuance. -/
structure Returnable (l : L) (operator : AccountId) (amount : ℕ) : Prop where
  provided : existentialDeposit L ≤ freeBalance l operator
  unlocked : ∀ id, lockAmount l id operator ≤ freeBalance l operator
  room : totalIssuance l + amount ≤ u128Max

omit [DecidableEq AccountId] in
/-- Whoever holds the existential deposit is credited what is created. -/
theorem Returnable.credited {l : L} (h : Returnable l operator amount) (hpos : 0 < amount) :
    Credited l (Currency.depositCreating l operator amount) operator amount := by
  have hprovided := h.provided
  refine Currency.depositCreating_credited l operator amount ⟨?_, h.room⟩
  by_cases hfree : 0 < freeBalance l operator
  · exact Or.inl (Or.inl hfree)
  -- without a free balance the existential deposit is zero
  · exact Or.inr (by omega)

section Money

variable [LockableCurrency AccountId L] [KeepingWithdrawals AccountId L]

omit [DecidableEq AccountId] in
/-- What is created can be withdrawn at once, and leaves the money as it was, exactly when it is
returnable. -/
theorem withdraw_depositCreating_iff (l : L) (hpos : 0 < amount) :
    (∃ l', Currency.withdraw (Currency.depositCreating l operator amount) operator amount
        .keepAlive = .ok l' ∧ freeBalance l' operator = freeBalance l operator ∧
          totalIssuance l' = totalIssuance l) ↔ Returnable l operator amount := by
  have hisOk := KeepingWithdrawals.withdraw_isOk_iff (Currency.depositCreating l operator amount)
    operator amount (Nat.ne_of_gt hpos)
  constructor
  · rintro ⟨l', hl', hfree, hissuance⟩
    obtain ⟨hprovided, hunlocked⟩ := hisOk.mp ⟨l', hl'⟩
    have hdebited := Currency.withdraw_keepAlive _ _ _ _ hl'
    have hcreated := hdebited.free
    have hadded := hdebited.issuance
    rw [hfree] at hcreated
    rw [hissuance] at hadded
    refine ⟨by omega, fun id => ?_, ?_⟩
    · have hlock := hunlocked id
      rw [LockableCurrency.depositCreating_lock] at hlock
      omega
    · rw [hadded]
      exact totalIssuance_le _
  · intro h
    have hcredited := h.credited hpos
    have hfree := hcredited.free
    have hprovided := h.provided
    obtain ⟨l', hl'⟩ := hisOk.mpr ⟨by omega, fun id => by
      have hunlocked := h.unlocked id
      rw [LockableCurrency.depositCreating_lock]
      omega⟩
    have hdebited := Currency.withdraw_keepAlive _ _ _ _ hl'
    refine ⟨l', hl', ?_, ?_⟩
    · exact Nat.add_right_cancel (hdebited.free.trans hfree)
    · exact Nat.add_right_cancel (hdebited.issuance.trans hcredited.issuance)

variable [ProxyModule AccountId L]

/-- **Borrowing and repaying at once.** In every run, a loan can be repaid at once, with all as it
was then, exactly when the operator held the existential deposit and what is locked on its account,
and the loan fits into the total issuance. -/
theorem round_trip_iff (cfg : Config AccountId) (licensedOperators : List (AccountId × Bool))
    (l : L) (is : List (ChainInput AccountId L)) (operator : AccountId) (amount : ℕ)
    (s' : State AccountId L) :
    let s := run (chainStep cfg) is (genesis cfg licensedOperators l)
    doRequestCredit cfg operator amount s = .ok s' →
      ((∃ s'', doRepayCredit cfg operator s'.currentEpochId amount s' = .ok s'' ∧
          Restored s s'' operator) ↔ Returnable s.ledger operator amount) := by
  intro s h
  have hc : Coherent cfg s := coherent_run cfg licensedOperators l is
  obtain ⟨hpos, -, -, hframe⟩ := doRequestCredit_frame h
  have hledger : s'.ledger = Currency.depositCreating s.ledger operator amount := by
    rw [hframe]
  rw [← withdraw_depositCreating_iff s.ledger hpos, ← hledger]
  constructor
  · rintro ⟨s'', hs'', hrestored⟩
    exact ⟨s''.ledger, (doRepayCredit_repaid hs'').ledger, hrestored.free, hrestored.issuance⟩
  · rintro ⟨l', hl', hfree, hissuance⟩
    obtain ⟨s'', hs''⟩ := (doRepayCredit_isOk_iff hc h).mpr ⟨l', hl'⟩
    -- the withdrawal is a function of the ledger
    obtain rfl : l' = s''.ledger :=
      Except.ok.inj (hl'.symm.trans (doRepayCredit_repaid hs'').ledger)
    exact ⟨s'', hs'', restored_of_ledger hc h hs'' hfree hissuance⟩

end Money

/-! ### A loan that comes back, and one that does not -/

/-- The central bank of the runtime. -/
def roundTripConfig : Config ℕ := Runtime.centralBank 0 1 fun _ _ _ index => index + 2

/-- The storage in a world where account 7 is licensed, with the given free balances. -/
def licensedGenesis (balances : List (ℕ × ℕ)) : State ℕ (EscrowLedger ℕ) :=
  genesis roundTripConfig [(7, true)] (ProvidedBalances.ofFree balances)

/-- An operator with a unit of its own borrows ten and gives them back. -/
theorem round_trip_iff_loan :
    ∃ s' s'', doRequestCredit roundTripConfig 7 (10 * unit) (licensedGenesis [(7, unit)]) = .ok s' ∧
      doRepayCredit roundTripConfig 7 s'.currentEpochId (10 * unit) s' = .ok s'' ∧
        Restored (licensedGenesis [(7, unit)]) s'' 7 := by
  obtain ⟨s', h⟩ : ∃ s', doRequestCredit roundTripConfig 7 (10 * unit)
      (licensedGenesis [(7, unit)]) = .ok s' :=
    doRequestCredit_ok (by decide) (by decide) (by decide +kernel) (by decide +kernel)
      (by decide +kernel)
  obtain ⟨s'', hs'', hrestored⟩ := (round_trip_iff roundTripConfig [(7, true)]
    (ProvidedBalances.ofFree [(7, unit)] : EscrowLedger ℕ) [] 7 (10 * unit) s' h).mpr
    { provided := by decide +kernel
      unlocked := fun id => by
        have hnone : lockAmount (Balances.ofFree [(7, unit)] : NativeLedger ℕ) id 7 = 0 :=
          Balances.ofFree_lockAmount _ _ _
        exact hnone.trans_le (Nat.zero_le _)
      room := by decide +kernel }
  exact ⟨s', s'', h, hs'', hrestored⟩

/-- An operator without a balance borrows ten units and cannot give them back: its account would
not be kept alive. -/
theorem round_trip_refused :
    ∃ s', doRequestCredit roundTripConfig 7 (10 * unit) (licensedGenesis []) = .ok s' ∧
      doRepayCredit roundTripConfig 7 s'.currentEpochId (10 * unit) s' =
        .error (.module .insufficientBalance) := by
  obtain ⟨s', h⟩ : ∃ s', doRequestCredit roundTripConfig 7 (10 * unit) (licensedGenesis []) =
      .ok s' :=
    doRequestCredit_ok (by decide) (by decide) (by decide +kernel) (by decide +kernel)
      (by decide +kernel)
  have hrefused : ((doRequestCredit roundTripConfig 7 (10 * unit) (licensedGenesis [])).bind
      fun s' => (doRepayCredit roundTripConfig 7 s'.currentEpochId (10 * unit) s').map
        fun _ => ()) = .error (.module .insufficientBalance) := by
    decide +kernel
  rw [h] at hrefused
  refine ⟨s', h, ?_⟩
  cases hr : doRepayCredit roundTripConfig 7 s'.currentEpochId (10 * unit) s' with
  | ok s'' => simp [Except.bind, Except.map, hr] at hrefused
  | error e => simpa [Except.bind, Except.map, hr] using hrefused

end CentralBank
