import Altan.AltanTax.ExclusiveFee
import Altan.BankOfSiberia.Spec
import Altan.Foundation.Accounting

/-!
# The fees of transactions

The fee of a transaction is withdrawn from its sender and split among the three accounts that the
shares of a transfer with a fee go to as well: thirty-six parts in a hundred and ten, each rounded
to the nearest, and the remainder. The two ways of charging run on one ledger. Whatever they are
charged for, no currency appears or is lost, and the Khural foundation gets its fifty-four parts.

## Main definitions

* `feeCredits`, `onNonzeroUnbalanced`: the credits a fee is split into, and where they go
* `chargeFee`: a fee taken from an account and split
* `Input`, `step`: fees and transfers with a fee, in any order
* `debit`, `credit`: what an input takes from an account, and what it gives it

## Main results

* `feeCredits_close`, `feeOf_close`: the shares of a fee
* `fees_conserved`: double entry over a run
* `fees_shared`: the shares of all the fees of a run
-/

open AltanTax Dispatch Ledger Runtime TransitionSystem

/-- A currency whose destructions that keep their account alive leave it the existential deposit. -/
class PreservingWithdrawals (AccountId : outParam Type) (L : Type) [Currency AccountId L] :
    Prop where
  withdraw_preserves : ∀ (l : L) a v l', v ≠ 0 → Currency.withdraw l a v .keepAlive = .ok l' →
    existentialDeposit L ≤ freeBalance l' a

instance {AccountId L : Type} [Currency AccountId L] [KeepingWithdrawals AccountId L] :
    PreservingWithdrawals AccountId L where
  withdraw_preserves l a v l' hv h := by
    have hkept := ((KeepingWithdrawals.withdraw_isOk_iff l a v hv).mp ⟨l', h⟩).1
    have hfree := (Currency.withdraw_keepAlive l a v l' h).free
    omega

/-- What a call of the module that charges its own fee pays. -/
theorem AltanTax.step_paid {AccountId L : Type} [Currency AccountId L]
    {x : AltanTax.Extrinsic AccountId} {s s' : AltanTax.State AccountId L}
    (h : AltanTax.step x s = .ok s') :
    ∃ sender dest amount ag khural validators, x = (.signed sender, .transferWithFee dest amount) ∧
      Treasuries s ag khural validators ∧ ∃ l,
        Currency.payAll sender (payments dest ag khural validators amount) s.ledger = .ok l ∧
          s' = { s with ledger := l } := by
  obtain ⟨origin, dest, amount⟩ := x
  change (transferWithFee origin dest amount s).map Prod.fst = .ok s' at h
  cases ht : transferWithFee origin dest amount s with
  | error e =>
    rw [ht] at h
    cases h
  | ok p =>
    rw [ht] at h
    obtain rfl := Except.ok.inj h
    obtain ⟨sender, ag, khural, validators, rfl, htreasuries, -, l, hpaid, hs, -⟩ :=
      transferWithFee_eq_ok.mp ht
    exact ⟨sender, dest, amount, ag, khural, validators, rfl, htreasuries, l, hpaid, hs⟩

namespace TransactionFees

/-- The accounts that the fees of transactions go to. -/
structure Config (AccountId : Type) where
  khuralFoundationAccount : AccountId
  inomadAgAccount : AccountId
  validatorPoolAccount : AccountId

/-- The credits that a fee is split into, one after the other. The last gets what is left. -/
def feeCredits (total : ℕ) : FeeSplit :=
  let agShare := perbillProportion 36 100 total
  let validatorShare := perbillProportion 10 100 total
  -- no more can be split off than there is
  let agCredit := min total agShare
  let rest := total - agCredit
  let validatorCredit := min rest validatorShare
  { totalFee := total
    khuralShare := rest - validatorCredit
    agShare := agCredit
    validatorShare := validatorCredit }

/-- The inputs: the fee of a transaction, with its tip and without what is refunded, or a call of
the module that charges its own fee. -/
inductive Input (AccountId : Type)
  | charge (who : AccountId) (fee : ℕ)
  | call (x : AltanTax.Extrinsic AccountId)

/-- The fee that an input charges, and its shares. -/
def Input.split {AccountId : Type} : Input AccountId → FeeSplit
  | .charge _ fee => feeCredits fee
  | .call (_, .transferWithFee _ amount) => feeOf amount

section Operations

variable {AccountId L : Type} [Currency AccountId L] (cfg : Config AccountId)

/-- Pay out a fee that has been withdrawn. -/
def onNonzeroUnbalanced (amount : ℕ) (l : L) : L :=
  let credits := feeCredits amount
  let l := Currency.depositCreating l cfg.inomadAgAccount credits.agShare
  let l := Currency.depositCreating l cfg.validatorPoolAccount credits.validatorShare
  Currency.depositCreating l cfg.khuralFoundationAccount credits.khuralShare

/-- Charge a fee to an account, which stays alive. -/
def chargeFee (who : AccountId) (fee : ℕ) (l : L) : Except CurrencyError L :=
  if fee = 0 then .ok l
  else do
    let l ← Currency.withdraw l who fee .keepAlive
    return onNonzeroUnbalanced cfg fee l

/-- One input as a step of the state machine. -/
def step : Input AccountId → AltanTax.State AccountId L →
    AltanTax.Result (AltanTax.State AccountId L)
  | .charge who fee, s => do
    let ledger ← liftCurrency (chargeFee cfg who fee s.ledger)
    return { s with ledger := ledger }
  | .call x, s => AltanTax.step x s

end Operations

/-! ### The shares of a fee -/

/-- A part of a hundred is rounded to the nearest. -/
theorem perbillProportion_percent {p : ℕ} (hp : p ≤ 100) (a : ℕ) :
    100 * perbillProportion p 100 a ≤ p * a + 50 ∧
      p * a ≤ 100 * perbillProportion p 100 a + 50 := by
  have hparts : Runtime.perbill p 100 = p * 10000000 := by
    unfold Runtime.perbill
    rw [if_neg (by omega)]
    omega
  unfold perbillProportion
  rw [hparts]
  dsimp only
  have hsplit : p * a = 1000000000 * (p * (a / 1000000000)) + p * (a % 1000000000) := by
    rw [Nat.mul_left_comm, ← Nat.mul_add, Nat.div_add_mod]
  have hwhole : a / 1000000000 * (p * 10000000) = 10000000 * (p * (a / 1000000000)) := by ring
  have hrest : a % 1000000000 * (p * 10000000) = 10000000 * (p * (a % 1000000000)) := by ring
  rw [hsplit, hwhole, hrest]
  generalize p * (a / 1000000000) = whole
  generalize p * (a % 1000000000) = rest
  split
  · omega
  · omega

/-- The shares make up the fee, and are off by half a unit from what they are to be. -/
theorem feeCredits_close (total : ℕ) :
    (feeCredits total).agShare + (feeCredits total).validatorShare +
        (feeCredits total).khuralShare = total ∧
      100 * (feeCredits total).agShare ≤ 36 * total + 50 ∧
      36 * total ≤ 100 * (feeCredits total).agShare + 50 ∧
      100 * (feeCredits total).validatorShare ≤ 10 * total + 50 ∧
      10 * total ≤ 100 * (feeCredits total).validatorShare + 50 := by
  obtain ⟨hag, hag'⟩ := perbillProportion_percent (p := 36) (by decide) total
  obtain ⟨hvalidators, hvalidators'⟩ := perbillProportion_percent (p := 10) (by decide) total
  unfold feeCredits
  dsimp only
  omega

/-- The shares of a transfer with a fee make up the fee, and are off by less than a unit. -/
theorem feeOf_close (amount : ℕ) :
    (feeOf amount).agShare + (feeOf amount).validatorShare + (feeOf amount).khuralShare =
        (feeOf amount).totalFee ∧
      100 * (feeOf amount).agShare ≤ 36 * (feeOf amount).totalFee ∧
      36 * (feeOf amount).totalFee ≤ 100 * (feeOf amount).agShare + 99 ∧
      100 * (feeOf amount).validatorShare ≤ 10 * (feeOf amount).totalFee ∧
      10 * (feeOf amount).totalFee ≤ 100 * (feeOf amount).validatorShare + 99 := by
  unfold feeOf
  dsimp only
  omega

/-- The shares of the fee of an input. -/
theorem split_close {AccountId : Type} (i : Input AccountId) :
    i.split.agShare + i.split.validatorShare + i.split.khuralShare = i.split.totalFee ∧
      100 * i.split.agShare ≤ 36 * i.split.totalFee + 50 ∧
      36 * i.split.totalFee ≤ 100 * i.split.agShare + 99 ∧
      100 * i.split.validatorShare ≤ 10 * i.split.totalFee + 50 ∧
      10 * i.split.totalFee ≤ 100 * i.split.validatorShare + 99 := by
  rcases i with ⟨who, fee⟩ | ⟨origin, dest, amount⟩
  · have htotal : (feeCredits fee).totalFee = fee := rfl
    have hclose := feeCredits_close fee
    simp only [Input.split, htotal]
    omega
  · have hclose := feeOf_close amount
    simp only [Input.split]
    omega

/-! ### What an input moves -/

section Entries

variable {AccountId L : Type} [DecidableEq AccountId] (cfg : Config AccountId)

/-- What the accounts of the shares make out of a fee for one account. -/
def share (ag khural validators : Option AccountId) (c : AccountId) (split : FeeSplit) : ℕ :=
  (if ag = some c then split.agShare else 0) +
    (if validators = some c then split.validatorShare else 0) +
    if khural = some c then split.khuralShare else 0

/-- What an input takes from an account. -/
def debit (c : AccountId) : Input AccountId → ℕ
  | .charge who fee => if c = who then fee else 0
  | .call (.signed sender, .transferWithFee _ amount) =>
    if c = sender then amount + (feeOf amount).totalFee else 0
  | .call _ => 0

/-- What an input gives to an account. -/
def credit (c : AccountId) (s : AltanTax.State AccountId L) : Input AccountId → ℕ
  | .charge _ fee => share (some cfg.inomadAgAccount) (some cfg.khuralFoundationAccount)
      (some cfg.validatorPoolAccount) c (feeCredits fee)
  | .call (_, .transferWithFee dest amount) => (if c = dest then amount else 0) +
      share s.agTreasuryAccount s.khuralFoundationAccount s.validatorPoolAccount c (feeOf amount)

/-- The accounts that the fees of transactions go to. -/
def Config.accounts : List AccountId :=
  [cfg.inomadAgAccount, cfg.validatorPoolAccount, cfg.khuralFoundationAccount]

/-- The effect of an input on the balances: it takes and gives what it says, and nothing else. -/
structure Entered [Ledger AccountId L] (s s' : AltanTax.State AccountId L)
    (i : Input AccountId) : Prop where
  free : ∀ c, freeBalance s'.ledger c + debit c i = freeBalance s.ledger c + credit cfg c s i
  reserved : ∀ c, reservedBalance s'.ledger c = reservedBalance s.ledger c
  issuance : totalIssuance s'.ledger = totalIssuance s.ledger
  /-- Who has the existential deposit keeps it. -/
  funded : ∀ c, existentialDeposit L ≤ freeBalance s.ledger c →
    existentialDeposit L ≤ freeBalance s'.ledger c

variable {cfg} [Currency AccountId L] {l l' : L} {a b who : AccountId} {v fee : ℕ}

omit [DecidableEq AccountId] in
/-- An account with the existential deposit can be credited. -/
theorem credited_of_funded (ha : existentialDeposit L ≤ freeBalance l a)
    (hroom : totalIssuance l + v ≤ Bounded.u128Max) :
    Credited l (Currency.depositCreating l a v) a v := by
  by_cases hv : v = 0
  · subst hv
    rw [Currency.depositCreating_zero]
    exact ⟨rfl, fun _ _ => rfl, fun _ => rfl, rfl⟩
  refine Currency.depositCreating_credited l a v ⟨?_, hroom⟩
  rcases Nat.eq_zero_or_pos (existentialDeposit L) with hzero | hpos
  · exact Or.inr (hzero ▸ Nat.zero_le v)
  · exact Or.inl (Or.inl (Nat.lt_of_lt_of_le hpos ha))

/-- What is credited, as one equation for every account. -/
theorem free_of_credited (h : Credited l l' a v) (c : AccountId) :
    freeBalance l' c = freeBalance l c + if a = c then v else 0 := by
  by_cases hc : a = c
  · rw [if_pos hc, ← hc, h.free]
  · rw [if_neg hc, Nat.add_zero, h.others c (Ne.symm hc)]

/-- **A fee that is paid out** reaches the three accounts. -/
theorem onNonzeroUnbalanced_credited
    (hfunded : ∀ a ∈ cfg.accounts, existentialDeposit L ≤ freeBalance l a)
    (hroom : totalIssuance l + fee ≤ Bounded.u128Max) :
    (∀ c, freeBalance (onNonzeroUnbalanced cfg fee l) c = freeBalance l c +
        share (some cfg.inomadAgAccount) (some cfg.khuralFoundationAccount)
          (some cfg.validatorPoolAccount) c (feeCredits fee)) ∧
      (∀ c, reservedBalance (onNonzeroUnbalanced cfg fee l) c = reservedBalance l c) ∧
      totalIssuance (onNonzeroUnbalanced cfg fee l) = totalIssuance l + fee := by
  have hshares := (feeCredits_close fee).1
  have hkept : ∀ (l : L) b v c, existentialDeposit L ≤ freeBalance l c →
      existentialDeposit L ≤ freeBalance (Currency.depositCreating l b v) c :=
    fun l b v c hc => hc.trans (Currency.depositCreating_ge l b v c)
  have hag := hfunded cfg.inomadAgAccount (by simp [Config.accounts])
  have hvalidators := hfunded cfg.validatorPoolAccount (by simp [Config.accounts])
  have hkhural := hfunded cfg.khuralFoundationAccount (by simp [Config.accounts])
  unfold onNonzeroUnbalanced
  dsimp only
  -- the three credits, each in the ledger that the one before it leaves
  have h₁ := credited_of_funded (v := (feeCredits fee).agShare) hag (by omega)
  have hissued₁ := h₁.issuance
  have h₂ := credited_of_funded (v := (feeCredits fee).validatorShare)
    (hkept _ _ (feeCredits fee).agShare _ hvalidators) (by rw [hissued₁]; omega)
  have hissued₂ := h₂.issuance
  have h₃ := credited_of_funded (v := (feeCredits fee).khuralShare)
    (hkept _ _ (feeCredits fee).validatorShare _
      (hkept _ _ (feeCredits fee).agShare _ hkhural)) (by rw [hissued₂, hissued₁]; omega)
  refine ⟨fun c => ?_, fun c => ?_, ?_⟩
  · rw [free_of_credited h₃, free_of_credited h₂, free_of_credited h₁]
    simp only [share, Option.some.injEq]
    omega
  · rw [h₃.reserved, h₂.reserved, h₁.reserved]
  · rw [h₃.issuance, hissued₂, hissued₁]
    omega

/-- A transfer that keeps its source alive leaves everybody the existential deposit. -/
theorem transfer_funded {c : AccountId} (h : Currency.transfer l a b v .keepAlive = .ok l')
    (hc : existentialDeposit L ≤ freeBalance l c) :
    existentialDeposit L ≤ freeBalance l' c := by
  by_cases hca : c = a
  · subst hca
    rcases Currency.transfer_cases h with ⟨-, rfl⟩ | ⟨hv, hab, ht⟩
    · exact hc
    · have hkept := Currency.transfer_keepAlive l c b v l' hv hab h
      rwa [ht.source, remainder_of_le hkept]
  · exact hc.trans (Currency.transfer_free_le h hca)

theorem payAll_funded {ps : List (AccountId × ℕ)} {c : AccountId}
    (h : Currency.payAll a ps l = .ok l') (hc : existentialDeposit L ≤ freeBalance l c) :
    existentialDeposit L ≤ freeBalance l' c := by
  induction ps generalizing l with
  | nil => rwa [← Except.ok.inj h]
  | cons p ps ih =>
    obtain ⟨l₁, hfirst, hrest⟩ := Currency.payAll_cons.mp h
    exact ih hrest (transfer_funded hfirst hc)

variable {s s' : AltanTax.State AccountId L} {x : AltanTax.Extrinsic AccountId}

/-- What a fee moves. -/
theorem entered_charge [PreservingWithdrawals AccountId L]
    (hfunded : ∀ a ∈ cfg.accounts, existentialDeposit L ≤ freeBalance s.ledger a)
    (h : step cfg (.charge who fee) s = .ok s') : Entered cfg s s' (.charge who fee) := by
  obtain ⟨l', hl', hs'⟩ := liftCurrency_bind_eq_ok.mp h
  obtain rfl := pure_eq_ok.mp hs'
  unfold chargeFee at hl'
  split at hl'
  · next hzero =>
    -- there is nothing to charge, and nothing to share
    obtain rfl := Except.ok.inj hl'
    subst hzero
    have hclose := feeCredits_close 0
    refine ⟨fun c => ?_, fun _ => rfl, rfl, fun _ hc => hc⟩
    have hag : (feeCredits 0).agShare = 0 := by omega
    have hvalidators : (feeCredits 0).validatorShare = 0 := by omega
    have hkhural : (feeCredits 0).khuralShare = 0 := by omega
    simp only [debit, credit, share, hag, hvalidators, hkhural, ite_self]
  · next hfee =>
    obtain ⟨l, hl, hpaid⟩ := bind_eq_ok.mp hl'
    obtain rfl := Except.ok.inj hpaid
    have hdebited := Currency.withdraw_keepAlive _ _ _ _ hl
    have hissued := hdebited.issuance
    have hkept : ∀ c, existentialDeposit L ≤ freeBalance s.ledger c →
        existentialDeposit L ≤ freeBalance l c := by
      intro c hc
      by_cases hcw : c = who
      · rw [hcw]
        exact PreservingWithdrawals.withdraw_preserves _ _ _ _ hfee hl
      · rwa [hdebited.others c hcw]
    have hmax := totalIssuance_le s.ledger
    have hfits : totalIssuance l + fee ≤ Bounded.u128Max := by omega
    obtain ⟨hfree, hreserved, hissuance⟩ :=
      onNonzeroUnbalanced_credited (fun a ha => hkept a (hfunded a ha)) hfits
    refine ⟨fun c => ?_, fun c => ?_, ?_, fun c hc => ?_⟩
    · have hc : freeBalance l c + (if c = who then fee else 0) = freeBalance s.ledger c := by
        by_cases hcw : c = who
        · rw [if_pos hcw, hcw, hdebited.free]
        · rw [if_neg hcw, Nat.add_zero, hdebited.others c hcw]
      simp only [debit, credit]
      rw [hfree c]
      omega
    · exact (hreserved c).trans (hdebited.reserved c)
    · exact hissuance.trans hissued
    · have hmore := hfree c
      have hleft := hkept c hc
      change existentialDeposit L ≤ freeBalance (onNonzeroUnbalanced cfg fee l) c
      omega

/-- What a transfer with a fee moves. -/
theorem entered_call (h : step cfg (.call x) s = .ok s') : Entered cfg s s' (.call x) := by
  obtain ⟨sender, dest, amount, ag, khural, validators, rfl, htreasuries, l, hpaid, rfl⟩ :=
    AltanTax.step_paid h
  have hmoved := paid_of_payAll hpaid
  refine ⟨fun c => ?_, hmoved.reserved, hmoved.issuance, fun c hc => payAll_funded hpaid hc⟩
  have hfree := hmoved.free c
  simp only [debit, credit, share, htreasuries.ag, htreasuries.khural, htreasuries.validators,
    Option.some.injEq]
  simp only [eq_comm (a := c)] at hfree ⊢
  omega

/-- **What an accepted input moves.** -/
theorem step_entered [PreservingWithdrawals AccountId L] {i : Input AccountId}
    (hfunded : ∀ a ∈ cfg.accounts, existentialDeposit L ≤ freeBalance s.ledger a)
    (h : step cfg i s = .ok s') : Entered cfg s s' i := by
  cases i with
  | charge who fee => exact entered_charge hfunded h
  | call x => exact entered_call h

end Entries

/-! ### Runs -/

section Runs

variable {AccountId L : Type} [Currency AccountId L] {cfg : Config AccountId}
  {s : AltanTax.State AccountId L}

/-- **Fees are conserved.** Whatever fees are charged and whatever is transferred with a fee, in any
order, no currency is issued and none is lost, and every account is left with what it had, less what
it was charged and paid, plus what it was paid and its shares. The accounts of the shares hold the
existential deposit at the start, which they keep, as everybody does. -/
theorem fees_conserved [DecidableEq AccountId] [PreservingWithdrawals AccountId L]
    (hfunded : ∀ a ∈ cfg.accounts, existentialDeposit L ≤ freeBalance s.ledger a)
    (is : List (Input AccountId)) :
    let s' := run (step cfg) is s
    totalIssuance s'.ledger = totalIssuance s.ledger ∧
      (∀ c, reservedBalance s'.ledger c = reservedBalance s.ledger c) ∧
      (∀ c, existentialDeposit L ≤ freeBalance s.ledger c →
        existentialDeposit L ≤ freeBalance s'.ledger c) ∧
      ∀ c, freeBalance s'.ledger c + tally (step cfg) (fun _ i => debit c i) is s =
        freeBalance s.ledger c + tally (step cfg) (fun t i => credit cfg c t i) is s := by
  have hkept : ∀ i t t', (∀ a ∈ cfg.accounts, existentialDeposit L ≤ freeBalance t.ledger a) →
      step cfg i t = .ok t' →
      ∀ a ∈ cfg.accounts, existentialDeposit L ≤ freeBalance t'.ledger a :=
    fun i t t' ht h a ha => (step_entered ht h).funded a (ht a ha)
  refine ⟨?_, fun c => ?_, fun c hc => ?_, fun c => ?_⟩
  · refine (run_invariant (P := fun t : AltanTax.State AccountId L =>
      (∀ a ∈ cfg.accounts, existentialDeposit L ≤ freeBalance t.ledger a) ∧
        totalIssuance t.ledger = totalIssuance s.ledger) ?_ is ⟨hfunded, rfl⟩).2
    rintro i t t' ⟨ht, hsame⟩ h
    exact ⟨hkept i t t' ht h, (step_entered ht h).issuance.trans hsame⟩
  · refine (run_invariant (P := fun t : AltanTax.State AccountId L =>
      (∀ a ∈ cfg.accounts, existentialDeposit L ≤ freeBalance t.ledger a) ∧
        reservedBalance t.ledger c = reservedBalance s.ledger c) ?_ is ⟨hfunded, rfl⟩).2
    rintro i t t' ⟨ht, hsame⟩ h
    exact ⟨hkept i t t' ht h, ((step_entered ht h).reserved c).trans hsame⟩
  · refine (run_invariant (P := fun t : AltanTax.State AccountId L =>
      (∀ a ∈ cfg.accounts, existentialDeposit L ≤ freeBalance t.ledger a) ∧
        existentialDeposit L ≤ freeBalance t.ledger c) ?_ is ⟨hfunded, hc⟩).2
    rintro i t t' ⟨ht, hsame⟩ h
    exact ⟨hkept i t t' ht h, (step_entered ht h).funded c hsame⟩
  · exact tally_balance (fun t => freeBalance t.ledger c) (fun t i => credit cfg c t i)
      (fun _ i => debit c i) (fun i t t' ht _ h => hkept i t t' ht h)
      (fun i t t' ht _ h => (step_entered ht h).free c) hfunded (along_true is s)

/-- The accounts of the shares are those of the module that charges its own fee. -/
def smallWorld : Config ℕ where
  khuralFoundationAccount := 3
  inomadAgAccount := 2
  validatorPoolAccount := 4

/-- The citizen 1 pays for a transaction, and then nine units to the citizen 5 with the fee on
them: the Khural foundation has the shares it is given, and what there was in all is still there. -/
theorem fees_conserved_two_fees :
    let is := [.charge 1 1000003, .call (.signed 1, .transferWithFee 5 (9 * CentralBank.unit))]
    let s' := run (step smallWorld) is taxGenesis
    accepted (step smallWorld) (fun _ => True) is taxGenesis = 2 ∧
      totalIssuance s'.ledger = 50 * CentralBank.unit ∧
      freeBalance s'.ledger 3 = freeBalance taxGenesis.ledger 3 +
        tally (step smallWorld) (fun t i => credit smallWorld 3 t i) is taxGenesis := by
  intro is s'
  have hfunded : ∀ a ∈ smallWorld.accounts,
      existentialDeposit (EscrowLedger ℕ) ≤ freeBalance taxGenesis.ledger a := by decide +kernel
  obtain ⟨hissuance, -, -, hfree⟩ := fees_conserved hfunded is
  have hdebit : tally (step smallWorld) (fun _ i => debit 3 i) is taxGenesis = 0 :=
    tally_eq_zero (by decide +kernel)
  refine ⟨by decide +kernel, hissuance.trans (by decide +kernel), ?_⟩
  have hkhural := hfree 3
  rwa [hdebit, Nat.add_zero] at hkhural

/-- What the fees of a run, or their shares, come to. -/
def totalOf (cfg : Config AccountId) (part : FeeSplit → ℕ) (is : List (Input AccountId))
    (s : AltanTax.State AccountId L) : ℕ :=
  tally (step cfg) (fun _ i => part i.split) is s

/-- A bound on the share of every fee bounds the share of all the fees. -/
theorem totalOf_le (cfg : Config AccountId) (part part' : FeeSplit → ℕ) {m n k : ℕ}
    (is : List (Input AccountId))
    (h : ∀ i : Input AccountId, m * part i.split ≤ n * part' i.split + k) :
    m * totalOf cfg part is s ≤
      n * totalOf cfg part' is s + k * accepted (step cfg) (fun _ => True) is s := by
  unfold totalOf
  rw [accepted_eq_tally, ← tally_mul, ← tally_mul, ← tally_mul, ← tally_add]
  refine tally_le_tally (along_of_mem fun i _ => ?_)
  rw [if_pos trivial, Nat.mul_one]
  exact h i

/-- **Fees are shared out.** The three shares of all the fees of a run make the fees up. What goes
to the corporate account and to the validators is off from thirty-six and ten parts in a hundred by
less than a unit for each fee, and the Khural foundation is short of its fifty-four parts by at most
a unit for each fee, whether the fees are charged for transactions or on transfers. -/
theorem fees_shared (cfg : Config AccountId) (is : List (Input AccountId))
    (s : AltanTax.State AccountId L) :
    let fees := totalOf cfg FeeSplit.totalFee is s
    let ag := totalOf cfg FeeSplit.agShare is s
    let validators := totalOf cfg FeeSplit.validatorShare is s
    let khural := totalOf cfg FeeSplit.khuralShare is s
    let count := accepted (step cfg) (fun _ => True) is s
    ag + validators + khural = fees ∧
      (100 * ag ≤ 36 * fees + 50 * count ∧ 36 * fees ≤ 100 * ag + 99 * count) ∧
      (100 * validators ≤ 10 * fees + 50 * count ∧ 10 * fees ≤ 100 * validators + 99 * count) ∧
      54 * fees ≤ 100 * khural + 100 * count ∧ 100 * khural ≤ 54 * fees + 198 * count := by
  intro fees ag validators khural count
  have hsum : ag + validators + khural = fees := by
    change tally _ _ is s + tally _ _ is s + tally _ _ is s = tally _ _ is s
    rw [← tally_add, ← tally_add]
    exact congrArg (fun w => tally (step cfg) w is s)
      (funext fun _ => funext fun i => (split_close i).1)
  have hag := totalOf_le (s := s) cfg FeeSplit.agShare FeeSplit.totalFee is
    fun i => (split_close i).2.1
  have hag' := totalOf_le (s := s) cfg FeeSplit.totalFee FeeSplit.agShare is
    fun i => (split_close i).2.2.1
  have hvalidators := totalOf_le (s := s) cfg FeeSplit.validatorShare FeeSplit.totalFee is
    fun i => (split_close i).2.2.2.1
  have hvalidators' := totalOf_le (s := s) cfg FeeSplit.totalFee FeeSplit.validatorShare is
    fun i => (split_close i).2.2.2.2
  change 100 * ag ≤ 36 * fees + 50 * count at hag
  change 36 * fees ≤ 100 * ag + 99 * count at hag'
  change 100 * validators ≤ 10 * fees + 50 * count at hvalidators
  change 10 * fees ≤ 100 * validators + 99 * count at hvalidators'
  -- the Khural foundation gets what the others leave
  omega

end Runs

end TransactionFees
