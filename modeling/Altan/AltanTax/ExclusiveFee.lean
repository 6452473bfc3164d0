import Altan.AltanTax.Model
import Altan.Foundation.Payments
import Altan.Runtime.Estates

/-!
# The fee is exclusive

A transfer with a fee pays four accounts out of one: the destination gets exactly the amount, and
the three treasuries exactly the fee. Any of the five accounts may be the same. It goes through
whenever the sender can spend the amount, the fee and the existential deposit.

## Main definitions

* `feeOf`: the fee on an amount, and its shares
* `payments`: who is paid how much
* `Treasuries`: the treasuries are set up
* `Paid`: the effect of a transfer

## Main results

* `splitFee_eq_ok`: the amounts there is a fee on
* `transferWithFee_eq_ok`: what a transfer has checked and paid
* `exclusive_fee`: the balances after a transfer, and when it goes through
-/

open Bounded Dispatch Ledger TransitionSystem Runtime

namespace AltanTax

/-! ### The fee -/

/-- The fee on an amount, and its shares. -/
def feeOf (amount : ℕ) : FeeSplit :=
  let fee := min (3 * amount / 10000) feeCap
  { totalFee := fee
    khuralShare := fee - 36 * fee / 100 - 10 * fee / 100
    agShare := 36 * fee / 100
    validatorShare := 10 * fee / 100 }

/-- The shares make up the fee. -/
theorem feeOf_shares (amount : ℕ) :
    (feeOf amount).agShare + ((feeOf amount).validatorShare + (feeOf amount).khuralShare) =
      (feeOf amount).totalFee := by
  unfold feeOf
  dsimp only
  omega

theorem checkedRatio_bind_eq_ok {α : Type} {k : ℕ → Result α} {v m d : ℕ} {b : α} (hd : d ≠ 0) :
    (checkedRatio v m d >>= k) = .ok b ↔ v * m ≤ u128Max ∧ k (v * m / d) = .ok b := by
  unfold checkedRatio
  rw [required_bind_eq_ok]
  simp only [Option.bind_eq_some_iff, checkedMul_eq_some, checkedDiv_eq_some]
  constructor
  · rintro ⟨_, ⟨_, ⟨hfits, rfl⟩, -, rfl⟩, hk⟩
    exact ⟨hfits, hk⟩
  · rintro ⟨hfits, hk⟩
    exact ⟨_, ⟨_, ⟨hfits, rfl⟩, hd, rfl⟩, hk⟩

/-- **There is a fee** on every amount whose triple is in range: nothing overflows after that. -/
theorem splitFee_eq_ok {amount : ℕ} {split : FeeSplit} :
    splitFee amount = .ok split ↔ amount * 3 ≤ u128Max ∧ split = feeOf amount := by
  simp (disch := decide) only [splitFee, checkedRatio_bind_eq_ok, required_bind_eq_ok,
    checkedAdd_eq_some, Option.bind_eq_some_iff, checkedSub_eq_some, pure_eq_ok]
  refine and_congr_right fun hfits => ?_
  have hfee : 3 * amount / 10000 = amount * 3 / 10000 := by rw [Nat.mul_comm]
  unfold feeOf
  rw [hfee]
  generalize hf : min (amount * 3 / 10000) feeCap = fee
  have hcap : fee ≤ feeCap := hf ▸ Nat.min_le_right _ _
  have hraw : fee ≤ amount * 3 / 10000 := hf ▸ Nat.min_le_left _ _
  have hroom : feeCap * 36 ≤ u128Max := by decide
  dsimp only
  rw [Nat.mul_comm 36, Nat.mul_comm 10]
  constructor
  · rintro ⟨_, -, -, -, _, ⟨_, ⟨-, rfl⟩, -, rfl⟩, rfl⟩
    rfl
  · rintro rfl
    exact ⟨_, ⟨by omega, rfl⟩, by omega, by omega, _, ⟨_, ⟨by omega, rfl⟩, by omega, rfl⟩, rfl⟩

/-! ### The transfer -/

section Transfers

variable {AccountId L : Type} {s s' : State AccountId L} {origin : Origin AccountId}
  {sender dest ag khural validators : AccountId} {amount : ℕ} {event : FeeRouted AccountId}

/-- Who is paid how much, the destination first. -/
def payments (dest ag khural validators : AccountId) (amount : ℕ) : List (AccountId × ℕ) :=
  [(dest, amount), (ag, (feeOf amount).agShare), (validators, (feeOf amount).validatorShare),
    (khural, (feeOf amount).khuralShare)]

theorem payments_sum (dest ag khural validators : AccountId) (amount : ℕ) :
    ((payments dest ag khural validators amount).map Prod.snd).sum =
      amount + (feeOf amount).totalFee := by
  rw [← feeOf_shares]
  simp [payments]

/-- The three treasuries are set up. -/
structure Treasuries (s : State AccountId L) (ag khural validators : AccountId) : Prop where
  ag : s.agTreasuryAccount = some ag
  khural : s.khuralFoundationAccount = some khural
  validators : s.validatorPoolAccount = some validators

/-- The event of a transfer. -/
def routed (sender dest : AccountId) (amount : ℕ) : FeeRouted AccountId :=
  { feeOf amount with
    sender := sender
    recipient := dest
    amount := amount }

variable [Currency AccountId L]

/-- **What a transfer has checked and paid.** -/
theorem transferWithFee_eq_ok : transferWithFee origin dest amount s = .ok (s', event) ↔
    ∃ sender ag khural validators, origin = .signed sender ∧ Treasuries s ag khural validators ∧
      amount * 3 ≤ u128Max ∧ ∃ l,
        Currency.payAll sender (payments dest ag khural validators amount) s.ledger = .ok l ∧
          s' = { s with ledger := l } ∧ event = routed sender dest amount := by
  have hsplit : ∀ split, splitFee amount = .ok split ↔
      amount * 3 ≤ u128Max ∧ split = feeOf amount := fun split => splitFee_eq_ok
  unfold transferWithFee
  rw [ensureSigned_bind_eq_ok]
  simp only [required_bind_eq_ok, bind_eq_ok (x := splitFee amount), hsplit,
    liftCurrency_bind_eq_ok, pure_eq_ok, Prod.mk.injEq]
  constructor
  · rintro ⟨sender, hsender, ag, hag, khural, hkhural, validators, hvalidators, _,
      ⟨hfits, rfl⟩, l₁, h₁, l₂, h₂, l₃, h₃, l₄, h₄, rfl, rfl⟩
    refine ⟨sender, ag, khural, validators, hsender, ⟨hag, hkhural, hvalidators⟩, hfits, l₄, ?_,
      rfl, rfl⟩
    simp only [payments, Currency.payAll_cons]
    exact ⟨l₁, h₁, l₂, h₂, l₃, h₃, l₄, h₄, rfl⟩
  · rintro ⟨sender, ag, khural, validators, hsender, htreasuries, hfits, l, hpaid, rfl, rfl⟩
    simp only [payments, Currency.payAll_cons] at hpaid
    obtain ⟨l₁, h₁, l₂, h₂, l₃, h₃, l₄, h₄, hl⟩ := hpaid
    obtain rfl := Except.ok.inj hl
    exact ⟨sender, hsender, ag, htreasuries.ag, khural, htreasuries.khural, validators,
      htreasuries.validators, _, ⟨hfits, rfl⟩, l₁, h₁, l₂, h₂, l₃, h₃, l₄, h₄, rfl, rfl⟩

variable [DecidableEq AccountId]

/-- The effect of a transfer with a fee on the balances. -/
structure Paid (l l' : L) (sender dest ag khural validators : AccountId) (amount : ℕ) : Prop where
  free : ∀ c, freeBalance l' c + (if c = sender then amount + (feeOf amount).totalFee else 0) =
    freeBalance l c + (if c = dest then amount else 0) +
      (if c = ag then (feeOf amount).agShare else 0) +
      (if c = validators then (feeOf amount).validatorShare else 0) +
      (if c = khural then (feeOf amount).khuralShare else 0)
  reserved : ∀ c, reservedBalance l' c = reservedBalance l c
  issuance : totalIssuance l' = totalIssuance l

theorem paid_of_payAll {l l' : L} (h : Currency.payAll sender
    (payments dest ag khural validators amount) l = .ok l') :
    Paid l l' sender dest ag khural validators amount where
  free c := by
    have hfree := Currency.payAll_free h c
    rw [payments_sum] at hfree
    rw [hfree]
    simp [payments, Currency.received, Nat.add_assoc]
  reserved := Currency.payAll_reserved h
  issuance := Currency.payAll_issuance h

/-- **The fee is exclusive.** A transfer that goes through credits the destination with exactly the
amount and debits the sender with the amount and the fee, which is three in ten thousand of the
amount up to a thousand units; three treasuries share it, so that their shares make it up. It leaves
all other balances and the total issuance. A transfer that fails changes nothing. It goes through
whenever the sender can spend the amount, the fee and the existential deposit, whoever is paid is
alive, and three times the amount is in range. -/
theorem exclusive_fee [EscrowCurrency AccountId L] [LockableCurrency AccountId L]
    [ReapedAccounts AccountId L] [SpendableTransfers AccountId L] (s : State AccountId L)
    (origin : Origin AccountId) (dest : AccountId) (amount : ℕ) :
    (∀ s' event, transferWithFee origin dest amount s = .ok (s', event) →
      ∃ sender ag khural validators, origin = .signed sender ∧
        Treasuries s ag khural validators ∧
        (feeOf amount).totalFee = min (3 * amount / 10000) (1000 * CentralBank.unit) ∧
        (feeOf amount).agShare = 36 * (feeOf amount).totalFee / 100 ∧
        (feeOf amount).validatorShare = 10 * (feeOf amount).totalFee / 100 ∧
        (feeOf amount).agShare + (feeOf amount).validatorShare + (feeOf amount).khuralShare =
          (feeOf amount).totalFee ∧
        event = routed sender dest amount ∧ s' = { s with ledger := s'.ledger } ∧
        Paid s.ledger s'.ledger sender dest ag khural validators amount) ∧
    (∀ e, step (origin, .transferWithFee dest amount) s = .error e →
      exec step (origin, .transferWithFee dest amount) s = s) ∧
    ∀ sender ag khural validators, origin = .signed sender → Treasuries s ag khural validators →
      Spendable s.ledger sender (amount + (feeOf amount).totalFee + existentialDeposit L) →
      (∀ c ∈ [dest, ag, khural, validators], Alive s.ledger c) → amount * 3 ≤ u128Max →
        ∃ s' event, transferWithFee origin dest amount s = .ok (s', event) := by
  refine ⟨?_, fun e he => exec_error he, ?_⟩
  · intro s' event h
    obtain ⟨sender, ag, khural, validators, hsender, htreasuries, -, l, hpaid, rfl, hevent⟩ :=
      transferWithFee_eq_ok.mp h
    have hshares := feeOf_shares amount
    exact ⟨sender, ag, khural, validators, hsender, htreasuries, rfl, rfl, rfl, by omega, hevent,
      rfl, paid_of_payAll hpaid⟩
  · intro sender ag khural validators hsender htreasuries hspendable halive hfits
    -- the four payments are the amount and the shares of the fee
    rw [← payments_sum dest ag khural validators] at hspendable
    have hfunded : ∀ c ∈ [dest, ag, khural, validators], existentialDeposit L ≤
        freeBalance s.ledger c :=
      fun c hc => EscrowCurrency.existentialDeposit_le_of_alive (halive c hc)
    obtain ⟨l, hl⟩ := Currency.payAll_isOk hspendable (by
      intro p hp
      simp only [payments, List.mem_cons, List.not_mem_nil, or_false] at hp
      rcases hp with rfl | rfl | rfl | rfl
      · exact hfunded dest (by simp)
      · exact hfunded ag (by simp)
      · exact hfunded validators (by simp)
      · exact hfunded khural (by simp))
    exact ⟨{ s with ledger := l }, routed sender dest amount, transferWithFee_eq_ok.mpr
      ⟨sender, ag, khural, validators, hsender, htreasuries, hfits, l, hl, rfl, rfl⟩⟩

end Transfers

/-- The citizens 1 and 5 and the treasuries 2 to 4 have ten units each. -/
def taxGenesis : State ℕ (EscrowLedger ℕ) :=
  genesis (some 2) (some 3) (some 4)
    (ProvidedBalances.ofFree ([1, 2, 3, 4, 5].map fun account => (account, 10 * CentralBank.unit)))

/-- The citizen 1 pays nine units to the citizen 5. -/
theorem exclusive_fee_nine_units : ∃ s' event,
    transferWithFee (.signed 1) 5 (9 * CentralBank.unit) taxGenesis = .ok (s', event) ∧
      Paid taxGenesis.ledger s'.ledger 1 5 2 3 4 (9 * CentralBank.unit) := by
  obtain ⟨hpaid, -, hok⟩ := exclusive_fee taxGenesis (.signed 1) 5 (9 * CentralBank.unit)
  have hlock : ∀ id, lockAmount taxGenesis.ledger id 1 = 0 := fun id =>
    Balances.ofFree_lockAmount _ id 1
  obtain ⟨s', event, h⟩ := hok 1 2 3 4 rfl ⟨rfl, rfl, rfl⟩ (fun id => by
    rw [hlock id]
    decide +kernel) (by decide +kernel) (by decide)
  obtain ⟨sender, ag, khural, validators, hsender, htreasuries, -, -, -, -, -, -, hp⟩ :=
    hpaid s' event h
  obtain rfl : 1 = sender := Origin.signed.inj hsender
  obtain rfl : 2 = ag := Option.some.inj htreasuries.ag
  obtain rfl : 3 = khural := Option.some.inj htreasuries.khural
  obtain rfl : 4 = validators := Option.some.inj htreasuries.validators
  exact ⟨s', event, h, hp⟩

end AltanTax
