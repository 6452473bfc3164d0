import Altan.Runtime.Constants

/-!
# Promises are paid to whoever brings them

A promise is signed with its amount and its number, and not with the receiver it was given to. Of
the receiver a settlement asks nothing but an account that can be paid, so a promise that one
account could settle is paid to any other that settles it first.

## Main definitions

* `Pays`: a settlement by an account is accepted and adds to its balance
* `State.due`: what a settlement of a promise pays
* `Payable`: what there has to be for a settlement to pay

## Main results

* `pays_iff`: a settlement pays who submits it when it is payable
* `bound_iff`: the promises that one of two accounts cannot take from the other
* `promise_diverted`: a promise that either of two accounts may settle
-/

open Bounded Dispatch Ledger TransitionSystem Runtime

namespace SteppeOffline

variable {AccountId Signature Register L : Type} [DecidableEq AccountId] [Currency AccountId L]
  [EscrowCurrency AccountId L] {cfg : Config AccountId Signature Register}
  {sender r r₁ r₂ : AccountId} {payload : IouPayload} {signature : Signature}
  {s : State AccountId Register L} {l : L}

/-- What an account has, free and reserved. -/
def balance (l : L) (a : AccountId) : ℕ := freeBalance l a + reservedBalance l a

/-- The settlement of a promise, submitted by `r`, is accepted and pays `r`. -/
def Pays (cfg : Config AccountId Signature Register) (s : State AccountId Register L)
    (sender : AccountId) (payload : IouPayload) (signature : Signature) (r : AccountId) : Prop :=
  ∃ s', step cfg (.signed r, .settleIou sender payload signature) s = .ok s' ∧
    balance s.ledger r < balance s'.ledger r

/-- What a settlement of a promise pays: its amount, or what is left of the pocket. -/
def State.due (s : State AccountId Register L) (sender : AccountId) (payload : IouPayload) : ℕ :=
  min payload.amount (s.pocket sender)

/-- The transfer to `r` by which a promise is settled. -/
def payment (s : State AccountId Register L) (sender : AccountId) (payload : IouPayload)
    (r : AccountId) : Except CurrencyError L :=
  Currency.transfer (EscrowCurrency.unreserve s.ledger sender (s.due sender payload)) sender r
    (s.due sender payload)
    (if payload.amount ≤ s.pocket sender then .keepAlive else .allowDeath)

/-- A promise can be paid to `r`: it is presentable, something is due, and `r` is somebody else whom
the sender can pay so much. -/
structure Payable (cfg : Config AccountId Signature Register) (s : State AccountId Register L)
    (sender : AccountId) (payload : IouPayload) (signature : Signature) (r : AccountId) : Prop where
  presentable : Presentable cfg sender payload signature s
  other : r ≠ sender
  due : s.due sender payload ≠ 0
  payment : ∃ l, payment s sender payload r = .ok l

/-- Giving back moves nothing between accounts. -/
theorem balance_unreserve (a c : AccountId) (v : ℕ) :
    balance (EscrowCurrency.unreserve l a v) c = balance l c := by
  have h := EscrowCurrency.unreserve_released l a v
  unfold balance
  by_cases hc : c = a
  · have hfree := h.free
    have hreserved := h.reserved
    rw [hc]
    omega
  · rw [h.others c hc, h.othersReserved c hc]

omit [EscrowCurrency AccountId L] in
/-- A transfer adds to who is paid, unless it moves nothing. -/
theorem balance_transfer {a b : AccountId} {v : ℕ} {er : ExistenceRequirement} {l' : L}
    (h : Currency.transfer l a b v er = .ok l') :
    balance l b < balance l' b ↔ b ≠ a ∧ v ≠ 0 := by
  rcases Currency.transfer_cases h with ⟨hnoop, rfl⟩ | ⟨hv, hab, hmoved⟩
  · refine iff_of_false (Nat.lt_irrefl _) ?_
    rintro ⟨hne, hv⟩
    exact hnoop.elim hv (Ne.symm hne)
  · refine iff_of_true ?_ ⟨hab.symm, hv⟩
    unfold balance
    rw [hmoved.dest, hmoved.reserved]
    omega

/-- **Whom a settlement pays**: anybody but the sender, when something is due and the transfer goes
through. -/
theorem pays_iff :
    Pays cfg s sender payload signature r ↔ Payable cfg s sender payload signature r := by
  -- what is given back first adds to nobody
  have hpaid : ∀ l, payment s sender payload r = .ok l →
      (balance s.ledger r < balance l r ↔ r ≠ sender ∧ s.due sender payload ≠ 0) := by
    intro l hl
    rw [← balance_transfer hl, balance_unreserve]
  constructor
  · rintro ⟨s', hs', hmore⟩
    obtain ⟨receiver, horigin, hpresentable, hsettled⟩ := settleIou_eq_ok.mp hs'
    obtain rfl : r = receiver := Origin.signed.inj horigin
    suffices hl : payment s sender payload r = .ok s'.ledger from
      ⟨hpresentable, ((hpaid _ hl).mp hmore).1, ((hpaid _ hl).mp hmore).2, _, hl⟩
    rcases hsettled with hp | hd
    · unfold payment State.due
      rw [Nat.min_eq_left hp.covered, if_pos hp.covered]
      exact hp.transfer
    · have hledger := hd.ledger
      unfold payment State.due
      rw [Nat.min_eq_right hd.exceeded.le, if_neg (Nat.not_le.mpr hd.exceeded)]
      unfold emptied Currency.payTo at hledger
      split at hledger
      · cases ht : Currency.transfer (EscrowCurrency.unreserve s.ledger sender (s.pocket sender))
            sender r (s.pocket sender) .allowDeath with
        | ok l =>
          rw [attempt_of_ok ht] at hledger
          rw [hledger]
        | error e =>
          rw [attempt_of_error ht] at hledger
          rw [hledger, balance_unreserve] at hmore
          exact absurd hmore (Nat.lt_irrefl _)
      · rw [hledger] at hmore
        exact absurd hmore (Nat.lt_irrefl _)
  · rintro ⟨hpresentable, hr, hdue, l, hl⟩
    have hmore := (hpaid l hl).mpr ⟨hr, hdue⟩
    unfold payment State.due at hl
    by_cases hcovered : payload.amount ≤ s.pocket sender
    · rw [Nat.min_eq_left hcovered, if_pos hcovered] at hl
      refine ⟨{ s with
        ledger := l
        offlinePockets := s.offlinePockets.insert sender (s.pocket sender - payload.amount)
        processedIous := s.processedIous.insert (sender, payload.nonce) true }, ?_, hmore⟩
      exact settleIou_eq_ok.mpr ⟨r, rfl, hpresentable, Or.inl ⟨hcovered, hl, rfl, rfl, rfl⟩⟩
    · have hexceeded := Nat.not_le.mp hcovered
      rw [Nat.min_eq_right hexceeded.le, if_neg hcovered] at hl
      have hemptied : emptied sender r (s.pocket sender) s.ledger = l := by
        unfold emptied Currency.payTo
        rw [if_pos, attempt_of_ok hl]
        unfold State.due at hdue
        omega
      refine ⟨{ s with
        ledger := l
        offlinePockets := s.offlinePockets.insert sender 0
        processedIous := s.processedIous.insert (sender, payload.nonce) true
        register := attempt (cfg.slashCitizen sender) s.register }, ?_, hmore⟩
      exact settleIou_eq_ok.mpr
        ⟨r, rfl, hpresentable, Or.inr ⟨hexceeded, hemptied.symm, rfl, rfl, rfl⟩⟩

/-- What pays one account pays another that is not the sender and can be paid so much. -/
theorem pays_other_iff [ImpartialTransfers AccountId L]
    (h : Pays cfg s sender payload signature r₁) : Pays cfg s sender payload signature r₂ ↔
      r₂ ≠ sender ∧ existentialDeposit L ≤ freeBalance s.ledger r₂ + s.due sender payload := by
  obtain ⟨hpresentable, hr₁, hdue, l, hl⟩ := pays_iff.mp h
  have hfree : ∀ c, c ≠ sender → freeBalance
      (EscrowCurrency.unreserve s.ledger sender (s.due sender payload)) c =
        freeBalance s.ledger c := fun c hc =>
    (EscrowCurrency.unreserve_released s.ledger sender _).others c hc
  rw [pays_iff]
  constructor
  · rintro ⟨-, hr₂, -, l₂, hl₂⟩
    refine ⟨hr₂, ?_⟩
    rw [← hfree r₂ hr₂]
    exact (Currency.transfer_ok _ _ _ _ _ _ hdue hr₂.symm hl₂).alive
  · rintro ⟨hr₂, halive⟩
    refine ⟨hpresentable, hr₂, hdue, ?_⟩
    apply ImpartialTransfers.transfer_redirect _ _ _ _ _ _ _ hdue hr₁.symm hr₂.symm hl
    rw [hfree r₂ hr₂]
    exact halive

/-- **Which promises an account cannot take from another.** Of two accounts that submit the same
promise in the same state, the first being paid keeps the second from being paid just when it cannot
be paid to the first at all, or the second is the sender, or has too little to be paid what is
due. -/
theorem bound_iff [ImpartialTransfers AccountId L] :
    (Pays cfg s sender payload signature r₁ → ¬ Pays cfg s sender payload signature r₂) ↔
      ¬ Payable cfg s sender payload signature r₁ ∨ r₂ = sender ∨
        freeBalance s.ledger r₂ + s.due sender payload < existentialDeposit L := by
  rw [← pays_iff, ← imp_iff_not_or]
  refine forall_congr' fun h => ?_
  rw [pays_other_iff h, not_and_or, not_not, Nat.not_le]

/-- A promise of the account 1 is not paid to the account 1, to whomever else it may be paid. -/
theorem bound_iff_sender :
    ¬ (Pays steppe offTheGrid 1 (promised 60 1) (signatureOf 1 (promised 60 1).encode) 2 ∧
      Pays steppe offTheGrid 1 (promised 60 1) (signatureOf 1 (promised 60 1).encode) 1) :=
  not_and.mpr (bound_iff.mpr (Or.inr (Or.inl rfl)))

/-- A promise that the account 2 holds is paid to the account 3 if that submits it first. -/
theorem promise_diverted : ¬ ∀ xs sender payload signature r₁ r₂, r₁ ≠ r₂ →
    Pays steppe (run (step steppe) xs steppeGenesis) sender payload signature r₁ →
      ¬ Pays steppe (run (step steppe) xs steppeGenesis) sender payload signature r₂ := by
  intro h
  have hpays : ∀ r ∈ [2, 3], Pays steppe offTheGrid 1 (promised 60 1)
      (signatureOf 1 (promised 60 1).encode) r := by
    intro r hr
    refine pays_iff.mpr ⟨⟨by decide +kernel, by decide +kernel⟩, ?_, by decide +kernel, ?_⟩
    · revert r
      decide
    · apply exists_ok
      revert r
      decide +kernel
  exact h [locking] 1 (promised 60 1) (signatureOf 1 (promised 60 1).encode) 2 3 (by decide)
    (hpays 2 (by decide)) (hpays 3 (by decide))

end SteppeOffline
