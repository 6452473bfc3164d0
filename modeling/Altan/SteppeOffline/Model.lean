import Altan.Foundation.Arithmetic
import Altan.Foundation.Dispatch
import Altan.Foundation.Escrow
import Altan.Foundation.Scale
import Altan.Foundation.StorageMap
import Altan.Foundation.TransitionSystem

/-!
# Offline payments

Before a citizen leaves the network, funds are reserved as an offline pocket. On the steppe the
citizen signs promises, each an amount under a number, and whoever holds one settles it when back
on the network: the amount is given back to the signer and paid on. A promise of more than the
pocket holds proves that the signer has spent it twice: what is left goes to the holder, and the
signer is struck from the register of citizens.

## Main definitions

* `Config`, `State`: the signatures and the register, and the storage
* `IouPayload.encode`: what is signed
* `lockFunds`, `settleIou`: the dispatchables
* `Call`, `dispatch`, `Input`, `step`: the module as a state machine
* `Paid`, `Drained`: the storage before and after the two kinds of settlement
* `Settled`: one of the two

## Main results

* `lockFunds_eq_ok`, `settleIou_eq_ok`: what a successful call has checked and changed
* `Settled.elsewhere`: what a settlement leaves of an account that does not pay
* `Settled.backed`, `Settled.issuance`: a pocket that is backed stays so, and nothing is lost
-/

open Bounded Dispatch

namespace SteppeOffline

/-- The errors of the module. -/
inductive Error
  | insufficientFreeBalance
  | invalidSignature
  | iouAlreadyProcessed
  deriving DecidableEq, Repr

/-- The outcome of a function of the module. -/
abbrev Result (α : Type) := Except (DispatchError Error) α

/-- What a payer promises, under a number. -/
structure IouPayload where
  amount : ℕ
  nonce : ℕ
  deriving DecidableEq, Repr

/-- What is signed of a promise: its amount in sixteen bytes and its number in eight. -/
def IouPayload.encode (payload : IouPayload) : List UInt8 :=
  Scale.littleEndian 16 payload.amount ++ Scale.littleEndian 8 payload.nonce

/-- The code the module rests on: how signatures are verified, and how a citizen is struck from the
register, which fails for whom it does not know. -/
structure Config (AccountId Signature Register : Type) where
  verify : Signature → List UInt8 → AccountId → Bool
  slashCitizen : AccountId → Register → Except Unit Register

/-- The storage of the module, the register of citizens and the ledger. -/
structure State (AccountId Register L : Type) where
  offlinePockets : StorageMap AccountId ℕ
  processedIous : StorageMap (AccountId × ℕ) Bool
  register : Register
  ledger : L

section Calls

variable {AccountId Signature Register L : Type} [DecidableEq AccountId]

/-- The storage before any call. -/
def genesis (register : Register) (ledger : L) : State AccountId Register L where
  offlinePockets := ∅
  processedIous := ∅
  register := register
  ledger := ledger

/-- What is in the pocket of an account. -/
def State.pocket (s : State AccountId Register L) (who : AccountId) : ℕ :=
  s.offlinePockets.getD who 0

/-- Whether a promise of the sender with this number has been settled. -/
def State.isProcessed (s : State AccountId Register L) (sender : AccountId) (nonce : ℕ) : Bool :=
  s.processedIous.getD (sender, nonce) false

variable [Currency AccountId L] [EscrowCurrency AccountId L]

/-- Reserve funds of the signer as a pocket. -/
def lockFunds (origin : Origin AccountId) (amount : ℕ) (s : State AccountId Register L) :
    Result (State AccountId Register L) := do
  let caller ← ensureSigned origin
  ensure (amount ≤ Ledger.freeBalance s.ledger caller) (.module .insufficientFreeBalance)
  let ledger ← liftCurrency (ReservableCurrency.reserve s.ledger caller amount)
  return { s with
    ledger := ledger
    offlinePockets :=
      s.offlinePockets.insert caller (saturatingAdd u128Max (s.pocket caller) amount) }

/-- Settle a promise of the sender, as the receiver. -/
def settleIou (cfg : Config AccountId Signature Register) (origin : Origin AccountId)
    (sender : AccountId) (payload : IouPayload) (signature : Signature)
    (s : State AccountId Register L) : Result (State AccountId Register L) := do
  let receiver ← ensureSigned origin
  ensure (s.isProcessed sender payload.nonce = false) (.module .iouAlreadyProcessed)
  let s := { s with processedIous := s.processedIous.insert (sender, payload.nonce) true }
  ensure (cfg.verify signature payload.encode sender = true) (.module .invalidSignature)
  let pocket := s.pocket sender
  if payload.amount ≤ pocket then
    let ledger ← liftCurrency (Currency.transfer
      (EscrowCurrency.unreserve s.ledger sender payload.amount) sender receiver payload.amount
      .keepAlive)
    return { s with
      ledger := ledger
      offlinePockets := s.offlinePockets.insert sender (pocket - payload.amount) }
  else
    -- the signer has promised more than there is
    return { s with
      ledger :=
        if 0 < pocket then
          attempt (fun l => Currency.transfer l sender receiver pocket .allowDeath)
            (EscrowCurrency.unreserve s.ledger sender pocket)
        else s.ledger
      offlinePockets := s.offlinePockets.insert sender 0
      register := attempt (cfg.slashCitizen sender) s.register }

end Calls

/-! ### Dispatch -/

/-- The dispatchables with their arguments. -/
inductive Call (AccountId Signature : Type)
  | lockFunds (amount : ℕ)
  | settleIou (sender : AccountId) (payload : IouPayload) (signature : Signature)
  deriving DecidableEq

variable {AccountId Signature Register L : Type} [DecidableEq AccountId] [Currency AccountId L]
  [EscrowCurrency AccountId L]

/-- Dispatch a call. -/
def dispatch (cfg : Config AccountId Signature Register) (origin : Origin AccountId) :
    Call AccountId Signature → State AccountId Register L → Result (State AccountId Register L)
  | .lockFunds amount => lockFunds origin amount
  | .settleIou sender payload signature => settleIou cfg origin sender payload signature

/-- A dispatched call: its origin and the call itself. -/
abbrev Input (AccountId Signature : Type) := Origin AccountId × Call AccountId Signature

/-- One call as a step of the state machine. -/
def step (cfg : Config AccountId Signature Register) (x : Input AccountId Signature)
    (s : State AccountId Register L) : Result (State AccountId Register L) :=
  dispatch cfg x.1 x.2 s

end SteppeOffline

/-! ### What the calls do

A settlement either pays a promise out of the pocket of its sender, or empties the pocket and
strikes the sender from the register. In both cases the promise is marked, and no other pocket and
no other mark changes. No later proof looks into a call again. -/

open Ledger

namespace SteppeOffline

variable {AccountId Signature Register L : Type} [DecidableEq AccountId] [Currency AccountId L]
  [EscrowCurrency AccountId L] {cfg : Config AccountId Signature Register}
  {origin : Origin AccountId} {sender receiver : AccountId} {payload : IouPayload}
  {signature : Signature} {s s' : State AccountId Register L}

/-- What the code checks before it pays: the promise is not settled, and the sender has signed
it. -/
structure Presentable (cfg : Config AccountId Signature Register) (sender : AccountId)
    (payload : IouPayload) (signature : Signature) (s : State AccountId Register L) : Prop where
  fresh : s.isProcessed sender payload.nonce = false
  signed : cfg.verify signature payload.encode sender = true

/-- A promise is paid out of the pocket. -/
structure Paid (sender receiver : AccountId) (payload : IouPayload)
    (s s' : State AccountId Register L) : Prop where
  covered : payload.amount ≤ s.pocket sender
  transfer : Currency.transfer (EscrowCurrency.unreserve s.ledger sender payload.amount) sender
    receiver payload.amount .keepAlive = .ok s'.ledger
  pockets : s'.offlinePockets =
    s.offlinePockets.insert sender (s.pocket sender - payload.amount)
  processed : s'.processedIous = s.processedIous.insert (sender, payload.nonce) true
  register : s'.register = s.register

/-- The ledger after what is left in a pocket is given back and paid on, if it can be. -/
def emptied (sender receiver : AccountId) (pocket : ℕ) (l : L) : L :=
  if 0 < pocket then
    Currency.payTo sender (EscrowCurrency.unreserve l sender pocket) (receiver, pocket)
  else l

/-- A promise of more than the pocket holds empties it. -/
structure Drained (cfg : Config AccountId Signature Register) (sender receiver : AccountId)
    (payload : IouPayload) (s s' : State AccountId Register L) : Prop where
  exceeded : s.pocket sender < payload.amount
  ledger : s'.ledger = emptied sender receiver (s.pocket sender) s.ledger
  pockets : s'.offlinePockets = s.offlinePockets.insert sender 0
  processed : s'.processedIous = s.processedIous.insert (sender, payload.nonce) true
  register : s'.register = attempt (cfg.slashCitizen sender) s.register

/-- A settlement either pays or empties. -/
def Settled (cfg : Config AccountId Signature Register) (sender receiver : AccountId)
    (payload : IouPayload) (s s' : State AccountId Register L) : Prop :=
  Paid sender receiver payload s s' ∨ Drained cfg sender receiver payload s s'

theorem lockFunds_eq_ok {amount : ℕ} : lockFunds origin amount s = .ok s' ↔
    ∃ caller, origin = .signed caller ∧ amount ≤ freeBalance s.ledger caller ∧
      ∃ l, ReservableCurrency.reserve s.ledger caller amount = .ok l ∧
        s' = { s with
          ledger := l
          offlinePockets :=
            s.offlinePockets.insert caller (saturatingAdd u128Max (s.pocket caller) amount) } := by
  simp only [lockFunds, ensureSigned_bind_eq_ok, ensure_bind_eq_ok, liftCurrency_bind_eq_ok,
    pure_eq_ok, eq_comm (a := s')]

/-- **A settlement pays the promise or empties the pocket.** -/
theorem settleIou_eq_ok : settleIou cfg origin sender payload signature s = .ok s' ↔
    ∃ receiver, origin = .signed receiver ∧ Presentable cfg sender payload signature s ∧
      Settled cfg sender receiver payload s s' := by
  have hpaid : ∀ receiver, payload.amount ≤ s.pocket sender →
      ((∃ l, Currency.transfer (EscrowCurrency.unreserve s.ledger sender payload.amount) sender
          receiver payload.amount .keepAlive = .ok l ∧
        { s with
          processedIous := s.processedIous.insert (sender, payload.nonce) true
          ledger := l
          offlinePockets := s.offlinePockets.insert sender (s.pocket sender - payload.amount) } =
            s') ↔ Paid sender receiver payload s s') := by
    intro receiver hcovered
    constructor
    · rintro ⟨l, hl, rfl⟩
      exact ⟨hcovered, hl, rfl, rfl, rfl⟩
    · rintro ⟨-, hl, hpockets, hprocessed, hregister⟩
      refine ⟨_, hl, ?_⟩
      obtain ⟨_, _, _, _⟩ := s'
      cases hpockets
      cases hprocessed
      cases hregister
      rfl
  have hdrained : ∀ receiver, s.pocket sender < payload.amount →
      ({ s with
          processedIous := s.processedIous.insert (sender, payload.nonce) true
          ledger := emptied sender receiver (s.pocket sender) s.ledger
          offlinePockets := s.offlinePockets.insert sender 0
          register := attempt (cfg.slashCitizen sender) s.register } = s' ↔
        Drained cfg sender receiver payload s s') := by
    intro receiver hexceeded
    constructor
    · rintro rfl
      exact ⟨hexceeded, rfl, rfl, rfl, rfl⟩
    · rintro ⟨-, hledger, hpockets, hprocessed, hregister⟩
      obtain ⟨_, _, _, _⟩ := s'
      cases hledger
      cases hpockets
      cases hprocessed
      cases hregister
      rfl
  unfold settleIou
  simp only [ensureSigned_bind_eq_ok, ensure_bind_eq_ok]
  refine exists_congr fun receiver => and_congr_right fun _ => ?_
  rw [← and_assoc]
  refine and_congr ⟨fun h => ⟨h.1, h.2⟩, fun h => ⟨h.fresh, h.signed⟩⟩ ?_
  -- the pocket decides which of the two it is
  change (if payload.amount ≤ s.pocket sender then _ else _) = _ ↔ _
  by_cases hcovered : payload.amount ≤ s.pocket sender
  · rw [if_pos hcovered, liftCurrency_bind_eq_ok]
    simp only [pure_eq_ok]
    refine (hpaid receiver hcovered).trans ⟨Or.inl, fun h => h.resolve_right fun hd => ?_⟩
    exact Nat.not_le.mpr hd.exceeded hcovered
  · rw [if_neg hcovered, pure_eq_ok]
    refine (hdrained receiver (Nat.not_le.mp hcovered)).trans ⟨Or.inr, fun h => ?_⟩
    exact h.resolve_left fun hp => hcovered hp.covered

/-! ### What a settlement leaves -/

theorem Paid.pocket (h : Paid sender receiver payload s s') :
    s'.pocket sender = s.pocket sender - payload.amount := by
  show s'.offlinePockets.getD sender 0 = _
  rw [h.pockets, StorageMap.getD_insert_self]

theorem Drained.pocket (h : Drained cfg sender receiver payload s s') : s'.pocket sender = 0 := by
  show s'.offlinePockets.getD sender 0 = 0
  rw [h.pockets, StorageMap.getD_insert_self]

section Settled

variable (h : Settled cfg sender receiver payload s s')

include h

theorem Settled.processed :
    s'.processedIous = s.processedIous.insert (sender, payload.nonce) true :=
  h.elim Paid.processed Drained.processed

/-- The promise is marked, and nothing else. -/
theorem Settled.isProcessed (a : AccountId) (nonce : ℕ) : s'.isProcessed a nonce =
    if a = sender ∧ nonce = payload.nonce then true else s.isProcessed a nonce := by
  unfold State.isProcessed
  rw [h.processed, StorageMap.getD_insert]
  simp only [Prod.mk.injEq]

theorem Settled.pocket_of_ne {a : AccountId} (ha : a ≠ sender) : s'.pocket a = s.pocket a := by
  unfold State.pocket
  rcases h with hp | hd
  · rw [hp.pockets, StorageMap.getD_insert, if_neg ha]
  · rw [hd.pockets, StorageMap.getD_insert, if_neg ha]

/-- A settlement gives something back to the sender and transfers something to the receiver, or
nothing. -/
theorem Settled.transfers : ∃ v w er, Currency.transfer
    (EscrowCurrency.unreserve s.ledger sender v) sender receiver w er = .ok s'.ledger := by
  rcases h with hp | hd
  · exact ⟨_, _, _, hp.transfer⟩
  have hnothing : ∀ l : L, Currency.transfer l sender receiver 0 .keepAlive = .ok l := fun l =>
    Currency.transfer_noop l sender receiver 0 _ (Or.inl rfl)
  rw [hd.ledger]
  unfold emptied Currency.payTo
  split
  · cases ht : Currency.transfer (EscrowCurrency.unreserve s.ledger sender (s.pocket sender))
        sender receiver (s.pocket sender) .allowDeath with
    | ok l =>
      rw [attempt_of_ok ht]
      exact ⟨_, _, _, ht⟩
    | error e =>
      rw [attempt_of_error ht]
      exact ⟨_, _, _, hnothing _⟩
  · refine ⟨0, 0, .keepAlive, ?_⟩
    rw [EscrowCurrency.unreserve_zero]
    exact hnothing _

/-- What is given back and paid on is not what others have reserved. -/
theorem Settled.reserved_of_ne {a : AccountId} (ha : a ≠ sender) :
    reservedBalance s'.ledger a = reservedBalance s.ledger a := by
  obtain ⟨v, w, er, ht⟩ := h.transfers
  rw [Currency.transfer_reserved ht]
  exact (EscrowCurrency.unreserve_released s.ledger sender v).othersReserved a ha

theorem Settled.lockAmount [LockableCurrency AccountId L] [UnlockedEscrow AccountId L]
    (id : LockIdentifier) (a : AccountId) :
    Ledger.lockAmount s'.ledger id a = Ledger.lockAmount s.ledger id a := by
  obtain ⟨v, w, er, ht⟩ := h.transfers
  rw [LockableCurrency.transfer_lock _ _ _ _ _ _ ht, UnlockedEscrow.unreserve_lock]

/-- What is left in a pocket that is backed stays so. -/
theorem Settled.backed (hbacked : s.pocket sender ≤ reservedBalance s.ledger sender) :
    s'.pocket sender ≤ reservedBalance s'.ledger sender := by
  rcases h with hp | hd
  · have hpocket := hp.pocket
    have hreleased := (EscrowCurrency.unreserve_released s.ledger sender payload.amount).reserved
    have hreserved := Currency.transfer_reserved hp.transfer sender
    omega
  · rw [hd.pocket]
    exact Nat.zero_le _

/-- A settlement out of a pocket that is backed moves balances only: the sender keeps what it had
beside the pocket. -/
theorem Settled.issuance (hbacked : s.pocket sender ≤ reservedBalance s.ledger sender) :
    totalIssuance s'.ledger = totalIssuance s.ledger := by
  have hreleased := fun v => EscrowCurrency.unreserve_released s.ledger sender v
  rcases h with hp | hd
  · exact (Currency.transfer_keepAlive_issuance hp.transfer).trans (hreleased _).issuance
  · rw [hd.ledger]
    unfold emptied
    split
    · next hpos =>
      have hprovided := EscrowCurrency.reserved_provided s.ledger sender (hpos.trans_le hbacked)
      have hfree := (hreleased (s.pocket sender)).free
      rw [Nat.min_eq_left hbacked] at hfree
      exact (Currency.payTo_disbursed hprovided hfree.ge).issuance.trans
        (hreleased _).issuance
    · rfl

end Settled

end SteppeOffline
