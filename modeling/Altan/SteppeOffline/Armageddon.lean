import Altan.Foundation.Payments
import Altan.Runtime.Constants

/-!
# What becomes of a pocket that was promised away

Whoever promises more than the pocket holds loses it: the pocket is empty afterwards, what was
reserved for it is given back, and a citizen who is neither exiled nor dead is frozen. Then the
module tries to pay the receiver. It does not insist: when the sender is the receiver, when the
receiver would not have the existential deposit, or when the sender has locked more than is left,
the money stays with the sender.

## Main definitions

* `Deliverable`: what is in a pocket can be paid on to the receiver
* `Armageddon`: the effect of a promise of more than the pocket holds
* `ChainInput`, `chainStep`: the pockets while citizens and balances change elsewhere
* `Spares`: elsewhere nothing is taken of what is reserved for the pockets

## Main results

* `emptied_delivered`, `emptied_kept`: where the money goes
* `backed_run`: every pocket is reserved in every run
* `armageddon`: a promise of more than the pocket holds has its effect
-/

open Bounded Dispatch Ledger TransitionSystem Runtime Identity

namespace SteppeOffline

variable {AccountId Signature Register L : Type}

/-! ### The money -/

section Money

variable [Ledger AccountId L] {sender receiver : AccountId} {pocket : ℕ} {l : L}

/-- What is in a pocket can be paid on: it is nothing, or the receiver is another and has the
existential deposit then, and the locks of the sender are covered by what is left. -/
def Deliverable (l : L) (sender receiver : AccountId) (pocket : ℕ) : Prop :=
  pocket = 0 ∨ receiver ≠ sender ∧ existentialDeposit L ≤ freeBalance l receiver + pocket ∧
    ∀ id, lockAmount l id sender ≤ freeBalance l sender + (reservedBalance l sender - pocket)

end Money

section Money

variable [Currency AccountId L] [EscrowCurrency AccountId L] [UnlockedEscrow AccountId L]
  [SpendableTransfers AccountId L] {sender receiver : AccountId} {pocket : ℕ} {l : L}

/-- When what was given back can be paid on to another. -/
theorem transfer_released_iff (hpos : pocket ≠ 0) (hne : receiver ≠ sender)
    (hbacked : pocket ≤ reservedBalance l sender) :
    (∃ l', Currency.transfer (EscrowCurrency.unreserve l sender pocket) sender receiver pocket
      .allowDeath = .ok l') ↔ Deliverable l sender receiver pocket := by
  have hreleased := EscrowCurrency.unreserve_released l sender pocket
  -- what is reserved keeps the existential deposit free
  have hprovided := EscrowCurrency.reserved_provided l sender (by omega)
  have hfree := hreleased.free
  have hreserved := hreleased.reserved
  rw [Nat.min_eq_left hbacked] at hfree hreserved
  rw [SpendableTransfers.transfer_isOk_iff _ _ _ _ _ hpos hne.symm (by omega),
    hreleased.others receiver hne]
  unfold Spendable Deliverable
  rw [hfree]
  simp only [UnlockedEscrow.unreserve_lock]
  constructor
  · rintro ⟨hspendable, hdest⟩
    refine Or.inr ⟨hne, hdest, fun id => ?_⟩
    have hid := hspendable id
    omega
  · rintro (hzero | ⟨-, hdest, hlocks⟩)
    · exact absurd hzero hpos
    · refine ⟨fun id => ?_, hdest⟩
      have hid := hlocks id
      omega

variable [DecidableEq AccountId]

omit [UnlockedEscrow AccountId L] [SpendableTransfers AccountId L] in
/-- What is given back of a pocket is free. -/
theorem unreserve_free (hbacked : pocket ≤ reservedBalance l sender) (a : AccountId) :
    freeBalance (EscrowCurrency.unreserve l sender pocket) a =
      freeBalance l a + if a = sender then pocket else 0 := by
  have hreleased := EscrowCurrency.unreserve_released l sender pocket
  by_cases ha : a = sender
  · rw [if_pos ha, ha, hreleased.free, Nat.min_eq_left hbacked]
  · rw [if_neg ha, hreleased.others a ha, Nat.add_zero]

omit [UnlockedEscrow AccountId L] [SpendableTransfers AccountId L] in
/-- What was reserved for a pocket is given back. -/
theorem emptied_reserved (hbacked : pocket ≤ reservedBalance l sender) (a : AccountId) :
    reservedBalance (emptied sender receiver pocket l) a + (if a = sender then pocket else 0) =
      reservedBalance l a := by
  have hreleased := EscrowCurrency.unreserve_released l sender pocket
  unfold emptied
  split
  · rw [Currency.payTo_reserved]
    by_cases ha : a = sender
    · have hreserved := hreleased.reserved
      rw [Nat.min_eq_left hbacked] at hreserved
      rw [if_pos ha, ha, hreserved]
    · rw [if_neg ha, hreleased.othersReserved a ha, Nat.add_zero]
  · next hzero =>
    rw [Nat.eq_zero_of_not_pos hzero, ite_self, Nat.add_zero]

/-- **What can be paid on goes to the receiver**, and the sender keeps the free balance. -/
theorem emptied_delivered (hbacked : pocket ≤ reservedBalance l sender)
    (h : Deliverable l sender receiver pocket) (a : AccountId) :
    freeBalance (emptied sender receiver pocket l) a =
      freeBalance l a + if a = receiver then pocket else 0 := by
  unfold emptied
  split
  · next hpos =>
    obtain ⟨hne, -, -⟩ := h.resolve_left hpos.ne'
    obtain ⟨l', hl'⟩ := (transfer_released_iff hpos.ne' hne hbacked).mpr h
    have hprovided := EscrowCurrency.reserved_provided l sender (hpos.trans_le hbacked)
    have hmoved := Currency.transfer_ok _ _ _ _ _ l' hpos.ne' hne.symm hl'
    have hsender := unreserve_free hbacked sender
    rw [if_pos rfl] at hsender
    have hpaid : Currency.payTo sender (EscrowCurrency.unreserve l sender pocket)
        (receiver, pocket) = l' := attempt_of_ok hl'
    rw [hpaid]
    by_cases ha : a = sender
    · have hrest := remainder_of_le (l := EscrowCurrency.unreserve l sender pocket)
        (a := sender) (v := pocket) (by omega)
      rw [ha, if_neg (Ne.symm hne), hmoved.source, hrest]
      omega
    · by_cases har : a = receiver
      · rw [if_pos har, har, hmoved.dest, unreserve_free hbacked, if_neg hne, Nat.add_zero]
      · rw [if_neg har, hmoved.others a ha har, unreserve_free hbacked, if_neg ha]
  · next hzero =>
    rw [Nat.eq_zero_of_not_pos hzero, ite_self, Nat.add_zero]

/-- **What cannot be paid on stays with the sender.** -/
theorem emptied_kept (hbacked : pocket ≤ reservedBalance l sender)
    (h : ¬ Deliverable l sender receiver pocket) (a : AccountId) :
    freeBalance (emptied sender receiver pocket l) a =
      freeBalance l a + if a = sender then pocket else 0 := by
  have hpos : pocket ≠ 0 := fun hzero => h (Or.inl hzero)
  have hstays : Currency.payTo sender (EscrowCurrency.unreserve l sender pocket)
      (receiver, pocket) = EscrowCurrency.unreserve l sender pocket := by
    by_cases hne : receiver = sender
    · exact attempt_of_ok (Currency.transfer_noop _ _ _ _ _ (Or.inr hne.symm))
    · cases ht : Currency.transfer (EscrowCurrency.unreserve l sender pocket) sender receiver
          pocket .allowDeath with
      | error e => exact attempt_of_error ht
      | ok l' => exact absurd ((transfer_released_iff hpos hne hbacked).mp ⟨l', ht⟩) h
  unfold emptied
  rw [if_pos (Nat.pos_of_ne_zero hpos), hstays]
  exact unreserve_free hbacked a

end Money

/-! ### Runs -/

/-- A call, or a change of the register and of the balances elsewhere. -/
inductive ChainInput (AccountId Signature Register L : Type)
  | call (x : Input AccountId Signature)
  | elsewhere (register : Register) (ledger : L)

section Runs

variable [DecidableEq AccountId] [Currency AccountId L] [EscrowCurrency AccountId L]
  {cfg : Config AccountId Signature Register} {s s' : State AccountId Register L}
  {x : ChainInput AccountId Signature Register L}

/-- The state after one input. -/
def chainStep (cfg : Config AccountId Signature Register) :
    ChainInput AccountId Signature Register L → State AccountId Register L →
      Result (State AccountId Register L)
  | .call x, s => step cfg x s
  | .elsewhere register ledger, s => .ok { s with
    register := register
    ledger := ledger }

/-- Every pocket is reserved. -/
def Backed (s : State AccountId Register L) : Prop :=
  ∀ a, s.pocket a ≤ reservedBalance s.ledger a

/-- Elsewhere nothing is taken of what is reserved for the pockets. -/
def Spares (s : State AccountId Register L) : ChainInput AccountId Signature Register L → Prop
  | .call _ => True
  | .elsewhere _ ledger => ∀ a, s.pocket a ≤ reservedBalance ledger a

/-- **Step lemma.** Every pocket stays reserved. -/
theorem backed_step (h : Backed s) (hspares : Spares s x) (hstep : chainStep cfg x s = .ok s') :
    Backed s' := by
  intro a
  cases x with
  | elsewhere register ledger =>
    obtain rfl := Except.ok.inj hstep
    exact hspares a
  | call x =>
    obtain ⟨origin, c⟩ := x
    cases c with
    | lockFunds amount =>
      obtain ⟨caller, -, -, l, hl, rfl⟩ := lockFunds_eq_ok.mp hstep
      have hreserved := ReservableCurrency.reserve_ok _ _ _ _ hl
      have hpocket := h a
      unfold State.pocket at hpocket ⊢
      dsimp only
      rw [StorageMap.getD_insert]
      split
      · next ha =>
        have hle : saturatingAdd u128Max (s.pocket caller) amount ≤ s.pocket caller + amount :=
          saturatingAdd_le_add
        rw [ha] at hpocket ⊢
        rw [hreserved.reserved]
        exact hle.trans (Nat.add_le_add_right hpocket _)
      · next ha =>
        rw [hreserved.othersReserved a ha]
        exact hpocket
    | settleIou sender payload signature =>
      obtain ⟨receiver, -, -, hsettled⟩ := settleIou_eq_ok.mp hstep
      by_cases ha : a = sender
      · rw [ha]
        exact hsettled.backed (h sender)
      · rw [hsettled.pocket_of_ne ha, hsettled.reserved_of_ne ha]
        exact h a

/-- **Every pocket is reserved in every run.** -/
theorem backed_run {register : Register} {l : L}
    {xs : List (ChainInput AccountId Signature Register L)}
    (h : Along (chainStep cfg) Spares xs (genesis register l)) :
    Backed (run (chainStep cfg) xs (genesis register l)) :=
  (throughout_of_along (fun _ _ _ hb hq hstep => backed_step hb hq hstep)
    (fun _ => Nat.zero_le _) h).last

end Runs

/-! ### Armageddon -/

section Armageddon

variable [DecidableEq AccountId] [Currency AccountId L] [EscrowCurrency AccountId L]
  [UnlockedEscrow AccountId L] [SpendableTransfers AccountId L]

/-- A promise of more than the pocket holds: the pocket is empty, what was reserved for it is with
the receiver if it could be paid on and with the sender if not, and the record of the sender is
frozen unless it is in a terminal state. The records of others stay as they are. -/
structure Armageddon (sender receiver : AccountId)
    (s s' : State AccountId (StorageMap AccountId CitizenRecord) L) : Prop where
  pocket : s'.pocket sender = 0
  reserved : ∀ a, reservedBalance s'.ledger a + (if a = sender then s.pocket sender else 0) =
    reservedBalance s.ledger a
  delivered : Deliverable s.ledger sender receiver (s.pocket sender) → ∀ a,
    freeBalance s'.ledger a = freeBalance s.ledger a + if a = receiver then s.pocket sender else 0
  kept : ¬ Deliverable s.ledger sender receiver (s.pocket sender) → ∀ a,
    freeBalance s'.ledger a = freeBalance s.ledger a + if a = sender then s.pocket sender else 0
  frozen : ∀ r, s.register.get sender = some r → r.status ≠ .exiled → r.status ≠ .deceased →
    s'.register.get sender = some { r with status := .frozen }
  others : ∀ a, a ≠ sender → s'.register.get a = s.register.get a

omit [Currency AccountId L] [EscrowCurrency AccountId L] [UnlockedEscrow AccountId L]
  [SpendableTransfers AccountId L] in
/-- Who is struck from the register is frozen, and who is not in it is left out. -/
theorem slashed_get (citizens : StorageMap AccountId CitizenRecord) (who a : AccountId) :
    (attempt (identitySlasher who) citizens).get a = if a = who then
      (citizens.get a).map fun r => { r with status := .frozen }
    else citizens.get a := by
  cases hget : citizens.get who with
  | none =>
    have herror : identitySlasher who citizens = .error () := by
      unfold identitySlasher
      rw [hget]
      rfl
    rw [attempt_of_error herror]
    split
    · next ha => rw [ha, hget, Option.map_none]
    · rfl
  | some r =>
    have hok : identitySlasher who citizens =
        .ok (citizens.insert who { r with status := .frozen }) := by
      unfold identitySlasher
      rw [hget]
      rfl
    rw [attempt_of_ok hok, StorageMap.get_insert]
    split
    · next ha => rw [ha, hget, Option.map_some]
    · rfl

/-- **A promise of more than the pocket holds** is settled in every run, with all of its effect. -/
theorem armageddon (verify : BankOfSiberia.MultiSignature → List UInt8 → AccountId → Bool)
    (register : StorageMap AccountId CitizenRecord) (l : L)
    (xs : List (ChainInput AccountId BankOfSiberia.MultiSignature
      (StorageMap AccountId CitizenRecord) L))
    (hspared : Along (chainStep (steppeOffline verify)) Spares xs (genesis register l))
    (sender receiver : AccountId) (payload : IouPayload)
    (signature : BankOfSiberia.MultiSignature)
    (hpresentable : Presentable (steppeOffline verify) sender payload signature
      (run (chainStep (steppeOffline verify)) xs (genesis register l)))
    (hexceeded : (run (chainStep (steppeOffline verify)) xs (genesis register l)).pocket sender <
      payload.amount) :
    ∃ s', settleIou (steppeOffline verify) (.signed receiver) sender payload signature
        (run (chainStep (steppeOffline verify)) xs (genesis register l)) = .ok s' ∧
      Armageddon sender receiver
        (run (chainStep (steppeOffline verify)) xs (genesis register l)) s' := by
  have hbacked := backed_run hspared sender
  generalize run (chainStep (steppeOffline verify)) xs (genesis register l) = s at *
  let s' : State AccountId (StorageMap AccountId CitizenRecord) L :=
    { processedIous := s.processedIous.insert (sender, payload.nonce) true
      ledger := emptied sender receiver (s.pocket sender) s.ledger
      offlinePockets := s.offlinePockets.insert sender 0
      register := attempt (identitySlasher sender) s.register }
  have hdrained : Drained (steppeOffline verify) sender receiver payload s s' :=
    ⟨hexceeded, rfl, rfl, rfl, rfl⟩
  refine ⟨s', settleIou_eq_ok.mpr ⟨receiver, rfl, hpresentable, Or.inr hdrained⟩, ?_⟩
  refine ⟨hdrained.pocket, emptied_reserved hbacked, emptied_delivered hbacked,
    emptied_kept hbacked, fun r hr _ _ => ?_, fun a ha => ?_⟩
  · exact (slashed_get s.register sender sender).trans ((if_pos rfl).trans (by rw [hr]; rfl))
  · exact (slashed_get s.register sender a).trans (if_neg ha)

end Armageddon

/-- The account 1 puts one hundred units into its pocket, and promises a hundred and one to the
account 2. -/
theorem armageddon_offTheGrid : ∃ s',
    settleIou steppe (.signed 2) 1 (promised 101 0) (signatureOf 1 (promised 101 0).encode)
      (run (chainStep steppe) [.call locking] steppeGenesis) = .ok s' ∧
    Armageddon 1 2 (run (chainStep steppe) [.call locking] steppeGenesis) s' :=
  armageddon (fun signature message who => signature = signatureOf who message) ∅ _ [.call locking]
    ⟨fun _ _ => trivial, trivial⟩ 1 2 (promised 101 0) (signatureOf 1 (promised 101 0).encode)
    ⟨by decide +kernel, by decide +kernel⟩ (by decide +kernel)

/-- **Who is paid by oneself loses nothing**: the account 1 settles its own promise of more than the
pocket holds, and has the pocket back. -/
theorem armageddon_evaded :
    let s := run (chainStep steppe) [.call locking] steppeGenesis
    let s' := exec (chainStep steppe) (.call (.signed 1, .settleIou 1 (promised 101 0)
      (signatureOf 1 (promised 101 0).encode))) s
    s.pocket 1 < (promised 101 0).amount ∧ s'.pocket 1 = 0 ∧
      s'.isProcessed 1 0 = true ∧
      freeBalance s'.ledger 1 = freeBalance s.ledger 1 + s.pocket 1 ∧ 0 < s.pocket 1 := by
  decide +kernel

end SteppeOffline
