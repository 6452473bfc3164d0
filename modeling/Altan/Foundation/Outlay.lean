import Mathlib.Data.Set.Insert
import Altan.Foundation.Accounting
import Altan.Foundation.Payments

/-!
# Outlay

Who pays for an operation on a ledger: the accounts whose free balance it may lower, or what they
hold in all. A transfer, a withdrawal and a reservation are paid for by their source, a creation by
nobody. What several operations take in a row is paid for by the payers of one of them.

## Main definitions

* `PaidBy payers l l'`: between two ledgers only what `payers` hold falls, or the free part of it
* `InertLocks`: setting or removing a lock issues nothing

## Main results

* `PaidBy.trans`: one operation after another
* `holdings_run_ge`: what a run leaves an account
* `paidBy_transfer`, `paidBy_withdraw`, `paidBy_depositCreating` and their like: the operations of
  a currency
-/

open Dispatch Ledger TransitionSystem

/-- A currency whose locks do not touch the total issuance. -/
class InertLocks (AccountId : outParam Type) (L : Type) [Currency AccountId L]
    [LockableCurrency AccountId L] : Prop where
  setLock_issuance : ∀ (l : L) id a v,
    totalIssuance (LockableCurrency.setLock l id a v) = totalIssuance l
  removeLock_issuance : ∀ (l : L) id a,
    totalIssuance (LockableCurrency.removeLock l id a) = totalIssuance l

namespace Ledger

variable {AccountId L : Type} [Ledger AccountId L] {P Q : Set AccountId} {l l' l'' : L}
  {a : AccountId} {v : ℕ}

/-- What an account holds, reserved or not. -/
def holding (l : L) (a : AccountId) : ℕ := freeBalance l a + reservedBalance l a

/-- Between two ledgers only what some accounts hold falls, or the free part of it. -/
structure PaidBy (payers : Set AccountId) (l l' : L) : Prop where
  free : ∀ c, c ∉ payers → freeBalance l c ≤ freeBalance l' c
  holding : ∀ c, c ∉ payers → holding l c ≤ holding l' c

theorem PaidBy.refl (l : L) : PaidBy P l l := ⟨fun _ _ => Nat.le_refl _, fun _ _ => Nat.le_refl _⟩

theorem PaidBy.trans (h : PaidBy P l l') (h' : PaidBy P l' l'') : PaidBy P l l'' :=
  ⟨fun c hc => (h.free c hc).trans (h'.free c hc),
    fun c hc => (h.holding c hc).trans (h'.holding c hc)⟩

theorem PaidBy.mono (h : PaidBy P l l') (hPQ : P ⊆ Q) : PaidBy Q l l' :=
  ⟨fun c hc => h.free c fun hp => hc (hPQ hp), fun c hc => h.holding c fun hp => hc (hPQ hp)⟩

/-- What one of the payers pays. -/
theorem PaidBy.of_mem (h : PaidBy {a} l l') (ha : a ∈ P) : PaidBy P l l' :=
  h.mono (Set.singleton_subset_iff.mpr ha)

theorem PaidBy.of_empty (h : PaidBy ∅ l l') : PaidBy P l l' := h.mono (Set.empty_subset P)

/-- Where nothing happens to what is reserved, the free balances decide. -/
theorem PaidBy.of_reserved (hfree : ∀ c, c ∉ P → freeBalance l c ≤ freeBalance l' c)
    (hreserved : ∀ c, c ∉ P → reservedBalance l' c = reservedBalance l c) : PaidBy P l l' where
  free := hfree
  holding c hc := by
    unfold Ledger.holding
    rw [hreserved c hc]
    exact Nat.add_le_add_right (hfree c hc) _

theorem Debited.paidBy (h : Debited l l' a v) : PaidBy {a} l l' :=
  .of_reserved (fun c hc => (h.others c hc).ge) fun c _ => h.reserved c

theorem Reserved.paidBy (h : Reserved l l' a v) : PaidBy {a} l l' :=
  .of_reserved (fun c hc => (h.others c hc).ge) h.othersReserved

end Ledger

/-! ### Runs -/

section Runs

variable {AccountId L σ ι ε : Type} [DecidableEq AccountId] [Ledger AccountId L]
  {step : ι → σ → Except ε σ} {J : σ → Prop}

/-- Where every accepted input is paid for by its payers, a run leaves an account at least what the
inputs that it pays for leave of its free balance, and of all it holds. -/
theorem holdings_run_ge (ledger : σ → L) (payers : ι → List AccountId)
    (hJ : ∀ i s s', J s → step i s = .ok s' → J s')
    (hstep : ∀ i s s', J s → step i s = .ok s' →
      PaidBy { a | a ∈ payers i } (ledger s) (ledger s'))
    (is : List ι) {s : σ} (hj : J s) (a : AccountId) :
    (freeBalance (ledger s) a : ℤ) +
        gain step (fun i => a ∈ payers i) (fun s => (freeBalance (ledger s) a : ℤ)) is s ≤
        freeBalance (ledger (run step is s)) a ∧
      (holding (ledger s) a : ℤ) +
        gain step (fun i => a ∈ payers i) (fun s => (holding (ledger s) a : ℤ)) is s ≤
        holding (ledger (run step is s)) a := by
  constructor
  · refine add_gain_le (f := fun s => (freeBalance (ledger s) a : ℤ)) hJ ?_ is hj
    intro i s s' hj ha hs
    exact Int.ofNat_le.mpr ((hstep i s s' hj hs).free a ha)
  · refine add_gain_le (f := fun s => (holding (ledger s) a : ℤ)) hJ ?_ is hj
    intro i s s' hj ha hs
    exact Int.ofNat_le.mpr ((hstep i s s' hj hs).holding a ha)

end Runs

/-! ### The operations -/

namespace Currency

variable {AccountId L : Type} [Currency AccountId L] {l l' : L} {a b : AccountId} {v : ℕ}
  {er : ExistenceRequirement}

/-- A withdrawal is paid for by the account it is taken from. -/
theorem paidBy_withdraw (h : withdraw l a v .keepAlive = .ok l') : PaidBy {a} l l' :=
  (withdraw_keepAlive l a v l' h).paidBy

/-- A withdrawal issues nothing. -/
theorem withdraw_issuance_le (h : withdraw l a v .keepAlive = .ok l') :
    totalIssuance l' ≤ totalIssuance l :=
  (Nat.le_add_right _ v).trans (withdraw_keepAlive l a v l' h).issuance.le

/-- A creation is paid for by nobody. -/
theorem paidBy_depositCreating (l : L) (a : AccountId) (v : ℕ) :
    PaidBy ∅ l (depositCreating l a v) :=
  .of_reserved (fun c _ => depositCreating_ge l a v c) fun c _ => depositCreating_reserved l a v c

section Transfers

variable [DecidableEq AccountId]

/-- A transfer is paid for by its source. -/
theorem paidBy_transfer (h : transfer l a b v er = .ok l') : PaidBy {a} l l' :=
  .of_reserved (fun _ hc => transfer_free_le h hc) fun c _ => transfer_reserved h c

/-- A transfer issues nothing. -/
theorem transfer_issuance_le (h : transfer l a b v er = .ok l') :
    totalIssuance l' ≤ totalIssuance l := by
  rcases transfer_cases h with ⟨-, rfl⟩ | ⟨-, -, ht⟩
  · exact Nat.le_refl _
  · rw [← ht.issuance]
    exact Nat.le_add_right _ _

end Transfers

section Locks

variable [LockableCurrency AccountId L]

theorem paidBy_setLock (l : L) (id : LockIdentifier) (a : AccountId) (v : ℕ) :
    PaidBy ∅ l (LockableCurrency.setLock l id a v) :=
  .of_reserved (fun c _ => (LockableCurrency.setLock_free l id a v c).ge)
    fun c _ => LockableCurrency.setLock_reserved l id a v c

theorem paidBy_removeLock (l : L) (id : LockIdentifier) (a : AccountId) :
    PaidBy ∅ l (LockableCurrency.removeLock l id a) :=
  .of_reserved (fun c _ => (LockableCurrency.removeLock_free l id a c).ge)
    fun c _ => LockableCurrency.removeLock_reserved l id a c

end Locks

end Currency

/-! ### Signers -/

namespace Dispatch.Origin

variable {AccountId : Type} {o : Origin AccountId} {who : AccountId}

/-- The account that signs a call, if any. -/
def signers : Origin AccountId → List AccountId
  | .signed who => [who]
  | _ => []

/-- What the signer of a call pays. -/
theorem mem_signers (h : o = .signed who) : who ∈ o.signers := by
  rw [h]
  exact List.mem_singleton_self who

end Dispatch.Origin

/-! ### Ledgers -/

instance (AccountId : Type) [DecidableEq AccountId] (ed : ℕ) :
    InertLocks AccountId (Balances AccountId ed) where
  setLock_issuance s id a v := by
    change (s.setLock id a v).issuance = s.issuance
    unfold Balances.setLock
    split <;> rfl
  removeLock_issuance _ _ _ := rfl
