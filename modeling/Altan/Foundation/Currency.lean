import Mathlib.Algebra.GroupWithZero.Nat
import Altan.Foundation.Arithmetic
import Altan.Foundation.Dispatch

/-!
# Currencies

A currency keeps free and reserved balances, balance locks and the total issuance in a ledger
the modules of a runtime share. An account whose free balance falls below the existential
deposit, with nothing reserved, is removed and the rest of its balance is lost as dust; an
account is not created with less than the existential deposit.

The operations are those modules use, each with the documented effect of a successful call;
when a call is refused is left open except where a law says so.

## Main definitions

* `Ledger AccountId L`: what can be read from a ledger
* `Currency`, `ReservableCurrency`, `LockableCurrency`: the operations and their laws
* `UnlockedTransfers`: transfers are not refused without a reason
* `KeepingWithdrawals`: when what keeps its account alive can be destroyed
* `ImpartialTransfers`: who is paid makes no difference to who pays
* `Transferred`, `Credited`, `Debited`, `Reserved`: the effects of the operations
* `Creatable l a v`: creating `v` on the account `a` has its full effect
* `Currency.depositAll l cs`: the creations `cs` one after the other
-/

open Dispatch (CurrencyError)

/-- Whether a debit may remove the account it is taken from. -/
inductive ExistenceRequirement
  | keepAlive
  | allowDeath
  deriving DecidableEq, Repr

/-- The eight bytes a balance lock is known by. -/
abbrev LockIdentifier := List UInt8

/-- What can be read from a ledger `L` of balances. -/
class Ledger (AccountId : outParam Type) (L : Type) where
  /-- The least free balance of an account with nothing reserved. -/
  existentialDeposit : ℕ
  freeBalance : L → AccountId → ℕ
  reservedBalance : L → AccountId → ℕ
  totalIssuance : L → ℕ
  /-- The amount of the lock with this identifier on the account, zero without a lock. -/
  lockAmount : L → LockIdentifier → AccountId → ℕ
  balance_le_totalIssuance : ∀ l a, freeBalance l a + reservedBalance l a ≤ totalIssuance l
  totalIssuance_le : ∀ l, totalIssuance l ≤ Bounded.u128Max

namespace Ledger

variable {AccountId L : Type} [Ledger AccountId L]

/-- What is left of a free balance after a debit: nothing when the rest is dust. -/
def remainder (l : L) (a : AccountId) (v : ℕ) : ℕ :=
  if freeBalance l a - v < existentialDeposit L ∧ reservedBalance l a = 0 then 0
  else freeBalance l a - v

theorem remainder_le (l : L) (a : AccountId) (v : ℕ) : remainder l a v ≤ freeBalance l a - v := by
  unfold remainder
  split
  · exact Nat.zero_le _
  · exact Nat.le_refl _

theorem remainder_of_le {l : L} {a : AccountId} {v : ℕ}
    (h : existentialDeposit L ≤ freeBalance l a - v) : remainder l a v = freeBalance l a - v :=
  if_neg fun hd => Nat.not_lt.mpr h hd.1

/-- The effect of moving `v` from `a` to another account `b`. -/
structure Transferred (l l' : L) (a b : AccountId) (v : ℕ) : Prop where
  funded : v ≤ freeBalance l a
  source : freeBalance l' a = remainder l a v
  dest : freeBalance l' b = freeBalance l b + v
  alive : existentialDeposit L ≤ freeBalance l b + v
  others : ∀ c, c ≠ a → c ≠ b → freeBalance l' c = freeBalance l c
  reserved : ∀ c, reservedBalance l' c = reservedBalance l c
  /-- Only dust leaves the total issuance. -/
  issuance : totalIssuance l' + (freeBalance l a - v - remainder l a v) = totalIssuance l

/-- The effect of creating `v` on the account `a`. -/
structure Credited (l l' : L) (a : AccountId) (v : ℕ) : Prop where
  free : freeBalance l' a = freeBalance l a + v
  others : ∀ c, c ≠ a → freeBalance l' c = freeBalance l c
  reserved : ∀ c, reservedBalance l' c = reservedBalance l c
  issuance : totalIssuance l' = totalIssuance l + v

/-- The effect of destroying `v` on the account `a`. -/
structure Debited (l l' : L) (a : AccountId) (v : ℕ) : Prop where
  free : freeBalance l' a + v = freeBalance l a
  others : ∀ c, c ≠ a → freeBalance l' c = freeBalance l c
  reserved : ∀ c, reservedBalance l' c = reservedBalance l c
  issuance : totalIssuance l' + v = totalIssuance l

/-- The effect of reserving `v` on the account `a`. -/
structure Reserved (l l' : L) (a : AccountId) (v : ℕ) : Prop where
  free : freeBalance l' a + v = freeBalance l a
  others : ∀ c, c ≠ a → freeBalance l' c = freeBalance l c
  reserved : reservedBalance l' a = reservedBalance l a + v
  othersReserved : ∀ c, c ≠ a → reservedBalance l' c = reservedBalance l c
  issuance : totalIssuance l' = totalIssuance l

/-- A reservation adds to no free balance. -/
theorem Reserved.free_le {l l' : L} {a : AccountId} {v : ℕ} [DecidableEq AccountId]
    (h : Reserved l l' a v) (c : AccountId) : freeBalance l' c ≤ freeBalance l c := by
  by_cases hc : c = a
  · rw [hc, ← h.free]
    exact Nat.le_add_right _ _
  · exact Nat.le_of_eq (h.others c hc)

/-- The account exists: it holds a free or a reserved balance. -/
def Alive (l : L) (a : AccountId) : Prop := 0 < freeBalance l a ∨ 0 < reservedBalance l a

instance (l : L) (a : AccountId) : Decidable (Alive l a) := inferInstanceAs (Decidable (_ ∨ _))

/-- Creating `v` on `a` has its full effect: the account exists or receives the existential
deposit, and the total issuance stays in range. -/
def Creatable (l : L) (a : AccountId) (v : ℕ) : Prop :=
  (Alive l a ∨ existentialDeposit L ≤ v) ∧ totalIssuance l + v ≤ Bounded.u128Max

instance (l : L) (a : AccountId) (v : ℕ) : Decidable (Creatable l a v) :=
  inferInstanceAs (Decidable (_ ∧ _))

end Ledger

open Ledger

/-- A currency: transfers, creation and destruction of balances. -/
class Currency (AccountId : outParam Type) (L : Type) extends Ledger AccountId L where
  transfer : L → AccountId → AccountId → ℕ → ExistenceRequirement → Except CurrencyError L
  depositCreating : L → AccountId → ℕ → L
  withdraw : L → AccountId → ℕ → ExistenceRequirement → Except CurrencyError L
  /-- Nothing moves when the amount is zero or the two accounts are one. -/
  transfer_noop : ∀ l a b v er, v = 0 ∨ a = b → transfer l a b v er = .ok l
  transfer_ok : ∀ l a b v er l', v ≠ 0 → a ≠ b → transfer l a b v er = .ok l' →
    Transferred l l' a b v
  transfer_keepAlive : ∀ l a b v l', v ≠ 0 → a ≠ b → transfer l a b v .keepAlive = .ok l' →
    existentialDeposit ≤ freeBalance l a - v
  transfer_fundsUnavailable : ∀ l a b v er,
    transfer l a b v er = .error .fundsUnavailable → freeBalance l a < v
  transfer_notExpendable : ∀ l a b v er, transfer l a b v er = .error .notExpendable →
    er = .keepAlive ∧ freeBalance l a < v + existentialDeposit
  depositCreating_zero : ∀ l a, depositCreating l a 0 = l
  depositCreating_credited : ∀ l a v, Creatable l a v → Credited l (depositCreating l a v) a v
  /-- An account is not created with less than the existential deposit. -/
  depositCreating_dust : ∀ l a v, ¬ Alive l a → v < existentialDeposit →
    depositCreating l a v = l
  depositCreating_le : ∀ l a v, totalIssuance (depositCreating l a v) ≤ totalIssuance l + v
  depositCreating_ge : ∀ l a v c, freeBalance l c ≤ freeBalance (depositCreating l a v) c
  depositCreating_reserved : ∀ l a v c,
    reservedBalance (depositCreating l a v) c = reservedBalance l c
  withdraw_keepAlive : ∀ l a v l', withdraw l a v .keepAlive = .ok l' → Debited l l' a v

/-- A currency that refuses no transfer without a reason: what leaves the existential deposit on an
unlocked account, and reaches an account that has it then, goes through. -/
class UnlockedTransfers (AccountId : outParam Type) (L : Type) [Currency AccountId L] : Prop where
  transfer_unlocked : ∀ (l : L) a b v, (∀ id, lockAmount l id a = 0) →
    v + existentialDeposit L ≤ freeBalance l a → existentialDeposit L ≤ freeBalance l b + v →
      ∃ l', Currency.transfer l a b v .keepAlive = .ok l'

/-- A currency that judges a transfer by its source: what an account can pay to another, it can pay
to any that has the existential deposit then. -/
class ImpartialTransfers (AccountId : outParam Type) (L : Type) [Currency AccountId L] : Prop where
  transfer_redirect : ∀ (l : L) a b c v er l', v ≠ 0 → a ≠ b → a ≠ c →
    Currency.transfer l a b v er = .ok l' → existentialDeposit L ≤ freeBalance l c + v →
      ∃ l'', Currency.transfer l a c v er = .ok l''

/-- A currency that refuses a destruction that keeps its account alive exactly when it would leave
less than the existential deposit or than what is locked. -/
class KeepingWithdrawals (AccountId : outParam Type) (L : Type) [Currency AccountId L] : Prop where
  withdraw_isOk_iff : ∀ (l : L) a v, v ≠ 0 →
    ((∃ l', Currency.withdraw l a v .keepAlive = .ok l') ↔
      v + existentialDeposit L ≤ freeBalance l a ∧ ∀ id, v + lockAmount l id a ≤ freeBalance l a)

/-- A currency whose balances can be reserved. -/
class ReservableCurrency (AccountId : outParam Type) (L : Type) [Currency AccountId L] where
  reserve : L → AccountId → ℕ → Except CurrencyError L
  reserve_ok : ∀ l a v l', reserve l a v = .ok l' → Reserved l l' a v

/-- A currency whose free balances can be locked. A lock is known by its identifier; setting it
again replaces its amount, and setting it to nothing removes it. -/
class LockableCurrency (AccountId : outParam Type) (L : Type) [Currency AccountId L] where
  setLock : L → LockIdentifier → AccountId → ℕ → L
  removeLock : L → LockIdentifier → AccountId → L
  setLock_zero : ∀ l id a, setLock l id a 0 = removeLock l id a
  setLock_self : ∀ l id a v, v ≠ 0 → lockAmount (setLock l id a v) id a = v
  setLock_others : ∀ l id a v c, c ≠ a → lockAmount (setLock l id a v) id c = lockAmount l id c
  setLock_free : ∀ l id a v c, freeBalance (setLock l id a v) c = freeBalance l c
  setLock_reserved : ∀ l id a v c, reservedBalance (setLock l id a v) c = reservedBalance l c
  removeLock_self : ∀ l id a, lockAmount (removeLock l id a) id a = 0
  removeLock_others : ∀ l id a c, c ≠ a → lockAmount (removeLock l id a) id c = lockAmount l id c
  removeLock_free : ∀ l id a c, freeBalance (removeLock l id a) c = freeBalance l c
  removeLock_reserved : ∀ l id a c, reservedBalance (removeLock l id a) c = reservedBalance l c
  transfer_lock : ∀ (l : L) a b v er l', Currency.transfer l a b v er = .ok l' →
    ∀ id c, lockAmount l' id c = lockAmount l id c
  depositCreating_lock : ∀ (l : L) a v id c,
    lockAmount (Currency.depositCreating l a v) id c = lockAmount l id c
  withdraw_lock : ∀ (l : L) a v er l', Currency.withdraw l a v er = .ok l' →
    ∀ id c, lockAmount l' id c = lockAmount l id c

/-- A lock has the amount that it was set to, nothing included. -/
theorem LockableCurrency.setLock_amount {AccountId L : Type} [Currency AccountId L]
    [LockableCurrency AccountId L] (l : L) (id : LockIdentifier) (a : AccountId) (v : ℕ) :
    lockAmount (setLock l id a v) id a = v := by
  by_cases hv : v = 0
  · rw [hv, setLock_zero, removeLock_self]
  · exact setLock_self l id a v hv

namespace Currency

variable {AccountId L : Type} [Currency AccountId L] {l l' : L} {a b c : AccountId} {v : ℕ}
  {er : ExistenceRequirement}

/-- A successful transfer either moves nothing or moves `v` between two accounts. -/
theorem transfer_cases [DecidableEq AccountId] (h : transfer l a b v er = .ok l') :
    ((v = 0 ∨ a = b) ∧ l' = l) ∨ (v ≠ 0 ∧ a ≠ b ∧ Transferred l l' a b v) := by
  by_cases hv : v = 0 ∨ a = b
  · rw [transfer_noop l a b v er hv] at h
    exact Or.inl ⟨hv, (Except.ok.inj h).symm⟩
  · obtain ⟨hv, hab⟩ := not_or.mp hv
    exact Or.inr ⟨hv, hab, transfer_ok l a b v er l' hv hab h⟩

/-- A transfer takes from its source only. -/
theorem transfer_free_le [DecidableEq AccountId] (h : transfer l a b v er = .ok l')
    (hc : c ≠ a) : freeBalance l c ≤ freeBalance l' c := by
  rcases transfer_cases h with ⟨-, rfl⟩ | ⟨-, -, ht⟩
  · exact Nat.le_refl _
  · by_cases hcb : c = b
    · rw [hcb, ht.dest]
      exact Nat.le_add_right _ _
    · exact Nat.le_of_eq (ht.others c hc hcb).symm

/-- A payment of what its source holds is not refused for lack of funds. -/
theorem transfer_allowDeath_error {e : CurrencyError}
    (h : transfer l a b v .allowDeath = .error e) (hfunds : v ≤ freeBalance l a) :
    e ≠ .fundsUnavailable ∧ e ≠ .notExpendable := by
  constructor
  · rintro rfl
    exact Nat.not_lt.mpr hfunds (transfer_fundsUnavailable l a b v _ h)
  · rintro rfl
    cases (transfer_notExpendable l a b v _ h).1

/-- A transfer leaves what is reserved. -/
theorem transfer_reserved [DecidableEq AccountId] (h : transfer l a b v er = .ok l')
    (c : AccountId) : reservedBalance l' c = reservedBalance l c := by
  rcases transfer_cases h with ⟨-, rfl⟩ | ⟨-, -, ht⟩
  · rfl
  · exact ht.reserved c

theorem transfer_keepAlive_issuance [DecidableEq AccountId]
    (h : transfer l a b v .keepAlive = .ok l') : totalIssuance l' = totalIssuance l := by
  rcases transfer_cases h with ⟨_, rfl⟩ | ⟨hv, hab, ht⟩
  · rfl
  · have hr := remainder_of_le (transfer_keepAlive l a b v l' hv hab h)
    have := ht.issuance
    omega

/-- What a transfer that keeps its source alive does to the free balances, written as one equation
for every account. -/
theorem transfer_keepAlive_free [DecidableEq AccountId]
    (h : transfer l a b v .keepAlive = .ok l') (c : AccountId) :
    freeBalance l' c + (if c = a then v else 0) = freeBalance l c + if c = b then v else 0 := by
  rcases transfer_cases h with ⟨hnoop, rfl⟩ | ⟨hv, hab, ht⟩
  · rcases hnoop with rfl | rfl <;> simp
  · by_cases hca : c = a
    · have hr := remainder_of_le (transfer_keepAlive l a b v l' hv hab h)
      have hfunded := ht.funded
      have hsource := ht.source
      rw [if_pos hca, if_neg (hca ▸ hab), hca]
      omega
    · rw [if_neg hca, Nat.add_zero]
      by_cases hcb : c = b
      · rw [if_pos hcb, hcb, ht.dest]
      · rw [if_neg hcb, ht.others c hca hcb, Nat.add_zero]

/-- A creation adds exactly its amount to the total issuance just when it has its full
effect. -/
theorem depositCreating_issuance_iff (hv : 0 < v) :
    totalIssuance (depositCreating l a v) = totalIssuance l + v ↔ Creatable l a v := by
  constructor
  · intro h
    have hmax := totalIssuance_le (depositCreating l a v)
    rw [h] at hmax
    refine ⟨?_, hmax⟩
    -- less than the existential deposit on a dead account creates nothing
    by_contra hn
    obtain ⟨hdead, hsmall⟩ := not_or.mp hn
    rw [depositCreating_dust l a v hdead (Nat.not_le.mp hsmall)] at h
    omega
  · intro h
    exact (depositCreating_credited l a v h).issuance

/-- Several creations, one after the other. -/
def depositAll (l : L) (cs : List (AccountId × ℕ)) : L :=
  cs.foldl (fun l c => depositCreating l c.1 c.2) l

/-- Every one of several creations has its full effect, or creates nothing. -/
def AllCreatable : L → List (AccountId × ℕ) → Prop
  | _, [] => True
  | l, (a, v) :: cs => (v = 0 ∨ Creatable l a v) ∧ AllCreatable (depositCreating l a v) cs

instance decidableAllCreatable : (cs : List (AccountId × ℕ)) → (l : L) →
    Decidable (AllCreatable l cs)
  | [], _ => isTrue trivial
  | (a, v) :: cs, l =>
    have := decidableAllCreatable cs (depositCreating l a v)
    inferInstanceAs (Decidable (_ ∧ _))

/-- Creations with their full effect add their total to the issuance. -/
theorem depositAll_issuance {cs : List (AccountId × ℕ)} (h : AllCreatable l cs) :
    totalIssuance (depositAll l cs) = totalIssuance l + (cs.map Prod.snd).sum := by
  induction cs generalizing l with
  | nil => rfl
  | cons c cs ih =>
    obtain ⟨hfirst, hrest⟩ := h
    have hone : totalIssuance (depositCreating l c.1 c.2) = totalIssuance l + c.2 := by
      rcases hfirst with hzero | hcreatable
      · rw [hzero, depositCreating_zero, Nat.add_zero]
      · exact (depositCreating_credited l c.1 c.2 hcreatable).issuance
    rw [List.map_cons, List.sum_cons, ← Nat.add_assoc, ← hone]
    exact ih hrest

end Currency
