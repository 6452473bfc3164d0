import Altan.Foundation.Fungible
import Altan.Foundation.Payments

/-!
# Emptying an account

An account can be emptied exactly when nothing of it is reserved and nothing locked. What it sends
to itself it must be able to spend, and the sum with its balance must be in range.

## Main definitions

* `EmptyingTransfers`: when all of a free balance can be sent, and what can be sent to oneself
* The instances for `ProvidedBalances` and for a ledger inside a larger state
-/

open Dispatch Ledger

/-- A currency that refuses to send all of a free balance exactly when something is reserved or
locked, or when it does not reach an account that has the existential deposit then; and refuses what
an account can afford to send to itself exactly when it is not spendable or out of range. -/
class EmptyingTransfers (AccountId : outParam Type) (L : Type) [Currency AccountId L]
    [Fungible AccountId L] : Prop where
  transfer_all_isOk_iff : ∀ (l : L) a b, freeBalance l a ≠ 0 → a ≠ b →
    ((∃ l', Currency.transfer l a b (freeBalance l a) .allowDeath = .ok l') ↔
      reservedBalance l a = 0 ∧ (∀ id, lockAmount l id a = 0) ∧
        existentialDeposit L ≤ freeBalance l b + freeBalance l a)
  transfer_self_isOk_iff : ∀ (l : L) a v p, v ≠ 0 → v + existentialDeposit L ≤ freeBalance l a →
    ((∃ l', Fungible.transfer l a a v p = .ok l') ↔
      Spendable l a v ∧ freeBalance l a + reservedBalance l a + v ≤ Bounded.u128Max)

namespace Balances

variable {AccountId : Type} [DecidableEq AccountId] {ed : ℕ} {s : Balances AccountId ed}
  {a b : AccountId}

/-- Nothing is frozen just when nothing is locked. -/
theorem frozen_eq_zero_iff : s.frozen a = 0 ↔ ∀ id, lockAmount s id a = 0 := by
  rw [← Nat.le_zero, frozen_le_iff]
  exact forall_congr' fun _ => Nat.le_zero

/-- **An account can be emptied** when nothing is reserved or frozen. -/
theorem transfer_all_isOk_iff (hed : 0 < ed) (hfree : (s.account a).free ≠ 0) (hab : a ≠ b) :
    (∃ s', s.transfer a b (s.account a).free .allowDeath = .ok s') ↔
      (s.account a).reserved = 0 ∧ s.frozen a = 0 ∧
        ed ≤ (s.account b).free + (s.account a).free := by
  constructor
  · rintro ⟨s', h⟩
    unfold transfer at h
    rw [if_neg (not_or.mpr ⟨hfree, hab⟩)] at h
    -- one refusal after the other is excluded
    split_ifs at h with _ _ hprovider _ hmin
    have hunreferred : ¬ (0 < (s.account a).reserved ∨ 0 < s.frozen a) :=
      fun hrefers => hprovider ⟨Nat.lt_add_of_pos_right hed, hrefers⟩
    omega
  · rintro ⟨hreserved, hfrozen, hdest⟩
    obtain ⟨s', hs'⟩ := writes_isSome hab (Nat.le_refl _) hdest
    refine ⟨s', ?_⟩
    unfold transfer
    rw [if_neg (not_or.mpr ⟨hfree, hab⟩), if_neg (by omega), if_neg (by omega),
      if_neg (by omega), if_neg (by simp), if_neg (by omega), hs']
    rfl

end Balances

namespace ProvidedBalances

variable {AccountId : Type} [DecidableEq AccountId] {ed : ℕ} {s : ProvidedBalances AccountId ed}
  {a : AccountId} {v : ℕ} {p : Preservation}

/-- **What an account can afford to send to itself** it must be able to spend. -/
theorem fungibleTransfer_self_isOk_iff (hv : v ≠ 0) (hfunds : v + ed ≤ (s.account a).free) :
    (∃ s', s.fungibleTransfer a a v p = .ok s') ↔
      v + (s.frozen a - (s.account a).reserved) ≤ (s.account a).free ∧
        (s.account a).balance + v ≤ Bounded.u128Max := by
  unfold fungibleTransfer
  rw [if_pos rfl, if_neg hv, if_neg (by omega)]
  constructor
  · rintro ⟨s', h⟩
    split_ifs at h with hfrozen _ _ hrange
    exact ⟨Nat.not_lt.mp hfrozen, Nat.not_lt.mp hrange⟩
  · rintro ⟨hfrozen, hrange⟩
    refine ⟨s, ?_⟩
    -- the account stays alive, so the refusals for those that do not are skipped
    rw [if_neg (by omega), if_neg (by omega), if_neg (by omega), if_neg (Nat.not_lt.mpr hrange)]

instance [NeZero ed] : EmptyingTransfers AccountId (ProvidedBalances AccountId ed) where
  transfer_all_isOk_iff s a b hfree hab := by
    have hiff := Balances.transfer_all_isOk_iff (s := s.toBalances)
      (Nat.pos_of_ne_zero (NeZero.ne ed)) hfree hab
    rw [Balances.frozen_eq_zero_iff] at hiff
    refine Iff.trans ?_ hiff
    constructor
    · rintro ⟨s', hs'⟩
      exact ⟨s'.toBalances, keep_eq_ok hs'⟩
    · rintro ⟨t, ht⟩
      exact ⟨⟨t, s.provided.transfer ht⟩, keep_ok ht⟩
  transfer_self_isOk_iff s a v p hv hfunds := by
    have hiff := fungibleTransfer_self_isOk_iff (s := s) (p := p) hv hfunds
    rw [← Balances.spendable_iff] at hiff
    exact hiff

end ProvidedBalances

/-! ### Ledgers inside a larger state -/

namespace Component

variable {S L AccountId : Type} [Component S L] [Currency AccountId L]

/-- An operation on the component goes through when the operation does. -/
theorem exists_lift_iff {s : S} {x : Except CurrencyError L} :
    (∃ s', lift s x = .ok s') ↔ ∃ l, x = .ok l := by
  cases x with
  | error e => exact ⟨fun ⟨_, h⟩ => (nomatch h), fun ⟨_, h⟩ => (nomatch h)⟩
  | ok l => exact ⟨fun _ => ⟨l, rfl⟩, fun _ => ⟨set s l, rfl⟩⟩

instance [ReapedAccounts AccountId L] : ReapedAccounts AccountId S where
  alive_not_dust s := ReapedAccounts.alive_not_dust (get s)

instance [SpendableTransfers AccountId L] : SpendableTransfers AccountId S where
  transfer_isOk_iff s a b v er hv hab hfunds :=
    exists_lift_iff.trans (SpendableTransfers.transfer_isOk_iff (get s) a b v er hv hab hfunds)

instance [Fungible AccountId L] [EmptyingTransfers AccountId L] :
    EmptyingTransfers AccountId S where
  transfer_all_isOk_iff s a b hfree hab :=
    exists_lift_iff.trans (EmptyingTransfers.transfer_all_isOk_iff (get s) a b hfree hab)
  transfer_self_isOk_iff s a v p hv hfunds :=
    exists_lift_iff.trans (EmptyingTransfers.transfer_self_isOk_iff (get s) a v p hv hfunds)

instance [LockableCurrency AccountId L] : LockableCurrency AccountId S where
  setLock s id a v := set s (LockableCurrency.setLock (get s) id a v)
  removeLock s id a := set s (LockableCurrency.removeLock (get s) id a)
  setLock_zero s id a := by rw [LockableCurrency.setLock_zero]
  setLock_self s id a v hv := by
    have h := LockableCurrency.setLock_self (get s) id a v hv
    rwa [← get_set s (LockableCurrency.setLock (get s) id a v)] at h
  setLock_others s id a v c hc := by
    have h := LockableCurrency.setLock_others (get s) id a v c hc
    rwa [← get_set s (LockableCurrency.setLock (get s) id a v)] at h
  setLock_free s id a v c := by
    have h := LockableCurrency.setLock_free (get s) id a v c
    rwa [← get_set s (LockableCurrency.setLock (get s) id a v)] at h
  setLock_reserved s id a v c := by
    have h := LockableCurrency.setLock_reserved (get s) id a v c
    rwa [← get_set s (LockableCurrency.setLock (get s) id a v)] at h
  removeLock_self s id a := by
    have h := LockableCurrency.removeLock_self (get s) id a
    rwa [← get_set s (LockableCurrency.removeLock (get s) id a)] at h
  removeLock_others s id a c hc := by
    have h := LockableCurrency.removeLock_others (get s) id a c hc
    rwa [← get_set s (LockableCurrency.removeLock (get s) id a)] at h
  removeLock_free s id a c := by
    have h := LockableCurrency.removeLock_free (get s) id a c
    rwa [← get_set s (LockableCurrency.removeLock (get s) id a)] at h
  removeLock_reserved s id a c := by
    have h := LockableCurrency.removeLock_reserved (get s) id a c
    rwa [← get_set s (LockableCurrency.removeLock (get s) id a)] at h
  transfer_lock s a b v er _ h := LockableCurrency.transfer_lock (get s) a b v er _ (lift_eq_ok h)
  depositCreating_lock s a v id c := by
    have h := LockableCurrency.depositCreating_lock (get s) a v id c
    rwa [← get_set s (Currency.depositCreating (get s) a v)] at h
  withdraw_lock s a v er _ h := LockableCurrency.withdraw_lock (get s) a v er _ (lift_eq_ok h)

end Component
