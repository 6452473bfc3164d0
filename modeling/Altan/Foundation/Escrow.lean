import Mathlib.Algebra.BigOperators.Group.Multiset.Basic
import Altan.Foundation.Currency

/-!
# Escrow

What is reserved on an account may be given back to it or destroyed. An account with something
reserved is referred to, and so must have a provider: its free balance covers the existential
deposit. A reservation that would leave less is refused, so no account can be reserved whole.

Payments out of an account that are refused are left out. As long as they leave it more than the
existential deposit they move balances only, and destroy nothing.

## Main definitions

* `Released`, `Slashed`, `Paid`: the effects of the operations
* `EscrowCurrency`: the operations and their laws
* `UnlockedEscrow`: transfers are not refused without a reason
* `LockedEscrow`: nothing that is done to a reserved balance changes what is locked
* `ReapedAccounts`: accounts without the existential deposit are removed
* `payReserved l a b v`: an amount that is reserved on `a` is paid to `b`
* `releaseAll l a vs`: several amounts given back to an account
* `payOut l a ps`: the payments `ps` out of an account
* `Disbursed l l' a m`: what payments out of an account do that leave it `m`

## Main results

* `reserve_all_isError`: the whole free balance of an account cannot be reserved
* `releaseAll_eq`: several amounts given back are their total given back
* `payReserved_isOk`, `payReserved_paid`: what is reserved can be paid
* `payOut_disbursed`: payments leave what they do not claim
-/

open Dispatch Ledger

namespace Ledger

variable {AccountId L : Type} [Ledger AccountId L]

/-- The effect of giving `v` that is reserved on `a` back. -/
structure Released (l l' : L) (a : AccountId) (v : ℕ) : Prop where
  free : freeBalance l' a = freeBalance l a + v
  others : ∀ c, c ≠ a → freeBalance l' c = freeBalance l c
  reserved : reservedBalance l' a + v = reservedBalance l a
  othersReserved : ∀ c, c ≠ a → reservedBalance l' c = reservedBalance l c
  issuance : totalIssuance l' = totalIssuance l

/-- The effect of destroying `v` that is reserved on `a`. -/
structure Slashed (l l' : L) (a : AccountId) (v : ℕ) : Prop where
  free : ∀ c, freeBalance l' c = freeBalance l c
  reserved : reservedBalance l' a + v = reservedBalance l a
  othersReserved : ∀ c, c ≠ a → reservedBalance l' c = reservedBalance l c
  issuance : totalIssuance l' + v = totalIssuance l

/-- The effect of paying `v` that is reserved on `a` to `b`. -/
structure Paid [DecidableEq AccountId] (l l' : L) (a b : AccountId) (v : ℕ) : Prop where
  free : ∀ c, freeBalance l' c = freeBalance l c + if c = b then v else 0
  reserved : reservedBalance l' a + v = reservedBalance l a
  othersReserved : ∀ c, c ≠ a → reservedBalance l' c = reservedBalance l c
  issuance : totalIssuance l' = totalIssuance l

theorem Slashed.refl (l : L) (a : AccountId) : Slashed l l a 0 :=
  ⟨fun _ => rfl, rfl, fun _ _ => rfl, rfl⟩

/-- The effect of payments out of `a` that leave it `m` at least. -/
structure Disbursed (l l' : L) (a : AccountId) (m : ℕ) : Prop where
  kept : m ≤ freeBalance l' a
  others : ∀ c, c ≠ a → freeBalance l c ≤ freeBalance l' c
  othersReserved : ∀ c, c ≠ a → reservedBalance l' c = reservedBalance l c
  issuance : totalIssuance l' = totalIssuance l

theorem Disbursed.refl {l : L} {a : AccountId} {m : ℕ} (h : m ≤ freeBalance l a) :
    Disbursed l l a m :=
  ⟨h, fun _ _ => Nat.le_refl _, fun _ _ => rfl, rfl⟩

/-- What is given back can be paid out. -/
theorem Released.disbursed {l l' : L} {a : AccountId} {v : ℕ} (h : Released l l' a v) :
    Disbursed l l' a (freeBalance l a + v) :=
  ⟨h.free.ge, fun c hc => (h.others c hc).ge, h.othersReserved, h.issuance⟩

theorem Disbursed.trans {l l' l'' : L} {a : AccountId} {m m' : ℕ} (h : Disbursed l l' a m)
    (h' : Disbursed l' l'' a m') : Disbursed l l'' a m' where
  kept := h'.kept
  others c hc := Nat.le_trans (h.others c hc) (h'.others c hc)
  othersReserved c hc := (h'.othersReserved c hc).trans (h.othersReserved c hc)
  issuance := h'.issuance.trans h.issuance

end Ledger

/-- A currency whose reserved balances can be given back and destroyed, and keep their accounts
alive. -/
class EscrowCurrency (AccountId : outParam Type) (L : Type) [Currency AccountId L] extends
    ReservableCurrency AccountId L where
  unreserve : L → AccountId → ℕ → L
  slashReserved : L → AccountId → ℕ → L
  unreserve_released : ∀ (l : L) a v,
    Released l (unreserve l a v) a (min v (reservedBalance l a))
  unreserve_zero : ∀ l a, unreserve l a 0 = l
  unreserve_add : ∀ l a v w, unreserve (unreserve l a v) a w = unreserve l a (v + w)
  slashReserved_slashed : ∀ (l : L) a v,
    Slashed l (slashReserved l a v) a (min v (reservedBalance l a))
  existentialDeposit_pos : 0 < existentialDeposit L
  /-- An account with something reserved has a provider. -/
  reserved_provided : ∀ (l : L) a, 0 < reservedBalance l a → existentialDeposit L ≤ freeBalance l a

/-- A currency that refuses no transfer without a reason, and gives back what is reserved whatever
is locked. -/
class UnlockedEscrow (AccountId : outParam Type) (L : Type) [Currency AccountId L]
    [EscrowCurrency AccountId L] : Prop extends UnlockedTransfers AccountId L where
  unreserve_lock : ∀ (l : L) a v id c,
    lockAmount (EscrowCurrency.unreserve l a v) id c = lockAmount l id c

/-- And that destroys what is reserved whatever is locked. -/
class LockedEscrow (AccountId : outParam Type) (L : Type) [Currency AccountId L]
    [EscrowCurrency AccountId L] : Prop extends UnlockedEscrow AccountId L where
  slashReserved_lock : ∀ (l : L) a v id c,
    lockAmount (EscrowCurrency.slashReserved l a v) id c = lockAmount l id c

/-- A currency that removes the accounts that are left with less than the existential deposit and
with nothing reserved. -/
class ReapedAccounts (AccountId : outParam Type) (L : Type) [Currency AccountId L] : Prop where
  alive_not_dust : ∀ (l : L) a, Alive l a →
    ¬ (freeBalance l a < existentialDeposit L ∧ reservedBalance l a = 0)

namespace EscrowCurrency

variable {AccountId L : Type} [Currency AccountId L] [EscrowCurrency AccountId L] {l : L}
  {a : AccountId}

/-- **The whole free balance of an account cannot be reserved**: the account would be left with a
reserved balance and without a provider. -/
theorem reserve_all_isError (h : 0 < freeBalance l a) :
    ∃ e, ReservableCurrency.reserve l a (freeBalance l a) = .error e := by
  cases hr : ReservableCurrency.reserve l a (freeBalance l a) with
  | error e => exact ⟨e, rfl⟩
  | ok l' =>
    have hreserved := ReservableCurrency.reserve_ok l a _ l' hr
    have hnone : freeBalance l' a = 0 := Nat.add_eq_right.mp hreserved.free
    have hsome : 0 < reservedBalance l' a := by
      rw [hreserved.reserved]
      exact Nat.add_pos_right _ h
    have hprovided := reserved_provided l' a hsome
    have hpos := existentialDeposit_pos (L := L)
    omega

theorem reservedBalance_eq_zero (h : freeBalance l a = 0) : reservedBalance l a = 0 := by
  by_contra hr
  have hprovided := reserved_provided l a (Nat.pos_of_ne_zero hr)
  have hpos := existentialDeposit_pos (L := L)
  omega

/-- An account that is alive holds the existential deposit. -/
theorem existentialDeposit_le_of_alive [ReapedAccounts AccountId L] (h : Alive l a) :
    existentialDeposit L ≤ freeBalance l a := by
  by_contra hlow
  have hreserved : 0 < reservedBalance l a := by
    refine Nat.pos_of_ne_zero fun hnone => ?_
    exact ReapedAccounts.alive_not_dust l a h ⟨Nat.not_le.mp hlow, hnone⟩
  exact hlow (reserved_provided l a hreserved)

/-- Giving back may be done in any order. -/
instance (a : AccountId) : RightCommutative fun (l : L) (v : ℕ) => unreserve l a v where
  right_comm l v w := by rw [unreserve_add, unreserve_add, Nat.add_comm]

/-- Several amounts given back to an account. -/
def releaseAll (l : L) (a : AccountId) (vs : Multiset ℕ) : L :=
  vs.foldl (fun l v => unreserve l a v) l

/-- **Several amounts given back are their total given back.** -/
theorem releaseAll_eq (l : L) (a : AccountId) (vs : Multiset ℕ) :
    releaseAll l a vs = unreserve l a vs.sum := by
  unfold releaseAll
  induction vs using Multiset.induction_on generalizing l with
  | empty => exact (unreserve_zero l a).symm
  | cons v vs ih => rw [Multiset.foldl_cons, ih, unreserve_add, Multiset.sum_cons]

/-! ### Paying what is reserved -/

section Pay

variable [DecidableEq AccountId] {l' : L} {b : AccountId} {v : ℕ}

/-- What is reserved on `a` is given back, and paid to `b`. -/
def payReserved (l : L) (a b : AccountId) (v : ℕ) : Except CurrencyError L :=
  Currency.transfer (unreserve l a v) a b v .keepAlive

/-- **A payment of what is reserved** adds to the free balance of its destination only. -/
theorem payReserved_paid (hv : v ≤ reservedBalance l a) (h : payReserved l a b v = .ok l') :
    Paid l l' a b v := by
  have hreleased := unreserve_released l a v
  rw [Nat.min_eq_left hv] at hreleased
  refine ⟨fun c => ?_, ?_, fun c hc => ?_, ?_⟩
  · have hfree := Currency.transfer_keepAlive_free h c
    -- what is given back is what is paid
    by_cases hc : c = a
    · rw [if_pos hc, hc, hreleased.free] at hfree
      rw [hc]
      omega
    · rw [if_neg hc, hreleased.others c hc] at hfree
      exact hfree
  · rw [Currency.transfer_reserved h]
    exact hreleased.reserved
  · rw [Currency.transfer_reserved h]
    exact hreleased.othersReserved c hc
  · rw [Currency.transfer_keepAlive_issuance h]
    exact hreleased.issuance

omit [DecidableEq AccountId] in
/-- An account with something reserved holds enough to pay it and stay alive. -/
theorem payReserved_funded (hv : v ≤ reservedBalance l a) (hpos : v ≠ 0) :
    v + existentialDeposit L ≤ freeBalance (unreserve l a v) a := by
  have hreleased := unreserve_released l a v
  rw [Nat.min_eq_left hv] at hreleased
  have hprovided := reserved_provided l a (Nat.lt_of_lt_of_le (Nat.pos_of_ne_zero hpos) hv)
  rw [hreleased.free, Nat.add_comm]
  exact Nat.add_le_add_right hprovided v

/-- **What is reserved can be paid** to whoever has the existential deposit then. -/
theorem payReserved_isOk [UnlockedEscrow AccountId L] (hv : v ≤ reservedBalance l a)
    (hlock : ∀ id, lockAmount l id a = 0) (hdest : existentialDeposit L ≤ freeBalance l b + v) :
    ∃ l', payReserved l a b v = .ok l' := by
  by_cases hnoop : v = 0 ∨ a = b
  · exact ⟨_, Currency.transfer_noop _ a b v _ hnoop⟩
  · obtain ⟨hpos, hab⟩ := not_or.mp hnoop
    have hreleased := unreserve_released l a v
    refine UnlockedTransfers.transfer_unlocked _ a b v (fun id => ?_)
      (payReserved_funded hv hpos) ?_
    · rw [UnlockedEscrow.unreserve_lock]
      exact hlock id
    · rwa [hreleased.others b (Ne.symm hab)]

omit [DecidableEq AccountId] in
/-- And is not refused for lack of funds, whoever it is paid to. -/
theorem payReserved_error {e : CurrencyError} (hv : v ≤ reservedBalance l a)
    (h : payReserved l a b v = .error e) : e ≠ .fundsUnavailable ∧ e ≠ .notExpendable := by
  unfold payReserved at h
  have hpos : v ≠ 0 := by
    rintro rfl
    rw [Currency.transfer_noop _ a b 0 _ (Or.inl rfl)] at h
    cases h
  have hfunded := payReserved_funded hv hpos
  constructor
  · rintro rfl
    have hlack := Currency.transfer_fundsUnavailable _ a b v _ h
    omega
  · rintro rfl
    have hlack := (Currency.transfer_notExpendable _ a b v _ h).2
    omega

end Pay

end EscrowCurrency

namespace Currency

variable {AccountId L : Type} [DecidableEq AccountId] [Currency AccountId L] {l : L}
  {a b : AccountId} {v m : ℕ}

/-- A payment out of `a`, left out when it is refused. -/
def payTo (a : AccountId) (l : L) (p : AccountId × ℕ) : L :=
  attempt (fun l => transfer l a p.1 p.2 .allowDeath) l

/-- Payments out of `a`, one after the other. -/
def payOut (l : L) (a : AccountId) (ps : List (AccountId × ℕ)) : L :=
  ps.foldl (payTo a) l

/-- A payment that leaves `m` leaves the account alive, so nothing is lost as dust. -/
theorem payTo_disbursed (hm : existentialDeposit L ≤ m) (h : m + v ≤ freeBalance l a) :
    Disbursed l (payTo a l (b, v)) a m := by
  unfold payTo
  cases ht : transfer l a b v .allowDeath with
  | error e =>
    rw [attempt_of_error ht]
    exact .refl (by omega)
  | ok l' =>
    rw [attempt_of_ok ht]
    rcases transfer_cases ht with ⟨-, rfl⟩ | ⟨-, hab, hmoved⟩
    · exact .refl (by omega)
    have hrest : remainder l a v = freeBalance l a - v := remainder_of_le (by omega)
    have hsource := hmoved.source
    have hissuance := hmoved.issuance
    refine ⟨by omega, fun c hc => ?_, fun c _ => hmoved.reserved c, by omega⟩
    by_cases hb : c = b
    · rw [hb, hmoved.dest]
      exact Nat.le_add_right _ _
    · exact (hmoved.others c hc hb).ge

/-- **Payments leave what they do not claim.** -/
theorem payOut_disbursed {ps : List (AccountId × ℕ)} (hm : existentialDeposit L ≤ m)
    (h : m + (ps.map Prod.snd).sum ≤ freeBalance l a) : Disbursed l (payOut l a ps) a m := by
  induction ps generalizing l with
  | nil => exact .refl h
  | cons p ps ih =>
    rw [List.map_cons, List.sum_cons] at h
    -- the first payment leaves what the others claim
    have hfirst : Disbursed l (payTo a l p) a (m + (ps.map Prod.snd).sum) :=
      payTo_disbursed (by omega) (by omega)
    exact hfirst.trans (ih hfirst.kept)

end Currency
