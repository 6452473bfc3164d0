import Altan.Foundation.Escrow

/-!
# A ledger inside a larger state

A state with a ledger as one of its components is a ledger itself: what is read from it is read
from the component, and an operation on it is the operation on the component. So a module that
works on a ledger works on whatever else is kept beside it.

## Main definitions

* `Component S L`: a component of a state, which can be read and replaced
* The instances of `Ledger`, `Currency` and `EscrowCurrency` for the state
-/

open Dispatch Ledger

/-- A component of a state. -/
class Component (S : Type) (L : outParam Type) where
  get : S → L
  set : S → L → S
  get_set : ∀ s l, get (set s l) = l
  set_get : ∀ s, set s (get s) = s
  set_set : ∀ s l l', set (set s l) l' = set s l'

namespace Component

variable {S L AccountId : Type} [Component S L]

instance [Ledger AccountId L] : Ledger AccountId S where
  existentialDeposit := existentialDeposit L
  freeBalance s := freeBalance (get s)
  reservedBalance s := reservedBalance (get s)
  totalIssuance s := totalIssuance (get s)
  lockAmount s := lockAmount (get s)
  balance_le_totalIssuance s := balance_le_totalIssuance (get s)
  totalIssuance_le s := totalIssuance_le (get s)

/-- The outcome of an operation on the component. -/
def lift (s : S) (x : Except CurrencyError L) : Except CurrencyError S := x.map (set s)

theorem lift_eq_ok {s s' : S} {x : Except CurrencyError L} (h : lift s x = .ok s') :
    x = .ok (get s') := by
  cases x with
  | error e => cases h
  | ok l => rw [← Except.ok.inj h, get_set]

/-- An operation replaces the component. -/
theorem exists_set_of_lift {s s' : S} {x : Except CurrencyError L} (h : lift s x = .ok s') :
    ∃ l, s' = set s l := by
  cases x with
  | error e => cases h
  | ok l => exact ⟨l, (Except.ok.inj h).symm⟩

theorem lift_eq_error {s : S} {x : Except CurrencyError L} {e : CurrencyError}
    (h : lift s x = .error e) : x = .error e := by
  cases x with
  | error e' => rw [Except.error.inj h]
  | ok l => cases h

theorem lift_ok_get (s : S) : lift s (.ok (get s)) = .ok s := congrArg Except.ok (set_get s)

instance [Currency AccountId L] : Currency AccountId S where
  transfer s a b v er := lift s (Currency.transfer (get s) a b v er)
  depositCreating s a v := set s (Currency.depositCreating (get s) a v)
  withdraw s a v er := lift s (Currency.withdraw (get s) a v er)
  transfer_noop s a b v er h := by
    rw [Currency.transfer_noop _ a b v er h]
    exact lift_ok_get s
  transfer_ok s a b v er s' hv hab h := by
    have ht := Currency.transfer_ok _ a b v er _ hv hab (lift_eq_ok h)
    exact ⟨ht.funded, ht.source, ht.dest, ht.alive, ht.others, ht.reserved, ht.issuance⟩
  transfer_keepAlive s a b v s' hv hab h :=
    Currency.transfer_keepAlive _ a b v _ hv hab (lift_eq_ok h)
  transfer_fundsUnavailable s a b v er h :=
    Currency.transfer_fundsUnavailable _ a b v er (lift_eq_error h)
  transfer_notExpendable s a b v er h :=
    Currency.transfer_notExpendable _ a b v er (lift_eq_error h)
  depositCreating_zero s a := by rw [Currency.depositCreating_zero, set_get]
  depositCreating_credited s a v h := by
    have hc := Currency.depositCreating_credited _ a v h
    rw [← get_set s (Currency.depositCreating (get s) a v)] at hc
    exact ⟨hc.free, hc.others, hc.reserved, hc.issuance⟩
  depositCreating_dust s a v ha hv := by
    rw [Currency.depositCreating_dust _ a v ha hv, set_get]
  depositCreating_le s a v := by
    have hle := Currency.depositCreating_le (get s) a v
    rwa [← get_set s (Currency.depositCreating (get s) a v)] at hle
  depositCreating_ge s a v c := by
    have hge := Currency.depositCreating_ge (get s) a v c
    rwa [← get_set s (Currency.depositCreating (get s) a v)] at hge
  depositCreating_reserved s a v c := by
    have hr := Currency.depositCreating_reserved (get s) a v c
    rwa [← get_set s (Currency.depositCreating (get s) a v)] at hr
  withdraw_keepAlive s a v s' h := by
    have hd := Currency.withdraw_keepAlive _ a v _ (lift_eq_ok h)
    exact ⟨hd.free, hd.others, hd.reserved, hd.issuance⟩

instance [Currency AccountId L] [EscrowCurrency AccountId L] : EscrowCurrency AccountId S where
  reserve s a v := lift s (ReservableCurrency.reserve (get s) a v)
  reserve_ok s a v s' h := by
    have hr := ReservableCurrency.reserve_ok _ a v _ (lift_eq_ok h)
    exact ⟨hr.free, hr.others, hr.reserved, hr.othersReserved, hr.issuance⟩
  unreserve s a v := set s (EscrowCurrency.unreserve (get s) a v)
  slashReserved s a v := set s (EscrowCurrency.slashReserved (get s) a v)
  unreserve_released s a v := by
    have hr := EscrowCurrency.unreserve_released (get s) a v
    rw [← get_set s (EscrowCurrency.unreserve (get s) a v)] at hr
    exact ⟨hr.free, hr.others, hr.reserved, hr.othersReserved, hr.issuance⟩
  unreserve_zero s a := by rw [EscrowCurrency.unreserve_zero, set_get]
  unreserve_add s a v w := by rw [get_set, EscrowCurrency.unreserve_add, set_set]
  slashReserved_slashed s a v := by
    have hs := EscrowCurrency.slashReserved_slashed (get s) a v
    rw [← get_set s (EscrowCurrency.slashReserved (get s) a v)] at hs
    exact ⟨hs.free, hs.reserved, hs.othersReserved, hs.issuance⟩
  existentialDeposit_pos := EscrowCurrency.existentialDeposit_pos (L := L)
  reserved_provided s := EscrowCurrency.reserved_provided (get s)

end Component
