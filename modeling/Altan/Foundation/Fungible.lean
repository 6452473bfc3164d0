import Altan.Foundation.Component
import Altan.Foundation.ProvidedBalances

/-!
# Fungible transfers

The fungible interface to a currency moves the same balances under another name. Between two
accounts its transfer is that of the currency; a transfer of an account to itself changes nothing,
but is refused like any other.

## Main definitions

* `Preservation`: whether a transfer may remove the account it is taken from
* `Fungible`: the transfer and its laws
* `ProvidedTransfers`: what is reserved keeps an account from being emptied, even to itself
* The instances for `Balances`, for `ProvidedBalances` and for a ledger inside a larger state

## Main results

* `transfer_free`: what a transfer does to the free balances, with what is lost as dust
* `reserved_of_transfer_all`: who sends all of a free balance has nothing reserved
-/

open Dispatch Ledger

/-- Whether a transfer may remove the account it is taken from. -/
inductive Preservation
  | expendable
  | protect
  | preserve
  deriving DecidableEq, Repr

/-- What a preservation asks of the currency. -/
def Preservation.existence : Preservation → ExistenceRequirement
  | expendable => .allowDeath
  | protect => .keepAlive
  | preserve => .keepAlive

/-- The fungible interface to a currency. -/
class Fungible (AccountId : outParam Type) (L : Type) [Currency AccountId L] where
  transfer : L → AccountId → AccountId → ℕ → Preservation → Except CurrencyError L
  transfer_of_ne : ∀ l a b v p, v ≠ 0 → a ≠ b →
    transfer l a b v p = Currency.transfer l a b v p.existence
  transfer_self : ∀ l a v p l', transfer l a a v p = .ok l' → l' = l ∧ v ≤ freeBalance l a

/-- A fungible interface that refuses to take an account with something reserved below the
existential deposit, even if it sends to itself. -/
class ProvidedTransfers (AccountId : outParam Type) (L : Type) [Currency AccountId L]
    [Fungible AccountId L] : Prop where
  transfer_self_provided : ∀ (l : L) a v p l', v ≠ 0 → Fungible.transfer l a a v p = .ok l' →
    0 < reservedBalance l a → v + existentialDeposit L ≤ freeBalance l a

namespace Fungible

variable {AccountId L : Type} [DecidableEq AccountId] [Currency AccountId L]
  [Fungible AccountId L] {l l' : L} {a b c : AccountId} {v : ℕ} {p : Preservation}

/-- A successful transfer is one to the account itself, and moves nothing, or one of the
currency. -/
theorem transfer_cases (hv : v ≠ 0) (h : transfer l a b v p = .ok l') :
    (a = b ∧ l' = l) ∨ (a ≠ b ∧ Currency.transfer l a b v p.existence = .ok l') := by
  by_cases hab : a = b
  · subst hab
    exact Or.inl ⟨rfl, (transfer_self l a v p l' h).1⟩
  · rw [transfer_of_ne l a b v p hv hab] at h
    exact Or.inr ⟨hab, h⟩

theorem transfer_reserved (hv : v ≠ 0) (h : transfer l a b v p = .ok l') (c : AccountId) :
    reservedBalance l' c = reservedBalance l c := by
  rcases transfer_cases hv h with ⟨-, rfl⟩ | ⟨-, h⟩
  · rfl
  · exact Currency.transfer_reserved h c

/-- **What a transfer does to the free balances.** The rest of its source is lost with it when it is
dust, which only a transfer that may remove the account leaves. -/
theorem transfer_free (hv : v ≠ 0) (h : transfer l a b v p = .ok l') :
    ∃ lost, (lost = 0 ∨ p = .expendable ∧ lost < existentialDeposit L ∧
        freeBalance l a = v + lost) ∧
      totalIssuance l' + lost = totalIssuance l ∧
      ∀ c, freeBalance l' c + (if c = a then v + lost else 0) =
        freeBalance l c + if c = b then v else 0 := by
  rcases transfer_cases hv h with ⟨rfl, rfl⟩ | ⟨hab, h⟩
  · exact ⟨0, Or.inl rfl, rfl, fun c => by rw [Nat.add_zero]⟩
  have hmoved := Currency.transfer_ok l a b v _ l' hv hab h
  have hfunded := hmoved.funded
  have hle := remainder_le l a v
  refine ⟨freeBalance l a - v - remainder l a v, ?_, hmoved.issuance, fun c => ?_⟩
  · cases p with
    | expendable =>
      by_cases hdust : existentialDeposit L ≤ freeBalance l a - v
      · rw [remainder_of_le hdust]
        exact Or.inl (Nat.sub_self _)
      · unfold remainder
        split
        · exact Or.inr ⟨rfl, by omega, by omega⟩
        · exact Or.inl (Nat.sub_self _)
    | protect | preserve =>
      rw [remainder_of_le (Currency.transfer_keepAlive l a b v l' hv hab h)]
      exact Or.inl (Nat.sub_self _)
  · by_cases hca : c = a
    · rw [if_pos hca, if_neg (hca ▸ hab), hca, hmoved.source]
      omega
    · rw [if_neg hca]
      by_cases hcb : c = b
      · rw [if_pos hcb, hcb, hmoved.dest]
        omega
      · rw [if_neg hcb, hmoved.others c hca hcb]

/-- **Who sends all of a free balance has nothing reserved**, even if it is sent to the account
itself. -/
theorem reserved_of_transfer_all [EscrowCurrency AccountId L] [ProvidedTransfers AccountId L]
    (hv : freeBalance l a ≠ 0) (h : transfer l a b (freeBalance l a) p = .ok l') :
    reservedBalance l a = 0 := by
  have hpos := EscrowCurrency.existentialDeposit_pos (L := L)
  rcases transfer_cases hv h with ⟨rfl, rfl⟩ | ⟨hab, ht⟩
  · by_contra hreserved
    have hprovided := ProvidedTransfers.transfer_self_provided l' a _ p l' hv h
      (Nat.pos_of_ne_zero hreserved)
    omega
  · have hmoved := Currency.transfer_ok l a b _ _ l' hv hab ht
    have hempty : freeBalance l' a = 0 := by
      have hle := remainder_le l a (freeBalance l a)
      have hsource := hmoved.source
      omega
    rw [← hmoved.reserved a]
    exact EscrowCurrency.reservedBalance_eq_zero hempty

end Fungible

namespace Balances

variable {AccountId : Type} [DecidableEq AccountId] {ed : ℕ}

/-- The fungible transfer: what an account sends itself it must have. -/
def fungibleTransfer (s : Balances AccountId ed) (a b : AccountId) (v : ℕ) (p : Preservation) :
    Except CurrencyError (Balances AccountId ed) :=
  if a = b then
    if v ≤ freeBalance s a then .ok s else .error .fundsUnavailable
  else Currency.transfer s a b v p.existence

instance : Fungible AccountId (Balances AccountId ed) where
  transfer := fungibleTransfer
  transfer_of_ne _ _ _ _ _ _ hab := if_neg hab
  transfer_self s a v p s' h := by
    rw [fungibleTransfer, if_pos rfl] at h
    split at h
    · next hfunds => exact ⟨(Except.ok.inj h).symm, hfunds⟩
    · cases h

end Balances

namespace ProvidedBalances

variable {AccountId : Type} [DecidableEq AccountId] {ed : ℕ}

/-- The fungible transfer: what an account sends itself must be spendable, and its sum with the
balance in range. -/
def fungibleTransfer (s : ProvidedBalances AccountId ed) (a b : AccountId) (v : ℕ)
    (p : Preservation) : Except CurrencyError (ProvidedBalances AccountId ed) :=
  if a = b then
    if v = 0 then .ok s
    else if (s.account a).free < v then .error .fundsUnavailable
    else if (s.account a).free < v + (s.frozen a - (s.account a).reserved) then .error .frozen
    else if (s.account a).free < v + ed ∧ (0 < (s.account a).reserved ∨ 0 < s.frozen a) then
      .error .onlyProvider
    else if (s.account a).free < v + ed ∧ p ≠ .expendable then .error .notExpendable
    else if Bounded.u128Max < (s.account a).balance + v then .error .overflow
    else .ok s
  else Currency.transfer s a b v p.existence

instance : Fungible AccountId (ProvidedBalances AccountId ed) where
  transfer := fungibleTransfer
  transfer_of_ne _ _ _ _ _ _ hab := if_neg hab
  transfer_self s a v p s' h := by
    rw [fungibleTransfer, if_pos rfl] at h
    change _ ∧ v ≤ (s.account a).free
    split at h
    · next hv => exact ⟨(Except.ok.inj h).symm, by omega⟩
    split at h
    · cases h
    next hfunds =>
    split at h
    · cases h
    split at h
    · cases h
    split at h
    · cases h
    split at h
    · cases h
    · exact ⟨(Except.ok.inj h).symm, by omega⟩

instance : ProvidedTransfers AccountId (ProvidedBalances AccountId ed) where
  transfer_self_provided s a v p s' hv h hreserved := by
    change v + ed ≤ (s.account a).free
    change 0 < (s.account a).reserved at hreserved
    change fungibleTransfer s a a v p = .ok s' at h
    rw [fungibleTransfer, if_pos rfl, if_neg hv] at h
    split at h
    · cases h
    split at h
    · cases h
    split at h
    · cases h
    · omega

end ProvidedBalances

namespace Component

variable {S L AccountId : Type} [Component S L] [Currency AccountId L] [Fungible AccountId L]

instance : Fungible AccountId S where
  transfer s a b v p := lift s (Fungible.transfer (get s) a b v p)
  transfer_of_ne s a b v p hv hab :=
    congrArg (lift s) (Fungible.transfer_of_ne (get s) a b v p hv hab)
  transfer_self s a v p s' h := by
    obtain ⟨hsame, hfunds⟩ := Fungible.transfer_self (get s) a v p _ (lift_eq_ok h)
    refine ⟨?_, hfunds⟩
    obtain ⟨l, rfl⟩ := exists_set_of_lift h
    rw [get_set] at hsame
    rw [hsame, set_get]

instance [ProvidedTransfers AccountId L] : ProvidedTransfers AccountId S where
  transfer_self_provided s a v p _ hv h hreserved :=
    ProvidedTransfers.transfer_self_provided (get s) a v p _ hv (lift_eq_ok h) hreserved

end Component
