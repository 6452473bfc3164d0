import Altan.Foundation.Escrow
import Altan.Foundation.StorageMap

/-!
# Deposits that share a reserved balance

Records that make their owner liable for an amount share the one reserved balance of the owner. They
are backed when each owner has reserved what all of them claim together; then each can be settled in
full, whatever becomes of the others.

## Main definitions

* `share a p`: what a liability claims of `a`
* `owed liability m a`: what the records of `m` claim of `a`
* `Backed liability m l`: everybody has reserved what is owed

## Main results

* `reserved_share`, `released_share`, `slashed_share`: what happens to a reserved balance, as shares
* `Backed.claim_le`: what one record claims is reserved
* `Backed.add`, `Backed.close`, `Backed.remove`, `Backed.keep`: one record at a time
* `Backed.closeAll`: all records of a kind at once
-/

open Ledger

namespace Deposits

variable {κ ν A L : Type} [DecidableEq κ] [DecidableEq A]

/-- What a liability claims of an account. -/
def share (a : A) : Option (A × ℕ) → ℕ
  | some (b, n) => if b = a then n else 0
  | none => 0

theorem share_self (a : A) (n : ℕ) : share a (some (a, n)) = n := if_pos rfl

theorem share_of_ne {a b : A} (h : a ≠ b) (n : ℕ) : share a (some (b, n)) = 0 :=
  if_neg (Ne.symm h)

variable (liability : ν → Option (A × ℕ))

/-- What the records claim of an account. -/
def owed (m : StorageMap κ ν) (a : A) : ℕ := m.sum fun _ v => share a (liability v)

/-- Everybody has reserved what is owed. -/
def Backed [Ledger A L] (m : StorageMap κ ν) (l : L) : Prop :=
  ∀ a, owed liability m a ≤ reservedBalance l a

variable {liability} {m : StorageMap κ ν} {k : κ} {v v' : ν} {a : A} {n : ℕ}

/-- What is claimed under a key. -/
theorem contribution_share :
    m.contribution (fun _ v => share a (liability v)) k = share a ((m.get k).bind liability) := by
  unfold StorageMap.contribution
  cases m.get k <;> rfl

/-- A record takes the place of another. -/
theorem owed_insert : share a ((m.get k).bind liability) + owed liability (m.insert k v) a =
    share a (liability v) + owed liability m a := by
  rw [← contribution_share]
  exact StorageMap.sum_insert (fun _ v => share a (liability v)) k v

theorem owed_remove : share a ((m.get k).bind liability) + owed liability (m.remove k) a =
    owed liability m a := by
  rw [← contribution_share]
  exact StorageMap.sum_remove (fun _ v => share a (liability v)) k

theorem share_le_owed : share a ((m.get k).bind liability) ≤ owed liability m a :=
  Nat.le.intro owed_remove

/-- Who owes something is liable under some key. -/
theorem exists_liable (h : owed liability m a ≠ 0) :
    ∃ k v n, m.get k = some v ∧ liability v = some (a, n) := by
  obtain ⟨k, hk, hne⟩ := Finset.exists_ne_zero_of_sum_ne_zero h
  obtain ⟨v, hv⟩ := StorageMap.mem_keys.mp hk
  rw [StorageMap.contribution_of_get _ hv] at hne
  cases hliable : liability v with
  | none =>
    rw [hliable] at hne
    exact absurd rfl hne
  | some p =>
    obtain ⟨b, n⟩ := p
    rw [hliable] at hne
    have hb : b = a := by
      by_contra hb
      exact hne (if_neg hb)
    exact ⟨k, v, n, hv, hb ▸ hliable⟩

/-! ### What happens to a reserved balance -/

section Ledgers

variable [Ledger A L] {l l' : L} {c : A}

theorem reserved_share (h : Reserved l l' a n) :
    reservedBalance l' c = reservedBalance l c + share c (some (a, n)) := by
  by_cases hc : c = a
  · rw [hc, share_self, h.reserved]
  · rw [share_of_ne hc, h.othersReserved c hc, Nat.add_zero]

theorem released_share (h : Released l l' a n) :
    reservedBalance l' c + share c (some (a, n)) = reservedBalance l c := by
  by_cases hc : c = a
  · rw [hc, share_self, h.reserved]
  · rw [share_of_ne hc, h.othersReserved c hc, Nat.add_zero]

theorem slashed_share (h : Slashed l l' a n) :
    reservedBalance l' c + share c (some (a, n)) = reservedBalance l c := by
  by_cases hc : c = a
  · rw [hc, share_self, h.reserved]
  · rw [share_of_ne hc, h.othersReserved c hc, Nat.add_zero]

end Ledgers

namespace Backed

variable [Ledger A L] {l l' : L}

/-- What is owed is reserved while the accounts that owe keep what they have reserved. -/
theorem mono_of_liable (h : Backed liability m l)
    (hr : ∀ k v a n, m.get k = some v → liability v = some (a, n) →
      reservedBalance l a ≤ reservedBalance l' a) : Backed liability m l' := by
  intro c
  by_cases howed : owed liability m c = 0
  · rw [howed]
    exact Nat.zero_le _
  · obtain ⟨k, v, n, hv, hliable⟩ := exists_liable howed
    exact (h c).trans (hr k v c n hv hliable)

theorem mono (h : Backed liability m l) (hr : ∀ c, reservedBalance l c ≤ reservedBalance l' c) :
    Backed liability m l' :=
  fun c => (h c).trans (hr c)

/-- **What one record claims is reserved.** -/
theorem claim_le (h : Backed liability m l) (hk : m.get k = some v)
    (hv : liability v = some (a, n)) : n ≤ reservedBalance l a := by
  have hle : share a ((m.get k).bind liability) ≤ owed liability m a := share_le_owed
  rw [hk, Option.bind_some, hv, share_self] at hle
  exact hle.trans (h a)

/-- A record that claims what is reserved for it. -/
theorem add (h : Backed liability m l) (hk : (m.get k).bind liability = none)
    (hv : liability v = some (a, n)) (hr : Reserved l l' a n) :
    Backed liability (m.insert k v) l' := by
  intro c
  have howed : share c ((m.get k).bind liability) + owed liability (m.insert k v) c = _ :=
    owed_insert
  have hbefore := h c
  rw [hk, hv, show share c none = 0 from rfl, Nat.zero_add] at howed
  -- the owner has reserved so much more; the others owe what they have owed
  rw [howed, reserved_share hr]
  omega

section Close

variable (h : Backed liability m l) (hk : m.get k = some v) (hv : liability v = some (a, n))
  (hself : reservedBalance l a ≤ reservedBalance l' a + n)
  (hothers : ∀ c, c ≠ a → reservedBalance l c ≤ reservedBalance l' c)
include h hk hv hself hothers

/-- A record that claims no more what it has claimed. -/
theorem close (hv' : liability v' = none) : Backed liability (m.insert k v') l' := by
  intro c
  have howed : share c ((m.get k).bind liability) + owed liability (m.insert k v') c = _ :=
    owed_insert
  have hbefore := h c
  rw [hk, Option.bind_some, hv, hv', show share c none = 0 from rfl, Nat.zero_add] at howed
  -- the owner owes so much less
  by_cases hc : c = a
  · subst hc
    rw [share_self] at howed
    omega
  · rw [share_of_ne hc] at howed
    have hrest := hothers c hc
    omega

/-- A record that is deleted. -/
theorem remove : Backed liability (m.remove k) l' := by
  intro c
  have howed : share c ((m.get k).bind liability) + owed liability (m.remove k) c = _ :=
    owed_remove
  have hbefore := h c
  rw [hk, Option.bind_some, hv] at howed
  by_cases hc : c = a
  · subst hc
    rw [share_self] at howed
    omega
  · rw [share_of_ne hc] at howed
    have hrest := hothers c hc
    omega

end Close

/-- A record that claims what it has claimed. -/
theorem keep (h : Backed liability m l) (hk : m.get k = some v)
    (hv : liability v' = liability v)
    (hr : ∀ c, reservedBalance l c ≤ reservedBalance l' c) :
    Backed liability (m.insert k v') l' := by
  intro c
  have howed : share c ((m.get k).bind liability) + owed liability (m.insert k v') c = _ :=
    owed_insert
  have hbefore := h c
  have hrest := hr c
  rw [hk, Option.bind_some, hv] at howed
  omega

section CloseAll

variable {p : ν → Prop} [DecidablePred p] {F : ν → ν} {amount : ν → ℕ} {m' : StorageMap κ ν}
  (hmap : ∀ k, m'.get k = (m.get k).map fun v => if p v then F v else v)
  (hclaim : ∀ v, p v → liability v = some (a, amount v) ∧ liability (F v) = none)
include hmap hclaim

omit [Ledger A L] in
/-- The records that are closed claim no more what they have claimed. -/
theorem owed_closeAll (c : A) : owed liability m c =
    owed liability m' c + if a = c then m.sum fun _ v => if p v then amount v else 0 else 0 := by
  have hkeys : m'.keys = m.keys := by
    ext k
    rw [StorageMap.mem_keys, StorageMap.mem_keys, hmap]
    simp only [Option.map_eq_some_iff]
    constructor
    · rintro ⟨-, v, hv, -⟩
      exact ⟨v, hv⟩
    · rintro ⟨v, hv⟩
      exact ⟨_, v, hv, rfl⟩
  -- one record at a time
  have hone : ∀ k, m.contribution (fun _ v => share c (liability v)) k =
      m'.contribution (fun _ v => share c (liability v)) k +
        if a = c then m.contribution (fun _ v => if p v then amount v else 0) k else 0 := by
    intro k
    unfold StorageMap.contribution
    rw [hmap]
    cases m.get k with
    | none => simp
    | some v =>
      rw [Option.map_some, Option.elim_some, Option.elim_some, Option.elim_some]
      dsimp only
      by_cases hp : p v
      · obtain ⟨hbefore, hafter⟩ := hclaim v hp
        rw [if_pos hp, if_pos hp, hbefore, hafter]
        exact (Nat.zero_add _).symm
      · rw [if_neg hp, if_neg hp, ite_self, Nat.add_zero]
  unfold owed StorageMap.sum
  -- and in sum
  rw [hkeys, Finset.sum_congr rfl fun k _ => hone k, Finset.sum_add_distrib]
  split
  · rfl
  · rw [Finset.sum_const_zero]

variable (h : Backed liability m l)
include h

/-- What they have claimed together is reserved. -/
theorem closeAll_le : (m.sum fun _ v => if p v then amount v else 0) ≤ reservedBalance l a := by
  have howed := owed_closeAll hmap hclaim a
  rw [if_pos rfl] at howed
  exact (Nat.le_add_left _ _).trans (howed.ge.trans (h a))

/-- **All records of a kind that claim no more what they have claimed.** -/
theorem closeAll
    (hself : reservedBalance l a ≤
      reservedBalance l' a + m.sum fun _ v => if p v then amount v else 0)
    (hothers : ∀ c, c ≠ a → reservedBalance l c ≤ reservedBalance l' c) :
    Backed liability m' l' := by
  intro c
  have howed := owed_closeAll hmap hclaim c
  have hbefore := h c
  by_cases hc : c = a
  · subst hc
    rw [if_pos rfl] at howed
    omega
  · rw [if_neg (Ne.symm hc), Nat.add_zero] at howed
    rw [← howed]
    exact hbefore.trans (hothers c hc)

end CloseAll

end Backed

end Deposits
