import Altan.Foundation.Balances
import Altan.Foundation.Escrow

/-!
# An account-keeping currency with an escrow

In the currency that keeps one record for each account, a reserved balance refers to its account,
and what is referred to must not lose its provider: the records in which every account with
something reserved holds the existential deposit. No operation leaves them.

## Main definitions

* `Provided`: every account with something reserved holds the existential deposit
* `ProvidedBalances AccountId ed`: the ledgers of such records
* `AccountData.release`, `AccountData.slash`: a record after its reserved balance is given back or
  destroyed

## Main results

* The instances of `Currency`, `EscrowCurrency`, `LockableCurrency`, `UnlockedEscrow` and
  `ImpartialTransfers`
-/

open Bounded Dispatch Ledger

namespace AccountData

/-- A record with `v` of its reserved balance given back, or all of it. -/
def release (v : ℕ) (d : AccountData) : AccountData :=
  ⟨d.free + min v d.reserved, d.reserved - min v d.reserved⟩

/-- A record with `v` of its reserved balance destroyed, or all of it. -/
def slash (v : ℕ) (d : AccountData) : AccountData := ⟨d.free, d.reserved - min v d.reserved⟩

theorem release_zero (d : AccountData) : d.release 0 = d := by simp [release]

theorem release_release (v w : ℕ) (d : AccountData) :
    (d.release v).release w = d.release (v + w) := by
  ext <;> (simp only [release]; omega)

theorem release_empty (v : ℕ) : release v .empty = .empty := by simp [release, empty]

theorem slash_empty (v : ℕ) : slash v .empty = .empty := by simp [slash, empty]

theorem release_balance (v : ℕ) (d : AccountData) : (d.release v).balance = d.balance := by
  simp only [release, balance]
  omega

end AccountData

namespace Balances

variable {AccountId : Type} [DecidableEq AccountId] {ed : ℕ}

/-- Every account with something reserved holds the existential deposit. -/
def Provided (s : Balances AccountId ed) : Prop :=
  ∀ a, 0 < (s.account a).reserved → ed ≤ (s.account a).free

section Provided

variable {s s' : Balances AccountId ed} {a b : AccountId} {v : ℕ} {er : ExistenceRequirement}

/-- Free balances that do not fall keep their accounts provided for. -/
theorem Provided.of_le (h : Provided s)
    (hfree : ∀ c, (s.account c).free ≤ (s'.account c).free)
    (hreserved : ∀ c, (s'.account c).reserved = (s.account c).reserved) : Provided s' := by
  intro c hc
  rw [hreserved] at hc
  exact (h c hc).trans (hfree c)

theorem Provided.transfer (h : Provided s) (ht : Currency.transfer s a b v er = .ok s') :
    Provided s' := by
  rcases Currency.transfer_cases ht with ⟨-, rfl⟩ | ⟨hv, hab, hmoved⟩
  · exact h
  intro c hc
  have hreserved : (s'.account c).reserved = (s.account c).reserved := hmoved.reserved c
  rw [hreserved] at hc
  by_cases hca : c = a
  · subst hca
    -- an account that is referred to is not taken below the existential deposit
    obtain ⟨hfunds, hlow, -⟩ := transfer_eq_ok hv hab ht
    have hle : ed ≤ (s.account c).free - v := by
      by_contra hn
      exact Nat.ne_of_gt hc (hlow (by omega)).1
    have hsource : (s'.account c).free = Ledger.remainder s c v := hmoved.source
    rw [hsource, Ledger.remainder_of_le hle]
    exact hle
  · have hkept : (s.account c).free ≤ (s'.account c).free := by
      by_cases hcb : c = b
      · subst hcb
        exact (Nat.le_add_right _ v).trans hmoved.dest.ge
      · exact (hmoved.others c hca hcb).ge
    exact (h c hc).trans hkept

theorem Provided.depositCreating (h : Provided s) : Provided (s.depositCreating a v) :=
  h.of_le (Currency.depositCreating_ge s a v) (Currency.depositCreating_reserved s a v)

theorem Provided.reserve (h : Provided s) (hr : s.reserve a v = .ok s') : Provided s' := by
  have hreserved := reserve_reserved hr
  intro c hc
  by_cases hca : c = a
  · subst hca
    by_cases hv : v = 0
    · subst hv
      have hsame : s' = s := (Except.ok.inj ((if_pos rfl).symm.trans hr)).symm
      exact hsame ▸ h c (hsame ▸ hc)
    · have hfunds := (reserve_eq_ok hv hr).1
      have hfree : (s'.account c).free + v = (s.account c).free := hreserved.free
      omega
  · have hfree : (s'.account c).free = (s.account c).free := hreserved.others c hca
    have hsame : (s'.account c).reserved = (s.account c).reserved := hreserved.othersReserved c hca
    rw [hfree]
    exact h c (hsame ▸ hc)

theorem Provided.withdraw (h : Provided s) (hw : s.withdraw a v er = .ok s')
    (hlow : 0 < (s.account a).reserved → v + ed ≤ (s.account a).free) : Provided s' := by
  by_cases hv : v = 0
  · have hsame : s' = s := (Except.ok.inj ((if_pos hv).symm.trans hw)).symm
    exact hsame ▸ h
  obtain ⟨-, -, hw⟩ := withdraw_eq_ok hv hw
  intro c hc
  rw [write_withFree_reserved hw] at hc
  by_cases hca : c = a
  · subst hca
    have hfunds := hlow hc
    have hkept : ¬ ((s.account c).withFree ((s.account c).free - v)).IsDust ed := by
      rintro ⟨-, hr⟩
      exact Nat.ne_of_gt hc hr
    rw [write_account_self hw, kept_of_not hkept, AccountData.withFree_free]
    omega
  · rw [write_account_of_ne hw hca]
    exact h c hc

end Provided

section Adjust

variable {s : Balances AccountId ed} {a : AccountId} {f : AccountData → AccountData}

/-- Records that do not grow keep the total in range. -/
theorem modify_sum_le (hle : ∀ d, (f d).balance ≤ d.balance) :
    (s.accounts.modify a f).sum (fun _ d => d.balance) ≤ u128Max := by
  refine Nat.le_trans ?_ s.issuance_le
  have hsum := StorageMap.sum_modify (m := s.accounts) (fun _ d => d.balance) a f
  unfold StorageMap.contribution at hsum
  cases hget : s.accounts.get a with
  | none => rw [StorageMap.modify_of_none hget]
  | some d =>
    rw [hget] at hsum
    simp only [Option.map_some, Option.elim_some] at hsum
    have hd := hle d
    omega

theorem modify_not_dust (hf : ∀ d, s.accounts.get a = some d → ¬ (f d).IsDust ed) (c : AccountId)
    (d : AccountData) (hget : (s.accounts.modify a f).get c = some d) : ¬ d.IsDust ed := by
  rw [StorageMap.get_modify] at hget
  split at hget
  · obtain ⟨d', hd', rfl⟩ := Option.map_eq_some_iff.mp hget
    exact hf d' hd'
  · exact s.not_dust c d hget

end Adjust

/-- The ledger with one record changed. -/
def adjust (s : Balances AccountId ed) (a : AccountId) (f : AccountData → AccountData)
    (hle : ∀ d, (f d).balance ≤ d.balance)
    (hf : ∀ d, s.accounts.get a = some d → ¬ (f d).IsDust ed) : Balances AccountId ed where
  accounts := s.accounts.modify a f
  locks := s.locks
  issuance_le := modify_sum_le hle
  not_dust := modify_not_dust hf

section Modified

variable {s s' : Balances AccountId ed} {a : AccountId} {f : AccountData → AccountData}

theorem account_of_modify (h : s'.accounts = s.accounts.modify a f) (hempty : f .empty = .empty)
    (c : AccountId) : s'.account c = if c = a then f (s.account a) else s.account c := by
  unfold account
  rw [h]
  exact StorageMap.getD_modify hempty

theorem issuance_of_modify (h : s'.accounts = s.accounts.modify a f)
    (hempty : f .empty = .empty) :
    (s.account a).balance + s'.issuance = (f (s.account a)).balance + s.issuance := by
  have hsum := StorageMap.sum_modify (m := s.accounts) (fun _ d => d.balance) a f
  rw [contribution_balance, ← h] at hsum
  refine hsum.trans (congrArg (· + s.issuance) ?_)
  unfold account StorageMap.getD
  cases s.accounts.get a with
  | none => exact (congrArg AccountData.balance hempty).symm
  | some d => rfl

end Modified

end Balances

/-- The ledgers in which every account with something reserved holds the existential deposit. -/
structure ProvidedBalances (AccountId : Type) [DecidableEq AccountId] (ed : ℕ) extends
    Balances AccountId ed where
  provided : Balances.Provided toBalances

namespace ProvidedBalances

open Balances

variable {AccountId : Type} [DecidableEq AccountId] {ed : ℕ}

theorem toBalances_inj {s s' : ProvidedBalances AccountId ed} (h : s.toBalances = s'.toBalances) :
    s = s' := by
  cases s
  cases s'
  cases h
  rfl

/-- The outcome of an operation that keeps the accounts provided for. -/
def keep (x : Except CurrencyError (Balances AccountId ed)) (h : ∀ s, x = .ok s → s.Provided) :
    Except CurrencyError (ProvidedBalances AccountId ed) :=
  match x, h with
  | .ok s, h => .ok ⟨s, h s rfl⟩
  | .error e, _ => .error e

theorem keep_eq_ok {x : Except CurrencyError (Balances AccountId ed)}
    {h : ∀ s, x = .ok s → s.Provided} {s : ProvidedBalances AccountId ed} (hx : keep x h = .ok s) :
    x = .ok s.toBalances := by
  cases x with
  | error e => cases hx
  | ok s' => rw [← Except.ok.inj hx]

theorem keep_eq_error {x : Except CurrencyError (Balances AccountId ed)}
    {h : ∀ s, x = .ok s → s.Provided} {e : CurrencyError} (hx : keep x h = .error e) :
    x = .error e := by
  cases x with
  | error e' => rw [Except.error.inj hx]
  | ok s' => cases hx

theorem keep_ok {s : ProvidedBalances AccountId ed}
    {x : Except CurrencyError (Balances AccountId ed)} {h : ∀ s, x = .ok s → s.Provided}
    (hx : x = .ok s.toBalances) : keep x h = .ok s := by
  subst hx
  rfl

/-- Destroy `v` on an account, unless it loses the provider it needs. -/
def withdraw (s : ProvidedBalances AccountId ed) (a : AccountId) (v : ℕ)
    (er : ExistenceRequirement) : Except CurrencyError (ProvidedBalances AccountId ed) :=
  if h : 0 < (s.account a).reserved → v + ed ≤ (s.account a).free then
    keep (s.toBalances.withdraw a v er) fun _ hw => s.provided.withdraw hw h
  else .error .onlyProvider

section Escrow

variable {s : ProvidedBalances AccountId ed} {a : AccountId} {v : ℕ} {d : AccountData}

/-- The record of an account that has one is not dust, and is provided for. -/
theorem get_spec (hget : s.accounts.get a = some d) :
    ¬ d.IsDust ed ∧ (0 < d.reserved → ed ≤ d.free) := by
  have haccount : s.account a = d := congrArg (Option.getD · AccountData.empty) hget
  exact ⟨s.not_dust a d hget, haccount ▸ s.provided a⟩

theorem release_not_dust (hget : s.accounts.get a = some d) : ¬ (d.release v).IsDust ed := by
  obtain ⟨hdust, hprovided⟩ := get_spec hget
  simp only [AccountData.release, AccountData.IsDust] at hdust ⊢
  omega

theorem slash_not_dust (hget : s.accounts.get a = some d) : ¬ (d.slash v).IsDust ed := by
  obtain ⟨hdust, hprovided⟩ := get_spec hget
  simp only [AccountData.slash, AccountData.IsDust] at hdust ⊢
  omega

/-- A change of one record that adds to nothing that is reserved, and takes nothing that is free,
keeps the accounts provided for. -/
theorem provided_of_modify {s' : Balances AccountId ed} {f : AccountData → AccountData}
    (h : s'.accounts = s.accounts.modify a f) (hempty : f .empty = .empty)
    (hfree : ∀ d, d.free ≤ (f d).free) (hreserved : ∀ d, (f d).reserved ≤ d.reserved) :
    s'.Provided := by
  intro c hc
  rw [account_of_modify h hempty] at hc ⊢
  split at hc
  · next hca =>
    subst hca
    rw [if_pos rfl]
    exact (s.provided c (hc.trans_le (hreserved _))).trans (hfree _)
  · next hca =>
    rw [if_neg hca]
    exact s.provided c hc

end Escrow

/-- Give `v` of what is reserved on an account back, or all of it. -/
def unreserve (s : ProvidedBalances AccountId ed) (a : AccountId) (v : ℕ) :
    ProvidedBalances AccountId ed where
  toBalances := s.toBalances.adjust a (AccountData.release v)
    (fun d => (d.release_balance v).le) fun _ => release_not_dust
  provided := provided_of_modify rfl (AccountData.release_empty v)
    (fun _ => Nat.le_add_right _ _) fun _ => Nat.sub_le _ _

/-- Destroy `v` of what is reserved on an account, or all of it. -/
def slashReserved (s : ProvidedBalances AccountId ed) (a : AccountId) (v : ℕ) :
    ProvidedBalances AccountId ed where
  toBalances := s.toBalances.adjust a (AccountData.slash v)
    (fun _ => Nat.add_le_add_left (Nat.sub_le _ _) _) fun _ => slash_not_dust
  provided := provided_of_modify rfl (AccountData.slash_empty v)
    (fun _ => Nat.le_refl _) fun _ => Nat.sub_le _ _

section Operations

variable {s : ProvidedBalances AccountId ed} {a : AccountId} {v w : ℕ}

theorem unreserve_account (c : AccountId) : (s.unreserve a v).account c =
    if c = a then (s.account a).release v else s.account c :=
  account_of_modify rfl (AccountData.release_empty v) c

theorem unreserve_issuance : (s.unreserve a v).issuance = s.issuance := by
  have hsum : (s.account a).balance + (s.unreserve a v).issuance = _ :=
    issuance_of_modify rfl (AccountData.release_empty v)
  rw [AccountData.release_balance] at hsum
  exact Nat.add_left_cancel hsum

theorem unreserve_zero : s.unreserve a 0 = s := by
  apply toBalances_inj
  refine Balances.ext ?_ rfl
  show s.accounts.modify a (AccountData.release 0) = s.accounts
  ext c : 1
  rw [StorageMap.get_modify, funext AccountData.release_zero]
  split
  · next hc => rw [hc, Option.map_id']
  · rfl

theorem unreserve_add : (s.unreserve a v).unreserve a w = s.unreserve a (v + w) := by
  apply toBalances_inj
  refine Balances.ext ?_ rfl
  refine (StorageMap.modify_modify _ _).trans ?_
  exact congrArg _ (funext (AccountData.release_release v w))

theorem slashReserved_account (c : AccountId) : (s.slashReserved a v).account c =
    if c = a then (s.account a).slash v else s.account c :=
  account_of_modify rfl (AccountData.slash_empty v) c

theorem slashReserved_issuance :
    (s.slashReserved a v).issuance + min v (s.account a).reserved = s.issuance := by
  have hsum : (s.account a).balance + (s.slashReserved a v).issuance = _ :=
    issuance_of_modify rfl (AccountData.slash_empty v)
  simp only [AccountData.balance, AccountData.slash] at hsum
  omega

end Operations

instance : Ledger AccountId (ProvidedBalances AccountId ed) where
  existentialDeposit := ed
  freeBalance s a := (s.account a).free
  reservedBalance s a := (s.account a).reserved
  totalIssuance s := s.issuance
  lockAmount s id a := s.locks.getD (id, a) 0
  balance_le_totalIssuance s := balance_le_issuance s.toBalances
  totalIssuance_le s := s.issuance_le

instance : Currency AccountId (ProvidedBalances AccountId ed) where
  transfer s a b v er := keep (Currency.transfer s.toBalances a b v er) fun _ => s.provided.transfer
  depositCreating s a v := ⟨s.toBalances.depositCreating a v, s.provided.depositCreating⟩
  withdraw := withdraw
  transfer_noop _ _ _ _ _ h := keep_ok (Currency.transfer_noop _ _ _ _ _ h)
  transfer_ok s a b v er s' hv hab h := by
    have ht := Currency.transfer_ok _ a b v er _ hv hab (keep_eq_ok h)
    exact ⟨ht.funded, ht.source, ht.dest, ht.alive, ht.others, ht.reserved, ht.issuance⟩
  transfer_keepAlive _ _ _ _ _ hv hab h := transfer_keepAlive_le hv hab (keep_eq_ok h)
  transfer_fundsUnavailable _ _ _ _ _ h := transfer_fundsUnavailable_lt (keep_eq_error h)
  transfer_notExpendable _ _ _ _ _ h := transfer_notExpendable_lt (keep_eq_error h)
  depositCreating_zero s a := toBalances_inj (Currency.depositCreating_zero s.toBalances a)
  depositCreating_credited s a v h := by
    have hc := Currency.depositCreating_credited s.toBalances a v h
    exact ⟨hc.free, hc.others, hc.reserved, hc.issuance⟩
  depositCreating_dust s a v ha hv :=
    toBalances_inj (Currency.depositCreating_dust s.toBalances a v ha hv)
  depositCreating_le s a v := Currency.depositCreating_le s.toBalances a v
  depositCreating_ge s a v := Currency.depositCreating_ge s.toBalances a v
  depositCreating_reserved s a v := Currency.depositCreating_reserved s.toBalances a v
  withdraw_keepAlive s a v s' h := by
    unfold withdraw at h
    split at h
    · have hd := withdraw_debited (keep_eq_ok h)
      exact ⟨hd.free, hd.others, hd.reserved, hd.issuance⟩
    · cases h

instance [NeZero ed] : EscrowCurrency AccountId (ProvidedBalances AccountId ed) where
  reserve s a v := keep (s.toBalances.reserve a v) fun _ => s.provided.reserve
  reserve_ok s a v s' h := by
    have hr := reserve_reserved (keep_eq_ok h)
    exact ⟨hr.free, hr.others, hr.reserved, hr.othersReserved, hr.issuance⟩
  unreserve := unreserve
  slashReserved := slashReserved
  unreserve_released s a v := by
    have haccount := unreserve_account (s := s) (a := a) (v := v)
    refine ⟨?_, fun c hc => ?_, ?_, fun c hc => ?_, unreserve_issuance⟩
    · exact congrArg AccountData.free ((haccount a).trans (if_pos rfl))
    · exact congrArg AccountData.free ((haccount c).trans (if_neg hc))
    · show ((s.unreserve a v).account a).reserved + _ = (s.account a).reserved
      rw [haccount, if_pos rfl]
      exact Nat.sub_add_cancel (Nat.min_le_right _ _)
    · exact congrArg AccountData.reserved ((haccount c).trans (if_neg hc))
  unreserve_zero _ _ := unreserve_zero
  unreserve_add _ _ _ _ := unreserve_add
  slashReserved_slashed s a v := by
    have haccount := slashReserved_account (s := s) (a := a) (v := v)
    refine ⟨fun c => ?_, ?_, fun c hc => ?_, slashReserved_issuance⟩
    · show ((s.slashReserved a v).account c).free = (s.account c).free
      rw [haccount]
      split
      · next hc => rw [hc]; rfl
      · rfl
    · show ((s.slashReserved a v).account a).reserved + _ = (s.account a).reserved
      rw [haccount, if_pos rfl]
      exact Nat.sub_add_cancel (Nat.min_le_right _ _)
    · exact congrArg AccountData.reserved ((haccount c).trans (if_neg hc))
  existentialDeposit_pos := Nat.pos_of_ne_zero (NeZero.ne ed)
  reserved_provided s := s.provided

instance [NeZero ed] : UnlockedEscrow AccountId (ProvidedBalances AccountId ed) where
  transfer_unlocked s a b v hlock hfunds hdest := by
    obtain ⟨t, ht⟩ := UnlockedTransfers.transfer_unlocked s.toBalances a b v hlock hfunds hdest
    exact ⟨⟨t, s.provided.transfer ht⟩, keep_ok ht⟩
  unreserve_lock _ _ _ _ _ := rfl

instance [NeZero ed] : LockedEscrow AccountId (ProvidedBalances AccountId ed) where
  slashReserved_lock _ _ _ _ _ := rfl

instance : ReapedAccounts AccountId (ProvidedBalances AccountId ed) where
  alive_not_dust _ _ h := account_not_dust h

instance : LockableCurrency AccountId (ProvidedBalances AccountId ed) where
  setLock s id a v :=
    { s with
      toBalances := s.toBalances.setLock id a v
      provided := s.provided.of_le
        (fun c => (LockableCurrency.setLock_free s.toBalances id a v c).ge)
        (LockableCurrency.setLock_reserved s.toBalances id a v) }
  removeLock s id a :=
    { s with
      toBalances := s.toBalances.removeLock id a
      provided := s.provided }
  setLock_zero s id a := toBalances_inj (LockableCurrency.setLock_zero s.toBalances id a)
  setLock_self s := LockableCurrency.setLock_self s.toBalances
  setLock_others s := LockableCurrency.setLock_others s.toBalances
  setLock_free s := LockableCurrency.setLock_free s.toBalances
  setLock_reserved s := LockableCurrency.setLock_reserved s.toBalances
  removeLock_self s := LockableCurrency.removeLock_self s.toBalances
  removeLock_others s := LockableCurrency.removeLock_others s.toBalances
  removeLock_free _ _ _ _ := rfl
  removeLock_reserved _ _ _ _ := rfl
  transfer_lock s a b v er _ h :=
    LockableCurrency.transfer_lock s.toBalances a b v er _ (keep_eq_ok h)
  depositCreating_lock s := LockableCurrency.depositCreating_lock s.toBalances
  withdraw_lock s a v er s' h := by
    unfold Currency.withdraw at h
    change withdraw s a v er = .ok s' at h
    unfold withdraw at h
    split at h
    · exact LockableCurrency.withdraw_lock s.toBalances a v er _ (keep_eq_ok h)
    · cases h

instance : KeepingWithdrawals AccountId (ProvidedBalances AccountId ed) where
  withdraw_isOk_iff s a v hv := by
    have hlocks : (∀ id, v + Ledger.lockAmount s id a ≤ (s.account a).free) ↔
        s.frozen a ≤ (s.account a).free - v ∧ v ≤ (s.account a).free := by
      rw [frozen_le_iff]
      constructor
      · intro h
        exact ⟨fun id => Nat.le_sub_of_add_le' (h id), Nat.le_of_add_right_le (h [])⟩
      · rintro ⟨h, hle⟩ id
        exact (Nat.le_sub_iff_add_le' hle).mp (h id)
    change (∃ s', withdraw s a v .keepAlive = .ok s') ↔
      v + ed ≤ (s.account a).free ∧ ∀ id, v + Ledger.lockAmount s id a ≤ (s.account a).free
    rw [hlocks]
    constructor
    · rintro ⟨s', hs'⟩
      unfold withdraw at hs'
      split at hs'
      · next hprovided =>
        obtain ⟨hfunds, halive, -⟩ := withdraw_eq_ok hv (keep_eq_ok hs')
        have hfrozen := withdraw_frozen hv (keep_eq_ok hs')
        refine ⟨?_, by omega, hfunds⟩
        rcases halive rfl with hkept | hreserved
        · exact hkept
        · exact hprovided hreserved
      · cases hs'
    · rintro ⟨hkept, hfrozen, hfunds⟩
      obtain ⟨t, ht⟩ := Balances.withdraw_isOk hkept (by omega)
      have hprovided : 0 < (s.account a).reserved → v + ed ≤ (s.account a).free := fun _ => hkept
      refine ⟨⟨t, s.provided.withdraw ht hprovided⟩, ?_⟩
      unfold withdraw
      rw [dif_pos hprovided]
      exact keep_ok ht

instance : ImpartialTransfers AccountId (ProvidedBalances AccountId ed) where
  transfer_redirect s a b c v er s' hv hab hac h hdest := by
    obtain ⟨t, ht⟩ := ImpartialTransfers.transfer_redirect s.toBalances a b c v er _ hv hab hac
      (keep_eq_ok h) hdest
    exact ⟨⟨t, s.provided.transfer ht⟩, keep_ok ht⟩

/-- An account that keeps the existential deposit can reserve the rest, without locks. -/
theorem reserve_isOk [NeZero ed] {s : ProvidedBalances AccountId ed} {a : AccountId} {v : ℕ}
    (hlocks : s.locks = ∅) (hfunds : v + ed ≤ freeBalance s a) :
    ∃ s', ReservableCurrency.reserve s a v = .ok s' ∧ s'.locks = ∅ := by
  have hfrozen : s.toBalances.frozen a = 0 := by
    refine frozen_eq_zero fun id => ?_
    change s.locks.getD (id, a) 0 = 0
    rw [hlocks, StorageMap.getD_empty]
  obtain ⟨t, ht⟩ := Balances.reserve_isOk hfrozen hfunds
  refine ⟨⟨t, s.provided.reserve ht⟩, keep_ok ht, ?_⟩
  exact (Balances.reserve_locks ht).trans hlocks

/-- A ledger with given free balances has nothing reserved. -/
theorem ofFree_reserved (balances : List (AccountId × ℕ)) (a : AccountId) :
    ((Balances.ofFree balances : Balances AccountId ed).account a).reserved = 0 := by
  -- nothing reserved stays so with every entry, which the induction is on
  suffices hfold : ∀ s : Balances AccountId ed, (s.account a).reserved = 0 →
      ((balances.foldl (fun s p => (s.write p.1 ⟨p.2, 0⟩).getD s) s).account a).reserved = 0 by
    apply hfold
    rw [account_default]
    rfl
  induction balances with
  | nil => exact fun _ hs => hs
  | cons p balances ih =>
    intro s hs
    apply ih
    show (((s.write p.1 ⟨p.2, 0⟩).getD s).account a).reserved = 0
    cases hw : s.write p.1 ⟨p.2, 0⟩ with
    | none => exact hs
    | some s' =>
      rw [Option.getD_some, write_account hw]
      split
      · exact kept_reserved ed _
      · exact hs

/-- The ledger with given free balances, later entries for one account replacing earlier ones. -/
def ofFree (balances : List (AccountId × ℕ)) : ProvidedBalances AccountId ed where
  toBalances := Balances.ofFree balances
  provided a h := absurd (ofFree_reserved balances a) (Nat.ne_of_gt h)

end ProvidedBalances
