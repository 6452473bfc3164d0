import Altan.Foundation.Currency
import Altan.Foundation.StorageMap

/-!
# An account-keeping currency

The currency that keeps one record for each account: its free and its reserved balance. An
account whose free balance is below the existential deposit, with nothing reserved, is dust
and has no record. The total issuance is the total of all records. A lock freezes the largest
of its account's lock amounts.

## Main definitions

* `Balances AccountId ed`: the records and locks, with the total in range
* `Balances.write`: one account's record replaced
* `Balances.ofFree`: the ledger with given free balances

## Main results

* `write_account`, `write_issuance`: what a write does to the records and to the total
* The instances of `Currency`, `ReservableCurrency` and `LockableCurrency`
-/

open Bounded Dispatch Ledger

/-- The record of one account. -/
@[ext] structure AccountData where
  free : ℕ
  reserved : ℕ
  deriving DecidableEq, Repr

/-- The record of an account that does not exist. -/
def AccountData.empty : AccountData := ⟨0, 0⟩

/-- A record with another free balance. -/
def AccountData.withFree (d : AccountData) (n : ℕ) : AccountData := ⟨n, d.reserved⟩

@[simp] theorem AccountData.withFree_free (d : AccountData) (n : ℕ) : (d.withFree n).free = n := rfl

@[simp] theorem AccountData.withFree_reserved (d : AccountData) (n : ℕ) :
    (d.withFree n).reserved = d.reserved := rfl

/-- What a record adds to the total issuance. -/
def AccountData.balance (d : AccountData) : ℕ := d.free + d.reserved

/-- A record below the existential deposit, with nothing reserved. -/
def AccountData.IsDust (ed : ℕ) (d : AccountData) : Prop := d.free < ed ∧ d.reserved = 0

instance (ed : ℕ) (d : AccountData) : Decidable (d.IsDust ed) :=
  inferInstanceAs (Decidable (_ ∧ _))

/-- The records and locks of all accounts, with existential deposit `ed`. -/
@[ext] structure Balances (AccountId : Type) [DecidableEq AccountId] (ed : ℕ) where
  accounts : StorageMap AccountId AccountData
  locks : StorageMap (LockIdentifier × AccountId) ℕ
  issuance_le : accounts.sum (fun _ d => d.balance) ≤ u128Max
  not_dust : ∀ a d, accounts.get a = some d → ¬ d.IsDust ed

namespace Balances

variable {AccountId : Type} [DecidableEq AccountId] {ed : ℕ}

instance : Inhabited (Balances AccountId ed) := ⟨⟨∅, ∅, Nat.zero_le _, by simp⟩⟩

/-- The record of an account, empty without one. -/
def account (s : Balances AccountId ed) (a : AccountId) : AccountData :=
  s.accounts.getD a .empty

/-- The total of all records. -/
def issuance (s : Balances AccountId ed) : ℕ := s.accounts.sum fun _ d => d.balance

/-- The largest lock amount of an account. -/
def frozen (s : Balances AccountId ed) (a : AccountId) : ℕ :=
  (s.locks.keys.filter fun p => p.2 = a).fold max 0 fun p => s.locks.getD p 0

/-- What is kept of a record. -/
def kept (ed : ℕ) (d : AccountData) : AccountData := if d.IsDust ed then .empty else d

/-- The records with that of `a` replaced by `d`. -/
def replaced (ed : ℕ) (m : StorageMap AccountId AccountData) (a : AccountId) (d : AccountData) :
    StorageMap AccountId AccountData :=
  if d.IsDust ed then m.remove a else m.insert a d

theorem replaced_not_dust {m : StorageMap AccountId AccountData} {a : AccountId} {d : AccountData}
    (hm : ∀ c e, m.get c = some e → ¬ e.IsDust ed) (c : AccountId) (e : AccountData)
    (h : (replaced ed m a d).get c = some e) : ¬ e.IsDust ed := by
  unfold replaced at h
  split at h
  · rw [StorageMap.get_remove] at h
    split at h
    · cases h
    · exact hm c e h
  · next hd =>
    rw [StorageMap.get_insert] at h
    split at h
    · rwa [← Option.some.inj h]
    · exact hm c e h

/-- Replace the record of `a` by `d`, unless the total leaves its range. -/
def write (s : Balances AccountId ed) (a : AccountId) (d : AccountData) :
    Option (Balances AccountId ed) :=
  if h : (replaced ed s.accounts a d).sum (fun _ d => d.balance) ≤ u128Max then
    some
      { s with
        accounts := replaced ed s.accounts a d
        issuance_le := h
        not_dust := replaced_not_dust s.not_dust }
  else none

theorem replaced_account (m : StorageMap AccountId AccountData) (a c : AccountId)
    (d : AccountData) :
    (replaced ed m a d).getD c .empty = if c = a then kept ed d else m.getD c .empty := by
  unfold replaced kept
  split
  · simp only [StorageMap.getD, StorageMap.get_remove]
    split <;> rfl
  · exact StorageMap.getD_insert

theorem contribution_balance (m : StorageMap AccountId AccountData) (a : AccountId) :
    m.contribution (fun _ d => d.balance) a = (m.getD a .empty).balance := by
  unfold StorageMap.contribution StorageMap.getD
  cases m.get a <;> rfl

theorem replaced_sum (ed : ℕ) (m : StorageMap AccountId AccountData) (a : AccountId)
    (d : AccountData) :
    (m.getD a .empty).balance + (replaced ed m a d).sum (fun _ d => d.balance) =
      (kept ed d).balance + m.sum (fun _ d => d.balance) := by
  rw [← contribution_balance]
  unfold replaced kept
  split
  · rw [StorageMap.sum_remove]
    exact (Nat.zero_add _).symm
  · exact StorageMap.sum_insert _ a d

section Write

variable {s s' : Balances AccountId ed} {a c : AccountId} {d : AccountData}

theorem write_account (h : s.write a d = some s') :
    s'.account c = if c = a then kept ed d else s.account c := by
  unfold write at h
  split at h
  · rw [← Option.some.inj h]
    exact replaced_account s.accounts a c d
  · cases h

theorem write_account_self (h : s.write a d = some s') : s'.account a = kept ed d := by
  rw [write_account h, if_pos rfl]

theorem write_account_of_ne (h : s.write a d = some s') (hc : c ≠ a) :
    s'.account c = s.account c := by
  rw [write_account h, if_neg hc]

theorem write_issuance (h : s.write a d = some s') :
    (s.account a).balance + s'.issuance = (kept ed d).balance + s.issuance := by
  unfold write at h
  split at h
  · rw [← Option.some.inj h]
    exact replaced_sum ed s.accounts a d
  · cases h

theorem write_locks (h : s.write a d = some s') : s'.locks = s.locks := by
  unfold write at h
  split at h
  · rw [← Option.some.inj h]
  · cases h

/-- A write is refused just when it takes the total out of its range. -/
theorem write_isSome (h : (kept ed d).balance + s.issuance ≤ (s.account a).balance + u128Max) :
    ∃ s', s.write a d = some s' := by
  have hsum := replaced_sum ed s.accounts a d
  unfold write
  rw [dif_pos]
  · exact ⟨_, rfl⟩
  -- the new total is the old one with the records of `a` exchanged
  · unfold issuance account at h
    omega

theorem kept_of_not (h : ¬ d.IsDust ed) : kept ed d = d := if_neg h

theorem balance_le_issuance (s : Balances AccountId ed) (a : AccountId) :
    (s.account a).balance ≤ s.issuance := by
  unfold account issuance
  rw [← contribution_balance]
  exact StorageMap.contribution_le_sum a

end Write

/-! ### The operations -/

/-- The result of a write that is expected to succeed. -/
def orOverflow (x : Option (Balances AccountId ed)) :
    Except CurrencyError (Balances AccountId ed) :=
  x.elim (.error .overflow) .ok

/-- Move `v` between two accounts. -/
def transfer (s : Balances AccountId ed) (a b : AccountId) (v : ℕ) (er : ExistenceRequirement) :
    Except CurrencyError (Balances AccountId ed) :=
  -- nothing moves when the amount is zero or the accounts are one
  if v = 0 ∨ a = b then .ok s
  else if (s.account a).free < v then .error .fundsUnavailable
  -- reserved balances count towards what is frozen
  else if (s.account a).free < v + (s.frozen a - (s.account a).reserved) then .error .frozen
  -- an account that is referred to must not be reaped
  else if (s.account a).free < v + ed ∧ (0 < (s.account a).reserved ∨ 0 < s.frozen a) then
    .error .onlyProvider
  else if (s.account a).free < v + ed ∧ er = .keepAlive then .error .notExpendable
  else if (s.account b).free + v < ed then .error .belowMinimum
  else
    orOverflow ((s.write a ((s.account a).withFree ((s.account a).free - v))).bind fun s₁ =>
      s₁.write b ((s₁.account b).withFree ((s₁.account b).free + v)))

/-- Create `v` on an account; nothing happens when it would be dust or leave the range. -/
def depositCreating (s : Balances AccountId ed) (a : AccountId) (v : ℕ) : Balances AccountId ed :=
  if v = 0 ∨ (s.account a = .empty ∧ v < ed) then s
  -- a total out of range leaves the ledger as it is
  else (s.write a ((s.account a).withFree ((s.account a).free + v))).getD s

/-- Destroy `v` on an account. -/
def withdraw (s : Balances AccountId ed) (a : AccountId) (v : ℕ) (er : ExistenceRequirement) :
    Except CurrencyError (Balances AccountId ed) :=
  if v = 0 then .ok s
  else if (s.account a).free < v then .error .insufficientBalance
  else if er = .keepAlive ∧ (s.account a).free < v + ed ∧
      (ed ≤ (s.account a).free ∨ (s.account a).reserved = 0) then .error .expendability
  else if (s.account a).free < v + s.frozen a then .error .liquidityRestrictions
  else orOverflow (s.write a ((s.account a).withFree ((s.account a).free - v)))

/-- Move `v` of an account from its free to its reserved balance. -/
def reserve (s : Balances AccountId ed) (a : AccountId) (v : ℕ) :
    Except CurrencyError (Balances AccountId ed) :=
  if v = 0 then .ok s
  else if (s.account a).free < v then .error .insufficientBalance
  else if (s.account a).free < v + ed then .error .onlyProvider
  else if (s.account a).free < v + s.frozen a then .error .liquidityRestrictions
  else orOverflow (s.write a ⟨(s.account a).free - v, (s.account a).reserved + v⟩)

/-- Delete a lock. -/
def removeLock (s : Balances AccountId ed) (id : LockIdentifier) (a : AccountId) :
    Balances AccountId ed :=
  { s with locks := s.locks.remove (id, a) }

/-- Set the amount of a lock; a zero amount deletes it. -/
def setLock (s : Balances AccountId ed) (id : LockIdentifier) (a : AccountId) (v : ℕ) :
    Balances AccountId ed :=
  if v = 0 then s.removeLock id a else { s with locks := s.locks.insert (id, a) v }

instance : Ledger AccountId (Balances AccountId ed) where
  existentialDeposit := ed
  freeBalance s a := (s.account a).free
  reservedBalance s a := (s.account a).reserved
  totalIssuance := issuance
  lockAmount s id a := s.locks.getD (id, a) 0
  balance_le_totalIssuance := balance_le_issuance
  totalIssuance_le s := s.issuance_le

/-! ### The laws -/

section Laws

variable {s s' : Balances AccountId ed} {a b c : AccountId} {v : ℕ} {er : ExistenceRequirement}

theorem orOverflow_eq_ok {x : Option (Balances AccountId ed)} :
    orOverflow x = .ok s' ↔ x = some s' := by
  cases x <;> simp [orOverflow]

theorem orOverflow_eq_error {x : Option (Balances AccountId ed)} {e : CurrencyError}
    (h : orOverflow x = .error e) : e = .overflow := by
  cases x with
  | none => exact (Except.error.inj h).symm
  | some s => cases h

/-- What a transfer that moves something went through. -/
theorem transfer_eq_ok (hv : v ≠ 0) (hab : a ≠ b) (h : s.transfer a b v er = .ok s') :
    v ≤ (s.account a).free ∧
      ((s.account a).free < v + ed → (s.account a).reserved = 0 ∧ er ≠ .keepAlive) ∧
      ed ≤ (s.account b).free + v ∧
      ∃ s₁, s.write a ((s.account a).withFree ((s.account a).free - v)) = some s₁ ∧
        s₁.write b ((s₁.account b).withFree ((s₁.account b).free + v)) = some s' := by
  unfold transfer at h
  rw [if_neg (not_or.mpr ⟨hv, hab⟩)] at h
  -- one refusal after the other is excluded
  split_ifs at h with hfunds _ hprovider hkeep hmin
  refine ⟨by omega, fun hlow => ⟨?_, fun hk => hkeep ⟨hlow, hk⟩⟩, by omega, ?_⟩
  · by_contra hr
    exact hprovider ⟨hlow, Or.inl (Nat.pos_of_ne_zero hr)⟩
  · exact Option.bind_eq_some_iff.mp (orOverflow_eq_ok.mp h)

theorem kept_reserved (ed : ℕ) (d : AccountData) : (kept ed d).reserved = d.reserved := by
  unfold kept
  split
  · next hd => exact hd.2.symm
  · rfl

theorem kept_balance_le (d : AccountData) : (kept ed d).balance ≤ d.balance := by
  unfold kept
  split
  · exact Nat.zero_le _
  · exact Nat.le_refl _

theorem kept_free_le (d : AccountData) : (kept ed d).free ≤ d.free := by
  unfold kept
  split
  · exact Nat.zero_le _
  · exact Nat.le_refl _

/-- Replacing a free balance leaves all reserved balances. -/
theorem write_withFree_reserved {n : ℕ} (h : s.write a ((s.account a).withFree n) = some s')
    (c : AccountId) : (s'.account c).reserved = (s.account c).reserved := by
  rw [write_account h]
  split
  · next hc => rw [kept_reserved, AccountData.withFree_reserved, hc]
  · rfl

theorem kept_debited_free (s : Balances AccountId ed) (a : AccountId) (v : ℕ) :
    (kept ed ((s.account a).withFree ((s.account a).free - v))).free =
      Ledger.remainder s a v :=
  apply_ite AccountData.free _ _ _

theorem transfer_transferred (hv : v ≠ 0) (hab : a ≠ b) (h : s.transfer a b v er = .ok s') :
    Ledger.Transferred s s' a b v := by
  obtain ⟨hfunds, _, halive, s₁, hw, hw'⟩ := transfer_eq_ok hv hab h
  have hb₁ : s₁.account b = s.account b := write_account_of_ne hw hab.symm
  -- the receiver ends up with the existential deposit at least
  have hbkept : ¬ ((s₁.account b).withFree ((s₁.account b).free + v)).IsDust ed := by
    rintro ⟨hlow, -⟩
    rw [hb₁] at hlow
    exact Nat.not_lt.mpr halive hlow
  have ha : s'.account a = kept ed ((s.account a).withFree ((s.account a).free - v)) := by
    rw [write_account_of_ne hw' hab, write_account_self hw]
  have hb : s'.account b = ((s.account b).withFree ((s.account b).free + v)) := by
    rw [write_account_self hw', kept_of_not hbkept, hb₁]
  refine ⟨hfunds, ?_, congrArg AccountData.free hb, halive, fun c hca hcb => ?_, fun c => ?_, ?_⟩
  · exact (congrArg AccountData.free ha).trans (kept_debited_free s a v)
  · have hc := (write_account_of_ne hw' hcb).trans (write_account_of_ne hw hca)
    exact congrArg AccountData.free hc
  · exact (write_withFree_reserved hw' c).trans (write_withFree_reserved hw c)
  -- what the sender loses beyond `v` is its dust, and it leaves the total
  · have hi := write_issuance hw
    have hi' := write_issuance hw'
    have hres := kept_reserved ed ((s.account a).withFree ((s.account a).free - v))
    have hfree := kept_debited_free s a v
    have hle := Ledger.remainder_le s a v
    rw [kept_of_not hbkept, hb₁] at hi'
    unfold AccountData.balance at hi hi'
    change s'.issuance + ((s.account a).free - v - Ledger.remainder s a v) = s.issuance
    change Ledger.remainder s a v ≤ (s.account a).free - v at hle
    simp only [AccountData.withFree_free, AccountData.withFree_reserved] at hres hfree hi hi'
    omega

/-- The free balance a transfer keeps alive covers the existential deposit. -/
theorem transfer_keepAlive_le (hv : v ≠ 0) (hab : a ≠ b)
    (h : s.transfer a b v .keepAlive = .ok s') : ed ≤ (s.account a).free - v := by
  obtain ⟨hfunds, hlow, -⟩ := transfer_eq_ok hv hab h
  by_contra hn
  exact (hlow (by omega)).2 rfl

theorem transfer_locks (h : s.transfer a b v er = .ok s') : s'.locks = s.locks := by
  by_cases hn : v = 0 ∨ a = b
  · unfold transfer at h
    rw [if_pos hn] at h
    rw [← Except.ok.inj h]
  · obtain ⟨hv, hab⟩ := not_or.mp hn
    obtain ⟨_, _, _, s₁, hw, hw'⟩ := transfer_eq_ok hv hab h
    rw [write_locks hw', write_locks hw]

theorem transfer_fundsUnavailable_lt (h : s.transfer a b v er = .error .fundsUnavailable) :
    (s.account a).free < v := by
  unfold transfer at h
  split_ifs at h with _ hlow
  · exact hlow
  all_goals
    first
    | exact absurd (Except.error.inj h) (by decide)
    | cases orOverflow_eq_error h

theorem transfer_notExpendable_lt (h : s.transfer a b v er = .error .notExpendable) :
    er = .keepAlive ∧ (s.account a).free < v + ed := by
  unfold transfer at h
  split_ifs at h with _ _ _ _ hlow
  all_goals
    first
    | exact ⟨hlow.2, hlow.1⟩
    | exact absurd (Except.error.inj h) (by decide)
    | cases orOverflow_eq_error h

theorem alive_iff : Alive s a ↔ s.account a ≠ .empty := by
  change 0 < (s.account a).free ∨ 0 < (s.account a).reserved ↔ _
  rw [Ne, AccountData.ext_iff]
  simp only [AccountData.empty]
  omega

/-- A record that exists is not dust. -/
theorem account_not_dust (h : Alive s a) : ¬ (s.account a).IsDust ed := by
  rw [alive_iff] at h
  unfold account StorageMap.getD at h ⊢
  -- an account without a record is not alive
  cases hg : s.accounts.get a with
  | some d => exact s.not_dust a d hg
  | none => simp [hg] at h

/-- What an account that can be credited is credited with is kept. -/
theorem credited_not_dust (h : Alive s a ∨ ed ≤ v) :
    ¬ ((s.account a).withFree ((s.account a).free + v)).IsDust ed := by
  rintro ⟨hlow, hres⟩
  simp only [AccountData.withFree_free, AccountData.withFree_reserved] at hlow hres
  rcases h with halive | hv
  · exact account_not_dust halive ⟨by omega, hres⟩
  · omega

theorem write_credited (h : Alive s a ∨ ed ≤ v)
    (hw : s.write a ((s.account a).withFree ((s.account a).free + v)) = some s') :
    Credited s s' a v := by
  have ha := write_account_self hw
  have hi := write_issuance hw
  rw [kept_of_not (credited_not_dust h)] at ha hi
  refine ⟨congrArg AccountData.free ha, fun c hc => ?_, fun c => ?_, ?_⟩
  · exact congrArg AccountData.free (write_account_of_ne hw hc)
  · exact write_withFree_reserved hw c
  · change s'.issuance = s.issuance + v
    unfold AccountData.balance at hi
    simp only [AccountData.withFree_free, AccountData.withFree_reserved] at hi
    omega

/-- A creation either does nothing or is a credit. -/
theorem depositCreating_cases (s : Balances AccountId ed) (a : AccountId) (v : ℕ) :
    s.depositCreating a v = s ∨
      (Credited s (s.depositCreating a v) a v ∧ (s.depositCreating a v).locks = s.locks) := by
  unfold depositCreating
  split_ifs with hnoop
  · exact Or.inl rfl
  -- the account exists or is created with the existential deposit
  · have hreceives : Alive s a ∨ ed ≤ v := by
      rw [alive_iff]
      obtain ⟨_, hn⟩ := not_or.mp hnoop
      exact (Decidable.not_and_iff_not_or_not.mp hn).imp_right Nat.not_lt.mp
    cases hw : s.write a ((s.account a).withFree ((s.account a).free + v)) with
    | none => exact Or.inl rfl
    | some s' => exact Or.inr ⟨write_credited hreceives hw, write_locks hw⟩

theorem depositCreating_credited (h : Creatable s a v) :
    Credited s (s.depositCreating a v) a v := by
  obtain ⟨hreceives, hrange⟩ := h
  by_cases hv : v = 0
  · have hs : s.depositCreating a v = s := if_pos (Or.inl hv)
    rw [hs, hv]
    exact ⟨rfl, fun _ _ => rfl, fun _ => rfl, rfl⟩
  have hnoop : ¬ (v = 0 ∨ (s.account a = .empty ∧ v < ed)) := by
    rintro (h0 | ⟨he, hlow⟩)
    · exact hv h0
    · exact hreceives.elim (fun ha => alive_iff.mp ha he) (Nat.not_le.mpr hlow)
  -- the amount fits into the range, so the write goes through
  have hfits : (kept ed ((s.account a).withFree ((s.account a).free + v))).balance +
      s.issuance ≤ (s.account a).balance + u128Max := by
    rw [kept_of_not (credited_not_dust hreceives)]
    change s.issuance + v ≤ u128Max at hrange
    unfold AccountData.balance
    simp only [AccountData.withFree_free, AccountData.withFree_reserved]
    omega
  obtain ⟨s', hw⟩ := write_isSome hfits
  have hs : s.depositCreating a v = s' := by
    unfold depositCreating
    rw [if_neg hnoop, hw, Option.getD_some]
  rw [hs]
  exact write_credited hreceives hw

theorem depositCreating_dust (h : ¬ Alive s a) (hv : v < ed) : s.depositCreating a v = s := by
  rw [alive_iff, not_not] at h
  exact if_pos (Or.inr ⟨h, hv⟩)

/-- What a destruction that keeps its account alive went through. -/
theorem withdraw_eq_ok (hv : v ≠ 0) (h : s.withdraw a v er = .ok s') :
    v ≤ (s.account a).free ∧
      (er = .keepAlive → v + ed ≤ (s.account a).free ∨ 0 < (s.account a).reserved) ∧
      s.write a ((s.account a).withFree ((s.account a).free - v)) = some s' := by
  unfold withdraw at h
  rw [if_neg hv] at h
  split_ifs at h with hfunds hexp
  refine ⟨by omega, fun hk => ?_, orOverflow_eq_ok.mp h⟩
  by_contra hn
  exact hexp ⟨hk, by omega, by omega⟩

/-- Nor does it take what is frozen. -/
theorem withdraw_frozen (hv : v ≠ 0) (h : s.withdraw a v er = .ok s') :
    v + s.frozen a ≤ (s.account a).free := by
  unfold withdraw at h
  rw [if_neg hv] at h
  split_ifs at h with hfunds hexp hfrozen
  exact Nat.not_lt.mp hfrozen

theorem withdraw_debited (h : s.withdraw a v .keepAlive = .ok s') : Debited s s' a v := by
  by_cases hv : v = 0
  · unfold withdraw at h
    rw [if_pos hv, Except.ok.injEq] at h
    rw [← h, hv]
    exact ⟨rfl, fun _ _ => rfl, fun _ => rfl, rfl⟩
  obtain ⟨hfunds, halive, hw⟩ := withdraw_eq_ok hv h
  -- kept alive, the account does not become dust
  have hkept : ¬ ((s.account a).withFree ((s.account a).free - v)).IsDust ed := by
    rintro ⟨hlow, hres⟩
    simp only [AccountData.withFree_free, AccountData.withFree_reserved] at hlow hres
    have := halive rfl
    omega
  have ha := write_account_self hw
  have hi := write_issuance hw
  rw [kept_of_not hkept] at ha hi
  have hafree := congrArg AccountData.free ha
  refine ⟨?_, fun c hc => ?_, fun c => ?_, ?_⟩
  · change (s'.account a).free + v = (s.account a).free
    rw [AccountData.withFree_free] at hafree
    omega
  · exact congrArg AccountData.free (write_account_of_ne hw hc)
  · exact write_withFree_reserved hw c
  · change s'.issuance + v = s.issuance
    unfold AccountData.balance at hi
    simp only [AccountData.withFree_free, AccountData.withFree_reserved] at hi
    omega

theorem withdraw_locks (h : s.withdraw a v er = .ok s') : s'.locks = s.locks := by
  by_cases hv : v = 0
  · unfold withdraw at h
    rw [if_pos hv] at h
    rw [← Except.ok.inj h]
  · exact write_locks (withdraw_eq_ok hv h).2.2

/-- What is neither locked nor the existential deposit can be destroyed. -/
theorem withdraw_isOk (hkeep : v + ed ≤ (s.account a).free)
    (hfrozen : v + s.frozen a ≤ (s.account a).free) : ∃ s', s.withdraw a v er = .ok s' := by
  unfold withdraw
  split_ifs with hv hfunds hdeath
  · exact ⟨s, rfl⟩
  · omega
  · omega
  · omega
  -- the record shrinks, so the total stays in range
  · have hrange := s.issuance_le
    have hle : (kept ed ((s.account a).withFree ((s.account a).free - v))).balance ≤
        (s.account a).balance := by
      unfold kept
      split
      · exact Nat.zero_le _
      · exact Nat.add_le_add_right (Nat.sub_le _ _) _
    obtain ⟨s', hs'⟩ := write_isSome (Nat.add_le_add hle hrange)
    exact ⟨s', orOverflow_eq_ok.mpr hs'⟩

/-- What a reservation went through. -/
theorem reserve_eq_ok (hv : v ≠ 0) (h : s.reserve a v = .ok s') :
    v + ed ≤ (s.account a).free ∧
      s.write a ⟨(s.account a).free - v, (s.account a).reserved + v⟩ = some s' := by
  unfold reserve at h
  rw [if_neg hv] at h
  split_ifs at h with _ hfunds
  exact ⟨by omega, orOverflow_eq_ok.mp h⟩

theorem reserve_reserved (h : s.reserve a v = .ok s') : Reserved s s' a v := by
  by_cases hv : v = 0
  · unfold reserve at h
    rw [if_pos hv, Except.ok.injEq] at h
    rw [← h, hv]
    exact ⟨rfl, fun _ _ => rfl, rfl, fun _ _ => rfl, rfl⟩
  obtain ⟨hfunds, hw⟩ := reserve_eq_ok hv h
  -- what is reserved keeps the account from being dust
  have hkept : ¬ AccountData.IsDust ed
      ⟨(s.account a).free - v, (s.account a).reserved + v⟩ := by
    rintro ⟨-, hres⟩
    simp only at hres
    omega
  have ha := write_account_self hw
  have hi := write_issuance hw
  rw [kept_of_not hkept] at ha hi
  have hafree := congrArg AccountData.free ha
  refine ⟨?_, fun c hc => ?_, congrArg AccountData.reserved ha, fun c hc => ?_, ?_⟩
  · change (s'.account a).free + v = (s.account a).free
    simp only at hafree
    omega
  · exact congrArg AccountData.free (write_account_of_ne hw hc)
  · exact congrArg AccountData.reserved (write_account_of_ne hw hc)
  · change s'.issuance = s.issuance
    unfold AccountData.balance at hi
    simp only at hi
    omega

/-- What is neither locked nor the existential deposit can be reserved. -/
theorem reserve_isOk (hfrozen : s.frozen a = 0) (hfunds : v + ed ≤ (s.account a).free) :
    ∃ s', s.reserve a v = .ok s' := by
  unfold reserve
  split_ifs with hv hlow hprovider hlocked
  · exact ⟨s, rfl⟩
  · omega
  · omega
  · omega
  -- the record has the balance it had
  · have hrange := s.issuance_le
    have hkept : ¬ AccountData.IsDust ed
        ⟨(s.account a).free - v, (s.account a).reserved + v⟩ := by
      rintro ⟨-, hreserved⟩
      simp only at hreserved
      omega
    have hbalance : (kept ed ⟨(s.account a).free - v, (s.account a).reserved + v⟩).balance =
        (s.account a).balance := by
      rw [kept_of_not hkept]
      simp only [AccountData.balance]
      omega
    obtain ⟨s', hs'⟩ := write_isSome (Nat.add_le_add hbalance.le hrange)
    exact ⟨s', orOverflow_eq_ok.mpr hs'⟩

theorem reserve_locks (h : s.reserve a v = .ok s') : s'.locks = s.locks := by
  by_cases hv : v = 0
  · unfold reserve at h
    rw [if_pos hv] at h
    rw [← Except.ok.inj h]
  · exact write_locks (reserve_eq_ok hv h).2

end Laws

section Instances

instance : Currency AccountId (Balances AccountId ed) where
  transfer := transfer
  depositCreating := depositCreating
  withdraw := withdraw
  transfer_noop _ _ _ _ _ h := if_pos h
  transfer_ok _ _ _ _ _ _ := transfer_transferred
  transfer_keepAlive _ _ _ _ _ := transfer_keepAlive_le
  transfer_fundsUnavailable _ _ _ _ _ := transfer_fundsUnavailable_lt
  transfer_notExpendable _ _ _ _ _ := transfer_notExpendable_lt
  depositCreating_zero _ _ := if_pos (Or.inl rfl)
  depositCreating_credited _ _ _ := depositCreating_credited
  depositCreating_dust _ _ _ := depositCreating_dust
  depositCreating_le s a v := by
    rcases depositCreating_cases s a v with h | ⟨h, -⟩
    · rw [h]
      exact Nat.le_add_right _ _
    · exact Nat.le_of_eq h.issuance
  depositCreating_ge s a v c := by
    rcases depositCreating_cases s a v with h | ⟨h, -⟩
    · rw [h]
    · by_cases hc : c = a
      · rw [hc, h.free]
        exact Nat.le_add_right _ _
      · rw [h.others c hc]
  depositCreating_reserved s a v c := by
    rcases depositCreating_cases s a v with h | ⟨h, -⟩
    · rw [h]
    · exact h.reserved c
  withdraw_keepAlive _ _ _ _ := withdraw_debited

section Unlocked

variable {s : Balances AccountId ed} {a b : AccountId} {v : ℕ}

/-- What is frozen is the greatest lock. -/
theorem frozen_le_iff {n : ℕ} : s.frozen a ≤ n ↔ ∀ id, Ledger.lockAmount s id a ≤ n := by
  unfold frozen
  rw [Finset.fold_max_le]
  constructor
  · rintro ⟨-, h⟩ id
    change s.locks.getD (id, a) 0 ≤ n
    unfold StorageMap.getD at h ⊢
    -- an identifier without a lock locks nothing
    cases hget : s.locks.get (id, a) with
    | none => exact Nat.zero_le n
    | some v =>
      have hmem : (id, a) ∈ s.locks.keys := StorageMap.mem_keys.mpr ⟨v, hget⟩
      have hle := h (id, a) (Finset.mem_filter.mpr ⟨hmem, rfl⟩)
      rwa [hget] at hle
  · intro h
    refine ⟨Nat.zero_le n, fun p hp => ?_⟩
    obtain ⟨id, c⟩ := p
    obtain rfl : c = a := (Finset.mem_filter.mp hp).2
    exact h id

/-- Without locks nothing is frozen. -/
theorem frozen_eq_zero (h : ∀ id, Ledger.lockAmount s id a = 0) : s.frozen a = 0 :=
  Nat.le_zero.mp (frozen_le_iff.mpr fun id => (h id).le)

/-- What an account has can be written over to another, if that has the existential deposit then. -/
theorem writes_isSome (hab : a ≠ b) (hfunds : v ≤ (s.account a).free)
    (hdest : ed ≤ (s.account b).free + v) :
    ∃ s', ((s.write a ((s.account a).withFree ((s.account a).free - v))).bind fun s₁ =>
      s₁.write b ((s₁.account b).withFree ((s₁.account b).free + v))) = some s' := by
  have hissuance := s.issuance_le
  change s.issuance ≤ u128Max at hissuance
  have hkept : (kept ed ((s.account a).withFree ((s.account a).free - v))).balance + v ≤
      (s.account a).balance := by
    have hfree : (kept ed ((s.account a).withFree ((s.account a).free - v))).free ≤
        ((s.account a).withFree ((s.account a).free - v)).free := kept_free_le _
    have hreserved := kept_reserved ed ((s.account a).withFree ((s.account a).free - v))
    simp only [AccountData.withFree_free, AccountData.withFree_reserved] at hfree hreserved
    unfold AccountData.balance
    omega
  -- the debit makes room for the credit
  obtain ⟨s₁, hw⟩ := write_isSome (s := s) (a := a)
    (d := (s.account a).withFree ((s.account a).free - v)) (by omega)
  have hi := write_issuance hw
  have hlow : ¬ ((s₁.account b).withFree ((s₁.account b).free + v)).IsDust ed := by
    rintro ⟨hlow, -⟩
    rw [AccountData.withFree_free, write_account_of_ne hw (Ne.symm hab)] at hlow
    omega
  obtain ⟨s₂, hw'⟩ := write_isSome (s := s₁) (a := b)
    (d := (s₁.account b).withFree ((s₁.account b).free + v)) (by
      rw [kept_of_not hlow]
      simp only [AccountData.balance, AccountData.withFree_free, AccountData.withFree_reserved]
        at hi hkept ⊢
      omega)
  exact ⟨s₂, by rw [hw, Option.bind_some, hw']⟩

theorem transfer_isOk (hfrozen : s.frozen a = 0) (hfunds : v + ed ≤ (s.account a).free)
    (hdest : ed ≤ (s.account b).free + v) : ∃ s', s.transfer a b v .keepAlive = .ok s' := by
  unfold transfer
  by_cases hnoop : v = 0 ∨ a = b
  · exact ⟨s, if_pos hnoop⟩
  obtain ⟨hv, hab⟩ := not_or.mp hnoop
  -- no refusal applies
  rw [if_neg hnoop, hfrozen, if_neg (by omega), if_neg (by omega), if_neg (by omega),
    if_neg (by omega), if_neg (by omega)]
  obtain ⟨s', hs'⟩ := writes_isSome hab (by omega) hdest
  exact ⟨s', by rw [hs']; rfl⟩

/-- What an account pays to another it can pay to any. -/
theorem transfer_redirected {c : AccountId} {er : ExistenceRequirement}
    {s' : Balances AccountId ed} (hv : v ≠ 0) (hab : a ≠ b) (hac : a ≠ c)
    (h : s.transfer a b v er = .ok s') (hdest : ed ≤ (s.account c).free + v) :
    ∃ s'', s.transfer a c v er = .ok s'' := by
  unfold transfer at h ⊢
  rw [if_neg (not_or.mpr ⟨hv, hab⟩)] at h
  rw [if_neg (not_or.mpr ⟨hv, hac⟩)]
  -- the refusals before the last are about the source
  split_ifs at h ⊢ with hfunds hfrozen hprovider hkeep
  · omega
  · obtain ⟨s'', hs''⟩ := writes_isSome hac (Nat.not_lt.mp hfunds) hdest
    exact ⟨s'', by rw [hs'']; rfl⟩

end Unlocked

instance : UnlockedTransfers AccountId (Balances AccountId ed) where
  transfer_unlocked _ _ _ _ hlock := transfer_isOk (frozen_eq_zero hlock)

instance : ImpartialTransfers AccountId (Balances AccountId ed) where
  transfer_redirect _ _ _ _ _ _ _ := transfer_redirected

instance : ReservableCurrency AccountId (Balances AccountId ed) where
  reserve := reserve
  reserve_ok _ _ _ _ := reserve_reserved

instance : LockableCurrency AccountId (Balances AccountId ed) where
  setLock := setLock
  removeLock := removeLock
  setLock_zero _ _ _ := if_pos rfl
  setLock_self s id a v hv := by
    change (s.setLock id a v).locks.getD (id, a) 0 = v
    unfold setLock
    rw [if_neg hv]
    exact StorageMap.getD_insert_self
  setLock_others s id a v c hc := by
    change (s.setLock id a v).locks.getD (id, c) 0 = s.locks.getD (id, c) 0
    have hkey : (id, c) ≠ (id, a) := fun h => hc (Prod.mk.inj h).2
    unfold setLock
    split
    · unfold removeLock StorageMap.getD
      rw [StorageMap.get_remove_of_ne hkey]
    · exact StorageMap.getD_insert.trans (if_neg hkey)
  setLock_free s id a v c := by
    change ((s.setLock id a v).account c).free = (s.account c).free
    unfold setLock
    split <;> rfl
  setLock_reserved s id a v c := by
    change ((s.setLock id a v).account c).reserved = (s.account c).reserved
    unfold setLock
    split <;> rfl
  removeLock_self s id a := by
    change (s.locks.remove (id, a)).getD (id, a) 0 = 0
    simp [StorageMap.getD]
  removeLock_others s id a c hc := by
    change (s.locks.remove (id, a)).getD (id, c) 0 = s.locks.getD (id, c) 0
    unfold StorageMap.getD
    rw [StorageMap.get_remove_of_ne fun h => hc (Prod.mk.inj h).2]
  removeLock_free _ _ _ _ := rfl
  removeLock_reserved _ _ _ _ := rfl
  transfer_lock _ _ _ _ _ _ h id c := congrArg (fun m => m.getD (id, c) 0) (transfer_locks h)
  depositCreating_lock s a v id c := by
    rcases depositCreating_cases s a v with h | ⟨-, h⟩
    · exact congrArg (fun m => m.getD (id, c) 0) (congrArg locks h)
    · exact congrArg (fun m => m.getD (id, c) 0) h
  withdraw_lock _ _ _ _ _ h id c := congrArg (fun m => m.getD (id, c) 0) (withdraw_locks h)

end Instances

/-- The ledger with given free balances, later entries for one account replacing earlier ones;
an entry that does not fit is left out. -/
def ofFree (balances : List (AccountId × ℕ)) : Balances AccountId ed :=
  balances.foldl (fun s p => (s.write p.1 ⟨p.2, 0⟩).getD s) default

theorem account_default (a : AccountId) : (default : Balances AccountId ed).account a = .empty := by
  show StorageMap.getD ∅ a _ = _
  exact StorageMap.getD_empty a _

/-- Writing an account leaves a bound on a free balance that the new data meets. -/
theorem write_getD_free_le {s : Balances AccountId ed} {a c : AccountId} {d : AccountData} {m : ℕ}
    (hs : (s.account c).free ≤ m) (hd : a = c → d.free ≤ m) :
    (((s.write a d).getD s).account c).free ≤ m := by
  cases hw : s.write a d with
  | none => exact hs
  | some s' =>
    show (s'.account c).free ≤ m
    by_cases hc : c = a
    · rw [hc, write_account_self hw]
      exact (kept_free_le d).trans (hd hc.symm)
    · rw [write_account_of_ne hw hc]
      exact hs

/-- An account of a ledger with given free balances holds no more than its entries say. -/
theorem ofFree_free_le {balances : List (AccountId × ℕ)} {a : AccountId} {m : ℕ}
    (h : ∀ p ∈ balances, p.1 = a → p.2 ≤ m) :
    ((ofFree balances : Balances AccountId ed).account a).free ≤ m := by
  -- the bound holds from any ledger that meets it, which the induction is on
  suffices hfold : ∀ s : Balances AccountId ed, (s.account a).free ≤ m →
      ((balances.foldl (fun s p => (s.write p.1 ⟨p.2, 0⟩).getD s) s).account a).free ≤ m by
    apply hfold
    rw [account_default]
    exact Nat.zero_le m
  induction balances with
  | nil => exact fun _ hs => hs
  | cons p balances ih =>
    intro s hs
    refine ih (fun q hq => h q (List.mem_cons_of_mem _ hq)) _ ?_
    exact write_getD_free_le hs fun hp => h p List.mem_cons_self hp

/-- Entries for other accounts leave an account as the last entry for it has made it. -/
theorem ofFree_account {before after : List (AccountId × ℕ)} {a : AccountId} {v : ℕ}
    (h : ∀ p ∈ after, p.1 ≠ a) :
    (ofFree (before ++ (a, v) :: after) : Balances AccountId ed).account a =
      (((ofFree before : Balances AccountId ed).write a ⟨v, 0⟩).getD (ofFree before)).account a := by
  suffices hfold : ∀ s : Balances AccountId ed,
      (after.foldl (fun s p => (s.write p.1 ⟨p.2, 0⟩).getD s) s).account a = s.account a by
    unfold ofFree
    rw [List.foldl_append, List.foldl_cons]
    exact hfold _
  induction after with
  | nil => exact fun _ => rfl
  | cons p after ih =>
    intro s
    refine (ih (fun q hq => h q (List.mem_cons_of_mem p hq)) _).trans ?_
    change ((s.write p.1 ⟨p.2, 0⟩).getD s).account a = s.account a
    cases hw : s.write p.1 ⟨p.2, 0⟩ with
    | none => rfl
    | some s' => exact write_account_of_ne hw (h p List.mem_cons_self).symm

/-- What a ledger with given free balances issues is bounded by its entries. -/
theorem ofFree_issuance_le (balances : List (AccountId × ℕ)) :
    (ofFree balances : Balances AccountId ed).issuance ≤ (balances.map Prod.snd).sum := by
  -- the entries add to any ledger, which the induction is on
  suffices hfold : ∀ s : Balances AccountId ed,
      (balances.foldl (fun s p => (s.write p.1 ⟨p.2, 0⟩).getD s) s).issuance ≤
        s.issuance + (balances.map Prod.snd).sum from
    (hfold default).trans_eq (Nat.zero_add _)
  induction balances with
  | nil => exact fun s => Nat.le_refl _
  | cons p balances ih =>
    intro s
    have hentry : ((s.write p.1 ⟨p.2, 0⟩).getD s).issuance ≤ s.issuance + p.2 := by
      cases hw : s.write p.1 ⟨p.2, 0⟩ with
      | none => exact Nat.le_add_right _ _
      | some s' =>
        have hissued := write_issuance hw
        have hkept : (kept ed ⟨p.2, 0⟩).balance ≤ p.2 := kept_balance_le ⟨p.2, 0⟩
        show s'.issuance ≤ s.issuance + p.2
        omega
    calc (balances.foldl _ ((s.write p.1 ⟨p.2, 0⟩).getD s)).issuance
        ≤ ((s.write p.1 ⟨p.2, 0⟩).getD s).issuance + (balances.map Prod.snd).sum := ih _
      _ ≤ s.issuance + ((p :: balances).map Prod.snd).sum := by
        rw [List.map_cons, List.sum_cons]
        omega

/-- The last entry for an account is what the account has, if the entries so far fit. -/
theorem ofFree_last {before after : List (AccountId × ℕ)} {a : AccountId} {v : ℕ}
    (hed : ed ≤ v) (hfits : (before.map Prod.snd).sum + v ≤ u128Max)
    (h : ∀ p ∈ after, p.1 ≠ a) :
    (ofFree (before ++ (a, v) :: after) : Balances AccountId ed).account a = ⟨v, 0⟩ := by
  have hkept : ¬ (⟨v, 0⟩ : AccountData).IsDust ed := fun hdust => Nat.not_lt.mpr hed hdust.1
  have hissued : (ofFree before : Balances AccountId ed).issuance ≤ (before.map Prod.snd).sum :=
    ofFree_issuance_le before
  rw [ofFree_account h]
  obtain ⟨s', hw⟩ : ∃ s', (ofFree before : Balances AccountId ed).write a ⟨v, 0⟩ = some s' := by
    refine write_isSome ?_
    rw [kept_of_not hkept]
    show v + 0 + _ ≤ _
    omega
  rw [hw]
  exact (write_account_self hw).trans (kept_of_not hkept)

/-- A ledger with given free balances has no locks. -/
theorem ofFree_locks (balances : List (AccountId × ℕ)) :
    (ofFree balances : Balances AccountId ed).locks = ∅ := by
  suffices hfold : ∀ s : Balances AccountId ed,
      (balances.foldl (fun s p => (s.write p.1 ⟨p.2, 0⟩).getD s) s).locks = s.locks from
    hfold default
  induction balances with
  | nil => exact fun _ => rfl
  | cons p balances ih =>
    intro s
    refine (ih _).trans ?_
    change ((s.write p.1 ⟨p.2, 0⟩).getD s).locks = s.locks
    cases hw : s.write p.1 ⟨p.2, 0⟩ with
    | none => rfl
    | some s' => exact write_locks hw

theorem ofFree_lockAmount (balances : List (AccountId × ℕ)) (id : LockIdentifier)
    (a : AccountId) : Ledger.lockAmount (ofFree balances : Balances AccountId ed) id a = 0 := by
  change (ofFree balances : Balances AccountId ed).locks.getD (id, a) 0 = 0
  rw [ofFree_locks]
  exact StorageMap.getD_empty _ _

end Balances
