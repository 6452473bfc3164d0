import Altan.Foundation.StorageMap

/-!
# Books of debts within a limit

A lender with a fixed capacity keeps a book of debts, each owed by a borrower under a tag. What
is not lent out is available; a repayment makes its amount available again. A book never lends
more than its capacity.

## Main definitions

* `CreditBook κ ι limit`: the debts of borrowers `κ` under tags `ι`, at most `limit` in total
* `CreditBook.borrow`, `CreditBook.repay`: the operations, refused when they do not fit

## Main results

* `available_add_outstanding`: what is available and what is lent make up the capacity
* `borrow_eq_some`, `repay_eq_some`: when an operation succeeds, and the debts after it
* `Same.of_borrow_repay`: a loan that is repaid at once
-/

/-- Debts of borrowers `κ` under tags `ι`, at most `limit` in total. -/
structure CreditBook (κ ι : Type) [DecidableEq κ] [DecidableEq ι] (limit : ℕ) where
  debts : StorageMap (κ × ι) ℕ
  total_le : debts.total ≤ limit

namespace CreditBook

variable {κ ι : Type} [DecidableEq κ] [DecidableEq ι] {limit : ℕ}

/-- The book without debts. -/
def empty : CreditBook κ ι limit := ⟨∅, Nat.zero_le limit⟩

/-- What a borrower owes under a tag. -/
def debt (b : CreditBook κ ι limit) (k : κ) (i : ι) : ℕ := b.debts.getD (k, i) 0

/-- What a borrower owes under all tags. -/
def debtOf (b : CreditBook κ ι limit) (k : κ) : ℕ := b.debts.rowTotal k

/-- What all borrowers owe. -/
def outstanding (b : CreditBook κ ι limit) : ℕ := b.debts.total

/-- What can still be lent. -/
def available (b : CreditBook κ ι limit) : ℕ := limit - b.outstanding

/-- What is available and what is lent make up the capacity. -/
theorem available_add_outstanding (b : CreditBook κ ι limit) :
    b.available + b.outstanding = limit :=
  Nat.sub_add_cancel b.total_le

theorem debt_le_debtOf (b : CreditBook κ ι limit) (k : κ) (i : ι) : b.debt k i ≤ b.debtOf k :=
  StorageMap.getD_le_rowTotal k i

theorem debt_le_outstanding (b : CreditBook κ ι limit) (k : κ) (i : ι) :
    b.debt k i ≤ b.outstanding :=
  StorageMap.getD_le_total (k, i)

/-- What one borrower owes is part of what all owe. -/
theorem debtOf_le_outstanding (b : CreditBook κ ι limit) (k : κ) :
    b.debtOf k ≤ b.outstanding := by
  unfold debtOf outstanding
  rw [StorageMap.rowTotal_eq_sum, StorageMap.total_eq_sum]
  refine Finset.sum_le_sum fun p _ => ?_
  split
  · exact Nat.le_refl _
  · exact Nat.zero_le _

/-- Lend `v` to a borrower under a tag. -/
def borrow (b : CreditBook κ ι limit) (k : κ) (i : ι) (v : ℕ) : Option (CreditBook κ ι limit) :=
  if h : (b.debts.insert (k, i) (b.debt k i + v)).total ≤ limit then
    some ⟨b.debts.insert (k, i) (b.debt k i + v), h⟩
  else none

/-- Take back `v` of a debt. -/
def repay (b : CreditBook κ ι limit) (k : κ) (i : ι) (v : ℕ) : Option (CreditBook κ ι limit) :=
  if h : v ≤ b.debt k i ∧ (b.debts.insert (k, i) (b.debt k i - v)).total ≤ limit then
    some ⟨b.debts.insert (k, i) (b.debt k i - v), h.2⟩
  else none

variable {b b' : CreditBook κ ι limit} {k k' : κ} {i : ι} {v : ℕ}

theorem total_borrow (b : CreditBook κ ι limit) (k : κ) (i : ι) (v : ℕ) :
    (b.debts.insert (k, i) (b.debt k i + v)).total = b.outstanding + v := by
  have h := StorageMap.total_insert (b := b.debts) (k, i) (b.debt k i + v)
  -- replacing one entry changes the total by that entry
  change b.debt k i + _ = b.debt k i + v + b.outstanding at h
  omega

theorem total_repay (h : v ≤ b.debt k i) :
    (b.debts.insert (k, i) (b.debt k i - v)).total + v = b.outstanding := by
  have ht := StorageMap.total_insert (b := b.debts) (k, i) (b.debt k i - v)
  change b.debt k i + _ = b.debt k i - v + b.outstanding at ht
  omega

/-- A loan fits just when its amount is available. -/
theorem borrow_eq_some : b.borrow k i v = some b' ↔
    v ≤ b.available ∧ b'.debts = b.debts.insert (k, i) (b.debt k i + v) := by
  have hle := b.total_le
  unfold borrow
  split
  · next h =>
    rw [total_borrow] at h
    rw [Option.some.injEq]
    constructor
    · rintro rfl
      unfold available
      exact ⟨by omega, rfl⟩
    · rintro ⟨-, hd⟩
      cases b'
      cases hd
      rfl
  · next h =>
    rw [total_borrow] at h
    refine iff_of_false (by simp) fun hb => h ?_
    have := hb.1
    unfold available at this
    unfold outstanding at *
    omega

/-- A repayment succeeds just up to the debt. -/
theorem repay_eq_some : b.repay k i v = some b' ↔
    v ≤ b.debt k i ∧ b'.debts = b.debts.insert (k, i) (b.debt k i - v) := by
  have hle := b.total_le
  unfold repay
  split
  · next h =>
    rw [Option.some.injEq]
    constructor
    · rintro rfl
      exact ⟨h.1, rfl⟩
    · rintro ⟨-, hd⟩
      cases b'
      cases hd
      rfl
  · next h =>
    refine iff_of_false (by simp) fun hb => h ⟨hb.1, ?_⟩
    have := total_repay hb.1
    unfold outstanding at this
    omega

theorem exists_borrow (h : v ≤ b.available) (k : κ) (i : ι) :
    ∃ b', b.borrow k i v = some b' := by
  have hle : (b.debts.insert (k, i) (b.debt k i + v)).total ≤ limit := by
    have := total_borrow b k i v
    have := b.available_add_outstanding
    omega
  exact ⟨_, dif_pos hle⟩

theorem exists_repay (h : v ≤ b.debt k i) : ∃ b', b.repay k i v = some b' := by
  have hle : (b.debts.insert (k, i) (b.debt k i - v)).total ≤ limit := by
    have := total_repay h
    have := b.total_le
    unfold outstanding at *
    omega
  exact ⟨_, dif_pos ⟨h, hle⟩⟩

theorem outstanding_borrow (h : b.borrow k i v = some b') :
    b'.outstanding = b.outstanding + v := by
  unfold outstanding
  rw [(borrow_eq_some.mp h).2]
  exact total_borrow b k i v

theorem outstanding_repay (h : b.repay k i v = some b') :
    b'.outstanding + v = b.outstanding := by
  obtain ⟨hv, hd⟩ := repay_eq_some.mp h
  unfold outstanding
  rw [hd]
  exact total_repay hv

theorem debtOf_borrow (h : b.borrow k i v = some b') :
    b'.debtOf k' = if k = k' then b.debtOf k' + v else b.debtOf k' := by
  unfold debtOf
  rw [(borrow_eq_some.mp h).2]
  -- only the row of the borrower changes
  split
  · next e =>
    have hr := StorageMap.rowTotal_insert (b := b.debts) k i (b.debt k i + v)
    change b.debt k i + _ = _ at hr
    rw [← e]
    omega
  · next e => exact StorageMap.rowTotal_insert_of_ne e i _

theorem debtOf_repay (h : b.repay k i v = some b') :
    b'.debtOf k' = if k = k' then b.debtOf k' - v else b.debtOf k' := by
  obtain ⟨hv, hd⟩ := repay_eq_some.mp h
  unfold debtOf
  rw [hd]
  -- only the row of the borrower changes
  split
  · next e =>
    have hr := StorageMap.rowTotal_insert (b := b.debts) k i (b.debt k i - v)
    have hle := b.debt_le_debtOf k i
    change b.debt k i + _ = _ at hr
    unfold debtOf at hle
    rw [← e]
    omega
  · next e => exact StorageMap.rowTotal_insert_of_ne e i _

/-! ### A loan that is repaid at once -/

/-- The same is owed by everybody. A debt of zero need not be kept. -/
structure Same (b b' : CreditBook κ ι limit) : Prop where
  debt : ∀ k i, b'.debt k i = b.debt k i
  debtOf : ∀ k, b'.debtOf k = b.debtOf k
  outstanding : b'.outstanding = b.outstanding

theorem debt_borrow (h : b.borrow k i v = some b') : b'.debt k i = b.debt k i + v := by
  unfold debt
  rw [(borrow_eq_some.mp h).2, StorageMap.getD_insert_self]
  rfl

/-- **A loan that is repaid at once** leaves everybody with what was owed before. -/
theorem Same.of_borrow_repay {b'' : CreditBook κ ι limit} (h : b.borrow k i v = some b')
    (h' : b'.repay k i v = some b'') : Same b b'' where
  debt k' i' := by
    have hdebt := debt_borrow h
    unfold CreditBook.debt at hdebt ⊢
    rw [(repay_eq_some.mp h').2, StorageMap.getD_insert]
    split
    · next hk =>
      obtain ⟨rfl, rfl⟩ := Prod.mk.inj hk
      unfold CreditBook.debt
      rw [hdebt, Nat.add_sub_cancel]
    · next hk => rw [(borrow_eq_some.mp h).2, StorageMap.getD_insert, if_neg hk]
  debtOf k' := by
    rw [debtOf_repay h', debtOf_borrow h]
    split
    · exact Nat.add_sub_cancel _ v
    · rfl
  outstanding := by
    have hborrow := outstanding_borrow h
    have hrepay := outstanding_repay h'
    omega

end CreditBook
