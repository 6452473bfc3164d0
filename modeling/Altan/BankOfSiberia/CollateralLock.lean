import Altan.BankOfSiberia.Spec
import Altan.BankOfSiberia.Loans
import Altan.Foundation.TransitionSystem

/-!
# The lock that secures loans

All loans of a borrower share one lock on the borrower's balance. A request replaces its amount
and a repayment or a cancellation removes it, whatever the other loans of the borrower require.
So the lock covers the collateral of every live loan exactly in the runs in which no request of
a smaller collateral, no repayment and no cancellation meets another loan that needs the lock.

## Main definitions

* `Locked`: the lock covers every live loan, and exactly the live loans have a recorded collateral
* `Within`: the collateral that a borrower's other loans need
* `KeepsLocked`: what an extrinsic must meet for the lock to go on covering every loan

## Main results

* `locked_step_iff`: an accepted call keeps the loans locked exactly when it meets `KeepsLocked`
* `locked_throughout_iff`: the loans are locked throughout exactly the runs along `KeepsLocked`
* `second_request_unlocks`: a second request of a smaller collateral loses the lock
-/

open Bounded Dispatch TransitionSystem Runtime

namespace BankOfSiberia

variable {AccountId L : Type} [DecidableEq AccountId]

/-- The other live loans of a borrower need a lock of at most `bound`. -/
def Within (s : State AccountId L) (borrower : AccountId) (loanId bound : ℕ) : Prop :=
  ∀ id loan, id ≠ loanId → s.loanRequests.get id = some loan → loan.Live →
    loan.borrower = borrower → loan.collateral ≤ bound

section Lock

variable [Ledger AccountId L]

/-- The lock of a borrower covers each of the borrower's live loans, and the recorded collateral
is that of the live loans. -/
structure Locked (s : State AccountId L) : Prop where
  covered : ∀ id loan, s.loanRequests.get id = some loan → loan.Live →
    loan.collateral ≤ s.lock loan.borrower
  recorded : ∀ borrower id collateral, s.loanCollateral.get (borrower, id) = some collateral ↔
    ∃ loan, s.loanRequests.get id = some loan ∧ loan.Live ∧ loan.borrower = borrower ∧
      loan.collateral = collateral

/-- What an extrinsic must meet for the lock to go on covering every loan. A request covers the
borrower's other loans, and its identifier is not that of someone else's live loan; a loan is
paid off or cancelled by its own borrower, none of whose other loans needs the lock. -/
def KeepsLocked (s : State AccountId L) (x : Extrinsic AccountId) : Prop :=
  match x.2, x.1.origin with
  | .requestLoan _ collateral, .signed borrower =>
    Within s borrower s.nextLoanId collateral ∧
      ∀ loan, s.loanRequests.get s.nextLoanId = some loan → loan.Live → loan.borrower = borrower
  | .payCredit _ amount, .signed master =>
    ∀ loanId loan, s.activeLoanByBorrower.get master = some loanId →
      s.loanRequests.get loanId = some loan → loan.outstandingBalance ≤ amount →
        loan.borrower = master ∧ Within s master loanId 0
  | .cancelLoanRequest loanId, .signed borrower => Within s borrower loanId 0
  | _, _ => True

variable {s s' : State AccountId L} {borrower master : AccountId}
  {loanId amount collateral submittedAt : ℕ} {loan : LoanRequest AccountId}

theorem Requested.requests_eq (h : Requested s s' borrower amount collateral submittedAt) :
    s'.loanRequests = s.loanRequests.insert s.nextLoanId
      (.requested borrower amount collateral submittedAt) :=
  congrArg LoanBook.requests h.loanBook

theorem Requested.collateral_eq (h : Requested s s' borrower amount collateral submittedAt) :
    s'.loanCollateral = s.loanCollateral.insert (borrower, s.nextLoanId) collateral :=
  congrArg LoanBook.collateral h.loanBook

/-- A new loan covers its own collateral, and the others as far as they are within it. -/
theorem Requested.covered (hs : Locked s)
    (h : Requested s s' borrower amount collateral submittedAt)
    (hwithin : Within s borrower s.nextLoanId collateral) {id : ℕ}
    (hl : s'.loanRequests.get id = some loan) (hlive : loan.Live) :
    loan.collateral ≤ s'.lock loan.borrower := by
  rw [h.requests_eq] at hl
  rw [h.lock]
  -- the new loan is covered by its own lock, the others by the condition
  rcases StorageMap.get_insert_cases hl with ⟨-, rfl⟩ | ⟨hid, hl⟩
  · show collateral ≤ if borrower = borrower then collateral else _
    rw [if_pos rfl]
  · split
    · next hb => exact hwithin id loan hid hl hlive hb
    · exact hs.covered id loan hl hlive

/-- A new loan has its collateral recorded, and that of the loan it may replace is its
borrower's. -/
theorem Requested.recorded (hs : Locked s)
    (h : Requested s s' borrower amount collateral submittedAt)
    (hreused : ∀ loan, s.loanRequests.get s.nextLoanId = some loan → loan.Live →
      loan.borrower = borrower) (b : AccountId) (id c : ℕ) :
    s'.loanCollateral.get (b, id) = some c ↔ ∃ loan, s'.loanRequests.get id = some loan ∧
      loan.Live ∧ loan.borrower = b ∧ loan.collateral = c := by
  rw [h.collateral_eq, h.requests_eq]
  by_cases hid : id = s.nextLoanId
  · rw [hid, StorageMap.get_insert_self]
    constructor
    · intro hc
      rcases StorageMap.get_insert_cases hc with ⟨hk, rfl⟩ | ⟨hk, hc⟩
      · exact ⟨_, rfl, Or.inl rfl, (Prod.mk.inj hk).1.symm, rfl⟩
      · obtain ⟨l, hl, hlive, hb, -⟩ := (hs.recorded _ _ _).mp hc
        -- a loan under the reused identifier was the same borrower's
        refine absurd ?_ hk
        rw [← hb, hreused l hl hlive]
    · rintro ⟨l, hl, -, rfl, rfl⟩
      obtain rfl := Option.some.inj hl
      exact StorageMap.get_insert_self
  · rw [StorageMap.get_insert_of_ne hid,
      StorageMap.get_insert_of_ne fun he => hid (Prod.mk.inj he).2]
    exact hs.recorded b id c

/-- A new loan leaves the loans locked when its lock covers the others and its identifier is not
that of someone else's live loan. -/
theorem Requested.locked_iff (hs : Locked s)
    (h : Requested s s' borrower amount collateral submittedAt) :
    Locked s' ↔ Within s borrower s.nextLoanId collateral ∧
      ∀ loan, s.loanRequests.get s.nextLoanId = some loan → loan.Live →
        loan.borrower = borrower := by
  constructor
  · intro hs'
    constructor
    · intro id loan hid hl hlive hb
      have hl' : s'.loanRequests.get id = some loan := by
        rw [h.requests_eq, StorageMap.get_insert_of_ne hid, hl]
      have hcovered := hs'.covered id loan hl' hlive
      rwa [h.lock, if_pos hb] at hcovered
    · -- the collateral recorded for the old loan is not the new borrower's
      intro loan hl hlive
      by_contra hb
      have hold := (hs.recorded loan.borrower s.nextLoanId loan.collateral).mpr
        ⟨loan, hl, hlive, rfl, rfl⟩
      have hnew : s'.loanCollateral.get (loan.borrower, s.nextLoanId) = some loan.collateral := by
        rw [h.collateral_eq, StorageMap.get_insert_of_ne fun he => hb (Prod.mk.inj he).1, hold]
      obtain ⟨l, hl', -, hb', -⟩ := (hs'.recorded _ _ _).mp hnew
      rw [h.requests_eq, StorageMap.get_insert_self] at hl'
      rw [← Option.some.inj hl'] at hb'
      exact hb hb'.symm
  · rintro ⟨hwithin, hreused⟩
    exact
      { covered := fun _ _ hl hlive => h.covered hs hwithin hl hlive
        recorded := h.recorded hs hreused }

omit [DecidableEq AccountId] in
/-- A closed loan is no longer live. -/
theorem not_live_of_repaid (h : loan.status = .repaid) : ¬ loan.Live := by
  rintro (hp | ha)
  · rw [h] at hp
    cases hp
  · rw [h] at ha
    cases ha

/-- The storage after `loan` is closed with its collateral and the lock of `borrower`. -/
structure Closed (s s' : State AccountId L) (borrower : AccountId) (loanId : ℕ)
    (loan : LoanRequest AccountId) : Prop where
  found : s.loanRequests.get loanId = some loan
  live : loan.Live
  requests : ∃ loan', ¬ loan'.Live ∧ s'.loanRequests = s.loanRequests.insert loanId loan'
  collateral : s'.loanCollateral = s.loanCollateral.remove (borrower, loanId)
  lock : ∀ account, s'.lock account = if account = borrower then 0 else s.lock account

/-- After a loan is closed the lock covers the others, when those of the borrower need none. -/
theorem Closed.covered (hs : Locked s) (h : Closed s s' borrower loanId loan)
    (hwithin : Within s borrower loanId 0) {id : ℕ} {l : LoanRequest AccountId}
    (hl : s'.loanRequests.get id = some l) (hlive : l.Live) :
    l.collateral ≤ s'.lock l.borrower := by
  obtain ⟨loan', hdead, hrequests⟩ := h.requests
  rw [hrequests] at hl
  rcases StorageMap.get_insert_cases hl with ⟨-, rfl⟩ | ⟨hid, hl⟩
  · exact absurd hlive hdead
  · rw [h.lock]
    -- the lock of the borrower is gone, so none of the borrower's loans may need it
    split
    · next hb => exact hwithin id l hid hl hlive hb
    · exact hs.covered id l hl hlive

/-- After a loan is closed its collateral is no longer recorded, when it was its borrower's. -/
theorem Closed.recorded (hs : Locked s) (h : Closed s s' borrower loanId loan)
    (howned : loan.borrower = borrower) (b : AccountId) (id c : ℕ) :
    s'.loanCollateral.get (b, id) = some c ↔ ∃ loan, s'.loanRequests.get id = some loan ∧
      loan.Live ∧ loan.borrower = b ∧ loan.collateral = c := by
  obtain ⟨loan', hdead, hrequests⟩ := h.requests
  rw [h.collateral, hrequests]
  by_cases hid : id = loanId
  · rw [hid, StorageMap.get_insert_self, StorageMap.get_remove]
    constructor
    · intro hc
      split at hc
      · cases hc
      · next hk =>
        -- only the borrower's own collateral was recorded for the loan
        obtain ⟨l, hl, -, hlb, -⟩ := (hs.recorded _ _ _).mp hc
        rw [h.found] at hl
        rw [← Option.some.inj hl, howned] at hlb
        exact absurd (by rw [hlb]) hk
    · rintro ⟨l, hl, hlive, -⟩
      rw [← Option.some.inj hl] at hlive
      exact absurd hlive hdead
  · rw [StorageMap.get_insert_of_ne hid,
      StorageMap.get_remove_of_ne fun he => hid (Prod.mk.inj he).2]
    exact hs.recorded b id c

/-- Closing a live loan leaves the loans locked when the loan is that borrower's and the others of
that borrower need no lock. -/
theorem Closed.locked_iff (hs : Locked s) (h : Closed s s' borrower loanId loan) :
    Locked s' ↔ loan.borrower = borrower ∧ Within s borrower loanId 0 := by
  obtain ⟨loan', hdead, hrequests⟩ := h.requests
  constructor
  · intro hs'
    constructor
    · -- otherwise the collateral of the closed loan stays recorded
      by_contra hb
      have hold := (hs.recorded loan.borrower loanId loan.collateral).mpr
        ⟨loan, h.found, h.live, rfl, rfl⟩
      have hnew : s'.loanCollateral.get (loan.borrower, loanId) = some loan.collateral := by
        rw [h.collateral, StorageMap.get_remove_of_ne fun he => hb (Prod.mk.inj he).1, hold]
      obtain ⟨l, hl, hlive, -⟩ := (hs'.recorded _ _ _).mp hnew
      rw [hrequests, StorageMap.get_insert_self] at hl
      rw [← Option.some.inj hl] at hlive
      exact hdead hlive
    · intro id l hid hl hlive hb
      have hl' : s'.loanRequests.get id = some l := by
        rw [hrequests, StorageMap.get_insert_of_ne hid, hl]
      have hcovered := hs'.covered id l hl' hlive
      rwa [h.lock, if_pos hb] at hcovered
  · rintro ⟨howned, hwithin⟩
    exact
      { covered := fun _ _ hl hlive => h.covered hs hwithin hl hlive
        recorded := h.recorded hs howned }

/-- A later version of a live loan with the same terms leaves the loans locked. -/
theorem locked_of_update {loan' : LoanRequest AccountId} (hs : Locked s)
    (hfound : s.loanRequests.get loanId = some loan) (hlive : loan.Live) (hlive' : loan'.Live)
    (hborrower : loan'.borrower = loan.borrower) (hsame : loan'.collateral = loan.collateral)
    (hrequests : s'.loanRequests = s.loanRequests.insert loanId loan')
    (hcollateral : s'.loanCollateral = s.loanCollateral)
    (hlock : ∀ account, s'.lock account = s.lock account) : Locked s' := by
  constructor
  · intro id l hl hl'
    rw [hrequests] at hl
    rw [hlock]
    rcases StorageMap.get_insert_cases hl with ⟨-, rfl⟩ | ⟨-, hl⟩
    · rw [hborrower, hsame]
      exact hs.covered loanId loan hfound hlive
    · exact hs.covered id l hl hl'
  · intro b id c
    rw [hcollateral, hrequests, hs.recorded b id c]
    by_cases hid : id = loanId
    · rw [hid, StorageMap.get_insert_self, hfound]
      constructor
      · rintro ⟨l, hl, -, hb, hc⟩
        obtain rfl := Option.some.inj hl
        exact ⟨loan', rfl, hlive', hborrower.trans hb, hsame.trans hc⟩
      · rintro ⟨l, hl, -, hb, hc⟩
        obtain rfl := Option.some.inj hl
        exact ⟨loan, rfl, hlive, hborrower.symm.trans hb, hsame.symm.trans hc⟩
    · rw [StorageMap.get_insert_of_ne hid]

/-- What a call does to loans other than a request, a repayment and a cancellation keeps them
locked. -/
theorem Untouched.locked (hs : Locked s) (h : Untouched s s') : Locked s' := by
  have hrequests : s'.loanRequests = s.loanRequests := congrArg LoanBook.requests h.loanBook
  have hcollateral : s'.loanCollateral = s.loanCollateral :=
    congrArg LoanBook.collateral h.loanBook
  constructor
  · intro id loan hl hlive
    rw [hrequests] at hl
    rw [h.lock]
    exact hs.covered id loan hl hlive
  · rw [hcollateral, hrequests]
    exact hs.recorded

theorem Approved.locked (hs : Locked s) (h : Approved s s' loanId loan) : Locked s' := by
  have hlive : ({ loan with status := .active } : LoanRequest AccountId).Live := Or.inr rfl
  exact locked_of_update hs h.found (Or.inl h.pending) hlive rfl rfl
    (congrArg LoanBook.requests h.loanBook) (congrArg LoanBook.collateral h.loanBook) h.lock

theorem Cancelled.locked_iff (hs : Locked s) (h : Cancelled s s' borrower loanId loan) :
    Locked s' ↔ Within s borrower loanId 0 := by
  have hclosed : Closed s s' borrower loanId loan :=
    { found := h.found
      live := Or.inl h.pending
      requests := ⟨_, not_live_of_repaid rfl, congrArg LoanBook.requests h.loanBook⟩
      collateral := congrArg LoanBook.collateral h.loanBook
      lock := h.lock }
  rw [hclosed.locked_iff hs]
  exact and_iff_right h.owned

/-- A payment keeps the loans locked unless it pays off the loan. -/
theorem Paid.locked_iff (hs : Locked s) (h : Paid s s' master loanId loan amount) :
    Locked s' ↔ (loan.outstandingBalance ≤ amount →
      loan.borrower = master ∧ Within s master loanId 0) := by
  have hrequests := congrArg LoanBook.requests h.loanBook
  have hcollateral := congrArg LoanBook.collateral h.loanBook
  obtain ⟨hborrower, -, hsame⟩ := afterPayment_terms loan amount
  rcases afterPayment_cases loan amount with ⟨hz, hstatus⟩ | ⟨hz, hstatus, -⟩
  · -- paid off: the loan is closed
    have hclosed : Closed s s' master loanId loan :=
      { found := h.found
        live := Or.inr h.active
        requests := ⟨_, not_live_of_repaid hstatus, hrequests⟩
        collateral := hcollateral.trans (if_pos hz)
        lock := by
          intro account
          rw [h.lock]
          by_cases ha : account = master
          · rw [if_pos ⟨ha, hz⟩, if_pos ha]
          · rw [if_neg fun hc => ha hc.1, if_neg ha] }
    rw [hclosed.locked_iff hs, forall_prop_of_true (Nat.sub_eq_zero_iff_le.mp hz)]
  · -- paid in part: a later version of the same loan
    refine iff_of_true ?_ fun hle => absurd (Nat.sub_eq_zero_of_le hle) hz
    refine locked_of_update hs h.found (Or.inr h.active) (Or.inr (hstatus.trans h.active))
      hborrower hsame hrequests (hcollateral.trans (if_neg hz)) ?_
    intro account
    rw [h.lock, if_neg fun hc => hz hc.2]

end Lock

section Runs

variable [Currency AccountId L] [LockableCurrency AccountId L] {cfg : Config AccountId}
  {s s' : State AccountId L}

/-- **The exact condition of one call.** -/
theorem locked_step_iff {x : Extrinsic AccountId} (hs : Locked s) (h : step cfg x s = .ok s') :
    Locked s' ↔ KeepsLocked s x := by
  have heffect := step_loans h
  obtain ⟨ctx, call⟩ := x
  cases call with
  | requestLoan amount collateral =>
    obtain ⟨borrower, horigin, hr⟩ := heffect
    rw [hr.locked_iff hs]
    simp only [KeepsLocked]
    rw [horigin]
  | payCredit subAccount amount =>
    obtain ⟨master, horigin, loanId, loan, hp⟩ := heffect
    rw [hp.locked_iff hs]
    simp only [KeepsLocked]
    rw [horigin]
    -- the loan found through the index is the one that is paid
    constructor
    · intro hk id l hid hl hle
      rw [hp.indexed] at hid
      rw [← Option.some.inj hid] at hl ⊢
      rw [hp.found] at hl
      rw [← Option.some.inj hl] at hle ⊢
      exact hk hle
    · intro hk hle
      exact hk loanId loan hp.indexed hp.found hle
  | approveLoan loanId =>
    obtain ⟨loan, ha⟩ := heffect
    exact iff_of_true (ha.locked hs) trivial
  | cancelLoanRequest loanId =>
    obtain ⟨borrower, horigin, loan, hc⟩ := heffect
    rw [hc.locked_iff hs]
    simp only [KeepsLocked]
    rw [horigin]
  | _ => exact iff_of_true (Untouched.locked hs heffect) trivial

omit [Currency AccountId L] in
/-- Before any call there is no loan to secure. -/
theorem genesis_locked [Ledger AccountId L] (c : CentralBank.State AccountId L) :
    Locked (genesis c) where
  covered _ _ h := by cases h
  recorded borrower id collateral := by
    constructor
    · intro h
      cases h
    · rintro ⟨_, h, _⟩
      cases h

/-- **When loans stay secured.** The lock covers every live loan, and the recorded collateral is
that of the live loans, throughout exactly the runs whose accepted requests, repayments and
cancellations leave the borrower's other loans within the lock. -/
theorem locked_throughout_iff (cfg : Config AccountId) (c : CentralBank.State AccountId L)
    (xs : List (Extrinsic AccountId)) :
    Throughout (step cfg) Locked xs (genesis c) ↔
      Along (step cfg) KeepsLocked xs (genesis c) :=
  throughout_iff_along_of_step (fun _ _ _ hs h => locked_step_iff hs h) (genesis_locked c)

end Runs

/-- A citizen asks for a loan against fifty, and for another against ten. -/
def smallerRequest : List (Extrinsic ℕ) :=
  [(citizenContext 7 1, .openMasterAccount),
    (citizenContext 7 1, .requestLoan 500 50),
    (citizenContext 7 2, .requestLoan 500 10)]

/-- The lock falls to the smaller collateral, and no longer covers the first loan. -/
theorem second_request_unlocks :
    ¬ Throughout (step bankOfSiberia) Locked smallerRequest bankGenesis := by
  intro h
  have hcovered := h.last.covered 0 (.requested 7 500 50 1) (by decide +kernel) (Or.inl rfl)
  revert hcovered
  decide +kernel

end BankOfSiberia
