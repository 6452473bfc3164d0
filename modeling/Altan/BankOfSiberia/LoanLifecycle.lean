import Altan.BankOfSiberia.Spec
import Altan.BankOfSiberia.Loans
import Altan.Foundation.TransitionSystem

/-!
# The life of a loan

A loan is requested, approved and repaid, or cancelled while it is pending. The index of active
loans names exactly the active loans, one for each borrower at most; what is outstanding stays
between nothing and the amount; a repaid loan never changes again, and no loan changes its
borrower, amount or collateral. All of this rests on fresh identifiers, so it holds as long as
the counter has not reached the end of its range.

## Main definitions

* `Coherent`: the loan records and the index of active loans agree
* `LoanInvariant`: and no identifier from the counter on is in use
* `Kept s s'`: the records of `s` are still there in `s'`

## Main results

* `invariant_step`: what one call keeps
* `loans_coherent`: what every run with fewer loan requests than identifiers keeps
-/

open Bounded Dispatch TransitionSystem Runtime

namespace BankOfSiberia

variable {AccountId L : Type} [DecidableEq AccountId]

/-- The loan records and the index of active loans agree. -/
structure Coherent (s : State AccountId L) : Prop where
  indexed : ∀ borrower id, s.activeLoanByBorrower.get borrower = some id ↔
    ∃ loan, s.loanRequests.get id = some loan ∧ loan.borrower = borrower ∧ loan.status = .active
  outstanding : ∀ id loan, s.loanRequests.get id = some loan → loan.Live →
    0 < loan.outstandingBalance ∧ loan.outstandingBalance ≤ loan.amount
  pending : ∀ id loan, s.loanRequests.get id = some loan → loan.status = .pending →
    loan.outstandingBalance = loan.amount

/-- The loans are coherent, and no identifier from the counter on is in use. -/
structure LoanInvariant (s : State AccountId L) : Prop extends Coherent s where
  fresh : ∀ id, s.nextLoanId ≤ id → s.loanRequests.get id = none

omit [DecidableEq AccountId] in
/-- Every record is still there with its borrower, amount and collateral, and unchanged if it
was repaid. -/
def Kept (s s' : State AccountId L) : Prop :=
  ∀ id loan, s.loanRequests.get id = some loan →
    ∃ loan', s'.loanRequests.get id = some loan' ∧ loan'.borrower = loan.borrower ∧
      loan'.amount = loan.amount ∧ loan'.collateral = loan.collateral ∧
        (loan.status = .repaid → loan' = loan)

namespace Kept

variable {s₁ s₂ s₃ : State AccountId L} {id : ℕ} {loan : LoanRequest AccountId}

omit [DecidableEq AccountId] in
theorem of_eq (h : s₂.loanRequests = s₁.loanRequests) : Kept s₁ s₂ := by
  intro id loan hloan
  rw [← h] at hloan
  exact ⟨loan, hloan, rfl, rfl, rfl, fun _ => rfl⟩

omit [DecidableEq AccountId] in
theorem trans (h : Kept s₁ s₂) (h' : Kept s₂ s₃) : Kept s₁ s₃ := by
  intro id loan hloan
  obtain ⟨loan₂, h₂, hb₂, ha₂, hc₂, hr₂⟩ := h id loan hloan
  obtain ⟨loan₃, h₃, hb₃, ha₃, hc₃, hr₃⟩ := h' id loan₂ h₂
  refine ⟨loan₃, h₃, hb₃.trans hb₂, ha₃.trans ha₂, hc₃.trans hc₂, ?_⟩
  intro hrepaid
  have heq := hr₂ hrepaid
  rw [← heq] at hrepaid
  exact (hr₃ hrepaid).trans heq

omit [DecidableEq AccountId] in
/-- Writing a record that was free, or a version of a record that is not repaid, keeps all
records. -/
theorem of_insert {loan' : LoanRequest AccountId}
    (hs : s₂.loanRequests = s₁.loanRequests.insert id loan')
    (h : ∀ loan, s₁.loanRequests.get id = some loan → loan'.borrower = loan.borrower ∧
      loan'.amount = loan.amount ∧ loan'.collateral = loan.collateral ∧ loan.status ≠ .repaid) :
    Kept s₁ s₂ := by
  intro i loan hloan
  rw [hs, StorageMap.get_insert]
  split
  · next hi =>
    rw [hi] at hloan
    obtain ⟨hb, ha, hc, hr⟩ := h loan hloan
    exact ⟨loan', rfl, hb, ha, hc, fun hrepaid => absurd hrepaid hr⟩
  · exact ⟨loan, hloan, rfl, rfl, rfl, fun _ => rfl⟩

end Kept

section Steps

variable [Ledger AccountId L] {s s' : State AccountId L} {borrower master : AccountId}
  {loanId amount collateral submittedAt : ℕ} {loan : LoanRequest AccountId}

/-- A request writes a fresh pending record. -/
theorem Requested.invariant (hi : LoanInvariant s) (hnext : s.nextLoanId < u32Max)
    (h : Requested s s' borrower amount collateral submittedAt) :
    LoanInvariant s' ∧ Kept s s' ∧ s'.nextLoanId = s.nextLoanId + 1 := by
  have hrequests : s'.loanRequests = s.loanRequests.insert s.nextLoanId
      (.requested borrower amount collateral submittedAt) := congrArg LoanBook.requests h.loanBook
  have hactive : s'.activeLoanByBorrower = s.activeLoanByBorrower :=
    congrArg LoanBook.active h.loanBook
  have hid : s'.nextLoanId = s.nextLoanId + 1 :=
    (congrArg LoanBook.nextId h.loanBook).trans (saturatingAdd_one_of_lt hnext)
  -- the identifier is fresh, so no record is written over
  have hfree : s.loanRequests.get s.nextLoanId = none := hi.fresh _ (Nat.le_refl _)
  refine ⟨⟨⟨?_, ?_, ?_⟩, ?_⟩, ?_, hid⟩
  · intro b id
    rw [hactive, hi.indexed, hrequests]
    constructor
    · rintro ⟨l, hl, hb, ha⟩
      -- an active loan is recorded, and so not under the fresh identifier
      have hne : id ≠ s.nextLoanId := by
        intro he
        rw [he, hfree] at hl
        cases hl
      exact ⟨l, (StorageMap.get_insert_of_ne hne).trans hl, hb, ha⟩
    · rintro ⟨l, hl, hb, ha⟩
      rcases StorageMap.get_insert_cases hl with ⟨-, rfl⟩ | ⟨-, hl⟩
      · -- the new record is pending, not active
        cases ha
      · exact ⟨l, hl, hb, ha⟩
  · intro id l hl hlive
    rw [hrequests] at hl
    rcases StorageMap.get_insert_cases hl with ⟨-, rfl⟩ | ⟨-, hl⟩
    · exact ⟨h.pos, Nat.le_refl _⟩
    · exact hi.outstanding id l hl hlive
  · intro id l hl hpending
    rw [hrequests] at hl
    rcases StorageMap.get_insert_cases hl with ⟨-, rfl⟩ | ⟨-, hl⟩
    · rfl
    · exact hi.pending id l hl hpending
  · intro id hle
    rw [hid] at hle
    rw [hrequests, StorageMap.get_insert_of_ne (by omega)]
    exact hi.fresh id (by omega)
  · apply Kept.of_insert hrequests
    intro l hl
    rw [hfree] at hl
    cases hl

omit [Ledger AccountId L] in
/-- Writing a later version of a loan keeps the invariant, when the index follows the version. -/
theorem invariant_of_update {loan' : LoanRequest AccountId} (hi : LoanInvariant s)
    (hfound : s.loanRequests.get loanId = some loan) (hlive : loan.status ≠ .repaid)
    (hrequests : s'.loanRequests = s.loanRequests.insert loanId loan')
    (hid : s'.nextLoanId = s.nextLoanId)
    (hterms : loan'.borrower = loan.borrower ∧ loan'.amount = loan.amount ∧
      loan'.collateral = loan.collateral)
    (houtstanding : loan'.Live →
      0 < loan'.outstandingBalance ∧ loan'.outstandingBalance ≤ loan'.amount)
    (hpending : loan'.status = .pending → loan'.outstandingBalance = loan'.amount)
    (hactive : ∀ b id, s'.activeLoanByBorrower.get b = some id ↔
      if id = loanId then b = loan.borrower ∧ loan'.status = .active
      else s.activeLoanByBorrower.get b = some id) :
    LoanInvariant s' ∧ Kept s s' ∧ s'.nextLoanId = s.nextLoanId := by
  refine ⟨⟨⟨?_, ?_, ?_⟩, ?_⟩, ?_, hid⟩
  · intro b id
    rw [hactive, hrequests, StorageMap.get_insert]
    split
    -- under the identifier of the loan the index follows the new version
    · constructor
      · rintro ⟨hb, ha⟩
        exact ⟨loan', rfl, hterms.1.trans hb.symm, ha⟩
      · rintro ⟨l, hl, hb, ha⟩
        rw [← Option.some.inj hl] at hb ha
        exact ⟨hb.symm.trans hterms.1, ha⟩
    · exact hi.indexed b id
  · intro id l hl hlive'
    rw [hrequests] at hl
    rcases StorageMap.get_insert_cases hl with ⟨-, rfl⟩ | ⟨-, hl⟩
    · exact houtstanding hlive'
    · exact hi.outstanding id l hl hlive'
  · intro id l hl hp
    rw [hrequests] at hl
    rcases StorageMap.get_insert_cases hl with ⟨-, rfl⟩ | ⟨-, hl⟩
    · exact hpending hp
    · exact hi.pending id l hl hp
  · intro id hle
    rw [hid] at hle
    -- the loan was there, so its identifier is below the counter
    have hne : id ≠ loanId := by
      intro he
      have hfree := hi.fresh id hle
      rw [he, hfound] at hfree
      cases hfree
    rw [hrequests, StorageMap.get_insert_of_ne hne]
    exact hi.fresh id hle
  · apply Kept.of_insert hrequests
    intro l hl
    rw [hfound] at hl
    rw [← Option.some.inj hl]
    exact ⟨hterms.1, hterms.2.1, hterms.2.2, hlive⟩

omit [Ledger AccountId L] in
/-- The index names a loan of the borrower it is filed under, and of no one else. -/
theorem Coherent.active_iff (hc : Coherent s)
    (hindexed : s.activeLoanByBorrower.get master = some loanId)
    (hfound : s.loanRequests.get loanId = some loan) {b : AccountId} :
    loan.borrower = master ∧ (s.activeLoanByBorrower.get b = some loanId ↔ b = master) := by
  obtain ⟨l, hl, hb, _⟩ := (hc.indexed master loanId).mp hindexed
  rw [hfound] at hl
  rw [← Option.some.inj hl] at hb
  -- one record under one identifier: its borrower is both
  refine ⟨hb, ?_⟩
  constructor
  · intro h
    obtain ⟨l', hl', hb', _⟩ := (hc.indexed b loanId).mp h
    rw [hfound] at hl'
    rw [← Option.some.inj hl', hb] at hb'
    exact hb'.symm
  · rintro rfl
    exact hindexed

/-- A payment lowers what is outstanding, or closes the loan. -/
theorem Paid.invariant (hi : LoanInvariant s) (h : Paid s s' master loanId loan amount) :
    LoanInvariant s' ∧ Kept s s' ∧ s'.nextLoanId = s.nextLoanId := by
  obtain ⟨hborrower, _⟩ := hi.active_iff (b := master) h.indexed h.found
  have hrequests := congrArg LoanBook.requests h.loanBook
  have hindex := congrArg LoanBook.active h.loanBook
  have hout := hi.outstanding loanId loan h.found (Or.inr h.active)
  have hlive : loan.status ≠ .repaid := by
    rw [h.active]
    decide
  have hterms := afterPayment_terms loan amount
  refine invariant_of_update hi h.found hlive hrequests (congrArg LoanBook.nextId h.loanBook)
    hterms ?_ ?_ ?_
  -- a loan paid off is not live; otherwise something is left outstanding
  · rcases afterPayment_cases loan amount with ⟨_, hs⟩ | ⟨hne, _, ho⟩
    · intro hl
      rcases hl with hp | ha
      · rw [hs] at hp
        cases hp
      · rw [hs] at ha
        cases ha
    · intro _
      rw [ho, hterms.2.1]
      omega
  · -- an active loan does not become pending again
    intro hp
    rcases afterPayment_cases loan amount with ⟨_, hs⟩ | ⟨_, hs, _⟩
    · rw [hs] at hp
      cases hp
    · rw [hs, h.active] at hp
      cases hp
  · intro b id
    have hb := (hi.active_iff (b := b) h.indexed h.found).2
    show (State.loanBook s').active.get b = some id ↔ _
    rw [hindex]
    rcases afterPayment_cases loan amount with ⟨hz, hs⟩ | ⟨hz, hs, _⟩
    -- paid off: the entry of the master goes, which is the only one of the loan
    · rw [if_pos hz, hs, StorageMap.get_remove]
      by_cases hm : b = master
      · rw [if_pos hm, hm, h.indexed]
        by_cases hid : id = loanId
        · simp [hid]
        · simp [hid, Ne.symm hid]
      · rw [if_neg hm]
        by_cases hid : id = loanId
        · simp [hid, hb, hm]
        · rw [if_neg hid]
    -- paid in part: the index stays, and the loan is still active
    · rw [if_neg hz, hs, h.active, hborrower]
      by_cases hid : id = loanId
      · simp [hid, hb]
      · rw [if_neg hid]

/-- Approval makes a pending loan the active one of its borrower. -/
theorem Approved.invariant (hi : LoanInvariant s) (h : Approved s s' loanId loan) :
    LoanInvariant s' ∧ Kept s s' ∧ s'.nextLoanId = s.nextLoanId := by
  have hrequests := congrArg LoanBook.requests h.loanBook
  have hindex := congrArg LoanBook.active h.loanBook
  have hout := hi.outstanding loanId loan h.found (Or.inl h.pending)
  have hlive : loan.status ≠ .repaid := by
    rw [h.pending]
    decide
  refine invariant_of_update hi h.found hlive hrequests (congrArg LoanBook.nextId h.loanBook)
    ⟨rfl, rfl, rfl⟩ (fun _ => hout) (fun hp => LoanStatus.noConfusion hp) ?_
  intro b id
  show (State.loanBook s').active.get b = some id ↔ _
  rw [hindex, StorageMap.get_insert]
  by_cases hb : b = loan.borrower
  · rw [if_pos hb, hb]
    by_cases hid : id = loanId
    · simp [hid]
    -- the borrower had no active loan before
    · simp [hid, Ne.symm hid, h.unindexed]
  · rw [if_neg hb]
    by_cases hid : id = loanId
    · -- a pending loan is not in the index
      rw [if_pos hid, hid, hi.indexed]
      constructor
      · rintro ⟨l, hl, _, ha⟩
        rw [h.found] at hl
        rw [← Option.some.inj hl, h.pending] at ha
        cases ha
      · rintro ⟨hb', _⟩
        exact absurd hb' hb
    · rw [if_neg hid]

/-- Cancelling closes a pending loan. -/
theorem Cancelled.invariant (hi : LoanInvariant s) (h : Cancelled s s' borrower loanId loan) :
    LoanInvariant s' ∧ Kept s s' ∧ s'.nextLoanId = s.nextLoanId := by
  have hrequests := congrArg LoanBook.requests h.loanBook
  have hindex := congrArg LoanBook.active h.loanBook
  have hlive : loan.status ≠ .repaid := by
    rw [h.pending]
    decide
  refine invariant_of_update hi h.found hlive hrequests (congrArg LoanBook.nextId h.loanBook)
    ⟨rfl, rfl, rfl⟩ ?_ (fun hp => LoanStatus.noConfusion hp) ?_
  · rintro (hp | ha)
    · cases hp
    · cases ha
  · intro b id
    show (State.loanBook s').active.get b = some id ↔ _
    rw [hindex]
    by_cases hid : id = loanId
    · rw [if_pos hid, hid]
      show s.activeLoanByBorrower.get b = some loanId ↔ _
      -- a pending loan is not in the index, and a closed one must not be
      rw [hi.indexed]
      constructor
      · rintro ⟨l, hl, _, ha⟩
        rw [h.found] at hl
        rw [← Option.some.inj hl, h.pending] at ha
        cases ha
      · rintro ⟨_, ha⟩
        cases ha
    · rw [if_neg hid]

/-- Calls that leave the loans keep the invariant. -/
theorem Untouched.invariant (hi : LoanInvariant s) (h : Untouched s s') :
    LoanInvariant s' ∧ Kept s s' ∧ s'.nextLoanId = s.nextLoanId := by
  have hrequests : s'.loanRequests = s.loanRequests := congrArg LoanBook.requests h.loanBook
  have hindex : s'.activeLoanByBorrower = s.activeLoanByBorrower :=
    congrArg LoanBook.active h.loanBook
  have hid : s'.nextLoanId = s.nextLoanId := congrArg LoanBook.nextId h.loanBook
  refine ⟨⟨⟨?_, ?_, ?_⟩, ?_⟩, Kept.of_eq hrequests, hid⟩
  · rw [hindex, hrequests]
    exact hi.indexed
  · rw [hrequests]
    exact hi.outstanding
  · rw [hrequests]
    exact hi.pending
  · rw [hrequests, hid]
    exact hi.fresh

omit [Ledger AccountId L] in
/-- A borrower has one active loan at most. -/
theorem Coherent.active_unique (hc : Coherent s) {id id' : ℕ} {loan' : LoanRequest AccountId}
    (hl : s.loanRequests.get id = some loan) (hl' : s.loanRequests.get id' = some loan')
    (ha : loan.status = .active) (ha' : loan'.status = .active)
    (hb : loan.borrower = loan'.borrower) : id = id' := by
  have h := (hc.indexed loan'.borrower id).mpr ⟨loan, hl, hb, ha⟩
  have h' := (hc.indexed loan'.borrower id').mpr ⟨loan', hl', rfl, ha'⟩
  rw [h] at h'
  exact Option.some.inj h'

end Steps

section Runs

variable [Currency AccountId L] [LockableCurrency AccountId L] {cfg : Config AccountId}
  {s s' : State AccountId L}

omit [DecidableEq AccountId] in
/-- The call asks for a loan. -/
def IsLoanRequest (x : Extrinsic AccountId) : Prop :=
  match x.2 with
  | .requestLoan _ _ => True
  | _ => False

omit [DecidableEq AccountId] in
instance : DecidablePred (@IsLoanRequest AccountId) := by
  rintro ⟨_, call⟩
  cases call <;> first | exact isTrue trivial | exact isFalse id

/-- **What one call keeps.** The invariant, the records, and the count of the requests. -/
theorem invariant_step {x : Extrinsic AccountId} (hi : LoanInvariant s)
    (hnext : IsLoanRequest x → s.nextLoanId < u32Max) (h : step cfg x s = .ok s') :
    LoanInvariant s' ∧ Kept s s' ∧
      s'.nextLoanId = s.nextLoanId + if IsLoanRequest x then 1 else 0 := by
  have heffect := step_loans h
  obtain ⟨ctx, call⟩ := x
  cases call with
  | requestLoan amount collateral =>
    obtain ⟨_, _, hr⟩ := heffect
    exact hr.invariant hi (hnext trivial)
  | payCredit subAccount amount =>
    obtain ⟨_, _, _, _, hp⟩ := heffect
    exact hp.invariant hi
  | approveLoan loanId =>
    obtain ⟨_, ha⟩ := heffect
    exact ha.invariant hi
  | cancelLoanRequest loanId =>
    obtain ⟨_, _, _, hc⟩ := heffect
    exact hc.invariant hi
  | _ => exact Untouched.invariant hi heffect

/-- What a run with fewer requests than identifiers left keeps. -/
theorem invariant_run (cfg : Config AccountId) (xs : List (Extrinsic AccountId))
    (hi : LoanInvariant s)
    (h : s.nextLoanId + accepted (step cfg) IsLoanRequest xs s ≤ u32Max) :
    LoanInvariant (run (step cfg) xs s) ∧ Kept s (run (step cfg) xs s) ∧
      (run (step cfg) xs s).nextLoanId =
        s.nextLoanId + accepted (step cfg) IsLoanRequest xs s := by
  -- on the inputs; the requests of the rest fit above the counter
  induction xs generalizing s with
  | nil => exact ⟨hi, Kept.of_eq rfl, rfl⟩
  | cons x xs ih =>
    cases hx : step cfg x s with
    | error e =>
      rw [accepted_cons_error hx] at h ⊢
      rw [run_cons, exec_error hx]
      exact ih hi h
    | ok s₁ =>
      rw [accepted_cons_ok hx] at h ⊢
      rw [run_cons, exec_ok hx]
      -- a request that is accepted is counted, so an identifier is left for it
      have hnext : IsLoanRequest x → s.nextLoanId < u32Max := by
        intro hp
        rw [if_pos hp] at h
        omega
      obtain ⟨hi₁, hk₁, hid₁⟩ := invariant_step hi hnext hx
      obtain ⟨hi₂, hk₂, hid₂⟩ := ih hi₁ (by rw [hid₁]; omega)
      refine ⟨hi₂, hk₁.trans hk₂, ?_⟩
      rw [hid₂, hid₁, Nat.add_assoc]

omit [Currency AccountId L] [LockableCurrency AccountId L] in
/-- Before any call there are no loans. -/
theorem genesis_loanInvariant (c : CentralBank.State AccountId L) :
    LoanInvariant (genesis c) where
  indexed b id := by
    constructor
    · intro h
      cases h
    · rintro ⟨_, h, _⟩
      cases h
  outstanding _ _ h := by cases h
  pending _ _ h := by cases h
  fresh _ _ := rfl

/-- **Loans are coherent.** After every run that accepts fewer loan requests than there are
identifiers, the index names exactly the active loans, one for each borrower at most, and what
is outstanding is between nothing and the amount, and the amount while pending. Every record
that the run has ever made is still there with its terms, unchanged if it was repaid. -/
theorem loans_coherent (cfg : Config AccountId) (c : CentralBank.State AccountId L)
    (xs ys : List (Extrinsic AccountId))
    (h : accepted (step cfg) IsLoanRequest (xs ++ ys) (genesis c) < u32Max) :
    let s := run (step cfg) xs (genesis c)
    let s' := run (step cfg) (xs ++ ys) (genesis c)
    Coherent s' ∧
      (∀ id id' loan loan', s'.loanRequests.get id = some loan →
        s'.loanRequests.get id' = some loan' → loan.status = .active → loan'.status = .active →
          loan.borrower = loan'.borrower → id = id') ∧
      Kept s s' := by
  intro s s'
  -- the requests of the first part leave identifiers for those of the second
  have hsplit : accepted (step cfg) IsLoanRequest (xs ++ ys) (genesis c) =
      accepted (step cfg) IsLoanRequest xs (genesis c) +
        accepted (step cfg) IsLoanRequest ys (run (step cfg) xs (genesis c)) :=
    accepted_append xs ys _
  obtain ⟨hi, -, hid⟩ := invariant_run cfg xs (genesis_loanInvariant c)
    (by show 0 + _ ≤ _; omega)
  have hs : s' = run (step cfg) ys s := run_append xs ys (genesis c)
  obtain ⟨hi', hk', -⟩ := invariant_run cfg ys hi
    (by rw [hid]; show 0 + _ + _ ≤ _; omega)
  rw [hs]
  refine ⟨hi'.toCoherent, ?_, hk'⟩
  intro id id' loan loan' hl hl' ha ha' hb
  exact hi'.active_unique hl hl' ha ha' hb

end Runs

/-- A citizen with two requests has one approved, pays it off in two payments, and cancels the
other. -/
def twoLoans : List (Extrinsic ℕ) :=
  [(citizenContext 7 1, .openMasterAccount),
    (citizenContext 7 1, .openSubAccount .credit),
    (citizenContext 7 2, .requestLoan 500 0),
    (citizenContext 7 2, .requestLoan 300 100),
    (officerContext 3, .approveLoan 0),
    (citizenContext 7 4, .payCredit (deriveSubAccount bankOfSiberia 7 .credit 0) 200),
    (citizenContext 7 5, .payCredit (deriveSubAccount bankOfSiberia 7 .credit 0) 400),
    (citizenContext 7 6, .cancelLoanRequest 1)]

/-- The run of the two loans accepts two requests, and its loans are coherent throughout. -/
theorem loans_coherent_twoLoans :
    let s := run (step bankOfSiberia) (twoLoans.take 6) bankGenesis
    let s' := run (step bankOfSiberia) twoLoans bankGenesis
    accepted (step bankOfSiberia) IsLoanRequest twoLoans bankGenesis = 2 ∧ Coherent s' ∧
      Kept s s' := by
  intro s s'
  have haccepted : accepted (step bankOfSiberia) IsLoanRequest twoLoans bankGenesis = 2 := by
    decide +kernel
  have h := loans_coherent bankOfSiberia _ (twoLoans.take 6) (twoLoans.drop 6)
    (by
      rw [List.take_append_drop]
      exact haccepted.trans_lt (by decide))
  rw [List.take_append_drop] at h
  exact ⟨haccepted, h.1, h.2.2⟩

end BankOfSiberia
