import Altan.BankOfSiberia.Chain
import Altan.BankOfSiberia.LoanLifecycle

/-!
# What is paid for a loan

A payment is taken in full from the borrower, while what is outstanding is lowered by it and stops
at zero. So what is paid for a loan is what is no longer outstanding exactly when every payment was
at most what was outstanding. Only the payment that pays the loan off can be more.

## Main definitions

* `ChainInput.payment`, `repaidOn`: what an input pays, and what it pays for a loan
* `WithinOutstanding`: the payment is at most what is outstanding
* `Recorded`: the record of a loan, from its request on

## Main results

* `recorded_step`, `outstanding_step`: what one input does to a loan
* `loan_repayments`: what is paid for a loan in every run from its request on
* `overpaid_loan`: a loan for which more is paid than its amount
-/

open Bounded Dispatch TransitionSystem Runtime

namespace BankOfSiberia

variable {AccountId L : Type} {cfg : Config AccountId} {s s' : State AccountId L}

/-- Who pays how much with an input. -/
def ChainInput.payment : ChainInput AccountId L → Option (AccountId × ℕ)
  | .extrinsic (ctx, .payCredit _ amount) =>
    match ctx.origin with
    | .signed master => some (master, amount)
    | _ => none
  | _ => none

/-- An input asks for a loan. -/
def ChainInput.AsksForLoan : ChainInput AccountId L → Prop
  | .extrinsic x => IsLoanRequest x
  | .elsewhere _ => False

theorem ChainInput.payment_payCredit {ctx : Context AccountId} {master subAccount : AccountId}
    {amount : ℕ} (h : ctx.origin = .signed master) :
    (.extrinsic (ctx, .payCredit subAccount amount) : ChainInput AccountId L).payment =
      some (master, amount) := by
  simp only [payment]
  rw [h]

/-- What is outstanding of a loan. -/
def State.outstanding (s : State AccountId L) (id : ℕ) : ℕ :=
  (s.loanRequests.get id).elim 0 LoanRequest.outstandingBalance

theorem State.outstanding_of_get {id : ℕ} {loan : LoanRequest AccountId}
    (h : s.loanRequests.get id = some loan) : s.outstanding id = loan.outstandingBalance := by
  rw [outstanding, h]
  rfl

/-- The record of a loan with its borrower and amount, in which something is outstanding as long as
the loan is live. -/
def Recorded (id : ℕ) (borrower : AccountId) (amount : ℕ) (s : State AccountId L) : Prop :=
  ∃ loan, s.loanRequests.get id = some loan ∧ loan.borrower = borrower ∧ loan.amount = amount ∧
    (loan.Live → 0 < loan.outstandingBalance)

section Steps

variable [DecidableEq AccountId]

/-- The loan is filed under no one but its borrower. -/
def FiledUnder (id : ℕ) (borrower : AccountId) (s : State AccountId L) : Prop :=
  ∀ account, s.activeLoanByBorrower.get account = some id → account = borrower

/-- What an input pays for a loan, if it is accepted. -/
def repaidOn (id : ℕ) (s : State AccountId L) (i : ChainInput AccountId L) : ℕ :=
  i.payment.elim 0 fun p => if s.activeLoanByBorrower.get p.1 = some id then p.2 else 0

/-- The payment is at most what is outstanding of the loan. -/
def WithinOutstanding (id : ℕ) (s : State AccountId L) (i : ChainInput AccountId L) : Prop :=
  repaidOn id s i ≤ s.outstanding id

variable [Currency AccountId L] [LockableCurrency AccountId L] {i : ChainInput AccountId L}
  {id amount : ℕ} {borrower : AccountId}

omit [DecidableEq AccountId] [Currency AccountId L] [LockableCurrency AccountId L] in
/-- Writing a later version of a loan keeps the record, when something is outstanding in it as long
as it is live. -/
theorem Recorded.update {loanId : ℕ} {loan loan' : LoanRequest AccountId}
    (h : Recorded id borrower amount s) (hfound : s.loanRequests.get loanId = some loan)
    (hrequests : s'.loanRequests = s.loanRequests.insert loanId loan')
    (hterms : loan'.borrower = loan.borrower ∧ loan'.amount = loan.amount)
    (hlive : (loan.Live → 0 < loan.outstandingBalance) →
      loan'.Live → 0 < loan'.outstandingBalance) : Recorded id borrower amount s' := by
  obtain ⟨l, hl, hborrower, hamount, hpos⟩ := h
  unfold Recorded
  rw [hrequests, StorageMap.get_insert]
  by_cases hid : id = loanId
  · rw [if_pos hid]
    rw [hid, hfound] at hl
    obtain rfl := Option.some.inj hl
    exact ⟨loan', rfl, hterms.1.trans hborrower, hterms.2.trans hamount, hlive hpos⟩
  · rw [if_neg hid]
    exact ⟨l, hl, hborrower, hamount, hpos⟩

omit [DecidableEq AccountId] [Currency AccountId L] [LockableCurrency AccountId L] in
/-- A version of a loan with the same balance leaves all balances. -/
theorem State.outstanding_update {loanId : ℕ} {loan loan' : LoanRequest AccountId}
    (hfound : s.loanRequests.get loanId = some loan)
    (hrequests : s'.loanRequests = s.loanRequests.insert loanId loan')
    (hbalance : loan'.outstandingBalance = loan.outstandingBalance) (id : ℕ) :
    s'.outstanding id = s.outstanding id := by
  unfold State.outstanding
  rw [hrequests, StorageMap.get_insert]
  split
  · next hid =>
    rw [hid, hfound]
    exact hbalance
  · rfl

omit [Currency AccountId L] [LockableCurrency AccountId L] in
/-- A payment leaves something outstanding in a loan that it leaves live. -/
theorem Paid.recorded [Ledger AccountId L] {master : AccountId} {loanId paid : ℕ}
    {loan : LoanRequest AccountId} (hp : Paid s s' master loanId loan paid)
    (h : Recorded id borrower amount s) : Recorded id borrower amount s' := by
  have hterms := afterPayment_terms loan paid
  refine h.update hp.found (congrArg LoanBook.requests hp.loanBook) ⟨hterms.1, hterms.2.1⟩
    fun _ hlive => ?_
  rcases afterPayment_cases loan paid with ⟨-, hrepaid⟩ | ⟨hne, -, hbalance⟩
  -- paid off: the loan is not live any more
  · rw [LoanRequest.Live, hrepaid] at hlive
    simp at hlive
  · rw [hbalance]
    exact Nat.pos_of_ne_zero hne

omit [Currency AccountId L] [LockableCurrency AccountId L] in
/-- A payment lowers what is outstanding of its loan only. -/
theorem Paid.outstanding [Ledger AccountId L] {master : AccountId} {loanId paid : ℕ}
    {loan : LoanRequest AccountId} (hp : Paid s s' master loanId loan paid) (id : ℕ) :
    s'.outstanding id = s.outstanding id - if loanId = id then paid else 0 := by
  have hrequests : s'.loanRequests = s.loanRequests.insert loanId (loan.afterPayment paid) :=
    congrArg LoanBook.requests hp.loanBook
  have hafter : (loan.afterPayment paid).outstandingBalance = loan.outstandingBalance - paid := by
    unfold LoanRequest.afterPayment
    split <;> rfl
  by_cases hid : loanId = id
  · rw [if_pos hid, ← hid, State.outstanding_of_get hp.found]
    have hget : s'.loanRequests.get loanId = some (loan.afterPayment paid) := by
      rw [hrequests]
      exact StorageMap.get_insert_self
    rw [State.outstanding_of_get hget, hafter]
  · rw [if_neg hid, Nat.sub_zero]
    unfold State.outstanding
    rw [hrequests, StorageMap.get_insert_of_ne (Ne.symm hid)]

/-- **What one input does to a loan.** The record stays, and what is outstanding is lowered by what
is paid for the loan, as far as there is something outstanding. -/
theorem loan_step (h : Recorded id borrower amount s)
    (hsame : i.AsksForLoan → s.nextLoanId ≠ id) (hs : chainStep cfg i s = .ok s') :
    Recorded id borrower amount s' ∧ s'.outstanding id = s.outstanding id - repaidOn id s i := by
  cases i with
  | elsewhere centralBank =>
    obtain rfl := Except.ok.inj hs
    exact ⟨h, rfl⟩
  | extrinsic x =>
    have heffect := step_loans hs
    obtain ⟨ctx, call⟩ := x
    cases call with
    | requestLoan amount' collateral =>
      obtain ⟨borrower', -, hr⟩ := heffect
      have hrequests : s'.loanRequests = s.loanRequests.insert s.nextLoanId
          (.requested borrower' amount' collateral _) := congrArg LoanBook.requests hr.loanBook
      -- the new loan is another one
      have hget : s'.loanRequests.get id = s.loanRequests.get id := by
        rw [hrequests]
        exact StorageMap.get_insert_of_ne (Ne.symm (hsame trivial))
      unfold Recorded State.outstanding
      rw [hget]
      exact ⟨h, rfl⟩
    | payCredit subAccount amount' =>
      obtain ⟨master, horigin, loanId, loan, hp⟩ := heffect
      have hrepaid : repaidOn id s (.extrinsic (ctx, .payCredit subAccount amount')) =
          if loanId = id then amount' else 0 := by
        simp only [repaidOn, ChainInput.payment_payCredit horigin, Option.elim_some, hp.indexed,
          Option.some_inj]
      rw [hrepaid]
      exact ⟨hp.recorded h, hp.outstanding id⟩
    | approveLoan loanId =>
      obtain ⟨loan, ha⟩ := heffect
      have hrequests : s'.loanRequests =
          s.loanRequests.insert loanId { loan with status := .active } :=
        congrArg LoanBook.requests ha.loanBook
      refine ⟨h.update ha.found hrequests ⟨rfl, rfl⟩ fun hpos _ => hpos (Or.inl ha.pending), ?_⟩
      exact State.outstanding_update ha.found hrequests rfl id
    | cancelLoanRequest loanId =>
      obtain ⟨borrower', -, loan, hc⟩ := heffect
      have hrequests : s'.loanRequests =
          s.loanRequests.insert loanId { loan with status := .repaid } :=
        congrArg LoanBook.requests hc.loanBook
      refine ⟨h.update hc.found hrequests ⟨rfl, rfl⟩ fun hpos _ => hpos (Or.inl hc.pending), ?_⟩
      exact State.outstanding_update hc.found hrequests rfl id
    | _ =>
      have hrequests : s'.loanRequests = s.loanRequests :=
        congrArg LoanBook.requests heffect.loanBook
      unfold Recorded State.outstanding
      rw [hrequests]
      exact ⟨h, rfl⟩

/-- The index of a recorded loan names its borrower only. -/
theorem filedUnder_step (h : Recorded id borrower amount s) (hfiled : FiledUnder id borrower s)
    (hs : chainStep cfg i s = .ok s') : FiledUnder id borrower s' := by
  cases i with
  | elsewhere centralBank =>
    obtain rfl := Except.ok.inj hs
    exact hfiled
  | extrinsic x =>
    have heffect := step_loans hs
    obtain ⟨ctx, call⟩ := x
    intro account haccount
    cases call with
    | requestLoan amount' collateral =>
      obtain ⟨borrower', -, hr⟩ := heffect
      have hindex : s'.activeLoanByBorrower = s.activeLoanByBorrower :=
        congrArg LoanBook.active hr.loanBook
      rw [hindex] at haccount
      exact hfiled account haccount
    | payCredit subAccount amount' =>
      obtain ⟨master, -, loanId, loan, hp⟩ := heffect
      have hindex := congrArg LoanBook.active hp.loanBook
      change s'.activeLoanByBorrower = _ at hindex
      rw [hindex] at haccount
      split at haccount
      -- an entry goes; the others stay
      · rw [StorageMap.get_remove] at haccount
        split at haccount
        · cases haccount
        · exact hfiled account haccount
      · exact hfiled account haccount
    | approveLoan loanId =>
      obtain ⟨loan, ha⟩ := heffect
      have hindex : s'.activeLoanByBorrower = s.activeLoanByBorrower.insert loan.borrower loanId :=
        congrArg LoanBook.active ha.loanBook
      rw [hindex] at haccount
      rcases StorageMap.get_insert_cases haccount with ⟨hborrower, hid⟩ | ⟨-, hsame⟩
      -- the loan is filed under the borrower in its record
      · obtain ⟨l, hl, hlborrower, -⟩ := h
        rw [← hid, ha.found] at hl
        rw [hborrower, Option.some.inj hl]
        exact hlborrower
      · exact hfiled account hsame
    | cancelLoanRequest loanId =>
      obtain ⟨borrower', -, loan, hc⟩ := heffect
      have hindex : s'.activeLoanByBorrower = s.activeLoanByBorrower :=
        congrArg LoanBook.active hc.loanBook
      rw [hindex] at haccount
      exact hfiled account haccount
    | _ =>
      have hindex : s'.activeLoanByBorrower = s.activeLoanByBorrower :=
        congrArg LoanBook.active heffect.loanBook
      rw [hindex] at haccount
      exact hfiled account haccount

/-- **A payment** on a loan is transferred to the treasury, and made while something is
outstanding. -/
theorem payment_step (h : Recorded id borrower amount s) (hs : chainStep cfg i s = .ok s')
    (hpaid : 0 < repaidOn id s i) :
    ∃ master l, i.payment = some (master, repaidOn id s i) ∧
      s.activeLoanByBorrower.get master = some id ∧ 0 < s.outstanding id ∧
        Currency.transfer s.ledger master cfg.treasuryAccount (repaidOn id s i) .keepAlive =
          .ok l := by
  cases i with
  | elsewhere centralBank => exact absurd hpaid (Nat.lt_irrefl 0)
  | extrinsic x =>
    obtain ⟨ctx, call⟩ := x
    cases call with
    | payCredit subAccount amount' =>
      obtain ⟨master, horigin, -, -, -, -, -, loanId, hindexed, loan, hfound, hactive, l, hl, -⟩ :=
        payCredit_eq_ok.mp hs
      have hpayment : (.extrinsic (ctx, .payCredit subAccount amount') :
          ChainInput AccountId L).payment = some (master, amount') :=
        ChainInput.payment_payCredit horigin
      simp only [repaidOn, hpayment, Option.elim_some, hindexed, Option.some_inj] at hpaid ⊢
      by_cases hid : loanId = id
      · rw [if_pos hid]
        subst hid
        obtain ⟨loan₁, hfound₁, -, -, hpos⟩ := h
        rw [hfound] at hfound₁
        obtain rfl := Option.some.inj hfound₁
        refine ⟨master, l, rfl, hindexed, ?_, hl⟩
        rw [State.outstanding_of_get hfound]
        exact hpos (Or.inr hactive)
      · rw [if_neg hid] at hpaid
        exact absurd hpaid (Nat.lt_irrefl 0)
    | _ => exact absurd hpaid (Nat.lt_irrefl 0)

end Steps

section Runs

variable [DecidableEq AccountId] [Currency AccountId L] [LockableCurrency AccountId L]

/-- **What is paid for a loan.** In every run from the request of a loan on, what is outstanding is
the amount less what was paid for it, as far as that goes. What was paid is what is no longer
outstanding exactly when every payment was at most what was outstanding; it is transferred to the
treasury, by the borrower unless an older loan was filed under the identifier, and each payment is
made before the amount is paid. -/
theorem loan_repayments (cfg : Config AccountId) (s s' : State AccountId L)
    (ctx : Context AccountId) (amount collateral : ℕ) (is : List (ChainInput AccountId L))
    (hrequest : step cfg (ctx, .requestLoan amount collateral) s = .ok s')
    (hsame : Along (chainStep cfg) (fun t i => i.AsksForLoan → t.nextLoanId ≠ s.nextLoanId) is
      s') :
    let id := s.nextLoanId
    let t := run (chainStep cfg) is s'
    let paid := tally (chainStep cfg) (repaidOn id) is s'
    ∃ borrower loan, ctx.origin = .signed borrower ∧ t.loanRequests.get id = some loan ∧
      loan.borrower = borrower ∧ loan.amount = amount ∧
      loan.outstandingBalance = amount - paid ∧
      (paid = amount - loan.outstandingBalance ↔
        Along (chainStep cfg) (WithinOutstanding id) is s') ∧
      ∀ js i u, js ++ [i] <+: is → chainStep cfg i (run (chainStep cfg) js s') = .ok u →
        0 < repaidOn id (run (chainStep cfg) js s') i →
          tally (chainStep cfg) (repaidOn id) js s' < amount ∧
          ∃ master l, (FiledUnder id borrower s → master = borrower) ∧
            i.payment = some (master, repaidOn id (run (chainStep cfg) js s') i) ∧
            Currency.transfer (run (chainStep cfg) js s').ledger master cfg.treasuryAccount
              (repaidOn id (run (chainStep cfg) js s') i) .keepAlive = .ok l := by
  intro id t paid
  obtain ⟨borrower, horigin, hr⟩ := step_loans hrequest
  have hget : s'.loanRequests.get id =
      some (.requested borrower amount collateral (currentBlock ctx)) := by
    have hrequests := congrArg LoanBook.requests hr.loanBook
    change s'.loanRequests = _ at hrequests
    rw [hrequests]
    exact StorageMap.get_insert_self
  have hrecorded : Recorded id borrower amount s' := ⟨_, hget, rfl, rfl, fun _ => hr.pos⟩
  have hstart : s'.outstanding id = amount := State.outstanding_of_get hget
  -- what one input does carries over to every initial part of the run
  have hfloor : ∀ js, js <+: is → Recorded id borrower amount (run (chainStep cfg) js s') ∧
      (run (chainStep cfg) js s').outstanding id =
        amount - tally (chainStep cfg) (repaidOn id) js s' := by
    intro js hjs
    have halong := hsame.initial hjs
    refine ⟨run_of_along (fun _ _ _ hp hq hs => (loan_step hp hq hs).1) hrecorded halong, ?_⟩
    rw [← hstart]
    exact tally_floor (fun u => u.outstanding id) (repaidOn id)
      (fun _ _ _ hp hq hs => (loan_step hp hq hs).1)
      (fun _ _ _ hp hq hs => (loan_step hp hq hs).2) hrecorded halong
  obtain ⟨⟨loan, hloan, hborrower, hamount, -⟩, hout⟩ := hfloor is (List.prefix_refl is)
  rw [State.outstanding_of_get hloan] at hout
  have hwithin : Along (chainStep cfg) (WithinOutstanding id) is s' ↔ paid ≤ s'.outstanding id :=
    along_le_iff_tally_le (fun u => u.outstanding id) (repaidOn id)
      (fun _ _ _ hp hq hs => (loan_step hp hq hs).1)
      (fun _ _ _ hp hq hs => (loan_step hp hq hs).2) hrecorded hsame
  refine ⟨borrower, loan, horigin, hloan, hborrower, hamount, hout, ?_, ?_⟩
  · rw [hwithin, hstart, hout]
    change paid = amount - (amount - paid) ↔ _
    omega
  · intro js i u hjs hi hpos
    obtain ⟨hrecordedAt, houtAt⟩ := hfloor js ((List.prefix_append js [i]).trans hjs)
    obtain ⟨master, l, hpayment, hindexed, hleft, hl⟩ := payment_step hrecordedAt hi hpos
    refine ⟨by omega, master, l, fun hfiled => ?_, hpayment, hl⟩
    -- the index names the borrower since the request, which has left it alone
    have hfiled' : FiledUnder id borrower s' := by
      have hindex : s'.activeLoanByBorrower = s.activeLoanByBorrower :=
        congrArg LoanBook.active hr.loanBook
      unfold FiledUnder
      rw [hindex]
      exact hfiled
    have hboth : Recorded id borrower amount (run (chainStep cfg) js s') ∧
        FiledUnder id borrower (run (chainStep cfg) js s') := by
      refine run_of_along (P := fun u => Recorded id borrower amount u ∧ FiledUnder id borrower u)
        ?_ ⟨hrecorded, hfiled'⟩ (hsame.initial ((List.prefix_append js [i]).trans hjs))
      rintro i u u' ⟨hp, hf⟩ hq hs
      exact ⟨(loan_step hp hq hs).1, filedUnder_step hp hf hs⟩
    exact hboth.2 master hindexed

end Runs

/-! ### Two payments -/

/-- The citizen 7 with a bank account and a credit account, about to ask for a loan. -/
def borrowerGenesis : State ℕ (NativeLedger ℕ) :=
  run (step bankOfSiberia) (twoLoans.take 2) bankGenesis

/-- The loan is approved, and the citizen 7 pays 200 and then another amount. -/
def twoPayments (last : ℕ) : List (ChainInput ℕ (NativeLedger ℕ)) :=
  [.extrinsic (officerContext 3, .approveLoan 0),
    .extrinsic (citizenContext 7 4, .payCredit (deriveSubAccount bankOfSiberia 7 .credit 0) 200),
    .extrinsic (citizenContext 7 5, .payCredit (deriveSubAccount bankOfSiberia 7 .credit 0) last)]

theorem twoPayments_ask_nothing (last : ℕ) :
    ∀ i ∈ twoPayments last, ¬ i.AsksForLoan := by
  intro i hi
  simp only [twoPayments, List.mem_cons, List.not_mem_nil, or_false] at hi
  rcases hi with rfl | rfl | rfl
  · exact id
  · exact id
  · exact id

/-- A loan of 500 is paid off by payments of 200 and 300. -/
theorem loan_repayments_exact :
    ∃ s' loan, step bankOfSiberia (citizenContext 7 2, .requestLoan 500 0) borrowerGenesis =
        .ok s' ∧
      (run (chainStep bankOfSiberia) (twoPayments 300) s').loanRequests.get 0 = some loan ∧
        loan.outstandingBalance =
          500 - tally (chainStep bankOfSiberia) (repaidOn 0) (twoPayments 300) s' := by
  have hok : (step bankOfSiberia (citizenContext 7 2, .requestLoan 500 0)
      borrowerGenesis).isOk = true := by decide +kernel
  obtain ⟨s', hs'⟩ := exists_ok hok
  obtain ⟨borrower, loan, -, hloan, -, -, hout, -, -⟩ := loan_repayments bankOfSiberia
    borrowerGenesis s' _ 500 0 (twoPayments 300) hs'
    ((along_of_mem (twoPayments_ask_nothing 300)).imp fun _ _ hnot hasks => absurd hasks hnot)
  exact ⟨s', loan, hs', hloan, hout⟩

/-- **An overpaid loan.** After payments of 200 and 400 nothing is outstanding of the loan of 500,
for which 600 were transferred. -/
theorem overpaid_loan :
    let s := exec (step bankOfSiberia) (citizenContext 7 2, .requestLoan 500 0) borrowerGenesis
    let t := run (chainStep bankOfSiberia) (twoPayments 400) s
    s.loanRequests.get 0 = some (.requested 7 500 0 2) ∧
      tally (chainStep bankOfSiberia) (repaidOn 0) (twoPayments 400) s = 600 ∧
        t.outstanding 0 = 0 ∧
          t.funds bankOfSiberia + 500 = s.funds bankOfSiberia + 600 := by
  decide +kernel

end BankOfSiberia
