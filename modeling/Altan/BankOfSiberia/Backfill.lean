import Altan.BankOfSiberia.Chain
import Altan.BankOfSiberia.Spec
import Altan.BankOfSiberia.Loans
import Altan.Foundation.Iteration

/-!
# The backfill of the index of active loans

Payments find a loan through the index of active loans, which an upgrade of the runtime fills from
the loans recorded before. It is documented to register the highest loan of a borrower; it keeps
the first it meets, and meets them in the order of the hashes of their identifiers. The two are
the same just when no borrower has two active loans.

## Main definitions

* `backfillStep`, `onRuntimeUpgrade`: the upgrade, in an order of iteration
* `ActiveLoan`: a borrower's active loans
* `AsDocumented`: what the upgrade is documented to do on a storage

## Main results

* `get_foldl_backfillStep`: whom the upgrade files a borrower's loans by
* `onRuntimeUpgrade_eq_self`: it leaves an index that has all active loans
* `activeIndexed_run`: as every run does
* `backfill_iff`: the upgrade does as documented just when no borrower has two active loans
-/

open Bounded Dispatch TransitionSystem Runtime

namespace BankOfSiberia

variable {AccountId L : Type} [DecidableEq AccountId]

/-- File one loan: an active one, unless its borrower has an entry. -/
def backfillStep (index : StorageMap AccountId ℕ) (e : ℕ × LoanRequest AccountId) :
    StorageMap AccountId ℕ :=
  if e.2.status = .active then
    if index.containsKey e.2.borrower = false then index.insert e.2.borrower e.1 else index
  else index

/-- The upgrade: all loans are filed, in the order in which they are met. -/
def onRuntimeUpgrade (order : IterationOrder ℕ) (s : State AccountId L) : State AccountId L :=
  { s with
    activeLoanByBorrower :=
      (s.loanRequests.iter order).foldl backfillStep s.activeLoanByBorrower }

omit [DecidableEq AccountId] in
/-- The identifier is that of an active loan of the borrower. -/
def ActiveLoan (s : State AccountId L) (borrower : AccountId) (id : ℕ) : Prop :=
  ∃ loan, s.loanRequests.get id = some loan ∧ loan.borrower = borrower ∧ loan.status = .active

/-- What the upgrade is documented to do: in whatever order the loans are met, a borrower has an
entry just when there is an active loan of theirs, and then it is the highest; the order does not
matter, and a second upgrade changes nothing. -/
structure AsDocumented (s : State AccountId L) : Prop where
  entry_iff : ∀ order borrower,
    (onRuntimeUpgrade order s).activeLoanByBorrower.containsKey borrower = true ↔
      ∃ id, ActiveLoan s borrower id
  highest : ∀ order borrower id,
    (onRuntimeUpgrade order s).activeLoanByBorrower.get borrower = some id →
      IsGreatest {id | ActiveLoan s borrower id} id
  independent : ∀ order order', onRuntimeUpgrade order s = onRuntimeUpgrade order' s
  idempotent : ∀ order order',
    onRuntimeUpgrade order' (onRuntimeUpgrade order s) = onRuntimeUpgrade order s

/-! ### The entries -/

section Entries

variable {s : State AccountId L} {order : IterationOrder ℕ} {borrower : AccountId} {id : ℕ}

/-- A loan is filed under its borrower, if it is active and nothing is filed there. -/
theorem get_backfillStep (index : StorageMap AccountId ℕ) (e : ℕ × LoanRequest AccountId)
    (borrower : AccountId) :
    (backfillStep index e).get borrower = (index.get borrower).or
      (if e.2.borrower = borrower ∧ e.2.status = .active then some e.1 else none) := by
  unfold backfillStep
  split
  · next hactive =>
    split
    · next hfree =>
      rw [StorageMap.get_insert]
      by_cases hb : borrower = e.2.borrower
      · rw [if_pos hb, if_pos ⟨hb.symm, hactive⟩, hb, StorageMap.not_containsKey.mp hfree]
        rfl
      · rw [if_neg hb, if_neg fun h => hb h.1.symm, Option.or_none]
    · next htaken =>
      obtain ⟨id, hid⟩ := StorageMap.containsKey_iff.mp (Bool.not_eq_false _ ▸ htaken)
      by_cases hb : borrower = e.2.borrower
      · rw [hb, hid]
        rfl
      · rw [if_neg fun h => hb h.1.symm, Option.or_none]
  · next hinactive => rw [if_neg fun h => hinactive h.2, Option.or_none]

/-- **A borrower keeps their entry, and else gets the first active loan that is met.** -/
theorem get_foldl_backfillStep (es : List (ℕ × LoanRequest AccountId))
    (index : StorageMap AccountId ℕ) (borrower : AccountId) :
    (es.foldl backfillStep index).get borrower = (index.get borrower).or
      ((es.find? fun e => e.2.borrower = borrower ∧ e.2.status = .active).map Prod.fst) := by
  -- on the loans that are met
  induction es generalizing index with
  | nil => exact Option.or_none.symm
  | cons e es ih =>
    rw [List.foldl_cons, ih, get_backfillStep, Option.or_assoc, List.find?_cons]
    by_cases he : e.2.borrower = borrower ∧ e.2.status = .active
    · rw [if_pos he, decide_eq_true he]
      rfl
    · rw [if_neg he, decide_eq_false he]
      rfl

theorem onRuntimeUpgrade_get (hempty : s.activeLoanByBorrower = ∅) :
    (onRuntimeUpgrade order s).activeLoanByBorrower.get borrower =
      ((s.loanRequests.iter order).find? fun e =>
        e.2.borrower = borrower ∧ e.2.status = .active).map Prod.fst := by
  refine (get_foldl_backfillStep _ _ _).trans ?_
  rw [hempty]
  rfl

/-- An entry of the upgrade names an active loan of the borrower. -/
theorem activeLoan_of_get (hempty : s.activeLoanByBorrower = ∅)
    (h : (onRuntimeUpgrade order s).activeLoanByBorrower.get borrower = some id) :
    ActiveLoan s borrower id := by
  rw [onRuntimeUpgrade_get hempty] at h
  obtain ⟨⟨id', loan⟩, hfind, rfl⟩ := Option.map_eq_some_iff.mp h
  have htrue := List.find?_some hfind
  have hactive := of_decide_eq_true htrue
  exact ⟨loan, StorageMap.mem_iter.mp (List.mem_of_find?_eq_some hfind), hactive.1, hactive.2⟩

/-- A borrower with an active loan gets an entry. -/
theorem exists_get_of_activeLoan (order : IterationOrder ℕ) (hempty : s.activeLoanByBorrower = ∅)
    (h : ActiveLoan s borrower id) :
    ∃ id', (onRuntimeUpgrade order s).activeLoanByBorrower.get borrower = some id' := by
  obtain ⟨loan, hloan, hborrower, hactive⟩ := h
  rw [onRuntimeUpgrade_get hempty, ← Option.isSome_iff_exists, Option.isSome_map,
    List.find?_isSome]
  exact ⟨(id, loan), StorageMap.mem_iter.mpr hloan, decide_eq_true ⟨hborrower, hactive⟩⟩

/-- Any active loan of a borrower is the entry, if it is met first. -/
theorem get_startingAt (order : IterationOrder ℕ) (hempty : s.activeLoanByBorrower = ∅)
    (h : ActiveLoan s borrower id) :
    (onRuntimeUpgrade (order.startingAt id) s).activeLoanByBorrower.get borrower = some id := by
  obtain ⟨loan, hloan, hborrower, hactive⟩ := h
  obtain ⟨rest, hiter⟩ := StorageMap.iter_startingAt order hloan
  rw [onRuntimeUpgrade_get hempty, hiter, List.find?_cons, decide_eq_true ⟨hborrower, hactive⟩]
  rfl

end Entries

/-! ### The index that the calls keep -/

/-- Every active loan is in the index. -/
def ActiveIndexed (s : State AccountId L) : Prop :=
  ∀ borrower id, ActiveLoan s borrower id → s.activeLoanByBorrower.get borrower = some id

section Kept

variable {s s' : State AccountId L} {order : IterationOrder ℕ}

/-- **The upgrade leaves an index that has an entry for every active loan.** -/
theorem onRuntimeUpgrade_eq_self
    (h : ∀ borrower id, ActiveLoan s borrower id →
      s.activeLoanByBorrower.containsKey borrower = true) :
    onRuntimeUpgrade order s = s := by
  have hindex : (s.loanRequests.iter order).foldl backfillStep s.activeLoanByBorrower =
      s.activeLoanByBorrower := by
    ext borrower : 1
    rw [get_foldl_backfillStep]
    cases hget : s.activeLoanByBorrower.get borrower with
    | some id => rfl
    | none =>
      -- there is nothing to file for a borrower without an entry
      have hnone : ((s.loanRequests.iter order).find? fun e =>
          e.2.borrower = borrower ∧ e.2.status = .active) = none := by
        rw [List.find?_eq_none]
        rintro ⟨id, loan⟩ hmem htrue
        have hactive := of_decide_eq_true htrue
        have hkey := h borrower id ⟨loan, StorageMap.mem_iter.mp hmem, hactive.1, hactive.2⟩
        rw [StorageMap.not_containsKey.mpr hget] at hkey
        cases hkey
      rw [hnone]
      rfl
  unfold onRuntimeUpgrade
  rw [hindex]

theorem ActiveIndexed.upgrade (h : ActiveIndexed s) : onRuntimeUpgrade order s = s :=
  onRuntimeUpgrade_eq_self fun borrower id hactive =>
    StorageMap.containsKey_iff.mpr ⟨id, h borrower id hactive⟩

theorem ActiveIndexed.of_loanBook (h : ActiveIndexed s) (heq : s'.loanBook = s.loanBook) :
    ActiveIndexed s' := by
  have hrequests : s'.loanRequests = s.loanRequests := congrArg LoanBook.requests heq
  have hindex : s'.activeLoanByBorrower = s.activeLoanByBorrower := congrArg LoanBook.active heq
  intro borrower id hactive
  rw [hindex]
  refine h borrower id ?_
  unfold ActiveLoan at hactive ⊢
  rwa [← hrequests]

/-- A record that is written and not active leaves the index complete, when its entries stay. -/
theorem ActiveIndexed.of_insert {id : ℕ} {loan : LoanRequest AccountId} (h : ActiveIndexed s)
    (hrequests : s'.loanRequests = s.loanRequests.insert id loan) (hloan : loan.status ≠ .active)
    (hindex : ∀ borrower id', id' ≠ id → s.activeLoanByBorrower.get borrower = some id' →
      s'.activeLoanByBorrower.get borrower = some id') : ActiveIndexed s' := by
  rintro borrower id' ⟨loan', hget, hborrower, hactive⟩
  rw [hrequests] at hget
  rcases StorageMap.get_insert_cases hget with ⟨-, rfl⟩ | ⟨hne, hget⟩
  · exact absurd hactive hloan
  · exact hindex borrower id' hne (h borrower id' ⟨loan', hget, hborrower, hactive⟩)

/-- The one active loan of a borrower is the entry, in whatever order the loans are met. -/
theorem get_of_unique (order : IterationOrder ℕ) (hempty : s.activeLoanByBorrower = ∅)
    (hone : ∀ borrower id id', ActiveLoan s borrower id → ActiveLoan s borrower id' → id = id')
    {borrower : AccountId} {id : ℕ} (hactive : ActiveLoan s borrower id) :
    (onRuntimeUpgrade order s).activeLoanByBorrower.get borrower = some id := by
  obtain ⟨id', hid'⟩ := exists_get_of_activeLoan order hempty hactive
  rw [hid', hone borrower id' id (activeLoan_of_get hempty hid') hactive]

/-- Two orders agree when each borrower has one active loan. -/
theorem onRuntimeUpgrade_of_unique (order order' : IterationOrder ℕ)
    (hempty : s.activeLoanByBorrower = ∅)
    (hone : ∀ borrower id id', ActiveLoan s borrower id → ActiveLoan s borrower id' → id = id') :
    onRuntimeUpgrade order s = onRuntimeUpgrade order' s := by
  have hindex : (onRuntimeUpgrade order s).activeLoanByBorrower =
      (onRuntimeUpgrade order' s).activeLoanByBorrower := by
    ext borrower id : 2
    constructor
    · intro h
      exact get_of_unique order' hempty hone (activeLoan_of_get hempty h)
    · intro h
      exact get_of_unique order hempty hone (activeLoan_of_get hempty h)
  exact congrArg (fun index => { s with activeLoanByBorrower := index }) hindex

/-- **The upgrade does as documented** when no borrower has two active loans. -/
theorem asDocumented_of_unique (hempty : s.activeLoanByBorrower = ∅)
    (hone : ∀ borrower id id', ActiveLoan s borrower id → ActiveLoan s borrower id' → id = id') :
    AsDocumented s := by
  refine ⟨?_, ?_, ?_, ?_⟩
  · intro order borrower
    rw [StorageMap.containsKey_iff]
    constructor
    · rintro ⟨id, hid⟩
      exact ⟨id, activeLoan_of_get hempty hid⟩
    · rintro ⟨id, hid⟩
      exact ⟨id, get_of_unique order hempty hone hid⟩
  · intro order borrower id hid
    have hactive := activeLoan_of_get hempty hid
    exact ⟨hactive, fun id' hid' => (hone borrower id' id hid' hactive).le⟩
  · intro order order'
    exact onRuntimeUpgrade_of_unique order order' hempty hone
  · intro order order'
    have hindexed : ActiveIndexed (onRuntimeUpgrade order s) :=
      fun borrower id hactive => get_of_unique order hempty hone hactive
    exact hindexed.upgrade

end Kept

section Steps

variable [Currency AccountId L] [LockableCurrency AccountId L] {cfg : Config AccountId}
  {s s' : State AccountId L}

omit [LockableCurrency AccountId L] in
/-- What a payment keeps: an active loan stays in the index until it is paid off. -/
theorem Paid.activeIndexed {master : AccountId} {loanId amount : ℕ} {loan : LoanRequest AccountId}
    (h : ActiveIndexed s) (hp : Paid s s' master loanId loan amount) : ActiveIndexed s' := by
  have hrequests : s'.loanRequests = s.loanRequests.insert loanId (loan.afterPayment amount) :=
    congrArg LoanBook.requests hp.loanBook
  have hindex : s'.activeLoanByBorrower = if loan.outstandingBalance - amount = 0 then
      s.activeLoanByBorrower.remove master else s.activeLoanByBorrower :=
    congrArg LoanBook.active hp.loanBook
  rcases afterPayment_cases loan amount with ⟨hzero, hstatus⟩ | ⟨hrest, hstatus, -⟩
  · rw [if_pos hzero] at hindex
    refine h.of_insert hrequests (by rw [hstatus]; decide) ?_
    intro borrower id hne hget
    -- the entry that goes is that of the loan paid off
    have hother : borrower ≠ master := by
      rintro rfl
      rw [hp.indexed] at hget
      exact hne (Option.some.inj hget).symm
    rw [hindex, StorageMap.get_remove_of_ne hother]
    exact hget
  · rw [if_neg hrest] at hindex
    rintro borrower id ⟨loan', hget, hborrower, hactive⟩
    rw [hindex]
    rw [hrequests] at hget
    rcases StorageMap.get_insert_cases hget with ⟨rfl, rfl⟩ | ⟨-, hget⟩
    · exact h borrower id ⟨loan, hp.found, (afterPayment_terms loan amount).1.symm.trans hborrower,
        hp.active⟩
    · exact h borrower id ⟨loan', hget, hborrower, hactive⟩

omit [LockableCurrency AccountId L] in
/-- What an approval keeps: the loan it makes active gets the entry of its borrower. -/
theorem Approved.activeIndexed {loanId : ℕ} {loan : LoanRequest AccountId}
    (h : ActiveIndexed s) (ha : Approved s s' loanId loan) : ActiveIndexed s' := by
  have hrequests : s'.loanRequests =
      s.loanRequests.insert loanId { loan with status := .active } :=
    congrArg LoanBook.requests ha.loanBook
  have hindex : s'.activeLoanByBorrower = s.activeLoanByBorrower.insert loan.borrower loanId :=
    congrArg LoanBook.active ha.loanBook
  rintro borrower id ⟨loan', hget, hborrower, hactive⟩
  rw [hindex]
  rw [hrequests] at hget
  rcases StorageMap.get_insert_cases hget with ⟨rfl, rfl⟩ | ⟨-, hget⟩
  · rw [← hborrower]
    exact StorageMap.get_insert_self
  · have hbefore := h borrower id ⟨loan', hget, hborrower, hactive⟩
    -- the borrower had no entry, and so no active loan
    have hother : borrower ≠ loan.borrower := by
      rintro rfl
      rw [ha.unindexed] at hbefore
      cases hbefore
    rw [StorageMap.get_insert_of_ne hother]
    exact hbefore

/-- **What one call keeps.** -/
theorem activeIndexed_step {x : Extrinsic AccountId} (hi : ActiveIndexed s)
    (h : step cfg x s = .ok s') : ActiveIndexed s' := by
  have heffect := step_loans h
  obtain ⟨ctx, call⟩ := x
  cases call with
  | requestLoan amount collateral =>
    obtain ⟨_, _, hr⟩ := heffect
    refine hi.of_insert (congrArg LoanBook.requests hr.loanBook) LoanStatus.noConfusion ?_
    intro borrower id _ hget
    exact (congrArg (fun b => b.active.get borrower) hr.loanBook).trans hget
  | payCredit subAccount amount =>
    obtain ⟨_, _, _, _, hp⟩ := heffect
    exact hp.activeIndexed hi
  | approveLoan loanId =>
    obtain ⟨_, ha⟩ := heffect
    exact ha.activeIndexed hi
  | cancelLoanRequest loanId =>
    obtain ⟨_, _, _, hc⟩ := heffect
    refine hi.of_insert (congrArg LoanBook.requests hc.loanBook) LoanStatus.noConfusion ?_
    intro borrower id _ hget
    exact (congrArg (fun b => b.active.get borrower) hc.loanBook).trans hget
  | _ => exact hi.of_loanBook heffect.loanBook

/-- **What every run keeps.** Also one that reuses the last identifier. -/
theorem activeIndexed_run (cfg : Config AccountId) (is : List (ChainInput AccountId L))
    (hi : ActiveIndexed s) : ActiveIndexed (run (chainStep cfg) is s) := by
  refine run_invariant ?_ is hi
  intro i t t' ht h
  cases i with
  | extrinsic x => exact activeIndexed_step ht h
  | elsewhere centralBank =>
    obtain rfl := Except.ok.inj h
    exact ht.of_loanBook rfl

/-- **The upgrade does as documented just when no borrower has two active loans**, on a storage
whose index is empty; and on one that a run has reached it changes nothing. -/
theorem backfill_iff (cfg : Config AccountId) (c : CentralBank.State AccountId L)
    (hempty : s.activeLoanByBorrower = ∅) :
    (AsDocumented s ∧ ∀ (is : List (ChainInput AccountId L)) (order : IterationOrder ℕ),
      onRuntimeUpgrade order (run (chainStep cfg) is (genesis c)) =
        run (chainStep cfg) is (genesis c)) ↔
      ∀ borrower id id', ActiveLoan s borrower id → ActiveLoan s borrower id' → id = id' := by
  constructor
  · rintro ⟨hdoc, -⟩ borrower id id' hid hid'
    -- either loan is the entry in an order that meets it first
    have heq := hdoc.independent (IterationOrder.ascending.startingAt id)
      (IterationOrder.ascending.startingAt id')
    have hget := get_startingAt .ascending hempty hid
    rw [heq, get_startingAt .ascending hempty hid'] at hget
    exact (Option.some.inj hget).symm
  · intro hone
    refine ⟨asDocumented_of_unique hempty hone, fun is order => ?_⟩
    refine (activeIndexed_run cfg is ?_).upgrade
    rintro borrower id ⟨loan, hloan, -⟩
    cases hloan

end Steps

/-- A loan of citizen 7 as it was kept before there was an index. -/
def recordedLoan (status : LoanStatus) : LoanRequest ℕ where
  borrower := 7
  collateral := 0
  amount := 500
  submittedAt := 1
  status := status
  outstandingBalance := 500

/-- The storage before the upgrade, with two loans of citizen 7. -/
def beforeUpgrade (second : LoanStatus) : State ℕ (NativeLedger ℕ) :=
  { bankGenesis with
    loanRequests := StorageMap.insert (StorageMap.insert ∅ 0 (recordedLoan .active)) 1
      (recordedLoan second)
    nextLoanId := 2 }

/-- With the second loan pending the upgrade does as documented. -/
theorem backfill_pending : AsDocumented (beforeUpgrade .pending) := by
  refine ((backfill_iff bankOfSiberia bankGenesis.centralBank rfl).mpr ?_).1
  -- the one active loan is the first
  have hfirst : ∀ borrower id, ActiveLoan (beforeUpgrade .pending) borrower id → id = 0 := by
    rintro borrower id ⟨loan, hloan, -, hactive⟩
    rcases StorageMap.get_insert_cases hloan with ⟨-, rfl⟩ | ⟨-, hloan⟩
    · cases hactive
    · rcases StorageMap.get_insert_cases hloan with ⟨rfl, -⟩ | ⟨-, hloan⟩
      · rfl
      · cases hloan
  intro borrower id id' hid hid'
  rw [hfirst borrower id hid, hfirst borrower id' hid']

/-- With both active, and met in the order of their identifiers, the first is registered: the
entry is not the highest. -/
theorem backfill_lower :
    (beforeUpgrade .active).activeLoanByBorrower = ∅ ∧
      (onRuntimeUpgrade .ascending (beforeUpgrade .active)).activeLoanByBorrower.get 7 = some 0 ∧
        ActiveLoan (beforeUpgrade .active) 7 1 ∧ ¬ AsDocumented (beforeUpgrade .active) := by
  have hentry : (onRuntimeUpgrade .ascending (beforeUpgrade .active)).activeLoanByBorrower.get 7 =
      some 0 := by decide +kernel
  have hactive : ActiveLoan (beforeUpgrade .active) 7 1 :=
    ⟨recordedLoan .active, StorageMap.get_insert_self, rfl, rfl⟩
  refine ⟨rfl, hentry, hactive, ?_⟩
  intro hdoc
  exact absurd ((hdoc.highest _ _ _ hentry).2 hactive) (by decide)

end BankOfSiberia
