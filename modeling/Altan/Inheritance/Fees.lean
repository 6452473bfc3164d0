import Altan.Foundation.Accounting
import Altan.Runtime.Estates

/-!
# What a will costs while its citizen lives

Drafting a will is free. Certifying it is not: the notary names the fee, and the citizen whose will
it is pays it, without signing anything. Of the calls of other accounts that is the only one that
takes from a living citizen.

## Main definitions

* `step`: the wills as a state machine
* `OnlyDrafts a xs`, `Living a xs`: the account signs nothing but drafts, and is not dead
* `FeePaid`: what certifying a will takes from the citizen
* `Spared`: what a call does to a living citizen who did not sign it

## Main results

* `dispatch_spared`: every accepted call takes nothing, or a fee for certifying the will
* `fees_only`: so over a run a citizen loses no more than the fees
-/

open Bounded Dispatch Ledger TransitionSystem

namespace Inheritance

variable {AccountId L : Type}

/-- A call, and what it is dispatched with. -/
structure Extrinsic (AccountId : Type) where
  context : Context AccountId
  call : Call AccountId

/-- The account signs nothing but drafts of its will. -/
def OnlyDrafts (a : AccountId) (xs : List (Extrinsic AccountId)) : Prop :=
  ∀ x ∈ xs, x.context.origin = .signed a → ∃ heirs, x.call = .draftWill heirs

/-- The account is not dead in the run. -/
def Living (a : AccountId) (xs : List (Extrinsic AccountId)) : Prop :=
  ∀ x ∈ xs, x.context.isDeceased a = false

variable [DecidableEq AccountId]

/-- The fee an extrinsic asks of an account. -/
def Extrinsic.feeAsked (a : AccountId) (x : Extrinsic AccountId) : ℕ :=
  match x.call with
  | .notarizeWill targetCitizen fee => if targetCitizen = a then fee else 0
  | _ => 0

variable [Currency AccountId L]

/-- What certifying the will of an account takes from it. -/
structure FeePaid (s s' : State AccountId L) (a notary : AccountId) (fee : ℕ) : Prop where
  paid : freeBalance s'.ledger a + fee = freeBalance s.ledger a
  received : freeBalance s'.ledger notary = freeBalance s.ledger notary + fee
  alive : 0 < fee → existentialDeposit L ≤ freeBalance s'.ledger a

/-- A notary certifies the will of an account by this extrinsic, for a fee. -/
structure Certified (s s' : State AccountId L) (x : Extrinsic AccountId) (a notary : AccountId)
    (fee : ℕ) : Prop where
  call : x.call = .notarizeWill a fee
  signed : x.context.origin = .signed notary
  other : notary ≠ a
  valid : x.context.isValidNotary notary = true
  drafted : s.activeWills.containsKey a = true
  fee : FeePaid s s' a notary fee

/-- What an accepted extrinsic does to a living citizen who did not sign it: nothing is taken, but
for the fee of one who certifies the will. -/
structure Spared (s s' : State AccountId L) (x : Extrinsic AccountId) (a : AccountId) : Prop where
  reserved : reservedBalance s'.ledger a = reservedBalance s.ledger a
  free : freeBalance s.ledger a ≤ freeBalance s'.ledger a ∨
    ∃ notary fee, Certified s s' x a notary fee

section Calls

variable {ctx : Context AccountId} {s s' : State AccountId L} {a : AccountId}

omit [Currency AccountId L] in
theorem draftWill_ledger {heirs : List (AccountId × ℕ)} :
    Yields (fun s' => s'.ledger = s.ledger) (draftWill ctx heirs s) := by
  refine .bind fun _ _ => .bind fun _ _ => ?_
  split
  · split
    · exact .pure rfl
    · intro s' h
      cases h
  · intro s' h
    cases h

/-- What certifying a will goes through and does. -/
theorem notarizeWill_eq_ok {targetCitizen : AccountId} {fee : ℕ}
    (h : notarizeWill ctx targetCitizen fee s = .ok s') :
    ∃ notary, ctx.origin = .signed notary ∧ notary ≠ targetCitizen ∧
      ctx.isValidNotary notary = true ∧ s.activeWills.containsKey targetCitizen = true ∧
      Currency.transfer s.ledger targetCitizen notary fee .keepAlive = .ok s'.ledger := by
  simp only [notarizeWill, ensureSigned_bind_eq_ok, ensure_bind_eq_ok, required_bind_eq_ok,
    mapError_bind_eq_ok, pure_eq_ok] at h
  obtain ⟨notary, horigin, hother, hvalid, will, hwill, ledger, htransfer, rfl⟩ := h
  exact ⟨notary, horigin, hother, hvalid, StorageMap.containsKey_iff.mpr ⟨will, hwill⟩, htransfer⟩

theorem feePaid_of_transfer {notary : AccountId} {fee : ℕ} (hother : notary ≠ a)
    (h : Currency.transfer s.ledger a notary fee .keepAlive = .ok s'.ledger) :
    FeePaid s s' a notary fee where
  paid := by
    have hfree := Currency.transfer_keepAlive_free h a
    rw [if_pos rfl, if_neg hother.symm, Nat.add_zero] at hfree
    exact hfree
  received := by
    have hfree := Currency.transfer_keepAlive_free h notary
    rw [if_neg hother, if_pos rfl, Nat.add_zero] at hfree
    exact hfree
  alive hfee := by
    have hfree := Currency.transfer_keepAlive_free h a
    rw [if_pos rfl, if_neg hother.symm, Nat.add_zero] at hfree
    have hkept := Currency.transfer_keepAlive s.ledger a notary fee s'.ledger hfee.ne'
      hother.symm h
    omega

/-- A will is certified: the citizen pays the fee, and nobody else pays. -/
theorem notarizeWill_spared {targetCitizen : AccountId} {fee : ℕ}
    (h : notarizeWill ctx targetCitizen fee s = .ok s') :
    Spared s s' ⟨ctx, .notarizeWill targetCitizen fee⟩ a := by
  obtain ⟨notary, horigin, hother, hvalid, hdrafted, htransfer⟩ := notarizeWill_eq_ok h
  refine ⟨Currency.transfer_reserved htransfer a, ?_⟩
  -- only the citizen whose will it is pays
  by_cases ha : a = targetCitizen
  · subst ha
    exact Or.inr ⟨notary, fee, rfl, horigin, hother, hvalid, hdrafted,
      feePaid_of_transfer hother htransfer⟩
  · have hfree := Currency.transfer_keepAlive_free htransfer a
    rw [if_neg ha, Nat.add_zero] at hfree
    exact Or.inl (Nat.le.intro hfree.symm)

variable [EscrowCurrency AccountId L] {cfg : Config AccountId}

/-- The will of the dead is executed: nobody else pays. -/
theorem executeWill_spared {deceasedCitizen : AccountId} (hliving : ctx.isDeceased a = false)
    (h : executeWill cfg ctx deceasedCitizen s = .ok s') :
    Spared s s' ⟨ctx, .executeWill deceasedCitizen⟩ a := by
  simp only [executeWill, ensureSigned_bind_eq_ok, ensure_bind_eq_ok] at h
  obtain ⟨-, -, hdead, h⟩ := h
  -- the account lives, so it is not the one whose will is executed
  have hother : a ≠ deceasedCitizen := by
    rintro rfl
    rw [hliving] at hdead
    cases hdead
  obtain ⟨t, l, ht, hslashed, hdisbursed⟩ :=
    doExecuteWill_spec cfg ctx.totalOutstandingDebt deceasedCitizen s
  obtain rfl := Except.ok.inj (ht.symm.trans h)
  constructor
  · exact (hdisbursed.othersReserved a hother).trans (hslashed.othersReserved a hother)
  · refine Or.inl ?_
    rw [← hslashed.free a]
    exact hdisbursed.others a hother

/-- **Every accepted call spares a living citizen, but for the fee of a notary.** -/
theorem dispatch_spared {c : Call AccountId} (hliving : ctx.isDeceased a = false)
    (h : dispatch cfg ctx c s = .ok s') : Spared s s' ⟨ctx, c⟩ a := by
  cases c with
  | draftWill heirs =>
    have hledger := draftWill_ledger s' h
    exact ⟨by rw [hledger], Or.inl (by rw [hledger])⟩
  | notarizeWill targetCitizen fee => exact notarizeWill_spared h
  | executeWill deceasedCitizen => exact executeWill_spared hliving h

end Calls

/-! ### Runs -/

section Runs

variable [EscrowCurrency AccountId L]

/-- The state after one extrinsic. -/
def step (cfg : Config AccountId) (x : Extrinsic AccountId) (s : State AccountId L) :
    Result (State AccountId L) :=
  dispatch cfg x.context x.call s

/-- The fees that accepted calls take from an account for certifying its will. -/
def feesPaid (cfg : Config AccountId) (a : AccountId) : List (Extrinsic AccountId) →
    State AccountId L → ℕ :=
  tally (step cfg) fun _ x => x.feeAsked a

variable {cfg : Config AccountId} {a : AccountId} {s s' : State AccountId L}
  {x : Extrinsic AccountId} {xs : List (Extrinsic AccountId)}

omit [EscrowCurrency AccountId L] in
/-- What a citizen loses is the fee that is asked. -/
theorem Spared.le (h : Spared s s' x a) :
    freeBalance s.ledger a ≤ freeBalance s'.ledger a + x.feeAsked a := by
  rcases h.free with hle | ⟨notary, fee, hcertified⟩
  · exact Nat.le_add_right_of_le hle
  · have hpaid := hcertified.fee.paid
    have hasked : x.feeAsked a = fee := by
      unfold Extrinsic.feeAsked
      rw [hcertified.call]
      exact if_pos rfl
    omega

/-- Over a run a citizen who lives loses no more than the fees. -/
theorem le_feesPaid (hliving : Living a xs) :
    freeBalance s.ledger a ≤ freeBalance (run (step cfg) xs s).ledger a + feesPaid cfg a xs s ∧
      reservedBalance (run (step cfg) xs s).ledger a = reservedBalance s.ledger a := by
  induction xs generalizing s with
  | nil => exact ⟨Nat.le_add_right _ _, rfl⟩
  | cons x xs ih =>
    have hrest : Living a xs := fun y hy => hliving y (List.mem_cons_of_mem x hy)
    unfold feesPaid
    -- a refused call costs nothing
    cases hs : step cfg x s with
    | error e =>
      rw [tally_cons_error hs, run_cons, exec_error hs]
      exact ih hrest
    | ok s' =>
      rw [tally_cons_ok hs, run_cons, exec_ok hs]
      have hspared := dispatch_spared (hliving x List.mem_cons_self) hs
      obtain ⟨hfree, hreserved⟩ := ih (s := s') hrest
      have hfirst : freeBalance s.ledger a ≤ freeBalance s'.ledger a + x.feeAsked a := hspared.le
      unfold feesPaid at hfree
      exact ⟨by omega, hreserved.trans hspared.reserved⟩

/-- While an account lives, whatever it drafts, an accepted call takes nothing from it, except that
a valid notary certifies its will for a fee, which the account pays to the notary and survives; so
over the run it loses no more than those fees. -/
theorem fees_only (cfg : Config AccountId) (a : AccountId) (xs : List (Extrinsic AccountId))
    (s : State AccountId L) (hliving : Living a xs) :
    Along (step cfg) (fun s x => Spared s (exec (step cfg) x s) x a) xs s ∧
      freeBalance s.ledger a ≤
        freeBalance (run (step cfg) xs s).ledger a + feesPaid cfg a xs s ∧
      reservedBalance (run (step cfg) xs s).ledger a = reservedBalance s.ledger a := by
  refine ⟨?_, le_feesPaid hliving⟩
  refine along_of_invariant (J := fun _ => True) (G := fun _ x => x.context.isDeceased a = false)
    (fun _ _ _ _ _ _ => trivial) (fun x s s' _ hlives h => ?_) trivial (along_of_mem hliving)
  rw [exec_ok h]
  exact dispatch_spared hlives h

end Runs

/-! ### A notary who names the fee -/

/-- A call about wills where the account 8 is a notary, and nobody is dead. -/
def amongLiving (who : ℕ) (call : Call ℕ) : Extrinsic ℕ where
  context :=
    { origin := .signed who
      isValidNotary := fun a => decide (a = 8)
      isDeceased := fun _ => false
      totalOutstandingDebt := fun _ => 0 }
  call := call

/-- A citizen drafts a will, and the notary certifies it twice. -/
def certifiedTwice : List (Extrinsic ℕ) :=
  [amongLiving 7 (.draftWill [(9, 100)]),
    amongLiving 8 (.notarizeWill 7 (400 * CentralBank.unit)),
    amongLiving 8 (.notarizeWill 7 (500 * CentralBank.unit))]

/-- The citizen and the notary have a thousand units each, and there are no wills. -/
def thousandEach : State ℕ (Runtime.EscrowLedger ℕ) where
  activeWills := ∅
  ledger := ProvidedBalances.ofFree [(7, 1000 * CentralBank.unit), (8, 1000 * CentralBank.unit)]

/-- The citizen signs a draft only, and is left with a hundred units. -/
theorem notary_names_fee :
    ¬ ∀ (a : ℕ) (xs : List (Extrinsic ℕ)), OnlyDrafts a xs → Living a xs →
      freeBalance thousandEach.ledger a ≤
        freeBalance (run (step ⟨2⟩) xs thousandEach).ledger a := by
  intro h
  have hdrafts : OnlyDrafts 7 certifiedTwice := by
    simp [OnlyDrafts, certifiedTwice, amongLiving]
  have hliving : Living 7 certifiedTwice := by
    simp [Living, certifiedTwice, amongLiving]
  have hkept := h 7 certifiedTwice hdrafts hliving
  revert hkept
  decide +kernel

/-- What the citizen loses to the notary are the two fees. -/
theorem fees_only_twice :
    1000 * CentralBank.unit ≤
      freeBalance (run (step ⟨2⟩) certifiedTwice thousandEach).ledger 7 +
        feesPaid ⟨2⟩ 7 certifiedTwice thousandEach := by
  have hliving : Living 7 certifiedTwice := by
    simp [Living, certifiedTwice, amongLiving]
  have hstart : freeBalance thousandEach.ledger 7 = 1000 * CentralBank.unit := by decide +kernel
  rw [← hstart]
  exact (fees_only ⟨2⟩ 7 certifiedTwice thousandEach hliving).2.1

end Inheritance
