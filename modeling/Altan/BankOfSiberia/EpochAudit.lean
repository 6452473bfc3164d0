import Altan.BankOfSiberia.Wholesale
import Altan.CentralBank.Epochs
import Altan.Foundation.Accounting

/-!
# The audit of the epochs

What the records of the epochs say after any run of calls of both modules. What an epoch has
issued and repaid are its loans and repayments, clipped at the range of the records, and their
difference is what is still owed in it as long as nothing has clipped.

## Main definitions

* `auditEntry`: what an input posts to the records of the epochs
* `EpochInvariant`: what every input keeps

## Main results

* `epochs_audited`: the records after a run, and in every later run
* `clipped_epoch_unaudited`: a run after which an epoch that has clipped does not add up
-/

open Bounded Dispatch TransitionSystem Runtime
open CentralBank (Represents Entry Posted Numbered EpochsKept)

namespace BankOfSiberia

variable {AccountId L : Type} [DecidableEq AccountId] {cfg : Config AccountId}

/-- What an input posts to the records of the epochs. -/
def auditEntry (cfg : Config AccountId) : Input AccountId → Entry AccountId
  | .centralBank x => CentralBank.entry x
  | .bankOfSiberia (_, .borrowWholesale amount) => .loan cfg.treasuryAccount amount
  | .bankOfSiberia (_, .repayWholesale epochId amount) =>
    .repayment cfg.treasuryAccount epochId amount
  | .bankOfSiberia _ => .nothing

/-- The input opens an epoch. -/
def IsTransition (cfg : Config AccountId) (i : Input AccountId) : Prop :=
  auditEntry cfg i = .opening

instance (cfg : Config AccountId) : DecidablePred (IsTransition cfg) := fun i =>
  inferInstanceAs (Decidable (auditEntry cfg i = .opening))

/-- What an input lends in an epoch, if it is accepted. -/
def lentIn (cfg : Config AccountId) (e : ℕ) (s : State AccountId L) (i : Input AccountId) : ℕ :=
  (auditEntry cfg i).issuedIn s.centralBank.currentEpochId e

/-- What an input takes back of the debts in an epoch, if it is accepted. -/
def takenBackIn (cfg : Config AccountId) (e : ℕ) (_ : State AccountId L)
    (i : Input AccountId) : ℕ :=
  (auditEntry cfg i).repaidIn e

/-- The pool is represented, the records are numbered, and their totals are in range. -/
structure EpochInvariant (cfg : Config AccountId) (s : State AccountId L) : Prop where
  represented : ∃ b, Represents cfg.centralBank s.centralBank b
  numbered : Numbered s.centralBank
  issued_le : ∀ e, s.centralBank.issuedIn e ≤ u128Max
  repaid_le : ∀ e, s.centralBank.repaidIn e ≤ u128Max

/-- The input finds an identifier left if it opens an epoch. -/
def HasRoom (cfg : Config AccountId) (s : State AccountId L) (i : Input AccountId) : Prop :=
  (auditEntry cfg i).HasRoom s.centralBank

section Steps

variable [Currency AccountId L] [CentralBank.ProxyModule AccountId L] [LockableCurrency AccountId L]
  {s s' : State AccountId L} {is js : List (Input AccountId)}

/-- **An accepted input posts its entry.** -/
theorem jointStep_posted {i : Input AccountId} (h : jointStep cfg i s = .ok s') :
    Posted cfg.centralBank s.centralBank s'.centralBank (auditEntry cfg i) := by
  cases i with
  | centralBank x =>
    obtain ⟨c, hc, rfl⟩ := onCentralBank_eq_ok.mp h
    exact CentralBank.step_posted hc
  | bankOfSiberia x =>
    have heffect := step_wholesale h
    obtain ⟨ctx, call⟩ := x
    cases call with
    | borrowWholesale amount => exact heffect
    | repayWholesale epochId amount => exact heffect
    | _ =>
      show s'.centralBank.records = s.centralBank.records
      rw [show s'.centralBank = _ from heffect]
      rfl

/-- **What every accepted input keeps**, as long as there are identifiers for new epochs. -/
theorem epochInvariant_step {i : Input AccountId} (hi : EpochInvariant cfg s)
    (hroom : HasRoom cfg s i) (h : jointStep cfg i s = .ok s') : EpochInvariant cfg s' := by
  have hposted := jointStep_posted h
  refine ⟨represents_jointStep hi.represented h, hposted.numbered hroom hi.numbered, ?_, ?_⟩
  · intro e
    rw [hposted.issuedIn hroom hi.numbered (hi.issued_le e)]
    exact Nat.min_le_right _ _
  · intro e
    rw [hposted.repaidIn hroom hi.numbered (hi.repaid_le e)]
    exact Nat.min_le_right _ _

/-- A run with few enough transitions finds identifiers for all of them. -/
theorem along_hasRoom
    (h : s.centralBank.currentEpochId + accepted (jointStep cfg) (IsTransition cfg) is s ≤
      u32Max) : Along (jointStep cfg) (HasRoom cfg) is s := by
  refine along_of_accepted_le (c := fun s : State AccountId L => s.centralBank.currentEpochId) ?_ h
  intro i s s' hs
  exact (jointStep_posted hs).currentEpochId_le

theorem epochInvariant_run (hi : EpochInvariant cfg s)
    (hroom : Along (jointStep cfg) (HasRoom cfg) is s) :
    EpochInvariant cfg (run (jointStep cfg) is s) :=
  run_of_along (fun _ _ _ => epochInvariant_step) hi hroom

/-- **The records of a run.** What an epoch has issued and repaid is clipped; what is owed in it
is not. -/
theorem epochs_run (hi : EpochInvariant cfg s)
    (hroom : Along (jointStep cfg) (HasRoom cfg) is s) (e : ℕ) :
    let c := s.centralBank
    let c' := (run (jointStep cfg) is s).centralBank
    c'.issuedIn e = min (c.issuedIn e + tally (jointStep cfg) (lentIn cfg e) is s) u128Max ∧
      c'.repaidIn e =
        min (c.repaidIn e + tally (jointStep cfg) (takenBackIn cfg e) is s) u128Max ∧
      c'.operatorDebt.columnTotal e + tally (jointStep cfg) (takenBackIn cfg e) is s =
        c.operatorDebt.columnTotal e + tally (jointStep cfg) (lentIn cfg e) is s := by
  refine ⟨?_, ?_, ?_⟩
  · refine tally_clip (fun s => s.centralBank.issuedIn e) (lentIn cfg e)
      (fun _ _ _ => epochInvariant_step) ?_ hi (hi.issued_le e) hroom
    intro i s s' hi hq h
    exact (jointStep_posted h).issuedIn hq hi.numbered (hi.issued_le e)
  · refine tally_clip (fun s => s.centralBank.repaidIn e) (takenBackIn cfg e)
      (fun _ _ _ => epochInvariant_step) ?_ hi (hi.repaid_le e) hroom
    intro i s s' hi hq h
    exact (jointStep_posted h).repaidIn hq hi.numbered (hi.repaid_le e)
  · refine tally_balance (fun s => s.centralBank.operatorDebt.columnTotal e)
      (lentIn cfg e) (takenBackIn cfg e) (fun _ _ _ => epochInvariant_step) ?_ hi hroom
    intro i s s' hi _ h
    obtain ⟨b, hb⟩ := hi.represented
    exact (jointStep_posted h).columnTotal hb

/-- Closed epochs stay as they are in every run. -/
theorem epochsKept_run (hi : EpochInvariant cfg s)
    (hroom : Along (jointStep cfg) (HasRoom cfg) is s) :
    EpochsKept s.centralBank (run (jointStep cfg) is s).centralBank := by
  have hkept : EpochInvariant cfg (run (jointStep cfg) is s) ∧
      EpochsKept s.centralBank (run (jointStep cfg) is s).centralBank := by
    refine run_of_along (P := fun t => EpochInvariant cfg t ∧
      EpochsKept s.centralBank t.centralBank) ?_ ⟨hi, EpochsKept.refl _⟩ hroom
    rintro i t t' ⟨ht, hk⟩ hq h
    have hlast := (jointStep_posted h).kept hq ht.repaid_le
    exact ⟨epochInvariant_step ht hq h, hk.trans hlast⟩
  exact hkept.2

omit [Currency AccountId L] [CentralBank.ProxyModule AccountId L] [LockableCurrency AccountId L] in
/-- At genesis there is one epoch, and nothing is issued in it. -/
theorem genesis_epochInvariant (cfg : Config AccountId)
    (licensedOperators : List (AccountId × Bool)) (l : L) :
    EpochInvariant cfg
      (genesis (CentralBank.genesis cfg.centralBank licensedOperators l)) where
  represented := ⟨_, CentralBank.genesis_represents licensedOperators l⟩
  numbered := (CentralBank.genesis_epochs cfg.centralBank licensedOperators l 0).1
  issued_le e :=
    (CentralBank.genesis_epochs cfg.centralBank licensedOperators l e).2.1.trans_le (Nat.zero_le _)
  repaid_le e :=
    (CentralBank.genesis_epochs cfg.centralBank licensedOperators l e).2.2.1.trans_le
      (Nat.zero_le _)

/-- **The epochs are audited.** After every run of calls of both modules from genesis with fewer
transitions than identifiers, no epoch has repaid more than it issued, and the difference is what
all operators owe in it unless more was lent in the epoch than its record can hold; the records
are those of the epochs up to the current one; and in every later run a closed epoch changes in
nothing but what is repaid, which does not go down. -/
theorem epochs_audited (cfg : Config AccountId) (licensedOperators : List (AccountId × Bool))
    (l : L) (is js : List (Input AccountId))
    (h : accepted (jointStep cfg) (IsTransition cfg) (is ++ js)
      (genesis (CentralBank.genesis cfg.centralBank licensedOperators l)) < u32Max) :
    let start := genesis (CentralBank.genesis cfg.centralBank licensedOperators l)
    let s := (run (jointStep cfg) is start).centralBank
    let s' := (run (jointStep cfg) (is ++ js) start).centralBank
    (∀ e, s.repaidIn e ≤ s.issuedIn e ∧
      (s.issuedIn e - s.repaidIn e = s.operatorDebt.columnTotal e ↔
        tally (jointStep cfg) (lentIn cfg e) is start ≤ u128Max ∨
          s.operatorDebt.columnTotal e = 0)) ∧
      (∀ e, s.epochs.containsKey e = true ↔ 1 ≤ e ∧ e ≤ s.currentEpochId) ∧
        ∀ e i, e < s.currentEpochId → s.epochs.get e = some i →
          ∃ i', s'.epochs.get e = some i' ∧ i'.startBlock = i.startBlock ∧
            i'.keyRate = i.keyRate ∧ i'.creditLimit = i.creditLimit ∧
              i'.totalIssued = i.totalIssued ∧ i.totalRepaid ≤ i'.totalRepaid := by
  intro start s s'
  have hstart : EpochInvariant cfg start := genesis_epochInvariant cfg licensedOperators l
  have hroom : Along (jointStep cfg) (HasRoom cfg) (is ++ js) start := by
    apply along_hasRoom
    show 1 + _ ≤ u32Max
    rw [Nat.add_comm]
    exact h
  obtain ⟨hfirst, hsecond⟩ := along_append.mp hroom
  have hs : EpochInvariant cfg (run (jointStep cfg) is start) := epochInvariant_run hstart hfirst
  refine ⟨fun e => ?_, hs.numbered, ?_⟩
  -- both totals clip what the run lends and takes back; the debts do not
  · obtain ⟨hissued, hrepaid, hdebts⟩ := epochs_run hstart hfirst e
    obtain ⟨-, hi₀, hr₀, hd₀⟩ := CentralBank.genesis_epochs cfg.centralBank licensedOperators l e
    change start.centralBank.issuedIn e = 0 at hi₀
    change start.centralBank.repaidIn e = 0 at hr₀
    change start.centralBank.operatorDebt.columnTotal e = 0 at hd₀
    rw [hi₀, Nat.zero_add] at hissued
    rw [hr₀, Nat.zero_add] at hrepaid
    rw [hd₀, Nat.zero_add] at hdebts
    change s.issuedIn e = _ at hissued
    change s.repaidIn e = _ at hrepaid
    change s.operatorDebt.columnTotal e + _ = _ at hdebts
    omega
  · have hkept := (epochsKept_run hs hsecond).2
    rw [← run_append] at hkept
    exact hkept

end Steps

/-- The operator 7 borrows, the epoch is closed, and part of the loan is repaid. -/
def twoEpochs : List (Input ℕ) :=
  [.centralBank (signedContext 7, .requestCredit (10 * CentralBank.unit)),
    .centralBank (rootContext, .transitionEpoch),
    .centralBank (signedContext 7, .repayCredit 1 (4 * CentralBank.unit))]

/-- In the run of the two epochs what was lent is still owed after the first one is closed, and
the repayment does not change what the closed one has issued. -/
theorem epochs_audited_twoEpochs :
    let s := (run (jointStep bankOfSiberia) (twoEpochs.take 2) cycleGenesis).centralBank
    let s' := (run (jointStep bankOfSiberia) twoEpochs cycleGenesis).centralBank
    s.issuedIn 1 - s.repaidIn 1 = s.operatorDebt.columnTotal 1 ∧
      s.operatorDebt.columnTotal 1 = 10 * CentralBank.unit ∧
        s'.issuedIn 1 = 10 * CentralBank.unit ∧ s'.repaidIn 1 = 4 * CentralBank.unit := by
  intro s s'
  obtain ⟨haudit, -, hkept⟩ := epochs_audited bankOfSiberia [(7, true)]
    (Balances.ofFree [(7, CentralBank.unit)] : NativeLedger ℕ) (twoEpochs.take 2)
    (twoEpochs.drop 2) (by decide +kernel)
  have hlent : tally (jointStep bankOfSiberia) (lentIn bankOfSiberia 1) (twoEpochs.take 2)
      cycleGenesis ≤ u128Max := by decide +kernel
  refine ⟨(haudit 1).2.mpr (Or.inl hlent), by decide +kernel, ?_, by decide +kernel⟩
  have hclosed : 1 < s.currentEpochId := by decide +kernel
  have hfound : s.epochs.get 1 = some
      { startBlock := 0
        keyRate := 0
        totalIssued := 10 * CentralBank.unit
        totalRepaid := 0
        creditLimit := wholePool } := by decide +kernel
  obtain ⟨i, hi, -, -, -, hissued, -⟩ := hkept 1 _ hclosed hfound
  exact (CentralBank.State.issuedIn_of_get hi).trans hissued

/-! ### An epoch that has clipped -/

/-- The operator 7 borrows the whole pool of the runtime. -/
def lastLoan : Input ℕ := .centralBank (signedContext 7, .requestCredit wholePool)

/-- The operator 7 borrows and repays the whole pool `n` times, and borrows it once more. -/
def clippedEpoch (n : ℕ) : List (Input ℕ) :=
  (List.replicate n creditCycle).flatten ++ [lastLoan]

theorem clippedEpoch_stays (n : ℕ) (i : Input ℕ) (h : i ∈ clippedEpoch n) :
    ¬ IsTransition bankOfSiberia i := by
  have hcall : i ∈ creditCycle ∨ i = lastLoan := by
    rcases List.mem_append.mp h with hc | hl
    · obtain ⟨cycle, hcycle, hi⟩ := List.mem_flatten.mp hc
      rw [List.eq_of_mem_replicate hcycle] at hi
      exact Or.inl hi
    · exact Or.inr (List.mem_singleton.mp hl)
  -- a loan or a repayment opens no epoch
  rcases hcall with hc | rfl
  · simp only [creditCycle, List.mem_cons, List.not_mem_nil, or_false] at hc
    rcases hc with rfl | rfl
    · decide
    · decide
  · decide

/-- Once the cycles have lent as much as the record can hold, the last loan is missing in the
difference of what is issued and repaid. -/
theorem clippedEpoch_unaudited (n : ℕ) (hn : u128Max ≤ n * wholePool) :
    let s := (run (jointStep bankOfSiberia) (clippedEpoch n) cycleGenesis).centralBank
    accepted (jointStep bankOfSiberia) (IsTransition bankOfSiberia) (clippedEpoch n)
        cycleGenesis = 0 ∧
      s.issuedIn 1 - s.repaidIn 1 ≠ s.operatorDebt.columnTotal 1 := by
  intro s
  have hstays : accepted (jointStep bankOfSiberia) (IsTransition bankOfSiberia) (clippedEpoch n)
      cycleGenesis = 0 := accepted_eq_zero_of_forall (clippedEpoch_stays n)
  refine ⟨hstays, ?_⟩
  have hstart : EpochInvariant bankOfSiberia cycleGenesis := genesis_epochInvariant _ _ _
  have hroom : Along (jointStep bankOfSiberia) (HasRoom bankOfSiberia) (clippedEpoch n)
      cycleGenesis := by
    apply along_hasRoom
    rw [hstays]
    decide +kernel
  obtain ⟨hfirst, -⟩ := along_append.mp hroom
  have hidle := idle_cycles n
  obtain ⟨hissued, -, hdebts⟩ := epochs_run hstart hfirst 1
  obtain ⟨hissued', hrepaid', hdebts'⟩ := epochs_run hstart hroom 1
  -- the last loan is accepted; it lends the whole pool once more and takes nothing back
  obtain ⟨c, hc⟩ := hidle.request
  have hloan : jointStep bankOfSiberia lastLoan
      (run (jointStep bankOfSiberia) (List.replicate n creditCycle).flatten cycleGenesis) =
        .ok _ :=
    onCentralBank_eq_ok.mpr ⟨c, CentralBank.requestCredit_eq_ok.mpr ⟨7, rfl, hc⟩, rfl⟩
  have hlent : tally (jointStep bankOfSiberia) (lentIn bankOfSiberia 1) (clippedEpoch n)
      cycleGenesis =
        tally (jointStep bankOfSiberia) (lentIn bankOfSiberia 1)
          (List.replicate n creditCycle).flatten cycleGenesis + wholePool := by
    rw [clippedEpoch, tally_append, tally_cons_ok hloan]
    show _ + ((if _ = 1 then wholePool else 0) + 0) = _
    rw [if_pos hidle.epoch, Nat.add_zero]
  have hback : tally (jointStep bankOfSiberia) (takenBackIn bankOfSiberia 1) (clippedEpoch n)
      cycleGenesis =
        tally (jointStep bankOfSiberia) (takenBackIn bankOfSiberia 1)
          (List.replicate n creditCycle).flatten cycleGenesis := by
    rw [clippedEpoch, tally_append, tally_cons_ok hloan]
    rfl
  -- the total issued is at the end of its range before and after, and the loan is owed
  obtain ⟨-, hissued₀, hrepaid₀, hdebts₀⟩ := CentralBank.genesis_epochs bankOfSiberia.centralBank
    [(7, true)] (Balances.ofFree [(7, CentralBank.unit)] : NativeLedger ℕ) 1
  change cycleGenesis.centralBank.issuedIn 1 = 0 at hissued₀
  change cycleGenesis.centralBank.repaidIn 1 = 0 at hrepaid₀
  change cycleGenesis.centralBank.operatorDebt.columnTotal 1 = 0 at hdebts₀
  have hpool : 0 < wholePool := by decide
  rw [hidle.issued, hissued₀, Nat.min_eq_right hn, Nat.zero_add] at hissued
  rw [hdebts₀, Nat.zero_add] at hdebts
  rw [hissued₀, hlent, Nat.zero_add] at hissued'
  rw [hrepaid₀, hback, Nat.zero_add] at hrepaid'
  rw [hdebts₀, hlent, hback, Nat.zero_add] at hdebts'
  change s.issuedIn 1 = _ at hissued'
  change s.repaidIn 1 = _ at hrepaid'
  change s.operatorDebt.columnTotal 1 + _ = _ at hdebts'
  -- only the size of the pool matters, not its value
  generalize wholePool = pool at hpool hissued' hdebts'
  omega

/-- After 20 trillion cycles at the runtime's limit and one more loan, all in the first epoch,
the difference of what is issued and repaid in it is not what is owed in it. -/
theorem clipped_epoch_unaudited :
    let s := (run (jointStep bankOfSiberia) (clippedEpoch 20000000000000)
      cycleGenesis).centralBank
    accepted (jointStep bankOfSiberia) (IsTransition bankOfSiberia) (clippedEpoch 20000000000000)
        cycleGenesis = 0 ∧
      s.issuedIn 1 - s.repaidIn 1 ≠ s.operatorDebt.columnTotal 1 := by
  have hn : u128Max ≤ 20000000000000 * wholePool := by decide
  exact clippedEpoch_unaudited 20000000000000 hn

end BankOfSiberia
