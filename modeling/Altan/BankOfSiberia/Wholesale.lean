import Altan.BankOfSiberia.Spec
import Altan.CentralBank.CreditPool
import Altan.Foundation.TransitionSystem

/-!
# The credit pool across both modules

The bank's treasury is an operator of the central bank: the bank's officers borrow wholesale
into it and repay from it. Whatever calls of the two modules are interleaved, the four counters
of the credit pool remain those of one book of debts.

## Main definitions

* `WholesaleEffect`: what a call of the bank does to the storage of the central bank
* `Input`, `jointStep`: the calls of both modules as one state machine

## Main results

* `step_wholesale`: a successful call of the bank has its effect
* `represents_bankOfSiberia_step`: every call of the bank keeps a represented pool represented
* `creditPool_conserved`: the identities of the pool after every run
-/

open Bounded Dispatch TransitionSystem Runtime
open CentralBank (Represents RequestExact RepayExact)

namespace BankOfSiberia

variable {AccountId L : Type} [DecidableEq AccountId] {cfg : Config AccountId}
  {s s' : State AccountId L}

section Pool

variable [Currency AccountId L] [LockableCurrency AccountId L]
  {b : CentralBank.Book cfg.centralBank}

/-- What a call of the bank does to the storage of the central bank: the wholesale calls borrow
and repay for the treasury, the others change the ledger at most. -/
def WholesaleEffect (cfg : Config AccountId) (x : Extrinsic AccountId)
    (s s' : State AccountId L) : Prop :=
  match x.2 with
  | .borrowWholesale amount =>
    CentralBank.doRequestCredit cfg.centralBank cfg.treasuryAccount amount s.centralBank =
      .ok s'.centralBank
  | .repayWholesale epochId amount =>
    CentralBank.doRepayCredit cfg.centralBank cfg.treasuryAccount epochId amount s.centralBank =
      .ok s'.centralBank
  | _ => s'.centralBank = { s.centralBank with ledger := s'.ledger }

/-- **A successful call of the bank has its effect on the central bank.** -/
theorem step_wholesale {x : Extrinsic AccountId} (h : step cfg x s = .ok s') :
    WholesaleEffect cfg x s s' := by
  obtain ⟨ctx, call⟩ := x
  cases call with
  -- the treasury is the operator of the two wholesale calls
  | borrowWholesale amount =>
    obtain ⟨_, _, hreq, rfl⟩ := borrowWholesale_eq_ok.mp h
    exact hreq
  | repayWholesale epochId amount =>
    obtain ⟨_, _, hrep, rfl⟩ := repayWholesale_eq_ok.mp h
    exact hrep
  | _ =>
    have hsame : Records.Same s s' .creditPool := step_frame h nofun
    exact hsame

/-- The bank's calls other than the wholesale ones leave the credit pool as it is. -/
theorem creditPool_step {x : Extrinsic AccountId} (h : step cfg x s = .ok s') :
    s'.centralBank.creditPool = s.centralBank.creditPool ∨
      (∃ amount, CentralBank.Lent s.centralBank s'.centralBank cfg.treasuryAccount amount) ∨
        ∃ epochId amount, CentralBank.Repaid cfg.centralBank s.centralBank s'.centralBank
          cfg.treasuryAccount epochId amount := by
  have heffect := step_wholesale h
  unfold WholesaleEffect at heffect
  split at heffect
  · exact Or.inr (Or.inl ⟨_, CentralBank.doRequestCredit_lent heffect⟩)
  · exact Or.inr (Or.inr ⟨_, _, CentralBank.doRepayCredit_repaid heffect⟩)
  · refine Or.inl ?_
    rw [heffect]
    rfl

/-- Every call of the bank keeps a represented pool represented. -/
theorem represents_bankOfSiberia_step {x : Extrinsic AccountId}
    (hb : Represents cfg.centralBank s.centralBank b) (h : step cfg x s = .ok s') :
    ∃ b', Represents cfg.centralBank s'.centralBank b' := by
  rcases creditPool_step h with hpool | ⟨amount, hlent⟩ | ⟨epochId, amount, hrepaid⟩
  · exact ⟨b, hb.of_creditPool_eq hpool⟩
  · obtain ⟨b', -, hb'⟩ := hb.lend hlent
    exact ⟨b', hb'⟩
  · obtain ⟨b', -, hb'⟩ := hb.takeBack hrepaid
    exact ⟨b', hb'⟩

end Pool

/-! ### Both modules -/

/-- A call of one of the two modules. -/
inductive Input (AccountId : Type)
  | centralBank (x : CentralBank.Extrinsic AccountId)
  | bankOfSiberia (x : Extrinsic AccountId)

variable [Currency AccountId L] [CentralBank.ProxyModule AccountId L] [LockableCurrency AccountId L]

/-- One call of either module as a step of the state machine. -/
def jointStep (cfg : Config AccountId) (i : Input AccountId) (s : State AccountId L) :
    Result (State AccountId L) :=
  match i with
  | .centralBank x => onCentralBank (CentralBank.step cfg.centralBank x) s
  | .bankOfSiberia x => step cfg x s

/-- Every call of either module keeps a represented pool represented. -/
theorem represents_jointStep {i : Input AccountId}
    (hb : ∃ b, Represents cfg.centralBank s.centralBank b) (h : jointStep cfg i s = .ok s') :
    ∃ b, Represents cfg.centralBank s'.centralBank b := by
  obtain ⟨b, hb⟩ := hb
  cases i with
  | centralBank x =>
    obtain ⟨c, hc, rfl⟩ := onCentralBank_eq_ok.mp h
    exact hb.step hc
  | bankOfSiberia x => exact represents_bankOfSiberia_step hb h

/-- **Conservation of the credit pool.** After every run of calls of both modules from genesis,
what is available and what is outstanding make up the limit, the outstanding credit is the
total of the operators' totals, each operator's total is the total over all epochs, and no
operation on these counters clips in any further loan or repayment. -/
theorem creditPool_conserved (cfg : Config AccountId)
    (licensedOperators : List (AccountId × Bool)) (l : L) (is : List (Input AccountId)) :
    let s := (run (jointStep cfg) is
      (genesis (CentralBank.genesis cfg.centralBank licensedOperators l))).centralBank
    s.genesisCreditAvailable + s.totalOutstanding = cfg.centralBank.creditEpochLimit ∧
      s.totalOutstanding = s.totalOperatorDebt.total ∧
      (∀ operator, s.totalDebt operator = s.operatorDebt.rowTotal operator) ∧
      (∀ operator amount s',
        CentralBank.doRequestCredit cfg.centralBank operator amount s = .ok s' →
          RequestExact s operator amount) ∧
      ∀ operator epochId amount s',
        CentralBank.doRepayCredit cfg.centralBank operator epochId amount s = .ok s' →
          RepayExact cfg.centralBank s operator epochId amount := by
  intro s
  -- the book is the invariant of the joint run
  have hpool : ∃ b, Represents cfg.centralBank s b :=
    run_invariant (fun _ _ _ => represents_jointStep) is
      ⟨_, CentralBank.genesis_represents licensedOperators l⟩
  obtain ⟨b, hb⟩ := hpool
  obtain ⟨hlimit, htotal, hrows⟩ := hb.conserved
  refine ⟨hlimit, htotal, hrows, ?_, ?_⟩
  · intro operator amount s' h
    exact hb.requestExact (CentralBank.doRequestCredit_lent h).available
  · intro operator epochId amount s' h
    exact hb.repayExact (CentralBank.doRepayCredit_repaid h).owed

/-! ### The epoch totals -/

/-- The whole credit pool of the runtime. -/
abbrev wholePool : ℕ := 18900000000000 * CentralBank.unit

/-- The operator 7 borrows the whole pool and repays it. -/
def creditCycle : List (Input ℕ) :=
  [.centralBank (signedContext 7, .requestCredit wholePool),
    .centralBank (signedContext 7, .repayCredit 1 wholePool)]

/-- The runtime at genesis, with one licensed operator that owns one unit. -/
def cycleGenesis : State ℕ (NativeLedger ℕ) :=
  genesis (CentralBank.genesis bankOfSiberia.centralBank [(7, true)]
    (Balances.ofFree [(7, CentralBank.unit)]))

/-- The pool is full, the operator 7 can borrow it and owns one unit, and `t` is recorded as
issued in epoch 1. -/
structure Idle (t : ℕ) (s : State ℕ (NativeLedger ℕ)) : Prop where
  licensed : s.centralBank.isLicensed 7 = true
  epoch : s.centralBank.currentEpochId = 1
  opened : s.centralBank.epochs.containsKey 1 = true
  issued : s.centralBank.issuedIn 1 = t
  available : s.centralBank.genesisCreditAvailable = wholePool
  free : Ledger.freeBalance s.ledger 7 = CentralBank.unit
  issuance : Ledger.totalIssuance s.ledger = CentralBank.unit
  locks : s.ledger.locks = ∅

theorem idle_genesis : Idle 0 cycleGenesis := by
  constructor <;> decide +kernel

namespace Idle

variable {t : ℕ} {s : State ℕ (NativeLedger ℕ)}

theorem request (h : Idle t s) :
    ∃ c, CentralBank.doRequestCredit bankOfSiberia.centralBank 7 wholePool s.centralBank =
      .ok c := by
  refine CentralBank.doRequestCredit_ok (by decide) (by decide) h.licensed h.available.ge ?_
  rw [h.epoch]
  exact h.opened

/-- The loan is created in full on the operator, and no lock stands in the way of repaying it. -/
theorem credited {c : CentralBank.State ℕ (NativeLedger ℕ)} (h : Idle t s)
    (hl : CentralBank.Lent s.centralBank c 7 wholePool) :
    Ledger.Credited s.ledger c.ledger 7 wholePool ∧ c.ledger.frozen 7 = 0 ∧
      c.ledger.locks = ∅ := by
  have hfree := h.free
  have hissuance := h.issuance
  have hlocks : c.ledger.locks = ∅ := by
    rw [hl.ledger, ← h.locks]
    rcases Balances.depositCreating_cases s.ledger 7 wholePool with hs | ⟨-, hs⟩
    · exact congrArg Balances.locks hs
    · exact hs
  refine ⟨?_, ?_, hlocks⟩
  -- the operator owns a unit, and both amounts together are in range
  · rw [hl.ledger]
    apply Currency.depositCreating_credited
    refine ⟨Or.inl (Or.inl ?_), ?_⟩
    · show 0 < Ledger.freeBalance s.ledger 7
      rw [hfree]
      decide
    · show Ledger.totalIssuance s.ledger + wholePool ≤ u128Max
      rw [hissuance]
      decide
  · unfold Balances.frozen
    rw [hlocks]
    rfl

/-- After the loan the operator owes the whole pool in the first epoch, and the pool is empty. -/
theorem owed {c : CentralBank.State ℕ (NativeLedger ℕ)} (h : Idle t s)
    (hl : CentralBank.Lent s.centralBank c 7 wholePool) :
    wholePool ≤ c.debt 7 1 ∧ c.genesisCreditAvailable = 0 := by
  constructor
  · have hd := congrArg (fun p => p.debts.getD (7, 1) 0) hl.creditPool
    rw [h.epoch] at hd
    have hdebt := hd.trans StorageMap.getD_insert_self
    show wholePool ≤ c.operatorDebt.getD (7, 1) 0
    refine le_of_le_of_eq ?_ hdebt.symm
    unfold saturatingAdd
    exact Nat.le_min.mpr ⟨Nat.le_add_left _ _, by decide⟩
  · have ha : c.genesisCreditAvailable = _ :=
      congrArg CentralBank.CreditPool.available hl.creditPool
    rw [ha]
    exact Nat.sub_eq_zero_of_le h.available.le

/-- The loan can be repaid: the operator keeps the unit it had before. -/
theorem repay {c : CentralBank.State ℕ (NativeLedger ℕ)} (h : Idle t s)
    (hc : CentralBank.doRequestCredit bankOfSiberia.centralBank 7 wholePool s.centralBank = .ok c) :
    ∃ c', CentralBank.doRepayCredit bankOfSiberia.centralBank 7 1 wholePool c = .ok c' := by
  have hlent := CentralBank.doRequestCredit_lent hc
  obtain ⟨-, -, -, hframe⟩ := CentralBank.doRequestCredit_frame hc
  obtain ⟨hcredit, hfrozen, -⟩ := h.credited hlent
  have hopen : c.epochs.containsKey 1 = true :=
    (CentralBank.doRequestCredit_containsKey hc 1).trans h.opened
  have hfree : Ledger.freeBalance c.ledger 7 = CentralBank.unit + wholePool := by
    rw [hcredit.free, h.free]
  have hwithdraw : ∃ l, Currency.withdraw c.ledger 7 wholePool .keepAlive = .ok l := by
    apply Balances.withdraw_isOk
    · show wholePool + existentialDeposit ≤ Ledger.freeBalance c.ledger 7
      rw [hfree]
      decide
    · show wholePool + c.ledger.frozen 7 ≤ Ledger.freeBalance c.ledger 7
      rw [hfree, hfrozen]
      decide
  obtain ⟨l, hl⟩ := hwithdraw
  refine CentralBank.doRepayCredit_ok (by decide) (by decide) ?_ hopen (h.owed hlent).1 ?_ hl
  · rw [hframe]
    show c.epochs.containsKey s.centralBank.currentEpochId = true
    rw [h.epoch]
    exact hopen
  · rw [hfree]
    decide

/-- **One cycle** records the whole pool once more as issued and changes nothing else that the
next cycle needs. -/
theorem cycle (h : Idle t s) :
    Idle (saturatingAdd u128Max t wholePool) (run (jointStep bankOfSiberia) creditCycle s) := by
  obtain ⟨c₁, hc₁⟩ := h.request
  obtain ⟨c₂, hc₂⟩ := h.repay hc₁
  have hlent := CentralBank.doRequestCredit_lent hc₁
  have hrepaid := CentralBank.doRepayCredit_repaid hc₂
  have hs₁ : jointStep bankOfSiberia
      (.centralBank (signedContext 7, .requestCredit wholePool)) s =
        .ok { s with centralBank := c₁ } :=
    onCentralBank_eq_ok.mpr ⟨c₁, CentralBank.requestCredit_eq_ok.mpr ⟨7, rfl, hc₁⟩, rfl⟩
  have hs₂ : jointStep bankOfSiberia (.centralBank (signedContext 7, .repayCredit 1 wholePool))
      { s with centralBank := c₁ } = .ok { s with centralBank := c₂ } :=
    onCentralBank_eq_ok.mpr ⟨c₂, CentralBank.repayCredit_eq_ok.mpr ⟨7, rfl, hc₂⟩, rfl⟩
  have hrun : run (jointStep bankOfSiberia) creditCycle s = { s with centralBank := c₂ } := by
    rw [creditCycle, run_cons, run_cons, run_nil, exec_ok hs₁, exec_ok hs₂]
  rw [hrun]
  -- what the loan creates the repayment destroys
  obtain ⟨hcredit, -, hlocks⟩ := h.credited hlent
  have hdebit := Currency.withdraw_keepAlive _ _ _ _ hrepaid.ledger
  obtain ⟨-, -, -, hframe₁⟩ := CentralBank.doRequestCredit_frame hc₁
  obtain ⟨-, -, l, -, hframe₂⟩ := CentralBank.doRepayCredit_frame hc₂
  constructor
  · have hlicenses₁ := congrArg CentralBank.State.licensedOperators hframe₁
    have hlicenses₂ := congrArg CentralBank.State.licensedOperators hframe₂
    exact (congrArg (fun m => m.getD 7 false) (hlicenses₂.trans hlicenses₁)).trans h.licensed
  · have hepoch₁ := congrArg CentralBank.State.currentEpochId hframe₁
    have hepoch₂ := congrArg CentralBank.State.currentEpochId hframe₂
    exact (hepoch₂.trans hepoch₁).trans h.epoch
  · have hopen₁ := CentralBank.doRequestCredit_containsKey hc₁ 1
    exact ((CentralBank.doRepayCredit_containsKey hc₂ 1).trans hopen₁).trans h.opened
  · have hissued := CentralBank.doRequestCredit_issuedIn hc₁
    rw [h.epoch, h.issued] at hissued
    exact (CentralBank.doRepayCredit_issuedIn hc₂ 1).trans hissued
  · have ha : c₂.genesisCreditAvailable = _ :=
      congrArg CentralBank.CreditPool.available hrepaid.creditPool
    rw [(h.owed hlent).2] at ha
    exact ha.trans (by decide : min (saturatingAdd u128Max 0 wholePool) wholePool = wholePool)
  · have hf := hdebit.free
    have hc := hcredit.free
    have hi := h.free
    show Ledger.freeBalance c₂.ledger 7 = CentralBank.unit
    omega
  · have hd := hdebit.issuance
    have hc := hcredit.issuance
    have hi := h.issuance
    show Ledger.totalIssuance c₂.ledger = CentralBank.unit
    omega
  · exact (Balances.withdraw_locks hrepaid.ledger).trans hlocks

end Idle

/-- What a number of cycles records as issued. -/
theorem idle_cycles (n : ℕ) : Idle (min (n * wholePool) u128Max)
    (run (jointStep bankOfSiberia) (List.replicate n creditCycle).flatten cycleGenesis) := by
  induction n with
  | zero => exact idle_genesis
  | succ n ih =>
    rw [List.replicate_succ', List.flatten_append, run_append]
    have hnext := ih.cycle
    -- what has clipped stays clipped
    have hmin : saturatingAdd u128Max (min (n * wholePool) u128Max) wholePool =
        min ((n + 1) * wholePool) u128Max := by
      unfold saturatingAdd
      rw [Nat.succ_mul]
      omega
    rw [hmin] at hnext
    simpa using hnext

/-- The recorded total of an epoch clips: after 20 trillion cycles at the runtime's limit, the
next loan adds nothing to it. -/
theorem issued_total_clips :
    let s := (run (jointStep bankOfSiberia) (List.replicate 20000000000000 creditCycle).flatten
      cycleGenesis).centralBank
    (∃ c, CentralBank.doRequestCredit bankOfSiberia.centralBank 7 wholePool s = .ok c) ∧
      saturatingAdd u128Max (s.issuedIn 1) wholePool ≠ s.issuedIn 1 + wholePool := by
  intro s
  have h := idle_cycles 20000000000000
  refine ⟨h.request, ?_⟩
  rw [h.issued]
  decide

end BankOfSiberia
