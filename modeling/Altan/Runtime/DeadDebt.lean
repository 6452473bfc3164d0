import Altan.Runtime.Estates

/-!
# The debts of the dead

When a will is executed, what the deceased owes is due first: as far as the reserved funds go it is
to be burned before anybody is paid, and written off the credits and the total of credits
outstanding. The execution burns it with a certified will only, and never writes it off, so that
what is burned once is due again. The executions are lawful exactly where nothing is due.

## Main definitions

* `Execution.due`, `Execution.burned`: what is due at an execution, and what it burns
* `Execution.Lawful`: what is due is burned before anybody is paid, and written off
* `DebtFirst`: the executions are lawful, and burn no more for anybody than was owed at the death
* `record`: the executions of a run as its history
* `Clear`: nothing is due at the execution an input brings about

## Main results

* `execution_lawful_iff`: an execution is lawful just if nothing is due
* `due_eq_zero_iff`: when nothing is due
* `debtFirst_iff_clear`: the runs whose executions are lawful
-/

open Bounded Dispatch Ledger TransitionSystem

namespace Estates

variable {AccountId L : Type} [DecidableEq AccountId] [Currency AccountId L]
  [EscrowCurrency AccountId L]

/-! ### The law -/

namespace Execution

variable (t : Execution AccountId L)

/-- What the deceased owes when the execution begins. -/
def debt : ℕ := totalOutstandingDebt t.before.operator t.deceased

/-- What is to be burned: what is owed, as far as the reserved funds go. -/
def due : ℕ := min t.debt (reservedBalance t.before t.deceased)

/-- What the execution burns. -/
def burned : ℕ := totalIssuance t.before - totalIssuance t.after

/-- What is due is burned before anybody is paid, and written off the credits of the deceased and
the total of credits outstanding. -/
structure Lawful : Prop where
  burnedFirst : ∃ l, Slashed t.before.operator.ledger l t.deceased t.due ∧
    Disbursed l t.after.operator.ledger t.deceased 0
  contracts : totalOutstandingDebt t.after.operator t.deceased + t.due = t.debt
  total : t.after.operator.totalCreditOutstanding + t.due =
    t.before.operator.totalCreditOutstanding

end Execution

/-- What is burned for one person over several executions. -/
def totalBurned (log : List (Execution AccountId L)) (who : AccountId) : ℕ :=
  ((log.filter fun t => t.deceased = who).map Execution.burned).sum

/-- What a person owed at the death, or nothing for the living. -/
def debtAtDeath (log : List (Execution AccountId L)) (who : AccountId) : ℕ :=
  ((log.find? fun t => t.deceased = who ∧ t.atDeath = true).map Execution.debt).getD 0

/-- The executions are lawful, and burn no more for anybody than was owed at the death. -/
structure DebtFirst (log : List (Execution AccountId L)) : Prop where
  lawful : ∀ t ∈ log, t.Lawful
  bounded : ∀ who, totalBurned log who ≤ debtAtDeath log who

/-- The history of a run: its executions. -/
def record (cfg : Config AccountId L) (w : World AccountId L) (x : Input AccountId L)
    (log : List (Execution AccountId L)) : List (Execution AccountId L) :=
  log ++ (x.execution cfg w).toList

/-- Nothing is due at the execution an input brings about: at a death nothing is owed or only the
rewards of pending quests are reserved, later nothing is owed or nothing is reserved. -/
def Clear (w : World AccountId L) : Input AccountId L → Prop
  | .identity (.call _ (.registerDeath target _)) =>
    totalOutstandingDebt w.ledger.operator target = 0 ∨
      reservedBalance w.ledger target ≤ pendingReward w.ledger target
  | .inheritance _ (.executeWill deceasedCitizen) =>
    totalOutstandingDebt w.ledger.operator deceasedCitizen = 0 ∨
      reservedBalance w.ledger deceasedCitizen = 0
  | _ => True

instance (w : World AccountId L) : DecidablePred (Clear w) := fun x => by
  unfold Clear
  split <;> infer_instance

/-! ### One execution -/

section Execution

variable {cfg : Config AccountId L} {w : World AccountId L} {x : Input AccountId L}
  {t : Execution AccountId L}

/-- The estate after an execution is that of before with the will executed. -/
theorem execution_after (ht : x.execution cfg w = some t) :
    t.after = triggerInheritance cfg t.deceased t.before := by
  unfold Input.execution at ht
  split at ht
  · rw [← Option.some.inj ht]
  · rw [← Option.some.inj ht]
  · cases ht

omit [EscrowCurrency AccountId L] in
theorem burned_le_due (e : Estate AccountId L) (who : AccountId) :
    burned e who ≤ min (totalOutstandingDebt e.operator who) (reservedBalance e who) := by
  unfold burned Inheritance.burned
  split
  · exact Nat.le_refl _
  · exact Nat.zero_le _

/-- Where nothing is due nothing is burned, and the rest is paid. -/
theorem disbursed_of_due_eq_zero (ht : x.execution cfg w = some t) (hdue : t.due = 0) :
    Disbursed t.before.operator.ledger t.after.operator.ledger t.deceased 0 := by
  have hburned : Estates.burned t.before t.deceased = 0 :=
    Nat.le_zero.mp ((burned_le_due t.before t.deceased).trans hdue.le)
  obtain ⟨l, hslashed, hdisbursed⟩ := triggerInheritance_spec cfg t.deceased t.before
  rw [hburned] at hslashed
  rw [execution_after ht]
  refine ⟨Nat.zero_le _, fun c hc => ?_, fun c hc => ?_, ?_⟩
  · rw [← hslashed.free c]
    exact hdisbursed.others c hc
  · exact (hdisbursed.othersReserved c hc).trans (hslashed.othersReserved c hc)
  · exact hdisbursed.issuance.trans hslashed.issuance

/-- **An execution is lawful just if nothing is due**: it never writes anything off. -/
theorem execution_lawful_iff (ht : x.execution cfg w = some t) : t.Lawful ↔ t.due = 0 := by
  have hafter := execution_after ht
  have htotal : t.after.operator.totalCreditOutstanding =
      t.before.operator.totalCreditOutstanding := by
    rw [hafter]
    rfl
  have hdebt : totalOutstandingDebt t.after.operator t.deceased = t.debt := by
    rw [hafter]
    rfl
  constructor
  · intro hlawful
    have hbooked := hlawful.total
    rw [htotal] at hbooked
    exact Nat.add_eq_left.mp hbooked
  · intro hdue
    refine ⟨⟨t.before.operator.ledger, ?_, disbursed_of_due_eq_zero ht hdue⟩, ?_, ?_⟩
    · rw [hdue]
      exact .refl _ _
    · rw [hdue, hdebt, Nat.add_zero]
    · rw [hdue, htotal, Nat.add_zero]

/-- An execution at which nothing is due burns nothing. -/
theorem burned_eq_zero (ht : x.execution cfg w = some t) (hdue : t.due = 0) : t.burned = 0 := by
  have hissuance : totalIssuance t.after = totalIssuance t.before :=
    (disbursed_of_due_eq_zero ht hdue).issuance
  unfold Execution.burned
  rw [hissuance, Nat.sub_self]

/-- **When nothing is due.** -/
theorem due_eq_zero_iff (ht : x.execution cfg w = some t) : t.due = 0 ↔ Clear w x := by
  unfold Input.execution at ht
  split at ht
  · next origin target hash =>
    rw [← Option.some.inj ht]
    -- the end of a life gives the rewards of pending quests back before
    have hreserved := (cleanupAccount_released w.ledger target).reserved
    unfold Execution.due Execution.debt Clear
    simp only [reserveAll_eq]
    have hsame : totalOutstandingDebt (cleanupAccount target w.ledger).operator target =
        totalOutstandingDebt w.ledger.operator target := rfl
    rw [hsame]
    omega
  · next origin deceasedCitizen =>
    rw [← Option.some.inj ht]
    unfold Execution.due Execution.debt Clear
    simp only
    omega
  · cases ht

/-- An input that brings no execution about is clear. -/
theorem clear_of_no_execution (hx : x.execution cfg w = none) : Clear w x := by
  unfold Input.execution at hx
  split at hx
  · cases hx
  · cases hx
  · next hdeath hexecute =>
    unfold Clear
    split
    · exact absurd rfl (hdeath _ _ _)
    · exact absurd rfl (hexecute _ _)
    · trivial

end Execution

/-! ### Runs -/

section Runs

variable {cfg : Config AccountId L} {w : World AccountId L} {x : Input AccountId L}
  {t : Execution AccountId L} {log : List (Execution AccountId L)} {who : AccountId}

omit [EscrowCurrency AccountId L] in
theorem totalBurned_append (h : t.burned = 0) :
    totalBurned (log ++ [t]) who = totalBurned log who := by
  unfold totalBurned
  rw [List.filter_append, List.map_append, List.sum_append]
  by_cases hwho : t.deceased = who
  · simp [hwho, h]
  · simp [hwho]

omit [Currency AccountId L] [EscrowCurrency AccountId L] in
/-- What a person owed at the death is settled by the first execution. -/
theorem debtAtDeath_le_append : debtAtDeath log who ≤ debtAtDeath (log ++ [t]) who := by
  unfold debtAtDeath
  rw [List.find?_append]
  cases log.find? _ with
  | none => exact Nat.zero_le _
  | some t' => exact Nat.le_refl _

/-- **A lawful history stays so just if nothing is due.** -/
theorem debtFirst_record_iff (h : DebtFirst log) :
    DebtFirst (record cfg w x log) ↔ Clear w x := by
  unfold record
  cases hx : x.execution cfg w with
  | none =>
    rw [Option.toList_none, List.append_nil]
    exact iff_of_true h (clear_of_no_execution hx)
  | some t =>
    rw [Option.toList_some, ← due_eq_zero_iff hx]
    constructor
    · intro h'
      exact (execution_lawful_iff hx).mp (h'.lawful t (by simp))
    · intro hdue
      refine ⟨fun t' ht' => ?_, fun who => ?_⟩
      · rcases List.mem_append.mp ht' with ht' | ht'
        · exact h.lawful t' ht'
        · rw [List.mem_singleton.mp ht']
          exact (execution_lawful_iff hx).mpr hdue
      · rw [totalBurned_append (burned_eq_zero hx hdue)]
        exact (h.bounded who).trans debtAtDeath_le_append

/-- A run whose history is lawful goes on so as long as nothing is due. -/
theorem throughout_debtFirst_iff {xs : List (Input AccountId L)} (h : DebtFirst log) :
    Throughout (recording (record cfg) (step cfg)) (fun t => DebtFirst t.2) xs (w, log) ↔
      Along (step cfg) Clear xs w := by
  have hhistory : Along (recording (record cfg) (step cfg)) (fun t x => Clear t.1 x) xs (w, log) ↔
      Along (step cfg) Clear xs w := along_recording
  rw [← hhistory]
  refine throughout_iff_along_of_step ?_ h
  intro x t t' ht hstep
  rw [(recording_eq_ok.mp hstep).2]
  exact debtFirst_record_iff ht

omit [EscrowCurrency AccountId L] in
theorem debtFirst_nil : DebtFirst ([] : List (Execution AccountId L)) := by
  refine ⟨fun t ht => ?_, fun who => Nat.le_refl _⟩
  cases ht

end Runs

/-- **The executions of a run are lawful throughout just if nothing is due at any of them.** -/
theorem debtFirst_iff_clear {cfg : Config AccountId L} {xs : List (Input AccountId L)}
    {e : Estate AccountId L} {now : ℕ} :
    Throughout (recording (record cfg) (step cfg)) (fun t => DebtFirst t.2) xs
        (.genesis e now, []) ↔
      Along (step cfg) Clear xs (.genesis e now) :=
  throughout_debtFirst_iff debtFirst_nil

/-- A citizen who owes on a credit, and whose quest is in review, dies without a will: the reward
goes to the treasury, and nothing is burned. -/
theorem not_debtFirst_of_debtor :
    ¬ ∀ xs : List (Input ℕ (Runtime.EscrowLedger ℕ)),
      Throughout (recording (record Runtime.estates) (step Runtime.estates))
        (fun t => DebtFirst t.2) xs (Runtime.estatesGenesis, []) := by
  intro h
  have halong := (throughout_debtFirst_iff debtFirst_nil).mp (h
    [.operator .root (.setBankAccount 2),
      .operator (.signed 7) (.lockCollateral (100 * CentralBank.unit) .altanCoin),
      .operator (.signed 7) (.requestCredit 0),
      .operator .root (.issueCredit 0),
      .guilds (.signed 8) (.createGuild [] [] none 0),
      .guilds (.signed 7) (.publishQuest 0 (100 * CentralBank.unit) []),
      .guilds (.signed 8) (.assignQuest 0),
      .guilds (.signed 8) (.submitQuest 0),
      .identity (Runtime.decree (Runtime.registration 7 (.ofByte 0))),
      .identity (Runtime.decree (.registerDeath 7 (.ofByte 0)))])
  revert halong
  decide +kernel

end Estates
