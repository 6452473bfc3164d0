import Altan.BankOperator.Spec
import Altan.Foundation.Accounting

/-!
# The emission of credits

A credit is created when it is issued and burned as it is repaid, and `TotalCreditOutstanding`
follows both. It is the sum of what the contracts owe, and the issuance without it is constant, as
long as no contract is written over that still owes something. Contracts are numbered by a counter
that stops at the end of its range: from then on every new credit takes the place of the last one.

## Main definitions

* `Neutral`: the total is what the contracts owe, and the issuance has grown by it
* `CreatesInFull`, `SlotFree`: conditions on a call
* `EmissionNeutral`: neutrality over a run

## Main results

* `neutral_step_iff`: one call
* `emissionNeutral_iff`: a run
* `emissionNeutral_of_accepted`: as many credits as there are identifiers
* `credit_overwritten`: one credit more than there are identifiers
-/

open Bounded Dispatch Ledger TransitionSystem Runtime

namespace BankOperator

variable {AccountId L : Type} [Currency AccountId L] {cfg : Config} {s s' : State AccountId L}
  {x : Extrinsic AccountId} {xs : List (Extrinsic AccountId)} {l : L} {n : ℕ}

/-- The total outstanding is what the contracts owe, and all that was created beside `n`. -/
structure Neutral (n : ℕ) (s : State AccountId L) : Prop where
  outstanding : s.totalCreditOutstanding = s.outstanding
  issuance : totalIssuance s.ledger = n + s.totalCreditOutstanding

/-- The credit that a call creates is created in full: the citizen exists or receives the
existential deposit, and the issuance stays in range. -/
def CreatesInFull (cfg : Config) (s : State AccountId L) (x : Extrinsic AccountId) : Prop :=
  Currency.AllCreatable s.ledger (x.2.credits cfg s)

instance : Decidable (CreatesInFull cfg s x) :=
  inferInstanceAs (Decidable (Currency.AllCreatable _ _))

omit [Currency AccountId L] in
/-- A credit is issued under an identifier without a contract that owes something. -/
def SlotFree (s : State AccountId L) (x : Extrinsic AccountId) : Prop :=
  x.2.issues = true → ∀ credit ∈ s.creditContracts.get s.nextCreditId, credit.outstanding = 0

instance : Decidable (SlotFree s x) := inferInstanceAs (Decidable (_ → _))

omit [Currency AccountId L] in
theorem slotFree_iff : SlotFree s x ↔ (x.2.issues = true →
    s.creditContracts.contribution (fun _ credit => credit.outstanding) s.nextCreditId = 0) := by
  unfold SlotFree StorageMap.contribution
  cases s.creditContracts.get s.nextCreditId <;> simp

/-- What a call creates is added to the issuance. -/
theorem depositCreating_issuance {id : ℕ} {col : CollateralContract AccountId}
    (hget : s.collateralContracts.get id = some col)
    (hfull : Currency.AllCreatable s.ledger ((Call.issueCredit id).credits cfg s)) :
    totalIssuance (Currency.depositCreating s.ledger col.citizen (creditAmount cfg col)) =
      totalIssuance s.ledger + creditAmount cfg col := by
  have hcredits : (Call.issueCredit id).credits cfg s = [(col.citizen, creditAmount cfg col)] := by
    rw [Call.credits, hget]
    rfl
  rw [hcredits] at hfull
  exact Currency.depositAll_issuance hfull

omit [Currency AccountId L] in
theorem mints_issueCredit {id : ℕ} {col : CollateralContract AccountId}
    (hget : s.collateralContracts.get id = some col) :
    (Call.issueCredit id).mints cfg s = creditAmount cfg col := by
  rw [Call.mints, Call.credits, hget]
  exact Nat.add_zero _

variable [DecidableEq AccountId]

/-- What an issue does to the total and to what the contracts owe, with the principal of the
contract that was under its identifier. -/
theorem step_issued (hneutral : Neutral n s) (hfull : CreatesInFull cfg s x)
    (hx : x.2.issues = true) (h : step cfg x s = .ok s') :
    s'.totalCreditOutstanding = s.totalCreditOutstanding + x.2.mints cfg s ∧
      s.creditContracts.contribution (fun _ credit => credit.outstanding) s.nextCreditId +
        s'.outstanding = x.2.mints cfg s + s.outstanding ∧
      totalIssuance s'.ledger = totalIssuance s.ledger + x.2.mints cfg s := by
  obtain ⟨ctx, call⟩ := x
  cases call with
  | issueCredit id =>
    obtain ⟨-, -, col, hget, -, -, rfl⟩ := issueCredit_eq_ok.mp h
    have hcreated := depositCreating_issuance hget hfull
    refine ⟨?_, ?_, ?_⟩
    · -- the total is at most the issuance, which is in range
      have hmax := totalIssuance_le (Currency.depositCreating s.ledger col.citizen
        (creditAmount cfg col))
      have hissuance := hneutral.issuance
      rw [mints_issueCredit hget]
      exact saturatingAdd_of_le (by omega)
    · rw [mints_issueCredit hget]
      exact StorageMap.sum_insert _ _ _
    · rw [mints_issueCredit hget]
      exact hcreated
  | _ => cases hx

/-- **One call keeps neutrality just when it writes over no contract that owes something.** -/
theorem neutral_step_iff (hneutral : Neutral n s) (hfull : CreatesInFull cfg s x)
    (h : step cfg x s = .ok s') : Neutral n s' ↔ SlotFree s x := by
  have hsum := hneutral.outstanding
  have hissuance := hneutral.issuance
  rw [slotFree_iff]
  cases hx : x.2.issues with
  | true =>
    obtain ⟨htotal, howed, hcreated⟩ := step_issued hneutral hfull hx h
    constructor
    · intro hneutral' _
      have hsum' := hneutral'.outstanding
      omega
    · intro hfree
      have hzero := hfree rfl
      exact ⟨by omega, by omega⟩
  | false =>
    obtain ⟨-, -, howed, htotal, hburned⟩ := step_settled hx h
    refine iff_of_true ⟨by omega, by omega⟩ (fun hissues => ?_)
    cases hissues

/-- What a call mints is owed on some contract from then on, until it is burned. -/
theorem outstanding_step (hneutral : Neutral n s) (hfull : CreatesInFull cfg s x)
    (hfree : SlotFree s x) (h : step cfg x s = .ok s') :
    s'.outstanding + x.2.burns cfg x.1 s = s.outstanding + x.2.mints cfg s := by
  cases hx : x.2.issues with
  | true =>
    obtain ⟨-, howed, -⟩ := step_issued hneutral hfull hx h
    have hzero := slotFree_iff.mp hfree hx
    have hburns : x.2.burns cfg x.1 s = 0 := by
      obtain ⟨ctx, call⟩ := x
      cases call with
      | issueCredit id => rfl
      | _ => cases hx
    omega
  | false =>
    rw [(step_settled hx h).outstanding, Call.mints_eq_zero hx, Nat.add_zero]

/-- Neutrality over a run from empty storage: in every state the total outstanding is what the
contracts owe and the issuance without it is what it was; and every unit that was minted is still
owed on some contract, or has been burned. -/
structure EmissionNeutral (cfg : Config) (l : L) (xs : List (Extrinsic AccountId)) : Prop where
  neutral : Throughout (step cfg) (Neutral (totalIssuance l)) xs (genesis l)
  accounted : ∀ ys, ys <+: xs →
    (run (step cfg) ys (genesis l)).outstanding +
        tally (step cfg) (fun s x => x.2.burns cfg x.1 s) ys (genesis l) =
      tally (step cfg) (fun s x => x.2.mints cfg s) ys (genesis l)

omit [DecidableEq AccountId] in
theorem neutral_genesis (l : L) :
    Neutral (totalIssuance l) (genesis l : State AccountId L) := ⟨rfl, rfl⟩

theorem throughout_neutral_iff (hfull : Along (step cfg) (CreatesInFull cfg) xs (genesis l)) :
    Throughout (step cfg) (Neutral (totalIssuance l)) xs (genesis l) ↔
      Along (step cfg) SlotFree xs (genesis l) :=
  throughout_iff_along_within (J := fun _ => True) (fun _ _ _ _ _ _ => trivial)
    (fun _ _ _ _ hn hf h => neutral_step_iff hn hf h) trivial (neutral_genesis l) hfull

/-- What was minted and not burned is owed, as long as no contract is written over. -/
theorem outstanding_run (hfull : Along (step cfg) (CreatesInFull cfg) xs (genesis l))
    (hfree : Along (step cfg) SlotFree xs (genesis l)) :
    (run (step cfg) xs (genesis l)).outstanding +
        tally (step cfg) (fun s x => x.2.burns cfg x.1 s) xs (genesis l) =
      tally (step cfg) (fun s x => x.2.mints cfg s) xs (genesis l) := by
  have hbalance := tally_balance (P := Neutral (totalIssuance l)) State.outstanding
    (fun s x => x.2.mints cfg s) (fun s x => x.2.burns cfg x.1 s) ?_ ?_ (neutral_genesis l)
    (hfull.and hfree)
  · exact hbalance.trans (Nat.zero_add _)
  · rintro x s s' hneutral ⟨hfull, hfree⟩ h
    exact (neutral_step_iff hneutral hfull h).mpr hfree
  · rintro x s s' hneutral ⟨hfull, hfree⟩ h
    exact outstanding_step hneutral hfull hfree h

theorem emissionNeutral_of_along (hfull : Along (step cfg) (CreatesInFull cfg) xs (genesis l))
    (hfree : Along (step cfg) SlotFree xs (genesis l)) : EmissionNeutral cfg l xs := by
  refine ⟨(throughout_neutral_iff hfull).mpr hfree, fun ys hys => ?_⟩
  exact outstanding_run (hfull.initial hys) (hfree.initial hys)

/-- **Emission.** Where every credit is created in full, emission is neutral over exactly the runs
in which no credit is issued over a contract that still owes something. -/
theorem emissionNeutral_iff (hfull : Along (step cfg) (CreatesInFull cfg) xs (genesis l)) :
    EmissionNeutral cfg l xs ↔ Along (step cfg) SlotFree xs (genesis l) := by
  constructor
  · intro h
    exact (throughout_neutral_iff hfull).mp h.neutral
  · intro hfree
    exact emissionNeutral_of_along hfull hfree

/-- A credit is issued, and repaid with a day's interest: a run that meets the condition. -/
theorem emissionNeutral_repaid :
    EmissionNeutral bankOperator operatorGenesis.ledger
      [(operatorContext 1 .root, .setBankAccount 2),
        (operatorContext 1 (.signed 7), .lockCollateral (10 * CentralBank.unit) .altanCoin),
        (operatorContext 1 (.signed 7), .requestCredit 0),
        (operatorContext 1 .root, .issueCredit 0),
        (operatorContext 2 (.signed 7), .repayCredit 0 (80 * CentralBank.unit)),
        (operatorContext 14402 (.signed 7), .repayCredit 0 (80 * CentralBank.unit))] :=
  (emissionNeutral_iff (by decide +kernel)).mpr (by decide +kernel)

/-! ### Identifiers -/

omit [Currency AccountId L] [DecidableEq AccountId] in
/-- After `n` credits the counter is at `n` or at the end of its range, and no contract is under an
identifier from `n` on. -/
structure Numbered (n : ℕ) (s : State AccountId L) : Prop where
  nextId : s.nextCreditId = min n u32Max
  below : ∀ id ∈ s.creditContracts.keys, id < n

theorem numbered_step (n : ℕ) (x : Extrinsic AccountId) (s s' : State AccountId L)
    (hnumbered : Numbered n s) (h : step cfg x s = .ok s') :
    Numbered (n + if x.2.issues = true then 1 else 0) s' := by
  have hnext := hnumbered.nextId
  by_cases hx : x.2.issues = true
  · rw [if_pos hx]
    obtain ⟨ctx, call⟩ := x
    cases call with
    | issueCredit id =>
      obtain ⟨-, -, col, -, -, -, rfl⟩ := issueCredit_eq_ok.mp h
      refine ⟨?_, fun id' hid' => ?_⟩
      · show saturatingAdd u32Max s.nextCreditId 1 = min (n + 1) u32Max
        rw [hnext, saturatingAdd_min]
      · rw [StorageMap.keys_insert, Finset.mem_insert] at hid'
        rcases hid' with rfl | hold
        · omega
        · exact (hnumbered.below id' hold).trans (Nat.lt_succ_self n)
    | _ => cases hx
  · rw [if_neg hx, Nat.add_zero]
    have hsettled := step_settled (Bool.not_eq_true _ ▸ hx) h
    refine ⟨hsettled.nextId.trans hnext, fun id hid => ?_⟩
    rw [hsettled.keys] at hid
    exact hnumbered.below id hid

omit [DecidableEq AccountId] [Currency AccountId L] in
/-- The identifier of one of the first `2 ^ 32` credits is free. -/
theorem Numbered.slotFree (h : Numbered n s) (hn : x.2.issues = true → n < 2 ^ 32) :
    SlotFree s x := by
  intro hx credit hcredit
  have hlt := hn hx
  have hnext : s.nextCreditId = n := by
    rw [h.nextId]
    unfold u32Max
    omega
  have hbelow := h.below n (StorageMap.mem_keys.mpr ⟨credit, hnext ▸ hcredit⟩)
  exact absurd hbelow (Nat.lt_irrefl n)

/-- **Enough identifiers.** Emission is neutral over every run of at most `2 ^ 32` credits. -/
theorem emissionNeutral_of_accepted (hfull : Along (step cfg) (CreatesInFull cfg) xs (genesis l))
    (h : accepted (step cfg) (fun x => x.2.issues = true) xs (genesis l) ≤ 2 ^ 32) :
    EmissionNeutral cfg l xs := by
  have hstart : Numbered 0 (genesis l : State AccountId L) :=
    ⟨rfl, fun id hid => by cases hid⟩
  have hcount : 0 + accepted (step cfg) (fun x => x.2.issues = true) xs (genesis l) ≤ 2 ^ 32 := by
    rwa [Nat.zero_add]
  apply emissionNeutral_of_along hfull
  exact along_of_counted numbered_step (fun n x s hnumbered hn => hnumbered.slotFree hn) hstart
    hcount

/-! ### One credit too many -/

section Overwritten

/-- The citizen 7 locks the least collateral and asks for a credit on it, after `n` others. -/
def application (n : ℕ) : List (Extrinsic ℕ) :=
  [(operatorContext 1 (.signed 7), .lockCollateral 1 .altanCoin),
    (operatorContext 1 (.signed 7), .requestCredit (min n u32Max))]

/-- The credit is issued. -/
def grant (n : ℕ) : Extrinsic ℕ := (operatorContext 1 .root, .issueCredit (min n u32Max))

/-- The account of the bank is set, and `n` credits are applied for and issued. -/
def manyCredits (n : ℕ) : List (Extrinsic ℕ) :=
  (operatorContext 1 .root, .setBankAccount 2) ::
    (List.range n).flatMap fun k => application k ++ [grant k]

theorem manyCredits_succ (n : ℕ) :
    manyCredits (n + 1) = manyCredits n ++ (application n ++ [grant n]) := by
  simp [manyCredits, List.range_succ]

/-- The issuance at genesis. -/
def operatorIssuance : ℕ := totalIssuance operatorGenesis.ledger

/-- The state after some collaterals and credits: the counters are there or at the end of their
range, and nothing is repaid on the last credit. -/
structure Issued (collaterals credits : ℕ) (s : State ℕ (NativeLedger ℕ)) : Prop where
  bank : s.bankSpecialAccount = some 2
  nextCollateral : s.nextCollateralId = min collaterals u32Max
  nextCredit : s.nextCreditId = min credits u32Max
  last : ∀ m, credits = m + 1 →
    ∃ credit, s.creditContracts.get (min m u32Max) = some credit ∧ credit.outstanding = 9
  funds : 2 + existentialDeposit (NativeLedger ℕ) ≤
    freeBalance s.ledger 7 + (collaterals - credits)
  bankFunds : existentialDeposit (NativeLedger ℕ) ≤ freeBalance s.ledger 2
  unlocked : ∀ id, lockAmount s.ledger id 7 = 0
  issuance : totalIssuance s.ledger = operatorIssuance + 9 * credits

variable {n : ℕ} {s : State ℕ (NativeLedger ℕ)}

theorem issued_zero : Issued 0 0 (run (step bankOperator) (manyCredits 0) operatorGenesis) where
  bank := rfl
  nextCollateral := rfl
  nextCredit := rfl
  last m hm := by cases hm
  funds := by decide +kernel
  bankFunds := by decide +kernel
  unlocked id := Balances.ofFree_lockAmount _ id 7
  issuance := rfl

/-- The collateral of an application, once the credit is asked for. -/
def appliedCollateral : CollateralContract ℕ :=
  { lockedCollateral (operatorContext 1 (.signed 7)) 7 .altanCoin 1 with creditRequested := true }

theorem application_issued (h : Issued n n s) :
    Issued (n + 1) n (run (step bankOperator) (application n) s) ∧
      (run (step bankOperator) (application n) s).collateralContracts.get (min n u32Max) =
        some appliedCollateral := by
  have hfunds := h.funds
  have hbank := h.bankFunds
  have hissuance := h.issuance
  obtain ⟨l', hl'⟩ := UnlockedTransfers.transfer_unlocked s.ledger 7 2 1 h.unlocked (by omega)
    (by omega)
  -- both calls are accepted
  obtain ⟨s₁, hlock, hs₁⟩ : ∃ s₁, step bankOperator
      (operatorContext 1 (.signed 7), .lockCollateral 1 .altanCoin) s = .ok s₁ ∧
        s₁ = { s with
          collateralContracts := s.collateralContracts.insert s.nextCollateralId
            (lockedCollateral (operatorContext 1 (.signed 7)) 7 .altanCoin 1)
          nextCollateralId := saturatingAdd u32Max s.nextCollateralId 1
          ledger := l' } :=
    ⟨_, lockCollateral_eq_ok.mpr ⟨7, rfl, Nat.one_pos, 2, h.bank, l', hl', rfl⟩, rfl⟩
  have hget : s₁.collateralContracts.get (min n u32Max) =
      some (lockedCollateral (operatorContext 1 (.signed 7)) 7 .altanCoin 1) := by
    rw [hs₁, ← h.nextCollateral]
    exact StorageMap.get_insert_self
  obtain ⟨s₂, hrequest, hs₂⟩ : ∃ s₂, step bankOperator
      (operatorContext 1 (.signed 7), .requestCredit (min n u32Max)) s₁ = .ok s₂ ∧
        s₂ = { s₁ with
          collateralContracts :=
            s₁.collateralContracts.insert (min n u32Max) appliedCollateral } :=
    ⟨_, requestCredit_eq_ok.mpr ⟨7, rfl, _, hget, rfl, rfl, rfl, rfl⟩, rfl⟩
  have hrun : run (step bankOperator) (application n) s = s₂ := by
    rw [application, run_cons, exec_ok hlock, run_cons, exec_ok hrequest, run_nil]
  have hfree := Currency.transfer_keepAlive_free hl' 7
  have hfreeBank := Currency.transfer_keepAlive_free hl' 2
  rw [hrun, hs₂, hs₁]
  refine ⟨⟨h.bank, ?_, h.nextCredit, h.last, ?_, ?_, ?_, ?_⟩, StorageMap.get_insert_self⟩
  · show saturatingAdd u32Max s.nextCollateralId 1 = min (n + 1) u32Max
    rw [h.nextCollateral, saturatingAdd_min]
  · show _ ≤ freeBalance l' 7 + _
    simp only [if_true, Nat.reduceEqDiff, if_false] at hfree
    omega
  · show _ ≤ freeBalance l' 2
    simp only [if_true, Nat.reduceEqDiff, if_false] at hfreeBank
    omega
  · intro id
    exact (LockableCurrency.transfer_lock _ _ _ _ _ _ hl' id 7).trans (h.unlocked id)
  · exact (Currency.transfer_keepAlive_issuance hl').trans hissuance

theorem grant_issued (h : Issued (n + 1) n s)
    (hget : s.collateralContracts.get (min n u32Max) = some appliedCollateral)
    (hroom : operatorIssuance + 9 * (n + 1) ≤ u128Max) :
    ∃ s', step bankOperator (grant n) s = .ok s' ∧ CreatesInFull bankOperator s (grant n) ∧
      Issued (n + 1) (n + 1) s' := by
  have hfunds := h.funds
  have hissuance := h.issuance
  -- the balance of the citizen is there, so that nine more are no dust
  have hcreatable : Creatable s.ledger 7 9 := ⟨Or.inl (Or.inl (by omega)), by omega⟩
  have hcredited := Currency.depositCreating_credited s.ledger 7 9 hcreatable
  have hcredits : (grant n).2.credits bankOperator s = [(7, 9)] := by
    show ((s.collateralContracts.get (min n u32Max)).map _).toList = _
    rw [hget]
    rfl
  obtain ⟨s', hgrant, hs'⟩ : ∃ s', step bankOperator (grant n) s = .ok s' ∧
      s' = { s with
        collateralContracts := s.collateralContracts.insert (min n u32Max)
          { appliedCollateral with status := .active }
        creditContracts := s.creditContracts.insert s.nextCreditId
          (issuedCredit bankOperator (operatorContext 1 .root) (min n u32Max) appliedCollateral s)
        nextCreditId := saturatingAdd u32Max s.nextCreditId 1
        totalCreditOutstanding := saturatingAdd u128Max s.totalCreditOutstanding 9
        creditScores := s'.creditScores
        ledger := Currency.depositCreating s.ledger 7 9 } :=
    ⟨_, issueCredit_eq_ok.mpr ⟨rfl, rfl, _, hget, rfl, rfl, rfl⟩, rfl⟩
  refine ⟨s', hgrant, ?_, ?_⟩
  · show Currency.AllCreatable s.ledger _
    rw [hcredits]
    exact ⟨Or.inr hcreatable, trivial⟩
  · rw [hs']
    refine ⟨h.bank, h.nextCollateral, ?_, ?_, ?_, ?_, ?_, ?_⟩
    · show saturatingAdd u32Max s.nextCreditId 1 = min (n + 1) u32Max
      rw [h.nextCredit, saturatingAdd_min]
    · rintro m hm
      obtain rfl : n = m := Nat.succ.inj hm
      refine ⟨issuedCredit bankOperator (operatorContext 1 .root) (min n u32Max)
        appliedCollateral s, ?_, rfl⟩
      rw [← h.nextCredit]
      exact StorageMap.get_insert_self
    · show _ ≤ freeBalance (Currency.depositCreating s.ledger 7 9) 7 + _
      rw [hcredited.free]
      omega
    · exact h.bankFunds.trans (Currency.depositCreating_ge s.ledger 7 9 2)
    · intro id
      exact (LockableCurrency.depositCreating_lock s.ledger 7 9 id 7).trans (h.unlocked id)
    · show totalIssuance (Currency.depositCreating s.ledger 7 9) = _
      rw [hcredited.issuance]
      omega

/-- Many credits are issued, all of them in full. -/
theorem manyCredits_issued (n : ℕ) (hroom : operatorIssuance + 9 * n ≤ u128Max) :
    Issued n n (run (step bankOperator) (manyCredits n) operatorGenesis) ∧
      Along (step bankOperator) (CreatesInFull bankOperator) (manyCredits n) operatorGenesis := by
  induction n with
  | zero => exact ⟨issued_zero, fun _ _ => trivial, trivial⟩
  | succ n ih =>
    obtain ⟨hissued, halong⟩ := ih (by omega)
    obtain ⟨happlied, hget⟩ := application_issued hissued
    obtain ⟨s', hgrant, hfull, hissued'⟩ := grant_issued happlied hget hroom
    rw [manyCredits_succ, run_append, run_append, run_cons, run_nil, exec_ok hgrant]
    refine ⟨hissued', along_append.mpr ⟨halong, along_append.mpr ⟨?_, fun _ _ => hfull, trivial⟩⟩⟩
    exact ⟨fun _ _ => trivial, fun _ _ => trivial, trivial⟩

/-- **Written over.** With all identifiers taken, the next credit is issued over the last one,
which is still owed. -/
theorem manyCredits_overwritten (hn : u32Max < n)
    (hroom : operatorIssuance + 9 * (n + 1) ≤ u128Max) :
    ¬ Along (step bankOperator) SlotFree (manyCredits (n + 1)) operatorGenesis := by
  intro hfree
  obtain ⟨hissued, -⟩ := manyCredits_issued n (by omega)
  obtain ⟨happlied, hget⟩ := application_issued hissued
  obtain ⟨s', hgrant, -, -⟩ := grant_issued happlied hget hroom
  rw [manyCredits_succ] at hfree
  have hslot := (along_append.mp (along_append.mp hfree).2).2.1 s' hgrant
  obtain ⟨m, rfl⟩ : ∃ m, n = m + 1 := Nat.exists_eq_succ_of_ne_zero (by omega)
  obtain ⟨credit, hcredit, howed⟩ := happlied.last m rfl
  -- the identifier of the last credit is the next one
  have hnext := happlied.nextCredit
  rw [Nat.min_eq_right (by omega)] at hcredit hnext
  have hzero := hslot rfl credit (hnext ▸ hcredit)
  omega

/-- `2 ^ 32 + 1` credits are issued in full, and nothing is repaid: the last one takes the place of
another, and less is owed on the contracts than `TotalCreditOutstanding` says. -/
theorem credit_overwritten :
    Along (step bankOperator) (CreatesInFull bankOperator) (manyCredits (2 ^ 32 + 1))
        operatorGenesis ∧
      ¬ EmissionNeutral bankOperator operatorGenesis.ledger (manyCredits (2 ^ 32 + 1)) := by
  have hroom : operatorIssuance + 9 * (2 ^ 32 + 1) ≤ u128Max := by decide +kernel
  obtain ⟨-, hfull⟩ := manyCredits_issued (2 ^ 32 + 1) hroom
  refine ⟨hfull, fun h => ?_⟩
  have hfree := (throughout_neutral_iff hfull).mp h.neutral
  exact manyCredits_overwritten (by decide) hroom hfree

end Overwritten

end BankOperator
