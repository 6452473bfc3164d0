import Altan.BankOperator.Spec
import Altan.Foundation.TransitionSystem

/-!
# The reserve behind the credits

A single credit is nine times its own collateral. What it creates can be locked as collateral in
turn, so nothing in the calls bounds all credits together by nine times the money there was at the
start. They stay within that bound over exactly the runs in which every credit still fits under it
when it is issued. The issuance never grows by more than what is outstanding, whatever is called.

## Main definitions

* `Backed`: the issuance has grown by no more than what is outstanding
* `WithinReserve`: credits and issuance are within nine and ten times the base money
* `CreditFits`: a credit fits under the bound

## Main results

* `backed_step`: no call issues more than it adds to what is outstanding
* `withinReserve_step_iff`: one call
* `withinReserve_iff`: a run
* `reserve_exceeded`: a citizen locks credit as collateral again
-/

open Bounded Dispatch Ledger TransitionSystem Runtime

namespace BankOperator

variable {AccountId L : Type} [Currency AccountId L] {cfg : Config} {s s' : State AccountId L}
  {x : Extrinsic AccountId} {xs : List (Extrinsic AccountId)} {n : ℕ}

/-- The issuance has grown from `n` by no more than what is outstanding. -/
def Backed (n : ℕ) (s : State AccountId L) : Prop :=
  totalIssuance s.ledger ≤ n + s.totalCreditOutstanding

/-- All credits together are within nine times the base money `n`, and the issuance is within ten
times. -/
structure WithinReserve (n : ℕ) (s : State AccountId L) : Prop where
  credit : s.totalCreditOutstanding ≤ 9 * n
  issuance : totalIssuance s.ledger ≤ 10 * n

instance : Decidable (WithinReserve n s) :=
  decidable_of_iff (_ ∧ _) ⟨fun h => ⟨h.1, h.2⟩, fun h => ⟨h.credit, h.issuance⟩⟩

omit [Currency AccountId L] in
/-- A credit fits under the bound when it is issued on its collateral, or the bound is out of the
range of balances. -/
def CreditFits (n : ℕ) (s : State AccountId L) : Extrinsic AccountId → Prop
  | (_, .issueCredit id) => ∀ col ∈ s.collateralContracts.get id,
      u128Max ≤ 9 * n ∨ s.totalCreditOutstanding + 9 * col.collateralNet ≤ 9 * n
  | _ => True

instance : (x : Extrinsic AccountId) → Decidable (CreditFits n s x)
  | (_, .issueCredit _) => inferInstanceAs (Decidable (∀ _ ∈ _, _))
  | (_, .setBankAccount _) | (_, .assessRwa ..) | (_, .lockCollateral ..) | (_, .requestCredit _)
  | (_, .accrueInterest _) | (_, .repayCredit ..) | (_, .declareDefault _)
  | (_, .requestAccountFreeze ..) => isTrue trivial

/-- Nothing is outstanding, and the issuance is what it is. -/
theorem backed_start (h : s.totalCreditOutstanding = 0) : Backed (totalIssuance s.ledger) s := by
  unfold Backed
  rw [h]
  exact Nat.le_refl _

theorem withinReserve_start (h : s.totalCreditOutstanding = 0) :
    WithinReserve (totalIssuance s.ledger) s := by
  refine ⟨?_, ?_⟩
  · rw [h]
    exact Nat.zero_le _
  · omega

theorem Backed.within_iff_credit (h : Backed n s) :
    WithinReserve n s ↔ s.totalCreditOutstanding ≤ 9 * n := by
  constructor
  · exact WithinReserve.credit
  · intro hcredit
    unfold Backed at h
    exact ⟨hcredit, by omega⟩

omit [Currency AccountId L] in
/-- What becomes of the total when a credit is added, against a bound. -/
theorem total_le_iff {total net bound : ℕ} (h : total ≤ bound) :
    saturatingAdd u128Max total (saturatingMul u128Max net 9) ≤ bound ↔
      u128Max ≤ bound ∨ total + 9 * net ≤ bound := by
  rw [saturatingAdd_le_iff]
  unfold saturatingMul
  omega

variable [DecidableEq AccountId]

/-- **No call issues more than it adds to what is outstanding.** -/
theorem backed_step (hbacked : Backed n s) (h : step cfg x s = .ok s') : Backed n s' := by
  unfold Backed at hbacked ⊢
  cases hx : x.2.issues with
  | true =>
    obtain ⟨ctx, call⟩ := x
    cases call with
    | issueCredit id =>
      obtain ⟨-, -, col, -, -, -, rfl⟩ := issueCredit_eq_ok.mp h
      have hle := Currency.depositCreating_le s.ledger col.citizen (creditAmount cfg col)
      have hmax := totalIssuance_le (Currency.depositCreating s.ledger col.citizen
        (creditAmount cfg col))
      -- the total may clip, but then it is as large as the issuance can be
      show totalIssuance (Currency.depositCreating s.ledger col.citizen (creditAmount cfg col)) ≤
        n + min (s.totalCreditOutstanding + creditAmount cfg col) u128Max
      omega
    | _ => cases hx
  | false =>
    have hsettled := step_settled hx h
    have htotal := hsettled.total
    have hissuance := hsettled.issuance
    omega

/-- **One call stays within the reserve just when the credit it issues fits.** -/
theorem withinReserve_step_iff (hbacked : Backed n s) (hwithin : WithinReserve n s)
    (h : step cfg x s = .ok s') : WithinReserve n s' ↔ CreditFits n s x := by
  rw [(backed_step hbacked h).within_iff_credit]
  have hcredit := hwithin.credit
  obtain ⟨ctx, call⟩ := x
  cases hx : call.issues with
  | true =>
    cases call with
    | issueCredit id =>
      obtain ⟨-, hnine, col, hget, -, -, rfl⟩ := issueCredit_eq_ok.mp h
      have hfits : CreditFits n s (ctx, .issueCredit id) ↔
          u128Max ≤ 9 * n ∨ s.totalCreditOutstanding + 9 * col.collateralNet ≤ 9 * n :=
        StorageMap.forall_get_iff hget
      rw [hfits, ← total_le_iff hcredit, ← hnine]
      rfl
    | _ => cases hx
  | false =>
    have htotal : s'.totalCreditOutstanding = _ := (step_settled (x := (ctx, call)) hx h).total
    refine iff_of_true ?_ ?_
    · rw [htotal]
      exact (Nat.sub_le _ _).trans hcredit
    · cases call with
      | issueCredit id => cases hx
      | _ => trivial

/-- **The reserve.** From a state with nothing outstanding, credits and issuance stay within nine
and ten times the issuance over exactly the runs in which every credit fits when it is issued. -/
theorem withinReserve_iff (hstart : s.totalCreditOutstanding = 0) :
    Throughout (step cfg) (WithinReserve (totalIssuance s.ledger)) xs s ↔
      Along (step cfg) (CreditFits (totalIssuance s.ledger)) xs s := by
  apply throughout_iff_along (J := Backed (totalIssuance s.ledger))
  · intro x s₁ s₂ hbacked h
    exact backed_step hbacked h
  · intro x s₁ s₂ hbacked hwithin h
    exact withinReserve_step_iff hbacked hwithin h
  · exact backed_start hstart
  · exact withinReserve_start hstart

/-- A citizen locks collateral, draws a credit and repays some of it: a run that meets the
condition. -/
theorem withinReserve_repaid :
    Throughout (step bankOperator) (WithinReserve (totalIssuance operatorGenesis.ledger))
      [(operatorContext 1 .root, .setBankAccount 2),
        (operatorContext 1 (.signed 7), .lockCollateral (900 * CentralBank.unit) .altanCoin),
        (operatorContext 1 (.signed 7), .requestCredit 0),
        (operatorContext 1 .root, .issueCredit 0),
        (operatorContext 2 (.signed 7), .repayCredit 0 (80 * CentralBank.unit))] operatorGenesis :=
  (withinReserve_iff rfl).mpr (by decide +kernel)

/-- Of three thousand units in all, a citizen locks nine hundred, and then most of the credit on
them: the second credit alone is more than nine times the three thousand. -/
theorem reserve_exceeded :
    ¬ Throughout (step bankOperator) (WithinReserve (totalIssuance operatorGenesis.ledger))
      [(operatorContext 1 .root, .setBankAccount 2),
        (operatorContext 1 (.signed 7), .lockCollateral (900 * CentralBank.unit) .altanCoin),
        (operatorContext 1 (.signed 7), .requestCredit 0),
        (operatorContext 1 .root, .issueCredit 0),
        (operatorContext 1 (.signed 7), .lockCollateral (7000 * CentralBank.unit) .altanCoin),
        (operatorContext 1 (.signed 7), .requestCredit 1),
        (operatorContext 1 .root, .issueCredit 1)] operatorGenesis := by
  decide +kernel

end BankOperator
