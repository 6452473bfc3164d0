import Altan.Foundation.Accounting
import Altan.Runtime.Constants
import Altan.ShieldedVaults.Model

/-!
# The supply across the shielded boundary

What is shielded leaves the public supply and is counted in `TotalShielded`; an exit creates what
its caller declares and takes it off the counter, which stops at zero. The public supply and the
counter together are constant in exactly the runs where no exit declares more than is shielded.
Nothing in the code ties the declared amount to the commitment that is destroyed, or to the counter.

## Main definitions

* `State.supply`: the public supply with what is shielded
* `CreatesInFull`: every creation of a call has its full effect
* `DeclaresShielded`: an exit declares no more than is shielded
* `SupplyConserved`: conservation over a run

## Main results

* `step_supply_iff`: one call
* `supplyConserved_iff`: a run
* `unshield_inflates`: a run that creates money
-/

open Bounded Dispatch Ledger TransitionSystem Runtime

namespace ShieldedVaults

variable {AccountId L : Type} [Currency AccountId L] {cfg : Config AccountId} {s s' : State L}
  {x : Extrinsic AccountId} {xs : List (Extrinsic AccountId)} {l : L}

/-- The total issuance with everything shielded. -/
def State.supply (s : State L) : ℕ := totalIssuance s.ledger + s.totalShielded

/-- What a call creates on public accounts is created in full: every account exists or receives the
existential deposit, and the issuance stays in range. -/
def CreatesInFull (cfg : Config AccountId) (s : State L) (x : Extrinsic AccountId) : Prop :=
  Currency.AllCreatable s.ledger (x.2.credits cfg x.1)

instance : Decidable (CreatesInFull cfg s x) :=
  inferInstanceAs (Decidable (Currency.AllCreatable _ _))

/-- An exit declares no more than is shielded in all. -/
def DeclaresShielded (s : State L) (x : Extrinsic AccountId) : Prop :=
  x.2.move.leaving ≤ s.totalShielded

instance : Decidable (DeclaresShielded s x) := inferInstanceAs (Decidable (_ ≤ _))

theorem Move.total_of_le {move : Move} {n : ℕ} (h : n + move.entering ≤ u128Max) :
    move.total n = n + move.entering - move.leaving := by
  cases move with
  | enter commitment amount orgId => exact saturatingAdd_of_le h
  | pass nullifier input output => rfl
  | leave nullifier commitment amount orgId => rfl

/-- What a call does to the total issuance. -/
theorem step_issuance (hfull : CreatesInFull cfg s x) (h : step cfg x s = .ok s') :
    totalIssuance s'.ledger + x.2.move.entering = totalIssuance s.ledger + x.2.move.leaving := by
  rcases step_ledger h with ⟨who, _, _, hleaving, hdebited⟩ | ⟨hentering, hledger⟩
  · rw [hdebited.issuance, hleaving, Nat.add_zero]
  · rw [hledger, Currency.depositAll_issuance hfull, sum_credits, hentering, Nat.add_zero]

/-- Within a supply in range, the counter takes in what enters exactly. -/
theorem step_totalShielded (hrange : s.supply ≤ u128Max) (h : step cfg x s = .ok s') :
    s'.totalShielded = s.totalShielded + x.2.move.entering - x.2.move.leaving := by
  rw [(step_moved h).total]
  refine Move.total_of_le ?_
  unfold State.supply at hrange
  rcases step_ledger h with ⟨who, _, _, _, hdebited⟩ | ⟨hentering, _⟩
  · have := hdebited.issuance
    omega
  · omega

/-- **One call keeps the supply just when it declares no more than is shielded.** -/
theorem step_supply_iff (hrange : s.supply ≤ u128Max) (hfull : CreatesInFull cfg s x)
    (h : step cfg x s = .ok s') : s'.supply = s.supply ↔ DeclaresShielded s x := by
  have hissuance := step_issuance hfull h
  have hshielded := step_totalShielded hrange h
  have hone : x.2.move.entering = 0 ∨ x.2.move.leaving = 0 := by
    cases x.2.move <;> simp [Move.entering, Move.leaving]
  unfold State.supply DeclaresShielded
  omega

/-- Conservation over a run from empty storage: the supply stays what it was, no more is
materialised on public accounts than has been shielded, and the counter is never clipped. -/
structure SupplyConserved (cfg : Config AccountId) (l : L) (xs : List (Extrinsic AccountId)) :
    Prop where
  supply : Throughout (step cfg) (fun s => s.supply = totalIssuance l) xs (genesis l)
  covered : ∀ ys, ys <+: xs →
    tally (step cfg) (fun _ x => x.2.move.leaving) ys (genesis l) ≤
      tally (step cfg) (fun _ x => x.2.move.entering) ys (genesis l)
  unclipped : Along (step cfg)
    (fun s x => s.totalShielded - x.2.move.leaving + x.2.move.leaving = s.totalShielded) xs
    (genesis l)

/-- The supply stays what it was in exactly the runs whose exits declare no more than is
shielded. -/
theorem throughout_supply_iff (hfull : Along (step cfg) (CreatesInFull cfg) xs (genesis l)) :
    Throughout (step cfg) (fun s => s.supply = totalIssuance l) xs (genesis l) ↔
      Along (step cfg) DeclaresShielded xs (genesis l) := by
  refine throughout_iff_along_within (J := fun _ => True) (fun _ _ _ _ _ _ => trivial) ?_ trivial
    (Nat.add_zero _) hfull
  intro x s s' _ hsupply hfull h
  have hrange : s.supply ≤ u128Max := hsupply ▸ totalIssuance_le l
  rw [← hsupply]
  exact step_supply_iff hrange hfull h

/-- What is shielded is what came in less what went out. -/
theorem totalShielded_run (hfull : Along (step cfg) (CreatesInFull cfg) xs (genesis l))
    (hdeclares : Along (step cfg) DeclaresShielded xs (genesis l)) :
    (run (step cfg) xs (genesis l)).totalShielded +
        tally (step cfg) (fun _ x => x.2.move.leaving) xs (genesis l) =
      tally (step cfg) (fun _ x => x.2.move.entering) xs (genesis l) := by
  have hboth := hfull.and hdeclares
  have hbalance := tally_balance (P := fun s => s.supply = totalIssuance l)
    (fun s => s.totalShielded) (fun _ x => x.2.move.entering) (fun _ x => x.2.move.leaving)
    ?_ ?_ (Nat.add_zero _) hboth
  · exact hbalance.trans (Nat.zero_add _)
  · rintro x s s' hsupply ⟨hfull, hdeclared⟩ h
    have hrange : s.supply ≤ u128Max := hsupply ▸ totalIssuance_le l
    exact ((step_supply_iff hrange hfull h).mpr hdeclared).trans hsupply
  · rintro x s s' hsupply ⟨hfull, hdeclared⟩ h
    have hrange : s.supply ≤ u128Max := hsupply ▸ totalIssuance_le l
    have hshielded := step_totalShielded hrange h
    unfold DeclaresShielded at hdeclared
    omega

/-- **Conservation.** Where every creation has its full effect, the supply is conserved in exactly
the runs in which no exit declares more than is shielded at the time. -/
theorem supplyConserved_iff (hfull : Along (step cfg) (CreatesInFull cfg) xs (genesis l)) :
    SupplyConserved cfg l xs ↔ Along (step cfg) DeclaresShielded xs (genesis l) := by
  constructor
  · intro h
    exact (throughout_supply_iff hfull).mp h.supply
  · intro h
    refine ⟨(throughout_supply_iff hfull).mpr h, fun ys hys => ?_, h.imp fun s x hle => ?_⟩
    · have hrun := totalShielded_run (hfull.initial hys) (h.initial hys)
      omega
    · exact Nat.sub_add_cancel hle

/-- Ten units are shielded, passed on and unshielded: a run that meets the condition. -/
theorem supplyConserved_split :
    SupplyConserved shieldedVaults vaultsGenesis.ledger
      [(vaultsContext 7, .shieldFunds (10 * CentralBank.unit) (.ofByte 1) none),
        (vaultsContext 7, .shieldedTransfer (.ofByte 11) (.ofByte 1) (.ofByte 2) none),
        (vaultsContext 8, .unshieldToAccount (.ofByte 12) (.ofByte 2) (10 * CentralBank.unit) 8
          none)] :=
  (supplyConserved_iff (by decide +kernel)).mpr (by decide +kernel)

/-- Ten units are shielded and a hundred unshielded, with everything created in full: ninety units
are new. -/
theorem unshield_inflates :
    ¬ ∀ xs, Along (step shieldedVaults) (CreatesInFull shieldedVaults) xs vaultsGenesis →
      SupplyConserved shieldedVaults vaultsGenesis.ledger xs := by
  intro h
  have hconserved := h
    [(vaultsContext 7, .shieldFunds (10 * CentralBank.unit) (.ofByte 1) none),
      (vaultsContext 7, .unshieldToAccount (.ofByte 11) (.ofByte 1) (100 * CentralBank.unit) 7 none)]
    (by decide +kernel)
  exact absurd hconserved.supply (by decide +kernel)

end ShieldedVaults
