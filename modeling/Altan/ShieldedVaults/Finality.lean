import Altan.Runtime.Constants
import Altan.ShieldedVaults.Model

/-!
# Destroyed commitments

A commitment that was never registered and one that was destroyed read alike, as not active, and
registering a commitment asks for no more. So a destroyed commitment can be registered again, by
shielding or as the output of a transfer, which may even be its own input; it stays destroyed in
exactly the runs that register absent commitments only. Nullifiers have no such gap: each is
accepted once, by any of the four calls that destroy a commitment, and each of these calls records
one.

## Main definitions

* `Spends`, `Nullifies`: the call destroys a commitment, under a nullifier
* `RegistersAbsent`: the call registers no commitment that is in the registry already
* `SpentForGood`: destroyed commitments stay destroyed, over a run

## Main results

* `spentForGood_iff`: the runs in which they do
* `commitment_respent`: a run in which one commitment is spent twice
-/

open Bounded Dispatch TransitionSystem Runtime

namespace ShieldedVaults

variable {AccountId L : Type} {cfg : Config AccountId} {s s' : State L}
  {x : Extrinsic AccountId} {xs : List (Extrinsic AccountId)} {l : L}

/-- The call destroys the commitment. -/
def Spends (commitment : Bytes32) (x : Extrinsic AccountId) : Prop :=
  x.2.move.spends = some commitment

instance (commitment : Bytes32) : DecidablePred (@Spends AccountId commitment) :=
  fun x => inferInstanceAs (Decidable (x.2.move.spends = some commitment))

/-- The call records the nullifier. -/
def Nullifies (nullifier : Bytes32) (x : Extrinsic AccountId) : Prop :=
  x.2.move.nullifier = some nullifier

instance (nullifier : Bytes32) : DecidablePred (@Nullifies AccountId nullifier) :=
  fun x => inferInstanceAs (Decidable (x.2.move.nullifier = some nullifier))

/-- The call destroys some commitment. -/
def IsSpend (x : Extrinsic AccountId) : Prop := x.2.move.spends.isSome = true

instance : DecidablePred (@IsSpend AccountId) :=
  fun x => inferInstanceAs (Decidable (x.2.move.spends.isSome = true))

/-- The commitment a call registers, if any, is not in the registry, active or destroyed. -/
def RegistersAbsent (s : State L) (x : Extrinsic AccountId) : Prop :=
  Phase.OpensAbsent State.phase (fun x : Extrinsic AccountId => x.2.move.opens) s x

instance : Decidable (RegistersAbsent s x) := inferInstanceAs (Decidable (Phase.OpensAbsent ..))

theorem State.phase_eq_absent_iff {commitment : Bytes32} :
    s.phase commitment = .absent ↔ s.shieldedCommitments.get commitment = none := by
  unfold phase
  cases s.shieldedCommitments.get commitment with
  | none => simp
  | some active => cases active <;> simp

theorem phase_genesis (l : L) (commitment : Bytes32) :
    (genesis l).phase commitment = .absent :=
  State.phase_eq_absent_iff.mpr (StorageMap.get_empty commitment)

/-- A call records a nullifier just when it destroys a commitment. -/
theorem nullifier_isSome (move : Move) : move.nullifier.isSome = move.spends.isSome := by
  cases move <;> rfl

variable [Currency AccountId L]

/-- Over a run from empty storage, a destroyed commitment is never active again and so destroyed
once, there are as many nullifiers as commitments were destroyed, and each is accepted once. -/
structure SpentForGood (cfg : Config AccountId) (l : L) (xs : List (Extrinsic AccountId)) :
    Prop where
  final : ∀ ys, ys <+: xs → ∀ c, 0 < accepted (step cfg) (Spends c) ys (genesis l) →
    (run (step cfg) ys (genesis l)).isActive c = false
  once : ∀ c, accepted (step cfg) (Spends c) xs (genesis l) ≤ 1
  nullifiers : (run (step cfg) xs (genesis l)).spentNullifiers.keys.card =
    accepted (step cfg) IsSpend xs (genesis l)
  nullifierOnce : ∀ n, accepted (step cfg) (Nullifies n) xs (genesis l) ≤ 1

/-- Every accepted call is a turn of the phases. -/
theorem step_turned (x : Extrinsic AccountId) (s s' : State L) (h : step cfg x s = .ok s') :
    Phase.Turned s.phase s'.phase x.2.move.spends x.2.move.opens :=
  (step_moved h).turned

theorem step_marked (x : Extrinsic AccountId) (s s' : State L) (h : step cfg x s = .ok s') :
    Marked s.spentNullifiers s'.spentNullifiers x.2.move.nullifier :=
  (step_moved h).nullifiers

/-- There is one nullifier for every commitment a run has destroyed. -/
theorem card_nullifiers (cfg : Config AccountId) (xs : List (Extrinsic AccountId)) (l : L) :
    (run (step cfg) xs (genesis l)).spentNullifiers.keys.card =
      accepted (step cfg) IsSpend xs (genesis l) := by
  have hmark : ∀ (x : Extrinsic AccountId) (s s' : State L), step cfg x s = .ok s' →
      Marked s.spentNullifiers s'.spentNullifiers x.2.move.nullifier := step_marked
  have hcard := Marked.card_run hmark xs (genesis l)
  simp only [nullifier_isSome] at hcard
  exact hcard.trans (Nat.zero_add _)

/-- **Finality.** Destroyed commitments stay destroyed in exactly the runs that register absent
commitments only. -/
theorem spentForGood_iff :
    SpentForGood cfg l xs ↔ Along (step cfg) RegistersAbsent xs (genesis l) := by
  have hfinal : (∀ ys, ys <+: xs → ∀ c, 0 < accepted (step cfg) (Spends c) ys (genesis l) →
      (run (step cfg) ys (genesis l)).phase c ≠ .active) ↔
        Along (step cfg) RegistersAbsent xs (genesis l) :=
    Phase.final_iff step_turned (phase_genesis l)
  constructor
  · intro h
    refine hfinal.mp fun ys hys c hpos hactive => ?_
    have hinactive := h.final ys hys c hpos
    rw [State.phase_eq_active_iff.mp hactive] at hinactive
    cases hinactive
  · intro h
    refine ⟨fun ys hys c hpos => ?_, ?_, card_nullifiers cfg xs l, ?_⟩
    · have hne := hfinal.mpr h ys hys c hpos
      rwa [Ne, State.phase_eq_active_iff, Bool.not_eq_true] at hne
    · exact Phase.accepted_spends_le_one step_turned (phase_genesis l) h
    · exact Marked.accepted_le_one step_marked xs (genesis l)

/-- A commitment is shielded, unshielded and shielded again: it is active after it was spent. -/
theorem commitment_respent :
    ¬ ∀ xs, SpentForGood shieldedVaults vaultsGenesis.ledger xs := by
  intro h
  have hspent := h
    [(vaultsContext 7, .shieldFunds (10 * CentralBank.unit) (.ofByte 1) none),
      (vaultsContext 7, .unshieldToAccount (.ofByte 11) (.ofByte 1) (10 * CentralBank.unit) 7 none),
      (vaultsContext 7, .shieldFunds (10 * CentralBank.unit) (.ofByte 1) none)]
  exact absurd (hspent.final _ (List.prefix_refl _) (.ofByte 1) (by decide +kernel))
    (by decide +kernel)

end ShieldedVaults
