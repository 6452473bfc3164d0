import Mathlib.SetTheory.Cardinal.Finite
import Altan.ShieldedVaults.Finality

/-!
# Whose commitments may be destroyed

A commitment and the nullifier that destroys it are opaque bytes. The nullifier is meant to be the
hash of the commitment with a secret of its owner; but nothing is recomputed from the two, and of
the signer nothing is asked but a signature. So whoever has read a commitment in the registry
destroys it, through any of the four entry points, under any bytes that are not recorded yet. Only
when all nullifiers are used up is a commitment safe from strangers, and from its owner.

## Main definitions

* `EntryPoint`: the four ways to destroy a commitment
* `Refuses`: a stranger cannot destroy a commitment under a nullifier
* `Shut`: a stranger cannot destroy a commitment

## Main results

* `refuses_iff`: a stranger is refused the nullifiers that are spent, and no others
* `shut_iff`: the runs after which a stranger cannot destroy a commitment
* `commitment_stolen`: a stranger takes out what somebody else has shielded
-/

open Bounded Dispatch TransitionSystem Runtime

namespace ShieldedVaults

/-- The ways to destroy a commitment: the dispatchables but the one that shields, and the call that
serves another module. -/
inductive EntryPoint
  | shieldedTransfer
  | unshieldToAccount
  | orgUnshieldTaxPayment
  | unshieldForTax
  deriving DecidableEq, Repr

/-- The way a call destroys its commitment, unless it shields. -/
def Call.entryPoint {AccountId : Type} : Call AccountId → Option EntryPoint
  | .shieldFunds .. => none
  | .shieldedTransfer .. => some .shieldedTransfer
  | .unshieldToAccount .. => some .unshieldToAccount
  | .orgUnshieldTaxPayment .. => some .orgUnshieldTaxPayment
  | .unshieldForTax .. => some .unshieldForTax

variable {AccountId L : Type} [Currency AccountId L] {cfg : Config AccountId} {s : State L}
  {stranger : AccountId} {e : EntryPoint} {c n : Bytes32} {xs : List (Extrinsic AccountId)} {l : L}

/-- No call of the stranger through the entry point destroys the commitment under the nullifier. -/
def Refuses (cfg : Config AccountId) (s : State L) (e : EntryPoint) (stranger : AccountId)
    (c n : Bytes32) : Prop :=
  ∀ x : Extrinsic AccountId, x.1.origin = .signed stranger → x.2.entryPoint = some e →
    Spends c x → Nullifies n x → ∀ s', step cfg x s ≠ .ok s'

/-- No call of the stranger through the entry point destroys the commitment. -/
def Shut (cfg : Config AccountId) (s : State L) (e : EntryPoint) (stranger : AccountId)
    (c : Bytes32) : Prop :=
  ∀ x : Extrinsic AccountId, x.1.origin = .signed stranger → x.2.entryPoint = some e →
    Spends c x → ∀ s', step cfg x s ≠ .ok s'

variable (cfg) in
/-- **A stranger may destroy any active commitment under any fresh nullifier**, through any entry
point: knowing the two is enough to write the call. -/
theorem accepts_stranger (e : EntryPoint) (stranger : AccountId)
    (hactive : s.isActive c = true) (hfresh : s.spentNullifiers.get n = none) :
    ∃ x : Extrinsic AccountId, x.1.origin = .signed stranger ∧ x.2.entryPoint = some e ∧
      Spends c x ∧ Nullifies n x ∧ ∃ s', step cfg x s = .ok s' := by
  let ctx : Context AccountId := ⟨.signed stranger, 0, fun _ => none⟩
  have hsigned : ∃ who, ctx.origin = .signed who := ⟨stranger, rfl⟩
  have hzero : ∀ v : ℕ, 0 ≤ v := Nat.zero_le
  cases e with
  | shieldedTransfer =>
    -- the commitment itself is free again once it has been destroyed
    refine ⟨(ctx, .shieldedTransfer n c c none), rfl, rfl, rfl, rfl, _,
      (shieldedTransfer_eq_ok none).mpr ⟨hsigned, hfresh, hactive, ?_, rfl⟩⟩
    exact StorageMap.getD_insert_self
  | unshieldToAccount =>
    exact ⟨(ctx, .unshieldToAccount n c 0 stranger none), rfl, rfl, rfl, rfl, _,
      unshieldToAccount_eq_ok.mpr ⟨hsigned, hfresh, hactive, nofun, hzero _, rfl⟩⟩
  | orgUnshieldTaxPayment =>
    exact ⟨(ctx, .orgUnshieldTaxPayment 0 n c 0), rfl, rfl, rfl, rfl, _,
      orgUnshieldTaxPayment_eq_ok.mpr ⟨hsigned, hfresh, hactive, hzero _, hzero _, hzero _, rfl⟩⟩
  | unshieldForTax =>
    exact ⟨(ctx, .unshieldForTax n c 0 stranger), rfl, rfl, rfl, rfl, _,
      unshieldForTax_eq_ok.mpr ⟨hfresh, hactive, hzero _, rfl⟩⟩

/-- A stranger is refused a commitment that is not active, and the nullifiers that are spent. -/
theorem refuses_iff : Refuses cfg s e stranger c n ↔
    s.isActive c = false ∨ s.spentNullifiers.get n ≠ none := by
  constructor
  · intro h
    by_contra hn
    obtain ⟨hactive, hfresh⟩ := not_or.mp hn
    obtain ⟨x, horigin, hentry, hspends, hnullifies, s', hs'⟩ :=
      accepts_stranger cfg e stranger (Bool.eq_true_of_not_eq_false hactive)
        (not_not.mp hfresh)
    exact h x horigin hentry hspends hnullifies s' hs'
  · intro h x _ _ hspends hnullifies s' hs'
    have hmoved := step_moved hs'
    rcases h with hinactive | hspent
    · rw [hmoved.spendable c hspends] at hinactive
      cases hinactive
    · have hmarked := hmoved.nullifiers
      rw [show x.2.move.nullifier = some n from hnullifies] at hmarked
      exact hspent hmarked.1

/-- A commitment is shut to a stranger when it is under every nullifier. -/
theorem shut_iff_refuses : Shut cfg s e stranger c ↔ ∀ n, Refuses cfg s e stranger c n := by
  constructor
  · intro h n x horigin hentry hspends _
    exact h x horigin hentry hspends
  · intro h x horigin hentry hspends
    -- what destroys a commitment records a nullifier
    have hsome : x.2.move.nullifier.isSome = true := by
      rw [nullifier_isSome, show x.2.move.spends = some c from hspends]
      rfl
    obtain ⟨n, hn⟩ := Option.isSome_iff_exists.mp hsome
    exact h n x horigin hentry hspends hn

/-- There are 2²⁵⁶ arrays of 32 bytes. -/
theorem card_bytes32 : Nat.card Bytes32 = 256 ^ 32 := by
  let arrays : Bytes32 ≃ (Fin 32 → UInt8) :=
    { toFun := fun b i => b[i]
      invFun := Vector.ofFn
      left_inv := fun b => Vector.ext fun i hi => by simp
      right_inv := fun f => funext fun i => by simp }
  let bytes : UInt8 ≃ Fin 256 := ⟨UInt8.toFin, UInt8.ofFin, fun _ => rfl, fun _ => rfl⟩
  rw [Nat.card_congr arrays, Nat.card_fun, Nat.card_congr bytes, Nat.card_fin, Nat.card_fin]

/-- Every array is a key when there are as many keys as arrays. -/
theorem keys_eq_all_iff {m : StorageMap Bytes32 ℕ} :
    (∀ n, m.get n ≠ none) ↔ m.keys.card = 256 ^ 32 := by
  have hfinite : Finite Bytes32 := Nat.finite_of_card_ne_zero (by rw [card_bytes32]; decide)
  have := Fintype.ofFinite Bytes32
  rw [← card_bytes32, Nat.card_eq_fintype_card, Finset.card_eq_iff_eq_univ,
    Finset.eq_univ_iff_forall]
  refine forall_congr' fun n => ?_
  rw [Ne, ← StorageMap.notMem_keys, not_not]

/-- **When a commitment is safe from a stranger.** After a run from empty storage no call of a
stranger destroys a commitment just when it is not active, or the run has destroyed 2²⁵⁶ others. -/
theorem shut_iff : Shut cfg (run (step cfg) xs (genesis l)) e stranger c ↔
    (run (step cfg) xs (genesis l)).isActive c = false ∨
      accepted (step cfg) IsSpend xs (genesis l) = 256 ^ 32 := by
  rw [shut_iff_refuses, ← card_nullifiers, ← keys_eq_all_iff, ← forall_or_left]
  exact forall_congr' fun n => refuses_iff

/-- The account 8 takes out what the account 7 has shielded. -/
theorem commitment_stolen : ¬ ∀ xs ctx amount c orgId e stranger, ctx.origin ≠ .signed stranger →
    Shut shieldedVaults (run (step shieldedVaults) (xs ++ [(ctx, .shieldFunds amount c orgId)])
      vaultsGenesis) e stranger c := by
  intro h
  have hshut := h [] (vaultsContext 7) (10 * CentralBank.unit) (.ofByte 1) none
    .unshieldToAccount 8 (by decide)
    (vaultsContext 8, .unshieldToAccount (.ofByte 200) (.ofByte 1) (10 * CentralBank.unit) 8 none)
    rfl rfl rfl
  obtain ⟨s', hs'⟩ := exists_ok (by decide +kernel : Except.isOk (step shieldedVaults
    (vaultsContext 8, .unshieldToAccount (.ofByte 200) (.ofByte 1) (10 * CentralBank.unit) 8 none)
    (run (step shieldedVaults)
      [(vaultsContext 7, .shieldFunds (10 * CentralBank.unit) (.ofByte 1) none)]
      vaultsGenesis)) = true)
  exact hshut s' hs'

end ShieldedVaults
