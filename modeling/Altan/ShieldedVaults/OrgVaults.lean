import Altan.Runtime.Constants
import Altan.ShieldedVaults.Model

/-!
# The vaults of organizations

The balance of a vault is meant to be what has been shielded for the organization less what has
been unshielded from there. The storage does not say which commitment was shielded for whom, and an
exit debits the vault of the organization its caller names, or none: beside a run we keep the
provenance of every commitment, and the two sums the balance is to be compared with. Whether a
transfer passes the provenance of its input on to its output is left open; the results hold either
way.

## Main definitions

* `Provenance`, `provenanceStep`: where commitments and sums come from, kept beside a run
* `VaultsSound`: the vaults are within the total, and say what they are meant to say
* `NamesProvenance`: the move keeps them so

## Main results

* `vaultsSound_move_iff`: one move
* `vaultsSound_iff`: a run
* `vault_drained`: a run that empties the vault of an organization for another's commitment
-/

open Bounded Dispatch TransitionSystem Runtime

namespace ShieldedVaults

/-! ### Shares of an amount -/

/-- The part of an amount that belongs to an organization: all of it, or nothing. -/
def share (orgId : Option ℕ) (amount : ℕ) (id : ℕ) : ℕ := if orgId = some id then amount else 0

variable {orgId orgId' : Option ℕ} {amount id : ℕ} {m : StorageMap ℕ ℕ}

@[simp] theorem share_none : share none amount id = 0 := rfl

@[simp] theorem share_self : share (some id) amount id = amount := if_pos rfl

theorem share_of_ne {id' : ℕ} (h : id ≠ id') : share (some id) amount id' = 0 :=
  if_neg fun he => h (Option.some.inj he)

/-- Every organization has the same share of an amount just when it belongs to the same one. -/
theorem share_eq_iff :
    (∀ id, share orgId amount id = share orgId' amount id) ↔ amount = 0 ∨ orgId = orgId' := by
  constructor
  · intro h
    by_cases hzero : amount = 0
    · exact Or.inl hzero
    refine Or.inr (Option.ext fun id => ?_)
    have hid := h id
    unfold share at hid
    by_cases hl : orgId = some id
    · by_cases hr : orgId' = some id
      · simp [hl, hr]
      · rw [if_pos hl, if_neg hr] at hid
        exact absurd hid hzero
    · by_cases hr : orgId' = some id
      · rw [if_neg hl, if_pos hr] at hid
        exact absurd hid.symm hzero
      · simp [hl, hr]
  · rintro (rfl | rfl) id
    · simp [share]
    · rfl

theorem getD_debitVault : (debitVault orgId amount m).getD id 0 =
    m.getD id 0 - share orgId amount id := by
  cases orgId with
  | none => rfl
  | some id' =>
    by_cases h : id = id'
    · rw [h, share_self]
      exact StorageMap.getD_insert_self
    · rw [share_of_ne (Ne.symm h)]
      exact StorageMap.getD_insert.trans (if_neg h)

/-- What an amount adds to the vaults together: nothing when no organization is named. -/
def named (orgId : Option ℕ) (amount : ℕ) : ℕ := if orgId = none then 0 else amount

@[simp] theorem named_none : named none amount = 0 := rfl

@[simp] theorem named_some : named (some id) amount = amount := if_neg (Option.some_ne_none id)

theorem total_debitVault (h : ∀ id ∈ orgId, amount ≤ m.getD id 0) :
    (debitVault orgId amount m).total + named orgId amount = m.total := by
  cases orgId with
  | none => rfl
  | some id =>
    have hle := h id rfl
    have hinsert := StorageMap.total_insert (b := m) id (m.getD id 0 - amount)
    have htotal := StorageMap.getD_le_total (b := m) id
    rw [named_some]
    change (m.insert id (m.getD id 0 - amount)).total + amount = m.total
    omega

theorem getD_creditVault (h : m.total + named orgId amount ≤ u128Max) :
    (creditVault orgId amount m).getD id 0 = m.getD id 0 + share orgId amount id := by
  have htotal := StorageMap.getD_le_total (b := m) id
  cases orgId with
  | none => rfl
  | some id' =>
    rw [named_some] at h
    by_cases he : id = id'
    · subst he
      rw [share_self]
      exact StorageMap.getD_insert_self.trans (saturatingAdd_of_le (by omega))
    · rw [share_of_ne (Ne.symm he)]
      exact StorageMap.getD_insert.trans (if_neg he)

/-- A credit that is not clipped adds its amount to the vaults together. -/
theorem total_creditVault (h : ∀ id ∈ orgId, m.getD id 0 + amount ≤ u128Max) :
    (creditVault orgId amount m).total = m.total + named orgId amount := by
  cases orgId with
  | none => rfl
  | some id =>
    have hinsert := StorageMap.total_insert (b := m) id
      (saturatingAdd u128Max (m.getD id 0) amount)
    rw [saturatingAdd_of_le (h id rfl)] at hinsert
    rw [named_some]
    change (m.insert id (saturatingAdd u128Max (m.getD id 0) amount)).total = m.total + amount
    rw [saturatingAdd_of_le (h id rfl)]
    omega

/-! ### Provenance -/

/-- The organization each commitment was last shielded for, and for every organization the total
shielded for it and the total unshielded from commitments that were. -/
structure Provenance where
  shieldedFor : Bytes32 → Option ℕ
  entered : ℕ → ℕ
  left : ℕ → ℕ

/-- Before any call. -/
def Provenance.none : Provenance := ⟨fun _ => .none, fun _ => 0, fun _ => 0⟩

/-- What a move adds to the provenance. `inherits` says whether a transfer passes the provenance of
its input on to its output. -/
def Provenance.record (inherits : Bool) (p : Provenance) : Move → Provenance
  | .enter commitment amount orgId =>
    { p with
      shieldedFor := Function.update p.shieldedFor commitment orgId
      entered := fun id => p.entered id + share orgId amount id }
  | .pass _ input output =>
    { p with
      shieldedFor := Function.update p.shieldedFor output
        (if inherits then p.shieldedFor input else .none) }
  | .leave _ commitment amount _ =>
    { p with left := fun id => p.left id + share (p.shieldedFor commitment) amount id }

/-- Vaults `m`, with `n` shielded in all: together they hold no more than is shielded, and every
vault holds what was shielded for its organization less what was unshielded from commitments
shielded for it. -/
structure VaultsSound (m : StorageMap ℕ ℕ) (n : ℕ) (p : Provenance) : Prop where
  within : m.total ≤ n
  balance : ∀ id, m.getD id 0 + p.left id = p.entered id

/-- The move keeps the vaults sound. What is shielded for an organization fits beside all the
vaults; an exit that declares anything names the organization its commitment was shielded for, and
one that names none leaves enough shielded for the vaults. -/
def NamesProvenance (m : StorageMap ℕ ℕ) (n : ℕ) (p : Provenance) : Move → Prop
  | .enter _ amount orgId => m.total + named orgId amount ≤ u128Max
  | .pass .. => True
  | .leave _ commitment amount orgId =>
    (amount = 0 ∨ orgId = p.shieldedFor commitment) ∧ (orgId = none → m.total ≤ n - amount)

section Moves

variable {n : ℕ} {p : Provenance} {inherits : Bool} {commitment nullifier : Bytes32}

theorem vaultsSound_enter_iff (hn : n ≤ u128Max) (h : VaultsSound m n p) :
    VaultsSound (creditVault orgId amount m) (saturatingAdd u128Max n amount)
        (p.record inherits (.enter commitment amount orgId)) ↔
      m.total + named orgId amount ≤ u128Max := by
  have hwithin := h.within
  constructor
  · intro h'
    have hwithin' := h'.within
    cases orgId with
    | none => exact hwithin.trans hn
    | some id =>
      -- the vault has taken in all of the amount, which was not clipped then
      have hbalance := h.balance id
      have hbalance' := h'.balance id
      change (m.insert id (saturatingAdd u128Max (m.getD id 0) amount)).getD id 0 + p.left id =
        p.entered id + share (some id) amount id at hbalance'
      rw [StorageMap.getD_insert_self, share_self] at hbalance'
      have hexact : saturatingAdd u128Max (m.getD id 0) amount = m.getD id 0 + amount := by omega
      rw [total_creditVault fun id' hid => by
        obtain rfl : id = id' := Option.some.inj hid
        exact saturatingAdd_eq_iff.mp hexact] at hwithin'
      exact hwithin'.trans (Nat.min_le_right _ _)
  · intro hroom
    have hle : named orgId amount ≤ amount := by
      cases orgId <;> simp
    have htotal : (creditVault orgId amount m).total = m.total + named orgId amount := by
      refine total_creditVault fun id hid => ?_
      have hvault := StorageMap.getD_le_total (b := m) id
      obtain rfl : orgId = some id := hid
      rw [named_some] at hroom
      omega
    refine ⟨?_, fun id => ?_⟩
    · rw [htotal]
      exact Nat.le_min.mpr ⟨Nat.add_le_add hwithin hle, hroom⟩
    · have hbalance := h.balance id
      change (creditVault orgId amount m).getD id 0 + p.left id =
        p.entered id + share orgId amount id
      rw [getD_creditVault hroom]
      omega

theorem vaultsSound_leave_iff (hvault : ∀ id ∈ orgId, amount ≤ m.getD id 0)
    (h : VaultsSound m n p) :
    VaultsSound (debitVault orgId amount m) (n - amount)
        (p.record inherits (.leave nullifier commitment amount orgId)) ↔
      NamesProvenance m n p (.leave nullifier commitment amount orgId) := by
  have hwithin := h.within
  have htotal := total_debitVault hvault
  -- the vaults fall by the shares of the organization named, which must be the right one
  have hbalance : (∀ id, (debitVault orgId amount m).getD id 0 +
      (p.left id + share (p.shieldedFor commitment) amount id) = p.entered id) ↔
        amount = 0 ∨ orgId = p.shieldedFor commitment := by
    rw [← share_eq_iff]
    refine forall_congr' fun id => ?_
    have hid := h.balance id
    have hle : share orgId amount id ≤ m.getD id 0 := by
      unfold share
      split
      · next he => exact hvault id he
      · exact Nat.zero_le _
    rw [getD_debitVault]
    omega
  have htotal_le : (debitVault orgId amount m).total ≤ n - amount ↔
      (orgId = none → m.total ≤ n - amount) := by
    cases orgId with
    | none => simp [debitVault]
    | some id =>
      rw [named_some] at htotal
      simp only [reduceCtorEq, false_implies, iff_true]
      omega
  constructor
  · intro h'
    exact ⟨hbalance.mp h'.balance, htotal_le.mp h'.within⟩
  · rintro ⟨hnamed, hnone⟩
    exact ⟨htotal_le.mpr hnone, hbalance.mpr hnamed⟩

/-- **One move keeps the vaults sound just when it names the provenance.** -/
theorem vaultsSound_move_iff {move : Move} (hn : n ≤ u128Max) (hwithin : move.WithinVaults m)
    (h : VaultsSound m n p) :
    VaultsSound (move.vaults m) (move.total n) (p.record inherits move) ↔
      NamesProvenance m n p move := by
  cases move with
  | enter commitment amount orgId => exact vaultsSound_enter_iff hn h
  | pass nullifier input output => exact iff_of_true ⟨h.within, h.balance⟩ trivial
  | leave nullifier commitment amount orgId => exact vaultsSound_leave_iff hwithin h

end Moves

/-! ### Runs -/

section Runs

variable {AccountId L : Type} [Currency AccountId L] {cfg : Config AccountId} {inherits : Bool}
  {xs : List (Extrinsic AccountId)} {l : L}

/-- The calls, with the provenance kept beside the storage. -/
def provenanceStep (inherits : Bool) (cfg : Config AccountId) :
    Extrinsic AccountId → State L × Provenance → Result (State L × Provenance) :=
  recording (fun _ x p => p.record inherits x.2.move) (step cfg)

omit [Currency AccountId L] in
theorem Moved.totalShielded_le {s s' : State L} {move : Move} (h : Moved s s' move)
    (hle : s.totalShielded ≤ u128Max) : s'.totalShielded ≤ u128Max := by
  rw [h.total]
  cases move with
  | enter commitment amount orgId => exact Nat.min_le_right _ _
  | pass nullifier input output => exact hle
  | leave nullifier commitment amount orgId => exact (Nat.sub_le _ _).trans hle

/-- **Organization vaults.** From empty storage, and whether or not transfers pass the provenance
on, the vaults stay sound in exactly the runs in which every exit names the organization its
commitment was shielded for, exits that name none leave the vaults covered, and what is shielded
for organizations stays in range. -/
theorem vaultsSound_iff (inherits : Bool) :
    Throughout (provenanceStep inherits cfg)
        (fun t => VaultsSound t.1.orgVaultBalance t.1.totalShielded t.2) xs
        (genesis l, Provenance.none) ↔
      Along (provenanceStep inherits cfg)
        (fun t x => NamesProvenance t.1.orgVaultBalance t.1.totalShielded t.2 x.2.move) xs
        (genesis l, Provenance.none) := by
  refine throughout_iff_along (J := fun t => t.1.totalShielded ≤ u128Max) ?_ ?_ (Nat.zero_le _)
    ⟨Nat.le_refl 0, fun id => rfl⟩
  · intro x t t' hle h
    exact (step_moved (recording_eq_ok.mp h).1).totalShielded_le hle
  · intro x t t' hle hsound h
    obtain ⟨hstep, hrecord⟩ := recording_eq_ok.mp h
    have hmoved := step_moved hstep
    rw [hmoved.vaults, hmoved.total, hrecord]
    exact vaultsSound_move_iff hle hmoved.withinVaults hsound

/-- A hundred units are shielded for organization 1 and as many for none; the second commitment is
unshielded in the name of organization 1, whose vault is empty then. -/
theorem vault_drained :
    ¬ ∃ inherits, ∀ xs, Throughout (provenanceStep inherits shieldedVaults)
      (fun t => VaultsSound t.1.orgVaultBalance t.1.totalShielded t.2) xs
      (vaultsGenesis, Provenance.none) := by
  rintro ⟨inherits, h⟩
  have hsound := (h
    [(vaultsContext 7, .shieldFunds (100 * CentralBank.unit) (.ofByte 1) (some 1)),
      (vaultsContext 8, .shieldFunds (100 * CentralBank.unit) (.ofByte 2) none),
      (vaultsContext 8, .unshieldToAccount (.ofByte 12) (.ofByte 2) (100 * CentralBank.unit) 8
        (some 1))]).last.balance 1
  cases inherits <;> exact absurd hsound (by decide +kernel)

end Runs

end ShieldedVaults
