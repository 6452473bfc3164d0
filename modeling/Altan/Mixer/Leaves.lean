import Altan.Mixer.Model
import Altan.Runtime.Constants

/-!
# The leaves of the mixer

A deposit is accepted under an absent commitment only, and a withdrawal of an active one only, so
a commitment is deposited once and withdrawn at most once. The number of nullifiers is that of the
commitments withdrawn, and the leaf count that of the active ones, in every state that fewer than
`2 ^ 64 - 1` deposits lead to.

## Main definitions

* `Counted`: the counts agree with the commitments
* `SpendOnce`: the life of the commitments over a run

## Main results

* `counted_step`: an accepted call keeps the counts
* `mixer_spendOnce`: every run
-/

open Bounded Dispatch TransitionSystem Runtime

namespace Mixer

variable {AccountId L : Type} [Currency AccountId L] {cfg : Config AccountId}
  {s s' : State AccountId L} {x : Extrinsic AccountId} {xs : List (Extrinsic AccountId)} {l : L}

/-- The call is a deposit. -/
def IsDeposit (x : Extrinsic AccountId) : Prop := x.2.opens.isSome = true

instance : DecidablePred (@IsDeposit AccountId) :=
  fun x => inferInstanceAs (Decidable (x.2.opens.isSome = true))

/-- There is a nullifier for every withdrawn commitment, and the leaves are the active ones. -/
structure Counted (s : State AccountId L) : Prop where
  nullifiers : s.spentNullifiers.keys.card = s.commitments.count (· = .spent)
  leaves : s.poolLeafCount = s.commitments.count (· = .active)

omit [Currency AccountId L] in
theorem counted_genesis (l : L) : Counted (genesis l : State AccountId L) := ⟨rfl, rfl⟩

/-- Only a deposit adds to the leaf count, by one. -/
theorem poolLeafCount_le (x : Extrinsic AccountId) (s s' : State AccountId L)
    (h : step cfg x s = .ok s') :
    s'.poolLeafCount ≤ s.poolLeafCount + if IsDeposit x then 1 else 0 := by
  obtain ⟨ctx, call⟩ := x
  cases call with
  | deposit amount commitment payload =>
    obtain ⟨_, _, _, _, l₁, l₂, l₃, l₄, l', _, rfl⟩ := (deposit_eq_ok payload).mp h
    exact saturatingAdd_le_add
  | withdraw nullifier commitment recipient amount =>
    obtain ⟨_, _, _, _, _, l', _, rfl⟩ := withdraw_eq_ok.mp h
    exact Nat.sub_le _ _
  | revealTransaction targetCommitment warrantId =>
    obtain ⟨_, _, rfl⟩ := revealTransaction_eq_ok.mp h
    exact Nat.le_refl _
  | submitQuarterlyAudit quarterId reportHash =>
    obtain ⟨_, _, rfl⟩ := submitQuarterlyAudit_eq_ok.mp h
    exact Nat.le_refl _

/-- **An accepted call keeps the counts**, a deposit while the leaf count has room. -/
theorem counted_step (x : Extrinsic AccountId) (s s' : State AccountId L) (hc : Counted s)
    (hroom : IsDeposit x → s.poolLeafCount < u64Max) (h : step cfg x s = .ok s') :
    Counted s' := by
  obtain ⟨hnullifiers, hleaves⟩ := hc
  obtain ⟨ctx, call⟩ := x
  cases call with
  | deposit amount commitment payload =>
    obtain ⟨_, _, _, hnew, l₁, l₂, l₃, l₄, l', _, rfl⟩ := (deposit_eq_ok payload).mp h
    constructor
    · rw [StorageMap.count_insert_new hnew]
      exact hnullifiers
    · rw [StorageMap.count_insert_new hnew, ← hleaves]
      exact saturatingAdd_one_of_lt (hroom rfl)
  | withdraw nullifier commitment recipient amount =>
    obtain ⟨_, _, _, hfresh, hactive, l', _, rfl⟩ := withdraw_eq_ok.mp h
    have hspent := StorageMap.count_insert (p := (· = CommitmentState.spent)) hactive .spent
    have hleft := StorageMap.count_insert (p := (· = CommitmentState.active)) hactive .spent
    simp only [reduceCtorEq, if_false, if_true, Nat.add_zero] at hspent hleft
    constructor
    · change (s.spentNullifiers.insert nullifier ctx.blockNumber).keys.card =
        (s.commitments.insert commitment .spent).count (· = .spent)
      rw [StorageMap.card_keys_insert hfresh, hspent, hnullifiers]
    · change s.poolLeafCount - 1 = (s.commitments.insert commitment .spent).count (· = .active)
      omega
  | revealTransaction targetCommitment warrantId =>
    obtain ⟨_, _, rfl⟩ := revealTransaction_eq_ok.mp h
    exact ⟨hnullifiers, hleaves⟩
  | submitQuarterlyAudit quarterId reportHash =>
    obtain ⟨_, _, rfl⟩ := submitQuarterlyAudit_eq_ok.mp h
    exact ⟨hnullifiers, hleaves⟩

omit [Currency AccountId L] in
/-- A commitment that can be withdrawn is among the leaves. -/
theorem Counted.leaves_pos (hc : Counted s) {commitment : Bytes32}
    (h : s.commitments.get commitment = some .active) : 0 < s.poolLeafCount := by
  rw [hc.leaves]
  have hle := StorageMap.le_sum_of_get
    (h := fun _ v => if v = CommitmentState.active then 1 else 0) h
  rw [if_pos rfl] at hle
  exact hle

theorem counted_run (h : accepted (step cfg) IsDeposit xs (genesis l) < u64Max) :
    Counted (run (step cfg) xs (genesis l)) := by
  have hroom : Along (step cfg) (fun s x => IsDeposit x → s.poolLeafCount < u64Max) xs
      (genesis l) := by
    refine along_of_accepted_le poolLeafCount_le ?_
    rw [show (genesis l : State AccountId L).poolLeafCount = 0 from rfl, Nat.zero_add]
    exact h.le
  exact run_of_along (fun x s s' hc hroom hs => counted_step x s s' hc hroom hs)
    (counted_genesis l) hroom

/-- The life of commitments, nullifiers and leaves over a run from empty storage. -/
structure SpendOnce (cfg : Config AccountId) (l : L) (xs : List (Extrinsic AccountId)) :
    Prop where
  forward : ∀ ys, ys <+: xs → ∀ c, ((run (step cfg) ys (genesis l)).phase c).rank ≤
    ((run (step cfg) xs (genesis l)).phase c).rank
  gradual : ∀ x s', step cfg x (run (step cfg) xs (genesis l)) = .ok s' →
    ∀ c, (s'.phase c).rank ≤ ((run (step cfg) xs (genesis l)).phase c).rank + 1
  spentForever : ∀ c, (run (step cfg) xs (genesis l)).phase c = .spent →
    ∀ ctx amount payload, ∃ e,
      step cfg (ctx, .deposit amount c payload) (run (step cfg) xs (genesis l)) = .error e
  withdrawn : ∀ ctx nullifier c recipient amount s',
    step cfg (ctx, .withdraw nullifier c recipient amount) (run (step cfg) xs (genesis l)) =
      .ok s' →
    (run (step cfg) xs (genesis l)).commitments.get c = some .active ∧
      s'.commitments = (run (step cfg) xs (genesis l)).commitments.insert c .spent ∧
      (run (step cfg) xs (genesis l)).spentNullifiers.get nullifier = none ∧
      s'.spentNullifiers =
        (run (step cfg) xs (genesis l)).spentNullifiers.insert nullifier ctx.blockNumber ∧
      s'.poolLeafCount + 1 = (run (step cfg) xs (genesis l)).poolLeafCount
  counted : Counted (run (step cfg) xs (genesis l))
  unchanged : ∀ x e, step cfg x (run (step cfg) xs (genesis l)) = .error e →
    run (step cfg) (xs ++ [x]) (genesis l) = run (step cfg) xs (genesis l)

/-- **Spend once.** From empty storage, as long as fewer than `2 ^ 64 - 1` deposits are accepted, a
commitment passes from absent to active to spent and never back, a withdrawal spends one active
commitment and one fresh nullifier, and the counts are exact. -/
theorem mixer_spendOnce (h : accepted (step cfg) IsDeposit xs (genesis l) < u64Max) :
    SpendOnce cfg l xs := by
  have hcounted := counted_run h
  constructor
  · rintro ys ⟨zs, rfl⟩ c
    rw [run_append]
    refine Phase.rank_le_run step_turned ?_ c
    exact along_of_step (fun x s s' hs => step_opens_absent hs) zs _
  · intro x s' hs c
    exact (step_turned x _ s' hs).rank_le_succ (step_opens_absent hs) c
  · intro c hspent ctx amount payload
    cases hs : step cfg (ctx, .deposit amount c payload) (run (step cfg) xs (genesis l)) with
    | error e => exact ⟨e, rfl⟩
    | ok s' =>
      have habsent := step_opens_absent hs c rfl
      rw [hspent] at habsent
      cases habsent
  · intro ctx nullifier c recipient amount s' hs
    obtain ⟨_, _, _, hfresh, hactive, l', _, rfl⟩ := withdraw_eq_ok.mp hs
    exact ⟨hactive, rfl, hfresh, rfl, Nat.sub_add_cancel (hcounted.leaves_pos hactive)⟩
  · exact hcounted
  · intro x e he
    rw [run_append, run_cons, exec_error he, run_nil]

/-- A commitment is deposited and withdrawn, and its second deposit refused. -/
theorem mixer_spendOnce_recharge :
    SpendOnce mixer (mixerGenesis existentialDeposit).ledger
      [(mixerContext (.signed 7), .deposit (10 * CentralBank.unit) (.ofByte 1) []),
        (mixerContext .root, .withdraw (.ofByte 11) (.ofByte 1) 8 (10 * CentralBank.unit)),
        (mixerContext (.signed 7), .deposit (10 * CentralBank.unit) (.ofByte 1) [])] :=
  mixer_spendOnce (by decide +kernel)

end Mixer
