import Altan.CentralBank.RoundTrip
import Altan.Foundation.Accounting

/-!
# The migration of the credit pool

A migration sets up what is available and what is outstanding from the records of the epochs, if
nothing is available. That is also so when the pool is used up. The migration then computes what is
outstanding anew, from sums that are clipped: it is the difference of what was ever lent and what
was ever paid back as long as the former is in range, and too little from then on.

## Main definitions

* `initCreditPool`: the migration
* `State.recordedIssued`, `State.recordedRepaid`: the totals over the records, not clipped
* `lentBy`, `takenBackBy`: what an input adds to them

## Main results

* `initCreditPool_outstanding_iff`: what the migration makes of any records
* `recorded_run`: the totals after a run
* `initCreditPool_unchanged_iff`: the runs after which the migration changes nothing
* `exhausted_pool_reopened`: a run after which it reopens a pool that is used up
-/

open Bounded Dispatch TransitionSystem Runtime

namespace CentralBank

variable {AccountId L : Type} {cfg : Config AccountId} {s s' : State AccountId L}

/-- What all epochs up to the current one have issued and repaid, as the migration sums it up. -/
def initCreditPoolTotals (s : State AccountId L) : ℕ × ℕ :=
  (List.range' 1 s.currentEpochId).foldl
    (fun totals i =>
      match s.epochs.get i with
      | some epoch =>
        (saturatingAdd u128Max totals.1 epoch.totalIssued,
          saturatingAdd u128Max totals.2 epoch.totalRepaid)
      | none => totals)
    (0, 0)

/-- The migration `InitCreditPool`. -/
def initCreditPool (cfg : Config AccountId) (s : State AccountId L) : State AccountId L :=
  -- nothing being available is taken for not being initialized
  if s.genesisCreditAvailable = 0 then
    let totals := initCreditPoolTotals s
    let outstanding := totals.1 - totals.2
    { s with
      genesisCreditAvailable := cfg.creditEpochLimit - outstanding
      totalOutstanding := outstanding }
  else s

/-! ### The totals -/

/-- What is recorded as issued in all epochs up to the current one. -/
def State.recordedIssued (s : State AccountId L) : ℕ :=
  ∑ i ∈ Finset.range s.currentEpochId, s.issuedIn (i + 1)

/-- What is recorded as repaid in all epochs up to the current one. -/
def State.recordedRepaid (s : State AccountId L) : ℕ :=
  ∑ i ∈ Finset.range s.currentEpochId, s.repaidIn (i + 1)

/-- Clipping the terms of a sum does not show when the sum is clipped. -/
theorem min_sum_min {S : Finset ℕ} {f : ℕ → ℕ} {max : ℕ} :
    min (∑ i ∈ S, min (f i) max) max = min (∑ i ∈ S, f i) max := by
  induction S using Finset.induction_on with
  | empty => rfl
  | insert i S hi ih =>
    rw [Finset.sum_insert hi, Finset.sum_insert hi]
    omega

/-- The migration clips the two totals. -/
theorem initCreditPoolTotals_eq (s : State AccountId L) :
    initCreditPoolTotals s = (min s.recordedIssued u128Max, min s.recordedRepaid u128Max) := by
  unfold initCreditPoolTotals State.recordedIssued State.recordedRepaid
  -- the induction is on the number of epochs the loop has gone through
  induction s.currentEpochId with
  | zero => rfl
  | succ n ih =>
    rw [List.range'_1_concat, List.foldl_append, ih, Finset.sum_range_succ, Finset.sum_range_succ,
      Nat.add_comm 1 n, List.foldl_cons, List.foldl_nil]
    cases hget : s.epochs.get (n + 1) with
    | none => simp only [State.issuedIn, State.repaidIn, hget, Option.elim_none, Nat.add_zero]
    | some epoch =>
      simp only [State.issuedIn_of_get hget, State.repaidIn_of_get hget, saturatingAdd_min]

/-- What the migration leaves of a state in which something is available. -/
theorem initCreditPool_of_available (h : 0 < s.genesisCreditAvailable) :
    initCreditPool cfg s = s := if_neg (Nat.ne_of_gt h)

theorem initCreditPool_of_exhausted (h : s.genesisCreditAvailable = 0) :
    initCreditPool cfg s =
      let outstanding := min s.recordedIssued u128Max - min s.recordedRepaid u128Max
      { s with
        genesisCreditAvailable := cfg.creditEpochLimit - outstanding
        totalOutstanding := outstanding } := by
  rw [initCreditPool, if_pos h, initCreditPoolTotals_eq]

/-- A migration that computes what is outstanding changes nothing, when what is available and what
is outstanding make up the limit. -/
theorem initCreditPool_eq_self_iff (h : s.genesisCreditAvailable = 0)
    (hsum : s.genesisCreditAvailable + s.totalOutstanding = cfg.creditEpochLimit) :
    initCreditPool cfg s = s ↔
      min s.recordedIssued u128Max - min s.recordedRepaid u128Max = s.totalOutstanding := by
  rw [initCreditPool_of_exhausted h]
  constructor
  · intro hsame
    exact congrArg State.totalOutstanding hsame
  · intro hout
    have havailable : cfg.creditEpochLimit - s.totalOutstanding = s.genesisCreditAvailable := by
      omega
    rw [hout]
    dsimp only
    rw [havailable]

/-- **Any records.** When nothing is available and the net of the records fits into the limit, the
migration makes what is available and outstanding add up to the limit. What is outstanding is the
net of the records exactly when what was issued is in range, or all of it is repaid. -/
theorem initCreditPool_outstanding_iff (h : s.genesisCreditAvailable = 0)
    (hnet : s.recordedRepaid ≤ s.recordedIssued)
    (hfits : s.recordedIssued - s.recordedRepaid ≤ cfg.creditEpochLimit) :
    let s' := initCreditPool cfg s
    s'.genesisCreditAvailable + s'.totalOutstanding = cfg.creditEpochLimit ∧
      (s'.totalOutstanding = s.recordedIssued - s.recordedRepaid ↔
        s.recordedIssued ≤ u128Max ∨ s.recordedIssued = s.recordedRepaid) := by
  intro s'
  have hs' : s' = _ := initCreditPool_of_exhausted h
  have hout : s'.totalOutstanding = min s.recordedIssued u128Max - min s.recordedRepaid u128Max :=
    congrArg State.totalOutstanding hs'
  have havailable : s'.genesisCreditAvailable =
      cfg.creditEpochLimit - (min s.recordedIssued u128Max - min s.recordedRepaid u128Max) :=
    congrArg State.genesisCreditAvailable hs'
  rw [hout, havailable]
  constructor
  · omega
  · omega

/-! ### One input -/

/-- What an entry lends. -/
def Entry.lent : Entry AccountId → ℕ
  | .loan _ amount => amount
  | _ => 0

/-- What an entry takes back. -/
def Entry.takenBack : Entry AccountId → ℕ
  | .repayment _ _ amount => amount
  | _ => 0

/-- What an input posts to the records. -/
def chainEntry : ChainInput AccountId L → Entry AccountId
  | .extrinsic x => entry x
  | .elsewhere _ => .nothing

/-- The input opens an epoch. -/
def OpensEpoch (i : ChainInput AccountId L) : Prop :=
  match i with
  | .extrinsic x => x.2 = .transitionEpoch
  | .elsewhere _ => False

instance [DecidableEq AccountId] :
    DecidablePred (OpensEpoch : ChainInput AccountId L → Prop)
  | .extrinsic x => inferInstanceAs (Decidable (x.2 = .transitionEpoch))
  | .elsewhere _ => inferInstanceAs (Decidable False)

/-- What an input lends, if it is accepted. -/
def lentBy (_ : State AccountId L) (i : ChainInput AccountId L) : ℕ := (chainEntry i).lent

/-- What an input takes back, if it is accepted. -/
def takenBackBy (_ : State AccountId L) (i : ChainInput AccountId L) : ℕ :=
  (chainEntry i).takenBack

/-- The pool is represented, the records are numbered, and their totals are in range. -/
structure RecordInvariant [DecidableEq AccountId] (cfg : Config AccountId)
    (s : State AccountId L) : Prop where
  represented : ∃ b, Represents cfg s b
  numbered : Numbered s
  issued_le : ∀ e, s.issuedIn e ≤ u128Max
  repaid_le : ∀ e, s.repaidIn e ≤ u128Max

theorem opensEpoch_iff {i : ChainInput AccountId L} : OpensEpoch i ↔ chainEntry i = .opening := by
  cases i with
  | elsewhere ledger => exact iff_of_false id (by rintro ⟨⟩)
  | extrinsic x =>
    obtain ⟨⟨origin, _, _, _⟩, call⟩ := x
    cases call with
    | transitionEpoch => exact iff_of_true rfl rfl
    | requestCredit amount => cases origin <;> exact iff_of_false (by rintro ⟨⟩) (by rintro ⟨⟩)
    | repayCredit epochId amount =>
      cases origin <;> exact iff_of_false (by rintro ⟨⟩) (by rintro ⟨⟩)
    | _ => exact iff_of_false (by rintro ⟨⟩) (by rintro ⟨⟩)

section Steps

variable [DecidableEq AccountId] [Currency AccountId L] {entry : Entry AccountId}

namespace Posted

/-- The sum over the epochs of what an entry lends in each is what it lends. -/
theorem sum_issuedIn (h : Posted cfg s s' entry) (hn : Numbered s) :
    ∑ i ∈ Finset.range s'.currentEpochId, entry.issuedIn s.currentEpochId (i + 1) = entry.lent := by
  cases entry with
  | loan operator amount =>
    obtain ⟨-, -, -, hframe⟩ := doRequestCredit_frame h
    have hcurrent : s'.currentEpochId = s.currentEpochId := by rw [hframe]
    have hopen : s.epochs.containsKey s.currentEpochId = true := by
      simp only [Posted, doRequestCredit, ensure_bind_eq_ok] at h
      exact h.2.2.2.1
    obtain ⟨hlow, -⟩ := (hn _).mp hopen
    -- it is lent in the current epoch, which is one of them
    rw [hcurrent, Finset.sum_eq_single_of_mem (s.currentEpochId - 1)
      (Finset.mem_range.mpr (by omega))]
    · exact if_pos (by omega)
    · intro i _ hi
      exact if_neg (by omega)
  | _ => exact Finset.sum_const_zero

theorem sum_repaidIn (h : Posted cfg s s' entry) (hn : Numbered s) :
    ∑ i ∈ Finset.range s'.currentEpochId, entry.repaidIn (i + 1) = entry.takenBack := by
  cases entry with
  | repayment operator epochId amount =>
    obtain ⟨-, -, l, -, hframe⟩ := doRepayCredit_frame h
    have hcurrent : s'.currentEpochId = s.currentEpochId := by rw [hframe]
    have hopen : s.epochs.containsKey epochId = true := by
      simp only [Posted, doRepayCredit, ensure_bind_eq_ok] at h
      exact h.2.1
    obtain ⟨hlow, hhigh⟩ := (hn _).mp hopen
    -- it is repaid in the epoch of the debt, which is one of them
    rw [hcurrent, Finset.sum_eq_single_of_mem (epochId - 1) (Finset.mem_range.mpr (by omega))]
    · exact if_pos (by omega)
    · intro i _ hi
      exact if_neg (by omega)
  | _ => exact Finset.sum_const_zero

omit [DecidableEq AccountId] [Currency AccountId L] in
/-- In numbered records there is nothing in the epochs past the current one. -/
theorem sum_of_later {f : EpochInfo → ℕ} (hn : Numbered s) {n : ℕ} (h : s.currentEpochId ≤ n) :
    ∑ i ∈ Finset.range n, (s.epochs.get (i + 1)).elim 0 f =
      ∑ i ∈ Finset.range s.currentEpochId, (s.epochs.get (i + 1)).elim 0 f := by
  symm
  apply Finset.sum_subset (Finset.range_subset_range.mpr h)
  intro i _ hi
  have hnone : s.epochs.get (i + 1) = none := by
    rw [← StorageMap.not_containsKey, ← Bool.not_eq_true, hn]
    rw [Finset.mem_range] at hi
    omega
  rw [hnone]
  rfl

theorem le_currentEpochId (h : Posted cfg s s' entry) (hroom : entry.HasRoom s) :
    s.currentEpochId ≤ s'.currentEpochId := by
  cases entry with
  | nothing => exact (congrArg Records.currentEpochId h).ge
  | opening =>
    obtain ⟨_, -, -, -, hcurrent, -⟩ := opened h (hroom rfl)
    omega
  | loan operator amount =>
    obtain ⟨-, -, -, hframe⟩ := doRequestCredit_frame h
    rw [hframe]
  | repayment operator epochId amount =>
    obtain ⟨-, -, l, -, hframe⟩ := doRepayCredit_frame h
    rw [hframe]

/-- **Issued in all.** An entry adds what it lends to what the migration sums up as issued. -/
theorem recordedIssued (h : Posted cfg s s' entry) (hroom : entry.HasRoom s) (hn : Numbered s)
    (hr : ∀ e, s.issuedIn e ≤ u128Max) :
    min s'.recordedIssued u128Max = min (min s.recordedIssued u128Max + entry.lent) u128Max := by
  have hterms : s'.recordedIssued = ∑ i ∈ Finset.range s'.currentEpochId,
      min (s.issuedIn (i + 1) + entry.issuedIn s.currentEpochId (i + 1)) u128Max :=
    Finset.sum_congr rfl fun i _ => h.issuedIn hroom hn (hr (i + 1))
  have hlater : ∑ i ∈ Finset.range s'.currentEpochId, s.issuedIn (i + 1) = s.recordedIssued :=
    sum_of_later hn (h.le_currentEpochId hroom)
  rw [hterms, min_sum_min, Finset.sum_add_distrib, h.sum_issuedIn hn, hlater]
  omega

/-- **Repaid in all.** An entry adds what it takes back to what the migration sums up as repaid. -/
theorem recordedRepaid (h : Posted cfg s s' entry) (hroom : entry.HasRoom s) (hn : Numbered s)
    (hr : ∀ e, s.repaidIn e ≤ u128Max) :
    min s'.recordedRepaid u128Max =
      min (min s.recordedRepaid u128Max + entry.takenBack) u128Max := by
  have hterms : s'.recordedRepaid = ∑ i ∈ Finset.range s'.currentEpochId,
      min (s.repaidIn (i + 1) + entry.repaidIn (i + 1)) u128Max :=
    Finset.sum_congr rfl fun i _ => h.repaidIn hroom hn (hr (i + 1))
  have hlater : ∑ i ∈ Finset.range s'.currentEpochId, s.repaidIn (i + 1) = s.recordedRepaid :=
    sum_of_later hn (h.le_currentEpochId hroom)
  rw [hterms, min_sum_min, Finset.sum_add_distrib, h.sum_repaidIn hn, hlater]
  omega

end Posted

variable [ProxyModule AccountId L]

/-- **An accepted input posts its entry.** -/
theorem chainStep_posted {i : ChainInput AccountId L} (h : chainStep cfg i s = .ok s') :
    Posted cfg s s' (chainEntry i) := by
  cases i with
  | extrinsic x => exact step_posted h
  | elsewhere ledger =>
    obtain rfl := Except.ok.inj h
    rfl

/-- What an accepted input adds to what is outstanding. -/
theorem chainStep_outstanding {i : ChainInput AccountId L} {b : Book cfg}
    (hb : Represents cfg s b) (h : chainStep cfg i s = .ok s') :
    s'.totalOutstanding + takenBackBy s i = s.totalOutstanding + lentBy s i := by
  have hposted := chainStep_posted h
  cases i with
  | elsewhere ledger =>
    obtain rfl := Except.ok.inj h
    rfl
  | extrinsic x =>
    have heffect := step_effect h
    obtain ⟨ctx, call⟩ := x
    cases call with
    | requestCredit amount =>
      obtain ⟨who, horigin, -⟩ := requestCredit_eq_ok.mp h
      have hout := step_outstanding hb h
      simp only [takenBackBy, lentBy, chainEntry, entry_requestCredit horigin]
      exact hout
    | repayCredit epochId amount =>
      obtain ⟨who, horigin, hrep⟩ := repayCredit_eq_ok.mp h
      have hout := step_outstanding hb h
      obtain ⟨-, howed, -⟩ := doRepayCredit_frame hrep
      have hexact : RepayExact cfg s who epochId amount := hb.repayExact howed
      have hle := hexact.outstanding
      simp only [takenBackBy, lentBy, chainEntry, entry_repayCredit horigin]
      simp only at hout
      show s'.totalOutstanding + amount = s.totalOutstanding + 0
      omega
    | transitionEpoch => exact step_outstanding hb h
    | _ => exact congrArg CreditPool.outstanding heffect.creditPool

/-- **What every accepted input keeps**, as long as there are identifiers for new epochs. -/
theorem recordInvariant_step {i : ChainInput AccountId L} (hi : RecordInvariant cfg s)
    (hroom : (chainEntry i).HasRoom s) (h : chainStep cfg i s = .ok s') :
    RecordInvariant cfg s' := by
  have hposted := chainStep_posted h
  obtain ⟨b, hb⟩ := hi.represented
  refine ⟨?_, hposted.numbered hroom hi.numbered, ?_, ?_⟩
  · cases i with
    | extrinsic x => exact hb.step h
    | elsewhere ledger =>
      obtain rfl := Except.ok.inj h
      exact ⟨b, hb.of_creditPool_eq rfl⟩
  · intro e
    rw [hposted.issuedIn hroom hi.numbered (hi.issued_le e)]
    exact Nat.min_le_right _ _
  · intro e
    rw [hposted.repaidIn hroom hi.numbered (hi.repaid_le e)]
    exact Nat.min_le_right _ _

end Steps

section Runs

variable [DecidableEq AccountId]

theorem genesis_recordInvariant (cfg : Config AccountId)
    (licensedOperators : List (AccountId × Bool)) (l : L) :
    RecordInvariant cfg (genesis cfg licensedOperators l) where
  represented := ⟨_, genesis_represents licensedOperators l⟩
  numbered := (genesis_epochs cfg licensedOperators l 0).1
  issued_le e := (genesis_epochs cfg licensedOperators l e).2.1.trans_le (Nat.zero_le _)
  repaid_le e := (genesis_epochs cfg licensedOperators l e).2.2.1.trans_le (Nat.zero_le _)

variable [Currency AccountId L] [ProxyModule AccountId L]

/-- A run with few enough transitions finds identifiers for all of them. -/
theorem along_chainHasRoom {is : List (ChainInput AccountId L)}
    (h : s.currentEpochId + accepted (chainStep cfg) OpensEpoch is s ≤ u32Max) :
    Along (chainStep cfg) (fun s i => (chainEntry i).HasRoom s) is s := by
  have hroom :
      Along (chainStep cfg) (fun s i => OpensEpoch i → s.currentEpochId < u32Max) is s := by
    refine along_of_accepted_le (c := State.currentEpochId) ?_ h
    intro i s s' hs
    have hle := (chainStep_posted hs).currentEpochId_le
    rwa [if_congr opensEpoch_iff rfl rfl]
  exact hroom.imp fun s i hi ho => hi (opensEpoch_iff.mpr ho)

/-- **The totals of a run.** What the migration sums up is what the run lends and takes back,
clipped; what is outstanding is the difference, not clipped. -/
theorem recorded_run {is : List (ChainInput AccountId L)} (hi : RecordInvariant cfg s)
    (hroom : Along (chainStep cfg) (fun s i => (chainEntry i).HasRoom s) is s) :
    let s' := run (chainStep cfg) is s
    min s'.recordedIssued u128Max =
        min (min s.recordedIssued u128Max + tally (chainStep cfg) lentBy is s) u128Max ∧
      min s'.recordedRepaid u128Max =
          min (min s.recordedRepaid u128Max + tally (chainStep cfg) takenBackBy is s) u128Max ∧
        s'.totalOutstanding + tally (chainStep cfg) takenBackBy is s =
          s.totalOutstanding + tally (chainStep cfg) lentBy is s := by
  refine ⟨?_, ?_, ?_⟩
  · refine tally_clip (fun s => min s.recordedIssued u128Max) lentBy
      (fun _ _ _ => recordInvariant_step) ?_ hi (Nat.min_le_right _ _) hroom
    intro i s s' hi hq h
    exact (chainStep_posted h).recordedIssued hq hi.numbered hi.issued_le
  · refine tally_clip (fun s => min s.recordedRepaid u128Max) takenBackBy
      (fun _ _ _ => recordInvariant_step) ?_ hi (Nat.min_le_right _ _) hroom
    intro i s s' hi hq h
    exact (chainStep_posted h).recordedRepaid hq hi.numbered hi.repaid_le
  · refine tally_balance State.totalOutstanding lentBy takenBackBy
      (fun _ _ _ => recordInvariant_step) ?_ hi hroom
    intro i s s' hi _ h
    obtain ⟨b, hb⟩ := hi.represented
    exact chainStep_outstanding hb h

/-- **The migration of a live pool.** After a run with fewer transitions than identifiers the
migration changes nothing exactly when something is available, or there is no pool, or all that was
ever lent is in range. Applied to any records, with nothing available and a net that fits into the
limit, it makes what is available and outstanding add up to the limit, and what is outstanding is
the net exactly when what was issued is in range or all of it is repaid. -/
theorem initCreditPool_unchanged_iff (cfg : Config AccountId)
    (licensedOperators : List (AccountId × Bool)) (l : L) (is : List (ChainInput AccountId L))
    (hroom : accepted (chainStep cfg) OpensEpoch is (genesis cfg licensedOperators l) < u32Max) :
    let start := genesis cfg licensedOperators l
    let s := run (chainStep cfg) is start
    (initCreditPool cfg s = s ↔
      0 < s.genesisCreditAvailable ∨ cfg.creditEpochLimit = 0 ∨
        tally (chainStep cfg) lentBy is start ≤ u128Max) ∧
      ∀ t : State AccountId L, t.genesisCreditAvailable = 0 →
        t.recordedRepaid ≤ t.recordedIssued →
          t.recordedIssued - t.recordedRepaid ≤ cfg.creditEpochLimit →
            let t' := initCreditPool cfg t
            t'.genesisCreditAvailable + t'.totalOutstanding = cfg.creditEpochLimit ∧
              (t'.totalOutstanding = t.recordedIssued - t.recordedRepaid ↔
                t.recordedIssued ≤ u128Max ∨ t.recordedIssued = t.recordedRepaid) := by
  intro start s
  refine ⟨?_, fun t h hnet hfits => initCreditPool_outstanding_iff h hnet hfits⟩
  have hstart : RecordInvariant cfg start := genesis_recordInvariant cfg licensedOperators l
  have halong : Along (chainStep cfg) (fun s i => (chainEntry i).HasRoom s) is start := by
    apply along_chainHasRoom
    show 1 + _ ≤ u32Max
    rw [Nat.add_comm]
    exact hroom
  have hs : RecordInvariant cfg s :=
    run_of_along (fun _ _ _ => recordInvariant_step) hstart halong
  by_cases havailable : s.genesisCreditAvailable = 0
  -- the pool is used up, and all of it is outstanding
  · obtain ⟨b, hb⟩ := hs.represented
    have hsum := hb.conserved.1
    rw [initCreditPool_eq_self_iff havailable hsum]
    obtain ⟨hissued, hrepaid, hout⟩ := recorded_run hstart halong
    have hissued₀ : start.recordedIssued = 0 := Finset.sum_eq_zero fun i _ =>
      (genesis_epochs cfg licensedOperators l (i + 1)).2.1
    have hrepaid₀ : start.recordedRepaid = 0 := Finset.sum_eq_zero fun i _ =>
      (genesis_epochs cfg licensedOperators l (i + 1)).2.2.1
    have hout₀ : start.totalOutstanding = 0 := rfl
    rw [hissued₀, Nat.zero_min, Nat.zero_add] at hissued
    rw [hrepaid₀, Nat.zero_min, Nat.zero_add] at hrepaid
    rw [hout₀, Nat.zero_add] at hout
    change min s.recordedIssued u128Max = _ at hissued
    change min s.recordedRepaid u128Max = _ at hrepaid
    change s.totalOutstanding + _ = _ at hout
    omega
  · refine iff_of_true ?_ (Or.inl (by omega))
    exact initCreditPool_of_available (by omega)

end Runs

/-! ### A pool that is used up twice -/

/-- The central bank of the runtime with a pool of almost the whole range. -/
def widePool : Config ℕ :=
  { roundTripConfig with
    creditEpochLimit := u128Max - unit
    creditEpochLimit_le := Nat.sub_le _ _ }

/-- The operator 7 borrows the whole pool, repays it, and borrows it again. -/
def usedUpTwice : List (ChainInput ℕ (EscrowLedger ℕ)) :=
  [.extrinsic (signedContext 7, .requestCredit widePool.creditEpochLimit),
    .extrinsic (signedContext 7, .repayCredit 1 widePool.creditEpochLimit),
    .extrinsic (signedContext 7, .requestCredit widePool.creditEpochLimit)]

/-- The storage the operator 7 starts from, with a unit of its own. -/
def wideGenesis : State ℕ (EscrowLedger ℕ) :=
  genesis widePool [(7, true)] (ProvidedBalances.ofFree [(7, unit)])

/-- After the first loan the pool is used up, and the migration changes nothing. -/
theorem initCreditPool_unchanged_once :
    let s := run (chainStep widePool) (usedUpTwice.take 1) wideGenesis
    s.genesisCreditAvailable = 0 ∧ initCreditPool widePool s = s := by
  intro s
  refine ⟨by decide +kernel, ?_⟩
  refine (initCreditPool_unchanged_iff widePool [(7, true)]
    (ProvidedBalances.ofFree [(7, unit)] : EscrowLedger ℕ) (usedUpTwice.take 1)
    (by decide +kernel)).1.mpr ?_
  exact Or.inr (Or.inr (by decide +kernel))

/-- **A pool reopened.** After the second loan the pool is used up too, and the migration makes
almost all of it available again, as if a unit were outstanding. -/
theorem exhausted_pool_reopened :
    let s := run (chainStep widePool) usedUpTwice wideGenesis
    let s' := initCreditPool widePool s
    s.genesisCreditAvailable = 0 ∧ s.totalOutstanding = u128Max - unit ∧
      s'.genesisCreditAvailable = u128Max - 2 * unit ∧ s'.totalOutstanding = unit ∧ s' ≠ s := by
  intro s s'
  have hout : s.totalOutstanding = u128Max - unit := by decide +kernel
  have hout' : s'.totalOutstanding = unit := by decide +kernel
  refine ⟨by decide +kernel, hout, by decide +kernel, hout', fun hsame => ?_⟩
  rw [hsame, hout] at hout'
  exact absurd hout' (by decide)

end CentralBank
