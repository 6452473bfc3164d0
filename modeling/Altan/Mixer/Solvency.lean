import Altan.Mixer.Model
import Altan.Runtime.Constants

/-!
# The solvency of the pool

The pool owes, for every active commitment, what was deposited under it. The storage does not say
how much that was, and a withdrawal pays what the relayer names; the relayer is trusted to name it
rightly. Beside a run we keep the deposited amounts. The pool covers what it owes in exactly the
runs whose withdrawals take no more than the deposit and what the pool has over; and since a
withdrawal keeps the pool alive, a deposit can be paid back just when the existential deposit is
left in the pool. A pool endowed with it from the start, and relayed honestly, pays every deposit
back, the last one included.

## Main definitions

* `depositStep`: the calls, with the deposited amounts kept beside the storage
* `owed`, `Solvent`: what the pool owes, and that it is covered
* `PaysWithin`, `Honest`: conditions on the calls
* `Due`, `Pays`: a withdrawal of what was deposited

## Main results

* `solvent_step_iff`, `pays_iff`: one call, one withdrawal
* `pool_solvent`: a run
* `pool_insolvent`: runs in which the pool falls short
-/

open Bounded Dispatch Ledger TransitionSystem Runtime

namespace Mixer

variable {AccountId L : Type} {cfg : Config AccountId}

/-- The storage, and the amount last deposited under each commitment. -/
abbrev Deposits (AccountId L : Type) := State AccountId L × (Bytes32 → ℕ)

/-- Nothing deposited yet. -/
def noDeposits (l : L) : Deposits AccountId L := (genesis l, fun _ => 0)

/-- What a call adds to the deposited amounts. -/
def recordDeposit (_ : State AccountId L) (x : Extrinsic AccountId) (d : Bytes32 → ℕ) :
    Bytes32 → ℕ :=
  match x.2 with
  | .deposit amount commitment _ => Function.update d commitment amount
  | _ => d

/-- What the pool owes: the amounts deposited under the active commitments. -/
def owed (t : Deposits AccountId L) : ℕ :=
  t.1.commitments.sum fun c st => if st = .active then t.2 c else 0

variable {t t' : Deposits AccountId L} {commitment : Bytes32} {amount : ℕ}

/-- A deposit under a new commitment adds its amount to what is owed. -/
theorem owed_deposit {s : State AccountId L}
    (hs : s.commitments = t.1.commitments.insert commitment .active)
    (hnew : t.1.commitments.get commitment = none) :
    owed (s, Function.update t.2 commitment amount) = owed t + amount := by
  -- the entries that were there keep their amounts
  have hkept : owed (t.1, Function.update t.2 commitment amount) = owed t := by
    refine StorageMap.sum_congr _ fun c st hc => ?_
    have hne : c ≠ commitment := by
      rintro rfl
      rw [hnew] at hc
      cases hc
    simp only [Function.update_of_ne hne]
  have hinsert := StorageMap.sum_insert_new
    (fun c st => if st = CommitmentState.active then Function.update t.2 commitment amount c else 0)
    hnew .active
  rw [if_pos rfl, Function.update_self, ← hs] at hinsert
  rw [← hkept, Nat.add_comm]
  exact hinsert

/-- A withdrawal takes what was deposited off what is owed. -/
theorem owed_withdraw {s : State AccountId L}
    (hs : s.commitments = t.1.commitments.insert commitment .spent)
    (hactive : t.1.commitments.get commitment = some .active) :
    owed (s, t.2) + t.2 commitment = owed t := by
  unfold owed
  rw [hs]
  have hinsert := StorageMap.sum_insert_of_get
    (fun c st => if st = CommitmentState.active then t.2 c else 0) hactive .spent
  rw [if_pos rfl, if_neg (by decide), Nat.zero_add] at hinsert
  exact (Nat.add_comm _ _).trans hinsert

theorem le_owed (h : t.1.commitments.get commitment = some .active) :
    t.2 commitment ≤ owed t := by
  have hle := StorageMap.le_sum_of_get
    (h := fun c st => if st = CommitmentState.active then t.2 c else 0) h
  rwa [if_pos rfl] at hle

variable [Currency AccountId L] {x : Extrinsic AccountId} {xs : List (Extrinsic AccountId)} {l : L}

/-- The calls, with the deposited amounts kept beside the storage. -/
def depositStep (cfg : Config AccountId) :
    Extrinsic AccountId → Deposits AccountId L → Result (Deposits AccountId L) :=
  recording recordDeposit (step cfg)

/-- The free balance of the pool. -/
def poolBalance (cfg : Config AccountId) (t : Deposits AccountId L) : ℕ :=
  freeBalance t.1.ledger cfg.poolAccount

/-- The pool covers what it owes. -/
def Solvent (cfg : Config AccountId) (t : Deposits AccountId L) : Prop :=
  owed t ≤ poolBalance cfg t

instance : Decidable (Solvent cfg t) := inferInstanceAs (Decidable (_ ≤ _))

section Decidable

variable [DecidableEq AccountId]

/-- The call leaves the pool able to cover what it owes: a withdrawal takes no more than the deposit
and what the pool has over, unless it pays the pool itself; a deposit signed by the pool account
itself, which brings nothing in, is covered already, with its fee. -/
def PaysWithin (cfg : Config AccountId) (t : Deposits AccountId L) (x : Extrinsic AccountId) :
    Prop :=
  match x.2 with
  | .deposit amount _ _ => x.1.origin = .signed cfg.poolAccount →
    owed t + amount + calculateTotalFee cfg amount ≤
      poolBalance cfg t + feeTo cfg amount cfg.poolAccount
  | .withdraw _ commitment recipient amount =>
    recipient = cfg.poolAccount ∨ owed t + amount ≤ poolBalance cfg t + t.2 commitment
  | _ => True

instance : Decidable (PaysWithin cfg t x) := by
  unfold PaysWithin
  split <;> infer_instance

/-- The call is honest: a withdrawal takes no more than was deposited under its commitment, and no
deposit is signed by the pool account. -/
def Honest (cfg : Config AccountId) (t : Deposits AccountId L) (x : Extrinsic AccountId) : Prop :=
  match x.2 with
  | .deposit .. => x.1.origin ≠ .signed cfg.poolAccount
  | .withdraw _ commitment _ amount => amount ≤ t.2 commitment
  | _ => True

instance : Decidable (Honest cfg t x) := by
  unfold Honest
  split <;> infer_instance

/-- What a call does to the debts and the balance of the pool. -/
theorem step_pool (h : depositStep cfg x t = .ok t') :
    match x.2 with
    | .deposit amount _ _ => owed t' = owed t + amount ∧
      poolBalance cfg t' + (if x.1.origin = .signed cfg.poolAccount then
          amount + calculateTotalFee cfg amount else 0) =
        poolBalance cfg t + amount + feeTo cfg amount cfg.poolAccount
    | .withdraw _ commitment recipient amount => owed t' + t.2 commitment = owed t ∧
      poolBalance cfg t' + amount =
        poolBalance cfg t + if recipient = cfg.poolAccount then amount else 0
    | _ => owed t' = owed t ∧ poolBalance cfg t' = poolBalance cfg t := by
  obtain ⟨hstep, hrecord⟩ := recording_eq_ok.mp h
  obtain ⟨s', d'⟩ := t'
  obtain ⟨ctx, call⟩ := x
  simp only at hstep hrecord
  subst hrecord
  cases call with
  | deposit amount commitment payload =>
    obtain ⟨who, hwho, _, hnew, l₁, l₂, l₃, l₄, l', hpaid, rfl⟩ := (deposit_eq_ok payload).mp hstep
    refine ⟨owed_deposit rfl hnew, ?_⟩
    have hfree := hpaid.free cfg.poolAccount
    rw [if_pos rfl] at hfree
    -- the pool pays the fee too when it is the depositor itself
    have horigin : (ctx.origin = .signed cfg.poolAccount) ↔ cfg.poolAccount = who := by
      rw [show ctx.origin = .signed who from hwho, Origin.signed.injEq]
      exact eq_comm
    simp only [horigin]
    exact hfree
  | withdraw nullifier commitment recipient amount =>
    obtain ⟨_, _, _, _, hactive, l', hl', rfl⟩ := withdraw_eq_ok.mp hstep
    refine ⟨owed_withdraw rfl hactive, ?_⟩
    have hfree := Currency.transfer_keepAlive_free hl' cfg.poolAccount
    rw [if_pos rfl] at hfree
    simp only [eq_comm (a := recipient)]
    exact hfree
  | revealTransaction targetCommitment warrantId =>
    obtain ⟨_, _, rfl⟩ := revealTransaction_eq_ok.mp hstep
    exact ⟨rfl, rfl⟩
  | submitQuarterlyAudit quarterId reportHash =>
    obtain ⟨_, _, rfl⟩ := submitQuarterlyAudit_eq_ok.mp hstep
    exact ⟨rfl, rfl⟩

/-- **One call keeps the pool solvent just when it pays within.** -/
theorem solvent_step_iff (hsolvent : Solvent cfg t) (h : depositStep cfg x t = .ok t') :
    Solvent cfg t' ↔ PaysWithin cfg t x := by
  have hpool := step_pool h
  unfold Solvent at hsolvent ⊢
  obtain ⟨ctx, call⟩ := x
  cases call with
  | deposit amount commitment payload =>
    obtain ⟨howed, hbalance⟩ := hpool
    simp only [PaysWithin]
    by_cases horigin : ctx.origin = .signed cfg.poolAccount
    · simp only [horigin, if_true, true_implies] at hbalance ⊢
      omega
    · simp only [horigin, if_false, false_implies, iff_true] at hbalance ⊢
      omega
  | withdraw nullifier commitment recipient amount =>
    obtain ⟨howed, hbalance⟩ := hpool
    simp only [PaysWithin]
    by_cases hself : recipient = cfg.poolAccount
    · simp only [hself, if_true, true_or, iff_true] at hbalance ⊢
      omega
    · simp only [hself, if_false, false_or] at hbalance ⊢
      omega
  | revealTransaction targetCommitment warrantId =>
    obtain ⟨howed, hbalance⟩ := hpool
    simp only [PaysWithin, iff_true]
    omega
  | submitQuarterlyAudit quarterId reportHash =>
    obtain ⟨howed, hbalance⟩ := hpool
    simp only [PaysWithin, iff_true]
    omega

/-- What the pool has over what it owes, honest calls leave in it. -/
theorem honest_step {surplus : ℕ} (hover : owed t + surplus ≤ poolBalance cfg t)
    (hhonest : Honest cfg t x) (h : depositStep cfg x t = .ok t') :
    owed t' + surplus ≤ poolBalance cfg t' := by
  have hpool := step_pool h
  obtain ⟨ctx, call⟩ := x
  cases call with
  | deposit amount commitment payload =>
    obtain ⟨howed, hbalance⟩ := hpool
    rw [if_neg hhonest] at hbalance
    omega
  | withdraw nullifier commitment recipient amount =>
    obtain ⟨howed, hbalance⟩ := hpool
    have hle : amount ≤ t.2 commitment := hhonest
    omega
  | revealTransaction targetCommitment warrantId =>
    obtain ⟨howed, hbalance⟩ := hpool
    omega
  | submitQuarterlyAudit quarterId reportHash =>
    obtain ⟨howed, hbalance⟩ := hpool
    omega

end Decidable

/-! ### Paying a deposit back -/

/-- What a holder brings to a withdrawal: an active commitment, a fresh nullifier, the relayer, and
a recipient other than the pool that exists once it is paid. -/
structure Due (cfg : Config AccountId) (t : Deposits AccountId L) (ctx : Context AccountId)
    (nullifier commitment : Bytes32) (recipient : AccountId) : Prop where
  relayer : (ctx.relayerOrigin ctx.origin).isSome = true
  active : t.1.commitments.get commitment = some .active
  fresh : t.1.spentNullifiers.get nullifier = none
  recipient_ne : recipient ≠ cfg.poolAccount
  alive : existentialDeposit L ≤ freeBalance t.1.ledger recipient + t.2 commitment

/-- The withdrawal of what was deposited succeeds, and pays exactly that. -/
def Pays (cfg : Config AccountId) (t : Deposits AccountId L) (ctx : Context AccountId)
    (nullifier commitment : Bytes32) (recipient : AccountId) : Prop :=
  ∃ s', step cfg (ctx, .withdraw nullifier commitment recipient (t.2 commitment)) t.1 = .ok s' ∧
    freeBalance s'.ledger recipient = freeBalance t.1.ledger recipient + t.2 commitment

/-- Every active commitment has a denominated amount, and the pool account no lock. -/
structure WellKept (cfg : Config AccountId) (t : Deposits AccountId L) : Prop where
  denominated : ∀ c, t.1.commitments.get c = some .active → Denominated cfg (t.2 c)
  unlocked : ∀ id, lockAmount t.1.ledger id cfg.poolAccount = 0

theorem wellKept_step [LockableCurrency AccountId L] (hkept : WellKept cfg t)
    (h : depositStep cfg x t = .ok t') : WellKept cfg t' := by
  obtain ⟨hstep, hrecord⟩ := recording_eq_ok.mp h
  obtain ⟨s', d'⟩ := t'
  obtain ⟨ctx, call⟩ := x
  simp only at hstep hrecord
  subst hrecord
  cases call with
  | deposit amount commitment payload =>
    obtain ⟨_, _, hamount, _, l₁, l₂, l₃, l₄, l', hpaid, rfl⟩ := (deposit_eq_ok payload).mp hstep
    refine ⟨fun c hc => ?_, fun id => (hpaid.lockAmount id _).trans (hkept.unlocked id)⟩
    change Denominated cfg (Function.update t.2 commitment amount c)
    by_cases he : c = commitment
    · rw [he, Function.update_self]
      exact hamount
    · rw [Function.update_of_ne he]
      exact hkept.denominated c ((StorageMap.get_insert_of_ne he).symm.trans hc)
  | withdraw nullifier commitment recipient amount =>
    obtain ⟨_, _, _, _, _, l', hl', rfl⟩ := withdraw_eq_ok.mp hstep
    refine ⟨fun c hc => ?_, fun id => ?_⟩
    · have hne : c ≠ commitment := by
        rintro rfl
        change (t.1.commitments.insert c .spent).get c = some .active at hc
        rw [StorageMap.get_insert_self] at hc
        cases hc
      exact hkept.denominated c ((StorageMap.get_insert_of_ne hne).symm.trans hc)
    · exact (LockableCurrency.transfer_lock _ _ _ _ _ _ hl' id _).trans (hkept.unlocked id)
  | revealTransaction targetCommitment warrantId =>
    obtain ⟨_, _, rfl⟩ := revealTransaction_eq_ok.mp hstep
    exact ⟨hkept.denominated, hkept.unlocked⟩
  | submitQuarterlyAudit quarterId reportHash =>
    obtain ⟨_, _, rfl⟩ := submitQuarterlyAudit_eq_ok.mp hstep
    exact ⟨hkept.denominated, hkept.unlocked⟩

/-- **A deposit can be paid back just when the existential deposit is left in the pool.** -/
theorem pays_iff [DecidableEq AccountId] [UnlockedTransfers AccountId L] {ctx : Context AccountId}
    {nullifier : Bytes32} {recipient : AccountId} (hkept : WellKept cfg t)
    (hdue : Due cfg t ctx nullifier commitment recipient) :
    Pays cfg t ctx nullifier commitment recipient ↔
      t.2 commitment + existentialDeposit L ≤ poolBalance cfg t := by
  have hamount := hkept.denominated commitment hdue.active
  have hzero : t.2 commitment ≠ 0 := by
    have hle := hamount.le
    have hne := hamount.ne_zero
    omega
  constructor
  · rintro ⟨s', hs', -⟩
    obtain ⟨_, _, _, _, _, l', hl', -⟩ := withdraw_eq_ok.mp hs'
    -- the transfer was funded and kept the pool alive
    have halive := Currency.transfer_keepAlive _ _ _ _ _ hzero hdue.recipient_ne.symm hl'
    have hfunded := (Currency.transfer_ok _ _ _ _ _ _ hzero hdue.recipient_ne.symm hl').funded
    unfold poolBalance
    omega
  · intro hleft
    obtain ⟨relayer, hrelayer⟩ := Option.isSome_iff_exists.mp hdue.relayer
    obtain ⟨l', hl'⟩ := UnlockedTransfers.transfer_unlocked t.1.ledger cfg.poolAccount recipient
      (t.2 commitment) hkept.unlocked hleft hdue.alive
    refine ⟨_, withdraw_eq_ok.mpr ⟨relayer, hrelayer, hamount, hdue.fresh, hdue.active, l', hl',
      rfl⟩, ?_⟩
    have hfree := Currency.transfer_keepAlive_free hl' recipient
    rwa [if_neg hdue.recipient_ne, if_pos rfl, Nat.add_zero] at hfree

/-! ### Runs -/

section Runs

variable [DecidableEq AccountId]

/-- From empty storage, the pool is solvent throughout exactly the runs whose calls pay within. -/
theorem throughout_solvent_iff :
    Throughout (depositStep cfg) (Solvent cfg) xs (noDeposits l) ↔
      Along (depositStep cfg) (PaysWithin cfg) xs (noDeposits l) :=
  throughout_iff_along_of_step (fun _ _ _ hsolvent h => solvent_step_iff hsolvent h)
    (Nat.zero_le _)

/-- What the pool was endowed with, an honest run leaves in it. -/
theorem throughout_endowed (hhonest : Along (depositStep cfg) (Honest cfg) xs (noDeposits l)) :
    Throughout (depositStep cfg)
      (fun t => owed t + freeBalance l cfg.poolAccount ≤ poolBalance cfg t) xs (noDeposits l) :=
  throughout_of_along (fun _ _ _ hover hhonest h => honest_step hover hhonest h)
    (Nat.zero_add _).le hhonest

omit [DecidableEq AccountId] in
theorem wellKept_run [LockableCurrency AccountId L]
    (hunlocked : ∀ id, lockAmount l id cfg.poolAccount = 0) :
    WellKept cfg (run (depositStep cfg) xs (noDeposits l)) := by
  refine run_invariant (fun _ _ _ hkept h => wellKept_step hkept h) xs ⟨fun c hc => ?_, hunlocked⟩
  rw [show (noDeposits l : Deposits AccountId L).1.commitments = ∅ from rfl,
    StorageMap.get_empty] at hc
  cases hc

/-- **The pool over a run.** From empty storage and with no lock on the pool account, the pool
covers what it owes in exactly the runs whose calls pay within, in every honest run among them; a
deposit can be paid back just when the existential deposit is left in the pool; and if the pool was
endowed with that and the run is honest, every deposit can. -/
theorem pool_solvent [LockableCurrency AccountId L] [UnlockedTransfers AccountId L]
    (hunlocked : ∀ id, lockAmount l id cfg.poolAccount = 0) :
    (Throughout (depositStep cfg) (Solvent cfg) xs (noDeposits l) ↔
      Along (depositStep cfg) (PaysWithin cfg) xs (noDeposits l)) ∧
    (Along (depositStep cfg) (Honest cfg) xs (noDeposits l) →
      Throughout (depositStep cfg) (Solvent cfg) xs (noDeposits l)) ∧
    (∀ ctx nullifier c recipient,
      Due cfg (run (depositStep cfg) xs (noDeposits l)) ctx nullifier c recipient →
        (Pays cfg (run (depositStep cfg) xs (noDeposits l)) ctx nullifier c recipient ↔
          (run (depositStep cfg) xs (noDeposits l)).2 c + existentialDeposit L ≤
            poolBalance cfg (run (depositStep cfg) xs (noDeposits l)))) ∧
    (Along (depositStep cfg) (Honest cfg) xs (noDeposits l) →
      existentialDeposit L ≤ freeBalance l cfg.poolAccount → ∀ ctx nullifier c recipient,
        Due cfg (run (depositStep cfg) xs (noDeposits l)) ctx nullifier c recipient →
          Pays cfg (run (depositStep cfg) xs (noDeposits l)) ctx nullifier c recipient) := by
  have hkept : WellKept cfg (run (depositStep cfg) xs (noDeposits l)) := wellKept_run hunlocked
  refine ⟨throughout_solvent_iff, fun hhonest => ?_, ?_, ?_⟩
  · exact (throughout_endowed hhonest).imp fun t hover => (Nat.le_add_right _ _).trans hover
  · intro ctx nullifier c recipient hdue
    exact pays_iff hkept hdue
  · intro hhonest hendowed ctx nullifier c recipient hdue
    -- what is owed covers the deposit, and the endowment the existential deposit
    have hover := (throughout_endowed hhonest).last
    have howed := le_owed hdue.active
    exact (pays_iff hkept hdue).mpr (by omega)

/-- The pool was endowed with the existential deposit: its only deposit can be paid back. -/
theorem pool_solvent_last :
    Pays mixer (run (depositStep mixer)
        [(mixerContext (.signed 7), .deposit (10 * CentralBank.unit) (.ofByte 1) [])]
        (noDeposits (mixerGenesis existentialDeposit).ledger))
      (mixerContext .root) (.ofByte 11) (.ofByte 1) 8 :=
  (pool_solvent (Balances.ofFree_lockAmount _ · 1)).2.2.2 (by decide +kernel) (by decide +kernel)
    _ _ _ _ ⟨by decide +kernel, by decide +kernel, by decide +kernel, by decide, by decide +kernel⟩

/-- Three deposits of ten units and a withdrawal of twenty for the first leave ten for the other
two; and the only deposit of a pool with nothing else in it cannot be paid back. -/
theorem pool_insolvent :
    (¬ ∀ xs, Throughout (depositStep mixer) (Solvent mixer) xs
      (noDeposits (mixerGenesis 0).ledger)) ∧
    ¬ ∀ xs ctx nullifier c recipient,
      Due mixer (run (depositStep mixer) xs (noDeposits (mixerGenesis 0).ledger)) ctx nullifier c
        recipient →
      Pays mixer (run (depositStep mixer) xs (noDeposits (mixerGenesis 0).ledger)) ctx nullifier c
        recipient := by
  constructor
  · intro h
    have hsolvent := (h
      [(mixerContext (.signed 7), .deposit (10 * CentralBank.unit) (.ofByte 1) []),
        (mixerContext (.signed 7), .deposit (10 * CentralBank.unit) (.ofByte 2) []),
        (mixerContext (.signed 8), .deposit (10 * CentralBank.unit) (.ofByte 3) []),
        (mixerContext .root, .withdraw (.ofByte 11) (.ofByte 1) 8 (20 * CentralBank.unit))]).last
    exact absurd hsolvent (by decide +kernel)
  · intro h
    obtain ⟨s', hs', -⟩ := h
      [(mixerContext (.signed 7), .deposit (10 * CentralBank.unit) (.ofByte 1) [])]
      (mixerContext .root) (.ofByte 11) (.ofByte 1) 8
      ⟨by decide +kernel, by decide +kernel, by decide +kernel, by decide, by decide +kernel⟩
    have hok := (congrArg Except.isOk hs').trans (rfl : _ = true)
    exact absurd hok (by decide +kernel)

end Runs

end Mixer
