import Altan.Foundation.Arithmetic
import Altan.Foundation.Currency
import Altan.Foundation.Dispatch
import Altan.Foundation.Lifecycle
import Altan.Foundation.Scale
import Altan.Foundation.StorageMap

/-!
# The shielded vaults

Public funds are shielded under a commitment, an opaque hash, and destroyed on the ledger. A
shielded transfer destroys one commitment and registers another; the exits destroy a commitment
and create, on public accounts, the amount the caller declares. What an organization has shielded
and what everyone has shielded is counted beside the commitments. Every commitment is destroyed
under a nullifier, which is accepted once.

## Main definitions

* `Config`, `State`: the constants and the storage
* `Call`, `dispatch`: the entry points: the four dispatchables, and `unshieldForTax`, which another
  module calls
* `Move`, `Call.move`: funds entering, passing on or leaving
* `Moved`: the storage before and after a move
* `Call.credits`: what a call creates on public accounts
* `State.phase`: the phase of a commitment

## Main results

* `step_moved`, `step_ledger`: what a successful call has checked and changed
* `Moved.turned`: a move as a turn of the phases
-/

open Bounded Dispatch

namespace ShieldedVaults

/-- The errors of the module. -/
inductive Error
  | stateFundsMustRemainPublic
  | nullifierAlreadySpent
  | commitmentNotFound
  | commitmentAlreadySpent
  | amountExceedsShieldedBalance
  | arithmeticOverflow
  | unshieldTransferFailed
  deriving DecidableEq, Repr

/-- The outcome of a function of the module. -/
abbrev Result (α : Type) := Except (DispatchError Error) α

/-- The constants of the module, and the guard that names the state accounts. -/
structure Config (AccountId : Type) where
  isStateAccount : AccountId → Bool
  confederationTreasury : AccountId

/-- What a call is dispatched with: its origin, the block, and which regional treasury the
resolver finds for an organization at the time. -/
structure Context (AccountId : Type) where
  origin : Origin AccountId
  blockNumber : ℕ
  regionalTreasuryFor : ℕ → Option AccountId

/-- The storage of the module, and the ledger. -/
structure State (L : Type) where
  shieldedCommitments : StorageMap Bytes32 Bool
  spentNullifiers : StorageMap Bytes32 ℕ
  orgVaultBalance : StorageMap ℕ ℕ
  totalShielded : ℕ
  ledger : L

section Helpers

variable {L : Type}

/-- The storage before any call, on a ledger. -/
def genesis (ledger : L) : State L where
  shieldedCommitments := ∅
  spentNullifiers := ∅
  orgVaultBalance := ∅
  totalShielded := 0
  ledger := ledger

/-- Whether a commitment is active. One that was never registered reads as a spent one. -/
def State.isActive (s : State L) (commitment : Bytes32) : Bool :=
  s.shieldedCommitments.getD commitment false

/-- What an organization has in its vault. -/
def State.vault (s : State L) (orgId : ℕ) : ℕ := s.orgVaultBalance.getD orgId 0

/-- The vaults after shielding for an organization, if any. -/
def creditVault (orgId : Option ℕ) (amount : ℕ) (vaults : StorageMap ℕ ℕ) : StorageMap ℕ ℕ :=
  match orgId with
  | some id => vaults.insert id (saturatingAdd u128Max (vaults.getD id 0) amount)
  | none => vaults

/-- The vaults after unshielding from that of an organization, if any. -/
def debitVault (orgId : Option ℕ) (amount : ℕ) (vaults : StorageMap ℕ ℕ) : StorageMap ℕ ℕ :=
  match orgId with
  | some id => vaults.insert id (vaults.getD id 0 - amount)
  | none => vaults

/-- The checks on what is to be destroyed: the nullifier is fresh, the commitment active. -/
def ensureSpendable (nullifier commitment : Bytes32) (s : State L) : Result Unit := do
  ensure (s.spentNullifiers.get nullifier = none) (.module .nullifierAlreadySpent)
  ensure (s.isActive commitment = true) (.module .commitmentNotFound)

/-- Destroy a commitment and record its nullifier. -/
def spend {AccountId : Type} (ctx : Context AccountId) (nullifier commitment : Bytes32)
    (s : State L) : State L :=
  { s with
    shieldedCommitments := s.shieldedCommitments.insert commitment false
    spentNullifiers := s.spentNullifiers.insert nullifier ctx.blockNumber }

/-- A declared amount as a balance. -/
def toBalance (amount : ℕ) : Result ℕ := do
  ensure (amount ≤ u128Max) (.module .arithmeticOverflow)
  return amount

/-- The part of a tax payment that goes to the region, seven tenths. -/
def regionAmount (amountClaimed : ℕ) : ℕ := saturatingMul u128Max amountClaimed 7 / 10

/-- The part of a tax payment that goes to the confederation, the rest. -/
def confederationAmount (amountClaimed : ℕ) : ℕ := amountClaimed - regionAmount amountClaimed

end Helpers

section Calls

variable {AccountId L : Type} [Currency AccountId L]

/-- Move funds of the signer into the shielded pool under a commitment. -/
def shieldFunds (cfg : Config AccountId) (ctx : Context AccountId) (amount : ℕ)
    (commitment : Bytes32) (orgId : Option ℕ) (s : State L) : Result (State L) := do
  let caller ← ensureSigned ctx.origin
  ensure (cfg.isStateAccount caller = false) (.module .stateFundsMustRemainPublic)
  ensure (s.isActive commitment = false) (.module .commitmentAlreadySpent)
  let ledger ← (Currency.withdraw s.ledger caller amount .keepAlive).mapError
    fun _ => .module .unshieldTransferFailed
  return { s with
    shieldedCommitments := s.shieldedCommitments.insert commitment true
    orgVaultBalance := creditVault orgId amount s.orgVaultBalance
    totalShielded := saturatingAdd u128Max s.totalShielded amount
    ledger := ledger }

/-- Destroy a commitment and register another in its place. -/
def shieldedTransfer (ctx : Context AccountId) (nullifier inputCommitment newCommitment : Bytes32)
    (_orgId : Option ℕ) (s : State L) : Result (State L) := do
  let _ ← ensureSigned ctx.origin
  ensureSpendable nullifier inputCommitment s
  let s := spend ctx nullifier inputCommitment s
  -- the new commitment is looked up after the input has been destroyed
  ensure (s.isActive newCommitment = false) (.module .commitmentAlreadySpent)
  return { s with
    shieldedCommitments := s.shieldedCommitments.insert newCommitment true }

/-- Destroy a commitment and create the declared amount on a public account. -/
def unshieldToAccount (ctx : Context AccountId) (nullifier inputCommitment : Bytes32)
    (amount : ℕ) (recipient : AccountId) (orgId : Option ℕ) (s : State L) :
    Result (State L) := do
  let _ ← ensureSigned ctx.origin
  ensureSpendable nullifier inputCommitment s
  ensure (∀ id ∈ orgId, amount ≤ s.vault id) (.module .amountExceedsShieldedBalance)
  let s := spend ctx nullifier inputCommitment s
  let balanceAmount ← toBalance amount
  let ledger := Currency.depositCreating s.ledger recipient balanceAmount
  return { s with
    orgVaultBalance := debitVault orgId amount s.orgVaultBalance
    totalShielded := s.totalShielded - amount
    ledger := ledger }

/-- Destroy a commitment and create the declared tax on the treasuries of the confederation and
of the region of an organization. -/
def orgUnshieldTaxPayment (cfg : Config AccountId) (ctx : Context AccountId) (orgId : ℕ)
    (nullifier inputCommitment : Bytes32) (amountClaimed : ℕ) (s : State L) :
    Result (State L) := do
  let _ ← ensureSigned ctx.origin
  ensureSpendable nullifier inputCommitment s
  ensure (amountClaimed ≤ s.vault orgId) (.module .amountExceedsShieldedBalance)
  let s := spend ctx nullifier inputCommitment s
  let balanceConfederation ← toBalance (confederationAmount amountClaimed)
  let ledger := Currency.depositCreating s.ledger cfg.confederationTreasury balanceConfederation
  let balanceRegion ← toBalance (regionAmount amountClaimed)
  let ledger :=
    match ctx.regionalTreasuryFor orgId with
    | some regionalTreasury => Currency.depositCreating ledger regionalTreasury balanceRegion
    -- without a region its part goes to the confederation as well
    | none => Currency.depositCreating ledger cfg.confederationTreasury balanceRegion
  return { s with
    orgVaultBalance := debitVault (some orgId) amountClaimed s.orgVaultBalance
    totalShielded := s.totalShielded - amountClaimed
    ledger := ledger }

/-- Destroy a commitment and create the declared amount, for another module. -/
def unshieldForTax (ctx : Context AccountId) (nullifier commitment : Bytes32) (amount : ℕ)
    (recipient : AccountId) (s : State L) : Result (State L) := do
  ensureSpendable nullifier commitment s
  let s := spend ctx nullifier commitment s
  let balanceAmount ← toBalance amount
  let ledger := Currency.depositCreating s.ledger recipient balanceAmount
  return { s with
    totalShielded := s.totalShielded - amount
    ledger := ledger }

end Calls

/-! ### Dispatch -/

/-- The entry points with their arguments. -/
inductive Call (AccountId : Type)
  | shieldFunds (amount : ℕ) (commitment : Bytes32) (orgId : Option ℕ)
  | shieldedTransfer (nullifier inputCommitment newCommitment : Bytes32) (orgId : Option ℕ)
  | unshieldToAccount (nullifier inputCommitment : Bytes32) (amount : ℕ) (recipient : AccountId)
      (orgId : Option ℕ)
  | orgUnshieldTaxPayment (orgId : ℕ) (nullifier inputCommitment : Bytes32) (amountClaimed : ℕ)
  | unshieldForTax (nullifier commitment : Bytes32) (amount : ℕ) (recipient : AccountId)
  deriving DecidableEq

variable {AccountId L : Type} [Currency AccountId L]

/-- Dispatch a call. -/
def dispatch (cfg : Config AccountId) (ctx : Context AccountId) :
    Call AccountId → State L → Result (State L)
  | .shieldFunds amount commitment orgId => shieldFunds cfg ctx amount commitment orgId
  | .shieldedTransfer nullifier inputCommitment newCommitment orgId =>
    shieldedTransfer ctx nullifier inputCommitment newCommitment orgId
  | .unshieldToAccount nullifier inputCommitment amount recipient orgId =>
    unshieldToAccount ctx nullifier inputCommitment amount recipient orgId
  | .orgUnshieldTaxPayment orgId nullifier inputCommitment amountClaimed =>
    orgUnshieldTaxPayment cfg ctx orgId nullifier inputCommitment amountClaimed
  | .unshieldForTax nullifier commitment amount recipient =>
    unshieldForTax ctx nullifier commitment amount recipient

/-- A dispatched call: its context and the call itself. -/
abbrev Extrinsic (AccountId : Type) := Context AccountId × Call AccountId

/-- One call as a step of the state machine. -/
def step (cfg : Config AccountId) (x : Extrinsic AccountId) (s : State L) : Result (State L) :=
  dispatch cfg x.1 x.2 s

end ShieldedVaults

/-! ### What the calls do

Funds enter the pool under a commitment, pass on inside it from one commitment to another, or leave
it by an exit. A move determines what becomes of the commitments, the nullifiers and the two
counters; what is created on the ledger is a list of credits. No later proof looks into a call
again. -/

open Ledger

namespace ShieldedVaults

/-- Funds entering the pool, passing on inside it, or leaving it. -/
inductive Move
  | enter (commitment : Bytes32) (amount : ℕ) (orgId : Option ℕ)
  | pass (nullifier input output : Bytes32)
  | leave (nullifier commitment : Bytes32) (amount : ℕ) (orgId : Option ℕ)
  deriving DecidableEq

namespace Move

/-- The commitment a move destroys. -/
def spends : Move → Option Bytes32
  | enter .. => none
  | pass _ input _ => some input
  | leave _ commitment _ _ => some commitment

/-- The commitment a move registers. -/
def opens : Move → Option Bytes32
  | enter commitment _ _ => some commitment
  | pass _ _ output => some output
  | leave .. => none

/-- The nullifier a move records. -/
def nullifier : Move → Option Bytes32
  | enter .. => none
  | pass nullifier _ _ | leave nullifier _ _ _ => some nullifier

/-- The amount that enters the pool. -/
def entering : Move → ℕ
  | enter _ amount _ => amount
  | pass .. | leave .. => 0

/-- The amount that leaves the pool, as declared. -/
def leaving : Move → ℕ
  | leave _ _ amount _ => amount
  | enter .. | pass .. => 0

/-- The commitments after a move. -/
def commitments (m : StorageMap Bytes32 Bool) : Move → StorageMap Bytes32 Bool
  | enter commitment _ _ => m.insert commitment true
  | pass _ input output => (m.insert input false).insert output true
  | leave _ commitment _ _ => m.insert commitment false

/-- The vaults after a move. -/
def vaults (m : StorageMap ℕ ℕ) : Move → StorageMap ℕ ℕ
  | enter _ amount orgId => creditVault orgId amount m
  | pass .. => m
  | leave _ _ amount orgId => debitVault orgId amount m

/-- The counter of everything shielded after a move. -/
def total (n : ℕ) : Move → ℕ
  | enter _ amount _ => saturatingAdd u128Max n amount
  | pass .. => n
  | leave _ _ amount _ => n - amount

/-- What the vault of an organization the move names must hold. -/
def WithinVaults (m : StorageMap ℕ ℕ) : Move → Prop
  | leave _ _ amount orgId => ∀ id ∈ orgId, amount ≤ m.getD id 0
  | enter .. | pass .. => True

end Move

/-- The move a call makes. -/
def Call.move {AccountId : Type} : Call AccountId → Move
  | .shieldFunds amount commitment orgId => .enter commitment amount orgId
  | .shieldedTransfer nullifier inputCommitment newCommitment _ =>
    .pass nullifier inputCommitment newCommitment
  | .unshieldToAccount nullifier inputCommitment amount _ orgId =>
    .leave nullifier inputCommitment amount orgId
  | .orgUnshieldTaxPayment orgId nullifier inputCommitment amountClaimed =>
    .leave nullifier inputCommitment amountClaimed (some orgId)
  | .unshieldForTax nullifier commitment amount _ => .leave nullifier commitment amount none

/-- What a call creates on public accounts, in order. -/
def Call.credits {AccountId : Type} (cfg : Config AccountId) (ctx : Context AccountId) :
    Call AccountId → List (AccountId × ℕ)
  | .unshieldToAccount _ _ amount recipient _ | .unshieldForTax _ _ amount recipient =>
    [(recipient, amount)]
  | .orgUnshieldTaxPayment orgId _ _ amountClaimed =>
    [(cfg.confederationTreasury, confederationAmount amountClaimed),
      ((ctx.regionalTreasuryFor orgId).getD cfg.confederationTreasury, regionAmount amountClaimed)]
  | .shieldFunds .. | .shieldedTransfer .. => []

variable {L : Type} {s s' : State L}

/-- The phase of a commitment. -/
def State.phase (s : State L) (commitment : Bytes32) : Phase :=
  match s.shieldedCommitments.get commitment with
  | none => .absent
  | some true => .active
  | some false => .spent

theorem State.phase_eq_active_iff {commitment : Bytes32} :
    s.phase commitment = .active ↔ s.isActive commitment = true := by
  unfold phase isActive StorageMap.getD
  cases s.shieldedCommitments.get commitment with
  | none => simp
  | some active => cases active <;> simp

/-- The storage before and after a move. -/
structure Moved (s s' : State L) (move : Move) : Prop where
  spendable : ∀ c, move.spends = some c → s.isActive c = true
  unopened : ∀ c, move.opens = some c → move.spends ≠ some c → s.isActive c = false
  withinVaults : move.WithinVaults s.orgVaultBalance
  commitments : s'.shieldedCommitments = move.commitments s.shieldedCommitments
  nullifiers : Marked s.spentNullifiers s'.spentNullifiers move.nullifier
  vaults : s'.orgVaultBalance = move.vaults s.orgVaultBalance
  total : s'.totalShielded = move.total s.totalShielded

theorem phase_of_active {c : Bytes32} (h : s.shieldedCommitments.get c = some true) :
    s.phase c = .active := by
  unfold State.phase
  rw [h]

theorem phase_of_spent {c : Bytes32} (h : s.shieldedCommitments.get c = some false) :
    s.phase c = .spent := by
  unfold State.phase
  rw [h]

theorem phase_congr {c : Bytes32}
    (h : s'.shieldedCommitments.get c = s.shieldedCommitments.get c) :
    s'.phase c = s.phase c := by
  unfold State.phase
  rw [h]

/-- **A move is a turn of the phases**: what it spends was active, what it opens was not. -/
theorem Moved.turned {move : Move} (h : Moved s s' move) :
    Phase.Turned s.phase s'.phase move.spends move.opens := by
  have hcommitments := h.commitments
  have hactive : ∀ c, move.spends = some c → s.phase c = .active := fun c hc =>
    State.phase_eq_active_iff.mpr (h.spendable c hc)
  have hinactive : ∀ c, move.opens = some c → move.spends ≠ some c → s.phase c ≠ .active := by
    intro c hopen hspend
    rw [Ne, State.phase_eq_active_iff, h.unopened c hopen hspend]
    exact Bool.false_ne_true
  cases move with
  | enter commitment amount orgId =>
    refine Phase.Turned.opening (hinactive commitment rfl (Option.some_ne_none _).symm) ?_
      fun c hc => ?_
    · apply phase_of_active
      rw [hcommitments]
      exact StorageMap.get_insert_self
    · apply phase_congr
      rw [hcommitments]
      exact StorageMap.get_insert_of_ne hc
  | leave nullifier commitment amount orgId =>
    refine Phase.Turned.spending (hactive commitment rfl) ?_ fun c hc => ?_
    · apply phase_of_spent
      rw [hcommitments]
      exact StorageMap.get_insert_self
    · apply phase_congr
      rw [hcommitments]
      exact StorageMap.get_insert_of_ne hc
  | pass nullifier input output =>
    -- the output is written last, so that an input which is the output is active again
    have hget : ∀ c, s'.shieldedCommitments.get c = if c = output then some true
        else if c = input then some false else s.shieldedCommitments.get c := by
      intro c
      rw [hcommitments]
      exact StorageMap.get_insert.trans (by rw [StorageMap.get_insert])
    refine ⟨hactive, hinactive, ?_, ?_, ?_⟩
    · intro c hspend hopen
      obtain rfl : input = c := Option.some.inj hspend
      have hne : input ≠ output := fun he => hopen (congrArg some he.symm)
      exact phase_of_spent ((hget input).trans (by rw [if_neg hne, if_pos rfl]))
    · intro c hopen
      obtain rfl : output = c := Option.some.inj hopen
      exact phase_of_active ((hget output).trans (if_pos rfl))
    · intro c hspend hopen
      have hne : c ≠ output := fun he => hopen (congrArg some he.symm)
      have hne' : c ≠ input := fun he => hspend (congrArg some he.symm)
      exact phase_congr ((hget c).trans (by rw [if_neg hne, if_neg hne']))

/-! ### Inversion -/

section Calls

variable {AccountId : Type} {cfg : Config AccountId} {ctx : Context AccountId}
  {nullifier inputCommitment newCommitment commitment : Bytes32} {amount id : ℕ}
  {orgId : Option ℕ} {recipient : AccountId}

theorem ensureSpendable_bind_eq_ok {α : Type} {k : Unit → Result α} {a : α} :
    (ensureSpendable nullifier commitment s >>= k) = .ok a ↔
      s.spentNullifiers.get nullifier = none ∧ s.isActive commitment = true ∧ k () = .ok a := by
  rw [bind_eq_ok]
  simp only [ensureSpendable, ensure_bind_eq_ok, ensure_eq_ok]
  constructor
  · rintro ⟨u, ⟨hfresh, hactive⟩, hk⟩
    exact ⟨hfresh, hactive, hk⟩
  · rintro ⟨hfresh, hactive, hk⟩
    exact ⟨(), ⟨hfresh, hactive⟩, hk⟩

theorem toBalance_bind_eq_ok {α : Type} {k : ℕ → Result α} {a : α} :
    (toBalance amount >>= k) = .ok a ↔ amount ≤ u128Max ∧ k amount = .ok a := by
  rw [bind_eq_ok]
  simp only [toBalance, ensure_bind_eq_ok, pure_eq_ok]
  constructor
  · rintro ⟨_, ⟨hle, rfl⟩, hk⟩
    exact ⟨hle, hk⟩
  · rintro ⟨hle, hk⟩
    exact ⟨amount, ⟨hle, rfl⟩, hk⟩

theorem shieldedTransfer_eq_ok (orgId : Option ℕ) :
    shieldedTransfer ctx nullifier inputCommitment newCommitment orgId s = .ok s' ↔
      (∃ who, ctx.origin = .signed who) ∧ s.spentNullifiers.get nullifier = none ∧
        s.isActive inputCommitment = true ∧
          (spend ctx nullifier inputCommitment s).isActive newCommitment = false ∧
            s' = { spend ctx nullifier inputCommitment s with
              shieldedCommitments := (s.shieldedCommitments.insert inputCommitment false).insert
                newCommitment true } := by
  simp only [shieldedTransfer, ensureSigned_bind_eq_ok, ensureSpendable_bind_eq_ok,
    ensure_bind_eq_ok, pure_eq_ok, eq_comm (a := s'), ← exists_and_right]
  rfl

variable [Currency AccountId L]

theorem shieldFunds_eq_ok : shieldFunds cfg ctx amount commitment orgId s = .ok s' ↔
    ∃ caller, ctx.origin = .signed caller ∧ cfg.isStateAccount caller = false ∧
      s.isActive commitment = false ∧
        ∃ l, Currency.withdraw s.ledger caller amount .keepAlive = .ok l ∧
          s' = { s with
            shieldedCommitments := s.shieldedCommitments.insert commitment true
            orgVaultBalance := creditVault orgId amount s.orgVaultBalance
            totalShielded := saturatingAdd u128Max s.totalShielded amount
            ledger := l } := by
  simp only [shieldFunds, ensureSigned_bind_eq_ok, ensure_bind_eq_ok, mapError_bind_eq_ok,
    pure_eq_ok, eq_comm (a := s')]

/-- The storage an exit leaves, on the ledger `l`. -/
def unshielded (ctx : Context AccountId) (nullifier commitment : Bytes32) (amount : ℕ)
    (orgId : Option ℕ) (s : State L) (l : L) : State L :=
  { spend ctx nullifier commitment s with
    orgVaultBalance := debitVault orgId amount s.orgVaultBalance
    totalShielded := s.totalShielded - amount
    ledger := l }

theorem unshieldToAccount_eq_ok :
    unshieldToAccount ctx nullifier inputCommitment amount recipient orgId s = .ok s' ↔
      (∃ who, ctx.origin = .signed who) ∧ s.spentNullifiers.get nullifier = none ∧
        s.isActive inputCommitment = true ∧ (∀ id ∈ orgId, amount ≤ s.vault id) ∧
          amount ≤ u128Max ∧ s' = unshielded ctx nullifier inputCommitment amount orgId s
            (Currency.depositCreating s.ledger recipient amount) := by
  simp only [unshieldToAccount, ensureSigned_bind_eq_ok, ensureSpendable_bind_eq_ok,
    ensure_bind_eq_ok, toBalance_bind_eq_ok, pure_eq_ok, eq_comm (a := s'), ← exists_and_right]
  rfl

theorem orgUnshieldTaxPayment_eq_ok :
    orgUnshieldTaxPayment cfg ctx id nullifier inputCommitment amount s = .ok s' ↔
      (∃ who, ctx.origin = .signed who) ∧ s.spentNullifiers.get nullifier = none ∧
        s.isActive inputCommitment = true ∧ amount ≤ s.vault id ∧
          confederationAmount amount ≤ u128Max ∧ regionAmount amount ≤ u128Max ∧
            s' = unshielded ctx nullifier inputCommitment amount (some id) s
              (Currency.depositAll s.ledger
                [(cfg.confederationTreasury, confederationAmount amount),
                  ((ctx.regionalTreasuryFor id).getD cfg.confederationTreasury,
                    regionAmount amount)]) := by
  simp only [orgUnshieldTaxPayment, ensureSigned_bind_eq_ok, ensureSpendable_bind_eq_ok,
    ensure_bind_eq_ok, toBalance_bind_eq_ok, pure_eq_ok, eq_comm (a := s'), ← exists_and_right]
  cases ctx.regionalTreasuryFor id <;> rfl

theorem unshieldForTax_eq_ok :
    unshieldForTax ctx nullifier commitment amount recipient s = .ok s' ↔
      s.spentNullifiers.get nullifier = none ∧ s.isActive commitment = true ∧
        amount ≤ u128Max ∧ s' = unshielded ctx nullifier commitment amount none s
          (Currency.depositCreating s.ledger recipient amount) := by
  simp only [unshieldForTax, ensureSpendable_bind_eq_ok, toBalance_bind_eq_ok, pure_eq_ok,
    eq_comm (a := s')]
  rfl

omit [Currency AccountId L] in
/-- An exit that destroys a commitment moves its amount out. -/
theorem moved_unshielded {l : L} (hfresh : s.spentNullifiers.get nullifier = none)
    (hactive : s.isActive commitment = true) (hvault : ∀ id ∈ orgId, amount ≤ s.vault id) :
    Moved s (unshielded ctx nullifier commitment amount orgId s l)
      (.leave nullifier commitment amount orgId) where
  spendable c hc := by
    obtain rfl : commitment = c := Option.some.inj hc
    exact hactive
  unopened c hc := by cases hc
  withinVaults := hvault
  commitments := rfl
  nullifiers := ⟨hfresh, ctx.blockNumber, rfl⟩
  vaults := rfl
  total := rfl

/-- **Every call that succeeds makes its move.** -/
theorem step_moved {x : Extrinsic AccountId} (h : step cfg x s = .ok s') :
    Moved s s' x.2.move := by
  obtain ⟨ctx, call⟩ := x
  cases call with
  | shieldFunds amount commitment orgId =>
    obtain ⟨_, _, _, hinactive, l, _, rfl⟩ := shieldFunds_eq_ok.mp h
    exact
      { spendable := fun c hc => by cases hc
        unopened := fun c hc _ => by
          obtain rfl : commitment = c := Option.some.inj hc
          exact hinactive
        withinVaults := trivial
        commitments := rfl
        nullifiers := rfl
        vaults := rfl
        total := rfl }
  | shieldedTransfer nullifier inputCommitment newCommitment orgId =>
    obtain ⟨_, hfresh, hactive, hinactive, rfl⟩ := (shieldedTransfer_eq_ok orgId).mp h
    exact
      { spendable := fun c hc => by
          obtain rfl : inputCommitment = c := Option.some.inj hc
          exact hactive
        unopened := fun c hc hne => by
          obtain rfl : newCommitment = c := Option.some.inj hc
          have hne' : newCommitment ≠ inputCommitment := fun he => hne (congrArg some he.symm)
          -- destroying the input says nothing about another commitment
          unfold State.isActive spend at hinactive
          rwa [StorageMap.getD_insert, if_neg hne'] at hinactive
        withinVaults := trivial
        commitments := rfl
        nullifiers := ⟨hfresh, ctx.blockNumber, rfl⟩
        vaults := rfl
        total := rfl }
  | unshieldToAccount nullifier inputCommitment amount recipient orgId =>
    obtain ⟨_, hfresh, hactive, hvault, _, rfl⟩ := unshieldToAccount_eq_ok.mp h
    exact moved_unshielded hfresh hactive hvault
  | orgUnshieldTaxPayment id nullifier inputCommitment amount =>
    obtain ⟨_, hfresh, hactive, hvault, _, _, rfl⟩ := orgUnshieldTaxPayment_eq_ok.mp h
    refine moved_unshielded hfresh hactive fun id' hid => ?_
    obtain rfl : id = id' := Option.some.inj hid
    exact hvault
  | unshieldForTax nullifier commitment amount recipient =>
    obtain ⟨hfresh, hactive, _, rfl⟩ := unshieldForTax_eq_ok.mp h
    exact moved_unshielded hfresh hactive fun id hid => by cases hid

/-- **What a successful call does to the ledger**: shielding destroys what enters on the account of
a signer who is no state account; every other call creates its credits. -/
theorem step_ledger {x : Extrinsic AccountId} (h : step cfg x s = .ok s') :
    (∃ who, x.1.origin = .signed who ∧ cfg.isStateAccount who = false ∧ x.2.move.leaving = 0 ∧
        Debited s.ledger s'.ledger who x.2.move.entering) ∨
      (x.2.move.entering = 0 ∧ s'.ledger = Currency.depositAll s.ledger (x.2.credits cfg x.1)) := by
  obtain ⟨ctx, call⟩ := x
  cases call with
  | shieldFunds amount commitment orgId =>
    obtain ⟨who, hwho, hstate, _, l, hl, rfl⟩ := shieldFunds_eq_ok.mp h
    exact Or.inl ⟨who, hwho, hstate, rfl, Currency.withdraw_keepAlive _ _ _ _ hl⟩
  | shieldedTransfer nullifier inputCommitment newCommitment orgId =>
    obtain ⟨_, _, _, _, rfl⟩ := (shieldedTransfer_eq_ok orgId).mp h
    exact Or.inr ⟨rfl, rfl⟩
  | unshieldToAccount nullifier inputCommitment amount recipient orgId =>
    obtain ⟨_, _, _, _, _, rfl⟩ := unshieldToAccount_eq_ok.mp h
    exact Or.inr ⟨rfl, rfl⟩
  | orgUnshieldTaxPayment id nullifier inputCommitment amount =>
    obtain ⟨_, _, _, _, _, _, rfl⟩ := orgUnshieldTaxPayment_eq_ok.mp h
    exact Or.inr ⟨rfl, rfl⟩
  | unshieldForTax nullifier commitment amount recipient =>
    obtain ⟨_, _, _, rfl⟩ := unshieldForTax_eq_ok.mp h
    exact Or.inr ⟨rfl, rfl⟩

omit [Currency AccountId L] in
/-- The credits of a call add up to what it moves out of the pool. -/
theorem sum_credits (cfg : Config AccountId) (ctx : Context AccountId) (call : Call AccountId) :
    ((call.credits cfg ctx).map Prod.snd).sum = call.move.leaving := by
  have hle : ∀ n, regionAmount n ≤ n := by
    intro n
    unfold regionAmount saturatingMul
    omega
  cases call with
  | orgUnshieldTaxPayment id nullifier inputCommitment amount =>
    exact Nat.sub_add_cancel (hle amount)
  | _ => rfl

end Calls

end ShieldedVaults
