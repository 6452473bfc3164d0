import Altan.Foundation.Arithmetic
import Altan.Foundation.Currency
import Altan.Foundation.Dispatch
import Altan.Foundation.Lifecycle
import Altan.Foundation.Scale
import Altan.Foundation.StorageMap

/-!
# The mixer

Funds are deposited under a commitment into one pool account and withdrawn from it, by a relayer,
to any recipient. The pool receives exactly what is deposited; a fee on top goes to four accounts.
The amount is not stored with the commitment: a withdrawal names its own. A commitment is active
until its withdrawal, and spent for good after it; a withdrawal takes a fresh nullifier.

## Main definitions

* `Config`, `State`: the constants and the storage
* `calculateTotalFee`: the fee on a deposit
* `Call`, `dispatch`: the dispatchables
* `Denominated`: an amount the mixer takes
* `Call.spends`, `Call.opens`: what a call does to commitments
* `State.phase`: the phase of a commitment
* `feeTo`: what an account receives of the fee

## Main results

* `deposit_eq_ok`, `withdraw_eq_ok`: what a successful call has checked and changed
* `step_turned`: the commitments
* `DepositPaid.free`: the balances after a deposit
-/

open Bounded Dispatch

namespace Mixer

/-- The errors of the module. -/
inductive Error
  | commitmentAlreadyExists
  | commitmentNotFound
  | nullifierAlreadySpent
  | arithmeticOverflow
  | insufficientFunds
  | poolTransferFailed
  | depositTooSmall
  | invalidDenomination
  | auditAlreadySigned
  deriving DecidableEq, Repr

/-- The outcome of a function of the module. -/
abbrev Result (α : Type) := Except (DispatchError Error) α

/-- Whether a commitment is in the pool or has been withdrawn. -/
inductive CommitmentState
  | active
  | spent
  deriving DecidableEq, Repr

/-- The disclosure of a transaction under a warrant. -/
structure RevealRecord (AccountId : Type) where
  timestamp : ℕ
  authorizedBy : AccountId
  targetCommitment : Bytes32
  warrantId : List UInt8
  deriving DecidableEq

/-- The constants of the module. Fees are in parts per million. -/
structure Config (AccountId : Type) where
  poolAccount : AccountId
  mixerDenomination : ℕ
  mixerFeePermill : ℕ
  baseFeePermill : ℕ
  maxMixerFee : ℕ
  khuralFoundationAccount : AccountId
  inomadAgAccount : AccountId
  creatorAccount : AccountId
  validatorsPoolAccount : AccountId

/-- What a call is dispatched with: its origin, the block, and the accounts that origins pass as
with the relayer and with the bank board, and which pass with the Khural, at the time. -/
structure Context (AccountId : Type) where
  origin : Origin AccountId
  blockNumber : ℕ
  relayerOrigin : Origin AccountId → Option AccountId
  bankBoardOrigin : Origin AccountId → Option AccountId
  khuralOrigin : Origin AccountId → Bool

/-- The storage of the module, and the ledger. -/
structure State (AccountId L : Type) where
  commitments : StorageMap Bytes32 CommitmentState
  spentNullifiers : StorageMap Bytes32 ℕ
  poolLeafCount : ℕ
  auditLogId : ℕ
  auditLogs : StorageMap ℕ (RevealRecord AccountId)
  quarterlyAudits : StorageMap ℕ Bytes32
  ledger : L

variable {AccountId L : Type}

/-- The storage before any call, on a ledger. -/
def genesis (ledger : L) : State AccountId L where
  commitments := ∅
  spentNullifiers := ∅
  poolLeafCount := 0
  auditLogId := 0
  auditLogs := ∅
  quarterlyAudits := ∅
  ledger := ledger

/-- Some parts per million of an amount, rounded down. -/
def permillMulFloor (parts amount : ℕ) : ℕ := amount * parts / 1000000

/-- The fee on a deposit: the base fee and the privacy fee, with a cap. -/
def calculateTotalFee (cfg : Config AccountId) (amount : ℕ) : ℕ :=
  let baseFee := permillMulFloor cfg.baseFeePermill amount
  let privacyFee := permillMulFloor cfg.mixerFeePermill amount
  let raw := saturatingAdd u128Max baseFee privacyFee
  min raw cfg.maxMixerFee

/-- The share of a fee for the company, twenty-six parts in a hundred. -/
def agShare (totalFee : ℕ) : ℕ := permillMulFloor 260000 totalFee

/-- The share of a fee for the creator, a tenth. -/
def creatorShare (totalFee : ℕ) : ℕ := permillMulFloor 100000 totalFee

/-- The share of a fee for the validators, a tenth. -/
def valShare (totalFee : ℕ) : ℕ := permillMulFloor 100000 totalFee

/-- The share of a fee for the Khural, the rest. -/
def khuralShare (totalFee : ℕ) : ℕ :=
  totalFee - agShare totalFee - creatorShare totalFee - valShare totalFee

/-- The checks on an amount: it is a positive multiple of the denomination. -/
def ensureDenomination (cfg : Config AccountId) (amount : ℕ) : Result Unit := do
  ensure (cfg.mixerDenomination ≤ amount) (.module .depositTooSmall)
  -- a remainder by zero panics
  ensure (cfg.mixerDenomination ≠ 0) .panic
  ensure (amount % cfg.mixerDenomination = 0) (.module .invalidDenomination)

section Funds

variable [Currency AccountId L]

/-- A transfer from the depositor that leaves the depositor alive. -/
def payDeposit (depositor dest : AccountId) (amount : ℕ) (ledger : L) : Result L :=
  (Currency.transfer ledger depositor dest amount .keepAlive).mapError
    fun _ => .module .insufficientFunds

/-- A transfer of a share of the fee, unless the share is nothing. -/
def payShare (depositor dest : AccountId) (share : ℕ) (ledger : L) : Result L :=
  if 0 < share then payDeposit depositor dest share ledger else .ok ledger

/-- Deposit an amount under a commitment, with the fee on top of it. -/
def deposit (cfg : Config AccountId) (ctx : Context AccountId) (amount : ℕ)
    (commitment : Bytes32) (_encryptedAuditPayload : List UInt8) (s : State AccountId L) :
    Result (State AccountId L) := do
  let depositor ← ensureSigned ctx.origin
  ensureDenomination cfg amount
  ensure (s.commitments.get commitment = none) (.module .commitmentAlreadyExists)
  let totalFee := calculateTotalFee cfg amount
  let ledger ← payDeposit depositor cfg.poolAccount amount s.ledger
  let ledger ← payShare depositor cfg.inomadAgAccount (agShare totalFee) ledger
  let ledger ← payShare depositor cfg.creatorAccount (creatorShare totalFee) ledger
  let ledger ← payShare depositor cfg.validatorsPoolAccount (valShare totalFee) ledger
  let ledger ← payShare depositor cfg.khuralFoundationAccount (khuralShare totalFee) ledger
  return { s with
    commitments := s.commitments.insert commitment .active
    poolLeafCount := saturatingAdd u64Max s.poolLeafCount 1
    ledger := ledger }

/-- Withdraw an amount from the pool to a recipient, as the relayer. -/
def withdraw (cfg : Config AccountId) (ctx : Context AccountId) (nullifier commitment : Bytes32)
    (recipient : AccountId) (amount : ℕ) (s : State AccountId L) :
    Result (State AccountId L) := do
  let _relayer ← required (ctx.relayerOrigin ctx.origin) .badOrigin
  ensureDenomination cfg amount
  ensure (s.spentNullifiers.get nullifier = none) (.module .nullifierAlreadySpent)
  ensure (s.commitments.get commitment = some .active) (.module .commitmentNotFound)
  let s := { s with
    commitments := s.commitments.insert commitment .spent
    spentNullifiers := s.spentNullifiers.insert nullifier ctx.blockNumber
    poolLeafCount := s.poolLeafCount - 1 }
  -- a failure here undoes the writes above
  let ledger ← (Currency.transfer s.ledger cfg.poolAccount recipient amount .keepAlive).mapError
    fun _ => .module .poolTransferFailed
  return { s with ledger := ledger }

end Funds

/-- Record the disclosure of a transaction under a warrant, as the bank board. -/
def revealTransaction (ctx : Context AccountId) (targetCommitment : Bytes32)
    (warrantId : List UInt8) (s : State AccountId L) : Result (State AccountId L) := do
  let authorizedBy ← required (ctx.bankBoardOrigin ctx.origin) .badOrigin
  return { s with
    auditLogs := s.auditLogs.insert s.auditLogId
      { timestamp := ctx.blockNumber
        authorizedBy := authorizedBy
        targetCommitment := targetCommitment
        warrantId := warrantId }
    auditLogId := saturatingAdd u64Max s.auditLogId 1 }

/-- Sign the audit report of a quarter, as the Khural. -/
def submitQuarterlyAudit (ctx : Context AccountId) (quarterId : ℕ) (reportHash : Bytes32)
    (s : State AccountId L) : Result (State AccountId L) := do
  ensure (ctx.khuralOrigin ctx.origin = true) .badOrigin
  ensure (s.quarterlyAudits.get quarterId = none) (.module .auditAlreadySigned)
  return { s with quarterlyAudits := s.quarterlyAudits.insert quarterId reportHash }

/-! ### Dispatch -/

/-- The dispatchables with their arguments. -/
inductive Call (AccountId : Type)
  | deposit (amount : ℕ) (commitment : Bytes32) (encryptedAuditPayload : List UInt8)
  | withdraw (nullifier commitment : Bytes32) (recipient : AccountId) (amount : ℕ)
  | revealTransaction (targetCommitment : Bytes32) (warrantId : List UInt8)
  | submitQuarterlyAudit (quarterId : ℕ) (reportHash : Bytes32)
  deriving DecidableEq

variable [Currency AccountId L]

/-- Dispatch a call. -/
def dispatch (cfg : Config AccountId) (ctx : Context AccountId) :
    Call AccountId → State AccountId L → Result (State AccountId L)
  | .deposit amount commitment encryptedAuditPayload =>
    deposit cfg ctx amount commitment encryptedAuditPayload
  | .withdraw nullifier commitment recipient amount =>
    withdraw cfg ctx nullifier commitment recipient amount
  | .revealTransaction targetCommitment warrantId => revealTransaction ctx targetCommitment warrantId
  | .submitQuarterlyAudit quarterId reportHash => submitQuarterlyAudit ctx quarterId reportHash

/-- A dispatched call: its context and the call itself. -/
abbrev Extrinsic (AccountId : Type) := Context AccountId × Call AccountId

/-- One extrinsic as a step of the state machine. -/
def step (cfg : Config AccountId) (x : Extrinsic AccountId) (s : State AccountId L) :
    Result (State AccountId L) :=
  dispatch cfg x.1 x.2 s

end Mixer

/-! ### What the calls do

The checks and changes of every call, the phases of the commitments, and the balances after the
transfers of a deposit. -/

open Ledger

namespace Mixer

section Kinds

variable {AccountId : Type}

/-- The commitment a call withdraws. -/
def Call.spends : Call AccountId → Option Bytes32
  | .withdraw _ commitment _ _ => some commitment
  | _ => none

/-- The commitment a call deposits under. -/
def Call.opens : Call AccountId → Option Bytes32
  | .deposit _ commitment _ => some commitment
  | _ => none

end Kinds

variable {AccountId L : Type} {cfg : Config AccountId} {ctx : Context AccountId}
  {s s' : State AccountId L} {l l' : L} {amount quarterId : ℕ} {nullifier commitment : Bytes32}
  {who dest recipient : AccountId} {payload : List UInt8}

/-- The amount is a positive multiple of the denomination. -/
structure Denominated (cfg : Config AccountId) (amount : ℕ) : Prop where
  le : cfg.mixerDenomination ≤ amount
  ne_zero : cfg.mixerDenomination ≠ 0
  mod_eq : amount % cfg.mixerDenomination = 0

theorem ensureDenomination_bind_eq_ok {α : Type} {k : Unit → Result α} {a : α} :
    (ensureDenomination cfg amount >>= k) = .ok a ↔ Denominated cfg amount ∧ k () = .ok a := by
  rw [bind_eq_ok]
  simp only [ensureDenomination, ensure_bind_eq_ok, ensure_eq_ok]
  constructor
  · rintro ⟨u, ⟨hle, hzero, hmod⟩, hk⟩
    exact ⟨⟨hle, hzero, hmod⟩, hk⟩
  · rintro ⟨⟨hle, hzero, hmod⟩, hk⟩
    exact ⟨(), ⟨hle, hzero, hmod⟩, hk⟩

theorem revealTransaction_eq_ok : revealTransaction ctx commitment payload s = .ok s' ↔
    ∃ authorizedBy, ctx.bankBoardOrigin ctx.origin = some authorizedBy ∧
      s' = { s with
        auditLogs := s.auditLogs.insert s.auditLogId
          { timestamp := ctx.blockNumber
            authorizedBy := authorizedBy
            targetCommitment := commitment
            warrantId := payload }
        auditLogId := saturatingAdd u64Max s.auditLogId 1 } := by
  simp only [revealTransaction, required_bind_eq_ok, pure_eq_ok, eq_comm (a := s')]

theorem submitQuarterlyAudit_eq_ok : submitQuarterlyAudit ctx quarterId commitment s = .ok s' ↔
    ctx.khuralOrigin ctx.origin = true ∧ s.quarterlyAudits.get quarterId = none ∧
      s' = { s with quarterlyAudits := s.quarterlyAudits.insert quarterId commitment } := by
  simp only [submitQuarterlyAudit, ensure_bind_eq_ok, pure_eq_ok, eq_comm (a := s')]

section Funds

variable [Currency AccountId L]

theorem payDeposit_bind_eq_ok {α : Type} {k : L → Result α} {a : α} :
    (payDeposit who dest amount l >>= k) = .ok a ↔
      ∃ l', Currency.transfer l who dest amount .keepAlive = .ok l' ∧ k l' = .ok a :=
  mapError_bind_eq_ok

/-- Paying a share is a transfer, also when nothing is to be paid. -/
theorem payShare_bind_eq_ok {α : Type} {k : L → Result α} {a : α} :
    (payShare who dest amount l >>= k) = .ok a ↔
      ∃ l', Currency.transfer l who dest amount .keepAlive = .ok l' ∧ k l' = .ok a := by
  unfold payShare
  split
  · exact payDeposit_bind_eq_ok
  · next h =>
    obtain rfl : amount = 0 := Nat.eq_zero_of_not_pos h
    rw [bind_eq_ok, Currency.transfer_noop l who dest 0 .keepAlive (Or.inl rfl)]
    simp only [Except.ok.injEq]

/-- The transfers of a deposit: the amount to the pool, then the shares of the fee. -/
structure DepositPaid (cfg : Config AccountId) (who : AccountId) (amount : ℕ)
    (l l₁ l₂ l₃ l₄ l' : L) : Prop where
  pool : Currency.transfer l who cfg.poolAccount amount .keepAlive = .ok l₁
  ag : Currency.transfer l₁ who cfg.inomadAgAccount
    (agShare (calculateTotalFee cfg amount)) .keepAlive = .ok l₂
  creator : Currency.transfer l₂ who cfg.creatorAccount
    (creatorShare (calculateTotalFee cfg amount)) .keepAlive = .ok l₃
  validators : Currency.transfer l₃ who cfg.validatorsPoolAccount
    (valShare (calculateTotalFee cfg amount)) .keepAlive = .ok l₄
  khural : Currency.transfer l₄ who cfg.khuralFoundationAccount
    (khuralShare (calculateTotalFee cfg amount)) .keepAlive = .ok l'

theorem deposit_eq_ok (payload : List UInt8) : deposit cfg ctx amount commitment payload s = .ok s' ↔
    ∃ depositor, ctx.origin = .signed depositor ∧ Denominated cfg amount ∧
      s.commitments.get commitment = none ∧
        ∃ l₁ l₂ l₃ l₄ l', DepositPaid cfg depositor amount s.ledger l₁ l₂ l₃ l₄ l' ∧
          s' = { s with
            commitments := s.commitments.insert commitment .active
            poolLeafCount := saturatingAdd u64Max s.poolLeafCount 1
            ledger := l' } := by
  simp only [deposit, ensureSigned_bind_eq_ok, ensureDenomination_bind_eq_ok, ensure_bind_eq_ok,
    payDeposit_bind_eq_ok, payShare_bind_eq_ok, pure_eq_ok, eq_comm (a := s')]
  constructor
  · rintro ⟨depositor, hwho, hamount, hnew, l₁, h₁, l₂, h₂, l₃, h₃, l₄, h₄, l', h₅, hs'⟩
    exact ⟨depositor, hwho, hamount, hnew, l₁, l₂, l₃, l₄, l', ⟨h₁, h₂, h₃, h₄, h₅⟩, hs'⟩
  · rintro ⟨depositor, hwho, hamount, hnew, l₁, l₂, l₃, l₄, l', ⟨h₁, h₂, h₃, h₄, h₅⟩, hs'⟩
    exact ⟨depositor, hwho, hamount, hnew, l₁, h₁, l₂, h₂, l₃, h₃, l₄, h₄, l', h₅, hs'⟩

theorem withdraw_eq_ok : withdraw cfg ctx nullifier commitment recipient amount s = .ok s' ↔
    ∃ relayer, ctx.relayerOrigin ctx.origin = some relayer ∧ Denominated cfg amount ∧
      s.spentNullifiers.get nullifier = none ∧ s.commitments.get commitment = some .active ∧
        ∃ l', Currency.transfer s.ledger cfg.poolAccount recipient amount .keepAlive = .ok l' ∧
          s' = { s with
            commitments := s.commitments.insert commitment .spent
            spentNullifiers := s.spentNullifiers.insert nullifier ctx.blockNumber
            poolLeafCount := s.poolLeafCount - 1
            ledger := l' } := by
  simp only [withdraw, required_bind_eq_ok, ensureDenomination_bind_eq_ok, ensure_bind_eq_ok,
    mapError_bind_eq_ok, pure_eq_ok, eq_comm (a := s')]

end Funds

/-! ### Commitments and nullifiers -/

/-- The phase of a commitment. -/
def State.phase (s : State AccountId L) (commitment : Bytes32) : Phase :=
  match s.commitments.get commitment with
  | none => .absent
  | some .active => .active
  | some .spent => .spent

theorem phase_of_none (h : s.commitments.get commitment = none) : s.phase commitment = .absent := by
  unfold State.phase
  rw [h]

theorem phase_of_active (h : s.commitments.get commitment = some .active) :
    s.phase commitment = .active := by
  unfold State.phase
  rw [h]

theorem phase_of_spent (h : s.commitments.get commitment = some .spent) :
    s.phase commitment = .spent := by
  unfold State.phase
  rw [h]

theorem phase_congr (h : s'.commitments.get commitment = s.commitments.get commitment) :
    s'.phase commitment = s.phase commitment := by
  unfold State.phase
  rw [h]

variable [Currency AccountId L]

/-- **Every accepted call is a turn of the phases.** -/
theorem step_turned (x : Extrinsic AccountId) (s s' : State AccountId L)
    (h : step cfg x s = .ok s') : Phase.Turned s.phase s'.phase x.2.spends x.2.opens := by
  obtain ⟨ctx, call⟩ := x
  cases call with
  | deposit amount commitment payload =>
    obtain ⟨_, _, _, hnew, l₁, l₂, l₃, l₄, l', _, rfl⟩ := (deposit_eq_ok payload).mp h
    refine Phase.Turned.opening ?_ (phase_of_active StorageMap.get_insert_self)
      fun c hc => phase_congr (StorageMap.get_insert_of_ne hc)
    rw [phase_of_none hnew]
    exact Phase.noConfusion
  | withdraw nullifier commitment recipient amount =>
    obtain ⟨_, _, _, _, hactive, l', _, rfl⟩ := withdraw_eq_ok.mp h
    exact Phase.Turned.spending (phase_of_active hactive)
      (phase_of_spent StorageMap.get_insert_self)
      fun c hc => phase_congr (StorageMap.get_insert_of_ne hc)
  | revealTransaction targetCommitment warrantId =>
    obtain ⟨_, _, rfl⟩ := revealTransaction_eq_ok.mp h
    exact Phase.Turned.unchanged fun c => rfl
  | submitQuarterlyAudit quarterId reportHash =>
    obtain ⟨_, _, rfl⟩ := submitQuarterlyAudit_eq_ok.mp h
    exact Phase.Turned.unchanged fun c => rfl

/-- A deposit is under an absent commitment. -/
theorem step_opens_absent {x : Extrinsic AccountId} (h : step cfg x s = .ok s') :
    Phase.OpensAbsent State.phase (fun x : Extrinsic AccountId => x.2.opens) s x := by
  obtain ⟨ctx, call⟩ := x
  intro c hc
  cases call with
  | deposit amount commitment payload =>
    obtain ⟨_, _, _, hnew, _⟩ := (deposit_eq_ok payload).mp h
    obtain rfl : commitment = c := Option.some.inj hc
    exact phase_of_none hnew
  | withdraw nullifier commitment recipient amount => cases hc
  | revealTransaction targetCommitment warrantId => cases hc
  | submitQuarterlyAudit quarterId reportHash => cases hc

/-! ### The balances after a deposit -/

theorem shares_sum (totalFee : ℕ) :
    agShare totalFee + creatorShare totalFee + valShare totalFee + khuralShare totalFee =
      totalFee := by
  unfold khuralShare agShare creatorShare valShare permillMulFloor
  omega

variable [DecidableEq AccountId]

/-- What an account receives of the fee on a deposit. -/
def feeTo (cfg : Config AccountId) (amount : ℕ) (account : AccountId) : ℕ :=
  let totalFee := calculateTotalFee cfg amount
  (if account = cfg.inomadAgAccount then agShare totalFee else 0) +
    (if account = cfg.creatorAccount then creatorShare totalFee else 0) +
    (if account = cfg.validatorsPoolAccount then valShare totalFee else 0) +
    (if account = cfg.khuralFoundationAccount then khuralShare totalFee else 0)

/-- **The balances after a deposit.** The depositor pays the amount and the fee, the pool receives
the amount, and the fee is shared out. -/
theorem DepositPaid.free {l₁ l₂ l₃ l₄ : L} (h : DepositPaid cfg who amount l l₁ l₂ l₃ l₄ l')
    (c : AccountId) :
    freeBalance l' c + (if c = who then amount + calculateTotalFee cfg amount else 0) =
      freeBalance l c + (if c = cfg.poolAccount then amount else 0) + feeTo cfg amount c := by
  have h₁ := Currency.transfer_keepAlive_free h.pool c
  have h₂ := Currency.transfer_keepAlive_free h.ag c
  have h₃ := Currency.transfer_keepAlive_free h.creator c
  have h₄ := Currency.transfer_keepAlive_free h.validators c
  have h₅ := Currency.transfer_keepAlive_free h.khural c
  have hsum := shares_sum (calculateTotalFee cfg amount)
  unfold feeTo
  by_cases hc : c = who
  · simp only [if_pos hc] at h₁ h₂ h₃ h₄ h₅ ⊢
    omega
  · simp only [if_neg hc] at h₁ h₂ h₃ h₄ h₅ ⊢
    omega

omit [DecidableEq AccountId] in
/-- A deposit changes no lock. -/
theorem DepositPaid.lockAmount [LockableCurrency AccountId L] {l₁ l₂ l₃ l₄ : L}
    (h : DepositPaid cfg who amount l l₁ l₂ l₃ l₄ l') (id : LockIdentifier) (c : AccountId) :
    Ledger.lockAmount l' id c = Ledger.lockAmount l id c := by
  rw [LockableCurrency.transfer_lock _ _ _ _ _ _ h.khural,
    LockableCurrency.transfer_lock _ _ _ _ _ _ h.validators,
    LockableCurrency.transfer_lock _ _ _ _ _ _ h.creator,
    LockableCurrency.transfer_lock _ _ _ _ _ _ h.ag,
    LockableCurrency.transfer_lock _ _ _ _ _ _ h.pool]

end Mixer
