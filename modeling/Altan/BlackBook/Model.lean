import Altan.Identity.Model

/-!
# The black book

Root condemns a citizen who is neither an academician nor an active delegate: the citizen is
exiled, the free balance goes to the treasury, and the name to the wall of shame. A bounty on a
fugitive is kept on the fugitive's own account; it is seeded by the treasury, grows by donations,
and is paid to the hunter some time after the capture.

## Main definitions

* `CrimeRecord`, `FugitiveStatus`, `LockedPayout`: what is recorded of the condemned
* `Storage`, `State`: the storage, and with it the citizens behind the bridge
* `condemnAndIssueWarrant` and the other dispatchables
-/

open Bounded Dispatch Ledger

namespace BlackBook

/-- The errors of the module, and those it passes on from the citizens. -/
inductive Error
  | notInBlackBook
  | notAtLarge
  | alreadyCaptured
  | targetNotCondemned
  | treasuryInsufficientFunds
  | insufficientBalance
  | emptyBountyPool
  | bountyPayoutNotFound
  | bountyPayoutStillLocked
  | bountyAlreadyLocked
  | requiresImpeachment
  | identity (e : Identity.Error)
  deriving DecidableEq, Repr

/-- The outcome of a function of the module. -/
abbrev Result (α : Type) := Except (DispatchError Error) α

/-- The kinds of crimes. -/
inductive CrimeCategory
  | corruption
  | warCrime
  | highTreason
  | grandTheft
  deriving DecidableEq, Repr

/-- Whether a fugitive has been caught. -/
inductive FugitiveStatus
  | atLarge
  | captured
  deriving DecidableEq, Repr

/-- What is recorded of the condemned. -/
structure CrimeRecord where
  category : CrimeCategory
  verdictHash : Bytes32
  timestamp : ℕ
  fugitiveStatus : Option FugitiveStatus
  deriving DecidableEq

/-- A bounty that waits to be paid. -/
structure LockedPayout (AccountId : Type) where
  bountyHunter : AccountId
  unlockBlock : ℕ
  amount : ℕ
  deriving DecidableEq

/-- The constants of the module. -/
structure Config (AccountId L : Type) where
  stateTreasury : AccountId
  bountyLockPeriod : ℕ
  identity : Identity.Config AccountId L

/-- What a call is dispatched with: its origin, the current block, and who is in the academy. -/
structure Context (AccountId : Type) where
  origin : Origin AccountId
  now : ℕ
  isAcademician : AccountId → Bool

/-- The storage of the module. -/
structure Storage (AccountId : Type) where
  wallOfShame : StorageMap AccountId CrimeRecord
  bountyPools : StorageMap AccountId ℕ
  lockedBountyPayouts : StorageMap AccountId (LockedPayout AccountId)

/-- The storage, and the citizens behind the bridge. -/
structure State (AccountId L : Type) extends Storage AccountId where
  identity : Identity.State AccountId L

variable {AccountId L : Type}

/-- The storage before any call. -/
def genesis : Storage AccountId where
  wallOfShame := ∅
  bountyPools := ∅
  lockedBountyPayouts := ∅

variable [DecidableEq AccountId]

/-- An active delegate of a Khural or of the confederation. -/
def isActiveKhuralDelegate (s : State AccountId L) (who : AccountId) : Bool :=
  match s.identity.citizens.get who with
  | some r =>
    r.status = .active && (r.role = .khuralDelegate || r.role = .confederationDelegate)
  | none => false

section Dispatchables

variable [Currency AccountId L]

/-- The storage with the ledger after an operation. -/
def State.withLedger (s : State AccountId L) (ledger : L) : State AccountId L :=
  { s with identity := { s.identity with ledger := ledger } }

/-- Move all of a free balance to the treasury. -/
def confiscate (cfg : Config AccountId L) (target : AccountId) (ledger : L) : Result L :=
  let targetFree := freeBalance ledger target
  if 0 < targetFree then
    liftCurrency (Currency.transfer ledger target cfg.stateTreasury targetFree .allowDeath)
  else .ok ledger

/-- Put a bounty on a fugitive from the treasury. -/
def seedBounty (cfg : Config AccountId L) (target : AccountId) (isFugitive : Bool)
    (initialBounty : ℕ) (s : State AccountId L) : Result (State AccountId L) :=
  if isFugitive = true ∧ 0 < initialBounty then do
    let ledger ←
      (Currency.transfer s.identity.ledger cfg.stateTreasury target initialBounty
        .keepAlive).mapError fun _ => .module .treasuryInsufficientFunds
    return { s.withLedger ledger with
      bountyPools := s.bountyPools.insert target initialBounty }
  else
    return s

/-- Condemn a citizen, as root, and put a bounty on a fugitive. -/
def condemnAndIssueWarrant (cfg : Config AccountId L) (ctx : Context AccountId)
    (target : AccountId) (category : CrimeCategory) (verdictHash : Bytes32) (isFugitive : Bool)
    (initialBounty : ℕ) (s : State AccountId L) : Result (State AccountId L) := do
  ensureRoot ctx.origin
  ensure (ctx.isAcademician target = false) (.module .requiresImpeachment)
  ensure (isActiveKhuralDelegate s target = false) (.module .requiresImpeachment)
  let identity ← (Identity.doExile cfg.identity target s.identity).mapError
    (DispatchError.map .identity)
  let ledger ← confiscate cfg target identity.ledger
  seedBounty cfg target isFugitive initialBounty { s with
    identity := { identity with ledger := ledger }
    wallOfShame := s.wallOfShame.insert target
      { category := category
        verdictHash := verdictHash
        timestamp := ctx.now
        fugitiveStatus := if isFugitive then some .atLarge else none } }

/-- Add to the bounty on a fugitive. -/
def donateToBounty (ctx : Context AccountId) (targetFugitive : AccountId) (amount : ℕ)
    (s : State AccountId L) : Result (State AccountId L) := do
  let donor ← ensureSigned ctx.origin
  let record ← required (s.wallOfShame.get targetFugitive) (.module .targetNotCondemned)
  ensure (record.fugitiveStatus ≠ some .captured) (.module .alreadyCaptured)
  ensure (record.fugitiveStatus ≠ none) (.module .notAtLarge)
  let ledger ←
    (Currency.transfer s.identity.ledger donor targetFugitive amount .keepAlive).mapError
      fun _ => .module .insufficientBalance
  let current := s.bountyPools.getD targetFugitive 0
  return { s.withLedger ledger with
    bountyPools := s.bountyPools.insert targetFugitive (saturatingAdd u128Max current amount) }

/-- Register the capture of a fugitive, as root, and lock the bounty for the hunter. -/
def registerCaptureAndPayout (cfg : Config AccountId L) (ctx : Context AccountId)
    (targetFugitive bountyHunter : AccountId) (s : State AccountId L) :
    Result (State AccountId L) := do
  ensureRoot ctx.origin
  let record ← required (s.wallOfShame.get targetFugitive) (.module .notInBlackBook)
  ensure (record.fugitiveStatus = some .atLarge) (.module .notAtLarge)
  ensure (s.lockedBountyPayouts.containsKey targetFugitive = false)
    (.module .bountyAlreadyLocked)
  let poolAmount ← required (s.bountyPools.get targetFugitive) (.module .emptyBountyPool)
  ensure (0 < poolAmount) (.module .emptyBountyPool)
  return { s with
    wallOfShame := s.wallOfShame.insert targetFugitive
      { record with fugitiveStatus := some .captured }
    lockedBountyPayouts := s.lockedBountyPayouts.insert targetFugitive
      { bountyHunter := bountyHunter
        unlockBlock := saturatingAdd u32Max ctx.now cfg.bountyLockPeriod
        amount := poolAmount }
    bountyPools := s.bountyPools.remove targetFugitive }

/-- Pay a bounty whose time has come. -/
def claimBountyPayout (ctx : Context AccountId) (targetFugitive : AccountId)
    (s : State AccountId L) : Result (State AccountId L) := do
  let _ ← ensureSigned ctx.origin
  let locked ← required (s.lockedBountyPayouts.get targetFugitive) (.module .bountyPayoutNotFound)
  ensure (locked.unlockBlock ≤ ctx.now) (.module .bountyPayoutStillLocked)
  let ledger ← liftCurrency (Currency.transfer s.identity.ledger targetFugitive
    locked.bountyHunter locked.amount .allowDeath)
  return { s.withLedger ledger with
    lockedBountyPayouts := s.lockedBountyPayouts.remove targetFugitive }

/-- Cancel a bounty that waits to be paid, as root. -/
def cancelBountyPayout (ctx : Context AccountId) (targetFugitive : AccountId)
    (s : State AccountId L) : Result (State AccountId L) := do
  ensureRoot ctx.origin
  let _ ← required (s.lockedBountyPayouts.get targetFugitive) (.module .bountyPayoutNotFound)
  return { s with lockedBountyPayouts := s.lockedBountyPayouts.remove targetFugitive }

/-! ### Dispatch -/

/-- The dispatchables with their arguments. -/
inductive Call (AccountId : Type)
  | condemnAndIssueWarrant (target : AccountId) (category : CrimeCategory) (verdictHash : Bytes32)
    (isFugitive : Bool) (initialBounty : ℕ)
  | donateToBounty (targetFugitive : AccountId) (amount : ℕ)
  | registerCaptureAndPayout (targetFugitive bountyHunter : AccountId)
  | claimBountyPayout (targetFugitive : AccountId)
  | cancelBountyPayout (targetFugitive : AccountId)
  deriving DecidableEq

/-- Dispatch a call. -/
def dispatch (cfg : Config AccountId L) (ctx : Context AccountId) :
    Call AccountId → State AccountId L → Result (State AccountId L)
  | .condemnAndIssueWarrant target category verdictHash isFugitive initialBounty =>
    condemnAndIssueWarrant cfg ctx target category verdictHash isFugitive initialBounty
  | .donateToBounty targetFugitive amount => donateToBounty ctx targetFugitive amount
  | .registerCaptureAndPayout targetFugitive bountyHunter =>
    registerCaptureAndPayout cfg ctx targetFugitive bountyHunter
  | .claimBountyPayout targetFugitive => claimBountyPayout ctx targetFugitive
  | .cancelBountyPayout targetFugitive => cancelBountyPayout ctx targetFugitive

end Dispatchables

end BlackBook
