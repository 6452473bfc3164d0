import Altan.Foundation.BoundedVec
import Altan.Foundation.Dispatch
import Altan.Foundation.Escrow
import Altan.Foundation.Iteration
import Altan.Identity.Model

/-!
# The Khural

An active citizen proposes that the treasury of the own nation pays a beneficiary, and the citizens
of the nation vote until the deadline. From then on the proposal is enacted, by the start of a block
or by anybody's call: it is executed when enough approve, more than are against and the treasury
pays, and rejected otherwise.

An academician submits an expert bill and deposits an amount for it. Leaders of an Arbad and above
vote on the bill, and anybody finalises it: three approvals pass it and give the deposit back, else
the deposit is burned.

## Main definitions

* `Proposal`, `ExpertBill`: what is voted on
* `Config`, `Context`, `State`: the constants, what a call is dispatched with, and the storage
* `enactProposal`, `onInitialize`: the end of a vote
* `Call`, `dispatch`: the dispatchables
-/

open Bounded Dispatch Ledger Identity

namespace KhuralGovernance

/-- The errors of the module. -/
inductive Error
  | notRegistered
  | citizenInactive
  | insufficientRole
  | wrongNation
  | proposalNotFound
  | proposalNotActive
  | alreadyVoted
  | treasuryNotFound
  | mathOverflow
  | notAcademician
  | expertBillNotFound
  | expertBillNotActive
  | industryTagTooLong
  | insufficientBalance
  | depositNotFound
  deriving DecidableEq, Repr

/-- The outcome of a function of the module. -/
abbrev Result (α : Type) := Except (DispatchError Error) α

/-- The state of a proposal or a bill. -/
inductive ProposalStatus
  | active
  | executed
  | rejected
  deriving DecidableEq, Repr

/-- The kind of a bill. -/
inductive BillInitiativeType
  | standard
  | expertInitiative
  deriving DecidableEq, Repr

/-- A proposal that the treasury of a nation pays a beneficiary. -/
structure Proposal (AccountId : Type) where
  proposer : AccountId
  nationId : ℕ
  amount : ℕ
  beneficiary : AccountId
  votesFor : ℕ
  votesAgainst : ℕ
  status : ProposalStatus
  endBlock : ℕ
  constitutionalBasis : Option Bytes32
  deriving DecidableEq

/-- A bill submitted by an academician. -/
structure ExpertBill (AccountId : Type) where
  proposer : AccountId
  billHash : Bytes32
  industryTag : BoundedVec UInt8 64
  initiativeType : BillInitiativeType
  status : ProposalStatus
  votesFor : ℕ
  votesAgainst : ℕ
  deriving DecidableEq

/-- The constants of the module, the treasuries of the nations, which are set at genesis, and the
order in which proposals are visited. -/
structure Config (AccountId : Type) where
  expertBillDeposit : ℕ
  votingPeriod : ℕ
  minQuorum : ℕ
  nationTreasuries : BoundedVec AccountId 150
  iterationOrder : IterationOrder ℕ

/-- What a call is dispatched with: its origin, the current block, the citizens, and who is in the
academy. -/
structure Context (AccountId : Type) where
  origin : Origin AccountId
  now : ℕ
  citizens : AccountId → Option CitizenRecord
  isAcademician : AccountId → Bool

/-- The storage of the module, and the ledger it shares. -/
structure State (AccountId L : Type) where
  ledger : L
  proposals : StorageMap ℕ (Proposal AccountId)
  nextProposalId : ℕ
  hasVoted : StorageMap (ℕ × AccountId) Bool
  expertBills : StorageMap ℕ (ExpertBill AccountId)
  nextExpertBillId : ℕ
  hasVotedOnBill : StorageMap (ℕ × AccountId) Bool
  expertBillDepositor : StorageMap ℕ (AccountId × ℕ)

variable {AccountId L : Type}

/-- The storage before any call. -/
def genesis (ledger : L) : State AccountId L where
  ledger := ledger
  proposals := ∅
  nextProposalId := 0
  hasVoted := ∅
  expertBills := ∅
  nextExpertBillId := 0
  hasVotedOnBill := ∅
  expertBillDepositor := ∅

/-- A block number in 32 bits, zero when it does not fit. -/
def currentBlock (now : ℕ) : ℕ := if now ≤ u32Max then now else 0

/-- The ranks that vote on expert bills. -/
def isAtLeastArbadLeader : CitizenRole → Bool
  | .arbadLeader
  | .zunLeader
  | .myangadLeader
  | .tumedLeader
  | .khuralDelegate
  | .confederationDelegate => true
  | .regular
  | .president => false

/-- The record of an active citizen. -/
def validatedCitizen (ctx : Context AccountId) (who : AccountId) : Result CitizenRecord := do
  let record ← required (ctx.citizens who) (.module .notRegistered)
  ensure (record.status = .active) (.module .citizenInactive)
  return record

/-- A proposal with one more vote. -/
def Proposal.withVote (p : Proposal AccountId) (approve : Bool) : Proposal AccountId :=
  if approve then { p with votesFor := saturatingAdd u32Max p.votesFor 1 }
  else { p with votesAgainst := saturatingAdd u32Max p.votesAgainst 1 }

/-- A bill with one more vote. -/
def ExpertBill.withVote (b : ExpertBill AccountId) (approve : Bool) : ExpertBill AccountId :=
  if approve then { b with votesFor := saturatingAdd u32Max b.votesFor 1 }
  else { b with votesAgainst := saturatingAdd u32Max b.votesAgainst 1 }

variable [DecidableEq AccountId]

/-! ### Treasury proposals -/

/-- Propose that the treasury of the own nation pays a beneficiary. -/
def createProposal (cfg : Config AccountId) (ctx : Context AccountId) (nationId amount : ℕ)
    (beneficiary : AccountId) (constitutionalBasis : Option Bytes32) (s : State AccountId L) :
    Result (State AccountId L) := do
  let caller ← ensureSigned ctx.origin
  let citizen ← validatedCitizen ctx caller
  ensure (citizen.nationId = nationId) (.module .wrongNation)
  -- the last number is given again
  let proposalId := s.nextProposalId
  let creationBlock := currentBlock ctx.now
  return { s with
    proposals := s.proposals.insert proposalId
      { proposer := caller
        nationId := nationId
        amount := amount
        beneficiary := beneficiary
        votesFor := 0
        votesAgainst := 0
        status := .active
        endBlock := saturatingAdd u32Max creationBlock cfg.votingPeriod
        constitutionalBasis := constitutionalBasis }
    nextProposalId := saturatingAdd u32Max proposalId 1 }

/-- Vote on a proposal of the own nation. -/
def vote (ctx : Context AccountId) (proposalId : ℕ) (approve : Bool) (s : State AccountId L) :
    Result (State AccountId L) := do
  let caller ← ensureSigned ctx.origin
  let citizen ← validatedCitizen ctx caller
  let proposal ← required (s.proposals.get proposalId) (.module .proposalNotFound)
  ensure (proposal.status = .active) (.module .proposalNotActive)
  -- votes end one block before the deadline, from when on the proposal is enacted
  ensure (currentBlock ctx.now < proposal.endBlock) (.module .proposalNotActive)
  ensure (citizen.nationId = proposal.nationId) (.module .wrongNation)
  ensure (s.hasVoted.getD (proposalId, caller) false = false) (.module .alreadyVoted)
  return { s with
    hasVoted := s.hasVoted.insert (proposalId, caller) true
    proposals := s.proposals.insert proposalId (proposal.withVote approve) }

section Enactment

variable [Currency AccountId L]

/-- Decide a proposal by its votes, and pay the beneficiary. A payment that is refused rejects the
proposal. -/
def enactProposal (cfg : Config AccountId) (proposalId : ℕ) (proposal : Proposal AccountId)
    (s : State AccountId L) : State AccountId L :=
  let quorumMet := cfg.minQuorum ≤ proposal.votesFor
  let majority := proposal.votesAgainst < proposal.votesFor
  let rejected :=
    { s with proposals := s.proposals.insert proposalId { proposal with status := .rejected } }
  if quorumMet ∧ majority then
    -- the nations are numbered from one, and nation zero shares the treasury of the first
    match cfg.nationTreasuries.val[proposal.nationId - 1]? with
    | some treasuryAccount =>
      match Currency.transfer s.ledger treasuryAccount proposal.beneficiary proposal.amount
        .keepAlive with
      | .ok ledger =>
        { s with
          ledger := ledger
          proposals := s.proposals.insert proposalId { proposal with status := .executed } }
      -- a payment that the ledger refuses rejects the proposal, and the call succeeds
      | .error _ => rejected
    | none => rejected
  else rejected

/-- Enact a proposal whose deadline has come. -/
def executeProposal (cfg : Config AccountId) (ctx : Context AccountId) (proposalId : ℕ)
    (s : State AccountId L) : Result (State AccountId L) := do
  let _ ← ensureSigned ctx.origin
  let proposal ← required (s.proposals.get proposalId) (.module .proposalNotFound)
  ensure (proposal.status = .active) (.module .proposalNotActive)
  ensure (proposal.endBlock ≤ currentBlock ctx.now) (.module .proposalNotActive)
  return enactProposal cfg proposalId proposal s

/-- The proposals whose deadline has come. -/
def expired (cfg : Config AccountId) (current : ℕ) (s : State AccountId L) :
    List (ℕ × Proposal AccountId) :=
  (s.proposals.iter cfg.iterationOrder).filter fun e =>
    e.2.status = .active ∧ e.2.endBlock ≤ current

/-- Enact all proposals whose deadline has come, at the start of a block. -/
def onInitialize (cfg : Config AccountId) (n : ℕ) (s : State AccountId L) : State AccountId L :=
  (expired cfg (currentBlock n) s).foldl (fun s e => enactProposal cfg e.1 e.2 s) s

end Enactment

/-! ### Expert bills -/

section Bills

variable [Currency AccountId L] [EscrowCurrency AccountId L]

/-- Submit an expert bill, as an academician, with a deposit. -/
def proposeExpertBill (cfg : Config AccountId) (ctx : Context AccountId) (billHash : Bytes32)
    (industryTag : List UInt8) (s : State AccountId L) : Result (State AccountId L) := do
  let caller ← ensureSigned ctx.origin
  let _ ← validatedCitizen ctx caller
  ensure (ctx.isAcademician caller = true) (.module .notAcademician)
  let boundedTag ← required (BoundedVec.tryFrom 64 industryTag) (.module .industryTagTooLong)
  let deposit := cfg.expertBillDeposit
  let ledger ← (ReservableCurrency.reserve s.ledger caller deposit).mapError
    fun _ => .module .insufficientBalance
  let billId := s.nextExpertBillId
  return { s with
    ledger := ledger
    expertBills := s.expertBills.insert billId
      { proposer := caller
        billHash := billHash
        industryTag := boundedTag
        initiativeType := .expertInitiative
        status := .active
        votesFor := 0
        votesAgainst := 0 }
    nextExpertBillId := saturatingAdd u32Max billId 1
    expertBillDepositor := s.expertBillDepositor.insert billId (caller, deposit) }

omit [Currency AccountId L] [EscrowCurrency AccountId L] in
/-- Vote on an expert bill, as a leader of an Arbad or above. -/
def voteOnExpertBill (ctx : Context AccountId) (billId : ℕ) (approve : Bool)
    (s : State AccountId L) : Result (State AccountId L) := do
  let caller ← ensureSigned ctx.origin
  let citizen ← validatedCitizen ctx caller
  ensure (isAtLeastArbadLeader citizen.role = true) (.module .insufficientRole)
  let bill ← required (s.expertBills.get billId) (.module .expertBillNotFound)
  ensure (bill.status = .active) (.module .expertBillNotActive)
  ensure (s.hasVotedOnBill.getD (billId, caller) false = false) (.module .alreadyVoted)
  return { s with
    hasVotedOnBill := s.hasVotedOnBill.insert (billId, caller) true
    expertBills := s.expertBills.insert billId (bill.withVote approve) }

/-- Give the deposit of a bill back when it has passed, else burn it. -/
def settleDeposit (passed : Bool) (deposit : Option (AccountId × ℕ)) (ledger : L) : L :=
  match deposit with
  | some (depositor, amount) =>
    -- what is not reserved any more is neither given back nor burned, and the call succeeds
    if passed then EscrowCurrency.unreserve ledger depositor amount
    else EscrowCurrency.slashReserved ledger depositor amount
  | none => ledger

/-- Finalise an expert bill. -/
def executeExpertBill (ctx : Context AccountId) (billId : ℕ) (s : State AccountId L) :
    Result (State AccountId L) := do
  let _ ← ensureSigned ctx.origin
  let bill ← required (s.expertBills.get billId) (.module .expertBillNotFound)
  ensure (bill.status = .active) (.module .expertBillNotActive)
  -- at any time, whoever calls, and whatever is against the bill
  let passed : Bool := decide (2 < bill.votesFor)
  return { s with
    expertBills := s.expertBills.insert billId
      { bill with status := if passed then .executed else .rejected }
    expertBillDepositor := s.expertBillDepositor.remove billId
    ledger := settleDeposit passed (s.expertBillDepositor.get billId) s.ledger }

/-! ### Dispatch -/

/-- The dispatchables with their arguments. -/
inductive Call (AccountId : Type)
  | createProposal (nationId amount : ℕ) (beneficiary : AccountId)
    (constitutionalBasis : Option Bytes32)
  | vote (proposalId : ℕ) (approve : Bool)
  | executeProposal (proposalId : ℕ)
  | proposeExpertBill (billHash : Bytes32) (industryTag : List UInt8)
  | voteOnExpertBill (billId : ℕ) (approve : Bool)
  | executeExpertBill (billId : ℕ)
  deriving DecidableEq

/-- Dispatch a call. -/
def dispatch (cfg : Config AccountId) (ctx : Context AccountId) :
    Call AccountId → State AccountId L → Result (State AccountId L)
  | .createProposal nationId amount beneficiary constitutionalBasis =>
    createProposal cfg ctx nationId amount beneficiary constitutionalBasis
  | .vote proposalId approve => vote ctx proposalId approve
  | .executeProposal proposalId => executeProposal cfg ctx proposalId
  | .proposeExpertBill billHash industryTag => proposeExpertBill cfg ctx billHash industryTag
  | .voteOnExpertBill billId approve => voteOnExpertBill ctx billId approve
  | .executeExpertBill billId => executeExpertBill ctx billId

end Bills

end KhuralGovernance
