import Altan.Foundation.BoundedVec
import Altan.Foundation.Currency
import Altan.Foundation.Scale
import Altan.Foundation.StorageMap
import Altan.Foundation.TransitionSystem

/-!
# The treasuries of organisations

An organisation is entered with a council and a treasury that has no key: its account is derived
from the identifier of the organisation. The relayer replaces the council after elections, enters
proposals to spend from the treasury, and casts the ballots of the members of the council; a
proposal that more than half of the council are in favour of is paid out.

## Main definitions

* `Config`, `State`: the constants, and the storage with the ledger
* `treasuryAccount`: the treasury of an organisation
* `ProposalRecord.decided`: a tally against the size of a council
* `Call`, `dispatch`: the dispatchables
* `Input`, `step`: the organisations with the ledger, as a state machine
* `entered`, `proposed`, `voted`, `executed`: the storage after a call

## Main results

* `instantiateOrg_eq_ok`, `syncCouncil_eq_ok`, `createProposal_eq_ok`, `voteProposal_eq_ok`,
  `executeProposal_eq_ok`: the calls, inverted
-/

open Bounded Dispatch

namespace DecimalDao

/-- The errors of the module. -/
inductive Error
  | orgAlreadyExists
  | orgNotFound
  | councilTooLarge
  | notACouncilMember
  | proposalNotFound
  | proposalAlreadyExists
  | alreadyVoted
  | proposalNotOpen
  | proposalNotPassed
  | insufficientTreasuryBalance
  deriving DecidableEq, Repr

/-- The outcome of a function of the module. -/
abbrev Result (α : Type) := Except (DispatchError Error) α

/-- Where a proposal stands. -/
inductive ProposalStatus
  | opened
  | passed
  | rejected
  deriving DecidableEq, Repr

/-- A proposal to spend from a treasury, with its tally. -/
structure ProposalRecord (AccountId : Type) where
  orgId : Bytes32
  proposer : AccountId
  amount : ℕ
  beneficiary : AccountId
  votesFor : ℕ
  votesAgainst : ℕ
  status : ProposalStatus
  deriving DecidableEq

/-- The eight bytes a module is known by. -/
abbrev PalletId := Vector UInt8 8

/-- The constants of the module, the size of a council within its width, and how the runtime derives
an account from a module and an identifier. -/
structure Config (AccountId : Type) where
  palletId : PalletId
  maxCouncilMembers : ℕ
  maxCouncilMembers_le : maxCouncilMembers ≤ u32Max
  intoSubAccountTruncating : PalletId → Bytes32 → AccountId

variable {AccountId L : Type}

/-- The storage of the module, and the ledger. -/
structure State (cfg : Config AccountId) (L : Type) where
  councils : StorageMap Bytes32 (BoundedVec AccountId cfg.maxCouncilMembers)
  orgTreasuries : StorageMap Bytes32 AccountId
  proposals : StorageMap Bytes32 (ProposalRecord AccountId)
  proposalBallots : StorageMap (Bytes32 × AccountId) Unit
  ledger : L

variable {cfg : Config AccountId} [DecidableEq AccountId]

/-- The storage before any call. -/
def genesis (ledger : L) : State cfg L where
  councils := ∅
  orgTreasuries := ∅
  proposals := ∅
  proposalBallots := ∅
  ledger := ledger

omit [DecidableEq AccountId] in
/-- The treasury of an organisation. -/
def treasuryAccount (cfg : Config AccountId) (orgId : Bytes32) : AccountId :=
  cfg.intoSubAccountTruncating cfg.palletId orgId

/-- Fail unless an account is on the council of an organisation. -/
def ensureCouncilMember (orgId : Bytes32) (who : AccountId) (s : State cfg L) : Result Unit := do
  let council ← required (s.councils.get orgId) (.module .orgNotFound)
  ensure (who ∈ council.val) (.module .notACouncilMember)

omit [DecidableEq AccountId] in
/-- A council of a list that is not too long. -/
def boundedCouncil (cfg : Config AccountId) (members : List AccountId) :
    Result (BoundedVec AccountId cfg.maxCouncilMembers) :=
  required (BoundedVec.tryFrom cfg.maxCouncilMembers members) (.module .councilTooLarge)

omit [DecidableEq AccountId] in
/-- Enter an organisation, as root. -/
def instantiateOrg (origin : Origin AccountId) (orgId : Bytes32) (initialCouncil : List AccountId)
    (s : State cfg L) : Result (State cfg L) := do
  ensureRoot origin
  ensure (s.councils.containsKey orgId = false) (.module .orgAlreadyExists)
  let council ← boundedCouncil cfg initialCouncil
  return { s with
    councils := s.councils.insert orgId council
    orgTreasuries := s.orgTreasuries.insert orgId (treasuryAccount cfg orgId) }

omit [DecidableEq AccountId] in
/-- Replace the council of an organisation, as root. -/
def syncCouncil (origin : Origin AccountId) (orgId : Bytes32) (newCouncil : List AccountId)
    (s : State cfg L) : Result (State cfg L) := do
  ensureRoot origin
  ensure (s.councils.containsKey orgId = true) (.module .orgNotFound)
  let council ← boundedCouncil cfg newCouncil
  return { s with councils := s.councils.insert orgId council }

/-- Enter a proposal of a member of the council, as root. -/
def createProposal (origin : Origin AccountId) (orgId propId : Bytes32) (proposer : AccountId)
    (amount : ℕ) (beneficiary : AccountId) (s : State cfg L) : Result (State cfg L) := do
  ensureRoot origin
  ensureCouncilMember orgId proposer s
  ensure (s.proposals.containsKey propId = false) (.module .proposalAlreadyExists)
  return { s with
    proposals := s.proposals.insert propId
      { orgId := orgId
        proposer := proposer
        amount := amount
        beneficiary := beneficiary
        votesFor := 0
        votesAgainst := 0
        status := .opened } }

omit [DecidableEq AccountId] in
/-- A proposal with one more vote. -/
def ProposalRecord.withVote (support : Bool) (proposal : ProposalRecord AccountId) :
    ProposalRecord AccountId :=
  if support then { proposal with votesFor := saturatingAdd u32Max proposal.votesFor 1 }
  else { proposal with votesAgainst := saturatingAdd u32Max proposal.votesAgainst 1 }

omit [DecidableEq AccountId] in
/-- A proposal that more than half of a council are in favour of is passed, and one that more than
half are against is rejected. -/
def ProposalRecord.decided (councilSize : ℕ) (proposal : ProposalRecord AccountId) :
    ProposalRecord AccountId :=
  if councilSize / 2 + 1 ≤ proposal.votesFor then { proposal with status := .passed }
  else if councilSize / 2 + 1 ≤ proposal.votesAgainst then { proposal with status := .rejected }
  else proposal

/-- Cast the ballot of a member of the council, as root. -/
def voteProposal (origin : Origin AccountId) (propId : Bytes32) (voter : AccountId) (support : Bool)
    (s : State cfg L) : Result (State cfg L) := do
  ensureRoot origin
  let proposal ← required (s.proposals.get propId) (.module .proposalNotFound)
  ensure (proposal.status = .opened) (.module .proposalNotOpen)
  ensureCouncilMember proposal.orgId voter s
  ensure (s.proposalBallots.containsKey (propId, voter) = false) (.module .alreadyVoted)
  let councilSize := ((s.councils.get proposal.orgId).map fun c => c.val.length).getD 0
  return { s with
    proposalBallots := s.proposalBallots.insert (propId, voter) ()
    proposals := s.proposals.insert propId ((proposal.withVote support).decided councilSize) }

/-- Pay out a proposal that is passed, as root, and remove it. -/
def executeProposal [Currency AccountId L] (origin : Origin AccountId) (propId : Bytes32)
    (s : State cfg L) : Result (State cfg L) := do
  ensureRoot origin
  let proposal ← required (s.proposals.get propId) (.module .proposalNotFound)
  ensure (proposal.status = .passed) (.module .proposalNotPassed)
  let treasury ← required (s.orgTreasuries.get proposal.orgId) (.module .orgNotFound)
  let ledger ← (Currency.transfer s.ledger treasury proposal.beneficiary proposal.amount
    .keepAlive).mapError fun _ => .module .insufficientTreasuryBalance
  return { s with
    ledger := ledger
    proposals := s.proposals.remove propId }

/-! ### The dispatchables -/

/-- The dispatchables with their arguments. -/
inductive Call (AccountId : Type)
  | instantiateOrg (orgId : Bytes32) (initialCouncil : List AccountId)
  | syncCouncil (orgId : Bytes32) (newCouncil : List AccountId)
  | createProposal (orgId propId : Bytes32) (proposer : AccountId) (amount : ℕ)
    (beneficiary : AccountId)
  | voteProposal (propId : Bytes32) (voter : AccountId) (support : Bool)
  | executeProposal (propId : Bytes32)
  deriving DecidableEq

/-- Dispatch a call. -/
def dispatch [Currency AccountId L] (origin : Origin AccountId) :
    Call AccountId → State cfg L → Result (State cfg L)
  | .instantiateOrg orgId initialCouncil => instantiateOrg origin orgId initialCouncil
  | .syncCouncil orgId newCouncil => syncCouncil origin orgId newCouncil
  | .createProposal orgId propId proposer amount beneficiary =>
    createProposal origin orgId propId proposer amount beneficiary
  | .voteProposal propId voter support => voteProposal origin propId voter support
  | .executeProposal propId => executeProposal origin propId

end DecimalDao

/-! ### What the calls go through and do -/

open TransitionSystem

namespace DecimalDao

variable {AccountId L : Type}

/-- A call with its origin, or what happens to the ledger elsewhere. -/
inductive Input (AccountId L : Type)
  | call (origin : Origin AccountId) (c : Call AccountId)
  | elsewhere (ledger : L)

variable [DecidableEq AccountId]

/-- The state after one input. -/
def step [Currency AccountId L] (cfg : Config AccountId) :
    Input AccountId L → State cfg L → Result (State cfg L)
  | .call origin c, s => dispatch origin c s
  | .elsewhere ledger, s => .ok { s with ledger := ledger }

variable {cfg : Config AccountId} {origin : Origin AccountId} {s s' : State cfg L}
  {orgId propId : Bytes32} {who : AccountId}

theorem ensureCouncilMember_bind_eq_ok {α : Type} {k : Unit → Result α} {a : α} :
    (ensureCouncilMember orgId who s >>= k) = .ok a ↔
      ∃ council, s.councils.get orgId = some council ∧ who ∈ council.val ∧ k () = .ok a := by
  simp only [ensureCouncilMember, bind_assoc, required_bind_eq_ok, ensure_bind_eq_ok]

omit [DecidableEq AccountId] in
theorem boundedCouncil_bind_eq_ok {α : Type} {members : List AccountId}
    {k : BoundedVec AccountId cfg.maxCouncilMembers → Result α} {a : α} :
    (boundedCouncil cfg members >>= k) = .ok a ↔
      ∃ council, council.val = members ∧ k council = .ok a := by
  simp only [boundedCouncil, required_bind_eq_ok, BoundedVec.tryFrom_eq_some]

omit [DecidableEq AccountId] in
/-- The storage with a new organisation. -/
def entered (orgId : Bytes32) (council : BoundedVec AccountId cfg.maxCouncilMembers)
    (s : State cfg L) : State cfg L :=
  { s with
    councils := s.councils.insert orgId council
    orgTreasuries := s.orgTreasuries.insert orgId (treasuryAccount cfg orgId) }

omit [DecidableEq AccountId] in
theorem instantiateOrg_eq_ok {initialCouncil : List AccountId} :
    instantiateOrg origin orgId initialCouncil s = .ok s' ↔
      ∃ council, origin = .root ∧ s.councils.get orgId = none ∧ council.val = initialCouncil ∧
        s' = entered orgId council s := by
  simp only [instantiateOrg, ensureRoot_bind_eq_ok, ensure_bind_eq_ok, boundedCouncil_bind_eq_ok,
    pure_eq_ok, StorageMap.not_containsKey]
  constructor
  · rintro ⟨hroot, hnew, council, hcouncil, rfl⟩
    exact ⟨council, hroot, hnew, hcouncil, rfl⟩
  · rintro ⟨council, hroot, hnew, hcouncil, rfl⟩
    exact ⟨hroot, hnew, council, hcouncil, rfl⟩

omit [DecidableEq AccountId] in
theorem syncCouncil_eq_ok {newCouncil : List AccountId}
    (h : syncCouncil origin orgId newCouncil s = .ok s') :
    ∃ council, council.val = newCouncil ∧
      s' = { s with councils := s.councils.insert orgId council } := by
  simp only [syncCouncil, ensureRoot_bind_eq_ok, ensure_bind_eq_ok, boundedCouncil_bind_eq_ok,
    pure_eq_ok] at h
  obtain ⟨-, -, council, hcouncil, rfl⟩ := h
  exact ⟨council, hcouncil, rfl⟩

/-- The storage with a new proposal. -/
def proposed (propId : Bytes32) (proposal : ProposalRecord AccountId) (s : State cfg L) :
    State cfg L :=
  { s with proposals := s.proposals.insert propId proposal }

theorem createProposal_eq_ok {proposer beneficiary : AccountId} {amount : ℕ}
    (h : createProposal origin orgId propId proposer amount beneficiary s = .ok s') :
    s.proposals.get propId = none ∧
      s' = proposed propId ⟨orgId, proposer, amount, beneficiary, 0, 0, .opened⟩ s := by
  simp only [createProposal, ensureRoot_bind_eq_ok, ensureCouncilMember_bind_eq_ok,
    ensure_bind_eq_ok, pure_eq_ok, StorageMap.not_containsKey] at h
  obtain ⟨-, council, -, -, hnew, rfl⟩ := h
  exact ⟨hnew, rfl⟩

/-- The storage after a ballot is cast. -/
def voted (propId : Bytes32) (voter : AccountId) (support : Bool)
    (council : BoundedVec AccountId cfg.maxCouncilMembers) (proposal : ProposalRecord AccountId)
    (s : State cfg L) : State cfg L :=
  { s with
    proposalBallots := s.proposalBallots.insert (propId, voter) ()
    proposals :=
      s.proposals.insert propId ((proposal.withVote support).decided council.val.length) }

theorem voteProposal_eq_ok {voter : AccountId} {support : Bool} :
    voteProposal origin propId voter support s = .ok s' ↔
      ∃ proposal council, origin = .root ∧ s.proposals.get propId = some proposal ∧
        proposal.status = .opened ∧ s.councils.get proposal.orgId = some council ∧
        voter ∈ council.val ∧ s.proposalBallots.get (propId, voter) = none ∧
        s' = voted propId voter support council proposal s := by
  simp only [voteProposal, ensureRoot_bind_eq_ok, required_bind_eq_ok, ensure_bind_eq_ok,
    ensureCouncilMember_bind_eq_ok, pure_eq_ok, StorageMap.not_containsKey]
  constructor
  · rintro ⟨hroot, proposal, hget, hopen, council, hcouncil, hmem, hnew, rfl⟩
    refine ⟨proposal, council, hroot, hget, hopen, hcouncil, hmem, hnew, ?_⟩
    rw [hcouncil]
    rfl
  · rintro ⟨proposal, council, hroot, hget, hopen, hcouncil, hmem, hnew, rfl⟩
    refine ⟨hroot, proposal, hget, hopen, council, hcouncil, hmem, hnew, ?_⟩
    rw [hcouncil]
    rfl

/-- The storage after a proposal is paid out. -/
def executed (propId : Bytes32) (ledger : L) (s : State cfg L) : State cfg L :=
  { s with
    ledger := ledger
    proposals := s.proposals.remove propId }

omit [DecidableEq AccountId] in
theorem executeProposal_eq_ok [Currency AccountId L]
    (h : executeProposal origin propId s = .ok s') :
    ∃ proposal treasury ledger, s.proposals.get propId = some proposal ∧
      proposal.status = .passed ∧ s.orgTreasuries.get proposal.orgId = some treasury ∧
      Currency.transfer s.ledger treasury proposal.beneficiary proposal.amount .keepAlive =
        .ok ledger ∧ s' = executed propId ledger s := by
  simp only [executeProposal, ensureRoot_bind_eq_ok, required_bind_eq_ok, ensure_bind_eq_ok,
    mapError_bind_eq_ok, pure_eq_ok] at h
  obtain ⟨-, proposal, hget, hpassed, treasury, htreasury, ledger, hledger, rfl⟩ := h
  exact ⟨proposal, treasury, ledger, hget, hpassed, htreasury, hledger, rfl⟩

end DecimalDao
