import Altan.Foundation.Arithmetic
import Altan.Foundation.BoundedVec
import Altan.Foundation.Dispatch
import Altan.Foundation.StorageMap

/-!
# The elections

Citizens are enrolled in an Arbad, and leaders promoted from there to the Zun, the Myangad and the
Tumed, as root says, where a counter of the unit below has reached its least size. Elections of the
decimal hierarchy take one ballot of every voter of their level. At the peak, the Tumed leaders vote
for the council of each branch, its nine members for the supreme leader, and indigenous Tumed
leaders for the chairman of the Khural; root confirms who has won, and resets the ballots of a
branch.

## Main definitions

* `Config`, `State`: the constants and the storage
* `Election`, `ElectionLevel`, `GovernmentBranch`: an election, the tiers and the branches
* `increment`: a counter, one higher
* `Call`, `dispatch`: the dispatchables
-/

open Bounded Dispatch

namespace Elections

/-- The errors of the module. -/
inductive Error
  | electionNotFound
  | electionClosed
  | candidateNotFound
  | alreadyVoted
  | notInArbad
  | notAuthorizedForLevel
  | mathOverflow
  | notATumedLeader
  | councilNotElected
  | notACouncilMember
  | winnerHasNoArbad
  | tooManyCandidates
  | insufficientCandidates
  | legislativeUsesKhuralPath
  | notLegislativeBranch
  | winnerDidNotReceiveVotes
  | electionAlreadyExists
  | candidateNotATumedLeader
  | arbadTooSmall
  | zunTooSmall
  | myangadTooSmall
  | missingZoneId
  | notIndigenous
  | other (message : String)
  deriving DecidableEq, Repr

/-- The outcome of a function of the module. -/
abbrev Result (α : Type) := Except (DispatchError Error) α

/-- The members of a council. -/
def councilSize : ℕ := 9

/-- The tiers of the decimal hierarchy, from the lowest. -/
inductive ElectionLevel
  | arbad
  | zun
  | myangad
  | tumed
  deriving DecidableEq, Repr

namespace ElectionLevel

/-- The place of a tier in the hierarchy. -/
def rank : ElectionLevel → ℕ
  | arbad => 0
  | zun => 1
  | myangad => 2
  | tumed => 3

instance : LE ElectionLevel := ⟨fun a b => a.rank ≤ b.rank⟩

instance (a b : ElectionLevel) : Decidable (a ≤ b) := inferInstanceAs (Decidable (_ ≤ _))

end ElectionLevel

/-- The branches of the state. -/
inductive GovernmentBranch
  | executive
  | judicial
  | banking
  | legislative
  deriving DecidableEq, Repr

/-- An election of the decimal hierarchy. -/
structure Election (AccountId : Type) where
  level : ElectionLevel
  isActive : Bool
  candidates : List AccountId
  deriving DecidableEq

/-- The constants of the module. -/
structure Config where
  maxCandidates : ℕ
  maxBranchCandidates : ℕ
  minArbadSize : ℕ
  minZunLeaders : ℕ
  minMyangadLeaders : ℕ

/-- What a call is dispatched with: its origin, and who is an indigenous citizen at the time. -/
structure Context (AccountId : Type) where
  origin : Origin AccountId
  isIndigenous : AccountId → Bool

/-- The storage of the module. -/
structure State (AccountId : Type) where
  citizenArbad : StorageMap AccountId ℕ
  electedLeaders : StorageMap AccountId ElectionLevel
  elections : StorageMap ℕ (Election AccountId)
  votes : StorageMap (ℕ × AccountId) AccountId
  voteCounts : StorageMap (ℕ × AccountId) ℕ
  branchCouncils : StorageMap GovernmentBranch (BoundedVec AccountId 9)
  branchVotes : StorageMap (GovernmentBranch × AccountId) AccountId
  branchVoteCounts : StorageMap (GovernmentBranch × AccountId) ℕ
  supremeLeaders : StorageMap GovernmentBranch AccountId
  supremeLeaderVotes : StorageMap (GovernmentBranch × AccountId) AccountId
  supremeLeaderVoteCounts : StorageMap (GovernmentBranch × AccountId) ℕ
  khuralChairman : Option (AccountId × ℕ)
  khuralVotes : StorageMap AccountId AccountId
  khuralVoteCounts : StorageMap AccountId ℕ
  branchCandidateCount : StorageMap GovernmentBranch ℕ
  arbadMemberCount : StorageMap ℕ ℕ
  zunLeaderCount : StorageMap ℕ ℕ
  myangadLeaderCount : StorageMap ℕ ℕ
  citizenZun : StorageMap AccountId ℕ
  citizenMyangad : StorageMap AccountId ℕ

variable {AccountId : Type}

/-- The storage before any call. -/
def genesis : State AccountId where
  citizenArbad := ∅
  electedLeaders := ∅
  elections := ∅
  votes := ∅
  voteCounts := ∅
  branchCouncils := ∅
  branchVotes := ∅
  branchVoteCounts := ∅
  supremeLeaders := ∅
  supremeLeaderVotes := ∅
  supremeLeaderVoteCounts := ∅
  khuralChairman := none
  khuralVotes := ∅
  khuralVoteCounts := ∅
  branchCandidateCount := ∅
  arbadMemberCount := ∅
  zunLeaderCount := ∅
  myangadLeaderCount := ∅
  citizenZun := ∅
  citizenMyangad := ∅

/-- A counter in a map, one higher, unless it is at the end of its range. -/
def increment {τ : Type} [DecidableEq τ] (counts : StorageMap τ ℕ) (t : τ) :
    Result (StorageMap τ ℕ) := do
  let count ← required (checkedAdd u32Max (counts.getD t 0) 1) (.module .mathOverflow)
  return counts.insert t count

variable [DecidableEq AccountId]

/-- Fail unless an account is a Tumed leader. -/
def ensureTumed (s : State AccountId) (who : AccountId) : Result Unit := do
  let level ← required (s.electedLeaders.get who) (.module .notATumedLeader)
  ensure (ElectionLevel.tumed ≤ level) (.module .notATumedLeader)

/-- Fail unless a voter may vote in an election of a level. -/
def ensureLevel (s : State AccountId) (voter : AccountId) : ElectionLevel → Result Unit
  | .arbad => ensure (s.citizenArbad.containsKey voter = true) (.module .notInArbad)
  | requiredLevel => do
    let voterLevel ← required (s.electedLeaders.get voter) (.module .notAuthorizedForLevel)
    ensure (requiredLevel ≤ voterLevel) (.module .notAuthorizedForLevel)

/-! ### The decimal hierarchy -/

/-- Vote in an election of the decimal hierarchy. -/
def castVote (ctx : Context AccountId) (electionId : ℕ) (candidate : AccountId)
    (s : State AccountId) : Result (State AccountId) := do
  let voter ← ensureSigned ctx.origin
  let election ← required (s.elections.get electionId) (.module .electionNotFound)
  ensure (election.isActive = true) (.module .electionClosed)
  ensure (candidate ∈ election.candidates) (.module .candidateNotFound)
  ensure (s.votes.get (electionId, voter) = none) (.module .alreadyVoted)
  ensureLevel s voter election.level
  let voteCounts ← increment s.voteCounts (electionId, candidate)
  return { s with
    votes := s.votes.insert (electionId, voter) candidate
    voteCounts := voteCounts }

/-- Enrol a citizen in an Arbad, as root. -/
def addCitizenToArbad (ctx : Context AccountId) (citizen : AccountId) (arbadId : ℕ)
    (s : State AccountId) : Result (State AccountId) := do
  ensureRoot ctx.origin
  let arbadMemberCount ← increment s.arbadMemberCount arbadId
  return { s with
    citizenArbad := s.citizenArbad.insert citizen arbadId
    arbadMemberCount := arbadMemberCount }

/-- Enter a leader in the zone of a tier, where the unit below is large enough. -/
def enterZone (cfg : Config) (leader : AccountId) (zoneId : Option ℕ) (s : State AccountId) :
    ElectionLevel → Result (State AccountId)
  | .zun => do
    let arbadId ← required (s.citizenArbad.get leader) (.module .notInArbad)
    ensure (cfg.minArbadSize ≤ s.arbadMemberCount.getD arbadId 0) (.module .arbadTooSmall)
    let zunLeaderCount ← increment s.zunLeaderCount arbadId
    return { s with
      zunLeaderCount := zunLeaderCount
      citizenZun := s.citizenZun.insert leader arbadId }
  | .myangad => do
    let zunId ← required zoneId (.module .missingZoneId)
    ensure (cfg.minZunLeaders ≤ s.zunLeaderCount.getD zunId 0) (.module .zunTooSmall)
    let myangadLeaderCount ← increment s.myangadLeaderCount zunId
    return { s with
      myangadLeaderCount := myangadLeaderCount
      citizenMyangad := s.citizenMyangad.insert leader zunId }
  | .tumed => do
    let myangadId ← required zoneId (.module .missingZoneId)
    ensure (cfg.minMyangadLeaders ≤ s.myangadLeaderCount.getD myangadId 0)
      (.module .myangadTooSmall)
    return s
  | .arbad => .ok s

/-- Promote the winner of an election, as root. -/
def promoteLeader (cfg : Config) (ctx : Context AccountId) (leader : AccountId)
    (newLevel : ElectionLevel) (zoneId : Option ℕ) (s : State AccountId) :
    Result (State AccountId) := do
  ensureRoot ctx.origin
  let s ← enterZone cfg leader zoneId s newLevel
  return { s with electedLeaders := s.electedLeaders.insert leader newLevel }

/-- Open an election, as root. -/
def createElection (cfg : Config) (ctx : Context AccountId) (electionId : ℕ)
    (level : ElectionLevel) (candidates : List AccountId) (s : State AccountId) :
    Result (State AccountId) := do
  ensureRoot ctx.origin
  ensure (s.elections.containsKey electionId = false) (.module .electionAlreadyExists)
  ensure (candidates.length ≤ cfg.maxCandidates) (.module (.other "too many candidates"))
  return { s with
    elections := s.elections.insert electionId
      { level := level
        isActive := true
        candidates := candidates } }

/-! ### The peak -/

/-- The number of candidates of a branch that have votes, once one more vote is cast. -/
def countCandidate (cfg : Config) (branch : GovernmentBranch) (candidate : AccountId)
    (s : State AccountId) : Result (StorageMap GovernmentBranch ℕ) :=
  let isNewCandidate := s.branchVoteCounts.getD (branch, candidate) 0 = 0
  if isNewCandidate then do
    let current := s.branchCandidateCount.getD branch 0
    let newCount ← required (checkedAdd u32Max current 1) (.module .mathOverflow)
    ensure (newCount ≤ cfg.maxBranchCandidates) (.module .tooManyCandidates)
    return s.branchCandidateCount.insert branch newCount
  else
    .ok s.branchCandidateCount

/-- Vote for a member of the council of a branch. -/
def electBranchCouncil (cfg : Config) (ctx : Context AccountId) (branch : GovernmentBranch)
    (candidate : AccountId) (s : State AccountId) : Result (State AccountId) := do
  let voter ← ensureSigned ctx.origin
  ensure (branch ≠ .legislative) (.module .legislativeUsesKhuralPath)
  let candidateLevel ← required (s.electedLeaders.get candidate) (.module .candidateNotATumedLeader)
  ensure (ElectionLevel.tumed ≤ candidateLevel) (.module .candidateNotATumedLeader)
  ensureTumed s voter
  ensure (s.branchVotes.get (branch, voter) = none) (.module .alreadyVoted)
  let branchCandidateCount ← countCandidate cfg branch candidate s
  let branchVoteCounts ← increment s.branchVoteCounts (branch, candidate)
  return { s with
    branchCandidateCount := branchCandidateCount
    branchVotes := s.branchVotes.insert (branch, voter) candidate
    branchVoteCounts := branchVoteCounts }

/-- Seat the council of a branch, as root. -/
def confirmBranchCouncil (ctx : Context AccountId) (branch : GovernmentBranch)
    (winners : List AccountId) (s : State AccountId) : Result (State AccountId) := do
  ensureRoot ctx.origin
  ensure (branch ≠ .legislative) (.module .legislativeUsesKhuralPath)
  ensure (winners.length = councilSize) (.module .insufficientCandidates)
  ensure (∀ winner ∈ winners, 0 < s.branchVoteCounts.getD (branch, winner) 0)
    (.module .winnerDidNotReceiveVotes)
  let council ← required (BoundedVec.tryFrom 9 winners) (.module .tooManyCandidates)
  return { s with branchCouncils := s.branchCouncils.insert branch council }

/-- Vote for the supreme leader of a branch, as a member of its council. -/
def electSupremeLeader (ctx : Context AccountId) (branch : GovernmentBranch)
    (candidate : AccountId) (s : State AccountId) : Result (State AccountId) := do
  let voter ← ensureSigned ctx.origin
  ensure (branch ≠ .legislative) (.module .legislativeUsesKhuralPath)
  let council ← required (s.branchCouncils.get branch) (.module .councilNotElected)
  ensure (voter ∈ council.val) (.module .notACouncilMember)
  ensure (s.supremeLeaderVotes.get (branch, voter) = none) (.module .alreadyVoted)
  let supremeLeaderVoteCounts ← increment s.supremeLeaderVoteCounts (branch, candidate)
  return { s with
    supremeLeaderVotes := s.supremeLeaderVotes.insert (branch, voter) candidate
    supremeLeaderVoteCounts := supremeLeaderVoteCounts }

/-- Confirm the supreme leader of a branch, as root. -/
def confirmSupremeLeader (ctx : Context AccountId) (branch : GovernmentBranch)
    (leader : AccountId) (s : State AccountId) : Result (State AccountId) := do
  ensureRoot ctx.origin
  ensure (branch ≠ .legislative) (.module .legislativeUsesKhuralPath)
  return { s with supremeLeaders := s.supremeLeaders.insert branch leader }

/-- Vote for the chairman of the Khural. -/
def electKhuralChairman (ctx : Context AccountId) (candidate : AccountId) (s : State AccountId) :
    Result (State AccountId) := do
  let voter ← ensureSigned ctx.origin
  ensure (ctx.isIndigenous voter = true) (.module .notIndigenous)
  ensure (ctx.isIndigenous candidate = true) (.module .notIndigenous)
  ensureTumed s voter
  ensure (s.khuralVotes.get voter = none) (.module .alreadyVoted)
  let khuralVoteCounts ← increment s.khuralVoteCounts candidate
  return { s with
    khuralVotes := s.khuralVotes.insert voter candidate
    khuralVoteCounts := khuralVoteCounts }

/-- Confirm the chairman of the Khural, as root. -/
def confirmKhuralChairman (ctx : Context AccountId) (chairman : AccountId)
    (s : State AccountId) : Result (State AccountId) := do
  ensureRoot ctx.origin
  let arbadId ← required (s.citizenArbad.get chairman) (.module .winnerHasNoArbad)
  return { s with khuralChairman := some (chairman, arbadId) }

/-- Clear the ballots of a branch, as root. -/
def resetBallot (ctx : Context AccountId) (branch : GovernmentBranch) (s : State AccountId) :
    Result (State AccountId) := do
  ensureRoot ctx.origin
  match branch with
  | .legislative =>
    return { s with
      khuralVotes := ∅
      khuralVoteCounts := ∅
      khuralChairman := none }
  | b =>
    return { s with
      branchVotes := s.branchVotes.removeAll fun k => k.1 = b
      branchVoteCounts := s.branchVoteCounts.removeAll fun k => k.1 = b
      branchCandidateCount := s.branchCandidateCount.remove b
      supremeLeaderVotes := s.supremeLeaderVotes.removeAll fun k => k.1 = b
      supremeLeaderVoteCounts := s.supremeLeaderVoteCounts.removeAll fun k => k.1 = b
      branchCouncils := s.branchCouncils.remove b
      supremeLeaders := s.supremeLeaders.remove b }

/-! ### Dispatch -/

/-- The dispatchables with their arguments. -/
inductive Call (AccountId : Type)
  | castVote (electionId : ℕ) (candidate : AccountId)
  | addCitizenToArbad (citizen : AccountId) (arbadId : ℕ)
  | promoteLeader (leader : AccountId) (newLevel : ElectionLevel) (zoneId : Option ℕ)
  | createElection (electionId : ℕ) (level : ElectionLevel) (candidates : List AccountId)
  | electBranchCouncil (branch : GovernmentBranch) (candidate : AccountId)
  | confirmBranchCouncil (branch : GovernmentBranch) (winners : List AccountId)
  | electSupremeLeader (branch : GovernmentBranch) (candidate : AccountId)
  | confirmSupremeLeader (branch : GovernmentBranch) (leader : AccountId)
  | electKhuralChairman (candidate : AccountId)
  | confirmKhuralChairman (chairman : AccountId)
  | resetBallot (branch : GovernmentBranch)
  deriving DecidableEq

/-- Dispatch a call. -/
def dispatch (cfg : Config) (ctx : Context AccountId) :
    Call AccountId → State AccountId → Result (State AccountId)
  | .castVote electionId candidate => castVote ctx electionId candidate
  | .addCitizenToArbad citizen arbadId => addCitizenToArbad ctx citizen arbadId
  | .promoteLeader leader newLevel zoneId => promoteLeader cfg ctx leader newLevel zoneId
  | .createElection electionId level candidates =>
    createElection cfg ctx electionId level candidates
  | .electBranchCouncil branch candidate => electBranchCouncil cfg ctx branch candidate
  | .confirmBranchCouncil branch winners => confirmBranchCouncil ctx branch winners
  | .electSupremeLeader branch candidate => electSupremeLeader ctx branch candidate
  | .confirmSupremeLeader branch leader => confirmSupremeLeader ctx branch leader
  | .electKhuralChairman candidate => electKhuralChairman ctx candidate
  | .confirmKhuralChairman chairman => confirmKhuralChairman ctx chairman
  | .resetBallot branch => resetBallot ctx branch

/-- A dispatched call: its context and the call itself. -/
abbrev Extrinsic (AccountId : Type) := Context AccountId × Call AccountId

/-- One extrinsic as a step of the state machine. -/
def step (cfg : Config) (x : Extrinsic AccountId) (s : State AccountId) :
    Result (State AccountId) :=
  dispatch cfg x.1 x.2 s

end Elections
