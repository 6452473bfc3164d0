import Altan.Foundation.Iteration
import Altan.Foundation.Scale
import Altan.Guilds.Model

/-!
# The federation of the guilds

Beside the market of quests, the guilds give credentials to their members, a relayer enters guilds
that citizens have petitioned for and the votes of their councils, and guilds form unions. The
guilds of a union elect its grandmaster, each by the vote of a master: a candidate with more than
half of them is elected, and when all have voted without a majority, the round starts over. The
grandmaster takes a union to the next level by absorbing others of its level; at the last level the
grandmaster is admitted to the academy.

## Main definitions

* `GuildUnion`, `Federation`: a union, and the whole storage of the module
* `formGuildUnion`, `voteForGrandmaster`, `elevateUnion`: the unions
* `tallyGrandmasterVotes`: who is elected
* `Dispatchable`, `dispatchAll`: all dispatchables of the module
-/

open Bounded Dispatch

namespace Guilds

/-- The errors of the module, those of the market and the others. -/
inductive FederationError
  | market (e : Error)
  | guildUuidAlreadyExists
  | mustHaveExactlyNineFounders
  | alreadyHoldsAchievement
  | insufficientQuestCount
  | cannotAwardSelf
  | guildUnionNotFound
  | guildAlreadyInUnion
  | notGrandmaster
  | maxUnionLevelReached
  | invalidUnionLevelTransition
  | voteAlreadyCast
  | guildNotInUnion
  | insufficientUnionMembers
  | notACouncilMember
  | proposalNotFound
  | alreadyVoted
  | proposalNotOpen
  | proposalAlreadyExists
  deriving DecidableEq, Repr

/-- The outcome of a function of the federation. -/
abbrev Outcome (α : Type) := Except (DispatchError FederationError) α

/-- An error of the market. -/
def marketError (e : Error) : DispatchError FederationError := .module (.market e)

/-- The members of a petitioned guild at most. -/
def maxMembers : ℕ := 1000

/-- The members of a council at most. -/
def maxCouncilMembers : ℕ := 100

/-- The level of a union. -/
inductive GuildUnionLevel
  | guildArbad
  | guildZun
  | guildMyangad
  | guildTumed
  deriving DecidableEq, Repr

/-- The next level, if there is one. -/
def GuildUnionLevel.next : GuildUnionLevel → Option GuildUnionLevel
  | .guildArbad => some .guildZun
  | .guildZun => some .guildMyangad
  | .guildMyangad => some .guildTumed
  | .guildTumed => none

/-- A union of guilds. -/
structure GuildUnion (AccountId : Type) where
  level : GuildUnionLevel
  founderGuild : ℕ
  grandmaster : AccountId
  memberGuildCount : ℕ
  industryTag : BoundedVec UInt8 maxNameLength
  electionVotesFor : ℕ
  electionVotesCast : ℕ
  deriving DecidableEq

/-- A credential. -/
structure Achievement (AccountId : Type) where
  guildId : ℕ
  issuer : AccountId
  title : BoundedVec UInt8 maxNameLength
  requiredQuests : ℕ
  ipfsProof : BoundedVec UInt8 maxIpfsCidLength
  deriving DecidableEq

/-- A guild that citizens have petitioned for. -/
structure GuildRecord (AccountId : Type) where
  master : AccountId
  members : BoundedVec AccountId maxMembers
  treasury : AccountId
  council : BoundedVec AccountId maxCouncilMembers
  deriving DecidableEq

/-- Where a proposal of a council stands. -/
inductive ProposalStatus
  | opened
  | passed
  | rejected
  deriving DecidableEq, Repr

/-- The tally of a proposal of a council. -/
structure GuildProposalRecord (AccountId : Type) where
  guildId : Bytes32
  proposer : AccountId
  votesFor : ℕ
  votesAgainst : ℕ
  status : ProposalStatus
  deriving DecidableEq

/-- The constants of the module: the guilds of a union at most, the treasury of a petitioned guild,
and the order in which votes are visited. -/
structure Config (AccountId : Type) where
  maxUnionMembers : ℕ
  maxUnionMembers_le : maxUnionMembers ≤ u32Max
  treasuryAccount : Bytes32 → AccountId
  iterationOrder : IterationOrder ℕ

/-- The storage of the module. -/
structure Federation (AccountId L : Type) extends State AccountId L where
  nextAchievementId : ℕ
  achievements : StorageMap ℕ (Achievement AccountId)
  citizenAchievements : StorageMap (AccountId × ℕ) Unit
  guildsByUuid : StorageMap Bytes32 (GuildRecord AccountId)
  guildProposals : StorageMap Bytes32 (GuildProposalRecord AccountId)
  proposalBallots : StorageMap (Bytes32 × AccountId) Unit
  nextUnionId : ℕ
  guildUnions : StorageMap ℕ (GuildUnion AccountId)
  guildUnionOf : StorageMap ℕ ℕ
  grandmasterVotes : StorageMap (ℕ × ℕ) AccountId

variable {AccountId L : Type}

/-- The storage before any call. -/
def Federation.genesis (ledger : L) : Federation AccountId L where
  toMarket := .genesis
  ledger := ledger
  nextAchievementId := 0
  achievements := ∅
  citizenAchievements := ∅
  guildsByUuid := ∅
  guildProposals := ∅
  proposalBallots := ∅
  nextUnionId := 0
  guildUnions := ∅
  guildUnionOf := ∅
  grandmasterVotes := ∅

variable [DecidableEq AccountId]

/-- Fail unless `caller` is a master of the guild. -/
def ensureMaster (caller : AccountId) (guildId : ℕ) (s : Federation AccountId L) :
    Outcome Unit := do
  ensure (s.guilds.containsKey guildId = true) (marketError .guildNotFound)
  let role ← required (s.guildMembers.get (guildId, caller)) (marketError .notMember)
  ensure (role = .master) (marketError .notMaster)

/-- Admit an account to the academy, once. -/
def grantAcademician (who : AccountId) (industryTag : BoundedVec UInt8 maxNameLength)
    (academy : StorageMap AccountId (BoundedVec UInt8 maxNameLength)) :
    StorageMap AccountId (BoundedVec UInt8 maxNameLength) :=
  if academy.containsKey who then academy else academy.insert who industryTag

/-! ### Credentials -/

/-- Give a credential to a member, as a master. -/
def proposeAchievement (origin : Origin AccountId) (guildId : ℕ) (targetCitizen : AccountId)
    (title : List UInt8) (requiredQuests : ℕ) (proofCid : List UInt8)
    (s : Federation AccountId L) : Outcome (Federation AccountId L) := do
  let caller ← ensureSigned origin
  ensureMaster caller guildId s
  ensure (caller ≠ targetCitizen) (.module .cannotAwardSelf)
  ensure (s.guildMembers.containsKey (guildId, targetCitizen) = true) (marketError .notMember)
  ensure (0 < requiredQuests → requiredQuests ≤ s.memberQuestCount.getD (guildId, targetCitizen) 0)
    (.module .insufficientQuestCount)
  let boundedTitle ← required (BoundedVec.tryFrom maxNameLength title) (marketError .nameTooLong)
  let boundedProof ← required (BoundedVec.tryFrom maxIpfsCidLength proofCid)
    (marketError .cidTooLong)
  let achievementId := s.nextAchievementId
  ensure (s.citizenAchievements.get (targetCitizen, achievementId) = none)
    (.module .alreadyHoldsAchievement)
  return { s with
    achievements := s.achievements.insert achievementId
      { guildId := guildId
        issuer := caller
        title := boundedTitle
        requiredQuests := requiredQuests
        ipfsProof := boundedProof }
    nextAchievementId := saturatingAdd u32Max achievementId 1
    citizenAchievements := s.citizenAchievements.insert (targetCitizen, achievementId) () }

/-! ### Petitioned guilds -/

/-- Enter a guild with nine founders. -/
def createGuildFromRelayer (cfg : Config AccountId) (origin : Origin AccountId)
    (guildId : Bytes32) (master : AccountId) (initialMembers : List AccountId)
    (s : Federation AccountId L) : Outcome (Federation AccountId L) := do
  let _ ← ensureSigned origin
  ensure (initialMembers.length = 9) (.module .mustHaveExactlyNineFounders)
  ensure (s.guildsByUuid.containsKey guildId = false) (.module .guildUuidAlreadyExists)
  let boundedMembers ← required (BoundedVec.tryFrom maxMembers initialMembers)
    (.module .mustHaveExactlyNineFounders)
  return { s with
    guildsByUuid := s.guildsByUuid.insert guildId
      { master := master
        members := boundedMembers
        treasury := cfg.treasuryAccount guildId
        council := ⟨[], Nat.zero_le _⟩ } }

/-- Replace the council of a petitioned guild. -/
def updateCouncilFromRelayer (origin : Origin AccountId) (guildId : Bytes32)
    (newCouncil : List AccountId) (s : Federation AccountId L) :
    Outcome (Federation AccountId L) := do
  let _ ← ensureSigned origin
  let record ← required (s.guildsByUuid.get guildId) (marketError .guildNotFound)
  let boundedCouncil ← required (BoundedVec.tryFrom maxCouncilMembers newCouncil)
    (marketError .nameTooLong)
  return { s with
    guildsByUuid := s.guildsByUuid.insert guildId { record with council := boundedCouncil } }

/-- Enter a proposal of a member of the council. -/
def createProposalFromRelayer (origin : Origin AccountId) (guildId proposalId : Bytes32)
    (proposer : AccountId) (s : Federation AccountId L) : Outcome (Federation AccountId L) := do
  let _ ← ensureSigned origin
  let record ← required (s.guildsByUuid.get guildId) (marketError .guildNotFound)
  ensure (proposer ∈ record.council.val) (.module .notACouncilMember)
  ensure (s.guildProposals.containsKey proposalId = false) (.module .proposalAlreadyExists)
  return { s with
    guildProposals := s.guildProposals.insert proposalId
      { guildId := guildId
        proposer := proposer
        votesFor := 0
        votesAgainst := 0
        status := .opened } }

/-- A proposal with one more vote. -/
def GuildProposalRecord.withVote (p : GuildProposalRecord AccountId) (inFavor : Bool) :
    GuildProposalRecord AccountId :=
  if inFavor then { p with votesFor := saturatingAdd u32Max p.votesFor 1 }
  else { p with votesAgainst := saturatingAdd u32Max p.votesAgainst 1 }

/-- A proposal that is decided when more than half of the council agree. -/
def GuildProposalRecord.decided (p : GuildProposalRecord AccountId) (councilSize : ℕ) :
    GuildProposalRecord AccountId :=
  let majorityThreshold := councilSize / 2
  if majorityThreshold < p.votesFor then { p with status := .passed }
  else if majorityThreshold < p.votesAgainst then { p with status := .rejected }
  else p

/-- Enter the vote of a member of the council. -/
def voteProposalFromRelayer (origin : Origin AccountId) (guildId proposalId : Bytes32)
    (voter : AccountId) (inFavor : Bool) (s : Federation AccountId L) :
    Outcome (Federation AccountId L) := do
  let _ ← ensureSigned origin
  let record ← required (s.guildsByUuid.get guildId) (marketError .guildNotFound)
  ensure (voter ∈ record.council.val) (.module .notACouncilMember)
  let proposal ← required (s.guildProposals.get proposalId) (.module .proposalNotFound)
  ensure (proposal.status = .opened) (.module .proposalNotOpen)
  ensure (s.proposalBallots.containsKey (proposalId, voter) = false) (.module .alreadyVoted)
  return { s with
    proposalBallots := s.proposalBallots.insert (proposalId, voter) ()
    guildProposals := s.guildProposals.insert proposalId
      ((proposal.withVote inFavor).decided record.council.val.length) }

/-! ### Unions -/

/-- Form a union of guilds, as a master of the first. -/
def formGuildUnion (cfg : Config AccountId) (origin : Origin AccountId) (industryTag : List UInt8)
    (peerGuildIds : BoundedVec ℕ cfg.maxUnionMembers) (s : Federation AccountId L) :
    Outcome (Federation AccountId L) := do
  let caller ← ensureSigned origin
  let founderGuildId ← required peerGuildIds.val.head? (.module .insufficientUnionMembers)
  ensureMaster caller founderGuildId s
  ensure (s.guildUnionOf.get founderGuildId = none) (.module .guildAlreadyInUnion)
  -- every guild is looked up in the index before the call, so one may be named twice
  peerGuildIds.val.tail.forM fun gid => do
    ensure (s.guilds.containsKey gid = true) (marketError .guildNotFound)
    ensure (s.guildUnionOf.get gid = none) (.module .guildAlreadyInUnion)
  let boundedTag ← required (BoundedVec.tryFrom maxNameLength industryTag)
    (marketError .industryTagTooLong)
  let unionId := s.nextUnionId
  -- the length of the list, with what is named twice
  let memberCount := peerGuildIds.val.length
  return { s with
    guildUnions := s.guildUnions.insert unionId
      { level := .guildArbad
        founderGuild := founderGuildId
        grandmaster := caller
        memberGuildCount := memberCount
        industryTag := boundedTag
        electionVotesFor := 0
        electionVotesCast := 0 }
    nextUnionId := saturatingAdd u32Max unionId 1
    guildUnionOf := peerGuildIds.val.foldl (fun m gid => m.insert gid unionId) s.guildUnionOf }

/-- The votes for each candidate, with one more vote. -/
def addVote : List (AccountId × ℕ) → AccountId → List (AccountId × ℕ)
  | [], candidate => [(candidate, 1)]
  | (account, count) :: rest, candidate =>
    if account = candidate then (account, saturatingAdd u32Max count 1) :: rest
    else (account, count) :: addVote rest candidate

/-- Who is elected by the votes in a union of so many guilds, if anybody: the first candidate for
whom more than half of the guilds have voted. -/
def tallyGrandmasterVotes (cfg : Config AccountId) (unionId totalGuilds : ℕ)
    (ballots : StorageMap (ℕ × ℕ) AccountId) : Option AccountId :=
  -- no more votes are visited than a union may be formed of
  let votes := (ballots.iterPrefix cfg.iterationOrder unionId).take cfg.maxUnionMembers
  let tally := (votes.map Prod.snd).foldl addVote []
  -- more than half is more than this, also of an odd number
  let threshold := totalGuilds / 2
  (tally.find? fun e => threshold < e.2).map Prod.fst

/-- Cast the vote of a guild for the grandmaster of its union, as a master of the guild. -/
def voteForGrandmaster (cfg : Config AccountId) (origin : Origin AccountId)
    (unionId voterGuildId : ℕ) (candidate : AccountId) (s : Federation AccountId L) :
    Outcome (Federation AccountId L) := do
  let caller ← ensureSigned origin
  let union ← required (s.guildUnions.get unionId) (.module .guildUnionNotFound)
  ensureMaster caller voterGuildId s
  ensure (s.guildUnionOf.get voterGuildId = some unionId) (.module .guildNotInUnion)
  ensure (s.grandmasterVotes.get (unionId, voterGuildId) = none) (.module .voteAlreadyCast)
  let ballots := s.grandmasterVotes.insert (unionId, voterGuildId) candidate
  let votesCast := saturatingAdd u32Max union.electionVotesCast 1
  match tallyGrandmasterVotes cfg unionId union.memberGuildCount ballots with
  | some elected =>
    return { s with
      grandmasterVotes := ballots.clearPrefix cfg.iterationOrder unionId u32Max
      guildUnions := s.guildUnions.insert unionId
        { union with
          grandmaster := elected
          electionVotesFor := 0
          electionVotesCast := 0 }
      academyMembers :=
        -- at the last level whom the guilds elect is admitted
        if union.level = .guildTumed then
          grantAcademician elected union.industryTag s.academyMembers
        else s.academyMembers }
  | none =>
    -- all have voted without a majority: the round starts over
    if union.memberGuildCount ≤ votesCast then
      return { s with
        grandmasterVotes := ballots.clearPrefix cfg.iterationOrder unionId cfg.maxUnionMembers
        guildUnions := s.guildUnions.insert unionId
          { union with
            electionVotesFor := 0
            electionVotesCast := 0 } }
    else
      -- there are guilds that have not voted
      return { s with
        grandmasterVotes := ballots
        guildUnions := s.guildUnions.insert unionId { union with electionVotesCast := votesCast } }

/-- The guilds counted in all, and the unions left, after a union of a level has absorbed others. -/
def absorb (baseUnionId : ℕ) (level : GuildUnionLevel) :
    List ℕ → ℕ → StorageMap ℕ (GuildUnion AccountId) →
      Outcome (ℕ × StorageMap ℕ (GuildUnion AccountId))
  | [], totalGuilds, unions => return (totalGuilds, unions)
  | pid :: pids, totalGuilds, unions => do
    ensure (pid ≠ baseUnionId) (.module .guildUnionNotFound)
    -- a union that is named twice is gone the second time
    let peer ← required (unions.get pid) (.module .guildUnionNotFound)
    ensure (peer.level = level) (.module .guildUnionNotFound)
    absorb baseUnionId level pids (saturatingAdd u32Max totalGuilds peer.memberGuildCount)
      -- its guilds keep their entry in the index
      (unions.remove pid)

/-- Take a union to the next level, as its grandmaster, by absorbing others. -/
def elevateUnion (cfg : Config AccountId) (origin : Origin AccountId) (baseUnionId : ℕ)
    (peerUnionIds : BoundedVec ℕ cfg.maxUnionMembers) (s : Federation AccountId L) :
    Outcome (Federation AccountId L) := do
  let caller ← ensureSigned origin
  let baseUnion ← required (s.guildUnions.get baseUnionId) (.module .guildUnionNotFound)
  ensure (baseUnion.grandmaster = caller) (.module .notGrandmaster)
  let newLevel ← required baseUnion.level.next (.module .maxUnionLevelReached)
  ensure (baseUnion.level = .guildArbad ∧ newLevel = .guildZun ∨
      baseUnion.level = .guildZun ∧ newLevel = .guildMyangad ∨
      baseUnion.level = .guildMyangad ∧ newLevel = .guildTumed)
    (.module .invalidUnionLevelTransition)
  let (totalGuilds, unions) ← absorb baseUnionId baseUnion.level peerUnionIds.val
    baseUnion.memberGuildCount s.guildUnions
  return { s with
    -- the votes already cast stay where they are
    guildUnions := unions.insert baseUnionId
      { baseUnion with
        level := newLevel
        memberGuildCount := totalGuilds
        electionVotesFor := 0
        electionVotesCast := 0 }
    academyMembers :=
      if newLevel = .guildTumed then grantAcademician caller baseUnion.industryTag s.academyMembers
      else s.academyMembers }

/-! ### Dispatch -/

/-- The dispatchables of the module with their arguments. -/
inductive Dispatchable (cfg : Config AccountId)
  | market (c : Call AccountId)
  | proposeAchievement (guildId : ℕ) (targetCitizen : AccountId) (title : List UInt8)
    (requiredQuests : ℕ) (proofCid : List UInt8)
  | createGuildFromRelayer (guildId : Bytes32) (master : AccountId)
    (initialMembers : List AccountId)
  | updateCouncilFromRelayer (guildId : Bytes32) (newCouncil : List AccountId)
  | createProposalFromRelayer (guildId proposalId : Bytes32) (proposer : AccountId)
  | voteProposalFromRelayer (guildId proposalId : Bytes32) (voter : AccountId) (inFavor : Bool)
  | formGuildUnion (industryTag : List UInt8) (peerGuildIds : BoundedVec ℕ cfg.maxUnionMembers)
  | voteForGrandmaster (unionId voterGuildId : ℕ) (candidate : AccountId)
  | elevateUnion (baseUnionId : ℕ) (peerUnionIds : BoundedVec ℕ cfg.maxUnionMembers)

/-- Dispatch any call of the module. -/
def dispatchAll [Currency AccountId L] [EscrowCurrency AccountId L] (cfg : Config AccountId)
    (origin : Origin AccountId) :
    Dispatchable cfg → Federation AccountId L → Outcome (Federation AccountId L)
  | .market c, s => do
    let t ← (dispatch origin c s.toState).mapError (DispatchError.map .market)
    return { s with toState := t }
  | .proposeAchievement guildId targetCitizen title requiredQuests proofCid, s =>
    proposeAchievement origin guildId targetCitizen title requiredQuests proofCid s
  | .createGuildFromRelayer guildId master initialMembers, s =>
    createGuildFromRelayer cfg origin guildId master initialMembers s
  | .updateCouncilFromRelayer guildId newCouncil, s =>
    updateCouncilFromRelayer origin guildId newCouncil s
  | .createProposalFromRelayer guildId proposalId proposer, s =>
    createProposalFromRelayer origin guildId proposalId proposer s
  | .voteProposalFromRelayer guildId proposalId voter inFavor, s =>
    voteProposalFromRelayer origin guildId proposalId voter inFavor s
  | .formGuildUnion industryTag peerGuildIds, s =>
    formGuildUnion cfg origin industryTag peerGuildIds s
  | .voteForGrandmaster unionId voterGuildId candidate, s =>
    voteForGrandmaster cfg origin unionId voterGuildId candidate s
  | .elevateUnion baseUnionId peerUnionIds, s => elevateUnion cfg origin baseUnionId peerUnionIds s

end Guilds
