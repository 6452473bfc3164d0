import Altan.Foundation.Arithmetic
import Altan.Foundation.BoundedVec
import Altan.Foundation.Dispatch
import Altan.Foundation.Escrow
import Altan.Foundation.StorageMap

/-!
# The guilds and their quests

Anyone founds a guild and becomes its first master, and anyone joins one. An employer publishes a
quest in a guild and reserves its reward; a member takes it on and submits the work, and a master
approves it, which pays the reward. When the life of a citizen ends, the quests the citizen has
published and nobody has finished are cancelled, and their rewards given back.

## Main definitions

* `Market`, `State`: the guilds, their members and quests, and the ledger
* `cleanupAccount`: what the end of a life does to the quests
* `Call`, `dispatch`: the dispatchables
-/

open Bounded Dispatch

namespace Guilds

/-- The errors of the module. -/
inductive Error
  | guildNotFound
  | alreadyMember
  | notMember
  | notMaster
  | questNotFound
  | invalidQuestStatus
  | notEmployer
  | notAssignee
  | nameTooLong
  | industryTagTooLong
  | cidTooLong
  | insufficientBalance
  | cannotPromoteSelf
  | notMasterForForceResolve
  | questNotInReview
  deriving DecidableEq, Repr

/-- The outcome of a function of the module. -/
abbrev Result (α : Type) := Except (DispatchError Error) α

/-- The bytes of a name at most. -/
def maxNameLength : ℕ := 64

/-- The bytes of a content identifier at most. -/
def maxIpfsCidLength : ℕ := 64

/-- The rank of a member. -/
inductive MemberRole
  | apprentice
  | professional
  | master
  deriving DecidableEq, Repr

/-- Where a quest stands. -/
inductive QuestStatus
  | opened
  | inProgress
  | review
  | completed
  | cancelled
  deriving DecidableEq, Repr

/-- A guild. -/
structure Guild (AccountId : Type) where
  founder : AccountId
  name : BoundedVec UInt8 maxNameLength
  industryTag : BoundedVec UInt8 maxNameLength
  descriptionHash : Option (BoundedVec UInt8 maxIpfsCidLength)
  regionTag : ℕ
  questCount : ℕ
  memberCount : ℕ
  deriving DecidableEq

/-- A quest, whose reward is reserved on the account of the employer. -/
structure Quest (AccountId : Type) where
  guildId : ℕ
  employer : AccountId
  reward : ℕ
  status : QuestStatus
  assignee : Option AccountId
  descriptionHash : BoundedVec UInt8 maxIpfsCidLength
  assigneeQuestCount : ℕ
  deriving DecidableEq

/-- The guilds, their members and quests. -/
structure Market (AccountId : Type) where
  nextGuildId : ℕ
  guilds : StorageMap ℕ (Guild AccountId)
  guildMembers : StorageMap (ℕ × AccountId) MemberRole
  memberQuestCount : StorageMap (ℕ × AccountId) ℕ
  nextQuestId : ℕ
  quests : StorageMap ℕ (Quest AccountId)
  academyMembers : StorageMap AccountId (BoundedVec UInt8 maxNameLength)

/-- The storage of the module, and the ledger. -/
structure State (AccountId L : Type) extends Market AccountId where
  ledger : L

variable {AccountId L : Type}

/-- The guilds before any call. -/
def Market.genesis : Market AccountId where
  nextGuildId := 0
  guilds := ∅
  guildMembers := ∅
  memberQuestCount := ∅
  nextQuestId := 0
  quests := ∅
  academyMembers := ∅

/-- A text of at most `n` bytes. -/
def bounded (n : ℕ) (e : Error) (bytes : List UInt8) : Result (BoundedVec UInt8 n) :=
  required (BoundedVec.tryFrom n bytes) (.module e)

variable [DecidableEq AccountId]

/-! ### Members -/

/-- Found a guild. -/
def createGuild (origin : Origin AccountId) (name industryTag : List UInt8)
    (descriptionCid : Option (List UInt8)) (regionTag : ℕ) (s : State AccountId L) :
    Result (State AccountId L) := do
  let caller ← ensureSigned origin
  let boundedName ← bounded maxNameLength .nameTooLong name
  let boundedIndustryTag ← bounded maxNameLength .industryTagTooLong industryTag
  let boundedDesc ← descriptionCid.mapM (bounded maxIpfsCidLength .cidTooLong)
  let id := s.nextGuildId
  return { s with
    guilds := s.guilds.insert id
      { founder := caller
        name := boundedName
        industryTag := boundedIndustryTag
        descriptionHash := boundedDesc
        regionTag := regionTag
        questCount := 0
        memberCount := 1 }
    guildMembers := s.guildMembers.insert (id, caller) .master
    nextGuildId := saturatingAdd u32Max id 1 }

/-- Join a guild. -/
def joinGuild (origin : Origin AccountId) (guildId : ℕ) (s : State AccountId L) :
    Result (State AccountId L) := do
  let caller ← ensureSigned origin
  ensure (s.guilds.containsKey guildId = true) (.module .guildNotFound)
  ensure (s.guildMembers.get (guildId, caller) = none) (.module .alreadyMember)
  return { s with
    guildMembers := s.guildMembers.insert (guildId, caller) .apprentice
    guilds := s.guilds.modify guildId fun g =>
      { g with memberCount := saturatingAdd u32Max g.memberCount 1 } }

/-- Give a member a rank, as a master. -/
def promoteMember (origin : Origin AccountId) (guildId : ℕ) (target : AccountId)
    (newRole : MemberRole) (s : State AccountId L) : Result (State AccountId L) := do
  let caller ← ensureSigned origin
  ensure (s.guilds.containsKey guildId = true) (.module .guildNotFound)
  let callerRole ← required (s.guildMembers.get (guildId, caller)) (.module .notMember)
  ensure (callerRole = .master) (.module .notMaster)
  ensure (caller ≠ target) (.module .cannotPromoteSelf)
  ensure (s.guildMembers.containsKey (guildId, target) = true) (.module .notMember)
  return { s with guildMembers := s.guildMembers.insert (guildId, target) newRole }

/-! ### Quests -/

/-- Count a quest a member has finished. -/
def countQuest (guildId : ℕ) (member : AccountId) (counts : StorageMap (ℕ × AccountId) ℕ) :
    StorageMap (ℕ × AccountId) ℕ :=
  counts.insert (guildId, member) (saturatingAdd u32Max (counts.getD (guildId, member) 0) 1)

/-- Take an open quest on, as a member. -/
def assignQuest (origin : Origin AccountId) (questId : ℕ) (s : State AccountId L) :
    Result (State AccountId L) := do
  let caller ← ensureSigned origin
  let quest ← required (s.quests.get questId) (.module .questNotFound)
  ensure (quest.status = .opened) (.module .invalidQuestStatus)
  ensure (s.guildMembers.containsKey (quest.guildId, caller) = true) (.module .notMember)
  return { s with
    quests := s.quests.insert questId
      { quest with
        status := .inProgress
        assignee := some caller } }

/-- Submit the work on a quest. -/
def submitQuest (origin : Origin AccountId) (questId : ℕ) (s : State AccountId L) :
    Result (State AccountId L) := do
  let caller ← ensureSigned origin
  let quest ← required (s.quests.get questId) (.module .questNotFound)
  ensure (quest.status = .inProgress) (.module .invalidQuestStatus)
  ensure (quest.assignee = some caller) (.module .notAssignee)
  return { s with quests := s.quests.insert questId { quest with status := .review } }

section Rewards

variable [Currency AccountId L] [EscrowCurrency AccountId L]

/-- Publish a quest and reserve its reward. -/
def publishQuest (origin : Origin AccountId) (guildId reward : ℕ) (descriptionCid : List UInt8)
    (s : State AccountId L) : Result (State AccountId L) := do
  let caller ← ensureSigned origin
  ensure (s.guilds.containsKey guildId = true) (.module .guildNotFound)
  let boundedDesc ← bounded maxIpfsCidLength .cidTooLong descriptionCid
  let ledger ← (ReservableCurrency.reserve s.ledger caller reward).mapError
    fun _ => .module .insufficientBalance
  let questId := s.nextQuestId
  return { s with
    ledger := ledger
    quests := s.quests.insert questId
      { guildId := guildId
        employer := caller
        reward := reward
        status := .opened
        assignee := none
        descriptionHash := boundedDesc
        assigneeQuestCount := 0 }
    nextQuestId := saturatingAdd u32Max questId 1
    guilds := s.guilds.modify guildId fun g =>
      { g with questCount := saturatingAdd u32Max g.questCount 1 } }

/-- Give a reward back to the employer, and pay it on. -/
def payReward (quest : Quest AccountId) (recipient : AccountId) (ledger : L) : Result L :=
  liftCurrency (Currency.transfer (EscrowCurrency.unreserve ledger quest.employer quest.reward)
    quest.employer recipient quest.reward .keepAlive)

/-- Approve the work on a quest, as a master, and pay it. -/
def completeQuest (origin : Origin AccountId) (questId : ℕ) (s : State AccountId L) :
    Result (State AccountId L) := do
  let caller ← ensureSigned origin
  let quest ← required (s.quests.get questId) (.module .questNotFound)
  ensure (quest.status = .review) (.module .invalidQuestStatus)
  let callerRole ← required (s.guildMembers.get (quest.guildId, caller)) (.module .notMember)
  ensure (callerRole = .master) (.module .notMaster)
  let assignee ← required quest.assignee (.module .invalidQuestStatus)
  let ledger ← payReward quest assignee s.ledger
  let memberQuestCount := countQuest quest.guildId assignee s.memberQuestCount
  return { s with
    ledger := ledger
    memberQuestCount := memberQuestCount
    quests := s.quests.insert questId
      { quest with
        status := .completed
        assigneeQuestCount := memberQuestCount.getD (quest.guildId, assignee) 0 } }

/-- Take an open quest back, as its employer. -/
def cancelQuest (origin : Origin AccountId) (questId : ℕ) (s : State AccountId L) :
    Result (State AccountId L) := do
  let caller ← ensureSigned origin
  let quest ← required (s.quests.get questId) (.module .questNotFound)
  ensure (quest.status = .opened) (.module .invalidQuestStatus)
  ensure (quest.employer = caller) (.module .notEmployer)
  return { s with
    ledger := EscrowCurrency.unreserve s.ledger quest.employer quest.reward
    -- the source closes the quest as completed
    quests := s.quests.insert questId { quest with status := .completed } }

/-- Pay a master for the courses of the academy. -/
def subscribeToAcademy (origin : Origin AccountId) (masterAccount : AccountId) (fee : ℕ)
    (s : State AccountId L) : Result (State AccountId L) := do
  let caller ← ensureSigned origin
  let ledger ← liftCurrency (Currency.transfer s.ledger caller masterAccount fee .keepAlive)
  return { s with ledger := ledger }

/-- Pay the reward of a quest in review to anyone, as a master. -/
def forceResolveQuest (origin : Origin AccountId) (questId : ℕ) (recipient : AccountId)
    (s : State AccountId L) : Result (State AccountId L) := do
  let caller ← ensureSigned origin
  let quest ← required (s.quests.get questId) (.module .questNotFound)
  ensure (quest.status = .review) (.module .questNotInReview)
  let callerRole ← required (s.guildMembers.get (quest.guildId, caller)) (.module .notMember)
  ensure (callerRole = .master) (.module .notMasterForForceResolve)
  let ledger ← payReward quest recipient s.ledger
  return { s with
    ledger := ledger
    memberQuestCount :=
      if quest.assignee = some recipient then countQuest quest.guildId recipient s.memberQuestCount
      else s.memberQuestCount
    quests := s.quests.insert questId { quest with status := .completed } }

/-! ### The end of a life -/

/-- A quest of `who` that is open or in progress. -/
def Quest.IsPending (who : AccountId) (q : Quest AccountId) : Prop :=
  q.employer = who ∧ (q.status = .opened ∨ q.status = .inProgress)

instance (who : AccountId) : DecidablePred (Quest.IsPending who) := fun q =>
  inferInstanceAs (Decidable (q.employer = who ∧ _))

/-- The rewards of the quests of `who` that are open or in progress. -/
def Market.pendingRewards (who : AccountId) (m : Market AccountId) : Multiset ℕ :=
  (m.quests.values.filter (Quest.IsPending who)).map Quest.reward

/-- Cancel the quests of `who` that are open or in progress, give their rewards back, and strike
`who` off the academy. -/
def cleanupAccount (who : AccountId) (s : State AccountId L) : State AccountId L :=
  { s with
    ledger := EscrowCurrency.releaseAll s.ledger who (s.pendingRewards who)
    quests :=
      (s.quests.keys.filter fun id => ∃ q ∈ s.quests.get id, Quest.IsPending who q).val.foldl
        (fun quests id => quests.modify id fun q => { q with status := .cancelled }) s.quests
    academyMembers := s.academyMembers.remove who }

end Rewards

/-! ### Dispatch -/

/-- The dispatchables about members and quests, with their arguments. -/
inductive Call (AccountId : Type)
  | createGuild (name industryTag : List UInt8) (descriptionCid : Option (List UInt8))
    (regionTag : ℕ)
  | joinGuild (guildId : ℕ)
  | promoteMember (guildId : ℕ) (target : AccountId) (newRole : MemberRole)
  | publishQuest (guildId reward : ℕ) (descriptionCid : List UInt8)
  | assignQuest (questId : ℕ)
  | submitQuest (questId : ℕ)
  | completeQuest (questId : ℕ)
  | cancelQuest (questId : ℕ)
  | subscribeToAcademy (masterAccount : AccountId) (fee : ℕ)
  | forceResolveQuest (questId : ℕ) (recipient : AccountId)
  deriving DecidableEq

/-- Dispatch a call. -/
def dispatch [Currency AccountId L] [EscrowCurrency AccountId L] (origin : Origin AccountId) :
    Call AccountId → State AccountId L → Result (State AccountId L)
  | .createGuild name industryTag descriptionCid regionTag =>
    createGuild origin name industryTag descriptionCid regionTag
  | .joinGuild guildId => joinGuild origin guildId
  | .promoteMember guildId target newRole => promoteMember origin guildId target newRole
  | .publishQuest guildId reward descriptionCid => publishQuest origin guildId reward descriptionCid
  | .assignQuest questId => assignQuest origin questId
  | .submitQuest questId => submitQuest origin questId
  | .completeQuest questId => completeQuest origin questId
  | .cancelQuest questId => cancelQuest origin questId
  | .subscribeToAcademy masterAccount fee => subscribeToAcademy origin masterAccount fee
  | .forceResolveQuest questId recipient => forceResolveQuest origin questId recipient

end Guilds
