import Altan.Foundation.TransitionSystem
import Altan.Guilds.Federation

/-!
# The guilds as a state machine

Calls come from anybody; when the life of a citizen ends, another module has the quests of the
citizen cancelled; and other modules move balances in between. This module says once what an
accepted input goes through and does, for the unions and for the quests.

## Main definitions

* `Input`, `step`: the module as a state machine
* `MarketTransition`: what an accepted call about members and quests goes through and does
* `UnionTransition`: what an accepted input does to the unions
* `Transition`: what an accepted input does

## Main results

* `formGuildUnion_spec`, `voteForGrandmaster_spec`, `elevateUnion_spec`: the calls about unions
* `dispatch_transition`, `step_transition`, `step_unions`: every accepted input is a transition
* `step_frame`: what the inputs about other things leave
-/

open Bounded Dispatch Ledger TransitionSystem

namespace Guilds

variable {AccountId L : Type}

/-! ### The state machine -/

/-- A call with its origin, the end of a life, or what other modules do to the balances. -/
inductive Input (cfg : Config AccountId) (L : Type)
  | call (origin : Origin AccountId) (d : Dispatchable cfg)
  | cleanupAccount (who : AccountId)
  | elsewhere (ledger : L)

variable [DecidableEq AccountId]

/-- The state after one input. -/
def step [Currency AccountId L] [EscrowCurrency AccountId L] (cfg : Config AccountId) :
    Input cfg L → Federation AccountId L → Outcome (Federation AccountId L)
  | .call origin d, s => dispatchAll cfg origin d s
  | .cleanupAccount who, s => .ok { s with toState := cleanupAccount who s.toState }
  | .elsewhere ledger, s => .ok { s with ledger := ledger }

/-- A master of a guild. -/
structure IsMaster (s : State AccountId L) (who : AccountId) (guildId : ℕ) : Prop where
  guild : s.guilds.containsKey guildId = true
  master : s.guildMembers.get (guildId, who) = some .master

theorem ensureMaster_bind_eq_ok {β : Type} {who : AccountId} {guildId : ℕ}
    {s : Federation AccountId L} {k : Unit → Outcome β} {b : β} :
    (ensureMaster who guildId s >>= k) = .ok b ↔
      IsMaster s.toState who guildId ∧ k () = .ok b := by
  unfold ensureMaster
  simp only [bind_assoc, ensure_bind_eq_ok, required_bind_eq_ok]
  constructor
  · rintro ⟨hguild, role, hrole, rfl, hk⟩
    exact ⟨⟨hguild, hrole⟩, hk⟩
  · rintro ⟨⟨hguild, hrole⟩, hk⟩
    exact ⟨hguild, .master, hrole, rfl, hk⟩

/-! ### The market -/

section Market

variable [Currency AccountId L] [EscrowCurrency AccountId L]

/-- A quest before anybody takes it on. -/
def newQuest (guildId : ℕ) (employer : AccountId) (reward : ℕ)
    (descriptionHash : BoundedVec UInt8 maxIpfsCidLength) : Quest AccountId where
  guildId := guildId
  employer := employer
  reward := reward
  status := .opened
  assignee := none
  descriptionHash := descriptionHash
  assigneeQuestCount := 0

/-- What an accepted call about members and quests goes through and does. -/
inductive MarketTransition (s : State AccountId L) :
    Origin AccountId → Call AccountId → State AccountId L → Prop
  | createGuild (caller name industryTag descriptionCid regionTag guild) :
    MarketTransition s (.signed caller) (.createGuild name industryTag descriptionCid regionTag)
      { s with
        guilds := s.guilds.insert s.nextGuildId guild
        guildMembers := s.guildMembers.insert (s.nextGuildId, caller) .master
        nextGuildId := saturatingAdd u32Max s.nextGuildId 1 }
  | joinGuild (caller guildId) (hnew : s.guildMembers.get (guildId, caller) = none) :
    MarketTransition s (.signed caller) (.joinGuild guildId)
      { s with
        guildMembers := s.guildMembers.insert (guildId, caller) .apprentice
        guilds := s.guilds.modify guildId fun g =>
          { g with memberCount := saturatingAdd u32Max g.memberCount 1 } }
  | promoteMember (caller guildId target newRole)
    (hmaster : s.guildMembers.get (guildId, caller) = some .master) (hother : caller ≠ target) :
    MarketTransition s (.signed caller) (.promoteMember guildId target newRole)
      { s with guildMembers := s.guildMembers.insert (guildId, target) newRole }
  | publishQuest (caller guildId reward descriptionCid descriptionHash ledger)
    (hreserve : ReservableCurrency.reserve s.ledger caller reward = .ok ledger) :
    MarketTransition s (.signed caller) (.publishQuest guildId reward descriptionCid)
      { s with
        ledger := ledger
        quests := s.quests.insert s.nextQuestId (newQuest guildId caller reward descriptionHash)
        nextQuestId := saturatingAdd u32Max s.nextQuestId 1
        guilds := s.guilds.modify guildId fun g =>
          { g with questCount := saturatingAdd u32Max g.questCount 1 } }
  | assignQuest (caller questId q) (hget : s.quests.get questId = some q)
    (hopen : q.status = .opened) :
    MarketTransition s (.signed caller) (.assignQuest questId)
      { s with
        quests := s.quests.insert questId
          { q with
            status := .inProgress
            assignee := some caller } }
  | submitQuest (caller questId q) (hget : s.quests.get questId = some q)
    (hprogress : q.status = .inProgress) (hassignee : q.assignee = some caller) :
    MarketTransition s (.signed caller) (.submitQuest questId)
      { s with quests := s.quests.insert questId { q with status := .review } }
  | completeQuest (caller questId q assignee ledger) (hget : s.quests.get questId = some q)
    (hreview : q.status = .review)
    (hmaster : s.guildMembers.get (q.guildId, caller) = some .master)
    (hassignee : q.assignee = some assignee) (hpay : payReward q assignee s.ledger = .ok ledger) :
    MarketTransition s (.signed caller) (.completeQuest questId)
      { s with
        ledger := ledger
        memberQuestCount := countQuest q.guildId assignee s.memberQuestCount
        quests := s.quests.insert questId
          { q with
            status := .completed
            assigneeQuestCount :=
              (countQuest q.guildId assignee s.memberQuestCount).getD (q.guildId, assignee) 0 } }
  | cancelQuest (questId q) (hget : s.quests.get questId = some q) (hopen : q.status = .opened) :
    MarketTransition s (.signed q.employer) (.cancelQuest questId)
      { s with
        ledger := EscrowCurrency.unreserve s.ledger q.employer q.reward
        quests := s.quests.insert questId { q with status := .completed } }
  | subscribeToAcademy (caller masterAccount fee ledger)
    (htransfer : Currency.transfer s.ledger caller masterAccount fee .keepAlive = .ok ledger) :
    MarketTransition s (.signed caller) (.subscribeToAcademy masterAccount fee)
      { s with ledger := ledger }
  | forceResolveQuest (caller questId recipient q ledger memberQuestCount)
    (hget : s.quests.get questId = some q) (hreview : q.status = .review)
    (hmaster : s.guildMembers.get (q.guildId, caller) = some .master)
    (hpay : payReward q recipient s.ledger = .ok ledger) :
    MarketTransition s (.signed caller) (.forceResolveQuest questId recipient)
      { s with
        ledger := ledger
        memberQuestCount := memberQuestCount
        quests := s.quests.insert questId { q with status := .completed } }

/-- **Every accepted call about members and quests is a transition.** -/
theorem dispatch_transition {origin : Origin AccountId} {c : Call AccountId}
    {s s' : State AccountId L} (h : dispatch origin c s = .ok s') :
    MarketTransition s origin c s' := by
  cases c with
  | createGuild name industryTag descriptionCid regionTag =>
    simp only [dispatch, createGuild, ensureSigned_bind_eq_ok] at h
    obtain ⟨caller, rfl, h⟩ := h
    simp only [bind_eq_ok, pure_eq_ok] at h
    obtain ⟨-, -, -, -, -, -, rfl⟩ := h
    exact .createGuild caller name industryTag descriptionCid regionTag _
  | joinGuild guildId =>
    simp only [dispatch, joinGuild, ensureSigned_bind_eq_ok, ensure_bind_eq_ok, pure_eq_ok] at h
    obtain ⟨caller, rfl, -, hnew, rfl⟩ := h
    exact .joinGuild caller guildId hnew
  | promoteMember guildId target newRole =>
    simp only [dispatch, promoteMember, ensureSigned_bind_eq_ok, ensure_bind_eq_ok,
      required_bind_eq_ok, pure_eq_ok] at h
    obtain ⟨caller, rfl, -, role, hrole, rfl, hother, -, rfl⟩ := h
    exact .promoteMember caller guildId target newRole hrole hother
  | publishQuest guildId reward descriptionCid =>
    simp only [dispatch, publishQuest, bounded, ensureSigned_bind_eq_ok, ensure_bind_eq_ok,
      required_bind_eq_ok, mapError_bind_eq_ok, pure_eq_ok] at h
    obtain ⟨caller, rfl, -, descriptionHash, -, ledger, hreserve, rfl⟩ := h
    exact .publishQuest caller guildId reward descriptionCid descriptionHash ledger hreserve
  | assignQuest questId =>
    simp only [dispatch, assignQuest, ensureSigned_bind_eq_ok, ensure_bind_eq_ok,
      required_bind_eq_ok, pure_eq_ok] at h
    obtain ⟨caller, rfl, q, hget, hopen, -, rfl⟩ := h
    exact .assignQuest caller questId q hget hopen
  | submitQuest questId =>
    simp only [dispatch, submitQuest, ensureSigned_bind_eq_ok, ensure_bind_eq_ok,
      required_bind_eq_ok, pure_eq_ok] at h
    obtain ⟨caller, rfl, q, hget, hprogress, hassignee, rfl⟩ := h
    exact .submitQuest caller questId q hget hprogress hassignee
  | completeQuest questId =>
    simp only [dispatch, completeQuest, ensureSigned_bind_eq_ok, ensure_bind_eq_ok,
      required_bind_eq_ok] at h
    obtain ⟨caller, rfl, q, hget, hreview, role, hrole, rfl, assignee, hassignee, h⟩ := h
    obtain ⟨ledger, hpay, h⟩ := bind_eq_ok.mp h
    obtain rfl := pure_eq_ok.mp h
    exact .completeQuest caller questId q assignee ledger hget hreview hrole hassignee hpay
  | cancelQuest questId =>
    simp only [dispatch, cancelQuest, ensureSigned_bind_eq_ok, ensure_bind_eq_ok,
      required_bind_eq_ok, pure_eq_ok] at h
    obtain ⟨caller, rfl, q, hget, hopen, rfl, rfl⟩ := h
    exact .cancelQuest questId q hget hopen
  | subscribeToAcademy masterAccount fee =>
    simp only [dispatch, subscribeToAcademy, ensureSigned_bind_eq_ok, liftCurrency_bind_eq_ok,
      pure_eq_ok] at h
    obtain ⟨caller, rfl, ledger, htransfer, rfl⟩ := h
    exact .subscribeToAcademy caller masterAccount fee ledger htransfer
  | forceResolveQuest questId recipient =>
    simp only [dispatch, forceResolveQuest, ensureSigned_bind_eq_ok, ensure_bind_eq_ok,
      required_bind_eq_ok] at h
    obtain ⟨caller, rfl, q, hget, hreview, role, hrole, rfl, h⟩ := h
    obtain ⟨ledger, hpay, h⟩ := bind_eq_ok.mp h
    obtain rfl := pure_eq_ok.mp h
    exact .forceResolveQuest caller questId recipient q ledger _ hget hreview hrole hpay

end Market

/-! ### The unions -/

section Unions

/-- A union before any vote. -/
def newUnion (founderGuild : ℕ) (grandmaster : AccountId) (memberGuildCount : ℕ)
    (industryTag : BoundedVec UInt8 maxNameLength) : GuildUnion AccountId where
  level := .guildArbad
  founderGuild := founderGuild
  grandmaster := grandmaster
  memberGuildCount := memberGuildCount
  industryTag := industryTag
  electionVotesFor := 0
  electionVotesCast := 0

/-- What the other calls and modules leave of the unions, and of those who may vote in them. -/
structure SameUnions (s s' : Federation AccountId L) : Prop where
  nextUnionId : s'.nextUnionId = s.nextUnionId
  guildUnions : s'.guildUnions = s.guildUnions
  guildUnionOf : s'.guildUnionOf = s.guildUnionOf
  grandmasterVotes : s'.grandmasterVotes = s.grandmasterVotes

/-- What the calls that are not about members and quests leave of the market. -/
structure SameMarket (s s' : Federation AccountId L) : Prop where
  guilds : s'.guilds = s.guilds
  guildMembers : s'.guildMembers = s.guildMembers
  nextQuestId : s'.nextQuestId = s.nextQuestId
  quests : s'.quests = s.quests
  ledger : s'.ledger = s.ledger

/-- The unions and the votes in them after a vote. -/
def afterVote (cfg : Config AccountId) (s : Federation AccountId L) (unionId voterGuildId : ℕ)
    (candidate : AccountId) (u : GuildUnion AccountId) :
    StorageMap ℕ (GuildUnion AccountId) × StorageMap (ℕ × ℕ) AccountId :=
  let ballots := s.grandmasterVotes.insert (unionId, voterGuildId) candidate
  let votesCast := saturatingAdd u32Max u.electionVotesCast 1
  match tallyGrandmasterVotes cfg unionId u.memberGuildCount ballots with
  | some elected =>
    (s.guildUnions.insert unionId
      { u with
        grandmaster := elected
        electionVotesFor := 0
        electionVotesCast := 0 },
      ballots.clearPrefix cfg.iterationOrder unionId u32Max)
  | none =>
    if u.memberGuildCount ≤ votesCast then
      (s.guildUnions.insert unionId
        { u with
          electionVotesFor := 0
          electionVotesCast := 0 },
        ballots.clearPrefix cfg.iterationOrder unionId cfg.maxUnionMembers)
    else (s.guildUnions.insert unionId { u with electionVotesCast := votesCast }, ballots)

/-- What an accepted input goes through and does, for the unions. -/
inductive UnionTransition (cfg : Config AccountId) (s : Federation AccountId L) :
    Input cfg L → Federation AccountId L → Prop
  | formGuildUnion (caller industryTag ids s' founder tag)
    (hfounder : ids.val.head? = some founder) (hmaster : IsMaster s.toState caller founder)
    (hguilds : ∀ g ∈ ids.val, s.guilds.containsKey g = true)
    (hfree : ∀ g ∈ ids.val, s.guildUnionOf.get g = none)
    (hunions : s'.guildUnions =
      s.guildUnions.insert s.nextUnionId (newUnion founder caller ids.val.length tag))
    (hnext : s'.nextUnionId = saturatingAdd u32Max s.nextUnionId 1)
    (hof : s'.guildUnionOf =
      ids.val.foldl (fun m gid => m.insert gid s.nextUnionId) s.guildUnionOf)
    (hvotes : s'.grandmasterVotes = s.grandmasterVotes) :
    UnionTransition cfg s (.call (.signed caller) (.formGuildUnion industryTag ids)) s'
  | voteForGrandmaster (caller unionId voterGuildId candidate s' u)
    (hget : s.guildUnions.get unionId = some u) (hmaster : IsMaster s.toState caller voterGuildId)
    (hmember : s.guildUnionOf.get voterGuildId = some unionId)
    (hfirst : s.grandmasterVotes.get (unionId, voterGuildId) = none)
    (hafter : (s'.guildUnions, s'.grandmasterVotes) =
      afterVote cfg s unionId voterGuildId candidate u)
    (hnext : s'.nextUnionId = s.nextUnionId) (hof : s'.guildUnionOf = s.guildUnionOf) :
    UnionTransition cfg s
      (.call (.signed caller) (.voteForGrandmaster unionId voterGuildId candidate)) s'
  | elevateUnion (caller baseUnionId peers s' u level total unions)
    (hget : s.guildUnions.get baseUnionId = some u)
    (habsorb : absorb baseUnionId u.level peers.val u.memberGuildCount s.guildUnions =
      .ok (total, unions))
    (hunions : s'.guildUnions = unions.insert baseUnionId
      { u with
        level := level
        memberGuildCount := total
        electionVotesFor := 0
        electionVotesCast := 0 })
    (hnext : s'.nextUnionId = s.nextUnionId) (hof : s'.guildUnionOf = s.guildUnionOf)
    (hvotes : s'.grandmasterVotes = s.grandmasterVotes) :
    UnionTransition cfg s (.call (.signed caller) (.elevateUnion baseUnionId peers)) s'
  | other (x s') (hsame : SameUnions s s')
    (hform : ∀ origin tag ids, x ≠ .call origin (.formGuildUnion tag ids))
    (hvote : ∀ origin u g c, x ≠ .call origin (.voteForGrandmaster u g c))
    (helevate : ∀ origin base peers, x ≠ .call origin (.elevateUnion base peers)) :
    UnionTransition cfg s x s'

/-- What an accepted input does. -/
inductive Transition [Currency AccountId L] [EscrowCurrency AccountId L] (cfg : Config AccountId)
    (s : Federation AccountId L) : Input cfg L → Federation AccountId L → Prop
  | market (origin c t) (ht : MarketTransition s.toState origin c t) :
    Transition cfg s (.call origin (.market c)) { s with toState := t }
  | union (origin d s') (hunion : UnionTransition cfg s (.call origin d) s')
    (hmarket : SameMarket s s') (hd : ∀ c, d ≠ .market c) : Transition cfg s (.call origin d) s'
  | cleanupAccount (who) :
    Transition cfg s (.cleanupAccount who) { s with toState := cleanupAccount who s.toState }
  | elsewhere (ledger) : Transition cfg s (.elsewhere ledger) { s with ledger := ledger }

variable {cfg : Config AccountId} {s s' : Federation AccountId L}

/-- What the formation of a union goes through and does. -/
theorem formGuildUnion_spec {origin : Origin AccountId} {industryTag : List UInt8}
    {ids : BoundedVec ℕ cfg.maxUnionMembers}
    (h : formGuildUnion cfg origin industryTag ids s = .ok s') :
    ∃ caller founder tag, origin = .signed caller ∧ ids.val.head? = some founder ∧
      IsMaster s.toState caller founder ∧
      (∀ g ∈ ids.val, s.guilds.containsKey g = true ∧ s.guildUnionOf.get g = none) ∧
      s' = { s with
        guildUnions :=
          s.guildUnions.insert s.nextUnionId (newUnion founder caller ids.val.length tag)
        nextUnionId := saturatingAdd u32Max s.nextUnionId 1
        guildUnionOf :=
          ids.val.foldl (fun m gid => m.insert gid s.nextUnionId) s.guildUnionOf } := by
  simp only [formGuildUnion, ensureSigned_bind_eq_ok, required_bind_eq_ok, ensureMaster_bind_eq_ok,
    ensure_bind_eq_ok] at h
  obtain ⟨caller, rfl, founder, hfounder, hmaster, hfree, h⟩ := h
  obtain ⟨⟨⟩, hpeers, h⟩ := bind_eq_ok.mp h
  simp only [required_bind_eq_ok, pure_eq_ok] at h
  obtain ⟨tag, -, rfl⟩ := h
  have htail : ∀ g ∈ ids.val.tail,
      s.guilds.containsKey g = true ∧ s.guildUnionOf.get g = none := by
    intro g hg
    have hcheck := forM_eq_ok.mp hpeers g hg
    rw [ensure_bind_eq_ok, ensure_eq_ok] at hcheck
    exact hcheck
  refine ⟨caller, founder, tag, rfl, hfounder, hmaster, fun g hg => ?_, rfl⟩
  -- the first guild and the others
  rw [← List.cons_head?_tail hfounder] at hg
  rcases List.mem_cons.mp hg with rfl | hg
  · exact ⟨hmaster.guild, hfree⟩
  · exact htail g hg

/-- What a vote goes through and does. -/
theorem voteForGrandmaster_spec {origin : Origin AccountId} {unionId voterGuildId : ℕ}
    {candidate : AccountId}
    (h : voteForGrandmaster cfg origin unionId voterGuildId candidate s = .ok s') :
    ∃ caller u, origin = .signed caller ∧ s.guildUnions.get unionId = some u ∧
      IsMaster s.toState caller voterGuildId ∧ s.guildUnionOf.get voterGuildId = some unionId ∧
      s.grandmasterVotes.get (unionId, voterGuildId) = none ∧
      s' = { s with
        guildUnions := (afterVote cfg s unionId voterGuildId candidate u).1
        grandmasterVotes := (afterVote cfg s unionId voterGuildId candidate u).2
        academyMembers :=
          match tallyGrandmasterVotes cfg unionId u.memberGuildCount
            (s.grandmasterVotes.insert (unionId, voterGuildId) candidate) with
          | some elected =>
            if u.level = .guildTumed then grantAcademician elected u.industryTag s.academyMembers
            else s.academyMembers
          | none => s.academyMembers } := by
  simp only [voteForGrandmaster, ensureSigned_bind_eq_ok, required_bind_eq_ok,
    ensureMaster_bind_eq_ok, ensure_bind_eq_ok] at h
  obtain ⟨caller, rfl, u, hget, hmaster, hmember, hfirst, h⟩ := h
  refine ⟨caller, u, rfl, hget, hmaster, hmember, hfirst, ?_⟩
  unfold afterVote
  dsimp only
  cases hwinner : tallyGrandmasterVotes cfg unionId u.memberGuildCount
      (s.grandmasterVotes.insert (unionId, voterGuildId) candidate) with
  | some elected =>
    rw [hwinner] at h
    exact (pure_eq_ok.mp h).symm
  | none =>
    rw [hwinner] at h
    dsimp only at h ⊢
    split at h
    · next hall =>
      rw [if_pos hall]
      exact (pure_eq_ok.mp h).symm
    · next hopen =>
      rw [if_neg hopen]
      exact (pure_eq_ok.mp h).symm

/-- What an elevation goes through and does. -/
theorem elevateUnion_spec {origin : Origin AccountId} {baseUnionId : ℕ}
    {peers : BoundedVec ℕ cfg.maxUnionMembers}
    (h : elevateUnion cfg origin baseUnionId peers s = .ok s') :
    ∃ u level total unions, s.guildUnions.get baseUnionId = some u ∧
      origin = .signed u.grandmaster ∧ u.level.next = some level ∧
      absorb baseUnionId u.level peers.val u.memberGuildCount s.guildUnions =
        .ok (total, unions) ∧
      s' = { s with
        guildUnions := unions.insert baseUnionId
          { u with
            level := level
            memberGuildCount := total
            electionVotesFor := 0
            electionVotesCast := 0 }
        academyMembers :=
          if level = .guildTumed then grantAcademician u.grandmaster u.industryTag s.academyMembers
          else s.academyMembers } := by
  simp only [elevateUnion, ensureSigned_bind_eq_ok, required_bind_eq_ok, ensure_bind_eq_ok] at h
  obtain ⟨caller, rfl, u, hget, rfl, level, hlevel, -, h⟩ := h
  obtain ⟨⟨total, unions⟩, habsorb, h⟩ := bind_eq_ok.mp h
  exact ⟨u, level, total, unions, hget, rfl, hlevel, habsorb, (pure_eq_ok.mp h).symm⟩

theorem formGuildUnion_transition {origin : Origin AccountId} {industryTag : List UInt8}
    {ids : BoundedVec ℕ cfg.maxUnionMembers}
    (h : formGuildUnion cfg origin industryTag ids s = .ok s') :
    UnionTransition cfg s (.call origin (.formGuildUnion industryTag ids)) s' ∧
      SameMarket s s' := by
  obtain ⟨caller, founder, tag, rfl, hfounder, hmaster, hall, rfl⟩ := formGuildUnion_spec h
  refine ⟨?_, ⟨rfl, rfl, rfl, rfl, rfl⟩⟩
  exact .formGuildUnion caller industryTag ids _ founder tag hfounder hmaster
    (fun g hg => (hall g hg).1) (fun g hg => (hall g hg).2) rfl rfl rfl rfl

theorem voteForGrandmaster_transition {origin : Origin AccountId} {unionId voterGuildId : ℕ}
    {candidate : AccountId}
    (h : voteForGrandmaster cfg origin unionId voterGuildId candidate s = .ok s') :
    UnionTransition cfg s (.call origin (.voteForGrandmaster unionId voterGuildId candidate)) s' ∧
      SameMarket s s' := by
  obtain ⟨caller, u, rfl, hget, hmaster, hmember, hfirst, rfl⟩ := voteForGrandmaster_spec h
  refine ⟨?_, ⟨rfl, rfl, rfl, rfl, rfl⟩⟩
  exact .voteForGrandmaster caller unionId voterGuildId candidate _ u hget hmaster hmember hfirst
    rfl rfl rfl

theorem elevateUnion_transition {origin : Origin AccountId} {baseUnionId : ℕ}
    {peers : BoundedVec ℕ cfg.maxUnionMembers}
    (h : elevateUnion cfg origin baseUnionId peers s = .ok s') :
    UnionTransition cfg s (.call origin (.elevateUnion baseUnionId peers)) s' ∧
      SameMarket s s' := by
  obtain ⟨u, level, total, unions, hget, rfl, -, habsorb, rfl⟩ := elevateUnion_spec h
  refine ⟨?_, ⟨rfl, rfl, rfl, rfl, rfl⟩⟩
  exact .elevateUnion u.grandmaster baseUnionId peers _ u level total unions hget habsorb rfl rfl
    rfl rfl

/-- A call that is about the guilds' credentials or councils. -/
theorem Transition.other [Currency AccountId L] [EscrowCurrency AccountId L]
    {origin : Origin AccountId} {d : Dispatchable cfg} (hunions : SameUnions s s')
    (hmarket : SameMarket s s') (hd : ∀ c, d ≠ .market c)
    (hform : ∀ tag ids, d ≠ .formGuildUnion tag ids)
    (hvote : ∀ u g c, d ≠ .voteForGrandmaster u g c)
    (helevate : ∀ base peers, d ≠ .elevateUnion base peers) :
    Transition cfg s (.call origin d) s' := by
  refine .union origin d s' (.other _ s' hunions ?_ ?_ ?_) hmarket hd
  · rintro o tag ids he
    exact hform tag ids (Input.call.inj he).2
  · rintro o u g c he
    exact hvote u g c (Input.call.inj he).2
  · rintro o base peers he
    exact helevate base peers (Input.call.inj he).2

/-- **Every accepted input is a transition.** -/
theorem step_transition [Currency AccountId L] [EscrowCurrency AccountId L] {x : Input cfg L}
    (h : step cfg x s = .ok s') : Transition cfg s x s' := by
  cases x with
  | cleanupAccount who =>
    cases h
    exact .cleanupAccount who
  | elsewhere ledger =>
    cases h
    exact .elsewhere ledger
  | call origin d =>
    cases d with
    | formGuildUnion industryTag ids =>
      obtain ⟨hunion, hmarket⟩ := formGuildUnion_transition h
      exact .union origin _ s' hunion hmarket (by simp)
    | voteForGrandmaster unionId voterGuildId candidate =>
      obtain ⟨hunion, hmarket⟩ := voteForGrandmaster_transition h
      exact .union origin _ s' hunion hmarket (by simp)
    | elevateUnion baseUnionId peers =>
      obtain ⟨hunion, hmarket⟩ := elevateUnion_transition h
      exact .union origin _ s' hunion hmarket (by simp)
    | market c =>
      simp only [step, dispatchAll, mapError_bind_eq_ok, pure_eq_ok] at h
      obtain ⟨t, ht, rfl⟩ := h
      exact .market origin c t (dispatch_transition ht)
    -- the other calls leave the unions and the market as they are
    | proposeAchievement guildId targetCitizen title requiredQuests proofCid =>
      simp only [step, dispatchAll, proposeAchievement, ensureSigned_bind_eq_ok,
        ensureMaster_bind_eq_ok, ensure_bind_eq_ok, required_bind_eq_ok, pure_eq_ok] at h
      obtain ⟨-, -, -, -, -, -, -, -, -, -, -, rfl⟩ := h
      exact .other ⟨rfl, rfl, rfl, rfl⟩ ⟨rfl, rfl, rfl, rfl, rfl⟩ (by simp) (by simp) (by simp)
        (by simp)
    | createGuildFromRelayer guildId master initialMembers =>
      simp only [step, dispatchAll, createGuildFromRelayer, ensureSigned_bind_eq_ok,
        ensure_bind_eq_ok, required_bind_eq_ok, pure_eq_ok] at h
      obtain ⟨-, -, -, -, -, -, rfl⟩ := h
      exact .other ⟨rfl, rfl, rfl, rfl⟩ ⟨rfl, rfl, rfl, rfl, rfl⟩ (by simp) (by simp) (by simp)
        (by simp)
    | updateCouncilFromRelayer guildId newCouncil =>
      simp only [step, dispatchAll, updateCouncilFromRelayer, ensureSigned_bind_eq_ok,
        required_bind_eq_ok, pure_eq_ok] at h
      obtain ⟨-, -, -, -, -, -, rfl⟩ := h
      exact .other ⟨rfl, rfl, rfl, rfl⟩ ⟨rfl, rfl, rfl, rfl, rfl⟩ (by simp) (by simp) (by simp)
        (by simp)
    | createProposalFromRelayer guildId proposalId proposer =>
      simp only [step, dispatchAll, createProposalFromRelayer, ensureSigned_bind_eq_ok,
        ensure_bind_eq_ok, required_bind_eq_ok, pure_eq_ok] at h
      obtain ⟨-, -, -, -, -, -, rfl⟩ := h
      exact .other ⟨rfl, rfl, rfl, rfl⟩ ⟨rfl, rfl, rfl, rfl, rfl⟩ (by simp) (by simp) (by simp)
        (by simp)
    | voteProposalFromRelayer guildId proposalId voter inFavor =>
      simp only [step, dispatchAll, voteProposalFromRelayer, ensureSigned_bind_eq_ok,
        ensure_bind_eq_ok, required_bind_eq_ok, pure_eq_ok] at h
      obtain ⟨-, -, -, -, -, -, -, -, -, rfl⟩ := h
      exact .other ⟨rfl, rfl, rfl, rfl⟩ ⟨rfl, rfl, rfl, rfl, rfl⟩ (by simp) (by simp) (by simp)
        (by simp)

/-- **Every accepted input is a transition of the unions.** -/
theorem step_unions [Currency AccountId L] [EscrowCurrency AccountId L] {x : Input cfg L}
    (h : step cfg x s = .ok s') : UnionTransition cfg s x s' := by
  cases step_transition h with
  | market => exact .other _ _ ⟨rfl, rfl, rfl, rfl⟩ (by simp) (by simp) (by simp)
  | union _ _ _ hunion => exact hunion
  | cleanupAccount => exact .other _ _ ⟨rfl, rfl, rfl, rfl⟩ (by simp) (by simp) (by simp)
  | elsewhere => exact .other _ _ ⟨rfl, rfl, rfl, rfl⟩ (by simp) (by simp) (by simp)

end Unions

/-! ### What the other inputs leave -/

section Frame

/-- Whether an input may change what is known of the petitioned guilds. -/
def Input.aboutCouncils {cfg : Config AccountId} : Input cfg L → Bool
  | .call _ (.createGuildFromRelayer ..) => true
  | .call _ (.updateCouncilFromRelayer ..) => true
  | .call _ (.createProposalFromRelayer ..) => true
  | .call _ (.voteProposalFromRelayer ..) => true
  | _ => false

/-- Whether an input may change who is of the academy. -/
def Input.aboutAcademy {cfg : Config AccountId} : Input cfg L → Bool
  | .call _ (.voteForGrandmaster ..) => true
  | .call _ (.elevateUnion ..) => true
  | .cleanupAccount _ => true
  | _ => false

/-- What the calls that are not about the petitioned guilds leave of them. -/
structure SameCouncils (s s' : Federation AccountId L) : Prop where
  guildsByUuid : s'.guildsByUuid = s.guildsByUuid
  guildProposals : s'.guildProposals = s.guildProposals
  proposalBallots : s'.proposalBallots = s.proposalBallots

variable {cfg : Config AccountId} {s s' : Federation AccountId L}

/-- **Who is of the academy, and what is known of the petitioned guilds, changes by the inputs about
them.** -/
theorem step_frame [Currency AccountId L] [EscrowCurrency AccountId L] {x : Input cfg L}
    (h : step cfg x s = .ok s') :
    (x.aboutCouncils = false → SameCouncils s s') ∧
      (x.aboutAcademy = false → s'.academyMembers = s.academyMembers) := by
  cases x with
  | cleanupAccount who =>
    cases h
    exact ⟨fun _ => ⟨rfl, rfl, rfl⟩, fun hx => by cases hx⟩
  | elsewhere ledger =>
    cases h
    exact ⟨fun _ => ⟨rfl, rfl, rfl⟩, fun _ => rfl⟩
  | call origin d =>
    cases d with
    | market c =>
      simp only [step, dispatchAll, mapError_bind_eq_ok, pure_eq_ok] at h
      obtain ⟨t, ht, rfl⟩ := h
      refine ⟨fun _ => ⟨rfl, rfl, rfl⟩, fun _ => ?_⟩
      cases dispatch_transition ht <;> rfl
    | proposeAchievement guildId targetCitizen title requiredQuests proofCid =>
      simp only [step, dispatchAll, proposeAchievement, ensureSigned_bind_eq_ok,
        ensureMaster_bind_eq_ok, ensure_bind_eq_ok, required_bind_eq_ok, pure_eq_ok] at h
      obtain ⟨_, _, _, _, _, _, _, _, _, _, _, rfl⟩ := h
      exact ⟨fun _ => ⟨rfl, rfl, rfl⟩, fun _ => rfl⟩
    | createGuildFromRelayer guildId master initialMembers =>
      simp only [step, dispatchAll, createGuildFromRelayer, ensureSigned_bind_eq_ok,
        ensure_bind_eq_ok, required_bind_eq_ok, pure_eq_ok] at h
      obtain ⟨_, _, _, _, _, _, rfl⟩ := h
      exact ⟨fun hx => (by cases hx), fun _ => rfl⟩
    | updateCouncilFromRelayer guildId newCouncil =>
      simp only [step, dispatchAll, updateCouncilFromRelayer, ensureSigned_bind_eq_ok,
        required_bind_eq_ok, pure_eq_ok] at h
      obtain ⟨_, _, _, _, _, _, rfl⟩ := h
      exact ⟨fun hx => (by cases hx), fun _ => rfl⟩
    | createProposalFromRelayer guildId proposalId proposer =>
      simp only [step, dispatchAll, createProposalFromRelayer, ensureSigned_bind_eq_ok,
        ensure_bind_eq_ok, required_bind_eq_ok, pure_eq_ok] at h
      obtain ⟨_, _, _, _, _, _, rfl⟩ := h
      exact ⟨fun hx => (by cases hx), fun _ => rfl⟩
    | voteProposalFromRelayer guildId proposalId voter inFavor =>
      simp only [step, dispatchAll, voteProposalFromRelayer, ensureSigned_bind_eq_ok,
        ensure_bind_eq_ok, required_bind_eq_ok, pure_eq_ok] at h
      obtain ⟨_, _, _, _, _, _, _, _, _, rfl⟩ := h
      exact ⟨fun hx => (by cases hx), fun _ => rfl⟩
    | formGuildUnion industryTag ids =>
      obtain ⟨_, _, _, _, _, _, _, rfl⟩ := formGuildUnion_spec h
      exact ⟨fun _ => ⟨rfl, rfl, rfl⟩, fun _ => rfl⟩
    | voteForGrandmaster unionId voterGuildId candidate =>
      obtain ⟨_, _, _, _, _, _, _, rfl⟩ := voteForGrandmaster_spec h
      exact ⟨fun _ => ⟨rfl, rfl, rfl⟩, fun hx => by cases hx⟩
    | elevateUnion baseUnionId peers =>
      obtain ⟨_, _, _, _, _, _, _, _, rfl⟩ := elevateUnion_spec h
      exact ⟨fun _ => ⟨rfl, rfl, rfl⟩, fun hx => by cases hx⟩

end Frame

end Guilds
