import Altan.Guilds.Membership
import Altan.Guilds.Tally

/-!
# The rounds of an election

While a union is formed of guilds named once, under a free number, and nothing happens to it in the
middle of a round, its guilds are those that are counted, the votes are theirs, and the round is
open: not all have voted. So every guild that has not voted can, and its vote either elects a
candidate, or is the last and starts the round over, or leaves the round open.

## Main definitions

* `Led`: every guild has a master
* `Round`, `Rounds`: the votes of a union, and of all
* `Orderly`: what keeps the rounds
* `elected`: whom a vote elects
* `VoteOutcome`: what a vote does

## Main results

* `led_step`, `rounds_step`: the invariants
* `elected_eq_some_iff`: more than half of the guilds of the union elect
* `vote_outcome`, `vote_isOk`: the votes
-/

open Bounded Dispatch TransitionSystem

namespace Guilds

variable {AccountId L : Type}

/-! ### Masters -/

section Masters

variable [DecidableEq AccountId]

/-- Every guild has a master, and what is in a union is a guild. -/
structure Led (s : Federation AccountId L) : Prop where
  master : ∀ g, s.guilds.containsKey g = true → ∃ who, s.guildMembers.get (g, who) = some .master
  guild : ∀ g unionId, s.guildUnionOf.get g = some unionId → s.guilds.containsKey g = true

variable {cfg : Config AccountId} {s s' : Federation AccountId L}

theorem led_genesis (ledger : L) : Led (.genesis ledger : Federation AccountId L) where
  master g hg := by
    rw [StorageMap.containsKey_iff] at hg
    simp [Federation.genesis, Market.genesis] at hg
  guild g unionId hg := by simp [Federation.genesis] at hg

/-- A master of a guild that is in a union. -/
theorem Led.isMaster (h : Led s) {g unionId : ℕ} (hg : g ∈ members s unionId) :
    ∃ who, IsMaster s.toState who g := by
  have hguild := h.guild g unionId (StorageMap.mem_fibre.mp hg)
  obtain ⟨who, hwho⟩ := h.master g hguild
  exact ⟨who, hguild, hwho⟩

theorem Led.congr (h : Led s)
    (hguilds : ∀ g, s'.guilds.containsKey g = s.guilds.containsKey g)
    (hmembers : s'.guildMembers = s.guildMembers) (hof : s'.guildUnionOf = s.guildUnionOf) :
    Led s' where
  master g hg := by
    rw [hguilds] at hg
    rw [hmembers]
    exact h.master g hg
  guild g unionId hg := by
    rw [hguilds]
    rw [hof] at hg
    exact h.guild g unionId hg

variable [Currency AccountId L] [EscrowCurrency AccountId L]

/-- Nobody takes the rank of master from himself. -/
theorem Led.market (h : Led s) {origin : Origin AccountId} {c : Call AccountId}
    {t : State AccountId L} (ht : MarketTransition s.toState origin c t) :
    Led { s with toState := t } := by
  cases ht with
  | createGuild caller =>
    refine ⟨fun g hg => ?_, fun g unionId hg => ?_⟩
    · -- the founder of the new guild is its master
      by_cases hnew : g = s.nextGuildId
      · subst hnew
        exact ⟨caller, StorageMap.get_insert_self⟩
      · unfold StorageMap.containsKey at hg
        rw [StorageMap.get_insert_of_ne hnew] at hg
        obtain ⟨who, hwho⟩ := h.master g hg
        refine ⟨who, ?_⟩
        rw [← hwho]
        exact StorageMap.get_insert_of_ne fun he => hnew (Prod.ext_iff.mp he).1
    · exact StorageMap.containsKey_insert_of_containsKey (h.guild g unionId hg)
  | joinGuild caller guildId hnew =>
    refine ⟨fun g hg => ?_, fun g unionId hg => ?_⟩
    · rw [StorageMap.containsKey_modify] at hg
      obtain ⟨who, hwho⟩ := h.master g hg
      refine ⟨who, ?_⟩
      rw [← hwho]
      -- who joins was no member, and so no master
      refine StorageMap.get_insert_of_ne fun he => ?_
      rw [he, hnew] at hwho
      cases hwho
    · rw [StorageMap.containsKey_modify]
      exact h.guild g unionId hg
  | promoteMember caller guildId target newRole hmaster hother =>
    refine ⟨fun g hg => ?_, h.guild⟩
    -- the one who promotes stays a master
    by_cases hguild : g = guildId
    · subst hguild
      refine ⟨caller, ?_⟩
      rw [← hmaster]
      exact StorageMap.get_insert_of_ne fun he => hother (Prod.ext_iff.mp he).2
    · obtain ⟨who, hwho⟩ := h.master g hg
      refine ⟨who, ?_⟩
      rw [← hwho]
      exact StorageMap.get_insert_of_ne fun he => hguild (Prod.ext_iff.mp he).1
  | publishQuest => exact h.congr (fun _ => StorageMap.containsKey_modify) rfl rfl
  | assignQuest => exact h.congr (fun _ => rfl) rfl rfl
  | submitQuest => exact h.congr (fun _ => rfl) rfl rfl
  | completeQuest => exact h.congr (fun _ => rfl) rfl rfl
  | cancelQuest => exact h.congr (fun _ => rfl) rfl rfl
  | subscribeToAcademy => exact h.congr (fun _ => rfl) rfl rfl
  | forceResolveQuest => exact h.congr (fun _ => rfl) rfl rfl

theorem led_step {x : Input cfg L} (h : Led s) (hs : step cfg x s = .ok s') : Led s' := by
  cases step_transition hs with
  | market origin c t ht => exact h.market ht
  | cleanupAccount => exact h.congr (fun _ => rfl) rfl rfl
  | elsewhere => exact h.congr (fun _ => rfl) rfl rfl
  | union _ _ _ hunion hmarket =>
    have hguilds : ∀ g, s'.guilds.containsKey g = s.guilds.containsKey g := fun g => by
      rw [hmarket.guilds]
    cases hunion with
    | formGuildUnion _ _ ids _ _ _ _ _ hall _ _ _ hof =>
      refine ⟨fun g hg => ?_, fun g unionId hg => ?_⟩
      · rw [hguilds] at hg
        rw [hmarket.guildMembers]
        exact h.master g hg
      rw [hguilds]
      rw [hof, StorageMap.get_foldl_insert] at hg
      split at hg
      · next hmem => exact hall g hmem
      · exact h.guild g unionId hg
    | voteForGrandmaster _ _ _ _ _ _ _ _ _ _ _ _ hof =>
      exact h.congr hguilds hmarket.guildMembers hof
    | elevateUnion _ _ _ _ _ _ _ _ _ _ _ _ hof => exact h.congr hguilds hmarket.guildMembers hof
    | other _ _ hsame => exact h.congr hguilds hmarket.guildMembers hsame.guildUnionOf

end Masters

/-! ### Rounds -/

/-- The guilds of a union are counted, the votes are theirs, and not all have voted. -/
structure Round (cfg : Config AccountId) (s : Federation AccountId L) (unionId : ℕ)
    (u : GuildUnion AccountId) : Prop where
  counted : u.memberGuildCount = (members s unionId).card
  bounded : u.memberGuildCount ≤ cfg.maxUnionMembers
  cast : u.electionVotesCast = (s.grandmasterVotes.row unionId).card
  voters : s.grandmasterVotes.row unionId ⊆ members s unionId
  unfinished : (s.grandmasterVotes.row unionId).card < u.memberGuildCount

/-- Every union is in a round, and where there is no union there are no guilds and no votes. -/
structure Rounds (cfg : Config AccountId) (s : Federation AccountId L) : Prop where
  unions : ∀ unionId u, s.guildUnions.get unionId = some u → Round cfg s unionId u
  absent : ∀ unionId, s.guildUnions.get unionId = none →
    members s unionId = ∅ ∧ s.grandmasterVotes.row unionId = ∅

/-- A union is formed of guilds named once, under a free number, and is elevated between two rounds
without absorbing others. -/
def Orderly {cfg : Config AccountId} (s : Federation AccountId L) : Input cfg L → Prop
  | .call _ (.formGuildUnion _ ids) => ids.val.Nodup ∧ s.guildUnions.get s.nextUnionId = none
  | .call _ (.elevateUnion baseUnionId peers) =>
    peers.val = [] ∧ s.grandmasterVotes.row baseUnionId = ∅
  | _ => True

instance decidableOrderly {cfg : Config AccountId} (s : Federation AccountId L) :
    (x : Input cfg L) → Decidable (Orderly s x)
  | .call _ (.formGuildUnion _ ids) =>
    have : Decidable (s.guildUnions.get s.nextUnionId = none) :=
      decidable_of_iff _ Option.isNone_iff_eq_none
    inferInstanceAs (Decidable (ids.val.Nodup ∧ _))
  | .call _ (.elevateUnion baseUnionId peers) =>
    inferInstanceAs (Decidable (peers.val = [] ∧ s.grandmasterVotes.row baseUnionId = ∅))
  | .call _ (.voteForGrandmaster ..) => isTrue trivial
  | .call _ (.market _) => isTrue trivial
  | .call _ (.proposeAchievement ..) => isTrue trivial
  | .call _ (.createGuildFromRelayer ..) => isTrue trivial
  | .call _ (.updateCouncilFromRelayer ..) => isTrue trivial
  | .call _ (.createProposalFromRelayer ..) => isTrue trivial
  | .call _ (.voteProposalFromRelayer ..) => isTrue trivial
  | .cleanupAccount _ => isTrue trivial
  | .elsewhere _ => isTrue trivial

variable {cfg : Config AccountId} {s s' : Federation AccountId L} {unionId g : ℕ}
  {u : GuildUnion AccountId} {candidate d : AccountId}

theorem rounds_genesis (ledger : L) :
    Rounds cfg (.genesis ledger : Federation AccountId L) where
  unions unionId u hu := by simp [Federation.genesis] at hu
  absent unionId _ := by
    refine ⟨StorageMap.fibre_empty, ?_⟩
    ext g
    simp [Federation.genesis]

/-- What an input that is not about a union leaves of its round. -/
theorem Round.congr (h : Round cfg s unionId u) (hmembers : members s' unionId = members s unionId)
    (hrow : s'.grandmasterVotes.row unionId = s.grandmasterVotes.row unionId) :
    Round cfg s' unionId u where
  counted := by rw [h.counted, hmembers]
  bounded := h.bounded
  cast := by rw [h.cast, hrow]
  voters := by
    rw [hrow, hmembers]
    exact h.voters
  unfinished := by
    rw [hrow]
    exact h.unfinished

/-- A union without votes starts a round. -/
theorem Round.start (hcounted : u.memberGuildCount = (members s unionId).card)
    (hbounded : u.memberGuildCount ≤ cfg.maxUnionMembers) (hpos : 0 < u.memberGuildCount)
    (hcast : u.electionVotesCast = 0) (hrow : s.grandmasterVotes.row unionId = ∅) :
    Round cfg s unionId u where
  counted := hcounted
  bounded := hbounded
  cast := by rw [hrow, hcast, Finset.card_empty]
  voters := by
    rw [hrow]
    exact Finset.empty_subset _
  unfinished := by
    rw [hrow, Finset.card_empty]
    exact hpos

variable [DecidableEq AccountId]

/-! ### Votes -/

/-- Whom the vote of a guild for a candidate elects. -/
def elected (cfg : Config AccountId) (s : Federation AccountId L) (unionId voterGuildId : ℕ)
    (candidate : AccountId) : Option AccountId :=
  (s.guildUnions.get unionId).bind fun u =>
    tallyGrandmasterVotes cfg unionId u.memberGuildCount
      (s.grandmasterVotes.insert (unionId, voterGuildId) candidate)

/-- The guilds of a union that have voted for `d` when a guild has voted for a candidate. -/
def votersFor (s : Federation AccountId L) (unionId voterGuildId : ℕ) (candidate d : AccountId) :
    Finset ℕ :=
  (members s unionId).filter fun g =>
    (s.grandmasterVotes.insert (unionId, voterGuildId) candidate).get (unionId, g) = some d

/-- A guild of a union that has not voted. -/
structure MayVote (s : Federation AccountId L) (unionId g : ℕ) : Prop where
  member : g ∈ members s unionId
  first : s.grandmasterVotes.get (unionId, g) = none

section Round

variable (h : Round cfg s unionId u) (hv : MayVote s unionId g)
include h hv

omit h [DecidableEq AccountId] in
/-- The guilds that have voted, with one more. -/
theorem MayVote.card_row_insert (candidate : AccountId) :
    ((s.grandmasterVotes.insert (unionId, g) candidate).row unionId).card =
      (s.grandmasterVotes.row unionId).card + 1 := by
  rw [StorageMap.row_insert_self,
    Finset.card_insert_of_notMem (StorageMap.notMem_row.mpr hv.first)]

omit [DecidableEq AccountId] in
theorem Round.row_insert_subset :
    (s.grandmasterVotes.insert (unionId, g) candidate).row unionId ⊆ members s unionId := by
  rw [StorageMap.row_insert_self]
  exact Finset.insert_subset hv.member h.voters

theorem Round.votersFor_eq :
    votersFor s unionId g candidate d =
      supporters (s.grandmasterVotes.insert (unionId, g) candidate) unionId d := by
  ext g'
  unfold votersFor supporters
  rw [Finset.mem_filter, Finset.mem_filter]
  refine and_congr_left fun hget => ⟨fun _ => StorageMap.mem_row.mpr ⟨d, hget⟩, fun hrow => ?_⟩
  exact h.row_insert_subset hv hrow

/-- **More than half of the guilds of a union elect.** -/
theorem Round.elected_eq_some_iff (hget : s.guildUnions.get unionId = some u) :
    elected cfg s unionId g candidate = some d ↔
      (members s unionId).card < 2 * (votersFor s unionId g candidate d).card := by
  have hrow := hv.card_row_insert candidate
  have hle : ((s.grandmasterVotes.insert (unionId, g) candidate).row unionId).card ≤
      u.memberGuildCount := by
    rw [hrow]
    exact h.unfinished
  unfold elected
  rw [hget, Option.bind_some, tallyGrandmasterVotes_eq_some_iff (hle.trans h.bounded) hle,
    h.votersFor_eq hv, h.counted]

end Round

/-- What a vote does to its union: it elects, it starts the round over, or it leaves it open. -/
inductive VoteOutcome (cfg : Config AccountId) (s : Federation AccountId L) (unionId g : ℕ)
    (candidate : AccountId) (u : GuildUnion AccountId) (s' : Federation AccountId L) : Prop
  | election (d : AccountId) (helected : elected cfg s unionId g candidate = some d)
    (hunions : s'.guildUnions = s.guildUnions.insert unionId
      { u with
        grandmaster := d
        electionVotesFor := 0
        electionVotesCast := 0 })
    (hrow : s'.grandmasterVotes.row unionId = ∅)
  | restart (hnone : elected cfg s unionId g candidate = none)
    (hall : u.memberGuildCount ≤ (s.grandmasterVotes.row unionId).card + 1)
    (hunions : s'.guildUnions = s.guildUnions.insert unionId
      { u with
        electionVotesFor := 0
        electionVotesCast := 0 })
    (hrow : s'.grandmasterVotes.row unionId = ∅)
  | pending (hnone : elected cfg s unionId g candidate = none)
    (hopen : (s.grandmasterVotes.row unionId).card + 1 < u.memberGuildCount)
    (hunions : s'.guildUnions = s.guildUnions.insert unionId
      { u with electionVotesCast := (s.grandmasterVotes.row unionId).card + 1 })
    (hvotes : s'.grandmasterVotes = s.grandmasterVotes.insert (unionId, g) candidate)

omit [DecidableEq AccountId] in
theorem row_clearPrefix {ballots : StorageMap (ℕ × ℕ) AccountId} {limit : ℕ}
    (h : (ballots.row unionId).card ≤ limit) :
    (ballots.clearPrefix cfg.iterationOrder unionId limit).row unionId = ∅ := by
  rw [Finset.eq_empty_iff_forall_notMem]
  intro g
  rw [StorageMap.notMem_row]
  exact StorageMap.get_clearPrefix h g

/-- **What a vote does.** -/
theorem Round.vote_outcome (h : Round cfg s unionId u) (hv : MayVote s unionId g)
    (hget : s.guildUnions.get unionId = some u)
    (hafter : (s'.guildUnions, s'.grandmasterVotes) = afterVote cfg s unionId g candidate u) :
    VoteOutcome cfg s unionId g candidate u s' := by
  -- the votes of a round are fewer than a union may have guilds, so they can be counted
  have hcast : saturatingAdd u32Max u.electionVotesCast 1 =
      (s.grandmasterVotes.row unionId).card + 1 := by
    have hopen := h.unfinished
    have hbounded := h.bounded
    have hmax := cfg.maxUnionMembers_le
    unfold saturatingAdd
    rw [h.cast]
    omega
  have hrow : ((s.grandmasterVotes.insert (unionId, g) candidate).row unionId).card ≤
      cfg.maxUnionMembers := by
    rw [hv.card_row_insert]
    exact h.unfinished.trans_le h.bounded
  have helected : elected cfg s unionId g candidate =
      tallyGrandmasterVotes cfg unionId u.memberGuildCount
        (s.grandmasterVotes.insert (unionId, g) candidate) := by
    unfold elected
    rw [hget, Option.bind_some]
  unfold afterVote at hafter
  dsimp only at hafter
  rw [← helected, hcast] at hafter
  -- either somebody has more than half, or all have voted, or not
  split at hafter
  · next d hd =>
    obtain ⟨hunions, hvotes⟩ := Prod.ext_iff.mp hafter
    refine .election d hd hunions ?_
    dsimp only at hvotes
    rw [hvotes]
    exact row_clearPrefix (hrow.trans cfg.maxUnionMembers_le)
  · next hnone =>
    split at hafter
    · next hall =>
      obtain ⟨hunions, hvotes⟩ := Prod.ext_iff.mp hafter
      refine .restart hnone hall hunions ?_
      dsimp only at hvotes
      rw [hvotes]
      exact row_clearPrefix hrow
    · next hopen =>
      obtain ⟨hunions, hvotes⟩ := Prod.ext_iff.mp hafter
      exact .pending hnone (Nat.not_le.mp hopen) hunions hvotes

/-- A vote leaves the votes in other unions. -/
theorem row_afterVote_of_ne {other : ℕ} (hne : other ≠ unionId) :
    (afterVote cfg s unionId g candidate u).2.row other = s.grandmasterVotes.row other := by
  have hinsert := StorageMap.row_insert_of_ne (m := s.grandmasterVotes) (i := g) (v := candidate)
    hne
  unfold afterVote
  dsimp only
  split
  · rw [← hinsert]
    exact StorageMap.row_congr fun _ => StorageMap.get_clearPrefix_of_ne hne _ _
  · split
    · rw [← hinsert]
      exact StorageMap.row_congr fun _ => StorageMap.get_clearPrefix_of_ne hne _ _
    · exact hinsert

/-- After a vote the union is in a round again. -/
theorem Round.vote (h : Round cfg s unionId u) (hv : MayVote s unionId g)
    (hget : s.guildUnions.get unionId = some u) (hof : s'.guildUnionOf = s.guildUnionOf)
    (hafter : (s'.guildUnions, s'.grandmasterVotes) = afterVote cfg s unionId g candidate u) :
    ∃ u', s'.guildUnions = s.guildUnions.insert unionId u' ∧ Round cfg s' unionId u' := by
  have hmembers : members s' unionId = members s unionId := congrArg (·.fibre unionId) hof
  have hpos : 0 < u.memberGuildCount := Nat.zero_lt_of_lt h.unfinished
  cases h.vote_outcome hv hget hafter with
  | election d _ hunions hrow =>
    exact ⟨_, hunions, .start (hmembers ▸ h.counted) h.bounded hpos rfl hrow⟩
  | restart _ _ hunions hrow =>
    exact ⟨_, hunions, .start (hmembers ▸ h.counted) h.bounded hpos rfl hrow⟩
  | pending _ hopen hunions hvotes =>
    have hcard : (s'.grandmasterVotes.row unionId).card =
        (s.grandmasterVotes.row unionId).card + 1 := by
      rw [hvotes, hv.card_row_insert]
    refine ⟨_, hunions, hmembers ▸ h.counted, h.bounded, hcard.symm, ?_, hcard.trans_lt hopen⟩
    rw [hvotes, hmembers]
    exact h.row_insert_subset hv

/-! ### One step -/

/-- A vote leaves the rounds of other unions. -/
theorem Rounds.vote (h : Rounds cfg s) (hv : MayVote s unionId g)
    (hget : s.guildUnions.get unionId = some u) (hof : s'.guildUnionOf = s.guildUnionOf)
    (hafter : (s'.guildUnions, s'.grandmasterVotes) = afterVote cfg s unionId g candidate u) :
    Rounds cfg s' := by
  have hmembers : ∀ c, members s' c = members s c := fun c => congrArg (·.fibre c) hof
  have hrows : ∀ c, c ≠ unionId → s'.grandmasterVotes.row c = s.grandmasterVotes.row c := by
    intro c hc
    rw [show s'.grandmasterVotes = _ from congrArg Prod.snd hafter]
    exact row_afterVote_of_ne hc
  obtain ⟨u', hunions, hround⟩ := (h.unions unionId u hget).vote hv hget hof hafter
  constructor
  · intro c w hw
    rw [hunions] at hw
    rcases StorageMap.get_insert_cases hw with ⟨rfl, rfl⟩ | ⟨hne, hw⟩
    · exact hround
    · exact (h.unions c w hw).congr (hmembers c) (hrows c hne)
  · intro c hc
    rw [hunions] at hc
    obtain ⟨hne, hc⟩ := StorageMap.get_insert_eq_none.mp hc
    rw [hmembers, hrows c hne]
    exact h.absent c hc

omit [DecidableEq AccountId] in
/-- A new union starts a round. -/
theorem Rounds.form (h : Rounds cfg s) {ids : List ℕ} {founder : ℕ} {caller : AccountId}
    {tag : BoundedVec UInt8 maxNameLength} (hids : ids.length ≤ cfg.maxUnionMembers)
    (hfounder : ids.head? = some founder) (hfree : ∀ g ∈ ids, s.guildUnionOf.get g = none)
    (hunions : s'.guildUnions =
      s.guildUnions.insert s.nextUnionId (newUnion founder caller ids.length tag))
    (hof : s'.guildUnionOf = ids.foldl (fun m gid => m.insert gid s.nextUnionId) s.guildUnionOf)
    (hvotes : s'.grandmasterVotes = s.grandmasterVotes) (hnodup : ids.Nodup)
    (hnext : s.guildUnions.get s.nextUnionId = none) : Rounds cfg s' := by
  obtain ⟨hnobody, hnovotes⟩ := h.absent s.nextUnionId hnext
  have hcard : (members s' s.nextUnionId).card = ids.length := by
    unfold members at hnobody ⊢
    rw [hof, StorageMap.card_fibre_foldl_insert hfree, hnobody, Finset.card_empty,
      List.toFinset_card_of_nodup hnodup, Nat.add_zero]
  have hothers : ∀ c, c ≠ s.nextUnionId → members s' c = members s c := by
    intro c hc
    unfold members
    rw [hof, StorageMap.fibre_foldl_insert_of_ne hfree hc]
  constructor
  · intro c u hu
    rw [hunions] at hu
    rcases StorageMap.get_insert_cases hu with ⟨rfl, rfl⟩ | ⟨hne, hu⟩
    · -- the number was free, so nobody has voted under it
      refine .start hcard.symm hids ?_ rfl (hvotes ▸ hnovotes)
      exact List.length_pos_of_mem (List.mem_of_mem_head? hfounder)
    · exact (h.unions c u hu).congr (hothers c hne) (by rw [hvotes])
  · intro c hc
    rw [hunions] at hc
    obtain ⟨hne, hc⟩ := StorageMap.get_insert_eq_none.mp hc
    rw [hothers c hne, hvotes]
    exact h.absent c hc

omit [DecidableEq AccountId] in
/-- A union that is elevated between two rounds starts a round. -/
theorem Rounds.elevate (h : Rounds cfg s) {baseUnionId total : ℕ} {level : GuildUnionLevel}
    {unions : StorageMap ℕ (GuildUnion AccountId)}
    (hget : s.guildUnions.get baseUnionId = some u)
    (habsorb : absorb baseUnionId u.level [] u.memberGuildCount s.guildUnions = .ok (total, unions))
    (hunions : s'.guildUnions = unions.insert baseUnionId
      { u with
        level := level
        memberGuildCount := total
        electionVotesFor := 0
        electionVotesCast := 0 })
    (hof : s'.guildUnionOf = s.guildUnionOf) (hvotes : s'.grandmasterVotes = s.grandmasterVotes)
    (hrow : s.grandmasterVotes.row baseUnionId = ∅) : Rounds cfg s' := by
  obtain ⟨rfl, rfl⟩ := Prod.ext_iff.mp (pure_eq_ok.mp habsorb)
  have hmembers : ∀ c, members s' c = members s c := fun c => congrArg (·.fibre c) hof
  have hbase := h.unions baseUnionId u hget
  constructor
  · intro c v hv
    rw [hunions] at hv
    rcases StorageMap.get_insert_cases hv with ⟨rfl, rfl⟩ | ⟨-, hv⟩
    · exact .start (hmembers c ▸ hbase.counted) hbase.bounded
        (Nat.zero_lt_of_lt hbase.unfinished) rfl (hvotes ▸ hrow)
    · exact (h.unions c v hv).congr (hmembers c) (by rw [hvotes])
  · intro c hc
    rw [hunions] at hc
    rw [hmembers, hvotes]
    exact h.absent c (StorageMap.get_insert_eq_none.mp hc).2

/-- **An orderly input keeps the rounds.** -/
theorem rounds_step [Currency AccountId L] [EscrowCurrency AccountId L] {x : Input cfg L}
    (h : Rounds cfg s) (hx : Orderly s x) (hs : step cfg x s = .ok s') : Rounds cfg s' := by
  cases step_unions hs with
  | formGuildUnion caller _ ids _ founder tag hfounder _ _ hfree hunions _ hof hvotes =>
    exact h.form ids.property hfounder hfree hunions hof hvotes hx.1 hx.2
  | voteForGrandmaster _ unionId g candidate _ u hget _ hmember hfirst hafter _ hof =>
    exact h.vote ⟨StorageMap.mem_fibre.mpr hmember, hfirst⟩ hget hof hafter
  | elevateUnion _ _ peers _ u _ _ _ hget habsorb hunions _ hof hvotes =>
    rw [hx.1] at habsorb
    exact h.elevate hget habsorb hunions hof hvotes hx.2
  | other _ _ hsame =>
    have hmembers : ∀ c, members s' c = members s c := fun c =>
      congrArg (·.fibre c) hsame.guildUnionOf
    constructor
    · intro c u hu
      rw [hsame.guildUnions] at hu
      exact (h.unions c u hu).congr (hmembers c) (by rw [hsame.grandmasterVotes])
    · intro c hc
      rw [hsame.guildUnions] at hc
      rw [hmembers, hsame.grandmasterVotes]
      exact h.absent c hc

/-- A guild that has not voted can, by a master. -/
theorem vote_isOk [Currency AccountId L] [EscrowCurrency AccountId L]
    (hget : s.guildUnions.get unionId = some u) (hv : MayVote s unionId g) {who : AccountId}
    (hwho : IsMaster s.toState who g) (candidate : AccountId) :
    ∃ s', step cfg (.call (.signed who) (.voteForGrandmaster unionId g candidate)) s = .ok s' := by
  simp only [step, dispatchAll, voteForGrandmaster, ensureSigned_bind_eq_ok, required_bind_eq_ok,
    ensureMaster_bind_eq_ok, ensure_bind_eq_ok]
  have hmember : s.guildUnionOf.get g = some unionId := StorageMap.mem_fibre.mp hv.member
  -- no outcome of the vote is an error
  cases htally : tallyGrandmasterVotes cfg unionId u.memberGuildCount
      (s.grandmasterVotes.insert (unionId, g) candidate) with
  | some d => exact ⟨_, who, rfl, u, hget, hwho, hmember, hv.first, by rw [htally]; rfl⟩
  | none =>
    by_cases hall : u.memberGuildCount ≤ saturatingAdd u32Max u.electionVotesCast 1
    · exact ⟨_, who, rfl, u, hget, hwho, hmember, hv.first, by rw [htally, if_pos hall]; rfl⟩
    · exact ⟨_, who, rfl, u, hget, hwho, hmember, hv.first, by rw [htally, if_neg hall]; rfl⟩

end Guilds
