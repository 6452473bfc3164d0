import Altan.Guilds.Rounds

/-!
# The elections of grandmasters

In orderly runs the votes cast are the votes there are, and a vote elects the candidate for whom
more than half of the guilds of the union have voted in the round, whom nobody can share a majority
with. The guilds that agree on a candidate elect him; and no union is ever stuck: whatever the votes
so far, those who have not voted bring the round to its end, and in the next the guilds can agree.

When a union is counted with guilds that cannot vote, a round may never end.

## Main definitions

* `ElectsWithin`: a candidate is elected by one of several inputs
* `Electable`: the votes are counted, and every union can elect
* `Decides`: a vote elects exactly by a majority

## Main results

* `elects_of_agreed`: guilds that agree elect
* `round_ends`: every round can be ended
* `elections_sound`: the orderly runs
-/

open Bounded Dispatch TransitionSystem

namespace Guilds

variable {AccountId L : Type} [DecidableEq AccountId]

/-- A vote elects exactly by a majority of the guilds of the union; who is elected is grandmaster,
and a new round starts; and nobody else becomes grandmaster. -/
structure Majority (cfg : Config AccountId) (s s' : Federation AccountId L) (unionId g : ℕ)
    (candidate : AccountId) : Prop where
  majority : ∀ d, elected cfg s unionId g candidate = some d ↔
    (members s unionId).card < 2 * (votersFor s unionId g candidate d).card
  installed : ∀ d, elected cfg s unionId g candidate = some d →
    (s'.guildUnions.get unionId).map GuildUnion.grandmaster = some d ∧
      s'.grandmasterVotes.row unionId = ∅
  kept : elected cfg s unionId g candidate = none →
    (s'.guildUnions.get unionId).map GuildUnion.grandmaster =
      (s.guildUnions.get unionId).map GuildUnion.grandmaster

/-- What an accepted vote goes through and does. -/
structure Voted (cfg : Config AccountId) (s : Federation AccountId L) (unionId g : ℕ)
    (candidate : AccountId) (u : GuildUnion AccountId) (s' : Federation AccountId L) : Prop where
  union : s.guildUnions.get unionId = some u
  round : Round cfg s unionId u
  may : MayVote s unionId g
  outcome : VoteOutcome cfg s unionId g candidate u s'
  members : members s' unionId = members s unionId
  masters : ∀ who g', IsMaster s.toState who g' → IsMaster s'.toState who g'

variable {cfg : Config AccountId} {s s' : Federation AccountId L} {unionId g : ℕ}
  {u : GuildUnion AccountId} {c candidate : AccountId}

section Agreement

variable (hv : Voted cfg s unionId g c u s')
  (hsame : ∀ g' v, s.grandmasterVotes.get (unionId, g') = some v → v = c)
include hv hsame

/-- While all votes are for one candidate, nobody else is elected. -/
theorem Voted.elected_of_same {d : AccountId} (hd : elected cfg s unionId g c = some d) :
    d = c := by
  have hmajority := (hv.round.elected_eq_some_iff hv.may hv.union).mp hd
  have hpos : 0 < (votersFor s unionId g c d).card := by omega
  obtain ⟨g', hg'⟩ := Finset.card_pos.mp hpos
  rcases StorageMap.get_insert_cases (Finset.mem_filter.mp hg').2 with ⟨-, rfl⟩ | ⟨-, hget⟩
  · rfl
  · exact hsame g' d hget

/-- And a round does not end without a majority. -/
theorem Voted.open_of_same (hnone : elected cfg s unionId g c = none) :
    (s.grandmasterVotes.row unionId).card + 1 < u.memberGuildCount := by
  by_contra hall
  -- all votes are for the candidate
  have hsub : (s.grandmasterVotes.insert (unionId, g) c).row unionId ⊆
      votersFor s unionId g c c := by
    intro g' hg'
    obtain ⟨v, hget⟩ := StorageMap.mem_row.mp hg'
    have hvc : v = c := by
      rcases StorageMap.get_insert_cases hget with ⟨-, hvc⟩ | ⟨-, hold⟩
      · exact hvc.symm
      · exact hsame g' v hold
    exact Finset.mem_filter.mpr ⟨hv.round.row_insert_subset hv.may hg', hvc ▸ hget⟩
  have hcard := Finset.card_le_card hsub
  rw [hv.may.card_row_insert] at hcard
  have hcounted := hv.round.counted
  have hunfinished := hv.round.unfinished
  have hsome : elected cfg s unionId g c = some c :=
    (hv.round.elected_eq_some_iff hv.may hv.union).mpr (by omega)
  rw [hnone] at hsome
  cases hsome

end Agreement

variable [Currency AccountId L] [EscrowCurrency AccountId L]

/-- The vote of a guild for a candidate, by an account. -/
def ballot {cfg : Config AccountId} (unionId : ℕ) (candidate : AccountId) (b : AccountId × ℕ) :
    Input cfg L :=
  .call (.signed b.1) (.voteForGrandmaster unionId b.2 candidate)

/-- An accepted vote that elects `c` in a union. -/
def Elects (cfg : Config AccountId) (unionId : ℕ) (c : AccountId) (s : Federation AccountId L) :
    Input cfg L → Prop
  | .call origin (.voteForGrandmaster votedId g candidate) =>
    votedId = unionId ∧ elected cfg s unionId g candidate = some c ∧
      ∃ s', step cfg (.call origin (.voteForGrandmaster votedId g candidate)) s = .ok s'
  | _ => False

/-- One of several inputs elects `c` in a union. -/
def ElectsWithin (cfg : Config AccountId) (unionId : ℕ) (c : AccountId) :
    List (Input cfg L) → Federation AccountId L → Prop
  | [], _ => False
  | x :: xs, s => Elects cfg unionId c s x ∨ ElectsWithin cfg unionId c xs (exec (step cfg) x s)

/-- The votes cast in a union are the votes there are; guilds that agree on a candidate in a new
round elect him; and in any round there are votes that elect any candidate. -/
structure Electable (cfg : Config AccountId) (s : Federation AccountId L) : Prop where
  cast : ∀ unionId u, s.guildUnions.get unionId = some u →
    u.electionVotesCast = (s.grandmasterVotes.row unionId).card
  agreed : ∀ unionId c (bs : List (AccountId × ℕ)), s.guildUnions.containsKey unionId = true →
    s.grandmasterVotes.row unionId = ∅ → (∀ b ∈ bs, IsMaster s.toState b.1 b.2) →
      (∀ g ∈ members s unionId, ∃ b ∈ bs, b.2 = g) →
        ElectsWithin cfg unionId c (bs.map (ballot unionId c)) s
  able : ∀ unionId c, s.guildUnions.containsKey unionId = true →
    ∃ bs : List (AccountId × ℕ), ElectsWithin cfg unionId c (bs.map (ballot unionId c)) s

/-- Every vote elects exactly by a majority. -/
def Decides (cfg : Config AccountId) (s : Federation AccountId L) : Input cfg L → Prop
  | .call origin (.voteForGrandmaster unionId g candidate) =>
    Majority cfg s (exec (step cfg) (.call origin (.voteForGrandmaster unionId g candidate)) s)
      unionId g candidate
  | _ => True

theorem ElectsWithin.append {xs ys : List (Input cfg L)}
    (h : ElectsWithin cfg unionId c ys (run (step cfg) xs s)) :
    ElectsWithin cfg unionId c (xs ++ ys) s := by
  induction xs generalizing s with
  | nil => exact h
  | cons x xs ih => exact Or.inr (ih h)

/-! ### One vote -/

theorem vote_spec {origin : Origin AccountId} (h : Rounds cfg s)
    (hs : step cfg (.call origin (.voteForGrandmaster unionId g candidate)) s = .ok s') :
    ∃ u, Voted cfg s unionId g candidate u s' := by
  cases step_transition hs with
  | union _ _ _ hunion hmarket =>
    cases hunion with
    | voteForGrandmaster caller _ _ _ _ u hget _ hmember hfirst hafter _ hof =>
      have hv : MayVote s unionId g := ⟨StorageMap.mem_fibre.mpr hmember, hfirst⟩
      have hround := h.unions unionId u hget
      refine ⟨u, hget, hround, hv, hround.vote_outcome hv hget hafter,
        congrArg (·.fibre unionId) hof, fun who g' hwho => ⟨?_, ?_⟩⟩
      · rw [hmarket.guilds]
        exact hwho.guild
      · rw [hmarket.guildMembers]
        exact hwho.master
    | other _ _ _ _ hvote => exact absurd rfl (hvote origin unionId g candidate)

/-- **A vote decides by a majority.** -/
theorem decides_step {x : Input cfg L} (h : Rounds cfg s) (hs : step cfg x s = .ok s') :
    Decides cfg s x := by
  cases x with
  | call origin d =>
    cases d with
    | voteForGrandmaster unionId g candidate =>
      obtain ⟨u, hv⟩ := vote_spec h hs
      change Majority cfg s (exec (step cfg) _ s) unionId g candidate
      rw [exec_ok hs]
      refine ⟨fun d => hv.round.elected_eq_some_iff hv.may hv.union, ?_, ?_⟩
      · intro d hd
        cases hv.outcome with
        | election d' hd' hunions hrow =>
          obtain rfl := Option.some.inj (hd.symm.trans hd')
          refine ⟨?_, hrow⟩
          rw [hunions, StorageMap.get_insert_self]
          rfl
        | restart hnone =>
          rw [hnone] at hd
          cases hd
        | pending hnone =>
          rw [hnone] at hd
          cases hd
      · intro hnone
        cases hv.outcome with
        | election d hd =>
          rw [hnone] at hd
          cases hd
        | restart _ _ hunions =>
          rw [hunions, StorageMap.get_insert_self, hv.union]
          rfl
        | pending _ _ hunions =>
          rw [hunions, StorageMap.get_insert_self, hv.union]
          rfl
    | _ => trivial
  | _ => trivial

/-! ### Guilds that agree -/

/-- A guild of the union whose vote is refused has voted. -/
theorem voted_of_refused {who : AccountId} {e : DispatchError FederationError}
    (hget : s.guildUnions.get unionId = some u) (hmaster : IsMaster s.toState who g)
    (hmember : g ∈ members s unionId)
    (hs : step cfg (ballot (L := L) unionId c (who, g)) s = .error e) :
    g ∈ s.grandmasterVotes.row unionId := by
  by_contra hrow
  obtain ⟨s', hs'⟩ : ∃ s', step cfg (ballot (L := L) unionId c (who, g)) s = .ok s' :=
    vote_isOk hget ⟨hmember, StorageMap.notMem_row.mp hrow⟩ hmaster c
  cases hs.symm.trans hs'

omit [DecidableEq AccountId] in
/-- After an accepted vote for the same candidate, all votes are still for him. -/
theorem same_insert {votes : StorageMap (ℕ × ℕ) AccountId}
    (hsame : ∀ g v, votes.get (unionId, g) = some v → v = c) :
    ∀ g' v, (votes.insert (unionId, g) c).get (unionId, g') = some v → v = c := by
  intro g' v hg'
  rcases StorageMap.get_insert_cases hg' with ⟨-, rfl⟩ | ⟨-, hold⟩
  · rfl
  · exact hsame g' v hold

/-- **Guilds that agree elect.** While all votes are for a candidate, and everybody who has not
voted votes for him too, he is elected. -/
theorem elects_of_agreed {bs : List (AccountId × ℕ)} (h : Rounds cfg s)
    (hget : s.guildUnions.get unionId = some u)
    (hsame : ∀ g v, s.grandmasterVotes.get (unionId, g) = some v → v = c)
    (hmasters : ∀ b ∈ bs, IsMaster s.toState b.1 b.2)
    (hall : ∀ g ∈ members s unionId, g ∈ s.grandmasterVotes.row unionId ∨ ∃ b ∈ bs, b.2 = g) :
    ElectsWithin cfg unionId c (bs.map (ballot unionId c)) s := by
  -- on the votes that are left: an accepted one elects or leaves the round open, a refused one
  -- changes nothing
  induction bs generalizing s u with
  | nil =>
    -- all have voted, but then the round would be over
    have hround := h.unions unionId u hget
    have hsub : members s unionId ⊆ s.grandmasterVotes.row unionId := by
      intro g hg
      rcases hall g hg with hrow | ⟨b, hb, -⟩
      · exact hrow
      · cases hb
    have hcard := Finset.card_le_card hsub
    have hcounted := hround.counted
    have hunfinished := hround.unfinished
    omega
  | cons b bs ih =>
    obtain ⟨who, g⟩ := b
    have hrest : ∀ b ∈ bs, IsMaster s.toState b.1 b.2 := fun b hb =>
      hmasters b (List.mem_cons_of_mem _ hb)
    rcases exec_cases (step cfg) (ballot (L := L) unionId c (who, g)) s with
      ⟨s', hs, he⟩ | ⟨e, hs, he⟩
    · obtain ⟨u, hv⟩ := vote_spec h hs
      cases hv.outcome with
      | election d hd =>
        obtain rfl := hv.elected_of_same hsame hd
        exact Or.inl ⟨rfl, hd, s', hs⟩
      | restart hnone hlast =>
        exact absurd (hv.open_of_same hsame hnone) (Nat.not_lt.mpr hlast)
      | pending _ _ hunions hvotes =>
        refine Or.inr ?_
        rw [he]
        have hrounds : Rounds cfg s' :=
          rounds_step (x := ballot unionId c (who, g)) h trivial hs
        refine ih hrounds (by rw [hunions, StorageMap.get_insert_self])
          (hvotes ▸ same_insert hsame) (fun b hb => hv.masters b.1 b.2 (hrest b hb))
          fun g' hg' => ?_
        rw [hv.members] at hg'
        rw [hvotes, StorageMap.row_insert_self, Finset.mem_insert]
        rcases hall g' hg' with hrow | ⟨b, hb, rfl⟩
        · exact Or.inl (Or.inr hrow)
        · rcases List.mem_cons.mp hb with rfl | hb
          · exact Or.inl (Or.inl rfl)
          · exact Or.inr ⟨b, hb, rfl⟩
    · refine Or.inr ?_
      rw [he]
      refine ih h hget hsame hrest fun g' hg' => ?_
      rcases hall g' hg' with hrow | ⟨b, hb, rfl⟩
      · exact Or.inl hrow
      · rcases List.mem_cons.mp hb with rfl | hb'
        · exact Or.inl (voted_of_refused hget (hmasters _ hb) hg' hs)
        · exact Or.inr ⟨b, hb', rfl⟩

/-! ### Rounds that end -/

/-- **Every round can be ended**, by the votes of those who have not voted. -/
theorem round_ends (h : Rounds cfg s) (hl : Led s) (hget : s.guildUnions.get unionId = some u)
    (c : AccountId) :
    ∃ (bs : List (AccountId × ℕ)) (t : Federation AccountId L),
      run (step cfg) (bs.map (ballot unionId c)) s = t ∧ Rounds cfg t ∧ Led t ∧
        t.guildUnions.containsKey unionId = true ∧ t.grandmasterVotes.row unionId = ∅ := by
  -- on the number of guilds that have not voted
  induction hn : (members s unionId \ s.grandmasterVotes.row unionId).card generalizing s u with
  | zero =>
    have hround := h.unions unionId u hget
    have hcard := Finset.card_le_card
      (Finset.sdiff_eq_empty_iff_subset.mp (Finset.card_eq_zero.mp hn))
    have hcounted := hround.counted
    have hunfinished := hround.unfinished
    omega
  | succ n ih =>
    obtain ⟨g, hg⟩ : (members s unionId \ s.grandmasterVotes.row unionId).Nonempty :=
      Finset.card_pos.mp (hn ▸ Nat.succ_pos n)
    obtain ⟨hmember, hrow⟩ := Finset.mem_sdiff.mp hg
    obtain ⟨who, hwho⟩ := hl.isMaster hmember
    obtain ⟨s', hs⟩ : ∃ s', step cfg (ballot unionId c (who, g)) s = .ok s' :=
      vote_isOk hget ⟨hmember, StorageMap.notMem_row.mp hrow⟩ hwho c
    obtain ⟨v, hv⟩ := vote_spec h hs
    have hrounds : Rounds cfg s' := rounds_step (x := ballot unionId c (who, g)) h trivial hs
    have hled : Led s' := led_step hl hs
    cases hv.outcome with
    | election d _ hunions hempty =>
      refine ⟨[(who, g)], s', exec_ok hs, hrounds, hled, ?_, hempty⟩
      rw [hunions]
      exact StorageMap.containsKey_iff.mpr ⟨_, StorageMap.get_insert_self⟩
    | restart _ _ hunions hempty =>
      refine ⟨[(who, g)], s', exec_ok hs, hrounds, hled, ?_, hempty⟩
      rw [hunions]
      exact StorageMap.containsKey_iff.mpr ⟨_, StorageMap.get_insert_self⟩
    | pending _ _ hunions hvotes =>
      -- one guild less has not voted
      have hless : (members s' unionId \ s'.grandmasterVotes.row unionId).card = n := by
        rw [hv.members, hvotes, StorageMap.row_insert_self, Finset.sdiff_insert,
          Finset.card_erase_of_mem hg, hn, Nat.succ_sub_one]
      obtain ⟨bs, t, hrun, ht⟩ :=
        ih hrounds hled (by rw [hunions, StorageMap.get_insert_self]) hless
      refine ⟨(who, g) :: bs, t, ?_, ht⟩
      rw [List.map_cons, run_cons, exec_ok hs, hrun]

/-- **Every union can elect any candidate.** -/
theorem electable (h : Rounds cfg s) (hl : Led s) : Electable cfg s where
  cast unionId u hget := (h.unions unionId u hget).cast
  agreed unionId c bs hunion hrow hmasters hall := by
    obtain ⟨u, hget⟩ := StorageMap.containsKey_iff.mp hunion
    refine elects_of_agreed h hget (fun g v hg => ?_) hmasters fun g hg => Or.inr (hall g hg)
    rw [StorageMap.notMem_row.mp (hrow ▸ Finset.notMem_empty g)] at hg
    cases hg
  able unionId c hunion := by
    obtain ⟨u, hget⟩ := StorageMap.containsKey_iff.mp hunion
    obtain ⟨bs, t, rfl, hrounds, hled, hunion', hrow⟩ := round_ends h hl hget c
    set t := run (step cfg) (bs.map (ballot unionId c)) s
    obtain ⟨v, hget'⟩ := StorageMap.containsKey_iff.mp hunion'
    -- in the new round a master of every guild votes for the candidate
    choose master hmaster using fun g (hg : g ∈ members t unionId) => hled.isMaster hg
    refine ⟨bs ++ (members t unionId).attach.toList.map fun g => (master g.1 g.2, g.1), ?_⟩
    rw [List.map_append]
    refine ElectsWithin.append (elects_of_agreed hrounds hget' (fun g v hg => ?_) ?_ ?_)
    · rw [StorageMap.notMem_row.mp (hrow ▸ Finset.notMem_empty g)] at hg
      cases hg
    · intro b hb
      obtain ⟨g, -, rfl⟩ := List.mem_map.mp hb
      exact hmaster g.1 g.2
    · intro g hg
      refine Or.inr ⟨(master g hg, g), List.mem_map.mpr ⟨⟨g, hg⟩, ?_, rfl⟩, rfl⟩
      exact Finset.mem_toList.mpr (Finset.mem_attach _ _)

/-- In the orderly runs every union can elect in every state, and every vote decides by a
majority. -/
theorem elections_sound (cfg : Config AccountId) (ledger : L) (xs : List (Input cfg L))
    (horderly : Along (step cfg) Orderly xs (.genesis ledger)) :
    Throughout (step cfg) (Electable cfg) xs (.genesis ledger) ∧
      Along (step cfg) (Decides cfg) xs (.genesis ledger) := by
  have hstep : ∀ (x : Input cfg L) s s', Rounds cfg s ∧ Led s → Orderly s x →
      step cfg x s = .ok s' → Rounds cfg s' ∧ Led s' := by
    rintro x s s' ⟨hrounds, hled⟩ hx hs
    exact ⟨rounds_step hrounds hx hs, led_step hled hs⟩
  have hgenesis : Rounds cfg (.genesis ledger : Federation AccountId L) ∧
      Led (.genesis ledger : Federation AccountId L) := ⟨rounds_genesis ledger, led_genesis ledger⟩
  constructor
  · refine Throughout.imp ?_ (throughout_of_along hstep hgenesis horderly)
    rintro s ⟨hrounds, hled⟩
    exact electable hrounds hled
  · refine along_of_invariant hstep ?_ hgenesis horderly
    rintro x s s' ⟨hrounds, -⟩ - hs
    exact decides_step hrounds hs

/-! ### Runs in the runtime -/

/-- Three guilds form a union. -/
def alliance : List Runtime.GuildsInput :=
  [Runtime.founding 7, Runtime.founding 8, Runtime.founding 9,
    Runtime.forming 7 ⟨[0, 1, 2], by decide⟩]

/-- Each votes for another candidate, and the round starts over; then two agree, and the one who
is elected elevates the union. -/
def agreement : List Runtime.GuildsInput :=
  alliance ++
    [ballot 0 8 (7, 0), ballot 0 9 (8, 1), ballot 0 7 (9, 2), ballot 0 8 (7, 0), ballot 0 8 (8, 1),
      Runtime.rising 8 0]

theorem elections_sound_agreement :
    Throughout (step Runtime.guilds) (Electable Runtime.guilds) agreement Runtime.guildsGenesis ∧
      Along (step Runtime.guilds) (Decides Runtime.guilds) agreement Runtime.guildsGenesis :=
  elections_sound Runtime.guilds _ agreement (by decide +kernel)

/-- The only guild of a union, which is named twice, votes. -/
def stuck : List Runtime.GuildsInput := namedTwice ++ [ballot 0 7 (7, 0)]

/-- A union is elevated after one of its three guilds has voted. -/
def interrupted : List Runtime.GuildsInput :=
  alliance ++ [ballot 0 8 (8, 1), Runtime.rising 7 0]

/-- All guilds of a union vote for one candidate, who is not elected; and a vote is not counted. -/
theorem election_stuck :
    ¬ Along (step Runtime.guilds) (Decides Runtime.guilds) stuck Runtime.guildsGenesis ∧
      ¬ Throughout (step Runtime.guilds) (Electable Runtime.guilds) interrupted
        Runtime.guildsGenesis := by
  constructor
  · rintro ⟨-, -, hvote, -⟩
    obtain ⟨s', hs'⟩ := exists_ok (x := step Runtime.guilds (ballot 0 7 (7, 0))
      (run (step Runtime.guilds) namedTwice Runtime.guildsGenesis)) (by decide +kernel)
    have hmajority := (hvote s' hs').majority 7
    have hnot : ¬ elected Runtime.guilds
        (run (step Runtime.guilds) namedTwice Runtime.guildsGenesis) 0 0 7 = some 7 := by
      decide +kernel
    exact hnot (hmajority.mpr (by decide +kernel))
  · intro h
    have hcast : ((run (step Runtime.guilds) interrupted Runtime.guildsGenesis).guildUnions.get
        0).map GuildUnion.electionVotesCast = some 0 := by decide +kernel
    have hrow : ((run (step Runtime.guilds) interrupted
        Runtime.guildsGenesis).grandmasterVotes.row 0).card = 1 := by decide +kernel
    obtain ⟨u, hu, hzero⟩ := Option.map_eq_some_iff.mp hcast
    have hcounted := h.last.cast 0 u hu
    rw [hzero, hrow] at hcounted
    cases hcounted

end Guilds
