import Altan.Foundation.Fibre
import Altan.Runtime.Constants

/-!
# The guilds of a union

The number of guilds in a union is kept beside the union every guild is in. It is the length of the
list the union is formed with, which may name a guild twice; and a union that absorbs others adds
their numbers to its own, but their guilds stay in the unions that are gone. The numbers of unions
do not wrap but stop at their bound, so that the last one is given again. When none of this happens,
the number is right.

## Main definitions

* `members`: the guilds of a union
* `Consistent`: every guild is in a union that exists, and every union has its number of guilds
* `Separate`: what may not happen

## Main results

* `consistent_step_iff`: one step
* `unions_consistent_iff`: the runs that are consistent throughout
-/

open Bounded Dispatch TransitionSystem

namespace Guilds

variable {AccountId L : Type}

/-- The guilds of a union. -/
def members (s : Federation AccountId L) (unionId : ℕ) : Finset ℕ := s.guildUnionOf.fibre unionId

/-- Every guild is in a union that exists, and every union has its number of guilds. -/
structure Consistent (s : Federation AccountId L) : Prop where
  present : ∀ g unionId, s.guildUnionOf.get g = some unionId →
    s.guildUnions.containsKey unionId = true
  counted : ∀ unionId u, s.guildUnions.get unionId = some u →
    u.memberGuildCount = (members s unionId).card

/-- No union is empty. -/
def Populated (s : Federation AccountId L) : Prop :=
  ∀ unionId u, s.guildUnions.get unionId = some u → 0 < u.memberGuildCount

/-- A union is formed of as many guilds as its list and the union that had its number name
together, and absorbs no others. -/
def Separate {cfg : Config AccountId} (s : Federation AccountId L) : Input cfg L → Prop
  | .call _ (.formGuildUnion _ ids) =>
    ids.val.length = ids.val.toFinset.card + (members s s.nextUnionId).card
  | .call _ (.elevateUnion _ peers) => peers.val = []
  | _ => True

variable [DecidableEq AccountId] {cfg : Config AccountId} {s s' : Federation AccountId L}

/-! ### What the inputs do to the numbers -/

omit [DecidableEq AccountId] in
theorem populated_genesis (ledger : L) : Populated (.genesis ledger : Federation AccountId L) := by
  intro unionId u hu
  simp [Federation.genesis] at hu

omit [DecidableEq AccountId] in
theorem consistent_genesis (ledger : L) :
    Consistent (.genesis ledger : Federation AccountId L) where
  present g unionId hg := by simp [Federation.genesis] at hg
  counted unionId u hu := by simp [Federation.genesis] at hu

omit [DecidableEq AccountId] in
/-- The guilds and the numbers of the unions are what counts. -/
theorem Consistent.congr (h : Consistent s) (hof : s'.guildUnionOf = s.guildUnionOf)
    (hunions : ∀ unionId, (s'.guildUnions.get unionId).map GuildUnion.memberGuildCount =
      (s.guildUnions.get unionId).map GuildUnion.memberGuildCount) : Consistent s' where
  present g unionId hg := by
    rw [hof] at hg
    have hkey := h.present g unionId hg
    unfold StorageMap.containsKey at hkey ⊢
    rw [← Option.isSome_map (f := GuildUnion.memberGuildCount), hunions, Option.isSome_map]
    exact hkey
  counted unionId u hu := by
    have hcount := hunions unionId
    rw [hu, Option.map_some] at hcount
    obtain ⟨u', hu', he⟩ := Option.map_eq_some_iff.mp hcount.symm
    unfold members
    rw [hof, ← he]
    exact h.counted unionId u' hu'

/-- A vote keeps the number of guilds, and the level. -/
theorem afterVote_union (cfg : Config AccountId) (unionId voterGuildId : ℕ) (candidate : AccountId)
    (u : GuildUnion AccountId) :
    ∃ u', (afterVote cfg s unionId voterGuildId candidate u).1 = s.guildUnions.insert unionId u' ∧
      u'.memberGuildCount = u.memberGuildCount ∧ u'.level = u.level := by
  unfold afterVote
  dsimp only
  split
  · exact ⟨_, rfl, rfl, rfl⟩
  · split
    · exact ⟨_, rfl, rfl, rfl⟩
    · exact ⟨_, rfl, rfl, rfl⟩

omit [DecidableEq AccountId] in
/-- What a union absorbs was there, of its level, and is gone. -/
theorem absorb_spec {baseUnionId : ℕ} {level : GuildUnionLevel} {pids : List ℕ} {n total : ℕ}
    {unions unions' : StorageMap ℕ (GuildUnion AccountId)}
    (h : absorb baseUnionId level pids n unions = .ok (total, unions')) :
    (∀ p ∈ pids, p ≠ baseUnionId ∧ ∃ peer, unions.get p = some peer ∧ peer.level = level) ∧
      (∀ unionId, unions'.get unionId = if unionId ∈ pids then none else unions.get unionId) ∧
      (0 < n → 0 < total) := by
  -- on the list: what is absorbed later is looked up among what is left
  induction pids generalizing n unions with
  | nil =>
    obtain ⟨rfl, rfl⟩ := Prod.ext_iff.mp (pure_eq_ok.mp h)
    exact ⟨by simp, by simp, id⟩
  | cons p pids ih =>
    simp only [absorb, ensure_bind_eq_ok, required_bind_eq_ok] at h
    obtain ⟨hne, peer, hpeer, hlevel, h⟩ := h
    obtain ⟨hpids, hunions, htotal⟩ := ih h
    refine ⟨?_, ?_, ?_⟩
    · intro q hq
      rcases List.mem_cons.mp hq with rfl | hq
      · exact ⟨hne, peer, hpeer, hlevel⟩
      · obtain ⟨hqbase, peer', hpeer', hlevel'⟩ := hpids q hq
        rw [StorageMap.get_remove] at hpeer'
        split at hpeer'
        · cases hpeer'
        · exact ⟨hqbase, peer', hpeer', hlevel'⟩
    · intro unionId
      rw [hunions, StorageMap.get_remove]
      -- a union is gone from the first time it is named
      by_cases hp : unionId = p
      · rw [if_pos hp, ite_self, if_pos (List.mem_cons.mpr (Or.inl hp))]
      · rw [if_neg hp]
        refine if_congr ?_ rfl rfl
        rw [List.mem_cons, or_iff_right hp]
    · intro hn
      apply htotal
      unfold saturatingAdd u32Max
      omega

/-! ### One step -/

theorem populated_step [Currency AccountId L] [EscrowCurrency AccountId L] {x : Input cfg L}
    (hp : Populated s) (hs : step cfg x s = .ok s') : Populated s' := by
  intro unionId u hu
  cases step_unions hs with
  | formGuildUnion caller industryTag ids _ founder tag hfounder _ _ _ hunions =>
    rw [hunions] at hu
    rcases StorageMap.get_insert_cases hu with ⟨-, rfl⟩ | ⟨-, hu⟩
    · exact List.length_pos_of_mem (List.mem_of_mem_head? hfounder)
    · exact hp unionId u hu
  | voteForGrandmaster caller votedId voterGuildId candidate _ v hget _ _ _ hafter =>
    obtain ⟨v', hunions, hcount, -⟩ := afterVote_union (s := s) cfg votedId voterGuildId
      candidate v
    rw [← congrArg Prod.fst hafter] at hunions
    change s'.guildUnions = _ at hunions
    rw [hunions] at hu
    rcases StorageMap.get_insert_cases hu with ⟨-, rfl⟩ | ⟨-, hu⟩
    · rw [hcount]
      exact hp votedId v hget
    · exact hp unionId u hu
  | elevateUnion caller baseUnionId peers _ v level total unions hget habsorb hunions =>
    obtain ⟨-, hrest, hpos⟩ := absorb_spec habsorb
    rw [hunions] at hu
    rcases StorageMap.get_insert_cases hu with ⟨-, rfl⟩ | ⟨-, hu⟩
    · exact hpos (hp baseUnionId v hget)
    · rw [hrest] at hu
      split at hu
      · cases hu
      · exact hp unionId u hu
  | other _ _ hsame =>
    rw [hsame.guildUnions] at hu
    exact hp unionId u hu

omit [DecidableEq AccountId] in
/-- The number of a new union is right just when the union is separate. -/
theorem consistent_form_iff (h : Consistent s) {ids : List ℕ} {founder : ℕ} {caller : AccountId}
    {tag : BoundedVec UInt8 maxNameLength} (hfree : ∀ g ∈ ids, s.guildUnionOf.get g = none)
    (hunions : s'.guildUnions =
      s.guildUnions.insert s.nextUnionId (newUnion founder caller ids.length tag))
    (hof : s'.guildUnionOf = ids.foldl (fun m gid => m.insert gid s.nextUnionId) s.guildUnionOf) :
    Consistent s' ↔ ids.length = ids.toFinset.card + (members s s.nextUnionId).card := by
  have hmembers : (members s' s.nextUnionId).card =
      ids.toFinset.card + (members s s.nextUnionId).card := by
    unfold members
    rw [hof]
    exact StorageMap.card_fibre_foldl_insert hfree
  constructor
  · intro h'
    rw [← hmembers]
    refine h'.counted s.nextUnionId (newUnion founder caller ids.length tag) ?_
    rw [hunions, StorageMap.get_insert_self]
  · intro hseparate
    refine ⟨fun g unionId hg => ?_, fun unionId u hu => ?_⟩
    · rw [hof, StorageMap.get_foldl_insert] at hg
      rw [hunions]
      split at hg
      · obtain rfl := Option.some.inj hg
        exact StorageMap.containsKey_iff.mpr ⟨_, StorageMap.get_insert_self⟩
      · exact StorageMap.containsKey_insert_of_containsKey (h.present g unionId hg)
    · rw [hunions] at hu
      -- the other unions have the guilds they had
      rcases StorageMap.get_insert_cases hu with ⟨rfl, rfl⟩ | ⟨hne, hu⟩
      · rw [hmembers]
        exact hseparate
      · rw [h.counted unionId u hu]
        unfold members
        rw [hof, StorageMap.fibre_foldl_insert_of_ne hfree hne]

omit [DecidableEq AccountId] in
/-- The guilds of an absorbed union are in no union that exists, so it has none. -/
theorem consistent_elevate_iff (h : Consistent s) (hp : Populated s) {baseUnionId total : ℕ}
    {peers : List ℕ} {u : GuildUnion AccountId} {level : GuildUnionLevel}
    {unions : StorageMap ℕ (GuildUnion AccountId)}
    (hget : s.guildUnions.get baseUnionId = some u)
    (habsorb : absorb baseUnionId u.level peers u.memberGuildCount s.guildUnions =
      .ok (total, unions))
    (hunions : s'.guildUnions = unions.insert baseUnionId
      { u with
        level := level
        memberGuildCount := total
        electionVotesFor := 0
        electionVotesCast := 0 })
    (hof : s'.guildUnionOf = s.guildUnionOf) : Consistent s' ↔ peers = [] := by
  constructor
  · intro h'
    obtain ⟨hpeers, hrest, -⟩ := absorb_spec habsorb
    refine List.eq_nil_iff_forall_not_mem.mpr fun p hpmem => ?_
    obtain ⟨hne, peer, hpeer, -⟩ := hpeers p hpmem
    -- a guild of the union, which is gone
    have hcard := hp p peer hpeer
    rw [h.counted p peer hpeer, Finset.card_pos] at hcard
    obtain ⟨g, hg⟩ := hcard
    have hgone := h'.present g p (hof ▸ StorageMap.mem_fibre.mp hg)
    rw [hunions, StorageMap.containsKey_iff] at hgone
    obtain ⟨v, hv⟩ := hgone
    rw [StorageMap.get_insert_of_ne hne, hrest, if_pos hpmem] at hv
    cases hv
  · rintro rfl
    obtain ⟨rfl, rfl⟩ := Prod.ext_iff.mp (pure_eq_ok.mp habsorb)
    refine h.congr hof fun unionId => ?_
    rw [hunions]
    exact StorageMap.map_get_insert hget rfl

/-- **An input keeps the numbers right exactly when it keeps the unions separate.** -/
theorem consistent_step_iff [Currency AccountId L] [EscrowCurrency AccountId L] {x : Input cfg L}
    (hp : Populated s) (h : Consistent s) (hs : step cfg x s = .ok s') :
    Consistent s' ↔ Separate s x := by
  cases step_unions hs with
  | formGuildUnion caller industryTag ids _ founder tag _ _ _ hfree hunions _ hof =>
    exact consistent_form_iff h hfree hunions hof
  | voteForGrandmaster caller unionId voterGuildId candidate _ u hget _ _ _ hafter _ hof =>
    -- the vote writes the record of the union, and not its number
    obtain ⟨u', hunions, hcount, -⟩ := afterVote_union (s := s) cfg unionId voterGuildId
      candidate u
    rw [← congrArg Prod.fst hafter] at hunions
    refine iff_of_true (h.congr hof fun c => ?_) trivial
    change s'.guildUnions = _ at hunions
    rw [hunions]
    exact StorageMap.map_get_insert hget hcount
  | elevateUnion caller baseUnionId peers _ u level total unions hget habsorb hunions _ hof =>
    exact consistent_elevate_iff h hp hget habsorb hunions hof
  | other _ _ hsame hform _ helevate =>
    refine iff_of_true (h.congr hsame.guildUnionOf fun unionId => by rw [hsame.guildUnions]) ?_
    cases x with
    | call origin d =>
      cases d with
      | formGuildUnion tag ids => exact absurd rfl (hform origin tag ids)
      | elevateUnion base peers => exact absurd rfl (helevate origin base peers)
      | _ => trivial
    | _ => trivial

/-- The numbers are right throughout exactly the runs in which every union is formed of as many
guilds as its list and the union that had its number name together, and none absorbs others. -/
theorem unions_consistent_iff [Currency AccountId L] [EscrowCurrency AccountId L]
    (cfg : Config AccountId) (ledger : L) (xs : List (Input cfg L)) :
    Throughout (step cfg) Consistent xs (.genesis ledger) ↔
      Along (step cfg) Separate xs (.genesis ledger) :=
  throughout_iff_along (J := Populated) (fun _ _ _ hp hs => populated_step hp hs)
    (fun _ _ _ hp h hs => consistent_step_iff hp h hs) (populated_genesis ledger)
    (consistent_genesis ledger)

/-! ### Guilds named twice, and guilds of a union that is gone -/

/-- A union is formed of one guild, named twice. -/
def namedTwice : List Runtime.GuildsInput :=
  [Runtime.founding 7, Runtime.forming 7 ⟨[0, 0], by decide⟩]

/-- A union of one guild absorbs another. -/
def absorbing : List Runtime.GuildsInput :=
  [Runtime.founding 7, Runtime.founding 8, Runtime.forming 7 ⟨[0], by decide⟩,
    Runtime.forming 8 ⟨[1], by decide⟩,
    Runtime.guildsCall 7 (.elevateUnion 0 ⟨[1], by decide⟩)]

/-- A union of one guild has two by its number, and a guild is in a union that is gone. -/
theorem union_miscounted :
    ¬ Throughout (step Runtime.guilds) Consistent namedTwice Runtime.guildsGenesis ∧
      ¬ Throughout (step Runtime.guilds) Consistent absorbing Runtime.guildsGenesis := by
  constructor
  · intro h
    have hunion : ((run (step Runtime.guilds) namedTwice Runtime.guildsGenesis).guildUnions.get
        0).map GuildUnion.memberGuildCount = some 2 := by decide +kernel
    have hcard : (members (run (step Runtime.guilds) namedTwice Runtime.guildsGenesis) 0).card =
        1 := by decide +kernel
    obtain ⟨u, hu, hcount⟩ := Option.map_eq_some_iff.mp hunion
    have hcounted := h.last.counted 0 u hu
    rw [hcount, hcard] at hcounted
    cases hcounted
  · intro h
    have hmember : (run (step Runtime.guilds) absorbing Runtime.guildsGenesis).guildUnionOf.get 1 =
        some 1 := by decide +kernel
    have hgone : (run (step Runtime.guilds) absorbing
        Runtime.guildsGenesis).guildUnions.containsKey 1 = false := by decide +kernel
    have hpresent := h.last.present 1 1 hmember
    rw [hgone] at hpresent
    cases hpresent

end Guilds
