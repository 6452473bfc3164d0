import Altan.Foundation.Accounting
import Altan.Guilds.Rounds

/-!
# The academy

Whoever leads a union of the last level is admitted to the academy. A union of two guilds that
absorbs another of its level three times unites sixteen guilds, but a union may be formed of one
guild and absorb none; and neither the guilds a union is formed of nor the unions it absorbs are
asked. What a union has grown from is not stored: it is a history of the calls.

## Main definitions

* `Growth`, `grow`: what the unions have grown from, and how an input adds to it
* `admits`: whom an input admits to the academy, as the leader of which union
* `Honest`: whoever is admitted leads sixteen guilds, and guilds and unions join by a call of their
  own leaders
* `Proper`: the condition

## Main results

* `grown_step`: a union that has grown properly unites as many guilds as its level says
* `honest_iff`: one step
* `academy_honest_iff`: the runs that are honest throughout
* `academician_alone`: a master of one guild admits himself
-/

open Bounded Dispatch TransitionSystem

namespace Guilds

variable {AccountId L : Type}

/-! ### What the unions have grown from -/

/-- The place of a level. -/
def GuildUnionLevel.rank : GuildUnionLevel → ℕ
  | .guildArbad => 0
  | .guildZun => 1
  | .guildMyangad => 2
  | .guildTumed => 3

theorem GuildUnionLevel.rank_next {level next : GuildUnionLevel} (h : level.next = some next) :
    next.rank = level.rank + 1 := by
  cases level <;> cases h <;> rfl

/-- What a union has grown from: the guilds it unites, and whether it was formed of two guilds at
least, has absorbed a union at every level, and so have those. -/
structure Growth where
  guilds : Finset ℕ
  grown : Bool
  deriving DecidableEq

/-- What every union has grown from. -/
abbrev Ancestry : Type := ℕ → Growth

/-- The growth of a new union. -/
def Growth.formed (ids : List ℕ) : Growth := ⟨ids.toFinset, decide (2 ≤ ids.toFinset.card)⟩

/-- The growth of a union that absorbs others. -/
def Ancestry.merged (h : Ancestry) (baseUnionId : ℕ) (peers : List ℕ) : Growth where
  guilds := (h baseUnionId).guilds ∪ peers.toFinset.biUnion fun p => (h p).guilds
  grown := (h baseUnionId).grown && !peers.isEmpty && peers.all fun p => (h p).grown

/-- What an accepted input adds to the growth of the unions. -/
def grow {cfg : Config AccountId} (s : Federation AccountId L) (x : Input cfg L) (h : Ancestry) :
    Ancestry :=
  match x with
  | .call _ (.formGuildUnion _ ids) => Function.update h s.nextUnionId (.formed ids.val)
  | .call _ (.elevateUnion baseUnionId peers) =>
    Function.update h baseUnionId (h.merged baseUnionId peers.val)
  | _ => h

/-- The guilds of a union are in the index, those of two unions are different, and a union that has
grown properly unites two guilds at least, and twice as many at every level. -/
structure Grown (s : Federation AccountId L) (h : Ancestry) : Prop where
  indexed : ∀ id u, s.guildUnions.get id = some u → ∀ g ∈ (h id).guilds,
    s.guildUnionOf.get g ≠ none
  disjoint : ∀ id id' u u', s.guildUnions.get id = some u → s.guildUnions.get id' = some u' →
    id ≠ id' → Disjoint (h id).guilds (h id').guilds
  size : ∀ id u, s.guildUnions.get id = some u → (h id).grown = true →
    2 ^ (u.level.rank + 1) ≤ (h id).guilds.card

theorem grown_genesis (ledger : L) (h : Ancestry) :
    Grown (.genesis ledger : Federation AccountId L) h where
  indexed id u hu := by simp [Federation.genesis] at hu
  disjoint id id' u u' hu := by simp [Federation.genesis] at hu
  size id u hu := by simp [Federation.genesis] at hu

variable {cfg : Config AccountId} {s s' : Federation AccountId L} {h : Ancestry}

/-- The unions and their levels are what counts. -/
theorem Grown.congr (hg : Grown s h) (hof : s'.guildUnionOf = s.guildUnionOf)
    (hunions : ∀ id, (s'.guildUnions.get id).map GuildUnion.level =
      (s.guildUnions.get id).map GuildUnion.level) : Grown s' h := by
  have hold : ∀ id u, s'.guildUnions.get id = some u →
      ∃ u', s.guildUnions.get id = some u' ∧ u'.level = u.level := by
    intro id u hu
    have hlevel := hunions id
    rw [hu, Option.map_some] at hlevel
    exact Option.map_eq_some_iff.mp hlevel.symm
  refine ⟨fun id u hu g hmem => ?_, fun id id' u u' hu hu' hne => ?_, fun id u hu hgrown => ?_⟩
  · obtain ⟨v, hv, -⟩ := hold id u hu
    rw [hof]
    exact hg.indexed id v hv g hmem
  · obtain ⟨v, hv, -⟩ := hold id u hu
    obtain ⟨v', hv', -⟩ := hold id' u' hu'
    exact hg.disjoint id id' v v' hv hv' hne
  · obtain ⟨v, hv, hlevel⟩ := hold id u hu
    rw [← hlevel]
    exact hg.size id v hv hgrown

/-- A new union is of guilds that are in no other. -/
theorem Grown.form (hg : Grown s h) {ids : List ℕ} {founder : ℕ} {caller : AccountId}
    {tag : BoundedVec UInt8 maxNameLength} (hfree : ∀ g ∈ ids, s.guildUnionOf.get g = none)
    (hunions : s'.guildUnions =
      s.guildUnions.insert s.nextUnionId (newUnion founder caller ids.length tag))
    (hof : s'.guildUnionOf = ids.foldl (fun m gid => m.insert gid s.nextUnionId) s.guildUnionOf) :
    Grown s' (Function.update h s.nextUnionId (.formed ids)) := by
  have hother : ∀ id u, s.guildUnions.get id = some u → Disjoint ids.toFinset (h id).guilds := by
    intro id u hu
    rw [Finset.disjoint_left]
    intro g hmem
    exact fun hin => hg.indexed id u hu g hin (hfree g (List.mem_toFinset.mp hmem))
  refine ⟨fun id u hu g hmem => ?_, fun id id' u u' hu hu' hne => ?_, fun id u hu hgrown => ?_⟩
  · -- whoever is in a union is indexed
    rw [hof, StorageMap.get_foldl_insert]
    split
    · exact Option.some_ne_none _
    · next hout =>
      rw [hunions] at hu
      rcases StorageMap.get_insert_cases hu with ⟨rfl, -⟩ | ⟨hne, hu⟩
      · rw [Function.update_self] at hmem
        exact absurd (List.mem_toFinset.mp hmem) hout
      · rw [Function.update_of_ne hne] at hmem
        exact hg.indexed id u hu g hmem
  · -- two unions are of different guilds
    rw [hunions] at hu hu'
    rcases StorageMap.get_insert_cases hu with ⟨rfl, -⟩ | ⟨hid, hu⟩
    · rcases StorageMap.get_insert_cases hu' with ⟨rfl, -⟩ | ⟨hid', hu'⟩
      · exact absurd rfl hne
      · rw [Function.update_self, Function.update_of_ne hid']
        exact hother id' u' hu'
    · rw [Function.update_of_ne hid]
      rcases StorageMap.get_insert_cases hu' with ⟨rfl, -⟩ | ⟨hid', hu'⟩
      · rw [Function.update_self]
        exact (hother id u hu).symm
      · rw [Function.update_of_ne hid']
        exact hg.disjoint id id' u u' hu hu' hne
  · rw [hunions] at hu
    rcases StorageMap.get_insert_cases hu with ⟨rfl, rfl⟩ | ⟨hid, hu⟩
    · rw [Function.update_self] at hgrown ⊢
      exact of_decide_eq_true hgrown
    · rw [Function.update_of_ne hid] at hgrown ⊢
      exact hg.size id u hu hgrown

/-- **A union that absorbs another of its level unites twice as many.** -/
theorem Grown.merged_card (hg : Grown s h) {baseUnionId : ℕ} {peers : List ℕ}
    {u : GuildUnion AccountId} (hget : s.guildUnions.get baseUnionId = some u)
    (hpeers : ∀ p ∈ peers, p ≠ baseUnionId ∧
      ∃ peer, s.guildUnions.get p = some peer ∧ peer.level = u.level)
    (hgrown : (h.merged baseUnionId peers).grown = true) :
    2 ^ (u.level.rank + 1 + 1) ≤ (h.merged baseUnionId peers).guilds.card := by
  simp only [Ancestry.merged, Bool.and_eq_true, Bool.not_eq_true', List.isEmpty_eq_false_iff,
    List.all_eq_true] at hgrown
  obtain ⟨⟨hbase, hne⟩, hall⟩ := hgrown
  -- one of those it absorbs is enough
  obtain ⟨p, hp⟩ := List.exists_mem_of_ne_nil peers hne
  obtain ⟨hpbase, peer, hpeer, hlevel⟩ := hpeers p hp
  have hfirst := hg.size baseUnionId u hget hbase
  have hsecond := hg.size p peer hpeer (hall p hp)
  rw [hlevel] at hsecond
  have hdisjoint := hg.disjoint baseUnionId p u peer hget hpeer hpbase.symm
  have hsubset : (h baseUnionId).guilds ∪ (h p).guilds ⊆ (h.merged baseUnionId peers).guilds := by
    refine Finset.union_subset_union_right ?_
    exact Finset.subset_biUnion_of_mem (fun p => (h p).guilds) (List.mem_toFinset.mpr hp)
  calc 2 ^ (u.level.rank + 1 + 1)
      = 2 ^ (u.level.rank + 1) + 2 ^ (u.level.rank + 1) := by rw [pow_succ, Nat.mul_two]
    _ ≤ (h baseUnionId).guilds.card + (h p).guilds.card := Nat.add_le_add hfirst hsecond
    _ = ((h baseUnionId).guilds ∪ (h p).guilds).card :=
        (Finset.card_union_of_disjoint hdisjoint).symm
    _ ≤ (h.merged baseUnionId peers).guilds.card := Finset.card_le_card hsubset

/-- A union that absorbs others unites its guilds and theirs. -/
theorem Grown.elevate (hg : Grown s h) {baseUnionId total : ℕ} {peers : List ℕ}
    {u u' : GuildUnion AccountId} {unions : StorageMap ℕ (GuildUnion AccountId)}
    (hget : s.guildUnions.get baseUnionId = some u) (hlevel : u.level.next = some u'.level)
    (habsorb : absorb baseUnionId u.level peers u.memberGuildCount s.guildUnions =
      .ok (total, unions))
    (hunions : s'.guildUnions = unions.insert baseUnionId u')
    (hof : s'.guildUnionOf = s.guildUnionOf) :
    Grown s' (Function.update h baseUnionId (h.merged baseUnionId peers)) := by
  obtain ⟨hpeers, hrest, -⟩ := absorb_spec habsorb
  -- a union that is left, other than the one that grows, was there and is absorbed by nobody
  have hleft : ∀ id v, s'.guildUnions.get id = some v → id ≠ baseUnionId →
      id ∉ peers ∧ s.guildUnions.get id = some v := by
    intro id v hv hne
    rw [hunions, StorageMap.get_insert_of_ne hne, hrest] at hv
    split at hv
    · cases hv
    · next hout => exact ⟨hout, hv⟩
  have hother : ∀ id v, s'.guildUnions.get id = some v → id ≠ baseUnionId →
      Disjoint (h.merged baseUnionId peers).guilds (h id).guilds := by
    intro id v hv hne
    obtain ⟨hout, hv⟩ := hleft id v hv hne
    refine Finset.disjoint_union_left.mpr ⟨hg.disjoint _ _ u v hget hv hne.symm, ?_⟩
    rw [Finset.disjoint_biUnion_left]
    intro p hp
    obtain ⟨-, peer, hpeer, -⟩ := hpeers p (List.mem_toFinset.mp hp)
    refine hg.disjoint p id peer v hpeer hv ?_
    rintro rfl
    exact hout (List.mem_toFinset.mp hp)
  refine ⟨fun id v hv g hmem => ?_, fun id id' v v' hv hv' hne => ?_, fun id v hv hgrown => ?_⟩
  · rw [hof]
    by_cases hid : id = baseUnionId
    · subst hid
      rw [Function.update_self] at hmem
      rcases Finset.mem_union.mp hmem with hmem | hmem
      · exact hg.indexed id u hget g hmem
      · obtain ⟨p, hp, hmem⟩ := Finset.mem_biUnion.mp hmem
        obtain ⟨-, peer, hpeer, -⟩ := hpeers p (List.mem_toFinset.mp hp)
        exact hg.indexed p peer hpeer g hmem
    · rw [Function.update_of_ne hid] at hmem
      exact hg.indexed id v (hleft id v hv hid).2 g hmem
  · by_cases hid : id = baseUnionId
    · subst hid
      rw [Function.update_self, Function.update_of_ne hne.symm]
      exact hother id' v' hv' hne.symm
    · rw [Function.update_of_ne hid]
      by_cases hid' : id' = baseUnionId
      · subst hid'
        rw [Function.update_self]
        exact (hother id v hv hne).symm
      · rw [Function.update_of_ne hid']
        exact hg.disjoint id id' v v' (hleft id v hv hid).2 (hleft id' v' hv' hid').2 hne
  · by_cases hid : id = baseUnionId
    · subst hid
      rw [Function.update_self] at hgrown ⊢
      rw [hunions, StorageMap.get_insert_self] at hv
      cases hv
      rw [GuildUnionLevel.rank_next hlevel]
      exact hg.merged_card hget hpeers hgrown
    · rw [Function.update_of_ne hid] at hgrown ⊢
      exact hg.size id v (hleft id v hv hid).2 hgrown

/-! ### What the calls do to the academy -/

variable [DecidableEq AccountId]

/-- Whom a vote elects leads the union, and is admitted at the last level. -/
theorem voteForGrandmaster_academy {origin : Origin AccountId} {unionId voterGuildId : ℕ}
    {candidate : AccountId}
    (hs : voteForGrandmaster cfg origin unionId voterGuildId candidate s = .ok s') :
    ∃ u, s.guildUnions.get unionId = some u ∧
      match elected cfg s unionId voterGuildId candidate with
      | some a =>
        s'.guildUnions = s.guildUnions.insert unionId
          { u with
            grandmaster := a
            electionVotesFor := 0
            electionVotesCast := 0 } ∧
        s'.academyMembers =
          if u.level = .guildTumed then grantAcademician a u.industryTag s.academyMembers
          else s.academyMembers
      | none => s'.academyMembers = s.academyMembers := by
  obtain ⟨caller, u, -, hget, -, -, -, rfl⟩ := voteForGrandmaster_spec hs
  refine ⟨u, hget, ?_⟩
  rw [elected, hget, Option.bind_some]
  unfold afterVote
  dsimp only
  cases tallyGrandmasterVotes cfg unionId u.memberGuildCount
      (s.grandmasterVotes.insert (unionId, voterGuildId) candidate) with
  | some a => exact ⟨rfl, rfl⟩
  | none => rfl

/-- Whom an input admits to the academy, unless already admitted, and as the leader of which
union. -/
def admits (cfg : Config AccountId) (s : Federation AccountId L) :
    Input cfg L → Option (AccountId × ℕ)
  | .call _ (.elevateUnion baseUnionId _) => (s.guildUnions.get baseUnionId).bind fun u =>
    if u.level = .guildMyangad then some (u.grandmaster, baseUnionId) else none
  | .call _ (.voteForGrandmaster unionId voterGuildId candidate) =>
    (s.guildUnions.get unionId).bind fun u =>
      if u.level = .guildTumed then
        (elected cfg s unionId voterGuildId candidate).map fun a => (a, unionId)
      else none
  | _ => none

theorem grantAcademician_get {who a : AccountId} {tag : BoundedVec UInt8 maxNameLength}
    {academy : StorageMap AccountId (BoundedVec UInt8 maxNameLength)} :
    (grantAcademician who tag academy).get a ≠ none ↔ a = who ∨ academy.get a ≠ none := by
  unfold grantAcademician
  split
  · next hwho =>
    refine (or_iff_right_of_imp ?_).symm
    rintro rfl
    rw [Option.ne_none_iff_exists']
    exact StorageMap.containsKey_iff.mp hwho
  · rw [Ne, StorageMap.get_insert_eq_none, not_and_or, Ne, not_not]

variable [Currency AccountId L] [EscrowCurrency AccountId L] {x : Input cfg L}

/-- The other inputs admit nobody, and may strike an account from the academy. -/
theorem academy_of_other (hs : step cfg x s = .ok s')
    (hvote : ∀ origin u g c, x ≠ .call origin (.voteForGrandmaster u g c))
    (helevate : ∀ origin base peers, x ≠ .call origin (.elevateUnion base peers)) {a : AccountId}
    (ha : s'.academyMembers.get a ≠ none) : s.academyMembers.get a ≠ none := by
  by_cases hx : x.aboutAcademy = false
  · exact (step_frame hs).2 hx ▸ ha
  rw [Bool.not_eq_false] at hx
  unfold Input.aboutAcademy at hx
  split at hx
  · exact absurd rfl (hvote _ _ _ _)
  · exact absurd rfl (helevate _ _ _)
  · cases hs
    intro hnone
    refine ha ?_
    rw [cleanupAccount, StorageMap.get_remove, hnone, ite_self]
  · cases hx

/-- **What an input does to the academy**: it admits the leader of a union of the last level, or
nobody. -/
theorem step_academy (hs : step cfg x s = .ok s') :
    match admits cfg s x with
    | some (a, id) => (∃ u, s'.guildUnions.get id = some u ∧ u.level = .guildTumed ∧
        u.grandmaster = a) ∧ ∃ tag, s'.academyMembers = grantAcademician a tag s.academyMembers
    | none => ∀ a, s'.academyMembers.get a ≠ none → s.academyMembers.get a ≠ none := by
  cases x with
  | cleanupAccount who => exact fun a => academy_of_other hs (by simp) (by simp)
  | elsewhere ledger => exact fun a => academy_of_other hs (by simp) (by simp)
  | call origin d =>
    cases d with
    | voteForGrandmaster unionId g c =>
      obtain ⟨u, hget, hafter⟩ := voteForGrandmaster_academy hs
      rw [admits, hget, Option.bind_some]
      cases hwinner : elected cfg s unionId g c with
      | none =>
        rw [hwinner] at hafter
        rw [Option.map_none, ite_self]
        dsimp only at hafter ⊢
        exact fun a ha => hafter ▸ ha
      | some a =>
        rw [hwinner] at hafter
        obtain ⟨hunions, hacademy⟩ := hafter
        split
        · next hadmits =>
          split at hadmits
          · next hlevel =>
            cases hadmits
            rw [if_pos hlevel] at hacademy
            have hled := StorageMap.get_insert_self (m := s.guildUnions) (k := unionId)
              (v := { u with
                grandmaster := a
                electionVotesFor := 0
                electionVotesCast := 0 })
            rw [← hunions] at hled
            exact ⟨⟨_, hled, hlevel, rfl⟩, _, hacademy⟩
          · cases hadmits
        · next hadmits =>
          split at hadmits
          · cases hadmits
          · next hlevel =>
            rw [if_neg hlevel] at hacademy
            exact fun a ha => hacademy ▸ ha
    | elevateUnion baseUnionId peers =>
      obtain ⟨u, level, total, unions, hget, -, hlevel, -, rfl⟩ := elevateUnion_spec hs
      rw [admits, hget, Option.bind_some]
      -- the last level is the one after this
      have hlast : level = .guildTumed ↔ u.level = .guildMyangad := by
        cases hu : u.level <;> rw [hu] at hlevel <;> cases hlevel <;> simp
      by_cases hmyangad : u.level = .guildMyangad
      · rw [if_pos hmyangad]
        refine ⟨⟨_, StorageMap.get_insert_self, hlast.mpr hmyangad, rfl⟩, u.industryTag, ?_⟩
        exact if_pos (hlast.mpr hmyangad)
      · rw [if_neg hmyangad]
        intro a ha
        rwa [show (if level = .guildTumed then
          grantAcademician u.grandmaster u.industryTag s.academyMembers else s.academyMembers) =
            s.academyMembers from if_neg fun h => hmyangad (hlast.mp h)] at ha
    | _ => exact fun a => academy_of_other hs (by simp) (by simp)

/-! ### Guilds and unions join -/

/-- An input keeps the growth of the unions. -/
theorem grown_step (hg : Grown s h) (hs : step cfg x s = .ok s') : Grown s' (grow s x h) := by
  cases step_unions hs with
  | formGuildUnion caller industryTag ids _ founder tag _ _ _ hfree hunions _ hof =>
    exact hg.form hfree hunions hof
  | voteForGrandmaster caller unionId voterGuildId candidate _ u hget _ _ _ hafter _ hof =>
    obtain ⟨u', hunions, -, hlevel⟩ := afterVote_union (s := s) cfg unionId voterGuildId candidate u
    rw [← congrArg Prod.fst hafter] at hunions
    change s'.guildUnions = _ at hunions
    refine hg.congr hof fun id => ?_
    rw [hunions]
    exact StorageMap.map_get_insert hget hlevel
  | elevateUnion caller baseUnionId peers _ _ _ _ _ _ _ _ _ hof =>
    obtain ⟨u, level, total, unions, hget, -, hlevel, habsorb, rfl⟩ := elevateUnion_spec hs
    exact hg.elevate hget hlevel habsorb rfl hof
  | other _ _ hsame hform _ helevate =>
    have hgrow : grow s x h = h := by
      unfold grow
      split
      · exact absurd rfl (hform _ _ _)
      · exact absurd rfl (helevate _ _ _)
      · rfl
    rw [hgrow]
    exact hg.congr hsame.guildUnionOf fun id => by rw [hsame.guildUnions]

omit [DecidableEq AccountId] [Currency AccountId L] [EscrowCurrency AccountId L] in
/-- Who signs an input. -/
def signer : Input cfg L → Option AccountId
  | .call (.signed who) _ => some who
  | _ => none

omit [DecidableEq AccountId] [Currency AccountId L] [EscrowCurrency AccountId L] in
/-- The union whose leader an input may admit to the academy. -/
def concerned : Input cfg L → Option ℕ
  | .call _ (.elevateUnion baseUnionId _) => some baseUnionId
  | .call _ (.voteForGrandmaster unionId _ _) => some unionId
  | _ => none

omit [Currency AccountId L] [EscrowCurrency AccountId L] in
theorem admits_concerned {a : AccountId} {id : ℕ} (hx : admits cfg s x = some (a, id)) :
    concerned x = some id := by
  unfold admits at hx
  split at hx
  · obtain ⟨u, -, hu⟩ := Option.bind_eq_some_iff.mp hx
    split at hu
    · cases hu
      rfl
    · cases hu
  · obtain ⟨u, -, hu⟩ := Option.bind_eq_some_iff.mp hx
    split at hu
    · obtain ⟨b, -, hb⟩ := Option.map_eq_some_iff.mp hu
      cases hb
      rfl
    · cases hu
  · cases hx

/-- An accepted input is honest: whoever it admits to the academy leads the union it is about, which
is of the last level, unites sixteen guilds at least and has grown properly; a guild joins a union
by a call of a master of the guild; and a union is absorbed by a call of its leader. -/
structure Honest (s s' : Federation AccountId L) (x : Input cfg L) (h' : Ancestry) : Prop where
  admitted : ∀ a, s.academyMembers.get a = none → s'.academyMembers.get a ≠ none →
    ∃ id u, concerned x = some id ∧ s'.guildUnions.get id = some u ∧ u.level = .guildTumed ∧
      u.grandmaster = a ∧ 16 ≤ (h' id).guilds.card ∧ (h' id).grown = true
  joined : ∀ g id, s'.guildUnionOf.get g = some id → s.guildUnionOf.get g ≠ some id →
    ∃ who, signer x = some who ∧ IsMaster s.toState who g
  absorbed : ∀ id u, s.guildUnions.get id = some u → s'.guildUnions.get id = none →
    signer x = some u.grandmaster

/-- The guilds a union is formed of are the signer's, and so are the unions that are absorbed. -/
def Consented (s : Federation AccountId L) : Input cfg L → Prop
  | .call (.signed who) (.formGuildUnion _ ids) => ∀ g ∈ ids.val, IsMaster s.toState who g
  | .call (.signed who) (.elevateUnion _ peers) =>
    ∀ p ∈ peers.val, ∀ u, s.guildUnions.get p = some u → u.grandmaster = who
  | _ => True

/-- Whoever joins or is absorbed consents, and whoever is new to the academy leads a union that has
grown properly. -/
structure Proper (cfg : Config AccountId) (s : Federation AccountId L) (h : Ancestry)
    (x : Input cfg L) : Prop where
  consented : Consented s x
  grown : ∀ a id, admits cfg s x = some (a, id) → s.academyMembers.get a = none →
    (grow s x h id).grown = true

/-- Guilds join, and unions are absorbed, by their leaders' calls just when these consent. -/
theorem consented_iff (hs : step cfg x s = .ok s') :
    ((∀ g id, s'.guildUnionOf.get g = some id → s.guildUnionOf.get g ≠ some id →
      ∃ who, signer x = some who ∧ IsMaster s.toState who g) ∧
    ∀ id u, s.guildUnions.get id = some u → s'.guildUnions.get id = none →
      signer x = some u.grandmaster) ↔ Consented s x := by
  have hwritten : ∀ (unions : StorageMap ℕ (GuildUnion AccountId)) (n : ℕ)
      (v : GuildUnion AccountId) (id : ℕ), unions.get id ≠ none →
        (unions.insert n v).get id ≠ none := by
    intro unions n v id hid hnone
    exact hid (StorageMap.get_insert_eq_none.mp hnone).2
  -- an index or a union that an input leaves shows nobody joining or absorbed
  have hstay : ∀ g id, s'.guildUnionOf = s.guildUnionOf → s'.guildUnionOf.get g = some id →
      ¬ s.guildUnionOf.get g ≠ some id := by
    intro g id hof hget hne
    exact hne (hof ▸ hget)
  have hleft : ∀ id u n v, s'.guildUnions = s.guildUnions.insert n v →
      s.guildUnions.get id = some u → ¬ s'.guildUnions.get id = none := by
    intro id u n v hunions hget
    rw [hunions]
    exact hwritten _ n v id (by rw [hget]; exact Option.some_ne_none u)
  cases step_unions hs with
  | formGuildUnion caller industryTag ids _ founder tag _ _ _ hfree hunions _ hof =>
    -- whoever is named joins, as a new union is of guilds that are in no other
    constructor
    · rintro ⟨hjoined, -⟩ g hmem
      obtain ⟨who, hwho, hmaster⟩ := hjoined g s.nextUnionId
        (by rw [hof, StorageMap.get_foldl_insert, if_pos hmem])
        (by rw [hfree g hmem]; exact (Option.some_ne_none _).symm)
      cases hwho
      exact hmaster
    · intro hconsented
      refine ⟨fun g id hget hne => ⟨caller, rfl, hconsented g ?_⟩,
        fun id u hu hnone => absurd hnone (hleft id u _ _ hunions hu)⟩
      rw [hof, StorageMap.get_foldl_insert] at hget
      split at hget
      · next hmem => exact hmem
      · exact absurd hget hne
  | voteForGrandmaster caller unionId voterGuildId candidate _ u hget _ _ _ hafter _ hof =>
    obtain ⟨u', hunions, -, -⟩ := afterVote_union (s := s) cfg unionId voterGuildId candidate u
    rw [← congrArg Prod.fst hafter] at hunions
    change s'.guildUnions = _ at hunions
    refine iff_of_true ⟨fun g id hget hne => absurd hne (hstay g id hof hget), ?_⟩ trivial
    exact fun id v hv hnone => absurd hnone (hleft id v _ _ hunions hv)
  | elevateUnion caller baseUnionId peers _ _ _ _ _ _ _ _ _ hof =>
    obtain ⟨u, level, total, unions, hget, hcaller, -, habsorb, rfl⟩ := elevateUnion_spec hs
    -- the unions that go are the peers; the base union is written again
    obtain ⟨hpeers, hrest, -⟩ := absorb_spec habsorb
    constructor
    · rintro ⟨-, habsorbed⟩ p hp v hv
      have hsigner := habsorbed p v hv (by
        rw [StorageMap.get_insert_of_ne (hpeers p hp).1, hrest, if_pos hp])
      exact (Option.some.inj hsigner).symm
    · intro hconsented
      refine ⟨fun g id hget hne => absurd hne (hstay g id hof hget), fun id v hv hnone => ?_⟩
      have hgone := (StorageMap.get_insert_eq_none.mp hnone).2
      rw [hrest] at hgone
      split at hgone
      · next hp => exact congrArg some (hconsented id hp v hv).symm
      · rw [hv] at hgone
        cases hgone
  | other _ _ hsame hform _ helevate =>
    refine iff_of_true
      ⟨fun g id hget hne => absurd hne (hstay g id hsame.guildUnionOf hget), ?_⟩ ?_
    · intro id u hu hnone
      rw [hsame.guildUnions, hu] at hnone
      cases hnone
    · unfold Consented
      split
      · exact absurd rfl (hform _ _ _)
      · exact absurd rfl (helevate _ _ _)
      · trivial

/-! ### Runs -/

/-- **An accepted input is honest just when it is proper.** -/
theorem honest_iff (hg : Grown s h) (hs : step cfg x s = .ok s') :
    Honest s s' x (grow s x h) ↔ Proper cfg s h x := by
  have hacademy := step_academy hs
  constructor
  · intro hhonest
    refine ⟨(consented_iff hs).mp ⟨hhonest.joined, hhonest.absorbed⟩, fun a id hx ha => ?_⟩
    rw [hx] at hacademy
    obtain ⟨-, tag, hgranted⟩ := hacademy
    obtain ⟨id', u, hconcerned, -, -, -, -, hgrown⟩ := hhonest.admitted a ha
      (by rw [hgranted]; exact grantAcademician_get.mpr (Or.inl rfl))
    rw [admits_concerned hx] at hconcerned
    cases hconcerned
    exact hgrown
  · intro hproper
    obtain ⟨hjoined, habsorbed⟩ := (consented_iff hs).mpr hproper.consented
    refine ⟨fun a ha ha' => ?_, hjoined, habsorbed⟩
    cases hx : admits cfg s x with
    | none =>
      rw [hx] at hacademy
      exact absurd ha (hacademy a ha')
    | some e =>
      obtain ⟨b, id⟩ := e
      rw [hx] at hacademy
      obtain ⟨⟨u, hu, hlevel, hleads⟩, tag, hgranted⟩ := hacademy
      rw [hgranted, grantAcademician_get, or_iff_left (not_not.mpr ha)] at ha'
      subst ha'
      have hgrown := hproper.grown a id hx ha
      -- what has grown properly to the last level is large enough
      have hsize := (grown_step hg hs).size id u hu hgrown
      rw [hlevel] at hsize
      exact ⟨id, u, admits_concerned hx, hu, hlevel, hleads, hsize, hgrown⟩

omit [Currency AccountId L] [EscrowCurrency AccountId L] in
/-- Before any call nothing has grown. -/
def seedling : Ancestry := fun _ => ⟨∅, false⟩

/-- Every accepted input of the run is honest. -/
def HonestRun (cfg : Config AccountId) (xs : List (Input cfg L)) (ledger : L) : Prop :=
  Along (recording grow (step cfg))
    (fun t x => Honest t.1 (exec (step cfg) x t.1) x (grow t.1 x t.2)) xs
    (.genesis ledger, seedling)

/-- **Which runs are honest.** Whoever is admitted to the academy leads a union of sixteen guilds,
that has grown properly, and guilds and unions join by their own leaders' calls, just when these
consent and nobody is admitted who leads a union that has not grown properly. -/
theorem academy_honest_iff (cfg : Config AccountId) (xs : List (Input cfg L)) (ledger : L) :
    HonestRun cfg xs ledger ↔ Along (recording grow (step cfg))
      (fun t x => Proper cfg t.1 t.2 x) xs (.genesis ledger, seedling) := by
  exact along_recording_congr (J := Grown) (R := fun s s' h x => Honest s s' x (grow s x h))
    (fun _ _ _ _ => grown_step) (fun _ _ _ _ => honest_iff) (grown_genesis ledger seedling)

/-- A master founds a guild and takes a union of it to the level before the last. -/
def risen : List Runtime.GuildsInput :=
  [Runtime.founding 7, Runtime.formingOf 7 0] ++ List.replicate 2 (Runtime.rising 7 0)

/-- The last elevation, which absorbs nothing either. -/
def lastRise : Runtime.GuildsInput := Runtime.rising 7 0

/-- The master of one guild is admitted to the academy. -/
theorem academician_alone : ¬ ∀ xs (ledger : Runtime.EscrowLedger ℕ),
    HonestRun Runtime.guilds xs ledger := by
  intro h
  have hrun := h (risen ++ [lastRise]) (ProvidedBalances.ofFree [])
  obtain ⟨t, ht⟩ := exists_ok (by decide +kernel : Except.isOk (recording grow
    (step Runtime.guilds) lastRise (run (recording grow (step Runtime.guilds)) risen
      (Runtime.guildsGenesis, seedling))) = true)
  have hhonest := hrun.2.2.2.2.1 t ht
  obtain ⟨id, u, hid, -, -, -, hcard, -⟩ := hhonest.admitted 7 (by decide +kernel)
    (by decide +kernel)
  cases hid
  revert hcard
  decide +kernel

end Guilds
