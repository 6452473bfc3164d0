import Altan.Foundation.Assent
import Altan.Runtime.Constants

/-!
# The councils of the petitioned guilds

A proposal of a petitioned guild is carried by more than half of its council, as the guild is named
in the vote that carries it. The guild named may be another one, whose council the vote is then
counted against; and a council may be replaced while a vote is going on, when those who leave it
have voted already. Which way everybody has voted is not stored, only whether: it is a history of
the calls.

## Main definitions

* `CouncilVote`, `recordVote`: the votes on every proposal, and how an input adds to them
* `Booked`: the tallies and the ballots are of these votes
* `Legitimate`: a proposal is carried by more than half of its own council, and a decision stays
* `Covered`: the condition

## Main results

* `booked_step`: every accepted input keeps the books
* `more_than_half_iff`: how many of those in favour may have left the council
* `legitimate_iff`: one step
* `covered_of_own_council`: a vote in the name of the proposal's own guild, whose council nobody in
  favour has left
* `councils_legitimate_iff`: the runs that are legitimate throughout
* `carried_outside`: a proposal is carried by the council of another guild
-/

open Bounded Dispatch TransitionSystem

namespace Guilds

variable {AccountId L : Type}

/-! ### Votes -/

/-- A vote on a proposal, and whether the voter is then of the council of the guild the proposal is
of. -/
structure CouncilVote (AccountId : Type) where
  voter : AccountId
  inFavor : Bool
  seated : Bool

/-- Who has voted. -/
def voters (votes : List (CouncilVote AccountId)) : List AccountId := votes.map CouncilVote.voter

/-- Who has voted in favour. -/
def yeas (votes : List (CouncilVote AccountId)) : List AccountId :=
  voters (votes.filter CouncilVote.inFavor)

variable {votes : List (CouncilVote AccountId)} {v : CouncilVote AccountId}

theorem voters_append : voters (votes ++ [v]) = voters votes ++ [v.voter] := by
  rw [voters, List.map_append]
  rfl

theorem yeas_append :
    yeas (votes ++ [v]) = yeas votes ++ if v.inFavor then [v.voter] else [] :=
  Assent.yeas_append

variable [DecidableEq AccountId]

/-- Those of a council who have voted in favour, once. -/
def assenting (seats : Finset AccountId) (votes : List (CouncilVote AccountId)) :
    Finset AccountId :=
  seats.filter fun a => (yeas votes).count a = 1

/-- Those who have voted in favour and are not of the council. -/
def departed (seats : Finset AccountId) (votes : List (CouncilVote AccountId)) :
    Finset AccountId :=
  (yeas votes).toFinset \ seats

/-- Whoever votes from the council has not left it. -/
theorem departed_append {seats : Finset AccountId} (h : v.voter ∈ seats) :
    departed seats (votes ++ [v]) = departed seats votes :=
  Assent.departed_append h

/-- **More than half of the council are in favour** just when those in favour are, without whom has
left it. -/
theorem more_than_half_iff (seats : Finset AccountId) (h : (voters votes).Nodup) :
    seats.card < 2 * (assenting seats votes).card ↔
      seats.card + 2 * (departed seats votes).card < 2 * (yeas votes).length :=
  Assent.more_than_half_iff seats h

/-! ### The tallies -/

section Tally

variable {p : GuildProposalRecord AccountId} {inFavor : Bool} {councilSize : ℕ}

omit [DecidableEq AccountId] in
/-- A vote is counted on its side. -/
theorem withVote_counts (hfor : p.votesFor < u32Max) (hagainst : p.votesAgainst < u32Max) :
    (p.withVote inFavor).votesFor = p.votesFor + inFavor.toNat ∧
      (p.withVote inFavor).votesAgainst = p.votesAgainst + (!inFavor).toNat := by
  unfold GuildProposalRecord.withVote
  cases inFavor with
  | true => exact ⟨saturatingAdd_of_le hfor, rfl⟩
  | false => exact ⟨rfl, saturatingAdd_of_le hagainst⟩

omit [DecidableEq AccountId] in
@[simp] theorem withVote_guildId : (p.withVote inFavor).guildId = p.guildId := by
  unfold GuildProposalRecord.withVote
  split <;> rfl

omit [DecidableEq AccountId] in
@[simp] theorem withVote_status : (p.withVote inFavor).status = p.status := by
  unfold GuildProposalRecord.withVote
  split <;> rfl

omit [DecidableEq AccountId] in
/-- Deciding changes where a proposal stands, and nothing else. -/
theorem decided_eq :
    p.decided councilSize = { p with status := (p.decided councilSize).status } := by
  unfold GuildProposalRecord.decided
  dsimp only
  split
  · rfl
  · split <;> rfl

omit [DecidableEq AccountId] in
/-- An open proposal is carried by more than half. -/
theorem decided_status_eq_passed (councilSize : ℕ) (h : p.status = .opened) :
    (p.decided councilSize).status = .passed ↔ councilSize / 2 < p.votesFor := by
  unfold GuildProposalRecord.decided
  dsimp only
  split
  · next hfor => exact iff_of_true rfl hfor
  · next hfor =>
    split
    · exact iff_of_false nofun hfor
    · rw [h]
      exact iff_of_false nofun hfor

omit [DecidableEq AccountId] in
/-- A proposal that is still open has no more than half on either side. -/
theorem le_of_decided_status_eq_opened (h : (p.decided councilSize).status = .opened) :
    p.votesFor ≤ councilSize / 2 ∧ p.votesAgainst ≤ councilSize / 2 := by
  unfold GuildProposalRecord.decided at h
  dsimp only at h
  split at h
  · cases h
  · next hfor =>
    split at h
    · cases h
    · next hagainst => exact ⟨Nat.not_lt.mp hfor, Nat.not_lt.mp hagainst⟩

end Tally

/-! ### The books -/

/-- The council of a petitioned guild, each member once. -/
def seats (s : Federation AccountId L) (guildId : Bytes32) : Finset AccountId :=
  (s.guildsByUuid.get guildId).elim ∅ fun g => g.council.val.toFinset

/-- What an accepted input adds to the votes on the proposals. -/
def recordVote {cfg : Config AccountId} (s : Federation AccountId L) (x : Input cfg L)
    (h : EventLog Bytes32 (CouncilVote AccountId)) : EventLog Bytes32 (CouncilVote AccountId) :=
  match x with
  | .call _ (.voteProposalFromRelayer _ proposalId voter inFavor) =>
    h.append proposalId
      { voter := voter
        inFavor := inFavor
        seated := (s.guildProposals.get proposalId).any fun r => voter ∈ seats s r.guildId }
  | _ => h

/-- The tallies and the ballots are of the votes, nobody votes twice, and there are no more votes on
an open proposal than half of a council casts on either side. -/
structure Booked (s : Federation AccountId L) (h : EventLog Bytes32 (CouncilVote AccountId)) :
    Prop where
  unknown : ∀ id, s.guildProposals.get id = none → h id = []
  once : ∀ id, (voters (h id)).Nodup
  ballots : ∀ id, s.proposalBallots.row id = (voters (h id)).toFinset
  inFavor : ∀ id r, s.guildProposals.get id = some r → r.votesFor = (yeas (h id)).length
  counted : ∀ id r, s.guildProposals.get id = some r →
    r.votesFor + r.votesAgainst = (h id).length
  undecided : ∀ id r, s.guildProposals.get id = some r → r.status = .opened →
    r.votesFor ≤ maxCouncilMembers / 2 ∧ r.votesAgainst ≤ maxCouncilMembers / 2

theorem booked_genesis (ledger : L) :
    Booked (.genesis ledger : Federation AccountId L) fun _ => [] where
  unknown id _ := rfl
  once id := List.nodup_nil
  ballots id := rfl
  inFavor id r hr := by simp [Federation.genesis] at hr
  counted id r hr := by simp [Federation.genesis] at hr
  undecided id r hr := by simp [Federation.genesis] at hr

/-- A proposal before any vote. -/
def newProposal (guildId : Bytes32) (proposer : AccountId) : GuildProposalRecord AccountId where
  guildId := guildId
  proposer := proposer
  votesFor := 0
  votesAgainst := 0
  status := .opened

/-- What an accepted input goes through and does, for the proposals. -/
inductive ProposalTransition {cfg : Config AccountId} (s : Federation AccountId L) :
    Input cfg L → Federation AccountId L → Prop
  | create (origin guildId proposalId proposer s')
    (hnew : s.guildProposals.get proposalId = none)
    (hproposals : s'.guildProposals =
      s.guildProposals.insert proposalId (newProposal guildId proposer))
    (hballots : s'.proposalBallots = s.proposalBallots) :
    ProposalTransition s (.call origin (.createProposalFromRelayer guildId proposalId proposer)) s'
  | vote (origin guildId proposalId voter inFavor s' g r)
    (hguild : s.guildsByUuid.get guildId = some g) (hvoter : voter ∈ g.council.val)
    (hget : s.guildProposals.get proposalId = some r) (hopen : r.status = .opened)
    (hfirst : s.proposalBallots.get (proposalId, voter) = none)
    (hproposals : s'.guildProposals = s.guildProposals.insert proposalId
      ((r.withVote inFavor).decided g.council.val.length))
    (hballots : s'.proposalBallots = s.proposalBallots.insert (proposalId, voter) ())
    (hcouncils : s'.guildsByUuid = s.guildsByUuid) :
    ProposalTransition s
      (.call origin (.voteProposalFromRelayer guildId proposalId voter inFavor)) s'
  | other (x s') (hproposals : s'.guildProposals = s.guildProposals)
    (hballots : s'.proposalBallots = s.proposalBallots)
    (hvote : ∀ origin g p v b, x ≠ .call origin (.voteProposalFromRelayer g p v b)) :
    ProposalTransition s x s'

variable [Currency AccountId L] [EscrowCurrency AccountId L] {cfg : Config AccountId}
  {s s' : Federation AccountId L} {x : Input cfg L}
  {h : EventLog Bytes32 (CouncilVote AccountId)}

/-- **Every accepted input is a transition of the proposals.** -/
theorem step_proposals (hs : step cfg x s = .ok s') : ProposalTransition s x s' := by
  by_cases hx : x.aboutCouncils = false
  · obtain ⟨-, hproposals, hballots⟩ := (step_frame hs).1 hx
    refine .other x s' hproposals hballots ?_
    rintro origin g p v b rfl
    cases hx
  rw [Bool.not_eq_false] at hx
  unfold Input.aboutCouncils at hx
  split at hx
  · simp only [step, dispatchAll, createGuildFromRelayer, ensureSigned_bind_eq_ok,
      ensure_bind_eq_ok, required_bind_eq_ok, pure_eq_ok] at hs
    obtain ⟨_, _, _, _, _, _, rfl⟩ := hs
    exact .other _ _ rfl rfl (by simp)
  · simp only [step, dispatchAll, updateCouncilFromRelayer, ensureSigned_bind_eq_ok,
      required_bind_eq_ok, pure_eq_ok] at hs
    obtain ⟨_, _, _, _, _, _, rfl⟩ := hs
    exact .other _ _ rfl rfl (by simp)
  · simp only [step, dispatchAll, createProposalFromRelayer, ensureSigned_bind_eq_ok,
      ensure_bind_eq_ok, required_bind_eq_ok, pure_eq_ok] at hs
    obtain ⟨_, _, _, _, _, hnew, rfl⟩ := hs
    exact .create _ _ _ _ _ (StorageMap.not_containsKey.mp hnew) rfl rfl
  · simp only [step, dispatchAll, voteProposalFromRelayer, ensureSigned_bind_eq_ok,
      ensure_bind_eq_ok, required_bind_eq_ok, pure_eq_ok] at hs
    obtain ⟨_, _, g, hguild, hvoter, r, hget, hopen, hfirst, rfl⟩ := hs
    exact .vote _ _ _ _ _ _ g r hguild hvoter hget hopen (StorageMap.not_containsKey.mp hfirst)
      rfl rfl rfl
  · cases hx

omit [Currency AccountId L] [EscrowCurrency AccountId L] in
/-- A new proposal has no votes. -/
theorem Booked.create (hb : Booked s h) {proposalId guildId : Bytes32} {proposer : AccountId}
    (hnew : s.guildProposals.get proposalId = none)
    (hproposals : s'.guildProposals =
      s.guildProposals.insert proposalId (newProposal guildId proposer))
    (hballots : s'.proposalBallots = s.proposalBallots) : Booked s' h := by
  have hnil := hb.unknown proposalId hnew
  refine ⟨fun id hid => ?_, hb.once, fun id => ?_, fun id r hr => ?_, fun id r hr => ?_,
    fun id r hr hopen => ?_⟩
  · rw [hproposals] at hid
    exact hb.unknown id (StorageMap.get_insert_eq_none.mp hid).2
  · rw [hballots]
    exact hb.ballots id
  · rw [hproposals] at hr
    rcases StorageMap.get_insert_cases hr with ⟨rfl, rfl⟩ | ⟨-, hr⟩
    · rw [hnil]
      rfl
    · exact hb.inFavor id r hr
  · rw [hproposals] at hr
    rcases StorageMap.get_insert_cases hr with ⟨rfl, rfl⟩ | ⟨-, hr⟩
    · rw [hnil]
      rfl
    · exact hb.counted id r hr
  · rw [hproposals] at hr
    rcases StorageMap.get_insert_cases hr with ⟨rfl, rfl⟩ | ⟨-, hr⟩
    · exact ⟨Nat.zero_le _, Nat.zero_le _⟩
    · exact hb.undecided id r hr hopen

omit [Currency AccountId L] [EscrowCurrency AccountId L] in
/-- An open proposal is far from the bound on its tallies, and a vote is counted on its side. -/
theorem Booked.withVote_counts (hb : Booked s h) {proposalId : Bytes32}
    {r : GuildProposalRecord AccountId} (hget : s.guildProposals.get proposalId = some r)
    (hopen : r.status = .opened) (inFavor : Bool) :
    (r.withVote inFavor).votesFor = r.votesFor + inFavor.toNat ∧
      (r.withVote inFavor).votesAgainst = r.votesAgainst + (!inFavor).toNat := by
  obtain ⟨hfor, hagainst⟩ := hb.undecided proposalId r hget hopen
  have hfar : maxCouncilMembers / 2 < u32Max := by decide
  exact Guilds.withVote_counts (hfor.trans_lt hfar) (hagainst.trans_lt hfar)

omit [Currency AccountId L] [EscrowCurrency AccountId L] in
/-- A vote is booked. -/
theorem Booked.vote (hb : Booked s h) {proposalId : Bytes32} {r : GuildProposalRecord AccountId}
    {g : GuildRecord AccountId} {v : CouncilVote AccountId}
    (hget : s.guildProposals.get proposalId = some r) (hopen : r.status = .opened)
    (hfirst : s.proposalBallots.get (proposalId, v.voter) = none)
    (hproposals : s'.guildProposals = s.guildProposals.insert proposalId
      ((r.withVote v.inFavor).decided g.council.val.length))
    (hballots : s'.proposalBallots = s.proposalBallots.insert (proposalId, v.voter) ()) :
    Booked s' (h.append proposalId v) := by
  obtain ⟨hfor, hagainst⟩ := hb.withVote_counts hget hopen v.inFavor
  have hinFavor := hb.inFavor proposalId r hget
  have hcounted := hb.counted proposalId r hget
  have hnew : v.voter ∉ voters (h proposalId) := by
    rw [← List.mem_toFinset, ← hb.ballots]
    exact StorageMap.notMem_row.mpr hfirst
  refine ⟨fun id hid => ?_, fun id => ?_, fun id => ?_, fun id r' hr => ?_, fun id r' hr => ?_,
    fun id r' hr hopen' => ?_⟩
  · -- a proposal that is unknown has no votes booked
    rw [hproposals] at hid
    obtain ⟨hne, hid⟩ := StorageMap.get_insert_eq_none.mp hid
    rw [EventLog.append_of_ne hne]
    exact hb.unknown id hid
  · -- a voter is booked once, as the voter had no ballot
    by_cases hid : id = proposalId
    · subst hid
      rw [EventLog.append_self, voters_append, ← List.concat_eq_append]
      exact (hb.once id).concat hnew
    · rw [EventLog.append_of_ne hid]
      exact hb.once id
  · -- the ballots are those of the voters booked
    rw [hballots]
    by_cases hid : id = proposalId
    · subst hid
      rw [EventLog.append_self, voters_append, StorageMap.row_insert_self, hb.ballots,
        List.toFinset_append, List.toFinset_cons, List.toFinset_nil, insert_empty_eq,
        Finset.union_comm, ← Finset.insert_eq]
    · rw [EventLog.append_of_ne hid, StorageMap.row_insert_of_ne hid]
      exact hb.ballots id
  · rw [hproposals] at hr
    rcases StorageMap.get_insert_cases hr with ⟨rfl, rfl⟩ | ⟨hid, hr⟩
    · -- the favourable votes, and then all of them, are as many as are counted
      rw [decided_eq, EventLog.append_self, yeas_append, List.length_append]
      dsimp only
      rw [hfor, hinFavor]
      cases v.inFavor <;> rfl
    · rw [EventLog.append_of_ne hid]
      exact hb.inFavor id r' hr
  · rw [hproposals] at hr
    rcases StorageMap.get_insert_cases hr with ⟨rfl, rfl⟩ | ⟨hid, hr⟩
    · rw [decided_eq, EventLog.append_self, List.length_append, List.length_singleton, ← hcounted]
      dsimp only
      rw [hfor, hagainst]
      cases v.inFavor <;> simp only [Bool.toNat_true, Bool.toNat_false, Bool.not_true,
        Bool.not_false] <;> omega
    · rw [EventLog.append_of_ne hid]
      exact hb.counted id r' hr
  · rw [hproposals] at hr
    rcases StorageMap.get_insert_cases hr with ⟨rfl, rfl⟩ | ⟨hid, hr⟩
    · -- while the proposal is open neither side has more than half of the council
      obtain ⟨hfor', hagainst'⟩ := le_of_decided_status_eq_opened hopen'
      have hcouncil := Nat.div_le_div_right (c := 2) g.council.property
      rw [decided_eq]
      exact ⟨hfor'.trans hcouncil, hagainst'.trans hcouncil⟩
    · exact hb.undecided id r' hr hopen'

omit [Currency AccountId L] [EscrowCurrency AccountId L] in
/-- The proposals and the ballots are what is booked. -/
theorem Booked.congr (hb : Booked s h) (hproposals : s'.guildProposals = s.guildProposals)
    (hballots : s'.proposalBallots = s.proposalBallots) : Booked s' h where
  unknown := by rw [hproposals]; exact hb.unknown
  once := hb.once
  ballots := by rw [hballots]; exact hb.ballots
  inFavor := by rw [hproposals]; exact hb.inFavor
  counted := by rw [hproposals]; exact hb.counted
  undecided := by rw [hproposals]; exact hb.undecided

omit [Currency AccountId L] [EscrowCurrency AccountId L] in
theorem recordVote_of_other
    (hvote : ∀ origin g p v b, x ≠ .call origin (.voteProposalFromRelayer g p v b)) :
    recordVote s x h = h := by
  unfold recordVote
  split
  · exact absurd rfl (hvote _ _ _ _ _)
  · rfl

/-- **An accepted input keeps the books.** -/
theorem booked_step (hb : Booked s h) (hs : step cfg x s = .ok s') :
    Booked s' (recordVote s x h) := by
  cases step_proposals hs with
  | create origin guildId proposalId proposer _ hnew hproposals hballots =>
    exact hb.create hnew hproposals hballots
  | vote origin guildId proposalId voter inFavor _ g r _ _ hget hopen hfirst hproposals hballots =>
    exact hb.vote hget hopen hfirst hproposals hballots
  | other _ _ hproposals hballots hvote =>
    rw [recordVote_of_other hvote]
    exact hb.congr hproposals hballots

/-! ### Runs -/

omit [Currency AccountId L] [EscrowCurrency AccountId L] in
/-- A proposal is carried by its council: more than half of the council are in favour, once each,
the tallies are the ballots, and everybody who has voted was then of the council. -/
structure Carried (s : Federation AccountId L) (proposalId : Bytes32)
    (r : GuildProposalRecord AccountId) (votes : List (CouncilVote AccountId)) : Prop where
  majority : (seats s r.guildId).card < 2 * (assenting (seats s r.guildId) votes).card
  counted : r.votesFor + r.votesAgainst = (s.proposalBallots.row proposalId).card
  seated : ∀ v ∈ votes, v.seated = true

omit [Currency AccountId L] [EscrowCurrency AccountId L] in
/-- An accepted input is legitimate: a proposal that becomes passed is carried by its council, and
what is decided does not change. -/
structure Legitimate (s s' : Federation AccountId L)
    (h' : EventLog Bytes32 (CouncilVote AccountId)) : Prop where
  carried : ∀ id r, s'.guildProposals.get id = some r → r.status = .passed →
    (s.guildProposals.get id).map GuildProposalRecord.status ≠ some .passed →
      Carried s' id r (h' id)
  final : ∀ id r, s.guildProposals.get id = some r → r.status ≠ .opened →
    s'.guildProposals.get id = some r

/-- When a vote is the last that the named council needs, everybody who has voted was of the council
of the guild the proposal is of, the voter is, and the votes in favour are more than half of this
council by more than those who have left it. -/
def Covered (s : Federation AccountId L) (h : EventLog Bytes32 (CouncilVote AccountId)) :
    Input cfg L → Prop
  | .call _ (.voteProposalFromRelayer guildId proposalId voter inFavor) =>
    ∀ g r, s.guildsByUuid.get guildId = some g → s.guildProposals.get proposalId = some r →
      g.council.val.length / 2 < r.votesFor + inFavor.toNat →
        (∀ v ∈ h proposalId, v.seated = true) ∧ voter ∈ seats s r.guildId ∧
          (seats s r.guildId).card + 2 * (departed (seats s r.guildId) (h proposalId)).card <
            2 * (r.votesFor + inFavor.toNat)
  | _ => True

omit [Currency AccountId L] [EscrowCurrency AccountId L] in
/-- An input that carries nothing is legitimate. -/
theorem Legitimate.of_kept {h' : EventLog Bytes32 (CouncilVote AccountId)}
    (hkept : ∀ id r, s'.guildProposals.get id = some r →
      s.guildProposals.get id = some r ∨ r.status ≠ .passed)
    (hfinal : ∀ id r, s.guildProposals.get id = some r → r.status ≠ .opened →
      s'.guildProposals.get id = some r) : Legitimate s s' h' := by
  refine ⟨fun id r hr hpassed hnew => ?_, hfinal⟩
  rcases hkept id r hr with hold | hne
  · rw [hold, Option.map_some, hpassed] at hnew
    exact absurd rfl hnew
  · exact absurd hpassed hne

omit [Currency AccountId L] [EscrowCurrency AccountId L] in
/-- When everybody has voted from the council, and so does the voter, the votes in favour are of the
council but for those who have left it. -/
theorem carried_iff {proposalId : Bytes32} {r r' : GuildProposalRecord AccountId}
    {v : CouncilVote AccountId} (hb' : Booked s' (h.append proposalId v))
    (hget' : s'.guildProposals.get proposalId = some r') (hguildId : r'.guildId = r.guildId)
    (hfor : r'.votesFor = r.votesFor + v.inFavor.toNat)
    (hcouncils : s'.guildsByUuid = s.guildsByUuid)
    (hseated : v.seated = decide (v.voter ∈ seats s r.guildId)) :
    Carried s' proposalId r' (h.append proposalId v proposalId) ↔
      (∀ w ∈ h proposalId, w.seated = true) ∧ v.voter ∈ seats s r.guildId ∧
        (seats s r.guildId).card + 2 * (departed (seats s r.guildId) (h proposalId)).card <
          2 * (r.votesFor + v.inFavor.toNat) := by
  have hseats : seats s' r'.guildId = seats s r.guildId := by
    rw [seats, seats, hcouncils, hguildId]
  have hcounted : r'.votesFor + r'.votesAgainst = (s'.proposalBallots.row proposalId).card := by
    rw [hb'.ballots, List.toFinset_card_of_nodup (hb'.once proposalId), voters, List.length_map]
    exact hb'.counted proposalId r' hget'
  have hall : (∀ w ∈ h.append proposalId v proposalId, w.seated = true) ↔
      (∀ w ∈ h proposalId, w.seated = true) ∧ v.voter ∈ seats s r.guildId := by
    rw [EventLog.append_self, List.forall_mem_append, List.forall_mem_singleton, hseated,
      decide_eq_true_iff]
  have hmajority := more_than_half_iff (seats s r.guildId) (hb'.once proposalId)
  rw [← hb'.inFavor proposalId r' hget', hfor] at hmajority
  constructor
  · intro hcarried
    obtain ⟨hbefore, hvoter⟩ := hall.mp hcarried.seated
    have hlt := hcarried.majority
    rw [hseats, hmajority, EventLog.append_self, departed_append hvoter] at hlt
    exact ⟨hbefore, hvoter, hlt⟩
  · rintro ⟨hbefore, hvoter, hlt⟩
    refine ⟨?_, hcounted, hall.mpr ⟨hbefore, hvoter⟩⟩
    rw [hseats, hmajority, EventLog.append_self, departed_append hvoter]
    exact hlt

omit [Currency AccountId L] [EscrowCurrency AccountId L] in
/-- A vote is legitimate just when it is covered. -/
theorem Booked.legitimate_vote_iff (hb : Booked s h) {origin : Origin AccountId}
    {guildId proposalId : Bytes32} {voter : AccountId} {inFavor : Bool} {g : GuildRecord AccountId}
    {r : GuildProposalRecord AccountId}
    (hx : x = .call origin (.voteProposalFromRelayer guildId proposalId voter inFavor))
    (hguild : s.guildsByUuid.get guildId = some g) (hget : s.guildProposals.get proposalId = some r)
    (hopen : r.status = .opened)
    (hproposals : s'.guildProposals = s.guildProposals.insert proposalId
      ((r.withVote inFavor).decided g.council.val.length))
    (hcouncils : s'.guildsByUuid = s.guildsByUuid) (hb' : Booked s' (recordVote s x h)) :
    Legitimate s s' (recordVote s x h) ↔ Covered s h x := by
  subst hx
  have hfor := (hb.withVote_counts hget hopen inFavor).1
  have hget' : s'.guildProposals.get proposalId =
      some ((r.withVote inFavor).decided g.council.val.length) := by
    rw [hproposals, StorageMap.get_insert_self]
  have hpassed := decided_status_eq_passed g.council.val.length
    (withVote_status.trans hopen : (r.withVote inFavor).status = .opened)
  rw [hfor] at hpassed
  -- the other proposals stay as they are, and this one was open
  have hfinal : ∀ id r', s.guildProposals.get id = some r' → r'.status ≠ .opened →
      s'.guildProposals.get id = some r' := by
    intro id r' hr hne
    rw [hproposals, StorageMap.get_insert_of_ne]
    · exact hr
    · rintro rfl
      rw [hget] at hr
      exact hne (Option.some.inj hr ▸ hopen)
  have hcarried := carried_iff (r := r) hb' hget' (by rw [decided_eq]; exact withVote_guildId)
    (by rw [decided_eq]; exact hfor) hcouncils (by dsimp only; rw [hget]; rfl)
  constructor
  · intro hlegitimate g' r' hg' hr' hlt
    rw [hguild] at hg'
    rw [hget] at hr'
    cases hg'
    cases hr'
    refine hcarried.mp (hlegitimate.carried proposalId _ hget' (hpassed.mpr hlt) ?_)
    rw [hget, Option.map_some, hopen]
    exact nofun
  · intro hcovered
    refine ⟨fun id r' hr hstatus hnew => ?_, hfinal⟩
    by_cases hid : id = proposalId
    · subst hid
      rw [hget'] at hr
      cases hr
      exact hcarried.mpr (hcovered g r hguild hget (hpassed.mp hstatus))
    · rw [hproposals, StorageMap.get_insert_of_ne hid] at hr
      rw [hr, Option.map_some, hstatus] at hnew
      exact absurd rfl hnew

/-- **An accepted input is legitimate just when it is covered.** -/
theorem legitimate_iff (hb : Booked s h) (hs : step cfg x s = .ok s') :
    Legitimate s s' (recordVote s x h) ↔ Covered s h x := by
  have hb' := booked_step hb hs
  cases step_proposals hs with
  | create origin guildId proposalId proposer _ hnew hproposals hballots =>
    refine iff_of_true (.of_kept (fun id r hr => ?_) fun id r hr _ => ?_) trivial
    · rw [hproposals] at hr
      rcases StorageMap.get_insert_cases hr with ⟨rfl, rfl⟩ | ⟨-, hr⟩
      · exact Or.inr nofun
      · exact Or.inl hr
    · rw [hproposals, StorageMap.get_insert_of_ne]
      · exact hr
      · rintro rfl
        rw [hnew] at hr
        cases hr
  | vote origin guildId proposalId voter inFavor _ g r hguild _ hget hopen _ hproposals _
      hcouncils =>
    exact hb.legitimate_vote_iff rfl hguild hget hopen hproposals hcouncils hb'
  | other _ _ hproposals hballots hvote =>
    refine iff_of_true (.of_kept (fun id r hr => Or.inl (hproposals ▸ hr))
      fun id r hr _ => hproposals ▸ hr) ?_
    unfold Covered
    split
    · exact absurd rfl (hvote _ _ _ _ _)
    · trivial

omit [Currency AccountId L] [EscrowCurrency AccountId L] in
/-- A vote in the name of the proposal's own guild is covered when nobody has voted from elsewhere
and whoever is in favour is of the council still. -/
theorem covered_of_own_council {origin : Origin AccountId} {guildId proposalId : Bytes32}
    {voter : AccountId} {inFavor : Bool} (hvoter : voter ∈ seats s guildId)
    (hown : ∀ r, s.guildProposals.get proposalId = some r → r.guildId = guildId)
    (hseated : ∀ v ∈ h proposalId, v.seated = true)
    (hstay : ∀ a ∈ yeas (h proposalId), a ∈ seats s guildId) :
    Covered s h
      (.call origin (.voteProposalFromRelayer guildId proposalId voter inFavor) : Input cfg L) := by
  intro g r hguild hget hlt
  obtain rfl := hown r hget
  refine ⟨hseated, hvoter, ?_⟩
  have hdeparted : departed (seats s r.guildId) (h proposalId) = ∅ := by
    refine Finset.sdiff_eq_empty_iff_subset.mpr fun a ha => ?_
    exact hstay a (List.mem_toFinset.mp ha)
  have hcard : (seats s r.guildId).card ≤ g.council.val.length := by
    rw [seats, hguild]
    exact List.toFinset_card_le _
  rw [hdeparted, Finset.card_empty]
  omega

/-- Every accepted input of the run is legitimate. -/
def LegitimateRun (cfg : Config AccountId) (xs : List (Input cfg L)) (ledger : L) : Prop :=
  Along (recording recordVote (step cfg))
    (fun t x => Legitimate t.1 (exec (step cfg) x t.1) (recordVote t.1 x t.2)) xs
    (.genesis ledger, fun _ => [])

/-- **Which runs are legitimate.** A proposal that becomes passed is carried by more than half of
the council of its guild, and what is decided stays, just when the votes that carry a proposal are
covered. -/
theorem councils_legitimate_iff (cfg : Config AccountId) (xs : List (Input cfg L)) (ledger : L) :
    LegitimateRun cfg xs ledger ↔ Along (recording recordVote (step cfg))
      (fun t x => Covered t.1 t.2 x) xs (.genesis ledger, fun _ => []) := by
  exact along_recording_congr (J := Booked)
    (R := fun s s' h x => Legitimate s s' (recordVote s x h)) (fun _ _ _ _ => booked_step)
    (fun _ _ _ _ => legitimate_iff) (booked_genesis ledger)

/-- A relayer enters a guild and its council. -/
def petitioning (relayer : ℕ) (guildId : Bytes32) (council : List ℕ) : List Runtime.GuildsInput :=
  [Runtime.guildsCall relayer (.createGuildFromRelayer guildId 1 (List.range 9)),
    Runtime.guildsCall relayer (.updateCouncilFromRelayer guildId council)]

/-- Two guilds, the first with a council of three and a proposal, the second with a council of
one. -/
def proposing : List Runtime.GuildsInput :=
  petitioning 9 (.ofByte 1) [1, 2, 3] ++ petitioning 9 (.ofByte 2) [9] ++
    [Runtime.guildsCall 9 (.createProposalFromRelayer (.ofByte 1) (.ofByte 7) 1)]

/-- The vote of the council of the second guild on the proposal of the first. -/
def strangersVote : Runtime.GuildsInput :=
  Runtime.guildsCall 9 (.voteProposalFromRelayer (.ofByte 2) (.ofByte 7) 9 true)

/-- A proposal is carried by the one vote of another guild's council. -/
theorem carried_outside : ¬ ∀ xs (ledger : Runtime.EscrowLedger ℕ),
    LegitimateRun Runtime.guilds xs ledger := by
  intro h
  have hrun := h (proposing ++ [strangersVote]) (ProvidedBalances.ofFree [])
  obtain ⟨t, ht⟩ := exists_ok (by decide +kernel : Except.isOk (recording recordVote
    (step Runtime.guilds) strangersVote (run (recording recordVote (step Runtime.guilds)) proposing
      (Runtime.guildsGenesis, fun _ => []))) = true)
  have hlegitimate := hrun.2.2.2.2.2.1 t ht
  have hcarried := hlegitimate.carried (.ofByte 7)
    { guildId := .ofByte 1
      proposer := 1
      votesFor := 1
      votesAgainst := 0
      status := .passed } (by decide +kernel) rfl (by decide +kernel)
  -- nobody of the council of three has voted
  have hmajority := hcarried.majority
  revert hmajority
  decide +kernel

end Guilds
