import Altan.Elections.Model

/-!
# What the calls of the elections do

The checks and changes of every call.

## Main results

* One lemma for each dispatchable
-/

open Bounded Dispatch

namespace Elections

variable {AccountId : Type} [DecidableEq AccountId] {cfg : Config} {ctx : Context AccountId}
  {s s' : State AccountId} {branch : GovernmentBranch} {level : ElectionLevel}
  {candidate citizen leader chairman who : AccountId} {winners candidates : List AccountId}
  {electionId arbadId : ℕ} {zoneId : Option ℕ}

omit [DecidableEq AccountId] in
theorem increment_eq_ok {τ : Type} [DecidableEq τ] {counts counts' : StorageMap τ ℕ} {t : τ} :
    increment counts t = .ok counts' ↔
      counts.getD t 0 + 1 ≤ u32Max ∧ counts' = counts.insert t (counts.getD t 0 + 1) := by
  simp only [increment, required_bind_eq_ok, checkedAdd_eq_some, pure_eq_ok, eq_comm (a := counts')]
  constructor
  · rintro ⟨count, ⟨hle, rfl⟩, hcounts⟩
    exact ⟨hle, hcounts⟩
  · rintro ⟨hle, hcounts⟩
    exact ⟨_, ⟨hle, rfl⟩, hcounts⟩

omit [DecidableEq AccountId] in
theorem increment_bind_eq_ok {τ : Type} [DecidableEq τ] {counts : StorageMap τ ℕ} {t : τ}
    {k : StorageMap τ ℕ → Result (State AccountId)} :
    (increment counts t >>= k) = .ok s' ↔
      counts.getD t 0 + 1 ≤ u32Max ∧ k (counts.insert t (counts.getD t 0 + 1)) = .ok s' := by
  rw [bind_eq_ok]
  simp only [increment_eq_ok]
  constructor
  · rintro ⟨counts', ⟨hle, rfl⟩, hk⟩
    exact ⟨hle, hk⟩
  · rintro ⟨hle, hk⟩
    exact ⟨_, ⟨hle, rfl⟩, hk⟩

/-- The account is a Tumed leader. -/
def IsTumed (s : State AccountId) (who : AccountId) : Prop :=
  ∃ level, s.electedLeaders.get who = some level ∧ ElectionLevel.tumed ≤ level

theorem ensureTumed_bind_eq_ok {k : Unit → Result (State AccountId)} :
    (ensureTumed s who >>= k) = .ok s' ↔ IsTumed s who ∧ k () = .ok s' := by
  unfold ensureTumed IsTumed
  rw [bind_assoc, required_bind_eq_ok]
  simp only [ensure_bind_eq_ok]
  constructor
  · rintro ⟨level, hget, hle, hk⟩
    exact ⟨⟨level, hget, hle⟩, hk⟩
  · rintro ⟨⟨level, hget, hle⟩, hk⟩
    exact ⟨level, hget, hle, hk⟩

theorem ensureLevel_bind_eq_ok {k : Unit → Result (State AccountId)} :
    (ensureLevel s who level >>= k) = .ok s' ↔
      ensureLevel s who level = .ok () ∧ k () = .ok s' := by
  rw [bind_eq_ok]
  constructor
  · rintro ⟨_, hlevel, hk⟩
    exact ⟨hlevel, hk⟩
  · rintro ⟨hlevel, hk⟩
    exact ⟨(), hlevel, hk⟩

/-! ### The decimal hierarchy -/

theorem castVote_eq_ok : castVote ctx electionId candidate s = .ok s' ↔
    ∃ voter, ctx.origin = .signed voter ∧ ∃ election, s.elections.get electionId = some election ∧
      election.isActive = true ∧ candidate ∈ election.candidates ∧
        s.votes.get (electionId, voter) = none ∧ ensureLevel s voter election.level = .ok () ∧
          s.voteCounts.getD (electionId, candidate) 0 + 1 ≤ u32Max ∧
            s' = { s with
              votes := s.votes.insert (electionId, voter) candidate
              voteCounts := s.voteCounts.insert (electionId, candidate)
                (s.voteCounts.getD (electionId, candidate) 0 + 1) } := by
  simp only [castVote, ensureSigned_bind_eq_ok, required_bind_eq_ok, ensure_bind_eq_ok,
    ensureLevel_bind_eq_ok, increment_bind_eq_ok, pure_eq_ok, eq_comm (a := s')]

theorem addCitizenToArbad_eq_ok : addCitizenToArbad ctx citizen arbadId s = .ok s' ↔
    ctx.origin = .root ∧ s.arbadMemberCount.getD arbadId 0 + 1 ≤ u32Max ∧
      s' = { s with
        citizenArbad := s.citizenArbad.insert citizen arbadId
        arbadMemberCount :=
          s.arbadMemberCount.insert arbadId (s.arbadMemberCount.getD arbadId 0 + 1) } := by
  simp only [addCitizenToArbad, ensureRoot_bind_eq_ok, increment_bind_eq_ok, pure_eq_ok,
    eq_comm (a := s')]

theorem enterZone_zun_eq_ok : enterZone cfg leader zoneId s .zun = .ok s' ↔
    ∃ arbadId, s.citizenArbad.get leader = some arbadId ∧
      cfg.minArbadSize ≤ s.arbadMemberCount.getD arbadId 0 ∧
        s.zunLeaderCount.getD arbadId 0 + 1 ≤ u32Max ∧
          s' = { s with
            zunLeaderCount :=
              s.zunLeaderCount.insert arbadId (s.zunLeaderCount.getD arbadId 0 + 1)
            citizenZun := s.citizenZun.insert leader arbadId } := by
  simp only [enterZone, required_bind_eq_ok, ensure_bind_eq_ok, increment_bind_eq_ok, pure_eq_ok,
    eq_comm (a := s')]

theorem enterZone_myangad_eq_ok : enterZone cfg leader zoneId s .myangad = .ok s' ↔
    ∃ zunId, zoneId = some zunId ∧ cfg.minZunLeaders ≤ s.zunLeaderCount.getD zunId 0 ∧
      s.myangadLeaderCount.getD zunId 0 + 1 ≤ u32Max ∧
        s' = { s with
          myangadLeaderCount :=
            s.myangadLeaderCount.insert zunId (s.myangadLeaderCount.getD zunId 0 + 1)
          citizenMyangad := s.citizenMyangad.insert leader zunId } := by
  simp only [enterZone, required_bind_eq_ok, ensure_bind_eq_ok, increment_bind_eq_ok, pure_eq_ok,
    eq_comm (a := s')]

theorem enterZone_tumed_eq_ok : enterZone cfg leader zoneId s .tumed = .ok s' ↔
    ∃ myangadId, zoneId = some myangadId ∧
      cfg.minMyangadLeaders ≤ s.myangadLeaderCount.getD myangadId 0 ∧ s' = s := by
  simp only [enterZone, required_bind_eq_ok, ensure_bind_eq_ok, pure_eq_ok, eq_comm (a := s')]

theorem enterZone_arbad_eq_ok : enterZone cfg leader zoneId s .arbad = .ok s' ↔ s' = s := by
  simp only [enterZone, Except.ok.injEq, eq_comm (a := s')]

theorem promoteLeader_eq_ok : promoteLeader cfg ctx leader level zoneId s = .ok s' ↔
    ctx.origin = .root ∧ ∃ t, enterZone cfg leader zoneId s level = .ok t ∧
      s' = { t with electedLeaders := t.electedLeaders.insert leader level } := by
  rw [promoteLeader, ensureRoot_bind_eq_ok, bind_eq_ok]
  simp only [pure_eq_ok, eq_comm (a := s')]

omit [DecidableEq AccountId] in
theorem createElection_eq_ok : createElection cfg ctx electionId level candidates s = .ok s' ↔
    ctx.origin = .root ∧ s.elections.containsKey electionId = false ∧
      candidates.length ≤ cfg.maxCandidates ∧
        s' = { s with
          elections := s.elections.insert electionId
            { level := level
              isActive := true
              candidates := candidates } } := by
  simp only [createElection, ensureRoot_bind_eq_ok, ensure_bind_eq_ok, pure_eq_ok,
    eq_comm (a := s')]

/-! ### The peak -/

/-- The counter of the candidates of a branch goes up when the candidate has no votes yet. -/
theorem countCandidate_bind_eq_ok {k : StorageMap GovernmentBranch ℕ → Result (State AccountId)} :
    (countCandidate cfg branch candidate s >>= k) = .ok s' ↔
      (s.branchVoteCounts.getD (branch, candidate) 0 = 0 ∧
        s.branchCandidateCount.getD branch 0 + 1 ≤ cfg.maxBranchCandidates ∧
        s.branchCandidateCount.getD branch 0 + 1 ≤ u32Max ∧
        k (s.branchCandidateCount.insert branch (s.branchCandidateCount.getD branch 0 + 1)) =
          .ok s') ∨
      (s.branchVoteCounts.getD (branch, candidate) 0 ≠ 0 ∧ k s.branchCandidateCount = .ok s') := by
  unfold countCandidate
  by_cases hnew : s.branchVoteCounts.getD (branch, candidate) 0 = 0
  · simp only [hnew, if_true, bind_assoc, required_bind_eq_ok, ensure_bind_eq_ok, pure_bind,
      checkedAdd_eq_some, true_and, ne_eq, not_true_eq_false, false_and, or_false]
    constructor
    · rintro ⟨count, ⟨hle, rfl⟩, hmax, hk⟩
      exact ⟨hmax, hle, hk⟩
    · rintro ⟨hmax, hle, hk⟩
      exact ⟨_, ⟨hle, rfl⟩, hmax, hk⟩
  · simp only [hnew, if_false, false_and, false_or, ne_eq, not_false_eq_true, true_and]
    rfl

/-- The storage once a vote for the council of a branch is cast. -/
def withBranchVote (s : State AccountId) (branch : GovernmentBranch) (voter candidate : AccountId) :
    State AccountId :=
  { s with
    branchCandidateCount :=
      if s.branchVoteCounts.getD (branch, candidate) 0 = 0 then
        s.branchCandidateCount.insert branch (s.branchCandidateCount.getD branch 0 + 1)
      else s.branchCandidateCount
    branchVotes := s.branchVotes.insert (branch, voter) candidate
    branchVoteCounts := s.branchVoteCounts.insert (branch, candidate)
      (s.branchVoteCounts.getD (branch, candidate) 0 + 1) }

theorem electBranchCouncil_eq_ok : electBranchCouncil cfg ctx branch candidate s = .ok s' ↔
    ∃ voter, ctx.origin = .signed voter ∧ branch ≠ .legislative ∧ IsTumed s candidate ∧
      IsTumed s voter ∧ s.branchVotes.get (branch, voter) = none ∧
        (s.branchVoteCounts.getD (branch, candidate) 0 = 0 →
          s.branchCandidateCount.getD branch 0 + 1 ≤ cfg.maxBranchCandidates ∧
            s.branchCandidateCount.getD branch 0 + 1 ≤ u32Max) ∧
        s.branchVoteCounts.getD (branch, candidate) 0 + 1 ≤ u32Max ∧
          s' = withBranchVote s branch voter candidate := by
  unfold withBranchVote
  simp only [electBranchCouncil, ensureSigned_bind_eq_ok, ensure_bind_eq_ok, required_bind_eq_ok,
    ensureTumed_bind_eq_ok, countCandidate_bind_eq_ok, increment_bind_eq_ok, pure_eq_ok,
    eq_comm (a := s')]
  refine exists_congr fun voter => and_congr_right fun _ => and_congr_right fun _ => ?_
  by_cases hnew : s.branchVoteCounts.getD (branch, candidate) 0 = 0
  · simp only [hnew, true_and, ne_eq, not_true_eq_false, false_and, or_false, if_true,
      true_implies, IsTumed]
    constructor
    · rintro ⟨level, hget, hlevel, hvoter, hfirst, hmax, hle, hcount, hs'⟩
      exact ⟨⟨level, hget, hlevel⟩, hvoter, hfirst, ⟨hmax, hle⟩, hcount, hs'⟩
    · rintro ⟨⟨level, hget, hlevel⟩, hvoter, hfirst, ⟨hmax, hle⟩, hcount, hs'⟩
      exact ⟨level, hget, hlevel, hvoter, hfirst, hmax, hle, hcount, hs'⟩
  · simp only [hnew, false_and, false_or, ne_eq, not_false_eq_true, true_and, if_false,
      false_implies, IsTumed]
    constructor
    · rintro ⟨level, hget, hlevel, hvoter, hfirst, hcount, hs'⟩
      exact ⟨⟨level, hget, hlevel⟩, hvoter, hfirst, hcount, hs'⟩
    · rintro ⟨⟨level, hget, hlevel⟩, hvoter, hfirst, hcount, hs'⟩
      exact ⟨level, hget, hlevel, hvoter, hfirst, hcount, hs'⟩

theorem confirmBranchCouncil_eq_ok : confirmBranchCouncil ctx branch winners s = .ok s' ↔
    ctx.origin = .root ∧ branch ≠ .legislative ∧ winners.length = councilSize ∧
      (∀ winner ∈ winners, 0 < s.branchVoteCounts.getD (branch, winner) 0) ∧
        ∃ council : BoundedVec AccountId 9, council.val = winners ∧
          s' = { s with branchCouncils := s.branchCouncils.insert branch council } := by
  simp only [confirmBranchCouncil, ensureRoot_bind_eq_ok, ensure_bind_eq_ok, required_bind_eq_ok,
    BoundedVec.tryFrom_eq_some, pure_eq_ok, eq_comm (a := s')]

theorem electSupremeLeader_eq_ok : electSupremeLeader ctx branch candidate s = .ok s' ↔
    ∃ voter, ctx.origin = .signed voter ∧ branch ≠ .legislative ∧
      ∃ council, s.branchCouncils.get branch = some council ∧ voter ∈ council.val ∧
        s.supremeLeaderVotes.get (branch, voter) = none ∧
          s.supremeLeaderVoteCounts.getD (branch, candidate) 0 + 1 ≤ u32Max ∧
            s' = { s with
              supremeLeaderVotes := s.supremeLeaderVotes.insert (branch, voter) candidate
              supremeLeaderVoteCounts := s.supremeLeaderVoteCounts.insert (branch, candidate)
                (s.supremeLeaderVoteCounts.getD (branch, candidate) 0 + 1) } := by
  simp only [electSupremeLeader, ensureSigned_bind_eq_ok, ensure_bind_eq_ok, required_bind_eq_ok,
    increment_bind_eq_ok, pure_eq_ok, eq_comm (a := s')]

omit [DecidableEq AccountId] in
theorem confirmSupremeLeader_eq_ok : confirmSupremeLeader ctx branch leader s = .ok s' ↔
    ctx.origin = .root ∧ branch ≠ .legislative ∧
      s' = { s with supremeLeaders := s.supremeLeaders.insert branch leader } := by
  simp only [confirmSupremeLeader, ensureRoot_bind_eq_ok, ensure_bind_eq_ok, pure_eq_ok,
    eq_comm (a := s')]

theorem electKhuralChairman_eq_ok : electKhuralChairman ctx candidate s = .ok s' ↔
    ∃ voter, ctx.origin = .signed voter ∧ ctx.isIndigenous voter = true ∧
      ctx.isIndigenous candidate = true ∧ IsTumed s voter ∧ s.khuralVotes.get voter = none ∧
        s.khuralVoteCounts.getD candidate 0 + 1 ≤ u32Max ∧
          s' = { s with
            khuralVotes := s.khuralVotes.insert voter candidate
            khuralVoteCounts :=
              s.khuralVoteCounts.insert candidate (s.khuralVoteCounts.getD candidate 0 + 1) } := by
  simp only [electKhuralChairman, ensureSigned_bind_eq_ok, ensure_bind_eq_ok,
    ensureTumed_bind_eq_ok, increment_bind_eq_ok, pure_eq_ok, eq_comm (a := s')]

theorem confirmKhuralChairman_eq_ok : confirmKhuralChairman ctx chairman s = .ok s' ↔
    ctx.origin = .root ∧ ∃ arbadId, s.citizenArbad.get chairman = some arbadId ∧
      s' = { s with khuralChairman := some (chairman, arbadId) } := by
  simp only [confirmKhuralChairman, ensureRoot_bind_eq_ok, required_bind_eq_ok, pure_eq_ok,
    eq_comm (a := s')]

/-- The storage once the ballots of a branch with a council are cleared. -/
def withoutBranch (s : State AccountId) (branch : GovernmentBranch) : State AccountId :=
  { s with
    branchVotes := s.branchVotes.removeAll fun k => k.1 = branch
    branchVoteCounts := s.branchVoteCounts.removeAll fun k => k.1 = branch
    branchCandidateCount := s.branchCandidateCount.remove branch
    supremeLeaderVotes := s.supremeLeaderVotes.removeAll fun k => k.1 = branch
    supremeLeaderVoteCounts := s.supremeLeaderVoteCounts.removeAll fun k => k.1 = branch
    branchCouncils := s.branchCouncils.remove branch
    supremeLeaders := s.supremeLeaders.remove branch }

omit [DecidableEq AccountId] in
theorem resetBallot_legislative_eq_ok : resetBallot ctx .legislative s = .ok s' ↔
    ctx.origin = .root ∧
      s' = { s with khuralVotes := ∅, khuralVoteCounts := ∅, khuralChairman := none } := by
  simp only [resetBallot, ensureRoot_bind_eq_ok, pure_eq_ok, eq_comm (a := s')]

omit [DecidableEq AccountId] in
theorem resetBallot_eq_ok (h : branch ≠ .legislative) : resetBallot ctx branch s = .ok s' ↔
    ctx.origin = .root ∧ s' = withoutBranch s branch := by
  cases branch with
  | legislative => exact absurd rfl h
  | _ =>
    simp only [resetBallot, ensureRoot_bind_eq_ok, pure_eq_ok, eq_comm (a := s')]
    rfl

end Elections
