import Altan.Elections.Councils
import Altan.Foundation.Past
import Altan.Foundation.TransitionSystem

/-!
# The mandates of the councils

Who sits on a council, who leads a branch, and who is a Tumed leader, is what the accepted calls of
the past say: root's latest word. Behind each word of root stand the calls it rests on: a council is
seated after ballots for all its members, and these ballots are cast by Tumed leaders for Tumed
leaders, one by each of them until the ballots of the branch are reset.

## Main definitions

* `Call.Seats`, `Call.Leads`, `Call.Raises`: the calls that fill an office
* `Call.VotesFor`, `Call.Resets`: ballots for a council, and their end
* `Rightful`: what an accepted call rests on
* `Recorded`: the offices are what the history says

## Main results

* `step_offices`: what one accepted call does to the offices
* `recorded_step`: one call
* `mandates`: the offices after a run, and what they rest on
-/

open Bounded Dispatch Past TransitionSystem

namespace Elections

variable {AccountId : Type}

/-! ### The calls that fill an office -/

/-- The call seats an account on the council of a branch. -/
def Call.Seats (branch : GovernmentBranch) (who : AccountId) : Call AccountId → Prop
  | .confirmBranchCouncil b winners => b = branch ∧ who ∈ winners
  | _ => False

/-- The call makes an account the supreme leader of a branch. -/
def Call.Leads (branch : GovernmentBranch) (who : AccountId) : Call AccountId → Prop
  | .confirmSupremeLeader b leader => b = branch ∧ leader = who
  | _ => False

/-- The call promotes an account to a tier. -/
def Call.Raises (level : ElectionLevel) (who : AccountId) : Call AccountId → Prop
  | .promoteLeader leader newLevel _ => newLevel = level ∧ leader = who
  | _ => False

/-- The call is a ballot for a member of the council of a branch. -/
def Call.VotesFor (branch : GovernmentBranch) (who : AccountId) : Call AccountId → Prop
  | .electBranchCouncil b candidate => b = branch ∧ candidate = who
  | _ => False

/-- The call ends the ballots of a branch. -/
def Call.Resets (branch : GovernmentBranch) : Call AccountId → Prop
  | .resetBallot b => b = branch
  | _ => False

/-- The call fills the council of a branch anew, or empties it. -/
def Call.Unseats (branch : GovernmentBranch) (c : Call AccountId) : Prop :=
  c.Resets branch ∨ match c with
    | .confirmBranchCouncil b _ => b = branch
    | _ => False

/-- The call changes the supreme leader of a branch, or ends the term. -/
def Call.Deposes (branch : GovernmentBranch) (c : Call AccountId) : Prop :=
  c.Resets branch ∨ match c with
    | .confirmSupremeLeader b _ => b = branch
    | _ => False

/-! ### Their history -/

/-- A history of accepted calls, with what each was dispatched with. -/
abbrev History (AccountId : Type) := List (Extrinsic AccountId)

section Histories

variable (h : History AccountId) (branch : GovernmentBranch) (who : AccountId)

/-- The history leaves an account on the council of a branch. -/
def OnCouncil : Prop := Since (fun x => x.2.Seats branch who) (fun x => x.2.Unseats branch) h

/-- The history leaves an account the supreme leader of a branch. -/
def Leading : Prop := Since (fun x => x.2.Leads branch who) (fun x => x.2.Deposes branch) h

/-- The history leaves an account a Tumed leader. -/
def TumedLeader : Prop :=
  Since (fun x => x.2.Raises .tumed who) (fun x => ∃ level, x.2.Raises level who) h

/-- An account has votes for the council of a branch. -/
def HasVotes : Prop := Since (fun x => x.2.VotesFor branch who) (fun x => x.2.Resets branch) h

/-- An account has voted for the council of a branch. -/
def HasVoted : Prop :=
  Since (fun x => x.1.origin = .signed who ∧ ∃ candidate, x.2.VotesFor branch candidate)
    (fun x => x.2.Resets branch) h

end Histories

/-- What an accepted call rests on, in view of the calls before it. -/
def Rightful (before : History AccountId) (x : Extrinsic AccountId) : Prop :=
  match x.2 with
  | .electBranchCouncil branch candidate => branch ≠ .legislative ∧ ∃ voter,
      x.1.origin = .signed voter ∧ TumedLeader before voter ∧ TumedLeader before candidate ∧
        ¬ HasVoted before branch voter
  | .confirmBranchCouncil branch winners => x.1.origin = .root ∧ branch ≠ .legislative ∧
      winners.length = councilSize ∧ ∀ winner ∈ winners, HasVotes before branch winner
  | .electSupremeLeader branch _ => branch ≠ .legislative ∧ ∃ voter, x.1.origin = .signed voter ∧
      OnCouncil before branch voter
  | .confirmSupremeLeader branch _ => x.1.origin = .root ∧ branch ≠ .legislative
  | .electKhuralChairman _ => ∃ voter, x.1.origin = .signed voter ∧ TumedLeader before voter
  | .castVote _ _ => ∃ voter, x.1.origin = .signed voter
  | _ => x.1.origin = .root

variable [DecidableEq AccountId]

/-- The offices are what the history says, and every call of it was rightful. -/
structure Recorded (s : State AccountId) (h : History AccountId) : Prop where
  councils : ∀ branch who, branch ≠ .legislative →
    ((∃ council, s.branchCouncils.get branch = some council ∧ who ∈ council.val) ↔
      OnCouncil h branch who)
  leaders : ∀ branch who, branch ≠ .legislative →
    (s.supremeLeaders.get branch = some who ↔ Leading h branch who)
  tumed : ∀ who, IsTumed s who ↔ TumedLeader h who
  votes : ∀ branch who, branch ≠ .legislative →
    (0 < s.branchVoteCounts.getD (branch, who) 0 ↔ HasVotes h branch who)
  voters : ∀ branch who, branch ≠ .legislative →
    (s.branchVotes.containsKey (branch, who) = true ↔ HasVoted h branch who)
  noCouncil : s.branchCouncils.get .legislative = none
  noLeader : s.supremeLeaders.get .legislative = none
  rightful : Lawfully Rightful h

/-! ### What a call does to the offices -/

/-- The calls that change no office and no ballot for a council. -/
def Call.Idle : Call AccountId → Prop
  | .promoteLeader _ _ _ | .electBranchCouncil _ _ | .confirmBranchCouncil _ _
  | .confirmSupremeLeader _ _ | .resetBallot _ => False
  | _ => True

/-- What an accepted call does to the offices: it fills them, or it leaves what it does not end. -/
structure Offices (s s' : State AccountId) (x : Extrinsic AccountId) : Prop where
  councils : ∀ branch who, branch ≠ .legislative →
    ((∃ council, s'.branchCouncils.get branch = some council ∧ who ∈ council.val) ↔
      x.2.Seats branch who ∨
        (∃ council, s.branchCouncils.get branch = some council ∧ who ∈ council.val) ∧
          ¬ x.2.Unseats branch)
  leaders : ∀ branch who, branch ≠ .legislative → (s'.supremeLeaders.get branch = some who ↔
    x.2.Leads branch who ∨ s.supremeLeaders.get branch = some who ∧ ¬ x.2.Deposes branch)
  tumed : ∀ who, IsTumed s' who ↔
    x.2.Raises .tumed who ∨ IsTumed s who ∧ ¬ ∃ level, x.2.Raises level who
  votes : ∀ branch who, branch ≠ .legislative → (0 < s'.branchVoteCounts.getD (branch, who) 0 ↔
    x.2.VotesFor branch who ∨
      0 < s.branchVoteCounts.getD (branch, who) 0 ∧ ¬ x.2.Resets branch)
  voters : ∀ branch who, branch ≠ .legislative → (s'.branchVotes.containsKey (branch, who) = true ↔
    (x.1.origin = .signed who ∧ ∃ candidate, x.2.VotesFor branch candidate) ∨
      s.branchVotes.containsKey (branch, who) = true ∧ ¬ x.2.Resets branch)
  noCouncil : s.branchCouncils.get .legislative = none →
    s'.branchCouncils.get .legislative = none
  noLeader : s.supremeLeaders.get .legislative = none →
    s'.supremeLeaders.get .legislative = none

variable {cfg : Config} {s s' : State AccountId} {x : Extrinsic AccountId}

theorem Offices.of_idle (hx : x.2.Idle) (hcouncils : s'.branchCouncils = s.branchCouncils)
    (hleaders : s'.supremeLeaders = s.supremeLeaders)
    (htumed : s'.electedLeaders = s.electedLeaders)
    (hvotes : s'.branchVoteCounts = s.branchVoteCounts)
    (hvoters : s'.branchVotes = s.branchVotes) : Offices s s' x := by
  obtain ⟨ctx, call⟩ := x
  cases call <;> simp [Call.Idle] at hx <;>
    exact {
      councils := by simp [hcouncils, Call.Seats, Call.Unseats, Call.Resets]
      leaders := by simp [hleaders, Call.Leads, Call.Deposes, Call.Resets]
      tumed := by simp [htumed, IsTumed, Call.Raises]
      votes := by simp [hvotes, Call.VotesFor, Call.Resets]
      voters := by simp [hvoters, Call.VotesFor, Call.Resets]
      noCouncil := by simp [hcouncils]
      noLeader := by simp [hleaders] }

/-- Only a Tumed leader is at least one. -/
theorem tumed_le_iff {level : ElectionLevel} : ElectionLevel.tumed ≤ level ↔ level = .tumed := by
  cases level <;> decide

theorem offices_promoteLeader {ctx : Context AccountId} {leader : AccountId}
    {level : ElectionLevel} {zoneId : Option ℕ}
    (hs : promoteLeader cfg ctx leader level zoneId s = .ok s') :
    Offices s s' (ctx, .promoteLeader leader level zoneId) := by
  obtain ⟨-, t, ht, rfl⟩ := promoteLeader_eq_ok.mp hs
  obtain ⟨hcouncils, hleaders, -⟩ := enterZone_seats ht
  have htumed := enterZone_electedLeaders ht
  have hballots := enterZone_sameBallots ht
  have hvotes : ∀ branch who, t.branchVoteCounts.getD (branch, who) 0 =
      s.branchVoteCounts.getD (branch, who) 0 := fun branch who =>
    congrFun (congrFun hballots.tally (.council branch)) who
  have hvoters : ∀ branch who, t.branchVotes.get (branch, who) = s.branchVotes.get (branch, who) :=
    fun branch who => congrFun (congrFun hballots.ballot (.council branch)) who
  exact {
    councils := by simp [hcouncils, Call.Seats, Call.Unseats, Call.Resets]
    leaders := by simp [hleaders, Call.Leads, Call.Deposes, Call.Resets]
    tumed := by
      intro who
      simp only [IsTumed, Call.Raises, htumed]
      by_cases hwho : who = leader
      · subst hwho
        simp [StorageMap.get_insert_self, tumed_le_iff]
      · rw [StorageMap.get_insert_of_ne hwho]
        simp [Ne.symm hwho]
    votes := by simp [hvotes, Call.VotesFor, Call.Resets]
    voters := by simp [StorageMap.containsKey, hvoters, Call.VotesFor, Call.Resets]
    noCouncil := by simp [hcouncils]
    noLeader := by simp [hleaders] }

theorem offices_electBranchCouncil {ctx : Context AccountId} {branch : GovernmentBranch}
    {candidate : AccountId} (hs : electBranchCouncil cfg ctx branch candidate s = .ok s') :
    Offices s s' (ctx, .electBranchCouncil branch candidate) := by
  obtain ⟨voter, hvoter, -, -, -, -, -, -, rfl⟩ := electBranchCouncil_eq_ok.mp hs
  exact {
    councils := by simp [withBranchVote, Call.Seats, Call.Unseats, Call.Resets]
    leaders := by simp [withBranchVote, Call.Leads, Call.Deposes, Call.Resets]
    tumed := by simp [withBranchVote, IsTumed, Call.Raises]
    votes := by
      intro b who _
      simp only [withBranchVote, Call.VotesFor, Call.Resets, not_false_eq_true, and_true]
      by_cases hk : (b, who) = (branch, candidate)
      · obtain ⟨rfl, rfl⟩ := Prod.mk.inj hk
        simp [StorageMap.getD_insert_self]
      · have hne : ¬ (branch = b ∧ candidate = who) := fun h => hk (by rw [h.1, h.2])
        rw [StorageMap.getD_insert, if_neg hk]
        simp [hne]
    voters := by
      intro b who _
      simp only [withBranchVote, Call.VotesFor, Call.Resets, not_false_eq_true, and_true,
        StorageMap.containsKey_iff]
      by_cases hk : (b, who) = (branch, voter)
      · obtain ⟨rfl, rfl⟩ := Prod.mk.inj hk
        simp [StorageMap.get_insert_self, hvoter]
      · have hne : ¬ (ctx.origin = .signed who ∧ ∃ c, branch = b ∧ candidate = c) := by
          rintro ⟨horigin, -, rfl, -⟩
          rw [hvoter] at horigin
          exact hk (by rw [Origin.signed.inj horigin])
        rw [StorageMap.get_insert_of_ne hk]
        exact (or_iff_right hne).symm
    noCouncil := fun h => h
    noLeader := fun h => h }

theorem offices_confirmBranchCouncil {ctx : Context AccountId} {branch : GovernmentBranch}
    {winners : List AccountId} (hs : confirmBranchCouncil ctx branch winners s = .ok s') :
    Offices s s' (ctx, .confirmBranchCouncil branch winners) := by
  obtain ⟨-, hbranch, -, -, council, hcouncil, rfl⟩ := confirmBranchCouncil_eq_ok.mp hs
  exact {
    councils := by
      intro b who _
      simp only [Call.Seats, Call.Unseats, Call.Resets, false_or]
      by_cases hb : b = branch
      · subst hb
        simp [StorageMap.get_insert_self, ← hcouncil]
      · rw [StorageMap.get_insert_of_ne hb]
        simp [Ne.symm hb]
    leaders := by simp [Call.Leads, Call.Deposes, Call.Resets]
    tumed := by simp [IsTumed, Call.Raises]
    votes := by simp [Call.VotesFor, Call.Resets]
    voters := by simp [Call.VotesFor, Call.Resets]
    noCouncil := fun h => (StorageMap.get_insert_of_ne (Ne.symm hbranch)).trans h
    noLeader := fun h => h }

theorem offices_confirmSupremeLeader {ctx : Context AccountId}
    {branch : GovernmentBranch} {leader : AccountId}
    (hs : confirmSupremeLeader ctx branch leader s = .ok s') :
    Offices s s' (ctx, .confirmSupremeLeader branch leader) := by
  obtain ⟨-, hbranch, rfl⟩ := confirmSupremeLeader_eq_ok.mp hs
  exact {
    councils := by simp [Call.Seats, Call.Unseats, Call.Resets]
    leaders := by
      intro b who _
      simp only [Call.Leads, Call.Deposes, Call.Resets, false_or]
      by_cases hb : b = branch
      · subst hb
        simp [StorageMap.get_insert_self]
      · rw [StorageMap.get_insert_of_ne hb]
        simp [Ne.symm hb]
    tumed := by simp [IsTumed, Call.Raises]
    votes := by simp [Call.VotesFor, Call.Resets]
    voters := by simp [Call.VotesFor, Call.Resets]
    noCouncil := fun h => h
    noLeader := fun h => (StorageMap.get_insert_of_ne (Ne.symm hbranch)).trans h }

theorem offices_resetBallot {ctx : Context AccountId} {branch : GovernmentBranch}
    (hs : resetBallot ctx branch s = .ok s') : Offices s s' (ctx, .resetBallot branch) := by
  by_cases hleg : branch = .legislative
  · subst hleg
    obtain ⟨-, rfl⟩ := resetBallot_legislative_eq_ok.mp hs
    -- the chairman of the Khural has no seat among these
    exact {
      councils := fun b who hb => by simp [Call.Seats, Call.Unseats, Call.Resets, Ne.symm hb]
      leaders := fun b who hb => by simp [Call.Leads, Call.Deposes, Call.Resets, Ne.symm hb]
      tumed := by simp [IsTumed, Call.Raises]
      votes := fun b who hb => by simp [Call.VotesFor, Call.Resets, Ne.symm hb]
      voters := fun b who hb => by simp [Call.VotesFor, Call.Resets, Ne.symm hb]
      noCouncil := fun h => h
      noLeader := fun h => h }
  · obtain ⟨-, rfl⟩ := (resetBallot_eq_ok hleg).mp hs
    exact {
      councils := by
        intro b who _
        simp only [withoutBranch, Call.Seats, Call.Unseats, Call.Resets, or_false, false_or]
        by_cases hb : b = branch
        · subst hb
          simp [StorageMap.get_remove_self]
        · rw [StorageMap.get_remove_of_ne hb]
          simp [Ne.symm hb]
      leaders := by
        intro b who _
        simp only [withoutBranch, Call.Leads, Call.Deposes, Call.Resets, or_false, false_or]
        by_cases hb : b = branch
        · subst hb
          simp [StorageMap.get_remove_self]
        · rw [StorageMap.get_remove_of_ne hb]
          simp [Ne.symm hb]
      tumed := by simp [withoutBranch, IsTumed, Call.Raises]
      votes := by
        intro b who _
        simp only [withoutBranch, Call.VotesFor, Call.Resets, false_or, StorageMap.getD_removeAll]
        by_cases hb : b = branch
        · simp [hb]
        · simp [hb, Ne.symm hb]
      voters := by
        intro b who _
        simp only [withoutBranch, Call.VotesFor, Call.Resets, exists_false, and_false, false_or,
          StorageMap.containsKey, StorageMap.get_removeAll]
        by_cases hb : b = branch
        · simp [hb]
        · simp [hb, Ne.symm hb]
      noCouncil := fun h => (StorageMap.get_remove_of_ne (Ne.symm hleg)).trans h
      noLeader := fun h => (StorageMap.get_remove_of_ne (Ne.symm hleg)).trans h }

/-- **What one accepted call does to the offices.** -/
theorem step_offices (hs : step cfg x s = .ok s') : Offices s s' x := by
  obtain ⟨ctx, call⟩ := x
  cases call with
  | castVote electionId candidate =>
    obtain ⟨voter, -, election, -, -, -, -, -, -, rfl⟩ := castVote_eq_ok.mp hs
    exact Offices.of_idle (by trivial) rfl rfl rfl rfl rfl
  | addCitizenToArbad citizen arbadId =>
    obtain ⟨-, -, rfl⟩ := addCitizenToArbad_eq_ok.mp hs
    exact Offices.of_idle (by trivial) rfl rfl rfl rfl rfl
  | promoteLeader leader newLevel zoneId => exact offices_promoteLeader hs
  | createElection electionId level candidates =>
    obtain ⟨-, -, -, rfl⟩ := createElection_eq_ok.mp hs
    exact Offices.of_idle (by trivial) rfl rfl rfl rfl rfl
  | electBranchCouncil branch candidate => exact offices_electBranchCouncil hs
  | confirmBranchCouncil branch winners => exact offices_confirmBranchCouncil hs
  | electSupremeLeader branch candidate =>
    obtain ⟨voter, -, -, council, -, -, -, -, rfl⟩ := electSupremeLeader_eq_ok.mp hs
    exact Offices.of_idle (by trivial) rfl rfl rfl rfl rfl
  | confirmSupremeLeader branch leader => exact offices_confirmSupremeLeader hs
  | electKhuralChairman candidate =>
    obtain ⟨voter, -, -, -, -, -, -, rfl⟩ := electKhuralChairman_eq_ok.mp hs
    exact Offices.of_idle (by trivial) rfl rfl rfl rfl rfl
  | confirmKhuralChairman chairman =>
    obtain ⟨-, arbadId, -, rfl⟩ := confirmKhuralChairman_eq_ok.mp hs
    exact Offices.of_idle (by trivial) rfl rfl rfl rfl rfl
  | resetBallot branch => exact offices_resetBallot hs

/-! ### Runs -/

variable {h : History AccountId}

/-- **What an accepted call rests on** was put on record before it. -/
theorem rightful_of_step (hrec : Recorded s h) (hs : step cfg x s = .ok s') : Rightful h x := by
  obtain ⟨ctx, call⟩ := x
  cases call with
  | castVote electionId candidate =>
    obtain ⟨voter, hvoter, -⟩ := castVote_eq_ok.mp hs
    exact ⟨voter, hvoter⟩
  | addCitizenToArbad citizen arbadId => exact (addCitizenToArbad_eq_ok.mp hs).1
  | promoteLeader leader newLevel zoneId => exact (promoteLeader_eq_ok.mp hs).1
  | createElection electionId level candidates => exact (createElection_eq_ok.mp hs).1
  | electBranchCouncil branch candidate =>
    obtain ⟨voter, hvoter, hbranch, hcandidate, htumed, hfirst, -⟩ := electBranchCouncil_eq_ok.mp hs
    refine ⟨hbranch, voter, hvoter, (hrec.tumed voter).mp htumed,
      (hrec.tumed candidate).mp hcandidate, fun hvoted => ?_⟩
    have hthere := (hrec.voters branch voter hbranch).mpr hvoted
    rw [StorageMap.not_containsKey.mpr hfirst] at hthere
    cases hthere
  | confirmBranchCouncil branch winners =>
    obtain ⟨horigin, hbranch, hsize, hvotes, -⟩ := confirmBranchCouncil_eq_ok.mp hs
    exact ⟨horigin, hbranch, hsize, fun winner hw =>
      (hrec.votes branch winner hbranch).mp (hvotes winner hw)⟩
  | electSupremeLeader branch candidate =>
    obtain ⟨voter, hvoter, hbranch, council, hcouncil, hmember, -⟩ :=
      electSupremeLeader_eq_ok.mp hs
    exact ⟨hbranch, voter, hvoter,
      (hrec.councils branch voter hbranch).mp ⟨council, hcouncil, hmember⟩⟩
  | confirmSupremeLeader branch leader =>
    obtain ⟨horigin, hbranch, -⟩ := confirmSupremeLeader_eq_ok.mp hs
    exact ⟨horigin, hbranch⟩
  | electKhuralChairman candidate =>
    obtain ⟨voter, hvoter, -, -, htumed, -⟩ := electKhuralChairman_eq_ok.mp hs
    exact ⟨voter, hvoter, (hrec.tumed voter).mp htumed⟩
  | confirmKhuralChairman chairman => exact (confirmKhuralChairman_eq_ok.mp hs).1
  | resetBallot branch =>
    by_cases hleg : branch = .legislative
    · subst hleg
      exact (resetBallot_legislative_eq_ok.mp hs).1
    · exact ((resetBallot_eq_ok hleg).mp hs).1

/-- **One call** is put on record. -/
theorem recorded_step (hrec : Recorded s h) (hs : step cfg x s = .ok s') :
    Recorded s' (h ++ [x]) := by
  have hoffices := step_offices hs
  exact {
    councils := fun branch who hb => by
      rw [hoffices.councils branch who hb, hrec.councils branch who hb, OnCouncil, OnCouncil,
        since_append]
    leaders := fun branch who hb => by
      rw [hoffices.leaders branch who hb, hrec.leaders branch who hb, Leading, Leading,
        since_append]
    tumed := fun who => by
      rw [hoffices.tumed who, hrec.tumed who, TumedLeader, TumedLeader, since_append]
    votes := fun branch who hb => by
      rw [hoffices.votes branch who hb, hrec.votes branch who hb, HasVotes, HasVotes,
        since_append]
    voters := fun branch who hb => by
      rw [hoffices.voters branch who hb, hrec.voters branch who hb, HasVoted, HasVoted,
        since_append]
    noCouncil := hoffices.noCouncil hrec.noCouncil
    noLeader := hoffices.noLeader hrec.noLeader
    rightful := lawfully_append.mpr ⟨hrec.rightful, rightful_of_step hrec hs⟩ }

/-- Before any call nobody holds an office. -/
theorem recorded_genesis : Recorded (genesis : State AccountId) [] where
  councils branch who _ := by
    refine iff_of_false ?_ not_since_nil
    rintro ⟨council, hcouncil, -⟩
    cases hcouncil
  leaders branch who _ := by
    refine iff_of_false (fun hleader => ?_) not_since_nil
    cases hleader
  tumed who := by
    refine iff_of_false ?_ not_since_nil
    rintro ⟨level, hlevel, -⟩
    cases hlevel
  votes branch who _ := iff_of_false (Nat.lt_irrefl 0) not_since_nil
  voters branch who _ := iff_of_false Bool.false_ne_true not_since_nil
  noCouncil := rfl
  noLeader := rfl
  rightful := lawfully_nil

/-- Accepted calls are put on record. -/
def keepRecord (_ : State AccountId) (x : Extrinsic AccountId) (h : History AccountId) :
    History AccountId := h ++ [x]

/-- After any run the accepted calls are on record. -/
theorem recorded_run (cfg : Config) (xs : List (Extrinsic AccountId)) :
    let t := run (recording keepRecord (step cfg)) xs ((genesis : State AccountId), [])
    Recorded t.1 t.2 := by
  have hstep : ∀ x (t t' : State AccountId × History AccountId), Recorded t.1 t.2 →
      recording keepRecord (step cfg) x t = .ok t' → Recorded t'.1 t'.2 := by
    rintro x t ⟨s', h'⟩ hrec hs
    obtain ⟨hs, rfl⟩ := recording_eq_ok.mp hs
    exact recorded_step hrec hs
  exact run_invariant hstep xs recorded_genesis

/-- **The mandates.** After any run the seats on the councils, the supreme leaders and the Tumed
leaders are those that the accepted calls leave in office, and every accepted call was rightful in
view of the calls before it: root alone promotes, confirms and resets; a council of nine is
confirmed only after ballots for all nine since the last reset; these are cast by Tumed leaders for
Tumed leaders, and by nobody twice; only the council votes for the supreme leader. The legislative
branch has neither a council nor a supreme leader. -/
theorem mandates (cfg : Config) (xs : List (Extrinsic AccountId)) :
    let t := run (recording keepRecord (step cfg)) xs ((genesis : State AccountId), [])
    t.1 = run (step cfg) xs genesis ∧ Recorded t.1 t.2 :=
  ⟨run_recording xs _, recorded_run cfg xs⟩

end Elections
