import Altan.Elections.Spec
import Altan.Foundation.Headcount
import Altan.Foundation.TransitionSystem
import Altan.Runtime.Constants

/-!
# The ballots and the tallies

The elections of the decimal hierarchy, the councils, the supreme leaders and the chairman of the
Khural are all decided in ballot boxes: a voter has at most one ballot in a box, which names a
candidate, and a tally is kept of every candidate. A call either casts a first ballot, or clears the
boxes of a branch, or leaves all boxes as they are; so the tallies count the ballots, and a ballot
stays as it is until its branch is reset.

## Main definitions

* `Box`, `State.ballot`, `State.tally`: the ballot boxes, and what is in them
* `Cast`, `Cleared`, `SameBallots`: what a call does to the boxes
* `Counted`: the tallies count the ballots, and the candidates with votes are counted

## Main results

* `step_ballots`: what a call does to the boxes
* `counted_step`, `ballot_kept_step`, `ballot_new_step`: one call
* `ballots_counted`: a run
-/

open Bounded Dispatch TransitionSystem Runtime

namespace Elections

/-- A ballot box: of an election, of the council or the supreme leader of a branch, or of the
chairman of the Khural. -/
inductive Box
  | election (electionId : ℕ)
  | council (branch : GovernmentBranch)
  | supremeLeader (branch : GovernmentBranch)
  | khural
  deriving DecidableEq, Repr

/-- The boxes that are cleared with a branch. -/
def Box.ClearedWith : GovernmentBranch → Box → Prop
  | .legislative, box => box = .khural
  | branch, box => box = .council branch ∨ box = .supremeLeader branch

instance : (branch : GovernmentBranch) → (box : Box) → Decidable (box.ClearedWith branch)
  | .legislative, _ => inferInstanceAs (Decidable (_ = _))
  | .executive, _ | .judicial, _ | .banking, _ => inferInstanceAs (Decidable (_ ∨ _))

variable {AccountId : Type} [DecidableEq AccountId] {cfg : Config} {ctx : Context AccountId}
  {s s' : State AccountId} {x : Extrinsic AccountId} {xs : List (Extrinsic AccountId)}
  {box : Box} {branch : GovernmentBranch} {voter candidate : AccountId}

/-- The ballot of a voter in a box. -/
def State.ballot (s : State AccountId) : Box → AccountId → Option AccountId
  | .election electionId, voter => s.votes.get (electionId, voter)
  | .council branch, voter => s.branchVotes.get (branch, voter)
  | .supremeLeader branch, voter => s.supremeLeaderVotes.get (branch, voter)
  | .khural, voter => s.khuralVotes.get voter

/-- The tally of a candidate in a box. -/
def State.tally (s : State AccountId) : Box → AccountId → ℕ
  | .election electionId, candidate => s.voteCounts.getD (electionId, candidate) 0
  | .council branch, candidate => s.branchVoteCounts.getD (branch, candidate) 0
  | .supremeLeader branch, candidate => s.supremeLeaderVoteCounts.getD (branch, candidate) 0
  | .khural, candidate => s.khuralVoteCounts.getD candidate 0

omit [DecidableEq AccountId] in
/-- How many candidates of a branch have votes, as counted. -/
def State.candidates (s : State AccountId) (branch : GovernmentBranch) : ℕ :=
  s.branchCandidateCount.getD branch 0

/-! ### What a call does to the boxes -/

/-- A voter casts the first ballot in a box. The first vote for a candidate of a council counts the
candidate, within the bound. -/
structure Cast (cfg : Config) (s s' : State AccountId) (box : Box) (voter candidate : AccountId) :
    Prop where
  first : s.ballot box voter = none
  ballot : s'.ballot box = Function.update (s.ballot box) voter (some candidate)
  tally : s'.tally box = Function.update (s.tally box) candidate (s.tally box candidate + 1)
  otherBallots : ∀ box', box' ≠ box → s'.ballot box' = s.ballot box'
  otherTallies : ∀ box', box' ≠ box → s'.tally box' = s.tally box'
  counted : ∀ branch, s'.candidates branch =
    if box = .council branch ∧ s.tally box candidate = 0 then s.candidates branch + 1
    else s.candidates branch
  bounded : ∀ branch, box = .council branch → s.tally box candidate = 0 →
    s.candidates branch + 1 ≤ cfg.maxBranchCandidates

/-- The boxes of a branch are cleared. -/
structure Cleared (s s' : State AccountId) (branch : GovernmentBranch) : Prop where
  ballot : ∀ box, s'.ballot box = if box.ClearedWith branch then fun _ => none else s.ballot box
  tally : ∀ box, s'.tally box = if box.ClearedWith branch then fun _ => 0 else s.tally box
  counted : ∀ branch', s'.candidates branch' =
    if (Box.council branch').ClearedWith branch then 0 else s.candidates branch'

/-- All boxes are as they were. -/
structure SameBallots (s s' : State AccountId) : Prop where
  ballot : s'.ballot = s.ballot
  tally : s'.tally = s.tally
  counted : s'.candidates = s.candidates

/-- Reading a row of a map of pairs after one entry of it is written. -/
theorem get_insert_row {κ ν : Type} [DecidableEq κ] (m : StorageMap (κ × AccountId) ν) (k : κ)
    (who : AccountId) (v : ν) : (fun a => (m.insert (k, who) v).get (k, a)) =
      Function.update (fun a => m.get (k, a)) who (some v) := by
  ext a : 1
  rw [StorageMap.get_insert, Function.update_apply]
  simp

theorem getD_insert_row {κ : Type} [DecidableEq κ] (m : StorageMap (κ × AccountId) ℕ) (k : κ)
    (who : AccountId) (n : ℕ) : (fun a => (m.insert (k, who) n).getD (k, a) 0) =
      Function.update (fun a => m.getD (k, a) 0) who n := by
  ext a : 1
  rw [StorageMap.getD_insert, Function.update_apply]
  simp

/-- The other rows of a map of pairs. -/
theorem get_insert_other {κ ν : Type} [DecidableEq κ] {m : StorageMap (κ × AccountId) ν} {k k' : κ}
    {who a : AccountId} {v : ν} (h : k' ≠ k) :
    (m.insert (k, who) v).get (k', a) = m.get (k', a) :=
  StorageMap.get_insert_of_ne fun he => h (Prod.mk.inj he).1

theorem getD_insert_other {κ : Type} [DecidableEq κ] {m : StorageMap (κ × AccountId) ℕ} {k k' : κ}
    {who a : AccountId} {n : ℕ} (h : k' ≠ k) :
    (m.insert (k, who) n).getD (k', a) 0 = m.getD (k', a) 0 :=
  StorageMap.getD_insert.trans (if_neg fun he => h (Prod.mk.inj he).1)

/-- The vote of a call: the box and who is voted for. -/
def Call.vote : Call AccountId → Option (Box × AccountId)
  | .castVote electionId candidate => some (.election electionId, candidate)
  | .electBranchCouncil branch candidate => some (.council branch, candidate)
  | .electSupremeLeader branch candidate => some (.supremeLeader branch, candidate)
  | .electKhuralChairman candidate => some (.khural, candidate)
  | _ => none

theorem castVote_cast {electionId : ℕ} (h : castVote ctx electionId candidate s = .ok s') :
    ∃ voter, ctx.origin = .signed voter ∧ Cast cfg s s' (.election electionId) voter candidate := by
  obtain ⟨voter, hsigned, _, -, -, -, hfirst, -, -, rfl⟩ := castVote_eq_ok.mp h
  refine ⟨voter, hsigned, hfirst, get_insert_row _ _ _ _, getD_insert_row _ _ _ _, ?_, ?_, ?_, ?_⟩
  · intro box' hne
    cases box' with
    | election electionId' =>
      ext a : 1
      exact get_insert_other fun he => hne (congrArg Box.election he)
    | _ => rfl
  · intro box' hne
    cases box' with
    | election electionId' =>
      ext a : 1
      exact getD_insert_other fun he => hne (congrArg Box.election he)
    | _ => rfl
  · intro branch
    exact (if_neg fun he => by cases he.1).symm
  · intro branch he
    cases he

theorem electBranchCouncil_cast (h : electBranchCouncil cfg ctx branch candidate s = .ok s') :
    ∃ voter, ctx.origin = .signed voter ∧ Cast cfg s s' (.council branch) voter candidate := by
  obtain ⟨voter, hsigned, -, -, -, hfirst, hbound, -, rfl⟩ := electBranchCouncil_eq_ok.mp h
  refine ⟨voter, hsigned, hfirst, get_insert_row _ _ _ _, getD_insert_row _ _ _ _, ?_, ?_, ?_, ?_⟩
  · intro box' hne
    cases box' with
    | council branch' =>
      ext a : 1
      exact get_insert_other fun he => hne (congrArg Box.council he)
    | _ => rfl
  · intro box' hne
    cases box' with
    | council branch' =>
      ext a : 1
      exact getD_insert_other fun he => hne (congrArg Box.council he)
    | _ => rfl
  · intro branch'
    show StorageMap.getD (if s.tally (.council branch) candidate = 0 then _ else _) branch' 0 = _
    by_cases hnew : s.tally (.council branch) candidate = 0
    · rw [if_pos hnew, StorageMap.getD_insert]
      by_cases hb : branch' = branch
      · rw [if_pos hb, if_pos ⟨congrArg Box.council hb.symm, hnew⟩, hb]
        rfl
      · rw [if_neg hb, if_neg fun he => hb (Box.council.inj he.1).symm]
        rfl
    · rw [if_neg hnew, if_neg fun he => hnew he.2]
      rfl
  · intro branch' he hnew
    rw [← Box.council.inj he]
    exact (hbound hnew).1

theorem electSupremeLeader_cast (h : electSupremeLeader ctx branch candidate s = .ok s') :
    ∃ voter, ctx.origin = .signed voter ∧
      Cast cfg s s' (.supremeLeader branch) voter candidate := by
  obtain ⟨voter, hsigned, -, _, -, -, hfirst, -, rfl⟩ := electSupremeLeader_eq_ok.mp h
  refine ⟨voter, hsigned, hfirst, get_insert_row _ _ _ _, getD_insert_row _ _ _ _, ?_, ?_, ?_, ?_⟩
  · intro box' hne
    cases box' with
    | supremeLeader branch' =>
      ext a : 1
      exact get_insert_other fun he => hne (congrArg Box.supremeLeader he)
    | _ => rfl
  · intro box' hne
    cases box' with
    | supremeLeader branch' =>
      ext a : 1
      exact getD_insert_other fun he => hne (congrArg Box.supremeLeader he)
    | _ => rfl
  · intro branch'
    exact (if_neg fun he => by cases he.1).symm
  · intro branch' he
    cases he

theorem electKhuralChairman_cast (h : electKhuralChairman ctx candidate s = .ok s') :
    ∃ voter, ctx.origin = .signed voter ∧ Cast cfg s s' .khural voter candidate := by
  obtain ⟨voter, hsigned, -, -, -, hfirst, -, rfl⟩ := electKhuralChairman_eq_ok.mp h
  refine ⟨voter, hsigned, hfirst, ?_, ?_, ?_, ?_, ?_, ?_⟩
  · ext a : 1
    show (s.khuralVotes.insert voter candidate).get a = _
    rw [StorageMap.get_insert, Function.update_apply]
    rfl
  · ext a : 1
    show (s.khuralVoteCounts.insert candidate _).getD a 0 = _
    rw [StorageMap.getD_insert, Function.update_apply]
    rfl
  · intro box' hne
    cases box' with
    | khural => exact absurd rfl hne
    | _ => rfl
  · intro box' hne
    cases box' with
    | khural => exact absurd rfl hne
    | _ => rfl
  · intro branch'
    exact (if_neg fun he => by cases he.1).symm
  · intro branch' he
    cases he

/-- Clearing a row of a map of pairs. -/
theorem get_removeAll_row {κ ν : Type} [DecidableEq κ] (m : StorageMap (κ × AccountId) ν)
    (k k' : κ) : (fun a => (m.removeAll fun p => p.1 = k).get (k', a)) =
      if k' = k then fun _ => none else fun a => m.get (k', a) := by
  ext a : 1
  rw [StorageMap.get_removeAll]
  split <;> rfl

theorem getD_removeAll_row {κ : Type} [DecidableEq κ] (m : StorageMap (κ × AccountId) ℕ)
    (k k' : κ) : (fun a => (m.removeAll fun p => p.1 = k).getD (k', a) 0) =
      if k' = k then fun _ => 0 else fun a => m.getD (k', a) 0 := by
  ext a : 1
  rw [StorageMap.getD_removeAll]
  split <;> rfl

theorem clearedWith_of_ne (h : branch ≠ .legislative) :
    box.ClearedWith branch ↔ box = .council branch ∨ box = .supremeLeader branch := by
  cases branch with
  | legislative => exact absurd rfl h
  | _ => exact Iff.rfl

theorem resetBallot_cleared (h : resetBallot ctx branch s = .ok s') : Cleared s s' branch := by
  by_cases hb : branch = .legislative
  · subst hb
    -- the ballot of the Khural has maps of its own, which are emptied
    obtain ⟨-, rfl⟩ := resetBallot_legislative_eq_ok.mp h
    refine ⟨fun box => ?_, fun box => ?_, fun branch' => ?_⟩
    · cases box with
      | khural =>
        ext a : 1
        exact StorageMap.get_empty a
      | _ => rfl
    · cases box with
      | khural =>
        ext a : 1
        exact StorageMap.getD_empty a 0
      | _ => rfl
    · rfl
  · obtain ⟨-, rfl⟩ := (resetBallot_eq_ok hb).mp h
    -- the ballots of a branch are rows of maps that all branches share
    refine ⟨fun box => ?_, fun box => ?_, fun branch' => ?_⟩
    · cases box with
      | council branch' =>
        refine (get_removeAll_row _ _ _).trans (if_congr ?_ rfl rfl)
        simp [clearedWith_of_ne hb]
      | supremeLeader branch' =>
        refine (get_removeAll_row _ _ _).trans (if_congr ?_ rfl rfl)
        simp [clearedWith_of_ne hb]
      | _ =>
        rw [if_neg (by simp [clearedWith_of_ne hb])]
        rfl
    · cases box with
      | council branch' =>
        refine (getD_removeAll_row _ _ _).trans (if_congr ?_ rfl rfl)
        simp [clearedWith_of_ne hb]
      | supremeLeader branch' =>
        refine (getD_removeAll_row _ _ _).trans (if_congr ?_ rfl rfl)
        simp [clearedWith_of_ne hb]
      | _ =>
        rw [if_neg (by simp [clearedWith_of_ne hb])]
        rfl
    · show StorageMap.getD (s.branchCandidateCount.remove branch) branch' 0 = _
      unfold StorageMap.getD
      rw [StorageMap.get_remove]
      by_cases he : branch' = branch
      · rw [if_pos he, if_pos ((clearedWith_of_ne hb).mpr (Or.inl (congrArg Box.council he)))]
        rfl
      · rw [if_neg he, if_neg (by simp [clearedWith_of_ne hb, he])]
        rfl

theorem enterZone_sameBallots {level : ElectionLevel} {zoneId : Option ℕ}
    (h : enterZone cfg voter zoneId s level = .ok s') : SameBallots s s' := by
  cases level with
  | arbad =>
    rw [enterZone_arbad_eq_ok.mp h]
    exact ⟨rfl, rfl, rfl⟩
  | zun =>
    obtain ⟨arbadId, -, -, -, rfl⟩ := enterZone_zun_eq_ok.mp h
    exact ⟨rfl, rfl, rfl⟩
  | myangad =>
    obtain ⟨zunId, -, -, -, rfl⟩ := enterZone_myangad_eq_ok.mp h
    exact ⟨rfl, rfl, rfl⟩
  | tumed =>
    obtain ⟨myangadId, -, -, rfl⟩ := enterZone_tumed_eq_ok.mp h
    exact ⟨rfl, rfl, rfl⟩

/-- **What a call does to the boxes.** It casts one first ballot, clears the boxes of a branch, or
leaves all boxes as they are. -/
theorem step_ballots (h : step cfg x s = .ok s') :
    (∃ box voter candidate, x.1.origin = .signed voter ∧ x.2.vote = some (box, candidate) ∧
      Cast cfg s s' box voter candidate) ∨
      (∃ branch, x.2 = .resetBallot branch ∧ Cleared s s' branch) ∨ SameBallots s s' := by
  obtain ⟨ctx, call⟩ := x
  cases call with
  | castVote electionId candidate =>
    obtain ⟨voter, hsigned, hcast⟩ := castVote_cast h
    exact Or.inl ⟨_, _, _, hsigned, rfl, hcast⟩
  | electBranchCouncil branch candidate =>
    obtain ⟨voter, hsigned, hcast⟩ := electBranchCouncil_cast h
    exact Or.inl ⟨_, _, _, hsigned, rfl, hcast⟩
  | electSupremeLeader branch candidate =>
    obtain ⟨voter, hsigned, hcast⟩ := electSupremeLeader_cast h
    exact Or.inl ⟨_, _, _, hsigned, rfl, hcast⟩
  | electKhuralChairman candidate =>
    obtain ⟨voter, hsigned, hcast⟩ := electKhuralChairman_cast h
    exact Or.inl ⟨_, _, _, hsigned, rfl, hcast⟩
  | resetBallot branch => exact Or.inr (Or.inl ⟨branch, rfl, resetBallot_cleared h⟩)
  | addCitizenToArbad citizen arbadId =>
    obtain ⟨-, -, rfl⟩ := addCitizenToArbad_eq_ok.mp h
    exact Or.inr (Or.inr ⟨rfl, rfl, rfl⟩)
  | promoteLeader leader newLevel zoneId =>
    obtain ⟨-, t, ht, rfl⟩ := promoteLeader_eq_ok.mp h
    have hsame : SameBallots s t := enterZone_sameBallots ht
    exact Or.inr (Or.inr ⟨hsame.ballot, hsame.tally, hsame.counted⟩)
  | createElection electionId level candidates =>
    obtain ⟨-, -, -, rfl⟩ := createElection_eq_ok.mp h
    exact Or.inr (Or.inr ⟨rfl, rfl, rfl⟩)
  | confirmBranchCouncil branch winners =>
    obtain ⟨-, -, -, -, council, -, rfl⟩ := confirmBranchCouncil_eq_ok.mp h
    exact Or.inr (Or.inr ⟨rfl, rfl, rfl⟩)
  | confirmSupremeLeader branch leader =>
    obtain ⟨-, -, rfl⟩ := confirmSupremeLeader_eq_ok.mp h
    exact Or.inr (Or.inr ⟨rfl, rfl, rfl⟩)
  | confirmKhuralChairman chairman =>
    obtain ⟨-, arbadId, -, rfl⟩ := confirmKhuralChairman_eq_ok.mp h
    exact Or.inr (Or.inr ⟨rfl, rfl, rfl⟩)

/-! ### The tallies count the ballots -/

/-- In every box the tally of a candidate is the number of its ballots; and the candidates of a
council that have votes are counted, and no more than the bound. -/
structure Counted (cfg : Config) (s : State AccountId) : Prop where
  tallies : ∀ box, Headcount (s.ballot box) (s.tally box)
  candidates : ∀ branch, Distinct (s.tally (.council branch)) (s.candidates branch)
  bounded : ∀ branch, s.candidates branch ≤ cfg.maxBranchCandidates

theorem counted_genesis : Counted cfg (genesis : State AccountId) where
  tallies box := by
    apply Headcount.nobody.congr
    · intro voter
      cases box with
      | _ => rfl
    · intro candidate
      cases box with
      | _ => rfl
  candidates branch := Distinct.nothing.congr fun _ => rfl
  bounded branch := Nat.zero_le _

theorem Counted.cast (h : Counted cfg s) (hcast : Cast cfg s s' box voter candidate) :
    Counted cfg s' where
  tallies box' := by
    by_cases hbox : box' = box
    · rw [hbox, hcast.ballot, hcast.tally]
      exact (h.tallies box).update hcast.first candidate
    · rw [hcast.otherBallots box' hbox, hcast.otherTallies box' hbox]
      exact h.tallies box'
  candidates branch := by
    rw [hcast.counted]
    by_cases hbox : box = .council branch
    · -- the counter of the candidates goes up when a tally leaves zero
      subst hbox
      rw [hcast.tally]
      simpa using (h.candidates branch).update candidate
    · rw [hcast.otherTallies _ (Ne.symm hbox), if_neg fun he => hbox he.1]
      exact h.candidates branch
  bounded branch := by
    rw [hcast.counted]
    split
    · next hnew => exact hcast.bounded branch hnew.1 hnew.2
    · exact h.bounded branch

theorem Counted.cleared (h : Counted cfg s) (hcleared : Cleared s s' branch) :
    Counted cfg s' where
  tallies box := by
    rw [hcleared.ballot, hcleared.tally]
    split
    · exact Headcount.nobody
    · exact h.tallies box
  candidates branch' := by
    rw [hcleared.tally, hcleared.counted]
    split
    · exact Distinct.nothing
    · exact h.candidates branch'
  bounded branch' := by
    rw [hcleared.counted]
    split
    · exact Nat.zero_le _
    · exact h.bounded branch'

theorem Counted.same (h : Counted cfg s) (hsame : SameBallots s s') : Counted cfg s' where
  tallies box := by
    rw [hsame.ballot, hsame.tally]
    exact h.tallies box
  candidates branch := by
    rw [hsame.tally, hsame.counted]
    exact h.candidates branch
  bounded branch := by
    rw [hsame.counted]
    exact h.bounded branch

/-- **One call.** The tallies go on counting the ballots. -/
theorem counted_step (h : Counted cfg s) (hs : step cfg x s = .ok s') : Counted cfg s' := by
  rcases step_ballots hs with ⟨box, voter, candidate, -, -, hcast⟩ | ⟨branch, -, hcleared⟩ | hsame
  · exact h.cast hcast
  · exact h.cleared hcleared
  · exact h.same hsame

theorem counted_run (xs : List (Extrinsic AccountId)) :
    Counted cfg (run (step cfg) xs (genesis : State AccountId)) :=
  run_invariant (fun _ _ _ h hs => counted_step h hs) xs counted_genesis

/-- The call does not reset the branch of a box. -/
def Keeps (box : Box) (x : Extrinsic AccountId) : Prop :=
  ∀ branch, x.2 = .resetBallot branch → ¬ box.ClearedWith branch

/-- **One call.** A ballot stays as it is unless its branch is reset. -/
theorem ballot_kept_step (h : s.ballot box voter = some candidate) (hkeeps : Keeps box x)
    (hs : step cfg x s = .ok s') : s'.ballot box voter = some candidate := by
  rcases step_ballots hs with
    ⟨box', voter', candidate', -, -, hcast⟩ | ⟨branch, hx, hcleared⟩ | hsame
  · by_cases hbox : box = box'
    · subst hbox
      rw [hcast.ballot, Function.update_of_ne]
      · exact h
      · -- who casts a ballot has none yet
        rintro rfl
        rw [hcast.first] at h
        cases h
    · rwa [hcast.otherBallots box hbox]
  · rwa [hcleared.ballot, if_neg (hkeeps branch hx)]
  · rwa [hsame.ballot]

/-- **One call.** A ballot was there before, or is the vote of the caller. -/
theorem ballot_new_step (hs : step cfg x s = .ok s') (h : s'.ballot box voter = some candidate) :
    s.ballot box voter = some candidate ∨
      (x.1.origin = .signed voter ∧ x.2.vote = some (box, candidate)) := by
  rcases step_ballots hs with
    ⟨box', voter', candidate', hsigned, hvote, hcast⟩ | ⟨branch, -, hcleared⟩ | hsame
  · by_cases hbox : box = box'
    · subst hbox
      rw [hcast.ballot, Function.update_apply] at h
      split at h
      · next hvoter =>
        rw [hvoter, ← Option.some.inj h]
        exact Or.inr ⟨hsigned, hvote⟩
      · exact Or.inl h
    · rw [hcast.otherBallots box hbox] at h
      exact Or.inl h
  · rw [hcleared.ballot] at h
    split at h
    · cases h
    · exact Or.inl h
  · rw [hsame.ballot] at h
    exact Or.inl h

/-- Who has votes goes on having votes unless the branch is reset. -/
theorem voted_kept_step (h : Counted cfg s) (hkeeps : Keeps box x) (hs : step cfg x s = .ok s')
    (hpos : 0 < s.tally box candidate) : 0 < s'.tally box candidate := by
  obtain ⟨voter, hballot⟩ := (h.tallies box).pos_iff.mp hpos
  exact ((counted_step h hs).tallies box).pos_iff.mpr
    ⟨voter, ballot_kept_step hballot hkeeps hs⟩

/-- **Every run.** In every state that can be reached the tallies count the ballots; and from there
on a ballot stays as it is, whatever is called, while the ballots of its branch are not reset. -/
theorem ballots_counted (cfg : Config) (xs : List (Extrinsic AccountId)) :
    Counted cfg (run (step cfg) xs genesis) ∧
      ∀ box voter candidate (ys : List (Extrinsic AccountId)),
        (run (step cfg) xs genesis).ballot box voter = some candidate →
          Along (step cfg) (fun _ x => Keeps box x) ys (run (step cfg) xs genesis) →
            (run (step cfg) (xs ++ ys) genesis).ballot box voter = some candidate := by
  refine ⟨counted_run xs, ?_⟩
  intro box voter candidate ys hballot hkeeps
  rw [run_append]
  exact (throughout_of_along (fun _ _ _ h hk hs => ballot_kept_step h hk hs) hballot hkeeps).last

end Elections
