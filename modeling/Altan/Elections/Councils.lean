import Altan.Elections.Ballots
import Altan.Elections.Hierarchy

/-!
# The seated councils

A council is to have nine different members who received votes, its members alone are to vote for
the supreme leader of their branch, and the supreme leaders and the chairman of the Khural are to
have received votes. Root confirms all of them. A confirmation keeps this up only if it names nine
different winners, among them all who have voted for the supreme leader in the ballot that is under
way, and a leader or a chairman with votes.

## Main definitions

* `RealCouncil`, `Seated`: what is asked of a council, and of all who are seated
* `recordVote`: the history of the votes for the chairman
* `Confirms`: the condition on a confirmation

## Main results

* `polled_step`: the votes for the chairman are for indigenous citizens
* `seated_step`: one call
* `seated_iff`: the runs throughout which everyone seated was elected
* `council_of_one`: one leader fills all nine seats
-/

open Bounded Dispatch TransitionSystem Runtime

namespace Elections

variable {AccountId : Type} [DecidableEq AccountId]

/-- The history of the votes for the chairman of the Khural: who was voted for, and whether they
were an indigenous citizen at the time. -/
def recordVote (_ : State AccountId) (x : Extrinsic AccountId) (history : List (AccountId × Bool)) :
    List (AccountId × Bool) :=
  match x.2 with
  | .electKhuralChairman candidate => (candidate, x.1.isIndigenous candidate) :: history
  | _ => history

variable {cfg : Config} {s s' : State AccountId} {x : Extrinsic AccountId}
  {t t' : State AccountId × List (AccountId × Bool)} {branch : GovernmentBranch}
  {council : BoundedVec AccountId 9} {leader chairman : AccountId} {winners : List AccountId}

/-- A council has nine members, all of them different and named by a ballot. -/
structure RealCouncil (s : State AccountId) (branch : GovernmentBranch)
    (council : BoundedVec AccountId 9) : Prop where
  size : council.val.length = councilSize
  distinct : council.val.Nodup
  named : ∀ member ∈ council.val, ∃ voter, s.ballot (.council branch) voter = some member

/-- Everyone seated was elected. -/
structure Seated (t : State AccountId × List (AccountId × Bool)) : Prop where
  councils : ∀ branch council, t.1.branchCouncils.get branch = some council →
    RealCouncil t.1 branch council
  voters : ∀ branch voter candidate, t.1.ballot (.supremeLeader branch) voter = some candidate →
    ∃ council, t.1.branchCouncils.get branch = some council ∧ voter ∈ council.val
  ballots : ∀ branch (candidates : Finset AccountId),
    ∑ candidate ∈ candidates, t.1.tally (.supremeLeader branch) candidate ≤ councilSize
  leaders : ∀ branch leader, t.1.supremeLeaders.get branch = some leader →
    0 < t.1.tally (.supremeLeader branch) leader
  chairman : ∀ chairman arbadId, t.1.khuralChairman = some (chairman, arbadId) →
    0 < t.1.tally .khural chairman
  indigenous : ∀ chairman arbadId, t.1.khuralChairman = some (chairman, arbadId) →
    (chairman, true) ∈ t.2 ∧ (chairman, false) ∉ t.2

/-- A confirmation names nine different winners, among them all who have voted for the supreme
leader of the branch, and a leader or a chairman with votes. -/
def Confirms (s : State AccountId) (x : Extrinsic AccountId) : Prop :=
  match x.2 with
  | .confirmBranchCouncil branch winners =>
    winners.Nodup ∧ ∀ k ∈ s.supremeLeaderVotes.keys, k.1 = branch → k.2 ∈ winners
  | .confirmSupremeLeader branch leader => 0 < s.supremeLeaderVoteCounts.getD (branch, leader) 0
  | .confirmKhuralChairman chairman => 0 < s.khuralVoteCounts.getD chairman 0
  | _ => True

/-! ### The votes -/

/-- The tallies count the ballots, and the votes for the chairman of the Khural were for indigenous
citizens. -/
structure Polled (cfg : Config) (t : State AccountId × List (AccountId × Bool)) : Prop where
  counted : Counted cfg t.1
  votedFor : ∀ voter candidate, t.1.ballot .khural voter = some candidate →
    (candidate, true) ∈ t.2
  indigenous : ∀ candidate, (candidate, false) ∉ t.2

theorem polled_genesis : Polled cfg ((genesis : State AccountId), []) where
  counted := counted_genesis
  votedFor voter candidate h := by cases h
  indigenous candidate h := by cases h

/-- A vote for the chairman is recorded as one for an indigenous citizen. -/
theorem recordVote_cases (hs : step cfg x s = .ok s') (history : List (AccountId × Bool)) :
    recordVote s x history = history ∧ (∀ candidate, x.2 ≠ .electKhuralChairman candidate) ∨
      ∃ candidate, x.2 = .electKhuralChairman candidate ∧
        recordVote s x history = (candidate, true) :: history := by
  obtain ⟨ctx, call⟩ := x
  cases call with
  | electKhuralChairman candidate =>
    obtain ⟨voter, -, -, hindigenous, -, -, -, -⟩ := electKhuralChairman_eq_ok.mp hs
    have hflag : ctx.isIndigenous candidate = true := hindigenous
    refine Or.inr ⟨candidate, rfl, ?_⟩
    simp only [recordVote, hflag]
  | _ => exact Or.inl ⟨rfl, by simp⟩

omit [DecidableEq AccountId] in
theorem vote_khural {call : Call AccountId} {candidate : AccountId}
    (h : call.vote = some (.khural, candidate)) : call = .electKhuralChairman candidate := by
  cases call <;> simp [Call.vote] at h
  rw [h]

omit [DecidableEq AccountId] in
theorem vote_supremeLeader {call : Call AccountId} {candidate : AccountId}
    (h : call.vote = some (.supremeLeader branch, candidate)) :
    call = .electSupremeLeader branch candidate := by
  cases call <;> simp [Call.vote] at h
  rw [h.1, h.2]

/-- **One call.** The ballots for the chairman go on being for indigenous citizens. -/
theorem polled_step (h : Polled cfg t) (hs : recording recordVote (step cfg) x t = .ok t') :
    Polled cfg t' := by
  obtain ⟨hs, hrec⟩ := recording_eq_ok.mp hs
  refine ⟨counted_step h.counted hs, ?_, ?_⟩
  · intro voter candidate hballot
    rw [hrec]
    rcases ballot_new_step hs hballot with hold | ⟨-, hvote⟩
    · have hmem := h.votedFor voter candidate hold
      rcases recordVote_cases hs t.2 with ⟨hsame, -⟩ | ⟨candidate', -, hnew⟩
      · rwa [hsame]
      · rw [hnew]
        exact List.mem_cons_of_mem _ hmem
    · have hcall := vote_khural hvote
      rcases recordVote_cases hs t.2 with ⟨-, hnot⟩ | ⟨candidate', hcall', hnew⟩
      · exact absurd hcall (hnot candidate)
      · obtain rfl := Call.electKhuralChairman.inj (hcall.symm.trans hcall')
        rw [hnew]
        exact List.mem_cons_self
  · intro candidate hmem
    rw [hrec] at hmem
    rcases recordVote_cases hs t.2 with ⟨hsame, -⟩ | ⟨candidate', -, hnew⟩
    · rw [hsame] at hmem
      exact h.indigenous candidate hmem
    · rw [hnew] at hmem
      simp only [List.mem_cons, Prod.mk.injEq, Bool.false_eq_true, and_false, false_or] at hmem
      exact h.indigenous candidate hmem

/-! ### The seats -/

/-- The members of a council have no more ballots than there are seats. -/
theorem tally_sum_le (h : Counted cfg s)
    (hvoters : ∀ voter candidate, s.ballot (.supremeLeader branch) voter = some candidate →
      ∃ council, s.branchCouncils.get branch = some council ∧ voter ∈ council.val)
    (candidates : Finset AccountId) :
    ∑ candidate ∈ candidates, s.tally (.supremeLeader branch) candidate ≤ councilSize := by
  cases hcouncil : s.branchCouncils.get branch with
  | none =>
    have hnobody : ∀ voter candidate,
        s.ballot (.supremeLeader branch) voter = some candidate →
          voter ∈ (∅ : Finset AccountId) := by
      intro voter candidate hballot
      obtain ⟨council, hget, -⟩ := hvoters voter candidate hballot
      rw [hcouncil] at hget
      cases hget
    exact le_trans ((h.tallies _).sum_le hnobody candidates) (Nat.zero_le _)
  | some council =>
    have hmembers : ∀ voter candidate,
        s.ballot (.supremeLeader branch) voter = some candidate → voter ∈ council.val.toFinset := by
      intro voter candidate hballot
      obtain ⟨council', hget, hmem⟩ := hvoters voter candidate hballot
      rw [hcouncil] at hget
      cases hget
      exact List.mem_toFinset.mpr hmem
    calc ∑ candidate ∈ candidates, s.tally (.supremeLeader branch) candidate
        ≤ council.val.toFinset.card := (h.tallies _).sum_le hmembers candidates
      _ ≤ council.val.length := List.toFinset_card_le _
      _ ≤ councilSize := council.property

/-- Where the votes are counted, the rest follows from who is seated and who has voted. -/
theorem Seated.of_polled (h : Polled cfg t)
    (hcouncils : ∀ branch council, t.1.branchCouncils.get branch = some council →
      RealCouncil t.1 branch council)
    (hvoters : ∀ branch voter candidate,
      t.1.ballot (.supremeLeader branch) voter = some candidate →
        ∃ council, t.1.branchCouncils.get branch = some council ∧ voter ∈ council.val)
    (hleaders : ∀ branch leader, t.1.supremeLeaders.get branch = some leader →
      0 < t.1.tally (.supremeLeader branch) leader)
    (hchairman : ∀ chairman arbadId, t.1.khuralChairman = some (chairman, arbadId) →
      0 < t.1.tally .khural chairman) : Seated t where
  councils := hcouncils
  voters := hvoters
  ballots branch candidates := tally_sum_le h.counted (hvoters branch) candidates
  leaders := hleaders
  chairman := hchairman
  indigenous chairman arbadId hget := by
    have hpos := hchairman chairman arbadId hget
    obtain ⟨voter, hballot⟩ := (h.counted.tallies .khural).pos_iff.mp hpos
    exact ⟨h.votedFor voter chairman hballot, h.indigenous chairman⟩

theorem seated_genesis : Seated ((genesis : State AccountId), []) := by
  have hpolled : Polled elections ((genesis : State AccountId), []) := polled_genesis
  refine Seated.of_polled hpolled ?_ ?_ ?_ ?_
  · intro branch council h
    cases h
  · intro branch voter candidate h
    cases h
  · intro branch leader h
    cases h
  · intro chairman arbadId h
    cases h

/-- The call confirms who has won. -/
def Call.Confirmation : Call AccountId → Prop
  | .confirmBranchCouncil _ _ | .confirmSupremeLeader _ _ | .confirmKhuralChairman _ => True
  | _ => False

/-- A branch keeps its seats and its ballots, or is left without. -/
def KeptOrCleared (s s' : State AccountId) (x : Extrinsic AccountId) (branch : GovernmentBranch) :
    Prop :=
  (s'.branchCouncils.get branch = s.branchCouncils.get branch ∧
      s'.supremeLeaders.get branch = s.supremeLeaders.get branch ∧
        Keeps (.council branch) x ∧ Keeps (.supremeLeader branch) x) ∨
    (s'.branchCouncils.get branch = none ∧ s'.supremeLeaders.get branch = none ∧
      ∀ voter, s'.ballot (.supremeLeader branch) voter = none)

omit [DecidableEq AccountId] in
theorem keeps_of_not_reset {box : Box} (h : ∀ branch, x.2 ≠ .resetBallot branch) : Keeps box x :=
  fun branch hx => absurd hx (h branch)

/-- A reset leaves a branch without seats and ballots, and keeps the others. -/
theorem resetBallot_keptOrCleared {ctx : Context AccountId} {reset : GovernmentBranch}
    (hs : resetBallot ctx reset s = .ok s') (branch : GovernmentBranch) :
    KeptOrCleared s s' (ctx, .resetBallot reset) branch := by
  by_cases hleg : reset = .legislative
  · subst hleg
    obtain ⟨-, rfl⟩ := resetBallot_legislative_eq_ok.mp hs
    refine Or.inl ⟨rfl, rfl, ?_, ?_⟩
    · rintro _ ⟨⟩ hbox
      cases hbox
    · rintro _ ⟨⟩ hbox
      cases hbox
  · have hcleared := resetBallot_cleared hs
    obtain ⟨-, rfl⟩ := (resetBallot_eq_ok hleg).mp hs
    by_cases hbranch : branch = reset
    · subst hbranch
      refine Or.inr ⟨StorageMap.get_remove_self, StorageMap.get_remove_self, fun voter => ?_⟩
      rw [hcleared.ballot, if_pos ((clearedWith_of_ne hleg).mpr (Or.inr rfl))]
    · refine Or.inl ⟨StorageMap.get_remove_of_ne hbranch, StorageMap.get_remove_of_ne hbranch,
        ?_, ?_⟩
      · rintro _ ⟨⟩ hbox
        rcases (clearedWith_of_ne hleg).mp hbox with hbox | hbox <;> cases hbox
        exact hbranch rfl
      · rintro _ ⟨⟩ hbox
        rcases (clearedWith_of_ne hleg).mp hbox with hbox | hbox <;> cases hbox
        exact hbranch rfl

omit [DecidableEq AccountId] in
/-- A reset of the legislative branch leaves it without a chairman; the others keep the
chairman. -/
theorem resetBallot_chairman {ctx : Context AccountId} {reset : GovernmentBranch}
    (hs : resetBallot ctx reset s = .ok s') :
    s'.khuralChairman = none ∨
      (s'.khuralChairman = s.khuralChairman ∧ Keeps .khural (ctx, .resetBallot reset)) := by
  by_cases hleg : reset = .legislative
  · subst hleg
    obtain ⟨-, rfl⟩ := resetBallot_legislative_eq_ok.mp hs
    exact Or.inl rfl
  · obtain ⟨-, rfl⟩ := (resetBallot_eq_ok hleg).mp hs
    refine Or.inr ⟨rfl, ?_⟩
    rintro _ ⟨⟩ hbox
    rcases (clearedWith_of_ne hleg).mp hbox with hbox | hbox <;> cases hbox

theorem enterZone_seats {level : ElectionLevel} {zoneId : Option ℕ}
    (h : enterZone cfg leader zoneId s level = .ok s') :
    s'.branchCouncils = s.branchCouncils ∧ s'.supremeLeaders = s.supremeLeaders ∧
      s'.khuralChairman = s.khuralChairman := by
  cases level with
  | arbad =>
    rw [enterZone_arbad_eq_ok.mp h]
    exact ⟨rfl, rfl, rfl⟩
  | zun =>
    obtain ⟨arbadId, -, -, -, rfl⟩ := enterZone_zun_eq_ok.mp h
    exact ⟨rfl, rfl, rfl⟩
  | myangad =>
    obtain ⟨zunId, -, -, -, rfl⟩ := enterZone_myangad_eq_ok.mp h
    exact ⟨rfl, rfl, rfl⟩
  | tumed =>
    obtain ⟨myangadId, -, -, rfl⟩ := enterZone_tumed_eq_ok.mp h
    exact ⟨rfl, rfl, rfl⟩

/-- Without a confirmation nobody is seated anew. -/
theorem seats_step (hs : step cfg x s = .ok s') (hcall : ¬ x.2.Confirmation) :
    (∀ branch, KeptOrCleared s s' x branch) ∧
      (s'.khuralChairman = none ∨ (s'.khuralChairman = s.khuralChairman ∧ Keeps .khural x)) := by
  by_cases hreset : ∃ branch, x.2 = .resetBallot branch
  · obtain ⟨ctx, call⟩ := x
    obtain ⟨reset, rfl⟩ := hreset
    exact ⟨resetBallot_keptOrCleared hs, resetBallot_chairman hs⟩
  · have hkeeps : ∀ box, Keeps box x := fun box =>
      keeps_of_not_reset fun branch hx => hreset ⟨branch, hx⟩
    -- no other call writes a seat
    have hsame : s'.branchCouncils = s.branchCouncils ∧ s'.supremeLeaders = s.supremeLeaders ∧
        s'.khuralChairman = s.khuralChairman := by
      obtain ⟨ctx, call⟩ := x
      cases call with
      | castVote electionId candidate =>
        obtain ⟨voter, -, election, -, -, -, -, -, -, rfl⟩ := castVote_eq_ok.mp hs
        exact ⟨rfl, rfl, rfl⟩
      | addCitizenToArbad citizen arbadId =>
        obtain ⟨-, -, rfl⟩ := addCitizenToArbad_eq_ok.mp hs
        exact ⟨rfl, rfl, rfl⟩
      | promoteLeader leader newLevel zoneId =>
        obtain ⟨-, t, ht, rfl⟩ := promoteLeader_eq_ok.mp hs
        have hkept := enterZone_seats ht
        exact hkept
      | createElection electionId level candidates =>
        obtain ⟨-, -, -, rfl⟩ := createElection_eq_ok.mp hs
        exact ⟨rfl, rfl, rfl⟩
      | electBranchCouncil branch candidate =>
        obtain ⟨voter, -, -, -, -, -, -, -, rfl⟩ := electBranchCouncil_eq_ok.mp hs
        exact ⟨rfl, rfl, rfl⟩
      | electSupremeLeader branch candidate =>
        obtain ⟨voter, -, -, council, -, -, -, -, rfl⟩ := electSupremeLeader_eq_ok.mp hs
        exact ⟨rfl, rfl, rfl⟩
      | electKhuralChairman candidate =>
        obtain ⟨voter, -, -, -, -, -, -, rfl⟩ := electKhuralChairman_eq_ok.mp hs
        exact ⟨rfl, rfl, rfl⟩
      | resetBallot branch => exact absurd ⟨branch, rfl⟩ hreset
      | _ => exact absurd trivial hcall
    refine ⟨fun branch => Or.inl ⟨?_, ?_, hkeeps _, hkeeps _⟩, Or.inr ⟨hsame.2.2, hkeeps _⟩⟩
    · rw [hsame.1]
    · rw [hsame.2.1]

/-- Who votes for the supreme leader has voted before or has a seat. -/
theorem supremeLeader_voter {voter candidate : AccountId} (hs : step cfg x s = .ok s')
    (h : s'.ballot (.supremeLeader branch) voter = some candidate) :
    s.ballot (.supremeLeader branch) voter = some candidate ∨
      ∃ council, s.branchCouncils.get branch = some council ∧ voter ∈ council.val := by
  rcases ballot_new_step hs h with hold | ⟨hsigned, hvote⟩
  · exact Or.inl hold
  · obtain ⟨ctx, call⟩ := x
    obtain rfl : call = _ := vote_supremeLeader hvote
    obtain ⟨who, hwho, -, council, hget, hmem, -, -, -⟩ := electSupremeLeader_eq_ok.mp hs
    obtain rfl := Origin.signed.inj (hwho.symm.trans hsigned)
    exact Or.inr ⟨council, hget, hmem⟩

/-- Without a confirmation all who are seated stay elected. -/
theorem Seated.step_of_not_confirmation (h : Seated t) (hpolled : Polled cfg t)
    (hpolled' : Polled cfg t') (hs : step cfg x t.1 = .ok t'.1) (hcall : ¬ x.2.Confirmation) :
    Seated t' := by
  obtain ⟨hseats, hchairman⟩ := seats_step hs hcall
  refine Seated.of_polled hpolled' ?_ ?_ ?_ ?_
  · intro branch council hget
    rcases hseats branch with ⟨hcouncil, -, hkeeps, -⟩ | ⟨hnone, -, -⟩
    · obtain ⟨hsize, hdistinct, hnamed⟩ := h.councils branch council (hcouncil ▸ hget)
      refine ⟨hsize, hdistinct, fun member hmember => ?_⟩
      obtain ⟨voter, hballot⟩ := hnamed member hmember
      exact ⟨voter, ballot_kept_step hballot hkeeps hs⟩
    · rw [hnone] at hget
      cases hget
  · intro branch voter candidate hballot
    rcases hseats branch with ⟨hcouncil, -, -, -⟩ | ⟨-, -, hnobody⟩
    · rw [hcouncil]
      rcases supremeLeader_voter hs hballot with hold | hseat
      · exact h.voters branch voter candidate hold
      · exact hseat
    · rw [hnobody voter] at hballot
      cases hballot
  · intro branch leader hget
    rcases hseats branch with ⟨-, hleader, -, hkeeps⟩ | ⟨-, hnone, -⟩
    · exact voted_kept_step hpolled.counted hkeeps hs (h.leaders branch leader (hleader ▸ hget))
    · rw [hnone] at hget
      cases hget
  · intro chairman arbadId hget
    rcases hchairman with hnone | ⟨hsame, hkeeps⟩
    · rw [hnone] at hget
      cases hget
    · exact voted_kept_step hpolled.counted hkeeps hs (h.chairman chairman arbadId (hsame ▸ hget))

/-! ### The confirmations -/

theorem RealCouncil.congr (h : RealCouncil s branch council)
    (hvotes : s'.branchVotes = s.branchVotes) : RealCouncil s' branch council where
  size := h.size
  distinct := h.distinct
  named member hmember := by
    obtain ⟨voter, hballot⟩ := h.named member hmember
    refine ⟨voter, ?_⟩
    show s'.branchVotes.get (branch, voter) = some member
    rwa [hvotes]

variable {ctx : Context AccountId} {history : List (AccountId × Bool)}

/-- A new council is elected when its members are different and all who have voted for the supreme
leader are on it. -/
theorem seated_confirmBranchCouncil (h : Seated (s, history)) (hpolled : Polled cfg (s, history))
    (hpolled' : Polled cfg (s', history))
    (hs : confirmBranchCouncil ctx branch winners s = .ok s') :
    Seated (s', history) ↔ Confirms s (ctx, .confirmBranchCouncil branch winners) := by
  obtain ⟨-, -, hsize, hvotes, council, rfl, rfl⟩ := confirmBranchCouncil_eq_ok.mp hs
  constructor
  · intro hseated
    have hget : (s.branchCouncils.insert branch council).get branch = some council := by simp
    refine ⟨(hseated.councils branch council hget).distinct, ?_⟩
    -- who has voted must be on the new council
    rintro ⟨_, voter⟩ hkey rfl
    obtain ⟨candidate, hballot⟩ := StorageMap.mem_keys.mp hkey
    obtain ⟨council', hget', hmem⟩ := hseated.voters _ voter candidate hballot
    rwa [Option.some.inj (hget.symm.trans hget')]
  · rintro ⟨hdistinct, hvoters⟩
    refine Seated.of_polled hpolled' ?_ ?_ h.leaders h.chairman
    · intro branch' council' hget
      have hget : (s.branchCouncils.insert branch council).get branch' = some council' := hget
      rcases StorageMap.get_insert_cases hget with ⟨rfl, rfl⟩ | ⟨-, hget⟩
      · refine ⟨hsize, hdistinct, fun member hmember => ?_⟩
        exact (hpolled.counted.tallies (.council branch')).pos_iff.mp (hvotes member hmember)
      · exact (h.councils branch' council' hget).congr rfl
    · intro branch' voter candidate hballot
      show ∃ council', (s.branchCouncils.insert branch council).get branch' = some council' ∧ _
      rw [StorageMap.get_insert]
      split
      · next hbranch =>
        subst hbranch
        exact ⟨council, rfl, hvoters _ (StorageMap.mem_keys.mpr ⟨candidate, hballot⟩) rfl⟩
      · exact h.voters branch' voter candidate hballot

theorem seated_confirmSupremeLeader (h : Seated (s, history)) (hpolled' : Polled cfg (s', history))
    (hs : confirmSupremeLeader ctx branch leader s = .ok s') :
    Seated (s', history) ↔ Confirms s (ctx, .confirmSupremeLeader branch leader) := by
  obtain ⟨-, -, rfl⟩ := confirmSupremeLeader_eq_ok.mp hs
  constructor
  · intro hseated
    exact hseated.leaders branch leader StorageMap.get_insert_self
  · intro hvotes
    refine Seated.of_polled hpolled' ?_ h.voters ?_ h.chairman
    · intro branch' council' hget
      exact (h.councils branch' council' hget).congr rfl
    · intro branch' leader' hget
      have hget : (s.supremeLeaders.insert branch leader).get branch' = some leader' := hget
      rcases StorageMap.get_insert_cases hget with ⟨rfl, rfl⟩ | ⟨-, hget⟩
      · exact hvotes
      · exact h.leaders branch' leader' hget

theorem seated_confirmKhuralChairman (h : Seated (s, history))
    (hpolled' : Polled cfg (s', history)) (hs : confirmKhuralChairman ctx chairman s = .ok s') :
    Seated (s', history) ↔ Confirms s (ctx, .confirmKhuralChairman chairman) := by
  obtain ⟨-, arbadId, -, rfl⟩ := confirmKhuralChairman_eq_ok.mp hs
  constructor
  · intro hseated
    exact hseated.chairman chairman arbadId rfl
  · intro hvotes
    refine Seated.of_polled hpolled' ?_ h.voters h.leaders ?_
    · intro branch' council' hget
      exact (h.councils branch' council' hget).congr rfl
    · intro chairman' arbadId' hget
      cases hget
      exact hvotes

/-! ### One call and a run -/

/-- **One call.** All who are seated go on being elected just when a confirmation names nine
different winners with all who have voted for the supreme leader, or a leader or a chairman with
votes. -/
theorem seated_step (h : Seated t) (hpolled : Polled cfg t)
    (hs : recording recordVote (step cfg) x t = .ok t') : Seated t' ↔ Confirms t.1 x := by
  have hpolled' := polled_step hpolled hs
  obtain ⟨hs, hrec⟩ := recording_eq_ok.mp hs
  obtain ⟨s, history⟩ := t
  obtain ⟨s', history'⟩ := t'
  obtain ⟨ctx, call⟩ := x
  cases call with
  | confirmBranchCouncil branch winners =>
    obtain rfl : history' = history := hrec
    exact seated_confirmBranchCouncil h hpolled hpolled' hs
  | confirmSupremeLeader branch leader =>
    obtain rfl : history' = history := hrec
    exact seated_confirmSupremeLeader h hpolled' hs
  | confirmKhuralChairman chairman =>
    obtain rfl : history' = history := hrec
    exact seated_confirmKhuralChairman h hpolled' hs
  | _ => exact iff_of_true (h.step_of_not_confirmation hpolled hpolled' hs id) trivial

/-- **Every run.** Throughout a run the councils are nine different members named by a ballot, their
members alone have voted for the supreme leaders, and these and the chairman of the Khural have
votes, just when every accepted confirmation of the run is of winners who keep this up. -/
theorem seated_iff (cfg : Config) (xs : List (Extrinsic AccountId)) :
    Throughout (recording recordVote (step cfg)) Seated xs (genesis, []) ↔
      Along (step cfg) Confirms xs genesis := by
  have hexact : Throughout (recording recordVote (step cfg)) Seated xs (genesis, []) ↔
      Along (recording recordVote (step cfg)) (fun t x => Confirms t.1 x) xs (genesis, []) :=
    throughout_iff_along (J := Polled cfg) (fun _ _ _ h hs => polled_step h hs)
      (fun _ _ _ hpolled h hs => seated_step h hpolled hs) polled_genesis seated_genesis
  rw [hexact]
  exact along_recording

/-- Not every council is a real one: the only Tumed leader votes for himself and fills all nine
seats. -/
theorem council_of_one : ¬ ∀ xs : List (Extrinsic ℕ),
    Seated (run (recording recordVote (step elections)) xs (genesis, [])) := by
  apply not_forall.mpr
  refine ⟨soleCitizen ++ [(electionContext (.signed 1), .electBranchCouncil .executive 1),
    (electionContext .root, .confirmBranchCouncil .executive (List.replicate 9 1))], ?_⟩
  intro hseated
  have hcouncil := hseated.councils .executive ⟨List.replicate 9 1, by decide⟩ (by decide +kernel)
  exact absurd hcouncil.distinct (by decide)

end Elections
