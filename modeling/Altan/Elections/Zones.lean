import Altan.Elections.Spec
import Altan.Foundation.Headcount
import Altan.Foundation.TransitionSystem
import Altan.Runtime.Constants

/-!
# The sizes of the zones

A citizen is of one Arbad, and a leader of one Zun and one Myangad; beside these maps a counter is
kept for every zone. The counters go up whenever someone is entered in a zone, also when the entry
replaces an earlier one, of this zone or of another. So they count people as long as nobody is
entered twice on a tier, and no longer.

## Main definitions

* `Census`: the counters are the numbers of people entered
* `FirstEntry`: the call enters nobody who is entered on that tier

## Main results

* `census_step`: one call
* `census_iff`: the runs throughout which the counters count people
* `citizen_counted_twice`: one citizen, enrolled twice
-/

open Bounded Dispatch TransitionSystem Runtime

namespace Elections

variable {AccountId : Type} [DecidableEq AccountId] {cfg : Config} {ctx : Context AccountId}
  {s s' : State AccountId} {x : Extrinsic AccountId}

/-- The counter of every zone is the number of people entered in it. -/
structure Census (s : State AccountId) : Prop where
  arbad : Headcount s.citizenArbad.get fun arbadId => s.arbadMemberCount.getD arbadId 0
  zun : Headcount s.citizenZun.get fun zunId => s.zunLeaderCount.getD zunId 0
  myangad : Headcount s.citizenMyangad.get fun myangadId => s.myangadLeaderCount.getD myangadId 0

/-- The call does not enter anyone on a tier where they are entered already. -/
def FirstEntry (s : State AccountId) (x : Extrinsic AccountId) : Prop :=
  match x.2 with
  | .addCitizenToArbad citizen _ => s.citizenArbad.get citizen = none
  | .promoteLeader leader .zun _ => s.citizenZun.get leader = none
  | .promoteLeader leader .myangad _ => s.citizenMyangad.get leader = none
  | _ => True

instance (s : State AccountId) (x : Extrinsic AccountId) : Decidable (FirstEntry s x) := by
  unfold FirstEntry
  split <;> infer_instance

theorem census_genesis : Census (genesis : State AccountId) where
  arbad := Headcount.nobody.congr (fun _ => rfl) fun _ => rfl
  zun := Headcount.nobody.congr (fun _ => rfl) fun _ => rfl
  myangad := Headcount.nobody.congr (fun _ => rfl) fun _ => rfl

/-- Entering someone in a zone keeps the counters of the tier right just when it is the first
entry. -/
theorem enter_iff {zones : StorageMap AccountId ℕ} {counts : StorageMap ℕ ℕ}
    (h : Headcount zones.get fun z => counts.getD z 0) (who : AccountId) (zone : ℕ) :
    (Headcount (zones.insert who zone).get fun z =>
        (counts.insert zone (counts.getD zone 0 + 1)).getD z 0) ↔ zones.get who = none := by
  have hzones : (zones.insert who zone).get = Function.update zones.get who (some zone) := by
    ext a : 1
    rw [StorageMap.get_insert, Function.update_apply]
  have hcounts : (fun z => (counts.insert zone (counts.getD zone 0 + 1)).getD z 0) =
      Function.update (fun z => counts.getD z 0) zone (counts.getD zone 0 + 1) := by
    ext z : 1
    rw [StorageMap.getD_insert, Function.update_apply]
  rw [hzones, hcounts]
  exact h.update_iff who zone

/-- The hierarchy is as it was: who is entered where, and how many are. -/
structure SameHierarchy (s s' : State AccountId) : Prop where
  citizenArbad : s'.citizenArbad = s.citizenArbad
  electedLeaders : s'.electedLeaders = s.electedLeaders
  arbadMemberCount : s'.arbadMemberCount = s.arbadMemberCount
  zunLeaderCount : s'.zunLeaderCount = s.zunLeaderCount
  myangadLeaderCount : s'.myangadLeaderCount = s.myangadLeaderCount
  citizenZun : s'.citizenZun = s.citizenZun
  citizenMyangad : s'.citizenMyangad = s.citizenMyangad

/-- Only enrolments and promotions change the hierarchy. -/
theorem step_sameHierarchy (hs : step cfg x s = .ok s')
    (henrol : ∀ citizen arbadId, x.2 ≠ .addCitizenToArbad citizen arbadId)
    (hpromote : ∀ leader newLevel zoneId, x.2 ≠ .promoteLeader leader newLevel zoneId) :
    SameHierarchy s s' := by
  obtain ⟨ctx, call⟩ := x
  cases call with
  | addCitizenToArbad citizen arbadId => exact absurd rfl (henrol citizen arbadId)
  | promoteLeader leader newLevel zoneId => exact absurd rfl (hpromote leader newLevel zoneId)
  | castVote electionId candidate =>
    obtain ⟨voter, -, election, -, -, -, -, -, -, rfl⟩ := castVote_eq_ok.mp hs
    constructor <;> rfl
  | createElection electionId level candidates =>
    obtain ⟨-, -, -, rfl⟩ := createElection_eq_ok.mp hs
    constructor <;> rfl
  | electBranchCouncil branch candidate =>
    obtain ⟨voter, -, -, -, -, -, -, -, rfl⟩ := electBranchCouncil_eq_ok.mp hs
    constructor <;> rfl
  | confirmBranchCouncil branch winners =>
    obtain ⟨-, -, -, -, council, -, rfl⟩ := confirmBranchCouncil_eq_ok.mp hs
    constructor <;> rfl
  | electSupremeLeader branch candidate =>
    obtain ⟨voter, -, -, council, -, -, -, -, rfl⟩ := electSupremeLeader_eq_ok.mp hs
    constructor <;> rfl
  | confirmSupremeLeader branch leader =>
    obtain ⟨-, -, rfl⟩ := confirmSupremeLeader_eq_ok.mp hs
    constructor <;> rfl
  | electKhuralChairman candidate =>
    obtain ⟨voter, -, -, -, -, -, -, rfl⟩ := electKhuralChairman_eq_ok.mp hs
    constructor <;> rfl
  | confirmKhuralChairman chairman =>
    obtain ⟨-, arbadId, -, rfl⟩ := confirmKhuralChairman_eq_ok.mp hs
    constructor <;> rfl
  | resetBallot branch =>
    by_cases hb : branch = .legislative
    · subst hb
      obtain ⟨-, rfl⟩ := resetBallot_legislative_eq_ok.mp hs
      constructor <;> rfl
    · obtain ⟨-, rfl⟩ := (resetBallot_eq_ok hb).mp hs
      constructor <;> rfl

theorem SameHierarchy.census (hsame : SameHierarchy s s') (h : Census s) : Census s' where
  arbad := by
    rw [hsame.citizenArbad, hsame.arbadMemberCount]
    exact h.arbad
  zun := by
    rw [hsame.citizenZun, hsame.zunLeaderCount]
    exact h.zun
  myangad := by
    rw [hsame.citizenMyangad, hsame.myangadLeaderCount]
    exact h.myangad

/-- **One call.** The counters go on counting people just when nobody is entered again. -/
theorem census_step (h : Census s) (hs : step cfg x s = .ok s') : Census s' ↔ FirstEntry s x := by
  obtain ⟨ctx, call⟩ := x
  cases call with
  | addCitizenToArbad citizen arbadId =>
    obtain ⟨-, -, rfl⟩ := addCitizenToArbad_eq_ok.mp hs
    apply Iff.trans _ (enter_iff h.arbad citizen arbadId)
    exact ⟨Census.arbad, fun harbad => ⟨harbad, h.zun, h.myangad⟩⟩
  | promoteLeader leader newLevel zoneId =>
    obtain ⟨-, t, ht, rfl⟩ := promoteLeader_eq_ok.mp hs
    cases newLevel with
    | arbad =>
      rw [enterZone_arbad_eq_ok.mp ht]
      exact iff_of_true ⟨h.arbad, h.zun, h.myangad⟩ trivial
    | zun =>
      obtain ⟨arbadId, -, -, -, rfl⟩ := enterZone_zun_eq_ok.mp ht
      apply Iff.trans _ (enter_iff h.zun leader arbadId)
      exact ⟨Census.zun, fun hzun => ⟨h.arbad, hzun, h.myangad⟩⟩
    | myangad =>
      obtain ⟨zunId, -, -, -, rfl⟩ := enterZone_myangad_eq_ok.mp ht
      apply Iff.trans _ (enter_iff h.myangad leader zunId)
      exact ⟨Census.myangad, fun hmyangad => ⟨h.arbad, h.zun, hmyangad⟩⟩
    | tumed =>
      obtain ⟨myangadId, -, -, rfl⟩ := enterZone_tumed_eq_ok.mp ht
      exact iff_of_true ⟨h.arbad, h.zun, h.myangad⟩ trivial
  | _ =>
    -- every other call leaves the hierarchy alone
    exact iff_of_true ((step_sameHierarchy hs (by simp) (by simp)).census h) trivial

/-- **Every run.** Throughout a run the counter of every zone is the number of people entered in it,
just when no accepted call of the run enters someone on a tier for a second time. -/
theorem census_iff (cfg : Config) (xs : List (Extrinsic AccountId)) :
    Throughout (step cfg) Census xs genesis ↔ Along (step cfg) FirstEntry xs genesis :=
  throughout_iff_along_of_step (fun _ _ _ h hs => census_step h hs) census_genesis

/-- The counters do not always count people: a citizen who is enrolled in an Arbad twice is counted
twice. -/
theorem citizen_counted_twice : ¬ ∀ xs : List (Extrinsic ℕ),
    Census (run (step elections) xs genesis) := by
  intro hall
  have henrolled := (hall [(electionContext .root, .addCitizenToArbad 1 0),
    (electionContext .root, .addCitizenToArbad 1 0)]).arbad
  -- one person, counted as two
  have hone := henrolled.eq_card (c := 0) (S := {1}) fun who => by
    rw [Finset.mem_singleton]
    show _ ↔ (((∅ : StorageMap ℕ ℕ).insert 1 0).insert 1 0).get who = some 0
    rw [StorageMap.get_insert, StorageMap.get_insert]
    by_cases hwho : who = 1
    · simp [hwho]
    · simp [hwho]
  revert hone
  decide

end Elections
