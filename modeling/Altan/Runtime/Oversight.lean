import Altan.Elections.Mandates
import Altan.Mixer.Model

/-!
# The branches oversee the mixer

The origins of the runtime read the offices of the branches off the elections at the time of a call.
The mixer is dispatched with them: its relayer and its bank board are root or a member of the
council of the banking branch, and its audits are signed by root or by the supreme leader of the
legislative branch. Elections and mixer run side by side. Whatever the order of their calls, what
leaves the pool leaves it on the word of root or of a seated member of the banking council, what is
revealed is revealed by one of them, and only root signs an audit.

## Main definitions

* `isBranchCouncilMember`, `isSupremeLeader`: the offices
* `ensureOffice`, `ensureRootOr`: the origins of the runtime, and each of them
* `Oversight.step`: the two modules side by side
* `Oversight.Authorised`: what an accepted call of the mixer rests on

## Main results

* `origins_mandated`: every origin passes as who the elections leave in its office
* `Oversight.overseen`: the accepted calls of a run, and what is on the audit log
-/

open Dispatch Past TransitionSystem

namespace Runtime

variable {AccountId : Type} [DecidableEq AccountId]

/-! ### The offices -/

/-- Whether an account is a member of the council of a branch. -/
def isBranchCouncilMember (s : Elections.State AccountId) (branch : Elections.GovernmentBranch)
    (who : AccountId) : Bool :=
  match s.branchCouncils.get branch with
  | some council => decide (who ∈ council.val)
  | none => false

/-- Whether an account is the supreme leader of a branch. -/
def isSupremeLeader (s : Elections.State AccountId) (branch : Elections.GovernmentBranch)
    (who : AccountId) : Bool :=
  match s.supremeLeaders.get branch with
  | some leader => decide (leader = who)
  | none => false

/-- The account that signs, if any. -/
def signedAccount : Origin AccountId → Option AccountId
  | .signed who => some who
  | _ => none

/-- The account an origin passes as when it is signed by the holder of an office. -/
def ensureOffice (holds : AccountId → Bool) (o : Origin AccountId) : Option AccountId := do
  let who ← signedAccount o
  if holds who then some who else none

/-- The same with root as a fallback, which passes as a sentinel. -/
def ensureRootOr (rootSentinel : AccountId) (holds : AccountId → Bool) :
    Origin AccountId → Option AccountId
  | .root => some rootSentinel
  | .signed who => if holds who then some who else none
  | .none => none

section Origins

variable (s : Elections.State AccountId) (rootSentinel : AccountId)

/-- A member of the council of the banking branch. -/
def ensureBankingCouncilMember : Origin AccountId → Option AccountId :=
  ensureOffice (isBranchCouncilMember s .banking)

/-- The supreme leader of the banking branch. -/
def ensureBankingSupremeLeader : Origin AccountId → Option AccountId :=
  ensureOffice (isSupremeLeader s .banking)

/-- Either of them. -/
def ensureBankBoard : Origin AccountId → Option AccountId :=
  ensureOffice fun who => isBranchCouncilMember s .banking who || isSupremeLeader s .banking who

/-- A member of the council of the judicial branch. -/
def ensureJudicialCouncilMember : Origin AccountId → Option AccountId :=
  ensureOffice (isBranchCouncilMember s .judicial)

/-- The supreme leader of the judicial branch. -/
def ensureChiefJustice : Origin AccountId → Option AccountId :=
  ensureOffice (isSupremeLeader s .judicial)

/-- The supreme leader of the legislative branch. -/
def ensureKhuralChairman : Origin AccountId → Option AccountId :=
  ensureOffice (isSupremeLeader s .legislative)

/-- A member of the council of the executive branch. -/
def ensureExecutiveCouncilMember : Origin AccountId → Option AccountId :=
  ensureOffice (isBranchCouncilMember s .executive)

/-- The supreme leader of the executive branch. -/
def ensureHeadOfState : Origin AccountId → Option AccountId :=
  ensureOffice (isSupremeLeader s .executive)

/-- Root, or a member of the council of the banking branch. -/
def ensureRootOrBankingCouncil : Origin AccountId → Option AccountId :=
  ensureRootOr rootSentinel (isBranchCouncilMember s .banking)

/-- Root, or the supreme leader of the legislative branch. -/
def ensureRootOrKhuralChairman : Origin AccountId → Option AccountId :=
  ensureRootOr rootSentinel (isSupremeLeader s .legislative)

/-- Root, or a member of the council of the judicial branch. -/
def ensureRootOrJudicialCouncil : Origin AccountId → Option AccountId :=
  ensureRootOr rootSentinel (isBranchCouncilMember s .judicial)

end Origins

section Passing

variable {s : Elections.State AccountId} {branch : Elections.GovernmentBranch} {who a : AccountId}
  {rootSentinel : AccountId} {holds : AccountId → Bool} {o : Origin AccountId}
  {h : Elections.History AccountId}

omit [DecidableEq AccountId] in
theorem ensureOffice_eq_some : ensureOffice holds o = some a ↔ o = .signed a ∧ holds a = true := by
  cases o with
  | signed who =>
    change (if holds who = true then some who else none) = some a ↔ _
    by_cases hw : holds who = true
    · rw [if_pos hw]
      constructor
      · rintro ⟨rfl⟩
        exact ⟨rfl, hw⟩
      · rintro ⟨⟨rfl⟩, -⟩
        rfl
    · rw [if_neg hw]
      refine iff_of_false (by simp) ?_
      rintro ⟨⟨rfl⟩, ha⟩
      exact hw ha
  | _ => exact iff_of_false (fun h => by cases h) fun h => by cases h.1

omit [DecidableEq AccountId] in
theorem ensureRootOr_eq_some : ensureRootOr rootSentinel holds o = some a ↔
    o = .root ∧ a = rootSentinel ∨ o = .signed a ∧ holds a = true := by
  cases o with
  | root =>
    simp only [ensureRootOr, Option.some.injEq, true_and, reduceCtorEq, false_and, or_false,
      eq_comm]
  | none => simp [ensureRootOr]
  | signed who =>
    rw [show ensureRootOr rootSentinel holds (.signed who) = ensureOffice holds (.signed who) from
      rfl, ensureOffice_eq_some]
    simp

theorem isBranchCouncilMember_iff : isBranchCouncilMember s branch who = true ↔
    ∃ council, s.branchCouncils.get branch = some council ∧ who ∈ council.val := by
  unfold isBranchCouncilMember
  cases s.branchCouncils.get branch <;> simp

theorem isSupremeLeader_iff :
    isSupremeLeader s branch who = true ↔ s.supremeLeaders.get branch = some who := by
  unfold isSupremeLeader
  cases s.supremeLeaders.get branch <;> simp

/-- **Nobody passes as the chairman of the Khural** but root: the chairman that is elected is not
the supreme leader of the legislative branch, which has none. -/
theorem ensureRootOrKhuralChairman_eq (hrec : Elections.Recorded s h)
    (ho : (ensureRootOrKhuralChairman s rootSentinel o).isSome = true) : o = .root := by
  obtain ⟨a, ha⟩ := Option.isSome_iff_exists.mp ho
  rcases ensureRootOr_eq_some.mp ha with ⟨hroot, -⟩ | ⟨-, hholds⟩
  · exact hroot
  · have hleader := isSupremeLeader_iff.mp hholds
    rw [hrec.noLeader] at hleader
    cases hleader

/-- **The banking council.** Root passes, and who the history leaves on the council. -/
theorem ensureRootOrBankingCouncil_eq_some (hrec : Elections.Recorded s h) :
    ensureRootOrBankingCouncil s rootSentinel o = some a ↔
      o = .root ∧ a = rootSentinel ∨ o = .signed a ∧ Elections.OnCouncil h .banking a := by
  unfold ensureRootOrBankingCouncil
  rw [ensureRootOr_eq_some, isBranchCouncilMember_iff,
    hrec.councils .banking a (by simp)]

end Passing

/-- The origin passes as exactly one account: the one that signs it, if the history leaves that
account in an office. -/
def PassesAs (ensureOrigin : Origin AccountId → Option AccountId)
    (inOffice : AccountId → Prop) : Prop :=
  ∀ o a, ensureOrigin o = some a ↔ o = .signed a ∧ inOffice a

/-- The same with root, which passes as a sentinel. -/
def PassesAsOrRoot (rootSentinel : AccountId) (ensureOrigin : Origin AccountId → Option AccountId)
    (inOffice : AccountId → Prop) : Prop :=
  ∀ o a, ensureOrigin o = some a ↔ o = .root ∧ a = rootSentinel ∨ o = .signed a ∧ inOffice a

omit [DecidableEq AccountId] in
theorem passesAs_of {holds : AccountId → Bool} {inOffice : AccountId → Prop}
    (h : ∀ who, holds who = true ↔ inOffice who) : PassesAs (ensureOffice holds) inOffice :=
  fun _ a => ensureOffice_eq_some.trans (and_congr_right fun _ => h a)

omit [DecidableEq AccountId] in
theorem passesAsOrRoot_of {holds : AccountId → Bool} {inOffice : AccountId → Prop}
    {rootSentinel : AccountId} (h : ∀ who, holds who = true ↔ inOffice who) :
    PassesAsOrRoot rootSentinel (ensureRootOr rootSentinel holds) inOffice :=
  fun _ a => ensureRootOr_eq_some.trans (or_congr_right (and_congr_right fun _ => h a))

/-- **The origins follow the mandates.** After any run of the elections every origin of the branches
passes exactly as the accounts that the accepted calls leave in its office; nobody passes as the
chairman of the Khural. -/
theorem origins_mandated (cfg : Elections.Config) (rootSentinel : AccountId)
    (xs : List (Elections.Extrinsic AccountId)) :
    let t := run (recording Elections.keepRecord (Elections.step cfg)) xs
      ((Elections.genesis : Elections.State AccountId), [])
    PassesAs (ensureBankingCouncilMember t.1) (Elections.OnCouncil t.2 .banking) ∧
      PassesAs (ensureBankingSupremeLeader t.1) (Elections.Leading t.2 .banking) ∧
      PassesAs (ensureBankBoard t.1)
        (fun a => Elections.OnCouncil t.2 .banking a ∨ Elections.Leading t.2 .banking a) ∧
      PassesAs (ensureJudicialCouncilMember t.1) (Elections.OnCouncil t.2 .judicial) ∧
      PassesAs (ensureChiefJustice t.1) (Elections.Leading t.2 .judicial) ∧
      PassesAs (ensureKhuralChairman t.1) (fun _ => False) ∧
      PassesAs (ensureExecutiveCouncilMember t.1) (Elections.OnCouncil t.2 .executive) ∧
      PassesAs (ensureHeadOfState t.1) (Elections.Leading t.2 .executive) ∧
      PassesAsOrRoot rootSentinel (ensureRootOrBankingCouncil t.1 rootSentinel)
        (Elections.OnCouncil t.2 .banking) ∧
      PassesAsOrRoot rootSentinel (ensureRootOrKhuralChairman t.1 rootSentinel)
        (fun _ => False) ∧
      PassesAsOrRoot rootSentinel (ensureRootOrJudicialCouncil t.1 rootSentinel)
        (Elections.OnCouncil t.2 .judicial) := by
  intro t
  have hrec : Elections.Recorded t.1 t.2 := Elections.recorded_run cfg xs
  have hcouncil : ∀ branch who, branch ≠ .legislative →
      (isBranchCouncilMember t.1 branch who = true ↔ Elections.OnCouncil t.2 branch who) :=
    fun branch who hb => isBranchCouncilMember_iff.trans (hrec.councils branch who hb)
  have hleader : ∀ branch who, branch ≠ .legislative →
      (isSupremeLeader t.1 branch who = true ↔ Elections.Leading t.2 branch who) :=
    fun branch who hb => isSupremeLeader_iff.trans (hrec.leaders branch who hb)
  have hchairman : ∀ who, isSupremeLeader t.1 .legislative who = true ↔ False := by
    intro who
    rw [isSupremeLeader_iff, hrec.noLeader]
    simp
  refine ⟨passesAs_of fun who => hcouncil .banking who (by decide),
    passesAs_of fun who => hleader .banking who (by decide), passesAs_of fun who => ?_,
    passesAs_of fun who => hcouncil .judicial who (by decide),
    passesAs_of fun who => hleader .judicial who (by decide), passesAs_of hchairman,
    passesAs_of fun who => hcouncil .executive who (by decide),
    passesAs_of fun who => hleader .executive who (by decide),
    passesAsOrRoot_of fun who => hcouncil .banking who (by decide), passesAsOrRoot_of hchairman,
    passesAsOrRoot_of fun who => hcouncil .judicial who (by decide)⟩
  rw [Bool.or_eq_true, hcouncil .banking who (by decide), hleader .banking who (by decide)]

end Runtime

/-! ### The elections and the mixer -/

namespace Oversight

open Runtime

/-- The storage of the two modules. -/
structure State (AccountId L : Type) where
  elections : Elections.State AccountId
  mixer : Mixer.State AccountId L

/-- A call of one of the two, with what the rest of the runtime gives it. -/
inductive Input (AccountId : Type)
  | elections (x : Elections.Extrinsic AccountId)
  | mixer (origin : Origin AccountId) (blockNumber : ℕ) (call : Mixer.Call AccountId)

/-- The errors of the two. -/
inductive Error
  | elections (e : DispatchError Elections.Error)
  | mixer (e : DispatchError Mixer.Error)

/-- The constants of the two, and the account root passes as. -/
structure Config (AccountId : Type) where
  elections : Elections.Config
  mixer : Mixer.Config AccountId
  rootSentinel : AccountId

/-- The calls of the elections in a history. -/
def electionsOf {AccountId : Type} (h : List (Input AccountId)) : Elections.History AccountId :=
  h.filterMap fun
    | .elections x => some x
    | .mixer _ _ _ => none

variable {AccountId L : Type} [DecidableEq AccountId]

/-- What the mixer is dispatched with: its relayer and its bank board are the banking council, and
its audits are the chairman's. -/
def mixerContext (cfg : Config AccountId) (s : State AccountId L) (origin : Origin AccountId)
    (blockNumber : ℕ) : Mixer.Context AccountId where
  origin := origin
  blockNumber := blockNumber
  relayerOrigin := ensureRootOrBankingCouncil s.elections cfg.rootSentinel
  bankBoardOrigin := ensureRootOrBankingCouncil s.elections cfg.rootSentinel
  khuralOrigin o := (ensureRootOrKhuralChairman s.elections cfg.rootSentinel o).isSome

/-- One call as a step of the two side by side. -/
def step [Currency AccountId L] (cfg : Config AccountId) :
    Input AccountId → State AccountId L → Except Error (State AccountId L)
  | .elections x, s => do
    let elections ← (Elections.step cfg.elections x s.elections).mapError .elections
    return { s with elections := elections }
  | .mixer origin blockNumber call, s => do
    let mixer ← (Mixer.step cfg.mixer (mixerContext cfg s origin blockNumber, call)
      s.mixer).mapError .mixer
    return { s with mixer := mixer }

/-- Root orders a call, or a member the history leaves on the banking council. -/
def ByBankingCouncil (before : List (Input AccountId)) (origin : Origin AccountId) : Prop :=
  origin = .root ∨
    ∃ who, origin = .signed who ∧ Elections.OnCouncil (electionsOf before) .banking who

/-- What an accepted call rests on, in view of the calls before it. -/
def Authorised (before : List (Input AccountId)) : Input AccountId → Prop
  | .elections x => Elections.Rightful (electionsOf before) x
  | .mixer origin _ (.deposit _ _ _) => ∃ who, origin = .signed who
  | .mixer origin _ (.withdraw _ _ _ _) => ByBankingCouncil before origin
  | .mixer origin _ (.revealTransaction _ _) => ByBankingCouncil before origin
  | .mixer origin _ (.submitQuarterlyAudit _ _) => origin = .root

/-- A disclosure was recorded by a call of the history, in the name of the member of the banking
council who made it, or of the sentinel when root did. -/
def Revealed (cfg : Config AccountId) (h : List (Input AccountId))
    (record : Mixer.RevealRecord AccountId) : Prop :=
  ∃ before origin after, h = before ++
      .mixer origin record.timestamp
        (.revealTransaction record.targetCommitment record.warrantId) :: after ∧
    (origin = .root ∧ record.authorizedBy = cfg.rootSentinel ∨
      origin = .signed record.authorizedBy ∧
        Elections.OnCouncil (electionsOf before) .banking record.authorizedBy)

/-- The history tells what is in the storage, and every call of it was authorised. -/
structure Overseen (cfg : Config AccountId) (t : State AccountId L × List (Input AccountId)) :
    Prop where
  recorded : Elections.Recorded t.1.elections (electionsOf t.2)
  authorised : Lawfully Authorised t.2
  /-- A commitment is spent once a withdrawal has taken it, and never without. -/
  withdrawn : ∀ c, t.1.mixer.commitments.get c = some .spent ↔
    ∃ origin block nullifier recipient amount,
      .mixer origin block (.withdraw nullifier c recipient amount) ∈ t.2
  revealed : ∀ n record, t.1.mixer.auditLogs.get n = some record → Revealed cfg t.2 record
  audited : ∀ quarter hash, t.1.mixer.quarterlyAudits.get quarter = some hash →
    ∃ block, .mixer .root block (.submitQuarterlyAudit quarter hash) ∈ t.2

/-- Accepted calls are put on record. -/
def keepRecord (_ : State AccountId L) (i : Input AccountId) (h : List (Input AccountId)) :
    List (Input AccountId) := h ++ [i]

section Steps

variable {cfg : Config AccountId} {t : State AccountId L × List (Input AccountId)}
  {h : List (Input AccountId)} {i : Input AccountId} {record : Mixer.RevealRecord AccountId}

omit [DecidableEq AccountId] in
theorem electionsOf_append_elections {x : Elections.Extrinsic AccountId} :
    electionsOf (h ++ [.elections x]) = electionsOf h ++ [x] := by
  simp [electionsOf, List.filterMap_append]

omit [DecidableEq AccountId] in
theorem electionsOf_append_mixer {origin : Origin AccountId} {block : ℕ}
    {call : Mixer.Call AccountId} :
    electionsOf (h ++ [.mixer origin block call]) = electionsOf h := by
  simp [electionsOf, List.filterMap_append]

omit [DecidableEq AccountId] in
theorem Revealed.append (hr : Revealed cfg h record) : Revealed cfg (h ++ [i]) record := by
  obtain ⟨before, origin, after, rfl, hauth⟩ := hr
  exact ⟨before, origin, after ++ [i], by simp, hauth⟩

/-- Who passes as the relayer or as the bank board, the history leaves on the banking council. -/
theorem byBankingCouncil_of_passes {origin : Origin AccountId} {a : AccountId}
    (ho : Overseen cfg t)
    (ha : ensureRootOrBankingCouncil t.1.elections cfg.rootSentinel origin = some a) :
    (origin = .root ∧ a = cfg.rootSentinel ∨
      origin = .signed a ∧ Elections.OnCouncil (electionsOf t.2) .banking a) ∧
    ByBankingCouncil t.2 origin := by
  have hcases := (ensureRootOrBankingCouncil_eq_some ho.recorded).mp ha
  refine ⟨hcases, ?_⟩
  rcases hcases with ⟨hroot, -⟩ | ⟨hsigned, hcouncil⟩
  · exact Or.inl hroot
  · exact Or.inr ⟨a, hsigned, hcouncil⟩

variable [Currency AccountId L] {s' : State AccountId L} {origin : Origin AccountId} {block : ℕ}
  {call : Mixer.Call AccountId} {x : Elections.Extrinsic AccountId}

theorem step_elections_eq_ok : step cfg (.elections x) t.1 = .ok s' ↔
    ∃ elections, Elections.step cfg.elections x t.1.elections = .ok elections ∧
      s' = { t.1 with elections := elections } := by
  simp only [step, mapError_bind_eq_ok, pure_eq_ok, eq_comm (a := s')]

theorem step_mixer_eq_ok : step cfg (.mixer origin block call) t.1 = .ok s' ↔
    ∃ mixer, Mixer.step cfg.mixer (mixerContext cfg t.1 origin block, call) t.1.mixer =
      .ok mixer ∧ s' = { t.1 with mixer := mixer } := by
  simp only [step, mapError_bind_eq_ok, pure_eq_ok, eq_comm (a := s')]

/-- A call of the elections goes on their record, and leaves the mixer. -/
theorem overseen_elections (ho : Overseen cfg t)
    (hs : step cfg (.elections x) t.1 = .ok s') : Overseen cfg (s', t.2 ++ [.elections x]) := by
  obtain ⟨elections, he, rfl⟩ := step_elections_eq_ok.mp hs
  exact {
    recorded := by
      rw [electionsOf_append_elections]
      exact Elections.recorded_step ho.recorded he
    authorised := lawfully_append.mpr
      ⟨ho.authorised, Elections.rightful_of_step ho.recorded he⟩
    withdrawn := fun c => by
      rw [ho.withdrawn c]
      simp
    revealed := fun n record hr => (ho.revealed n record hr).append
    audited := fun quarter hash ha => by
      obtain ⟨b, hb⟩ := ho.audited quarter hash ha
      exact ⟨b, List.mem_append_left _ hb⟩ }

/-- A call of the mixer is authorised, and goes on record. -/
theorem overseen_mixer (ho : Overseen cfg t)
    (hs : step cfg (.mixer origin block call) t.1 = .ok s') :
    Overseen cfg (s', t.2 ++ [.mixer origin block call]) := by
  obtain ⟨mixer, hm, rfl⟩ := step_mixer_eq_ok.mp hs
  have hrecorded : Elections.Recorded t.1.elections
      (electionsOf (t.2 ++ [.mixer origin block call])) := by
    rw [electionsOf_append_mixer]
    exact ho.recorded
  have haudited : ∀ quarter hash, t.1.mixer.quarterlyAudits.get quarter = some hash →
      ∃ b, .mixer .root b (.submitQuarterlyAudit quarter hash) ∈
        t.2 ++ [.mixer origin block call] := fun quarter hash ha => by
    obtain ⟨b, hb⟩ := ho.audited quarter hash ha
    exact ⟨b, List.mem_append_left _ hb⟩
  cases call with
  | deposit amount commitment payload =>
    obtain ⟨depositor, hwho, -, hnew, l₁, l₂, l₃, l₄, l', -, rfl⟩ :=
      (Mixer.deposit_eq_ok payload).mp hm
    exact {
      recorded := hrecorded
      authorised := lawfully_append.mpr ⟨ho.authorised, depositor, hwho⟩
      withdrawn := fun c => by
        have hold := ho.withdrawn c
        by_cases hc : c = commitment
        · -- a fresh commitment has not been withdrawn
          subst hc
          rw [hnew] at hold
          simpa [StorageMap.get_insert_self] using hold
        · simpa [StorageMap.get_insert_of_ne hc] using hold
      revealed := fun n record hr => (ho.revealed n record hr).append
      audited := haudited }
  | withdraw nullifier commitment recipient amount =>
    obtain ⟨relayer, hrelayer, -, -, -, l', -, rfl⟩ := Mixer.withdraw_eq_ok.mp hm
    exact {
      recorded := hrecorded
      authorised := lawfully_append.mpr
        ⟨ho.authorised, (byBankingCouncil_of_passes ho hrelayer).2⟩
      withdrawn := fun c => by
        have hold := ho.withdrawn c
        by_cases hc : c = commitment
        · subst hc
          refine iff_of_true StorageMap.get_insert_self
            ⟨origin, block, nullifier, recipient, amount, by simp⟩
        · simp only [StorageMap.get_insert_of_ne hc, hold, List.mem_append, List.mem_singleton,
            Input.mixer.injEq, Mixer.Call.withdraw.injEq, hc, false_and, and_false, or_false]
      revealed := fun n record hr => (ho.revealed n record hr).append
      audited := haudited }
  | revealTransaction target warrant =>
    obtain ⟨authorizedBy, hboard, rfl⟩ := Mixer.revealTransaction_eq_ok.mp hm
    obtain ⟨hcases, hby⟩ := byBankingCouncil_of_passes ho hboard
    exact {
      recorded := hrecorded
      authorised := lawfully_append.mpr ⟨ho.authorised, hby⟩
      withdrawn := fun c => by
        rw [ho.withdrawn c]
        simp
      revealed := fun n record hr => by
        rcases StorageMap.get_insert_cases hr with ⟨-, rfl⟩ | ⟨-, hold⟩
        · exact ⟨t.2, origin, [], rfl, hcases⟩
        · exact (ho.revealed n record hold).append
      audited := haudited }
  | submitQuarterlyAudit quarter hash =>
    obtain ⟨hkhural, -, rfl⟩ := Mixer.submitQuarterlyAudit_eq_ok.mp hm
    have hroot : origin = .root := ensureRootOrKhuralChairman_eq ho.recorded hkhural
    subst hroot
    exact {
      recorded := hrecorded
      authorised := lawfully_append.mpr ⟨ho.authorised, rfl⟩
      withdrawn := fun c => by
        rw [ho.withdrawn c]
        simp
      revealed := fun n record hr => (ho.revealed n record hr).append
      audited := fun q r hq => by
        rcases StorageMap.get_insert_cases hq with ⟨rfl, rfl⟩ | ⟨-, hold⟩
        · exact ⟨block, by simp⟩
        · exact haudited q r hold }

end Steps

/-- **The mixer is overseen.** In every run of the elections and the mixer side by side, on any
ledger, each accepted withdrawal and disclosure is ordered by root or by an account that root's
latest confirmation seats on the banking council, which rests on ballots of Tumed leaders; each
accepted audit is root's. A commitment is spent exactly by such a withdrawal, and the audit log
holds only such disclosures, each in the name of who made it. -/
theorem overseen [Currency AccountId L] (cfg : Config AccountId) (is : List (Input AccountId))
    (ledger : L) :
    let start : State AccountId L :=
      { elections := Elections.genesis, mixer := Mixer.genesis ledger }
    let t := run (recording keepRecord (step cfg)) is (start, [])
    t.1 = run (step cfg) is start ∧ Overseen cfg t := by
  intro start t
  have hstep : ∀ i (u u' : State AccountId L × List (Input AccountId)), Overseen cfg u →
      recording keepRecord (step cfg) i u = .ok u' → Overseen cfg u' := by
    rintro i u ⟨s', h'⟩ hu hs
    obtain ⟨hs, rfl⟩ := recording_eq_ok.mp hs
    cases i with
    | elections x => exact overseen_elections hu hs
    | mixer origin block call => exact overseen_mixer hu hs
  refine ⟨run_recording is _, run_invariant hstep is {
    recorded := Elections.recorded_genesis
    authorised := lawfully_nil
    withdrawn := fun c => ?_
    revealed := fun n record hr => ?_
    audited := fun quarter hash ha => ?_ }⟩
  · refine iff_of_false (fun hc => ?_) (by simp)
    cases hc
  · cases hr
  · cases ha

end Oversight
