import Altan.BlackBook.Model
import Altan.Identity.Citizenship
import Altan.Runtime.Constants

/-!
# The standing of citizens under the courts

The citizens, the courts, the constitution and the black book, wired as in the runtime. The module
of the citizens itself only makes lawful changes of a standing. The courts freeze and release
without looking at it, so that a dead citizen who is sued is frozen, and released to be active.

## Main definitions

* `World`, `Input`, `step`: the modules together
* `LawfulStep`: no standing changes unlawfully
* `Guard`: the courts act on citizens who may be frozen or released

## Main results

* `lawful_iff_guard`: the runs whose steps are lawful are those along the guard
* `deceased_forever`, `exiled_until_death`: what the lawful runs keep
-/

open Bounded Dispatch Ledger TransitionSystem Identity

namespace Justice

variable {AccountId L : Type}

/-- The constants of the modules. -/
structure Config (AccountId L : Type) where
  identity : Identity.Config AccountId L
  courts : JudicialCourts.Config AccountId L
  blackBook : BlackBook.Config AccountId L

/-- The errors of the modules. -/
inductive Error
  | identity (e : Identity.Error)
  | constitution (e : Constitution.Error)
  | courts (e : JudicialCourts.Error)
  | blackBook (e : BlackBook.Error)
  deriving DecidableEq, Repr

/-- The storage of the modules. -/
structure World (AccountId L : Type) extends JudicialCourts.World AccountId L where
  blackBook : BlackBook.Storage AccountId

/-- A call with its origin, to the black book with who is in the academy, or the start of the next
block. -/
inductive Input (AccountId : Type)
  | identity (origin : Origin AccountId) (c : Identity.Call AccountId)
  | constitution (origin : Origin AccountId) (c : Constitution.Call AccountId)
  | courts (x : JudicialCourts.Input AccountId)
  | blackBook (origin : Origin AccountId) (isAcademician : AccountId → Bool)
    (c : BlackBook.Call AccountId)

variable [DecidableEq AccountId] [Currency AccountId L] [ReservableCurrency AccountId L]
  [Fungible AccountId L]

/-- The state after one input. -/
def step (cfg : Config AccountId L) :
    Input AccountId → World AccountId L → Except (DispatchError Error) (World AccountId L)
  | .identity origin c, w => do
    let identity ← (Identity.dispatch cfg.identity ⟨origin, w.now⟩ c w.court.identity).mapError
      (DispatchError.map .identity)
    return { w with court := { w.court with identity := identity } }
  | .constitution origin c, w => do
    let constitution ← (Constitution.dispatch ⟨origin, w.now⟩ c w.court.constitution).mapError
      (DispatchError.map .constitution)
    return { w with court := { w.court with constitution := constitution } }
  | .courts x, w => do
    let t ← (JudicialCourts.step cfg.courts x w.toWorld).mapError (DispatchError.map .courts)
    return { w with toWorld := t }
  | .blackBook origin isAcademician c, w => do
    let s ← (BlackBook.dispatch cfg.blackBook ⟨origin, w.now, isAcademician⟩ c
      ⟨w.blackBook, w.court.identity⟩).mapError (DispatchError.map .blackBook)
    return { w with
      blackBook := s.toStorage
      court := { w.court with identity := s.identity } }

/-! ### The guard -/

/-- No standing changes unlawfully with an input. -/
def LawfulStep (cfg : Config AccountId L) (w : World AccountId L) (x : Input AccountId) : Prop :=
  Lawful w.court.identity (exec (step cfg) x w).court.identity

/-- Who may be frozen: the active, the frozen, and those who are not registered. -/
def MayBeFrozen (status : Option CitizenStatus) : Prop :=
  status ≠ some .minor ∧ status ≠ some .exiled ∧ status ≠ some .deceased

instance (status : Option CitizenStatus) : Decidable (MayBeFrozen status) :=
  inferInstanceAs (Decidable (_ ∧ _ ∧ _))

/-- Who may be released: all but minors and the exiled. The deceased stay so. -/
def MayBeReleased (status : Option CitizenStatus) : Prop :=
  status ≠ some .minor ∧ status ≠ some .exiled

instance (status : Option CitizenStatus) : Decidable (MayBeReleased status) :=
  inferInstanceAs (Decidable (_ ∧ _))

/-- The courts act on citizens whom they may freeze or release. -/
def Guard (w : World AccountId L) : Input AccountId → Prop
  | .identity _ _ => True
  | .constitution _ _ => True
  | .blackBook _ _ _ => True
  | .courts .block =>
    ∀ who, JudicialCourts.IsReleased (w.now + 1) w.court who → MayBeReleased (w.court.status who)
  | .courts (.call _ c) =>
    match c with
    | .openCase defendant _ _ => MayBeFrozen (w.court.status defendant)
    | .declareUsurper target => MayBeFrozen (w.court.status target)
    | .issueVerdict caseId isGuilty _ _ _ =>
      ∀ c, w.court.courtCases.get caseId = some c →
        isGuilty = false → MayBeReleased (w.court.status c.defendant)
    | .executeVerdict caseId =>
      ∀ c, w.court.courtCases.get caseId = some c →
        c.crimeCategory ≠ some .hateCrimeAndFascism → MayBeReleased (w.court.status c.defendant)

/-! ### What each module does to the standings -/

section Steps

variable {cfg : Config AccountId L} {w w' : World AccountId L} {status : Option CitizenStatus}

theorem lawfulMove_freeze : LawfulMove status (status.map .freeze) ↔ MayBeFrozen status := by
  rcases status with _ | old
  · decide
  · cases old <;> decide

theorem lawfulMove_release : LawfulMove status (status.map .release) ↔ MayBeReleased status := by
  rcases status with _ | old
  · decide
  · cases old <;> decide

theorem lawfulMove_exile : LawfulMove status (status.map .exile) := by
  rcases status with _ | old
  · decide
  · cases old <;> decide

section BlackBook

variable {bcfg : BlackBook.Config AccountId L} {ctx : BlackBook.Context AccountId}
  {c : BlackBook.Call AccountId} {s s' : BlackBook.State AccountId L}

omit [ReservableCurrency AccountId L] [Fungible AccountId L]

theorem seedBounty_status {target : AccountId} {isFugitive : Bool} {initialBounty : ℕ}
    (h : BlackBook.seedBounty bcfg target isFugitive initialBounty s = .ok s') :
    s'.identity.status = s.identity.status := by
  unfold BlackBook.seedBounty at h
  split at h
  · simp only [mapError_bind_eq_ok, pure_eq_ok] at h
    obtain ⟨ledger, -, rfl⟩ := h
    rfl
  · rw [pure_eq_ok.mp h]

/-- The black book only exiles. -/
theorem blackBook_lawful (h : BlackBook.dispatch bcfg ctx c s = .ok s') :
    Lawful s.identity s'.identity := by
  cases c with
  | condemnAndIssueWarrant target =>
    simp only [BlackBook.dispatch, BlackBook.condemnAndIssueWarrant, ensureRoot_bind_eq_ok,
      ensure_bind_eq_ok, mapError_bind_eq_ok] at h
    obtain ⟨-, -, -, i, hi, h⟩ := h
    obtain ⟨ledger, -, h⟩ := bind_eq_ok.mp h
    obtain ⟨old, hmoved, -⟩ := doExile_moved hi
    exact (lawful_iff_of_changeStatus ((seedBounty_status h).trans hmoved.changeStatus)).mpr
      lawfulMove_exile
  | donateToBounty =>
    simp only [BlackBook.dispatch, BlackBook.donateToBounty, ensureSigned_bind_eq_ok,
      required_bind_eq_ok, ensure_bind_eq_ok, mapError_bind_eq_ok, pure_eq_ok] at h
    obtain ⟨donor, -, record, -, -, -, ledger, -, rfl⟩ := h
    exact lawful_of_status_eq rfl
  | registerCaptureAndPayout =>
    simp only [BlackBook.dispatch, BlackBook.registerCaptureAndPayout, ensureRoot_bind_eq_ok,
      required_bind_eq_ok, ensure_bind_eq_ok, pure_eq_ok] at h
    obtain ⟨-, record, -, -, -, poolAmount, -, -, rfl⟩ := h
    exact lawful_of_status_eq rfl
  | claimBountyPayout =>
    simp only [BlackBook.dispatch, BlackBook.claimBountyPayout, ensureSigned_bind_eq_ok,
      required_bind_eq_ok, ensure_bind_eq_ok, liftCurrency_bind_eq_ok, pure_eq_ok] at h
    obtain ⟨-, -, locked, -, -, ledger, -, rfl⟩ := h
    exact lawful_of_status_eq rfl
  | cancelBountyPayout =>
    simp only [BlackBook.dispatch, BlackBook.cancelBountyPayout, ensureRoot_bind_eq_ok,
      required_bind_eq_ok, pure_eq_ok] at h
    obtain ⟨-, locked, -, rfl⟩ := h
    exact lawful_of_status_eq rfl

end BlackBook

omit [DecidableEq AccountId] in
/-- A sentence of the courts is exile for hate crimes and a release for others. -/
theorem sentence_lawful {c : JudicialCourts.CourtCase AccountId} :
    LawfulMove status (status.map c.sentence) ↔
      (c.crimeCategory ≠ some .hateCrimeAndFascism → MayBeReleased status) := by
  unfold JudicialCourts.CourtCase.sentence
  cases c.crimeCategory with
  | none => simp [lawfulMove_release]
  | some category => cases category <;> simp [lawfulMove_release, lawfulMove_exile]

omit [ReservableCurrency AccountId L] in
/-- A call to the courts is lawful just if it meets the guard. -/
theorem courts_lawful_iff {ccfg : JudicialCourts.Config AccountId L} {origin : Origin AccountId}
    {c : JudicialCourts.Call AccountId} {s' : JudicialCourts.State AccountId L}
    (h : JudicialCourts.dispatch ccfg ⟨origin, w.now⟩ c w.court = .ok s') :
    Lawful w.court.identity s'.identity ↔ Guard w (.courts (.call origin c)) := by
  cases c with
  | openCase defendant =>
    exact (lawful_iff_of_changeStatus (JudicialCourts.openCase_opened h).status).trans
      lawfulMove_freeze
  | declareUsurper target =>
    exact (lawful_iff_of_changeStatus (JudicialCourts.declareUsurper_usurped h).status).trans
      lawfulMove_freeze
  | issueVerdict caseId isGuilty =>
    obtain ⟨c, hdecided⟩ := JudicialCourts.issueVerdict_decided h
    refine Iff.trans ?_ (StorageMap.forall_get_iff hdecided.found).symm
    cases isGuilty with
    | true => exact iff_of_true (lawful_of_status_eq hdecided.status) nofun
    | false =>
      exact (lawful_iff_of_changeStatus hdecided.status).trans
        (lawfulMove_release.trans (imp_iff_right rfl).symm)
  | executeVerdict caseId =>
    obtain ⟨c, hexecuted⟩ := JudicialCourts.executeVerdict_executed h
    refine Iff.trans ?_ (StorageMap.forall_get_iff hexecuted.found).symm
    exact (lawful_iff_of_changeStatus hexecuted.status).trans sentence_lawful

omit [Currency AccountId L] [ReservableCurrency AccountId L] [Fungible AccountId L] in
/-- The start of a block is lawful just if it meets the guard. -/
theorem block_lawful_iff : Lawful w.court.identity
      (JudicialCourts.onInitialize (w.now + 1) w.court).identity ↔ Guard w (.courts .block) := by
  refine forall_congr' fun who => ?_
  rw [show (JudicialCourts.onInitialize (w.now + 1) w.court).identity.status who = _ from
    JudicialCourts.onInitialize_status (w.now + 1)]
  split
  · next hreleased => exact lawfulMove_release.trans (imp_iff_right hreleased).symm
  · next hheld => exact iff_of_true (LawfulMove.refl _) fun h => absurd h hheld

/-- **Step lemma.** An accepted input is lawful just if it meets the guard. -/
theorem step_lawful_iff {x : Input AccountId} (h : step cfg x w = .ok w') :
    Lawful w.court.identity w'.court.identity ↔ Guard w x := by
  cases x with
  | identity origin c =>
    simp only [step, mapError_bind_eq_ok, pure_eq_ok] at h
    obtain ⟨i, hi, rfl⟩ := h
    exact iff_of_true (dispatch_lawful hi) trivial
  | constitution origin c =>
    simp only [step, mapError_bind_eq_ok, pure_eq_ok] at h
    obtain ⟨k, -, rfl⟩ := h
    exact iff_of_true (lawful_of_status_eq rfl) trivial
  | blackBook origin isAcademician c =>
    simp only [step, mapError_bind_eq_ok, pure_eq_ok] at h
    obtain ⟨s, hs, rfl⟩ := h
    exact iff_of_true (blackBook_lawful hs) trivial
  | courts x =>
    simp only [step, mapError_bind_eq_ok, pure_eq_ok] at h
    obtain ⟨t, ht, rfl⟩ := h
    cases x with
    | block =>
      simp only [JudicialCourts.step, ensure_bind_eq_ok, pure_eq_ok] at ht
      obtain ⟨-, rfl⟩ := ht
      exact block_lawful_iff
    | call origin c =>
      simp only [JudicialCourts.step, bind_eq_ok, pure_eq_ok] at ht
      obtain ⟨s, hs, rfl⟩ := ht
      exact courts_lawful_iff hs

end Steps

/-! ### Runs -/

section Runs

variable {cfg : Config AccountId L} {w : World AccountId L} {xs : List (Input AccountId)}
  {who : AccountId}

/-- **The standing of citizens.** The steps of a run are lawful exactly when the courts act on
citizens whom they may freeze or release. -/
theorem lawful_iff_guard (cfg : Config AccountId L) (xs : List (Input AccountId))
    (w : World AccountId L) :
    Along (step cfg) (LawfulStep cfg) xs w ↔ Along (step cfg) Guard xs w := by
  apply along_congr_of_step
  intro x w w' h
  unfold LawfulStep
  rw [exec_ok h]
  exact step_lawful_iff h

/-- What every lawful move keeps, a run whose steps are lawful keeps. -/
theorem status_throughout {P : Option CitizenStatus → Prop}
    (hP : ∀ old new, LawfulMove old new → P old → P new)
    (h : Along (step cfg) (LawfulStep cfg) xs w) (hwho : P (w.court.status who)) :
    Throughout (step cfg) (fun w => P (w.court.status who)) xs w := by
  refine throughout_of_along ?_ hwho h
  intro x w w' hold hlawful hstep
  rw [LawfulStep, exec_ok hstep] at hlawful
  exact hP _ _ (hlawful who) hold

/-- The deceased stay deceased. -/
theorem deceased_forever (h : Along (step cfg) (LawfulStep cfg) xs w)
    (hwho : w.court.status who = some .deceased) :
    Throughout (step cfg) (fun w => w.court.status who = some .deceased) xs w :=
  status_throughout (fun _ _ hmove => hmove.deceased) h hwho

/-- The exiled stay exiled or die. -/
theorem exiled_until_death (h : Along (step cfg) (LawfulStep cfg) xs w)
    (hwho : w.court.status who = some .exiled) :
    Throughout (step cfg)
      (fun w => w.court.status who = some .exiled ∨ w.court.status who = some .deceased) xs w := by
  refine status_throughout (P := fun st => st = some .exiled ∨ st = some .deceased) ?_ h
    (Or.inl hwho)
  rintro old new hmove (hexiled | hdeceased)
  · exact hmove.exiled hexiled
  · exact Or.inr (hmove.deceased hdeceased)

/-- The modules in the runtime, before any call. -/
def runtimeGenesis : World ℕ (Runtime.NativeLedger ℕ) where
  now := 1
  court := JudicialCourts.genesis (Identity.genesis default)
  blackBook := BlackBook.genesis

/-- The constants of the modules in the runtime. -/
def runtime : Config ℕ (Runtime.NativeLedger ℕ) where
  identity := Runtime.citizens
  courts := Runtime.courts
  blackBook :=
    { stateTreasury := 1
      bountyLockPeriod := 50400
      identity := Runtime.citizens }

/-- A citizen dies and is sued. -/
def suitAgainstTheDead : List (Input ℕ) :=
  [.identity .root (Runtime.registration 3 (.ofByte 1)),
    .identity (.signed 0) (.registerDeath 3 (.ofByte 2)),
    .courts (Runtime.suit 4 3)]

/-- Who is dead and sued is frozen. -/
theorem dead_frozen : ¬ ∀ xs : List (Input ℕ),
    Along (step runtime) (LawfulStep runtime) xs runtimeGenesis := by
  apply not_forall.mpr
  refine ⟨suitAgainstTheDead, fun h => ?_⟩
  have hdead : Throughout (step runtime) (fun w => w.court.status 3 = some .deceased) _ _ :=
    deceased_forever h.2.2 (by decide +kernel)
  exact absurd hdead.last (by decide +kernel)

end Runs

end Justice
