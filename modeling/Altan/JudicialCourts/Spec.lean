import Altan.Foundation.TransitionSystem
import Altan.JudicialCourts.Model

/-!
# What the courts do

Each dispatchable of the courts writes the cases, the timer of one citizen and the standing of one
citizen; the start of a block writes the timers and the standings of those it releases.

## Main definitions

* `Opened`, `Decided`, `Executed`, `Usurped`: the effects of the dispatchables
* `World`, `Input`, `step`: the courts with blocks advancing one by one

## Main results

* `openCase_opened`, `issueVerdict_decided`, `executeVerdict_executed`, `declareUsurper_usurped`:
  each dispatchable has its effect
* `onInitialize_status`: who is released at the start of a block
* `defendantHasVerdict_iff`: what the courts answer to the constitution
-/

open Bounded Dispatch Identity

namespace JudicialCourts

variable {AccountId L : Type} [DecidableEq AccountId] {cfg : Config AccountId L}
  {ctx : Context AccountId} {s s' : State AccountId L} {caseId : ℕ} {who : AccountId}

/-- The last block a defendant is held before a verdict, if the case is opened in this block. -/
def deadline (now : ℕ) : ℕ := saturatingAdd u32Max now habeasCorpusDeadlineBlocks

/-- The timer of a citizen. -/
def State.timer (s : State AccountId L) (who : AccountId) : Option Constitution.HabeasCorpusTimer :=
  s.constitution.habeasCorpusTimers.get who

/-- The standing of a citizen. -/
def State.status (s : State AccountId L) (who : AccountId) : Option CitizenStatus :=
  s.identity.status who

/-- What a sentence does to the standing of the defendant. -/
def CourtCase.sentence (c : CourtCase AccountId) : CitizenStatus → CitizenStatus :=
  match c.crimeCategory.getD .economic with
  | .hateCrimeAndFascism => .exile
  | .economic => .release
  | .usurpation => .release

omit [DecidableEq AccountId] in
/-- After a sentence nobody is frozen. -/
theorem sentence_ne_frozen {c : CourtCase AccountId} (old : CitizenStatus) :
    c.sentence old ≠ .frozen := by
  unfold CourtCase.sentence
  cases c.crimeCategory.getD .economic with
  | hateCrimeAndFascism => exact old.exile_ne_frozen
  | economic => exact old.release_ne_frozen
  | usurpation => exact old.release_ne_frozen

/-! ### The effects of the dispatchables -/

/-- A case is opened. -/
structure Opened (now : ℕ) (s s' : State AccountId L) (defendant : AccountId) : Prop where
  registered : s.status defendant ≠ none
  status : s'.status = changeStatus .freeze defendant s.status
  timer : ∃ t : Constitution.HabeasCorpusTimer, t.maxLockupBlock = deadline now ∧
    t.resolved = false ∧ s'.timer = Function.update s.timer defendant (some t)
  cases : ∃ c : CourtCase AccountId, c.defendant = defendant ∧ c.status = .open ∧
    s'.courtCases = s.courtCases.insert s.nextCaseId c
  nextCaseId : s'.nextCaseId = saturatingAdd u32Max s.nextCaseId 1

/-- A verdict is issued in an open case. -/
structure Decided (s s' : State AccountId L) (caseId : ℕ) (isGuilty : Bool)
    (c : CourtCase AccountId) : Prop where
  found : s.courtCases.get caseId = some c
  isOpen : c.status = .open
  status : s'.status = if isGuilty then s.status else changeStatus .release c.defendant s.status
  timer : (∀ t ∈ s.timer c.defendant, t.resolved = false) →
    s'.timer = Function.update s.timer c.defendant none
  cases : ∃ c' : CourtCase AccountId, c'.defendant = c.defendant ∧
    c'.status = (if isGuilty then .guilty else .acquitted) ∧
    s'.courtCases = s.courtCases.insert caseId c'
  nextCaseId : s'.nextCaseId = s.nextCaseId

/-- A guilty verdict is executed. -/
structure Executed (s s' : State AccountId L) (caseId : ℕ) (c : CourtCase AccountId) : Prop where
  found : s.courtCases.get caseId = some c
  isGuilty : c.status = .guilty
  status : s'.status = changeStatus c.sentence c.defendant s.status
  timer : s'.timer = s.timer
  cases : s'.courtCases = s.courtCases.insert caseId { c with status := .executed }
  nextCaseId : s'.nextCaseId = s.nextCaseId

/-- A citizen is declared a usurper. -/
structure Usurped (s s' : State AccountId L) (target : AccountId) : Prop where
  status : s'.status = changeStatus .freeze target s.status
  timer : s'.timer = s.timer
  cases : s'.courtCases = s.courtCases
  nextCaseId : s'.nextCaseId = s.nextCaseId

theorem timer_insert {t : Constitution.HabeasCorpusTimer}
    (h : s'.constitution.habeasCorpusTimers = s.constitution.habeasCorpusTimers.insert who t) :
    s'.timer = Function.update s.timer who (some t) := by
  ext a : 1
  unfold State.timer
  rw [h, StorageMap.get_insert, Function.update_apply]

theorem openCase_opened {defendant : AccountId} {evidenceHash : Bytes32}
    {whistleblower : Option AccountId}
    (h : openCase ctx defendant evidenceHash whistleblower s = .ok s') :
    Opened ctx.now s s' defendant := by
  simp only [openCase, ensureSigned_bind_eq_ok, ensure_bind_eq_ok, registerLockup,
    mapError_bind_eq_ok, Constitution.registerLockup] at h
  obtain ⟨plaintiff, -, hregistered, k, hk, h⟩ := h
  obtain rfl := pure_eq_ok.mp (ensureRoot_bind_eq_ok.mp hk).2
  obtain rfl := pure_eq_ok.mp h
  obtain ⟨r, hget⟩ := StorageMap.containsKey_iff.mp hregistered
  refine ⟨?_, attempt_doFreezeCitizen_status, ⟨_, ?_, ?_, timer_insert rfl⟩,
    ⟨_, ?_, ?_, rfl⟩, rfl⟩
  · simp [State.status, status_of_get hget]
  all_goals rfl

/-- Once unresolved, a timer is removed by a verdict. -/
theorem resolveHabeasCorpus_get {k : Constitution.State AccountId} {now : ℕ}
    (h : ∀ t ∈ k.habeasCorpusTimers.get who, t.resolved = false) :
    (resolveHabeasCorpus now who k).habeasCorpusTimers.get =
      Function.update k.habeasCorpusTimers.get who none := by
  ext a : 1
  unfold resolveHabeasCorpus
  cases hk : Constitution.resolveHabeasCorpus ⟨.root, now⟩ who k with
  | ok k' =>
    rw [attempt_of_ok hk]
    simp only [Constitution.resolveHabeasCorpus, ensureRoot_bind_eq_ok, required_bind_eq_ok,
      ensure_bind_eq_ok, pure_eq_ok] at hk
    obtain ⟨-, t, -, -, rfl⟩ := hk
    exact StorageMap.get_remove.trans (Function.update_apply ..).symm
  | error e =>
    -- it is refused only when there is no timer
    rw [attempt_of_error hk]
    have hnone : k.habeasCorpusTimers.get who = none := by
      cases hget : k.habeasCorpusTimers.get who with
      | none => rfl
      | some t =>
        have hok : Constitution.resolveHabeasCorpus ⟨.root, now⟩ who k =
            .ok { k with habeasCorpusTimers := k.habeasCorpusTimers.remove who } := by
          simp only [Constitution.resolveHabeasCorpus, ensureRoot_bind_eq_ok,
            required_bind_eq_ok, ensure_bind_eq_ok, pure_eq_ok]
          exact ⟨trivial, t, hget, h t hget, trivial⟩
        rw [hok] at hk
        cases hk
    rw [← hnone, Function.update_eq_self]

theorem issueVerdict_decided {isGuilty : Bool} {verdictHash : Bytes32} {penaltyAmount : ℕ}
    {crimeCategory : CrimeCategory}
    (h : issueVerdict cfg ctx caseId isGuilty verdictHash penaltyAmount crimeCategory s = .ok s') :
    ∃ c, Decided s s' caseId isGuilty c := by
  simp only [issueVerdict, ensureOrigin, ensure_bind_eq_ok, required_bind_eq_ok] at h
  obtain ⟨-, c, hget, hopen, h⟩ := h
  refine ⟨c, ?_⟩
  cases isGuilty with
  | true =>
    obtain rfl := pure_eq_ok.mp h
    refine ⟨hget, hopen, rfl, resolveHabeasCorpus_get, ⟨_, ?_, ?_, rfl⟩, rfl⟩
    all_goals rfl
  | false =>
    obtain rfl := pure_eq_ok.mp h
    refine ⟨hget, hopen, attempt_doUnfreezeCitizen_status, resolveHabeasCorpus_get,
      ⟨_, ?_, ?_, rfl⟩, rfl⟩
    all_goals rfl

section Sentences

variable [Currency AccountId L] [Fungible AccountId L]

/-- What a sentence leaves of the storage before the case is closed. -/
structure Sentenced (s s' : State AccountId L) (c : CourtCase AccountId) : Prop where
  status : s'.status = changeStatus c.sentence c.defendant s.status
  timer : s'.timer = s.timer
  cases : s'.courtCases = s.courtCases
  nextCaseId : s'.nextCaseId = s.nextCaseId

theorem executeGuillotine_sentenced {c : CourtCase AccountId}
    (hcategory : c.crimeCategory.getD .economic = .hateCrimeAndFascism)
    (h : executeGuillotine cfg ctx caseId c s = .ok s') : Sentenced s s' c := by
  obtain ⟨ledger, -, h⟩ := bind_eq_ok.mp h
  simp only [ensure_bind_eq_ok, pure_eq_ok] at h
  obtain ⟨-, rfl⟩ := h
  refine ⟨?_, rfl, rfl, rfl⟩
  unfold CourtCase.sentence
  rw [hcategory]
  exact attempt_doExile_status

theorem executeStandard_sentenced {c : CourtCase AccountId}
    (hcategory : c.crimeCategory.getD .economic ≠ .hateCrimeAndFascism)
    (h : executeStandard cfg c s = .ok s') : Sentenced s s' c := by
  obtain ⟨ledger, -, h⟩ := bind_eq_ok.mp h
  obtain rfl := pure_eq_ok.mp h
  have hsentence : c.sentence = .release := by
    unfold CourtCase.sentence
    split
    · contradiction
    · rfl
    · rfl
  refine ⟨?_, rfl, rfl, rfl⟩
  rw [hsentence]
  exact attempt_doUnfreezeCitizen_status

theorem executeVerdict_executed (h : executeVerdict cfg ctx caseId s = .ok s') :
    ∃ c, Executed s s' caseId c := by
  simp only [executeVerdict, ensureSigned_bind_eq_ok, required_bind_eq_ok,
    ensure_bind_eq_ok] at h
  obtain ⟨-, -, c, hget, hguilty, h⟩ := h
  obtain ⟨t, ht, h⟩ : ∃ t, Sentenced s t c ∧
      { t with courtCases := t.courtCases.modify caseId fun c => { c with status := .executed } } =
        s' := by
    split at h
    · next hcategory =>
      obtain ⟨t, ht, h⟩ := bind_eq_ok.mp h
      exact ⟨t, executeGuillotine_sentenced hcategory ht, pure_eq_ok.mp h⟩
    · next hcategory =>
      obtain ⟨t, ht, h⟩ := bind_eq_ok.mp h
      exact ⟨t, executeStandard_sentenced (by simp [hcategory]) ht, pure_eq_ok.mp h⟩
    · next hcategory =>
      obtain ⟨t, ht, h⟩ := bind_eq_ok.mp h
      exact ⟨t, executeStandard_sentenced (by simp [hcategory]) ht, pure_eq_ok.mp h⟩
  obtain rfl := h
  refine ⟨c, hget, hguilty, ht.status, ht.timer, ?_, ht.nextCaseId⟩
  change t.courtCases.modify caseId _ = _
  rw [ht.cases, StorageMap.modify_of_get hget]

theorem declareUsurper_usurped {target : AccountId}
    (h : declareUsurper cfg ctx target s = .ok s') : Usurped s s' target := by
  simp only [declareUsurper, ensureOrigin, ensure_bind_eq_ok, pure_eq_ok] at h
  obtain ⟨-, rfl⟩ := h
  exact ⟨attempt_doDemoteToRegular_status.trans attempt_doFreezeCitizen_status, rfl, rfl, rfl⟩

end Sentences

/-! ### The start of a block -/

theorem defendantHasVerdict_iff : defendantHasVerdict s who = true ↔
    ∃ caseId < s.nextCaseId, ∃ c, s.courtCases.get caseId = some c ∧ IsDecidedCaseOf who c := by
  simp [defendantHasVerdict, List.any_eq_true, Option.any_eq_true]

/-- A citizen is released at the start of block `n`. -/
def IsReleased (n : ℕ) (s : State AccountId L) (who : AccountId) : Prop :=
  Constitution.IsExpired n (defendantHasVerdict s) s.constitution who

instance (n : ℕ) (s : State AccountId L) : DecidablePred (IsReleased n s) := fun who =>
  inferInstanceAs (Decidable (Constitution.IsExpired n (defendantHasVerdict s) s.constitution who))

theorem foldl_release_status (i : Identity.State AccountId L) (m : Multiset AccountId) :
    (m.foldl (fun (i : Identity.State AccountId L) a => attempt (doUnfreezeCitizen a) i) i).status
        who =
      if who ∈ m then (i.status who).map .release else i.status who := by
  induction m using Multiset.induction_on generalizing i with
  | empty => rfl
  | cons a m ih =>
    rw [Multiset.foldl_cons, ih, attempt_doUnfreezeCitizen_status]
    by_cases ha : who = a
    · rw [ha, changeStatus_self, if_pos (Multiset.mem_cons_self a m), Option.map_map]
      split
      -- who is released twice is released
      · cases i.status a with
        | none => rfl
        | some old => cases old <;> rfl
      · rfl
    · rw [changeStatus_of_ne ha]
      exact if_congr (by simp [ha]) rfl rfl

/-- Just those whose timer has run out without a verdict are released. -/
theorem onInitialize_status (n : ℕ) : (onInitialize n s).status who =
    if IsReleased n s who then (s.status who).map .release else s.status who := by
  calc (onInitialize n s).status who = _ :=
        congrArg (fun i : Identity.State AccountId L => i.status who) Constitution.onInitialize_snd
    _ = _ := foldl_release_status _ _
    _ = _ := if_congr ((iff_of_eq Finset.mem_val).trans Constitution.mem_expired) rfl rfl

theorem onInitialize_timer (n : ℕ) : (onInitialize n s).timer who =
    if IsReleased n s who then none else s.timer who :=
  Constitution.onInitialize_get

/-! ### The courts and the passage of blocks -/

/-- The current block and the storage. -/
structure World (AccountId L : Type) where
  now : ℕ
  court : State AccountId L

/-- What happens: a call with its origin, or the start of the next block. -/
inductive Input (AccountId : Type)
  | call (origin : Origin AccountId) (c : Call AccountId)
  | block

/-- The state after one input. Block numbers have 32 bits. -/
def step [Currency AccountId L] [Fungible AccountId L] (cfg : Config AccountId L) :
    Input AccountId → World AccountId L → Result (World AccountId L)
  | .call origin c, w => do
    let court ← dispatch cfg ⟨origin, w.now⟩ c w.court
    return { w with court := court }
  | .block, w => do
    ensure (w.now < u32Max) .panic
    return { w with
      now := w.now + 1
      court := onInitialize (w.now + 1) w.court }

section Step

variable [Currency AccountId L] [Fungible AccountId L] {w w' : World AccountId L}

theorem step_call {origin : Origin AccountId} {c : Call AccountId}
    (h : step cfg (.call origin c) w = .ok w') :
    w'.now = w.now ∧ dispatch cfg ⟨origin, w.now⟩ c w.court = .ok w'.court := by
  simp only [step, bind_eq_ok, pure_eq_ok] at h
  obtain ⟨court, hcourt, rfl⟩ := h
  exact ⟨rfl, hcourt⟩

theorem step_block (h : step cfg .block w = .ok w') :
    w.now < u32Max ∧ w'.now = w.now + 1 ∧ w'.court = onInitialize (w.now + 1) w.court := by
  simp only [step, ensure_bind_eq_ok, pure_eq_ok] at h
  obtain ⟨hnow, rfl⟩ := h
  exact ⟨hnow, rfl, rfl⟩

end Step

end JudicialCourts
