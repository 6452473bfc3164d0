import Altan.JudicialCourts.Sentencing
import Altan.Runtime.Constants

/-!
# What is left of an acquittal

A case freezes its defendant whatever the standing was before, and an acquittal or the end of the
deadline makes the defendant active. So the record is what it was if the citizen was active, and of
all others it is not: the deceased and the exiled are active after an acquittal. Whoever has had a
verdict before is not released at the deadline, and stays frozen.

## Main definitions

* `Undisturbed`: nothing has happened to a citizen but a case that was opened

## Main results

* `openCase_record`: an opened case freezes the record
* `onInitialize_record`: who is released at the start of a block, record and all
* `status_quo_iff`: when a citizen is left as before
-/

open Bounded Dispatch Identity TransitionSystem

namespace JudicialCourts

variable {AccountId L : Type} [DecidableEq AccountId] {cfg : Config AccountId L}
  {ctx : Context AccountId} {s s' s₁ t t' : State AccountId L} {caseId : ℕ} {who : AccountId}
  {r : CitizenRecord}

/-! ### Records -/

section Records

/-- The record of a citizen. -/
def State.record (s : State AccountId L) (who : AccountId) : Option CitizenRecord :=
  s.identity.citizens.get who

/-- What other modules do to freeze a citizen does not fail for who is registered. -/
theorem attempt_doFreezeCitizen_get {i : Identity.State AccountId L}
    (h : i.citizens.get who = some r) :
    (attempt (doFreezeCitizen who) i).citizens.get who = some { r with status := .frozen } := by
  have hok : doFreezeCitizen who i =
      .ok { i with citizens := i.citizens.insert who { r with status := .frozen } } :=
    bridged_bind_eq_ok.mpr ⟨r, h, rfl⟩
  rw [attempt_of_ok hok]
  exact StorageMap.get_insert_self

/-- **An opened case freezes the record** of the defendant. -/
theorem openCase_record {evidenceHash : Bytes32} {whistleblower : Option AccountId}
    (hget : s.record who = some r)
    (h : openCase ctx who evidenceHash whistleblower s = .ok s') :
    s'.record who = some { r with status := .frozen } := by
  simp only [openCase, bind_eq_ok, pure_eq_ok] at h
  obtain ⟨plaintiff, -, -, -, k, -, rfl⟩ := h
  exact attempt_doFreezeCitizen_get hget

/-- Who is released is not frozen any more. -/
theorem released_frozen (r : CitizenRecord) :
    CitizenRecord.released { r with status := .frozen } = { r with status := .active } :=
  if_neg nofun

theorem released_idem (r : CitizenRecord) : r.released.released = r.released := by
  by_cases hdeceased : r.status = .deceased
  · have hfixed : r.released = r := if_pos hdeceased
    rw [hfixed, hfixed]
  · have hactive : r.released = { r with status := .active } := if_neg hdeceased
    rw [hactive]
    exact if_neg nofun

theorem foldl_release_get (i : Identity.State AccountId L) (m : Multiset AccountId) :
    (m.foldl (fun (i : Identity.State AccountId L) a => attempt (doUnfreezeCitizen a) i)
        i).citizens.get who =
      if who ∈ m then (i.citizens.get who).map CitizenRecord.released
      else i.citizens.get who := by
  induction m using Multiset.induction_on generalizing i with
  | empty => rfl
  | cons a m ih =>
    rw [Multiset.foldl_cons, ih, attempt_doUnfreezeCitizen]
    dsimp only
    rw [StorageMap.get_modify]
    by_cases ha : who = a
    · subst ha
      rw [if_pos rfl, if_pos (Multiset.mem_cons_self who m), Option.map_map]
      split
      -- who is released twice is released
      · exact congrArg (Option.map · _) (funext released_idem)
      · rfl
    · rw [if_neg ha]
      exact if_congr (by simp [ha]) rfl rfl

/-- **Just those whose timer has run out without a verdict are released**, record and all. -/
theorem onInitialize_record (n : ℕ) : (onInitialize n s).record who =
    if IsReleased n s who then (s.record who).map CitizenRecord.released else s.record who := by
  calc (onInitialize n s).record who = _ :=
        congrArg (fun i : Identity.State AccountId L => i.citizens.get who)
          Constitution.onInitialize_snd
    _ = _ := foldl_release_get _ _
    _ = _ := if_congr ((iff_of_eq Finset.mem_val).trans Constitution.mem_expired) rfl rfl

end Records

/-! ### From the opening of a case to its end -/

/-- Between two states nothing has happened to a citizen and to a case: the record, the timer and
the case are the same. -/
structure Undisturbed (who : AccountId) (caseId : ℕ) (s t : State AccountId L) : Prop where
  record : t.record who = s.record who
  timer : t.timer who = s.timer who
  docket : t.courtCases.get caseId = s.courtCases.get caseId

section StatusQuo

variable {evidenceHash verdictHash : Bytes32} {whistleblower : Option AccountId}
  {penaltyAmount : ℕ} {category : CrimeCategory} {ctx' : Context AccountId}

omit [DecidableEq AccountId] in
/-- A record in another standing is the same just when that was its standing. -/
theorem withStatus_eq_iff {status : CitizenStatus} :
    some { r with status := status } = some r ↔ r.status = status := by
  rw [Option.some_inj]
  constructor
  · intro h
    exact (congrArg CitizenRecord.status h).symm
  · rintro rfl
    rfl

/-- An acquittal makes the defendant active. -/
theorem issueVerdict_acquitted {c : CourtCase AccountId}
    (hfrozen : t.record c.defendant = some { r with status := .frozen })
    (hget : t.courtCases.get caseId = some c)
    (h : issueVerdict cfg ctx' caseId false verdictHash penaltyAmount category t = .ok t') :
    t'.record c.defendant = some { r with status := .active } := by
  simp only [issueVerdict, ensureOrigin, ensure_bind_eq_ok, required_bind_eq_ok] at h
  obtain ⟨-, c', hget', -, h⟩ := h
  obtain rfl : c = c' := Option.some.inj (hget.symm.trans hget')
  obtain rfl := pure_eq_ok.mp h
  unfold State.record at hfrozen ⊢
  dsimp only
  rw [attempt_doUnfreezeCitizen]
  dsimp only
  rw [StorageMap.get_modify, if_pos rfl, hfrozen, Option.map_some, released_frozen]

/-- **When a citizen is left as before.** After a case was opened, with nothing else happening to
the citizen, an acquittal leaves the record as it was before just if the citizen was active; and so
does the block of the deadline just if the citizen was active and has had no verdict, and is
released then, or was frozen and has had one. -/
theorem status_quo_iff (cfg : Config AccountId L) (ctx ctx' : Context AccountId) (who : AccountId)
    (evidenceHash verdictHash : Bytes32) (whistleblower : Option AccountId) (penaltyAmount : ℕ)
    (category : CrimeCategory) (r : CitizenRecord) (s s₁ t : State AccountId L)
    (hget : s.record who = some r)
    (hopen : openCase ctx who evidenceHash whistleblower s = .ok s₁)
    (hrest : Undisturbed who s.nextCaseId s₁ t) :
    (∀ t', issueVerdict cfg ctx' s.nextCaseId false verdictHash penaltyAmount category t = .ok t' →
      (t'.record who = some r ↔ r.status = .active)) ∧
    ((onInitialize (deadline ctx.now) t).record who = some r ↔
      r.status = if defendantHasVerdict t who then .frozen else .active) := by
  have hfrozen : t.record who = some { r with status := .frozen } :=
    hrest.record.trans (openCase_record hget hopen)
  have hopened := openCase_opened hopen
  constructor
  · intro t' hverdict
    obtain ⟨c, rfl, -, hcases⟩ := hopened.cases
    have hcase : t.courtCases.get s.nextCaseId = some c := by
      rw [hrest.docket, hcases]
      exact StorageMap.get_insert_self
    rw [issueVerdict_acquitted hfrozen hcase hverdict]
    exact withStatus_eq_iff
  · obtain ⟨timer, hdeadline, hunresolved, htimer⟩ := hopened.timer
    have hset : t.timer who = some timer := by
      rw [hrest.timer, htimer, Function.update_self]
    have hreleased : IsReleased (deadline ctx.now) t who ↔ defendantHasVerdict t who = false := by
      constructor
      · rintro ⟨-, -, -, -, hverdict⟩
        exact hverdict
      · exact fun hverdict => ⟨timer, hset, hunresolved, hdeadline.le, hverdict⟩
    rw [onInitialize_record, hfrozen, if_congr hreleased rfl rfl]
    cases defendantHasVerdict t who with
    | false =>
      rw [if_pos rfl, Option.map_some, released_frozen]
      exact withStatus_eq_iff
    | true => exact withStatus_eq_iff

end StatusQuo

/-- The courts where one citizen is registered. -/
def livingCitizen : State ℕ (Runtime.NativeLedger ℕ) := genesis Runtime.oneCitizen

/-- The courts where the one citizen has died. -/
def deceasedCitizen : State ℕ (Runtime.NativeLedger ℕ) :=
  genesis (attempt (Identity.dispatch Runtime.citizens ⟨.root, 1⟩ (.registerDeath 3 (.ofByte 9)))
    Runtime.oneCitizen)

/-- A case against the citizen. -/
def sue : State ℕ (Runtime.NativeLedger ℕ) → Result (State ℕ (Runtime.NativeLedger ℕ)) :=
  openCase ⟨.signed 4, 1⟩ 3 (.ofByte 0) none

/-- The acquittal in it. -/
def acquit : State ℕ (Runtime.NativeLedger ℕ) → Result (State ℕ (Runtime.NativeLedger ℕ)) :=
  issueVerdict Runtime.courts ⟨.root, 1⟩ 0 false (.ofByte 0) 0 .economic

/-- An active citizen is acquitted at once, and is as before. -/
theorem status_quo_active : ∃ r s₁ t', livingCitizen.record 3 = some r ∧
    sue livingCitizen = .ok s₁ ∧ acquit s₁ = .ok t' ∧ t'.record 3 = some r := by
  obtain ⟨r, hr, hactive⟩ : ∃ r, livingCitizen.record 3 = some r ∧ r.status = .active :=
    Option.map_eq_some_iff.mp
      (by decide +kernel : (livingCitizen.record 3).map CitizenRecord.status = some .active)
  obtain ⟨s₁, hs₁⟩ := exists_ok (by decide +kernel : (sue livingCitizen).isOk = true)
  obtain ⟨t', ht'⟩ := exists_ok
    (by decide +kernel : (acquit (attempt sue livingCitizen)).isOk = true)
  rw [attempt_of_ok hs₁] at ht'
  obtain ⟨hacquittal, -⟩ := status_quo_iff Runtime.courts ⟨.signed 4, 1⟩ ⟨.root, 1⟩ 3
    (.ofByte 0) (.ofByte 0) none 0 .economic r livingCitizen s₁ s₁ hr hs₁ ⟨rfl, rfl, rfl⟩
  exact ⟨r, s₁, t', hr, hs₁, ht', (hacquittal t' ht').mpr hactive⟩

/-- **An acquittal brings back the dead**: a case against a deceased citizen and its end leave the
citizen active. -/
theorem acquittal_revives : deceasedCitizen.status 3 = some .deceased ∧
    (sue deceasedCitizen).isOk = true ∧ (acquit (attempt sue deceasedCitizen)).isOk = true ∧
    (attempt acquit (attempt sue deceasedCitizen)).status 3 = some .active := by
  decide +kernel

end JudicialCourts
