import Altan.JudicialCourts.Docket
import Altan.Runtime.Constants

/-!
# Judicial holds

A case holds its defendant while it is open and its deadline has not come, and from a guilty
verdict to its execution. The holds of several cases share the one standing of the citizen: an
opening and the end of another timer leave the hold of a pending case alone, but an acquittal or an
execution in one case lifts the holds of all, and a late guilty verdict holds nobody.

## Main definitions

* `IsPending`: a case that holds its defendant
* `Holds`: the defendants of pending cases are frozen
* `HoldGuard`: verdicts and executions that leave no hold unkept

## Main results

* `holds_iff`: the runs in which the holds last are exactly those along the guard
-/

open Bounded Dispatch Identity TransitionSystem

namespace JudicialCourts

variable {AccountId L : Type} [DecidableEq AccountId] {now now' caseId j : ℕ}
  {s s' : State AccountId L} {fs : List (Filing AccountId)} {status : CaseStatus}
  {c c' : CourtCase AccountId} {who : AccountId} {A : AccountId → Prop}

/-- A case that holds its defendant: guilty, or open and before its deadline. -/
def IsPending (now : ℕ) (fs : List (Filing AccountId)) (caseId : ℕ) (c : CourtCase AccountId) :
    Prop :=
  c.status = .guilty ∨ c.status = .open ∧ ∃ f ∈ latest caseId fs, now < f.deadline

instance (now : ℕ) (fs : List (Filing AccountId)) (caseId : ℕ) (c : CourtCase AccountId) :
    Decidable (IsPending now fs caseId c) :=
  inferInstanceAs (Decidable (_ ∨ _ ∧ _))

/-- The defendants of pending cases, of those in `A`, are frozen. -/
def Holds (A : AccountId → Prop) (now : ℕ) (s : State AccountId L) (fs : List (Filing AccountId)) :
    Prop :=
  ∀ caseId c, s.courtCases.get caseId = some c → A c.defendant → IsPending now fs caseId c →
    s.status c.defendant = some .frozen

/-- No other case than this one holds an account. -/
def NoOtherHold (now : ℕ) (s : State AccountId L) (fs : List (Filing AccountId)) (caseId : ℕ)
    (who : AccountId) : Prop :=
  ∀ j c, j ≠ caseId → s.courtCases.get j = some c → c.defendant = who → ¬ IsPending now fs j c

/-- A guilty verdict finds the defendant frozen; an acquittal and an execution find no other case
that holds the defendant. -/
def HoldGuard (A : AccountId → Prop) (t : World AccountId L × History AccountId) :
    Input AccountId → Prop
  | .call _ (.issueVerdict caseId isGuilty _ _ _) =>
    ∀ c, t.1.court.courtCases.get caseId = some c → A c.defendant →
      if isGuilty then t.1.court.status c.defendant = some .frozen
      else NoOtherHold t.1.now t.1.court t.2.filings caseId c.defendant
  | .call _ (.executeVerdict caseId) =>
    ∀ c, t.1.court.courtCases.get caseId = some c → A c.defendant →
      NoOtherHold t.1.now t.1.court t.2.filings caseId c.defendant
  | _ => True

/-! ### What each input does to the holds -/

omit [DecidableEq AccountId] in
theorem isPending_settle (hj : j ≠ caseId) :
    IsPending now (settle caseId status fs) j c ↔ IsPending now fs j c := by
  unfold IsPending
  rw [latest_settle]
  simp [hj]

omit [DecidableEq AccountId] in
theorem isPending_cons {f : Filing AccountId} (hj : f.caseId ≠ j) :
    IsPending now (f :: fs) j c ↔ IsPending now fs j c := by
  unfold IsPending
  rw [latest_cons, if_neg hj]

/-- Who is frozen stays so when somebody is frozen. -/
theorem freeze_keeps (h : s'.status = changeStatus .freeze who s.status) {a : AccountId}
    (ha : s.status a = some .frozen) : s'.status a = some .frozen := by
  rw [h]
  by_cases hwho : a = who
  · rw [hwho, changeStatus_self, ← hwho, ha]
    rfl
  · rwa [changeStatus_of_ne hwho]

theorem Holds.usurped (h : Holds A now s fs) (husurped : Usurped s s' who) : Holds A now s' fs := by
  intro caseId c hget hA hpending
  rw [husurped.cases] at hget
  exact freeze_keeps husurped.status (h caseId c hget hA hpending)

theorem Holds.opened (h : Holds A now s fs) (hopened : Opened now s s' who) :
    Holds A now s' (⟨s.nextCaseId, who, deadline now, .open⟩ :: fs) := by
  intro j c hget hA hpending
  obtain ⟨d, hdefendant, -, hcases⟩ := hopened.cases
  rw [hcases] at hget
  rcases StorageMap.get_insert_cases hget with ⟨-, rfl⟩ | ⟨hj, hget⟩
  -- the defendant of the new case is frozen
  · obtain ⟨old, hold⟩ := Option.ne_none_iff_exists'.mp hopened.registered
    rw [hopened.status, hdefendant, changeStatus_self, hold]
    rfl
  · rw [isPending_cons (Ne.symm hj)] at hpending
    exact freeze_keeps hopened.status (h j c hget hA hpending)

/-- The end of a timer leaves the holds of pending cases alone. -/
theorem Holds.block (hk : Kept now s fs) (h : Holds A now s fs) :
    Holds A (now + 1) (onInitialize (now + 1) s) fs := by
  intro caseId c hget hA hpending
  have hget : s.courtCases.get caseId = some c := hget
  have hbefore : IsPending now fs caseId c :=
    hpending.imp_right fun ⟨hopen, f, hf, hdeadline⟩ => ⟨hopen, f, hf, by omega⟩
  have hheld : ¬ IsReleased (now + 1) s c.defendant := by
    rintro ⟨tm, htm, -, hexpired, hverdict⟩
    rcases hpending with hguilty | ⟨-, f, hf, hdeadline⟩
    -- a guilty verdict is on record, or the timer is gone
    · have hne : c.status ≠ .open := by
        rw [hguilty]
        exact nofun
      rcases hk.decided caseId c hget hne with hid | hnone
      · have htrue : defendantHasVerdict s c.defendant = true :=
          defendantHasVerdict_iff.mpr ⟨caseId, hid, c, hget, rfl, hne⟩
        rw [htrue] at hverdict
        cases hverdict
      · have htm : s.timer c.defendant = some tm := htm
        rw [hnone] at htm
        cases htm
    -- the timer is not due before the deadline of any open case
    · obtain ⟨g, hg, hdefendant, -⟩ := hk.latest_of_case hget
      obtain rfl : g = f := Option.some_inj.mp (hg.symm.trans hf)
      have hcovered := hk.covered g (latest_mem hf) tm (by rwa [hdefendant])
      omega
  rw [onInitialize_status, if_neg hheld]
  exact h caseId c hget hA hbefore

/-- A guilty verdict keeps the holds just if it finds the defendant frozen. -/
theorem holds_guilty_iff (h : Holds A now s fs) (hdecided : Decided s s' caseId true c) :
    Holds A now s' (settle caseId .guilty fs) ↔
      (A c.defendant → s.status c.defendant = some .frozen) := by
  obtain ⟨c', hdefendant, hguilty, hcases⟩ := hdecided.cases
  have hstatus : s'.status = s.status := hdecided.status
  unfold Holds
  rw [hstatus, hcases]
  constructor
  · intro hs' hA
    have hfrozen := hs' caseId c' StorageMap.get_insert_self (by rwa [hdefendant]) (Or.inl hguilty)
    rwa [hdefendant] at hfrozen
  · intro hfrozen j d hget hA hpending
    rcases StorageMap.get_insert_cases hget with ⟨-, rfl⟩ | ⟨hj, hget⟩
    · rw [hdefendant] at hA ⊢
      exact hfrozen hA
    · exact h j d hget hA ((isPending_settle hj).mp hpending)

/-- What ends a case and the defendant's being frozen keeps the holds just if no other case holds
the defendant. -/
theorem holds_lifted_iff {g : CitizenStatus → CitizenStatus} (h : Holds A now s fs)
    (hcases : s'.courtCases = s.courtCases.insert caseId c')
    (hended : c'.status ≠ .guilty ∧ c'.status ≠ .open)
    (hstatus : s'.status = changeStatus g c.defendant s.status) (hg : ∀ old, g old ≠ .frozen) :
    Holds A now s' (settle caseId c'.status fs) ↔
      (A c.defendant → NoOtherHold now s fs caseId c.defendant) := by
  have hlifted : s'.status c.defendant ≠ some .frozen := by
    rw [hstatus, changeStatus_self]
    intro hfrozen
    obtain ⟨old, -, hold⟩ := Option.map_eq_some_iff.mp hfrozen
    exact hg old hold
  constructor
  · intro hs' hA j d hj hget hd hpending
    apply hlifted
    rw [← hd] at hA ⊢
    refine hs' j d ?_ hA ((isPending_settle hj).mpr hpending)
    rwa [hcases, StorageMap.get_insert_of_ne hj]
  · intro hno j d hget hA hpending
    rw [hcases] at hget
    rcases StorageMap.get_insert_cases hget with ⟨rfl, rfl⟩ | ⟨hj, hget⟩
    -- the case that is ended holds nobody
    · exact absurd hpending (not_or_intro hended.1 fun hopen => hended.2 hopen.1)
    · rw [isPending_settle hj] at hpending
      have hne : d.defendant ≠ c.defendant := fun hd => hno (hd ▸ hA) j d hj hget hd hpending
      rw [hstatus, changeStatus_of_ne hne]
      exact h j d hget hA hpending

section Runs

variable [Currency AccountId L] [Fungible AccountId L] {cfg : Config AccountId L}
  {x : Input AccountId} {t t' : World AccountId L × History AccountId}

/-- **Step lemma.** An accepted input keeps the holds just if it meets the guard. -/
theorem step_holds_iff (hk : Kept t.1.now t.1.court t.2.filings)
    (h : Holds A t.1.now t.1.court t.2.filings) (hstep : traced cfg x t = .ok t') :
    Holds A t'.1.now t'.1.court t'.2.filings ↔ HoldGuard A t x := by
  obtain ⟨hstep, hrecord⟩ := recording_eq_ok.mp hstep
  rw [hrecord]
  cases x with
  | block =>
    obtain ⟨-, hnow, hcourt⟩ := step_block hstep
    rw [hnow, hcourt]
    exact iff_of_true (h.block hk) trivial
  | call origin c =>
    obtain ⟨hnow, hcall⟩ := step_call hstep
    rw [hnow]
    cases c with
    | openCase defendant => exact iff_of_true (h.opened (openCase_opened hcall)) trivial
    | declareUsurper target => exact iff_of_true (h.usurped (declareUsurper_usurped hcall)) trivial
    | issueVerdict caseId isGuilty =>
      obtain ⟨c, hdecided⟩ := issueVerdict_decided hcall
      refine Iff.trans ?_ (StorageMap.forall_get_iff hdecided.found).symm
      cases isGuilty with
      | true => exact holds_guilty_iff h hdecided
      | false =>
        obtain ⟨c', -, hacquitted, hcases⟩ := hdecided.cases
        have hlifted := holds_lifted_iff (c := c) h hcases (by simp [hacquitted])
          hdecided.status CitizenStatus.release_ne_frozen
        rwa [hacquitted] at hlifted
    | executeVerdict caseId =>
      obtain ⟨c, hexecuted⟩ := executeVerdict_executed hcall
      refine Iff.trans ?_ (StorageMap.forall_get_iff hexecuted.found).symm
      exact holds_lifted_iff h hexecuted.cases ⟨nofun, nofun⟩ hexecuted.status
        sentence_ne_frozen

/-- **Judicial holds.** The holds of the citizens who were active at first last throughout exactly
the runs in which no verdict and no execution leaves one unkept. -/
theorem holds_iff (cfg : Config AccountId L) (xs : List (Input AccountId))
    (identity : Identity.State AccountId L) (now : ℕ) :
    Throughout (traced cfg)
        (fun t => Holds (fun who => identity.status who = some .active) t.1.now t.1.court
          t.2.filings)
        xs (opening identity now) ↔
      Along (traced cfg) (HoldGuard fun who => identity.status who = some .active)
        xs (opening identity now) :=
  throughout_iff_along
    (J := fun t : World AccountId L × History AccountId => Kept t.1.now t.1.court t.2.filings)
    (fun _ _ _ hk hstep => step_kept hk hstep)
    (fun _ _ _ hk h hstep => step_holds_iff hk h hstep)
    (Kept.init identity) (fun _ _ hget => nomatch hget)

/-- Two cases against one citizen, and an acquittal in the first. -/
def acquittalInOne : List (Input ℕ) :=
  [Runtime.suit 4 3, Runtime.suit 5 3, Runtime.verdict 0 false]

/-- An acquittal in one case lifts the hold of the other. -/
theorem hold_lost : ¬ ∀ xs : List (Input ℕ), Throughout (traced Runtime.courts)
    (fun t => Holds (fun who => Runtime.oneCitizen.status who = some .active) t.1.now t.1.court
      t.2.filings) xs (opening Runtime.oneCitizen 1) := by
  apply not_forall.mpr
  refine ⟨acquittalInOne, fun h => ?_⟩
  have hheld := h.last 1
    { plaintiff := 5
      defendant := 3
      whistleblower := none
      evidenceHash := .ofByte 0
      verdictHash := none
      penaltyAmount := 0
      status := .open
      crimeCategory := none } (by decide +kernel) (by decide +kernel) (by decide +kernel)
  exact absurd hheld (by decide +kernel)

end Runs

end JudicialCourts
