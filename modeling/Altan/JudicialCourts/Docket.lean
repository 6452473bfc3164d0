import Altan.JudicialCourts.Spec

/-!
# The history of the cases

The storage keeps one timer for each citizen and no record of when a case was opened. A history
beside it keeps every case that was opened, with the end of its hold and its stage, and who is
frozen on other grounds than a case. A run relates the two: the cases in the storage are the latest
under their ids, and a timer is that of the latest open case against the citizen.

## Main definitions

* `Filing`, `History`: the cases that were opened, and who is held otherwise
* `record`, `opening`: the history along a run, and the start of one
* `Kept`: how the history and the storage are related

## Main results

* `step_kept`: every accepted input keeps the relation
-/

open Bounded Dispatch Identity TransitionSystem

namespace JudicialCourts

/-- A case that was opened. -/
structure Filing (AccountId : Type) where
  caseId : ℕ
  defendant : AccountId
  deadline : ℕ
  status : CaseStatus
  deriving DecidableEq

/-- The cases that were opened, the latest first, and who is held on other grounds. -/
structure History (AccountId : Type) where
  filings : List (Filing AccountId)
  heldOtherwise : Finset AccountId

variable {AccountId L : Type}

/-- The latest case under an id. -/
def latest (caseId : ℕ) (fs : List (Filing AccountId)) : Option (Filing AccountId) :=
  fs.find? fun f => f.caseId = caseId

/-- The latest case under an id comes to another stage. -/
def settle (caseId : ℕ) (status : CaseStatus) : List (Filing AccountId) → List (Filing AccountId)
  | [] => []
  | f :: fs =>
    if f.caseId = caseId then { f with status := status } :: fs else f :: settle caseId status fs

section Settle

variable {caseId j : ℕ} {status : CaseStatus} {f : Filing AccountId} {fs : List (Filing AccountId)}

theorem latest_cons : latest j (f :: fs) = if f.caseId = j then some f else latest j fs := by
  unfold latest
  rw [List.find?_cons]
  split
  · next h => rw [if_pos (of_decide_eq_true h)]
  · next h => rw [if_neg (of_decide_eq_false h)]

theorem latest_mem (h : latest j fs = some f) : f ∈ fs := List.mem_of_find?_eq_some h

theorem latest_settle : latest j (settle caseId status fs) =
    (latest j fs).map fun f => if j = caseId then { f with status := status } else f := by
  induction fs with
  | nil => rfl
  | cons f fs ih =>
    unfold settle
    split
    · next hf =>
      rw [latest_cons, latest_cons]
      by_cases hj : f.caseId = j
      · simp [hj, hj.symm.trans hf]
      · have hne : j ≠ caseId := fun h => hj (hf.trans h.symm)
        simp [hj, hne]
    · next hf =>
      rw [latest_cons, latest_cons]
      by_cases hj : f.caseId = j
      · have hne : j ≠ caseId := fun h => hf (hj.trans h)
        simp [hj, hne]
      · simp [hj, ih]

/-- A settled case is one that was there, or the latest under the id. -/
theorem mem_settle (h : f ∈ settle caseId status fs) :
    f ∈ fs ∨ ∃ g, latest caseId fs = some g ∧ f = { g with status := status } := by
  induction fs with
  | nil => exact Or.inl h
  | cons g fs ih =>
    unfold settle at h
    rw [latest_cons]
    split at h
    · next hg =>
      rw [if_pos hg]
      rcases List.mem_cons.mp h with rfl | h
      · exact Or.inr ⟨g, rfl, rfl⟩
      · exact Or.inl (List.mem_cons_of_mem g h)
    · next hg =>
      rw [if_neg hg]
      rcases List.mem_cons.mp h with rfl | h
      · exact Or.inl List.mem_cons_self
      · exact (ih h).imp_left (List.mem_cons_of_mem g)

/-- All cases but the latest under the id stay. -/
theorem mem_settle_of_mem (h : f ∈ fs) :
    f ∈ settle caseId status fs ∨ latest caseId fs = some f := by
  induction fs with
  | nil => cases h
  | cons g fs ih =>
    unfold settle
    rw [latest_cons]
    split
    · next hg =>
      rcases List.mem_cons.mp h with rfl | h
      · exact Or.inr rfl
      · exact Or.inl (List.mem_cons_of_mem _ h)
    · next hg =>
      rcases List.mem_cons.mp h with rfl | h
      · exact Or.inl List.mem_cons_self
      · exact (ih h).imp_left (List.mem_cons_of_mem g)

end Settle

/-! ### The history along a run -/

variable [DecidableEq AccountId]

/-- What an accepted input adds to the history. Who is not frozen any more is not held. -/
def record (w : World AccountId L) (x : Input AccountId) (η : History AccountId) :
    History AccountId :=
  let held := η.heldOtherwise.filter fun who => w.court.status who = some .frozen
  match x with
  | .call _ (.openCase defendant _ _) =>
    { filings :=
        { caseId := w.court.nextCaseId
          defendant := defendant
          deadline := deadline w.now
          status := .open } :: η.filings
      heldOtherwise := held }
  | .call _ (.issueVerdict caseId isGuilty _ _ _) =>
    { filings := settle caseId (if isGuilty then .guilty else .acquitted) η.filings
      heldOtherwise := held }
  | .call _ (.executeVerdict caseId) =>
    { filings := settle caseId .executed η.filings
      heldOtherwise := held }
  | .call _ (.declareUsurper target) =>
    { filings := η.filings
      heldOtherwise := insert target held }
  | .block =>
    { filings := η.filings
      heldOtherwise := held }

/-- The courts before any case, among given citizens; who is frozen is held otherwise. -/
def opening (identity : Identity.State AccountId L) (now : ℕ) :
    World AccountId L × History AccountId :=
  ({ now := now
     court := genesis identity },
   { filings := []
     heldOtherwise := identity.citizens.keys.filter fun who => identity.status who = some .frozen })

/-- The courts with the history. -/
def traced [Currency AccountId L] [Fungible AccountId L] (cfg : Config AccountId L) :=
  recording record (step cfg)

/-- How the history and the storage are related at a block. -/
structure Kept (now : ℕ) (s : State AccountId L) (fs : List (Filing AccountId)) : Prop where
  linked : ∀ caseId, (s.courtCases.get caseId).map (fun c => (c.defendant, c.status)) =
    (latest caseId fs).map fun f => (f.defendant, f.status)
  unresolved : ∀ who, ∀ t ∈ s.timer who, t.resolved = false
  timed : ∀ who, ∀ t ∈ s.timer who, ∃ f ∈ fs,
    f.defendant = who ∧ f.status = .open ∧ f.deadline = t.maxLockupBlock
  covered : ∀ f ∈ fs, ∀ t ∈ s.timer f.defendant, f.deadline ≤ t.maxLockupBlock
  upcoming : ∀ f ∈ fs, f.deadline ≤ deadline now
  bounded : s.nextCaseId ≤ u32Max
  numbered : ∀ caseId c, s.courtCases.get caseId = some c →
    caseId < s.nextCaseId ∨ caseId = s.nextCaseId ∧ s.nextCaseId = u32Max
  decided : ∀ caseId c, s.courtCases.get caseId = some c → c.status ≠ .open →
    caseId < s.nextCaseId ∨ s.timer c.defendant = none

namespace Kept

variable {now now' caseId : ℕ} {s s' : State AccountId L} {fs : List (Filing AccountId)}
  {status : CaseStatus} {c c' : CourtCase AccountId} {defendant : AccountId}

theorem init (identity : Identity.State AccountId L) : Kept now (genesis identity) [] where
  linked _ := rfl
  unresolved _ _ ht := nomatch ht
  timed _ _ ht := nomatch ht
  covered _ hf := nomatch hf
  upcoming _ hf := nomatch hf
  bounded := Nat.zero_le _
  numbered _ _ hget := nomatch hget
  decided _ _ hget := nomatch hget

/-- A case in the storage is the latest under its id. -/
theorem latest_of_case (h : Kept now s fs) (hget : s.courtCases.get caseId = some c) :
    ∃ f, latest caseId fs = some f ∧ f.defendant = c.defendant ∧ f.status = c.status := by
  have hlinked := h.linked caseId
  rw [hget, Option.map_some, eq_comm, Option.map_eq_some_iff] at hlinked
  obtain ⟨f, hf, heq⟩ := hlinked
  exact ⟨f, hf, (Prod.mk.inj heq).1, (Prod.mk.inj heq).2⟩

/-- Timers may be removed and time may pass. -/
theorem mono (h : Kept now s fs) (hnow : deadline now ≤ deadline now')
    (htimer : ∀ who, ∀ t ∈ s'.timer who, t ∈ s.timer who) (hcases : s'.courtCases = s.courtCases)
    (hid : s'.nextCaseId = s.nextCaseId) : Kept now' s' fs where
  linked := by
    rw [hcases]
    exact h.linked
  unresolved who t ht := h.unresolved who t (htimer who t ht)
  timed who t ht := h.timed who t (htimer who t ht)
  covered f hf t ht := h.covered f hf t (htimer _ t ht)
  upcoming f hf := (h.upcoming f hf).trans hnow
  bounded := hid ▸ h.bounded
  numbered := by
    rw [hcases, hid]
    exact h.numbered
  decided caseId c hget hc := by
    rw [hcases] at hget
    rw [hid]
    refine (h.decided caseId c hget hc).imp_right fun hnone => ?_
    rw [Option.eq_none_iff_forall_not_mem] at hnone ⊢
    exact fun t ht => hnone t (htimer _ t ht)

theorem opened (h : Kept now s fs) (hopened : Opened now s s' defendant) :
    Kept now s' (⟨s.nextCaseId, defendant, deadline now, .open⟩ :: fs) := by
  obtain ⟨tm, hmax, hunresolved, htimer⟩ := hopened.timer
  obtain ⟨c, hdefendant, hopen, hcases⟩ := hopened.cases
  -- the timer of the defendant is the new one, the others are as before
  have hself : s'.timer defendant = some tm := by rw [htimer, Function.update_self]
  have hother : ∀ who, who ≠ defendant → s'.timer who = s.timer who := fun who hne => by
    rw [htimer, Function.update_of_ne hne]
  have hid : s'.nextCaseId = min (s.nextCaseId + 1) u32Max := hopened.nextCaseId
  have hbounded := h.bounded
  constructor
  case linked =>
    intro j
    rw [hcases, StorageMap.get_insert, latest_cons]
    by_cases hj : j = s.nextCaseId
    · rw [if_pos hj, if_pos hj.symm, Option.map_some, Option.map_some, hdefendant, hopen]
    · rw [if_neg hj, if_neg (Ne.symm hj)]
      exact h.linked j
  case unresolved =>
    intro who t ht
    by_cases hwho : who = defendant
    · rw [hwho, hself] at ht
      rwa [← Option.some_inj.mp ht]
    · rw [hother who hwho] at ht
      exact h.unresolved who t ht
  case timed =>
    intro who t ht
    by_cases hwho : who = defendant
    · rw [hwho, hself] at ht
      rw [← Option.some_inj.mp ht]
      exact ⟨_, List.mem_cons_self, hwho.symm, rfl, hmax.symm⟩
    · rw [hother who hwho] at ht
      obtain ⟨f, hf, hrest⟩ := h.timed who t ht
      exact ⟨f, List.mem_cons_of_mem _ hf, hrest⟩
  case covered =>
    intro f hf t ht
    rcases List.mem_cons.mp hf with rfl | hf
    · rw [hself] at ht
      rw [← Option.some_inj.mp ht, hmax]
    · by_cases hwho : f.defendant = defendant
      · rw [hwho, hself] at ht
        rw [← Option.some_inj.mp ht, hmax]
        exact h.upcoming f hf
      · rw [hother _ hwho] at ht
        exact h.covered f hf t ht
  case upcoming =>
    intro f hf
    rcases List.mem_cons.mp hf with rfl | hf
    · exact Nat.le_refl _
    · exact h.upcoming f hf
  case bounded =>
    rw [hid]
    exact Nat.min_le_right _ _
  case numbered =>
    intro j c' hget
    rw [hcases] at hget
    rcases StorageMap.get_insert_cases hget with ⟨rfl, -⟩ | ⟨-, hget⟩
    · omega
    · have hj := h.numbered j c' hget
      omega
  case decided =>
    intro j c' hget hdecided
    rw [hcases] at hget
    rcases StorageMap.get_insert_cases hget with ⟨-, rfl⟩ | ⟨hne, hget⟩
    -- the new case is open
    · exact absurd hopen hdecided
    · have hj := h.numbered j c' hget
      left
      omega

/-- A case comes to another stage. If it was open, the timer of the defendant is removed. -/
theorem settled (h : Kept now s fs) (hfound : s.courtCases.get caseId = some c)
    (hcases : s'.courtCases = s.courtCases.insert caseId c')
    (hdefendant : c'.defendant = c.defendant)
    (htimer : ∀ who, ∀ t ∈ s'.timer who, t ∈ s.timer who)
    (hclosed : c.status ≠ .open ∨ s'.timer c.defendant = none)
    (hid : s'.nextCaseId = s.nextCaseId) : Kept now s' (settle caseId c'.status fs) := by
  obtain ⟨g, hg, hgdefendant, hgstatus⟩ := h.latest_of_case hfound
  constructor
  case linked =>
    intro j
    rw [hcases, StorageMap.get_insert, latest_settle]
    by_cases hj : j = caseId
    · rw [if_pos hj, hj, hg]
      simp [hdefendant, hgdefendant]
    · rw [if_neg hj, h.linked j, Option.map_map]
      simp [hj, Function.comp_def]
  case unresolved => exact fun who t ht => h.unresolved who t (htimer who t ht)
  case timed =>
    intro who t ht
    obtain ⟨f, hf, rfl, hopen, hdeadline⟩ := h.timed who t (htimer who t ht)
    rcases mem_settle_of_mem hf with hf | hf
    · exact ⟨f, hf, rfl, hopen, hdeadline⟩
    -- the case that is settled was not the open one that the timer is for
    · obtain rfl : f = g := Option.some_inj.mp (hf.symm.trans hg)
      rcases hclosed with hne | hnone
      · exact absurd (hgstatus.symm.trans hopen) hne
      · rw [hgdefendant, hnone] at ht
        cases ht
  case covered =>
    intro f hf t ht
    rcases mem_settle hf with hf | ⟨f', hf', rfl⟩
    · exact h.covered f hf t (htimer _ t ht)
    · exact h.covered f' (latest_mem hf') t (htimer _ t ht)
  case upcoming =>
    intro f hf
    rcases mem_settle hf with hf | ⟨f', hf', rfl⟩
    · exact h.upcoming f hf
    · exact h.upcoming f' (latest_mem hf')
  case bounded => exact hid ▸ h.bounded
  case numbered =>
    intro j d hget
    rw [hid]
    rw [hcases] at hget
    rcases StorageMap.get_insert_cases hget with ⟨rfl, -⟩ | ⟨-, hget⟩
    · exact h.numbered j c hfound
    · exact h.numbered j d hget
  case decided =>
    intro j d hget hd
    rw [hid]
    have hnone : ∀ who, s.timer who = none → s'.timer who = none := fun who hnone => by
      rw [Option.eq_none_iff_forall_not_mem] at hnone ⊢
      exact fun t ht => hnone t (htimer who t ht)
    rw [hcases] at hget
    rcases StorageMap.get_insert_cases hget with ⟨rfl, rfl⟩ | ⟨-, hget⟩
    · rw [hdefendant]
      rcases hclosed with hne | hgone
      · exact (h.decided j c hfound hne).imp_right (hnone _)
      · exact Or.inr hgone
    · exact (h.decided j d hget hd).imp_right (hnone _)

end Kept

section Runs

variable [Currency AccountId L] [Fungible AccountId L] {cfg : Config AccountId L}
  {x : Input AccountId} {t t' : World AccountId L × History AccountId}

theorem deadline_mono {now now' : ℕ} (h : now ≤ now') : deadline now ≤ deadline now' := by
  unfold deadline saturatingAdd
  omega

/-- **Step lemma.** Every accepted input keeps the history and the storage related. -/
theorem step_kept (h : Kept t.1.now t.1.court t.2.filings) (hstep : traced cfg x t = .ok t') :
    Kept t'.1.now t'.1.court t'.2.filings := by
  obtain ⟨hstep, hrecord⟩ := recording_eq_ok.mp hstep
  rw [hrecord]
  cases x with
  | block =>
    obtain ⟨-, hnow, hcourt⟩ := step_block hstep
    -- a block frees whose timers end, and touches no case
    refine h.mono (deadline_mono ?_) ?_ ?_ ?_
    · rw [hnow]
      exact Nat.le_succ _
    · intro who tm htm
      rw [hcourt, onInitialize_timer] at htm
      split at htm
      · cases htm
      · exact htm
    · rw [hcourt]
      rfl
    · rw [hcourt]
      rfl
  | call origin c =>
    obtain ⟨hnow, hcall⟩ := step_call hstep
    rw [hnow]
    cases c with
    | openCase defendant => exact h.opened (openCase_opened hcall)
    | issueVerdict caseId isGuilty =>
      obtain ⟨c, hdecided⟩ := issueVerdict_decided hcall
      obtain ⟨c', hdefendant, hstatus, hcases⟩ := hdecided.cases
      have htimer := hdecided.timer (h.unresolved c.defendant)
      -- the timer of the defendant is gone with the verdict
      have hsettled := h.settled hdecided.found hcases hdefendant ?_ (Or.inr ?_) hdecided.nextCaseId
      · rwa [hstatus] at hsettled
      · intro who tm htm
        rw [htimer, Function.update_apply] at htm
        split at htm
        · cases htm
        · exact htm
      · rw [htimer, Function.update_self]
    | executeVerdict caseId =>
      obtain ⟨c, hexecuted⟩ := executeVerdict_executed hcall
      refine h.settled hexecuted.found hexecuted.cases rfl ?_ (Or.inl ?_) hexecuted.nextCaseId
      · rw [hexecuted.timer]
        exact fun _ _ htm => htm
      · rw [hexecuted.isGuilty]
        exact nofun
    | declareUsurper target =>
      have husurped := declareUsurper_usurped hcall
      refine h.mono (Nat.le_refl _) ?_ husurped.cases husurped.nextCaseId
      rw [husurped.timer]
      exact fun _ _ htm => htm

end Runs

end JudicialCourts
