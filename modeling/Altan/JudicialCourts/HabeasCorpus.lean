import Altan.Foundation.Accounting
import Altan.JudicialCourts.Docket
import Altan.Runtime.Constants

/-!
# Habeas corpus

A defendant is to be free when the deadline of an undecided case comes, unless held on another
ground: a later open case, a guilty verdict, or a freeze that no case made. The constitution has one
timer for a citizen, which a verdict in any case removes, and releases nobody who has ever had a
verdict. So the release fails exactly when another case of the citizen is decided.

## Main definitions

* `IsGround`: a ground on which a citizen is held at a block
* `Freed`: no case holds its defendant past its deadline
* `Unhindered`: at a deadline the timer still stands and no case of the citizen is decided

## Main results

* `habeas_corpus_iff`: the runs with habeas corpus are exactly those along the guard
-/

open Bounded Dispatch Identity TransitionSystem

namespace JudicialCourts

variable {AccountId L : Type} [DecidableEq AccountId]

/-- A ground on which a citizen is held after block `now`: a freeze that no case made, a guilty
verdict, or an open case before its deadline. -/
def IsGround (now : ℕ) (η : History AccountId) (who : AccountId) : Prop :=
  who ∈ η.heldOtherwise ∨
    ∃ f ∈ η.filings, f.defendant = who ∧
      (f.status = .guilty ∨ f.status = .open ∧ now < f.deadline)

instance (now : ℕ) (η : History AccountId) (who : AccountId) : Decidable (IsGround now η who) :=
  inferInstanceAs (Decidable (_ ∨ ∃ f ∈ η.filings, _))

/-- No undecided case whose deadline is this block is the only ground its defendant is frozen on. -/
def Freed (now : ℕ) (s : State AccountId L) (η : History AccountId) : Prop :=
  ∀ f ∈ η.filings, f.status = .open → f.deadline = now →
    s.status f.defendant = some .frozen → IsGround now η f.defendant

/-- Right after the start of a block the defendants whose time has come are freed. -/
def HabeasCorpus [Currency AccountId L] [Fungible AccountId L] (cfg : Config AccountId L)
    (t : World AccountId L × History AccountId) : Input AccountId → Prop
  | .block =>
    let t' := exec (traced cfg) .block t
    Freed t'.1.now t'.1.court t'.2
  | .call _ _ => True

/-- Where the deadline of an undecided case is the next block, and its defendant is frozen on no
other ground, the defendant's timer stands and no case of the defendant is decided. -/
def Unhindered (t : World AccountId L × History AccountId) : Input AccountId → Prop
  | .block =>
    ∀ f ∈ t.2.filings, f.status = .open → f.deadline = t.1.now + 1 →
      t.1.court.status f.defendant = some .frozen → ¬ IsGround (t.1.now + 1) t.2 f.defendant →
      t.1.court.timer f.defendant ≠ none ∧ defendantHasVerdict t.1.court f.defendant = false
  | .call _ _ => True

section Block

variable {now : ℕ} {s : State AccountId L} {η η' : History AccountId} {who : AccountId}

/-- Who is frozen after the start of a block was frozen before and is not released. -/
theorem onInitialize_frozen (h : (onInitialize now s).status who = some .frozen) :
    s.status who = some .frozen ∧ ¬ IsReleased now s who := by
  rw [onInitialize_status] at h
  split at h
  · obtain ⟨old, -, hold⟩ := Option.map_eq_some_iff.mp h
    exact absurd hold old.release_ne_frozen
  · next hheld => exact ⟨h, hheld⟩

/-- A timer that stands without a verdict and does not release the citizen is that of a later
case. -/
theorem ground_of_timer (hk : Kept now s η.filings) {n : ℕ} (hheld : ¬ IsReleased n s who)
    (htimer : s.timer who ≠ none) (hverdict : defendantHasVerdict s who = false) :
    IsGround n η who := by
  obtain ⟨tm, htm⟩ := Option.ne_none_iff_exists'.mp htimer
  obtain ⟨f, hf, hwho, hopen, hdeadline⟩ := hk.timed who tm htm
  refine Or.inr ⟨f, hf, hwho, Or.inr ⟨hopen, ?_⟩⟩
  rw [hdeadline]
  by_contra hlate
  exact hheld ⟨tm, htm, hk.unresolved who tm htm, Nat.not_lt.mp hlate, hverdict⟩

end Block

section Runs

variable [Currency AccountId L] [Fungible AccountId L] {cfg : Config AccountId L}
  {x : Input AccountId} {t t' : World AccountId L × History AccountId}

/-- **Step lemma.** The start of a block frees the defendants just if nothing hinders it. -/
theorem block_freed_iff (hk : Kept t.1.now t.1.court t.2.filings)
    (hstep : traced cfg .block t = .ok t') :
    Freed t'.1.now t'.1.court t'.2 ↔ Unhindered t .block := by
  obtain ⟨hstep, hrecord⟩ := recording_eq_ok.mp hstep
  obtain ⟨-, hnow, hcourt⟩ := step_block hstep
  have hfilings : t'.2.filings = t.2.filings := by
    rw [hrecord]
    rfl
  have hheld : ∀ who, who ∈ t'.2.heldOtherwise ↔
      who ∈ t.2.heldOtherwise ∧ t.1.court.status who = some .frozen := by
    rw [hrecord]
    exact fun who => Finset.mem_filter
  unfold Freed
  rw [hnow, hcourt, hfilings]
  refine forall₄_congr fun f hf hopen hdeadline => ?_
  constructor
  · intro hfreed hfrozen hno
    by_cases hreleased : IsReleased (t.1.now + 1) t.1.court f.defendant
    · obtain ⟨tm, htm, -, -, hverdict⟩ := hreleased
      exact ⟨Option.ne_none_iff_exists'.mpr ⟨tm, htm⟩, hverdict⟩
    -- who is not released is frozen after the block, on a ground there was before
    · have hafter := hfreed (by rwa [onInitialize_status, if_neg hreleased])
      refine absurd ?_ hno
      exact hafter.imp (fun h => ((hheld _).mp h).1) (by rw [hfilings]; exact id)
  · intro hunhindered hafter
    obtain ⟨hfrozen, hreleased⟩ := onInitialize_frozen hafter
    have hground : IsGround (t.1.now + 1) t.2 f.defendant := by
      by_contra hno
      obtain ⟨htimer, hverdict⟩ := hunhindered hfrozen hno
      exact hno (ground_of_timer hk hreleased htimer hverdict)
    exact hground.imp (fun h => (hheld _).mpr ⟨h, hfrozen⟩) (by rw [hfilings]; exact id)

/-- **Habeas corpus.** Right after the block of a deadline no undecided case holds its defendant,
in exactly the runs in which at each such block the timer of the defendant stands and no case of
the defendant is decided, unless there is another ground. -/
theorem habeas_corpus_iff (cfg : Config AccountId L) (xs : List (Input AccountId))
    (identity : Identity.State AccountId L) (now : ℕ) :
    Along (traced cfg) (HabeasCorpus cfg) xs (opening identity now) ↔
      Along (traced cfg) Unhindered xs (opening identity now) := by
  apply along_congr
    (J := fun t : World AccountId L × History AccountId => Kept t.1.now t.1.court t.2.filings)
    (fun _ _ _ hk hstep => step_kept hk hstep) ?_ (Kept.init identity)
  intro x t t' hk hstep
  cases x with
  | call origin c => exact Iff.rfl
  | block =>
    unfold HabeasCorpus
    rw [exec_ok hstep]
    exact block_freed_iff hk hstep

/-! ### After a verdict -/

/-- Where nobody is released and nobody is held otherwise, a block only passes. -/
theorem traced_block (hidle : ∀ n who, ¬ IsReleased n t.1.court who)
    (hheld : t.2.heldOtherwise = ∅) (hnow : t.1.now < u32Max) :
    traced cfg .block t = .ok ({ t.1 with now := t.1.now + 1 }, t.2) := by
  refine recording_eq_ok.mpr ⟨?_, ?_⟩
  · simp only [step, ensure_bind_eq_ok, pure_eq_ok]
    refine ⟨hnow, ?_⟩
    rw [onInitialize, Constitution.onInitialize_of_none (hidle _)]
  · change t.2 = { t.2 with
      heldOtherwise := t.2.heldOtherwise.filter fun who => t.1.court.status who = some .frozen }
    rw [hheld, Finset.filter_empty, ← hheld]

theorem run_blocks (k : ℕ) (hidle : ∀ n who, ¬ IsReleased n t.1.court who)
    (hheld : t.2.heldOtherwise = ∅) (hnow : t.1.now + k ≤ u32Max) :
    run (traced cfg) (List.replicate k .block) t =
      ({ t.1 with now := t.1.now + k }, t.2) := by
  induction k generalizing t with
  | zero => rfl
  | succ k ih =>
    rw [List.replicate_succ, run_cons, exec_ok (traced_block hidle hheld (by omega))]
    refine (ih (t := ({ t.1 with now := t.1.now + 1 }, t.2)) hidle hheld ?_).trans ?_
    · simp only
      omega
    · simp only [Nat.add_assoc, Nat.add_comm 1]

/-- A citizen is acquitted and sued again. -/
def suitAfterAcquittal : List (Input ℕ) :=
  [Runtime.suit 4 3, Runtime.verdict 0 false, Runtime.suit 5 3]

/-- The courts when the second case is opened. -/
def suedAgain : World ℕ (Runtime.NativeLedger ℕ) × History ℕ :=
  run (traced Runtime.courts) suitAfterAcquittal (opening Runtime.oneCitizen 1)

/-- The one timer is that of a citizen with a verdict. -/
theorem suedAgain_idle (n who : ℕ) : ¬ IsReleased n suedAgain.1.court who := by
  rintro ⟨tm, htm, -, -, hverdict⟩
  have hkeys : suedAgain.1.court.constitution.habeasCorpusTimers.keys = {3} := by decide +kernel
  have hwho := StorageMap.mem_keys.mpr ⟨tm, htm⟩
  rw [hkeys, Finset.mem_singleton] at hwho
  rw [hwho] at hverdict
  exact absurd hverdict (by decide +kernel)

/-- Who was acquitted once is not released from another case. -/
theorem held_after_acquittal : ¬ ∀ xs : List (Input ℕ), Along (traced Runtime.courts)
    (HabeasCorpus Runtime.courts) xs (opening Runtime.oneCitizen 1) := by
  apply not_forall.mpr
  refine ⟨suitAfterAcquittal ++ (List.replicate 7199 .block ++ [.block]), fun h => ?_⟩
  have hheld : suedAgain.2.heldOtherwise = ∅ := by decide +kernel
  have hlast : Along (traced Runtime.courts) (HabeasCorpus Runtime.courts) [.block]
      (run (traced Runtime.courts) (List.replicate 7199 .block) suedAgain) :=
    (along_append.mp (along_append.mp h).2).2
  rw [run_blocks 7199 suedAgain_idle hheld (by decide +kernel)] at hlast
  have hblock : traced Runtime.courts .block ({ suedAgain.1 with now := 7200 }, suedAgain.2) =
      .ok ({ suedAgain.1 with now := 7201 }, suedAgain.2) :=
    traced_block suedAgain_idle hheld (by decide)
  have hfreed : HabeasCorpus Runtime.courts ({ suedAgain.1 with now := 7200 }, suedAgain.2)
      .block := hlast.1 _ hblock
  unfold HabeasCorpus at hfreed
  rw [exec_ok hblock] at hfreed
  -- the second case is due, and its defendant is frozen on no other ground
  have hground := hfreed ⟨1, 3, 7201, .open⟩ (by decide +kernel) rfl rfl (by decide +kernel)
  exact absurd hground (by decide +kernel)

end Runs

end JudicialCourts
