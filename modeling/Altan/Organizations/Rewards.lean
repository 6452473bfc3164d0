import Altan.Foundation.Accounting
import Altan.Runtime.Constants

/-!
# The rewards of auditors

Whoever reports an organization whose tax period is over is paid, when the treasury can pay. The
report makes an active organization delinquent; one that is pending stays so, and can be reported
again.

## Main definitions

* `rewarded`: the organization for whose report an input pays
* `rewards`, `detections`: the payments of a run, and the organizations that became delinquent
* `RewardsMatch`: the law, over a run
* `Diligent`: nobody is paid for the report of a pending organization

## Main results

* `rewarded_detected_iff`: a reward goes with a detection just when the report is diligent
* `rewards_match_iff`: the law holds in the diligent runs, and in no others
* `pending_reported`: an organization that was never activated is reported twice
-/

open Bounded Dispatch TransitionSystem

namespace Organizations

variable {AccountId L C V : Type} [DecidableEq AccountId] [Currency AccountId L]
  {cfg : Config AccountId L C V} {s s' : State AccountId L C V} {x : Input AccountId}

/-! ### Rewards -/

/-- The payment of whoever reports an organization. -/
def reward (cfg : Config AccountId L C V) (reporter : AccountId) (ledger : L) :
    Except CurrencyError L :=
  Currency.transfer ledger cfg.regionTreasuryAccount reporter cfg.auditorRewardAmount .keepAlive

/-- The organization for whose report an input pays: the payment follows the punishment. -/
def rewarded (cfg : Config AccountId L C V) (s : State AccountId L C V) :
    Input AccountId → Option ℕ
  | .call ⟨.signed reporter, now, _⟩ (.reportTaxEvasion orgId) =>
    if (reward cfg reporter (applyPunishment cfg orgId now s).1.ledger).isOk then some orgId
    else none
  | _ => none

/-- What an input does with the rewards for each organization since the last tax return: one more
is paid, or the organization is settled. -/
def record (cfg : Config AccountId L C V) (s : State AccountId L C V) (x : Input AccountId)
    (h : ℕ → ℕ) : ℕ → ℕ :=
  match rewarded cfg s x, settled s x with
  | some orgId, _ => Function.update h orgId (h orgId + 1)
  | none, some orgId => Function.update h orgId 0
  | none, none => h

/-- The number of rewards that a run pays. -/
def rewards (cfg : Config AccountId L C V) (xs : List (Input AccountId))
    (s : State AccountId L C V) : ℕ :=
  tally (step cfg) (fun s x => if (rewarded cfg s x).isSome then 1 else 0) xs s

/-- The number of times that an organization becomes delinquent in a run. -/
def detections (cfg : Config AccountId L C V) (xs : List (Input AccountId))
    (s : State AccountId L C V) : ℕ :=
  tally (step cfg)
    (fun s x => (s.organizations.keys.filter (Detected s (exec (step cfg) x s))).card) xs s

/-- Every reward goes with the reported organization becoming delinquent. -/
def Coincides (cfg : Config AccountId L C V) (s : State AccountId L C V) (x : Input AccountId) :
    Prop :=
  ∀ orgId, rewarded cfg s x = some orgId → Detected s (exec (step cfg) x s) orgId

/-- The law over a run: every reward goes with a detection by the same input, there are no more
rewards than detections, and at most one for an organization between two tax returns. -/
structure RewardsMatch (cfg : Config AccountId L C V) (xs : List (Input AccountId))
    (s : State AccountId L C V) : Prop where
  coincide : Along (step cfg) (Coincides cfg) xs s
  counted : ∀ ys, ys <+: xs → rewards cfg ys s ≤ detections cfg ys s
  once : Throughout (recording (record cfg) (step cfg)) (fun t => ∀ orgId, t.2 orgId ≤ 1) xs
    (s, fun _ => 0)

/-- Nobody reports a pending organization whom the treasury can pay for it. -/
def Diligent (cfg : Config AccountId L C V) (s : State AccountId L C V) :
    Input AccountId → Prop
  | .call ctx (.reportTaxEvasion orgId) => s.status orgId = some .pending →
    ∀ reporter, ctx.origin = .signed reporter → (reward cfg reporter s.ledger).isOk = false
  | _ => True

/-! ### What a reward goes with -/

/-- An input that pays for a report is a signed report, by whom the treasury can pay. -/
theorem rewarded_eq_some {orgId : ℕ} : rewarded cfg s x = some orgId ↔
    ∃ ctx reporter, x = .call ctx (.reportTaxEvasion orgId) ∧ ctx.origin = .signed reporter ∧
      (reward cfg reporter s.ledger).isOk = true := by
  constructor
  · intro h
    unfold rewarded at h
    split at h
    · next reporter now secs id =>
      rw [applyPunishment_ledger] at h
      split at h
      · next hpaid =>
        cases h
        exact ⟨_, reporter, rfl, rfl, hpaid⟩
      · cases h
    · cases h
  · rintro ⟨⟨origin, now, secs⟩, reporter, rfl, rfl, hpaid⟩
    simp only [rewarded, applyPunishment_ledger]
    rw [if_pos hpaid]

/-- A report that is accepted is one of a pending organization, or of one that becomes
delinquent. -/
theorem reportTaxEvasion_cases {ctx : Context AccountId} {orgId : ℕ}
    (h : reportTaxEvasion cfg ctx orgId s = .ok s') :
    s.status orgId = some .pending ∨ Detected s s' orgId := by
  obtain ⟨reporter, -, org, hget, hfrozen, hdelinquent, hoverdue, rfl⟩ :=
    reportTaxEvasion_eq_ok.mp h
  cases hstatus : org.status with
  | pending => exact Or.inl (by rw [status_of_get hget, hstatus])
  | active => exact Or.inr (applyPunishment_detected ⟨org, hget, hstatus, hoverdue⟩)
  | delinquent => exact absurd hstatus hdelinquent
  | frozen => exact absurd hstatus hfrozen

/-- **A reward goes with a detection** just when the report is diligent. -/
theorem rewarded_detected_iff (h : step cfg x s = .ok s') :
    Coincides cfg s x ↔ Diligent cfg s x := by
  unfold Coincides
  rw [exec_ok h]
  constructor
  · intro hcoincides
    unfold Diligent
    split
    · next ctx orgId =>
      intro hpending reporter horigin
      rw [Bool.eq_false_iff]
      intro hpaid
      have hdetected := hcoincides orgId
        (rewarded_eq_some.mpr ⟨ctx, reporter, rfl, horigin, hpaid⟩)
      have hactive := hpending.symm.trans hdetected.1
      cases hactive
    · trivial
  · intro hdiligent orgId hrewarded
    obtain ⟨ctx, reporter, rfl, horigin, hpaid⟩ := rewarded_eq_some.mp hrewarded
    refine (reportTaxEvasion_cases h).resolve_left fun hpending => ?_
    rw [hdiligent hpending reporter horigin] at hpaid
    cases hpaid

/-! ### Counts -/

/-- A reward is one detection at least. -/
theorem Coincides.le_card (h : Coincides cfg s x) :
    (if (rewarded cfg s x).isSome then 1 else 0) ≤
      (s.organizations.keys.filter (Detected s (exec (step cfg) x s))).card := by
  split
  · next hsome =>
    obtain ⟨orgId, hrewarded⟩ := Option.isSome_iff_exists.mp hsome
    have hdetected := h orgId hrewarded
    obtain ⟨org, hget, -⟩ := Option.map_eq_some_iff.mp hdetected.1
    refine Finset.card_pos.mpr ⟨orgId, Finset.mem_filter.mpr ⟨?_, hdetected⟩⟩
    exact StorageMap.mem_keys.mpr ⟨org, hget⟩
  · exact Nat.zero_le _

/-- An organization that is delinquent, or frozen, is out of reach of the auditors. -/
def Barred (s : State AccountId L C V) (orgId : ℕ) : Prop :=
  s.status orgId = some .delinquent ∨ s.status orgId = some .frozen

omit [DecidableEq AccountId] [Currency AccountId L] in
/-- It stays so until it is settled. -/
theorem Barred.turn {o : Option ℕ} {orgId : ℕ} (h : Barred s orgId) (hturn : Turn o s s' orgId)
    (ho : o ≠ some orgId) : Barred s' orgId := by
  have hne : ∀ status, s.status orgId = some status → status ≠ .pending ∧ status ≠ .active := by
    intro status hstatus
    rcases h with h | h
    · cases h.symm.trans hstatus
      exact ⟨by decide, by decide⟩
    · cases h.symm.trans hstatus
      exact ⟨by decide, by decide⟩
  cases hturn with
  | same hsame => exact h.imp hsame.trans hsame.trans
  | settled hsettled => exact absurd hsettled ho
  | activated hpending _ => exact absurd rfl (hne _ hpending).1
  | detected hdetected => exact absurd rfl (hne _ hdetected.1).2
  | frozen hfrozen => exact Or.inr hfrozen

/-- One reward at most since the last tax return, and none for an organization within reach. -/
def OnceRewarded (t : State AccountId L C V × (ℕ → ℕ)) : Prop :=
  ∀ orgId, t.2 orgId ≤ 1 ∧ (t.2 orgId ≠ 0 → Barred t.1 orgId)

/-- **What an accepted input does to the counts of rewards.** -/
theorem onceRewarded_step {h : ℕ → ℕ} (honce : OnceRewarded (s, h))
    (hcoincides : Coincides cfg s x) (hs : step cfg x s = .ok s') :
    OnceRewarded (s', record cfg s x h) := by
  intro orgId
  obtain ⟨hle, hbarred⟩ := honce orgId
  have hturn := step_turn hs orgId
  unfold Coincides at hcoincides
  rw [exec_ok hs] at hcoincides
  unfold record
  cases hrewarded : rewarded cfg s x with
  | some id =>
    have hdetected := hcoincides id hrewarded
    dsimp only
    by_cases hid : orgId = id
    -- a rewarded organization was active, so no reward has been paid for it
    · subst hid
      have hzero : h orgId = 0 := by
        by_contra hne
        rcases hbarred hne with hstatus | hstatus
        · cases hdetected.1.symm.trans hstatus
        · cases hdetected.1.symm.trans hstatus
      rw [Function.update_self, hzero]
      exact ⟨Nat.le_refl 1, fun _ => Or.inl hdetected.2⟩
    · rw [Function.update_of_ne hid]
      refine ⟨hle, fun hne => (hbarred hne).turn hturn ?_⟩
      obtain ⟨ctx, reporter, rfl, -⟩ := rewarded_eq_some.mp hrewarded
      exact (Option.some_ne_none orgId).symm
  | none =>
    cases hsettled : settled s x with
    | some id =>
      dsimp only
      by_cases hid : orgId = id
      · rw [hid, Function.update_self]
        exact ⟨Nat.zero_le 1, fun hne => absurd rfl hne⟩
      · rw [Function.update_of_ne hid]
        refine ⟨hle, fun hne => (hbarred hne).turn hturn ?_⟩
        rw [hsettled]
        exact fun he => hid (Option.some.inj he).symm
    | none =>
      refine ⟨hle, fun hne => (hbarred hne).turn hturn ?_⟩
      rw [hsettled]
      exact (Option.some_ne_none orgId).symm

/-! ### Runs -/

/-- **Which rewards are matched.** In a run from any storage every reward goes with a detection,
there are no more rewards than detections, and at most one for an organization between two tax
returns, just when nobody is paid for the report of a pending organization. -/
theorem rewards_match_iff (cfg : Config AccountId L C V) (xs : List (Input AccountId))
    (s : State AccountId L C V) :
    RewardsMatch cfg xs s ↔ Along (step cfg) (Diligent cfg) xs s := by
  rw [← along_congr_of_step fun i t t' ht => rewarded_detected_iff ht]
  refine ⟨RewardsMatch.coincide, fun h => ⟨h, fun ys hys => ?_, ?_⟩⟩
  · exact tally_le_tally ((h.initial hys).imp fun _ _ => Coincides.le_card)
  · have hstart : OnceRewarded (s, fun _ => 0) := fun _ =>
      ⟨Nat.zero_le 1, fun hne => absurd rfl hne⟩
    refine Throughout.imp (fun t ht orgId => (ht orgId).1)
      (throughout_of_along ?_ hstart (along_recording.mpr h))
    rintro x ⟨t, g⟩ ⟨t', g'⟩ honce hcoincides hs
    obtain ⟨hs, rfl⟩ := recording_eq_ok.mp hs
    exact onceRewarded_step honce hcoincides hs

/-- The account 7 registers an organization of one founder, and the account 8 reports it twice when
the tax period is over. -/
def reportedTwice : List (Input ℕ) :=
  [Runtime.orgCall 7 0 (.registerOrganization [] 0 1),
    Runtime.orgCall 8 5256001 (.reportTaxEvasion 0),
    Runtime.orgCall 8 5256001 (.reportTaxEvasion 0)]

/-- Two rewards are paid for an organization that has never been active. -/
theorem pending_reported : ¬ ∀ xs, RewardsMatch Runtime.orgs xs Runtime.orgGenesis := by
  intro h
  have hcounted := (h reportedTwice).counted _ (List.prefix_refl _)
  revert hcounted
  decide +kernel

end Organizations
