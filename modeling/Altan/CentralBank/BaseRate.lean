import Altan.CentralBank.Spec
import Altan.CentralBank.CreditPool
import Altan.Foundation.TransitionSystem

/-!
# The base rate and the key rate

The base rate is meant as a ceiling of the key rate. The key rate is computed from the
utilization of the credit pool by a curve of two phases whose constants are fixed; the base rate
does not enter it. A rate that is written stays below the base rate in force exactly when the
utilization is low enough for it.

## Main definitions

* `WithinBase`: the utilization a base rate allows for
* `Observed`, `observe`: the storage with the last rate written and the base rate at the time
* `Ceiling`: the last rate written is at most that base rate

## Main results

* `computeDynamicRate_le_iff`: the rates the curve has at a utilization a base rate allows for
* `ceiling_throughout_iff`: the runs throughout which the base rate is a ceiling
* `rate_above_base`: a loan that takes the key rate above the base rate
-/

open Bounded Dispatch TransitionSystem Runtime

namespace CentralBank

variable {AccountId L : Type} {cfg : Config AccountId}

/-- The utilization that an outstanding credit amounts to is one the base rate allows for. Up to
the optimal utilization it is in proportion to the optimal rate; beyond it the base rate has room
for the optimal rate and for the penalty. -/
def WithinBase (cfg : Config AccountId) (base outstanding : ℕ) : Prop :=
  let utilization := utilizationPercent cfg outstanding
  outstanding = 0 ∨
    if utilization ≤ cfg.optimalUtilization then
      saturatingMul u32Max utilization cfg.optimalKeyRate < (base + 1) * cfg.optimalUtilization
    else
      u32Max ≤ base ∨ cfg.optimalKeyRate ≤ base ∧
        saturatingMul u32Max (utilization - cfg.optimalUtilization)
            (cfg.maxProtectiveRate - cfg.optimalKeyRate) <
          (base - cfg.optimalKeyRate + 1) * (100 - cfg.optimalUtilization)

instance (base outstanding : ℕ) : Decidable (WithinBase cfg base outstanding) :=
  inferInstanceAs (Decidable (_ ∨ _))

/-- The pool is never used beyond its limit. -/
theorem utilizationPercent_le {outstanding : ℕ} (h : outstanding ≤ cfg.creditEpochLimit) :
    utilizationPercent cfg outstanding ≤ 100 := by
  have hle : saturatingMul u128Max outstanding 100 / cfg.creditEpochLimit ≤ 100 := by
    apply Nat.div_le_of_le_mul
    calc saturatingMul u128Max outstanding 100
        ≤ outstanding * 100 := Nat.min_le_left _ _
      _ ≤ cfg.creditEpochLimit * 100 := Nat.mul_le_mul_right 100 h
  unfold utilizationPercent
  dsimp only
  split
  · exact hle
  · exact Nat.zero_le 100

/-- **The ceiling in terms of the utilization.** A rate on the curve is at most the base rate
exactly at the utilizations the base rate allows for. -/
theorem computeDynamicRate_le_iff {outstanding base rate : ℕ}
    (hlimit : outstanding ≤ cfg.creditEpochLimit)
    (h : computeDynamicRate cfg outstanding = some rate) :
    rate ≤ base ↔ WithinBase cfg base outstanding := by
  have hpercent := utilizationPercent_le hlimit
  simp only [computeDynamicRate] at h
  simp only [WithinBase]
  split at h
  -- nothing is outstanding: no rate
  · next hzero =>
    have ho : outstanding = 0 := by omega
    rw [← Option.some.inj h]
    exact iff_of_true (Nat.zero_le _) (Or.inl ho)
  · next hzero =>
    rw [or_iff_right (not_or.mp hzero).2]
    split at h
    -- the linear phase
    · next hu =>
      obtain ⟨hopt, rfl⟩ := checkedDiv_eq_some.mp h
      rw [if_pos hu, ← Nat.lt_succ_iff, Nat.div_lt_iff_lt_mul (Nat.pos_of_ne_zero hopt)]
    -- the penalty phase; the utilization being at most 100, the excess has a range
    · next hu =>
      rw [if_neg hu]
      split at h
      · next hmax => omega
      · next hmax =>
        obtain ⟨penalty, hp, rfl⟩ := Option.map_eq_some_iff.mp h
        obtain ⟨-, rfl⟩ := checkedDiv_eq_some.mp hp
        rw [← Nat.div_lt_iff_lt_mul (Nat.pos_of_ne_zero hmax), Nat.lt_succ_iff]
        exact saturatingAdd_le_iff

section Runs

variable [DecidableEq AccountId]

/-- The calls that write a key rate. -/
def writesRate : Call AccountId → Bool
  | .requestCredit _ => true
  | .repayCredit _ _ => true
  | .transitionEpoch => true
  | _ => false

/-- The storage, with the last key rate written by a call and the base rate in force then. -/
structure Observed (AccountId L : Type) where
  state : State AccountId L
  lastWrite : Option (ℕ × ℕ)

/-- The base rate is a ceiling: the last key rate written is at most the base rate in force. -/
def Ceiling (o : Observed AccountId L) : Prop :=
  ∀ rate base, o.lastWrite = some (rate, base) → rate ≤ base

/-- What the credit outstanding after the call must be for its rate to stay below the base
rate. -/
def KeepsCeiling (cfg : Config AccountId) (o : Observed AccountId L) (x : Extrinsic AccountId) :
    Prop :=
  match x.2 with
  | .requestCredit amount =>
    WithinBase cfg o.state.baseKeyRate (o.state.totalOutstanding + amount)
  | .repayCredit _ amount =>
    WithinBase cfg o.state.baseKeyRate (o.state.totalOutstanding - amount)
  | .transitionEpoch => WithinBase cfg o.state.baseKeyRate o.state.totalOutstanding
  | _ => True

variable [Currency AccountId L] [ProxyModule AccountId L]

/-- One extrinsic, with the rate it writes. -/
def observe (cfg : Config AccountId) (x : Extrinsic AccountId) (o : Observed AccountId L) :
    Result (Observed AccountId L) := do
  let s ← step cfg x o.state
  return {
    state := s
    lastWrite :=
      if writesRate x.2 then
        (s.epochs.get s.currentEpochId).map fun epoch => (epoch.keyRate, o.state.baseKeyRate)
      else o.lastWrite }

theorem observe_eq_ok {x : Extrinsic AccountId} {o o' : Observed AccountId L} :
    observe cfg x o = .ok o' ↔ step cfg x o.state = .ok o'.state ∧
      o'.lastWrite =
        if writesRate x.2 then
          (o'.state.epochs.get o'.state.currentEpochId).map fun epoch =>
            (epoch.keyRate, o.state.baseKeyRate)
        else o.lastWrite := by
  simp only [observe, bind_eq_ok, pure_eq_ok]
  constructor
  · rintro ⟨s, hs, rfl⟩
    exact ⟨hs, rfl⟩
  · rintro ⟨hs, hw⟩
    refine ⟨o'.state, hs, ?_⟩
    rw [← hw]

variable {s s' : State AccountId L} {operator : AccountId} {epochId amount : ℕ}

omit [DecidableEq AccountId] [Currency AccountId L] [ProxyModule AccountId L] in
/-- The rate in the current epoch's record is the one the curve has at what is outstanding. -/
def OnCurve (cfg : Config AccountId) (s : State AccountId L) : Prop :=
  ∃ epoch, s.epochs.get s.currentEpochId = some epoch ∧
    computeDynamicRate cfg s.totalOutstanding = some epoch.keyRate

omit [DecidableEq AccountId] [Currency AccountId L] [ProxyModule AccountId L] in
theorem updateDynamicRate_onCurve (h : updateDynamicRate cfg s = .ok s') : OnCurve cfg s' := by
  obtain ⟨rate, hrate, epoch, -, rfl⟩ := updateDynamicRate_eq_ok.mp h
  exact ⟨_, StorageMap.get_insert_self, hrate⟩

/-- **Every call that writes a rate writes the one on the curve**, whatever the base rate. -/
theorem step_onCurve {x : Extrinsic AccountId} (hw : writesRate x.2 = true)
    (h : step cfg x s = .ok s') : OnCurve cfg s' := by
  obtain ⟨ctx, call⟩ := x
  cases call with
  | requestCredit amount =>
    obtain ⟨who, -, hreq⟩ := requestCredit_eq_ok.mp h
    simp only [doRequestCredit, ensure_bind_eq_ok] at hreq
    obtain ⟨-, -, -, -, hrate⟩ := hreq
    exact updateDynamicRate_onCurve hrate
  | repayCredit epochId amount =>
    obtain ⟨who, -, hrep⟩ := repayCredit_eq_ok.mp h
    simp only [doRepayCredit, ensure_bind_eq_ok, mapError_bind_eq_ok] at hrep
    obtain ⟨-, -, -, -, l, -, hrate⟩ := hrep
    exact updateDynamicRate_onCurve hrate
  | transitionEpoch =>
    simp only [step, dispatch, transitionEpoch, doEpochTransition,
      ensureBankingOrigin_bind_eq_ok, required_bind_eq_ok, pure_eq_ok] at h
    obtain ⟨-, rate, hrate, rfl⟩ := h
    exact ⟨_, StorageMap.get_insert_self, hrate⟩
  | _ => cases hw

/-- What is outstanding after a call that writes a rate. -/
theorem step_outstanding {b : Book cfg} {x : Extrinsic AccountId} (hb : Represents cfg s b)
    (h : step cfg x s = .ok s') :
    match x.2 with
    | .requestCredit amount => s'.totalOutstanding = s.totalOutstanding + amount
    | .repayCredit _ amount => s'.totalOutstanding = s.totalOutstanding - amount
    | .transitionEpoch => s'.totalOutstanding = s.totalOutstanding
    | _ => True := by
  obtain ⟨ctx, call⟩ := x
  cases call with
  | requestCredit amount =>
    obtain ⟨who, -, hreq⟩ := requestCredit_eq_ok.mp h
    obtain ⟨-, -, havailable, hframe⟩ := doRequestCredit_frame hreq
    have hexact : RequestExact s who amount := hb.requestExact havailable
    have hout := congrArg State.totalOutstanding hframe
    exact hout.trans hexact.outstanding
  | repayCredit epochId amount =>
    obtain ⟨who, -, hrep⟩ := repayCredit_eq_ok.mp h
    obtain ⟨-, -, l, -, hframe⟩ := doRepayCredit_frame hrep
    exact congrArg State.totalOutstanding hframe
  | transitionEpoch =>
    have hframe := (transitionEpoch_frame h).2
    show s'.totalOutstanding = s.totalOutstanding
    rw [hframe]
  | _ => trivial

/-- One call keeps the ceiling exactly when the base rate allows for what is outstanding after
it. -/
theorem ceiling_step_iff {b : Book cfg} {x : Extrinsic AccountId} {o o' : Observed AccountId L}
    (hb : Represents cfg o.state b) (hc : Ceiling o) (h : observe cfg x o = .ok o') :
    Ceiling o' ↔ KeepsCeiling cfg o x := by
  obtain ⟨hstep, hwrite⟩ := observe_eq_ok.mp h
  obtain ⟨b', hb'⟩ := hb.step hstep
  have hlimit := hb'.outstanding_le
  have hout := step_outstanding hb hstep
  by_cases hw : writesRate x.2 = true
  -- the rate on the curve is written next to the base rate
  · obtain ⟨epoch, hepoch, hrate⟩ := step_onCurve hw hstep
    have hlast : o'.lastWrite = some (epoch.keyRate, o.state.baseKeyRate) := by
      rw [hwrite, if_pos hw, hepoch, Option.map_some]
    have hceiling : Ceiling o' ↔ epoch.keyRate ≤ o.state.baseKeyRate := by
      unfold Ceiling
      rw [hlast]
      constructor
      · intro hall
        exact hall _ _ rfl
      · rintro hle rate base ⟨⟩
        exact hle
    rw [hceiling, computeDynamicRate_le_iff hlimit hrate]
    obtain ⟨ctx, call⟩ := x
    cases call with
    | requestCredit amount =>
      rw [show o'.state.totalOutstanding = _ from hout]
      rfl
    | repayCredit epochId amount =>
      rw [show o'.state.totalOutstanding = _ from hout]
      rfl
    | transitionEpoch =>
      rw [show o'.state.totalOutstanding = _ from hout]
      rfl
    | _ => cases hw
  · rw [if_neg hw] at hwrite
    have hsame : Ceiling o' := by
      intro rate base hlast
      rw [hwrite] at hlast
      exact hc rate base hlast
    refine iff_of_true hsame ?_
    obtain ⟨ctx, call⟩ := x
    cases call with
    | requestCredit amount => exact absurd rfl hw
    | repayCredit epochId amount => exact absurd rfl hw
    | transitionEpoch => exact absurd rfl hw
    | _ => trivial

/-- **The ceiling** holds throughout the runs in which the base rate in force allows for what is
outstanding after each loan, repayment and transition, and throughout no other run. -/
theorem ceiling_throughout_iff (cfg : Config AccountId)
    (licensedOperators : List (AccountId × Bool)) (l : L) (xs : List (Extrinsic AccountId)) :
    let start : Observed AccountId L := ⟨genesis cfg licensedOperators l, none⟩
    Throughout (observe cfg) Ceiling xs start ↔ Along (observe cfg) (KeepsCeiling cfg) xs start := by
  intro start
  refine throughout_iff_along (J := fun o => ∃ b, Represents cfg o.state b) ?_ ?_ ?_ ?_
  · rintro x o o' ⟨b, hb⟩ h
    exact hb.step (observe_eq_ok.mp h).1
  · rintro x o o' ⟨b, hb⟩ hc h
    exact ceiling_step_iff hb hc h
  · exact ⟨_, genesis_represents licensedOperators l⟩
  · rintro rate base ⟨⟩

/-- With the base rate at its default, a loan of nine tenths of the pool takes the key rate above
it. -/
theorem rate_above_base :
    ¬ Throughout (observe (Runtime.centralBank 0 1 fun _ _ _ index => index + 2)) Ceiling
      [(signedContext 7, .requestCredit (17010000000000 * unit))]
      ⟨genesis (Runtime.centralBank 0 1 fun _ _ _ index => index + 2) [(7, true)]
        (default : NativeLedger ℕ), none⟩ := by
  intro h
  have hlast := h.last 2925 850 (by decide +kernel)
  exact absurd hlast (by decide)

end Runs

end CentralBank
