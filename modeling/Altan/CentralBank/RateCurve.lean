import Altan.CentralBank.RoundTrip
import Altan.Foundation.Ramp

/-!
# The curve of the key rate

As a function of what is outstanding, the key rate follows two ramps over the utilization of the
pool: up to the optimal rate at the optimal utilization, and from there to the protective rate at
full utilization. It is monotone and never above the protective rate. The products are clipped at
32 bits, so the two rates are reached exactly when the products there are in range.

## Main definitions

* `RateCurve`: what holds of the rate as a function of what is outstanding

## Main results

* `computeDynamicRate_eq`: the rate is on two ramps over the utilization
* `rateCurve`: the curve, and the rate of the current epoch on it in every state of a run
* `steep_rates_clip`: rates so high that the curve reaches neither
-/

open Bounded TransitionSystem Runtime

namespace CentralBank

variable {AccountId L : Type} {cfg : Config AccountId} {outstanding outstanding' : ℕ}

/-- Within the limit the utilization is not cut off by the conversion to 32 bits. -/
theorem utilizationPercent_eq (h : outstanding ≤ cfg.creditEpochLimit) :
    utilizationPercent cfg outstanding =
      saturatingMul u128Max outstanding 100 / cfg.creditEpochLimit := by
  have hle : saturatingMul u128Max outstanding 100 / cfg.creditEpochLimit ≤ 100 := by
    apply Nat.div_le_of_le_mul
    calc saturatingMul u128Max outstanding 100
        ≤ outstanding * 100 := Nat.min_le_left _ _
      _ ≤ cfg.creditEpochLimit * 100 := Nat.mul_le_mul_right 100 h
  exact if_pos (hle.trans (by decide))

theorem utilizationPercent_mono (h : outstanding ≤ outstanding')
    (hlimit : outstanding' ≤ cfg.creditEpochLimit) :
    utilizationPercent cfg outstanding ≤ utilizationPercent cfg outstanding' := by
  rw [utilizationPercent_eq (h.trans hlimit), utilizationPercent_eq hlimit]
  apply Nat.div_le_div_right
  exact min_le_min_right u128Max (Nat.mul_le_mul_right 100 h)

/-- A pool that is used up is used to a hundred percent. -/
theorem utilizationPercent_limit (hpos : 0 < cfg.creditEpochLimit)
    (hrange : cfg.creditEpochLimit * 100 ≤ u128Max) :
    utilizationPercent cfg cfg.creditEpochLimit = 100 := by
  rw [utilizationPercent_eq (Nat.le_refl _), saturatingMul, Nat.min_eq_left hrange]
  exact Nat.mul_div_cancel_left 100 hpos

/-- **The rate is on two ramps over the utilization.** -/
theorem computeDynamicRate_eq (hopt : 0 < cfg.optimalUtilization)
    (hopt' : cfg.optimalUtilization ≤ 100) (h : outstanding ≤ cfg.creditEpochLimit) :
    computeDynamicRate cfg outstanding =
      some (twoPhases u32Max cfg.optimalKeyRate cfg.optimalUtilization cfg.maxProtectiveRate 100
        (utilizationPercent cfg outstanding)) := by
  have hpercent := utilizationPercent_le h
  by_cases hzero : outstanding = 0
  -- nothing is outstanding, and the first ramp starts at zero
  · have hnone : utilizationPercent cfg outstanding = 0 := by
      rw [utilizationPercent_eq h, hzero]
      simp [saturatingMul]
    rw [hnone, twoPhases, if_pos (Nat.zero_le _), ramp_zero]
    exact if_pos (Or.inr hzero)
  · have hlimit : ¬ (cfg.creditEpochLimit = 0 ∨ outstanding = 0) := by omega
    simp only [computeDynamicRate, if_neg hlimit, twoPhases]
    split
    · exact checkedDiv_eq_some.mpr ⟨Nat.ne_of_gt hopt, rfl⟩
    · next hphase =>
      -- beyond an optimal utilization of a hundred percent there is no utilization
      have hexcess : 100 - cfg.optimalUtilization ≠ 0 := by omega
      rw [if_neg hexcess]
      exact Option.map_eq_some_iff.mpr ⟨_, checkedDiv_eq_some.mpr ⟨hexcess, rfl⟩, rfl⟩

/-- What holds of the rate as a function of what is outstanding: it is monotone, starts at zero, is
at most the protective rate, and is the optimal rate at the optimal utilization and the protective
rate at full utilization, each exactly when the product it is computed by is in range. -/
structure RateCurve (cfg : Config AccountId) : Prop where
  defined : ∀ outstanding, outstanding ≤ cfg.creditEpochLimit →
    ∃ rate, computeDynamicRate cfg outstanding = some rate
  monotone : ∀ outstanding outstanding' rate rate', outstanding ≤ outstanding' →
    outstanding' ≤ cfg.creditEpochLimit → computeDynamicRate cfg outstanding = some rate →
      computeDynamicRate cfg outstanding' = some rate' → rate ≤ rate'
  zero : computeDynamicRate cfg 0 = some 0
  protective : ∀ outstanding rate, outstanding ≤ cfg.creditEpochLimit →
    computeDynamicRate cfg outstanding = some rate → rate ≤ cfg.maxProtectiveRate
  optimal : ∀ outstanding, outstanding ≤ cfg.creditEpochLimit →
    utilizationPercent cfg outstanding = cfg.optimalUtilization →
      (computeDynamicRate cfg outstanding = some cfg.optimalKeyRate ↔
        cfg.optimalUtilization * cfg.optimalKeyRate ≤ u32Max)
  full : cfg.optimalUtilization < 100 →
    (computeDynamicRate cfg cfg.creditEpochLimit = some cfg.maxProtectiveRate ↔
      (100 - cfg.optimalUtilization) * (cfg.maxProtectiveRate - cfg.optimalKeyRate) ≤ u32Max)

theorem rateCurve_of_config (hopt : 0 < cfg.optimalUtilization)
    (hopt' : cfg.optimalUtilization ≤ 100) (hrates : cfg.optimalKeyRate ≤ cfg.maxProtectiveRate)
    (hmax : cfg.maxProtectiveRate ≤ u32Max) (hpos : 0 < cfg.creditEpochLimit)
    (hrange : cfg.creditEpochLimit * 100 ≤ u128Max) : RateCurve cfg where
  defined outstanding hle := ⟨_, computeDynamicRate_eq hopt hopt' hle⟩
  monotone outstanding outstanding' rate rate' hle hlimit h h' := by
    rw [computeDynamicRate_eq hopt hopt' (hle.trans hlimit)] at h
    rw [computeDynamicRate_eq hopt hopt' hlimit] at h'
    obtain rfl := Option.some.inj h
    obtain rfl := Option.some.inj h'
    exact twoPhases_mono (hrates.trans hmax) (utilizationPercent_mono hle hlimit)
  zero := if_pos (Or.inr rfl)
  protective outstanding rate hle h := by
    rw [computeDynamicRate_eq hopt hopt' hle] at h
    obtain rfl := Option.some.inj h
    exact twoPhases_le hrates (utilizationPercent_le hle)
  optimal outstanding hle hat := by
    rw [computeDynamicRate_eq hopt hopt' hle, hat, Option.some_inj]
    exact twoPhases_run_eq_iff hopt
  full hlt := by
    rw [computeDynamicRate_eq hopt hopt' (Nat.le_refl _), utilizationPercent_limit hpos hrange,
      Option.some_inj]
    exact twoPhases_full_eq_iff hrates hmax hlt

section Runs

variable [DecidableEq AccountId] [Currency AccountId L] [ProxyModule AccountId L]

/-- **The rate curve.** For constants in their ranges, the rate as a function of what is outstanding
is monotone from zero up to at most the protective rate; it is the optimal rate at the optimal
utilization and the protective rate at full utilization exactly when the products there are in
range; and after every run the rate of the current epoch is the one on the curve. -/
theorem rateCurve (cfg : Config AccountId) (hopt : 0 < cfg.optimalUtilization)
    (hopt' : cfg.optimalUtilization ≤ 100) (hrates : cfg.optimalKeyRate ≤ cfg.maxProtectiveRate)
    (hmax : cfg.maxProtectiveRate ≤ u32Max) (hpos : 0 < cfg.creditEpochLimit)
    (hrange : cfg.creditEpochLimit * 100 ≤ u128Max)
    (licensedOperators : List (AccountId × Bool)) (l : L) (is : List (ChainInput AccountId L)) :
    let s := run (chainStep cfg) is (genesis cfg licensedOperators l)
    RateCurve cfg ∧ s.totalOutstanding ≤ cfg.creditEpochLimit ∧
      ∃ rate, s.currentKeyRate = some rate ∧
        computeDynamicRate cfg s.totalOutstanding = some rate := by
  intro s
  have hcoherent : Coherent cfg s := coherent_run cfg licensedOperators l is
  have hcurve : RateCurve cfg := rateCurve_of_config hopt hopt' hrates hmax hpos hrange
  obtain ⟨b, hb⟩ := hcoherent.represented
  have hlimit : s.totalOutstanding ≤ cfg.creditEpochLimit := hb.outstanding_le
  obtain ⟨rate, hrate⟩ := hcurve.defined s.totalOutstanding hlimit
  exact ⟨hcurve, hlimit, rate, hcoherent.onCurve.currentKeyRate_eq.trans hrate, hrate⟩

end Runs

/-- The constants of the runtime have a rate curve, which a loan in the first epoch is on. -/
theorem rateCurve_runtime :
    let s := run (chainStep roundTripConfig) [.extrinsic (signedContext 7, .requestCredit unit)]
      (licensedGenesis [(7, unit)])
    RateCurve roundTripConfig ∧ s.totalOutstanding ≤ roundTripConfig.creditEpochLimit ∧
      ∃ rate, s.currentKeyRate = some rate ∧
        computeDynamicRate roundTripConfig s.totalOutstanding = some rate :=
  rateCurve roundTripConfig (by decide) (by decide) (by decide) (by decide) (by decide) (by decide)
    [(7, true)] (ProvidedBalances.ofFree [(7, unit)]) _

/-- Constants within the ranges of the rate curve, with rates of a hundred and two hundred million
basis points. -/
def steepConfig : Config ℕ :=
  { roundTripConfig with
    optimalKeyRate := 100000000
    maxProtectiveRate := 200000000
    optimalUtilization := 50 }

/-- **Clipped products.** With such rates the curve is below the optimal rate at the optimal
utilization, and below the protective rate at full utilization. -/
theorem steep_rates_clip :
    let half := steepConfig.creditEpochLimit / 2
    (0 < steepConfig.optimalUtilization ∧ steepConfig.optimalUtilization < 100 ∧
      steepConfig.optimalKeyRate ≤ steepConfig.maxProtectiveRate ∧
        steepConfig.maxProtectiveRate ≤ u32Max ∧ 0 < steepConfig.creditEpochLimit ∧
          steepConfig.creditEpochLimit * 100 ≤ u128Max) ∧
      utilizationPercent steepConfig half = steepConfig.optimalUtilization ∧
        computeDynamicRate steepConfig half ≠ some steepConfig.optimalKeyRate ∧
          computeDynamicRate steepConfig steepConfig.creditEpochLimit ≠
            some steepConfig.maxProtectiveRate := by
  decide +kernel

end CentralBank
