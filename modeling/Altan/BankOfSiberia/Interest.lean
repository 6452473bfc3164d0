import Altan.BankOfSiberia.Chain
import Altan.Foundation.FixedPoint

/-!
# The interest on a time deposit

The interest on a deposit is a fixed-point fraction of it. The fraction is the rate for the term, to
within a billionth, as long as that is not more than the whole; a term of twenty years or more
earns as much as the deposit and no more. So what is paid is close to the lesser of the interest
that is documented and the deposit itself, and it is monotone in the deposit and in the term.

## Main definitions

* `documentedInterest`: the interest as a rational number

## Main results

* `perbill_roundsDown`: the fractions of the runtime
* `calculateInterest_close`, `calculateInterest_mono`: the interest on an amount for a term
* `interest_pro_rated`: what a claim pays for the deposit that was opened
* `forty_years_saturate`: a term for which the documented interest is not paid
-/

open Bounded Dispatch TransitionSystem Runtime

namespace BankOfSiberia

variable {AccountId L : Type} {cfg : Config AccountId}

/-- The interest on an amount at a yearly rate in basis points for a number of blocks. -/
def documentedInterest (amount rateBps duration : ℕ) : ℚ :=
  amount * rateBps * duration / (10000 * blocksPerYear)

/-! ### The fractions of the runtime -/

/-- **The fractions of the runtime** are rounded down. -/
theorem perbill_roundsDown : RoundsDown Runtime.perbill := by
  intro n d hd
  unfold Runtime.perbill
  split
  · next h =>
    have hle : 10 ^ 9 ≤ n * 10 ^ 9 / d := by
      rw [Nat.le_div_iff_mul_le hd, Nat.mul_comm]
      exact Nat.mul_le_mul_right _ (by omega)
    rw [Nat.min_eq_left hle]
    rfl
  · next h =>
    exact (Nat.min_eq_right (Nat.div_le_of_le_mul (Nat.mul_le_mul_right _ (by omega)))).symm

/-- The proportion of the runtime takes the billions of the amount apart from the rest. -/
theorem perbillProportion_eq (n d a : ℕ) :
    perbillProportion n d a = Bounded.perbill (Runtime.perbill n d) a := by
  unfold perbillProportion Bounded.perbill
  dsimp only
  generalize Runtime.perbill n d = parts
  have hsplit : a * parts =
      1000000000 * (a / 1000000000 * parts) + a % 1000000000 * parts := by
    rw [← Nat.mul_assoc, ← Nat.add_mul, Nat.div_add_mod]
  rw [hsplit]
  generalize a / 1000000000 * parts = whole
  generalize a % 1000000000 * parts = rest
  split
  · split
    · omega
    · omega
  · split
    · omega
    · omega

/-! ### The interest for a term -/

section Interest

variable {fromRational : ℕ → ℕ → ℕ} {amount amount' duration duration' opened opened' : ℕ}

/-- The interest for a term, the block numbers being in range. -/
theorem calculateInterest_eq
    (hproportion : ∀ n d a, cfg.proportion n d a = Bounded.perbill (fromRational n d) a)
    (hduration : duration ≤ u32Max) :
    calculateInterest cfg amount annualRateBps opened (opened + duration) =
      Bounded.perbill (fromRational (annualRateBps * duration) (10000 * blocksPerYear)) amount := by
  have hrange : annualRateBps * duration ≤ u64Max := by
    unfold annualRateBps u64Max
    unfold u32Max at hduration
    omega
  have hyear : saturatingMul u64Max 10000 blocksPerYear = 10000 * blocksPerYear := by decide
  unfold calculateInterest
  rw [Nat.add_sub_cancel_left]
  dsimp only
  rw [hyear, saturatingMul, Nat.min_eq_left hrange, hproportion]
  exact if_neg (by decide)

/-- **The interest for a term** is within a billionth of the amount, and a unit, of the lesser of the
documented interest and the amount. -/
theorem calculateInterest_close
    (hproportion : ∀ n d a, cfg.proportion n d a = Bounded.perbill (fromRational n d) a)
    (hround : RoundsDown fromRational) (hduration : duration ≤ u32Max) :
    |(calculateInterest cfg amount annualRateBps opened (opened + duration) : ℚ) -
        min (amount : ℚ) (documentedInterest amount annualRateBps duration)| ≤
      amount / 10 ^ 9 + 1 := by
  have hyear : 0 < 10000 * blocksPerYear := by decide
  have hclose := hround.proportion_close hyear (annualRateBps * duration) amount
  rw [calculateInterest_eq hproportion hduration]
  have hmin : (amount : ℚ) * min 1 (((annualRateBps * duration : ℕ) : ℚ) /
        ((10000 * blocksPerYear : ℕ) : ℚ)) =
      min (amount : ℚ) (documentedInterest amount annualRateBps duration) := by
    rw [mul_min_of_nonneg _ _ (Nat.cast_nonneg amount), mul_one, documentedInterest]
    congr 1
    push_cast
    ring
  rw [hmin] at hclose
  exact hclose.trans (by linarith)

/-- **The interest is monotone** in the amount and in the term. -/
theorem calculateInterest_mono
    (hproportion : ∀ n d a, cfg.proportion n d a = Bounded.perbill (fromRational n d) a)
    (hround : RoundsDown fromRational) (hamount : amount ≤ amount')
    (hle : duration ≤ duration') (hduration : duration' ≤ u32Max) :
    calculateInterest cfg amount annualRateBps opened (opened + duration) ≤
      calculateInterest cfg amount' annualRateBps opened' (opened' + duration') := by
  rw [calculateInterest_eq hproportion (hle.trans hduration),
    calculateInterest_eq hproportion hduration]
  exact perbill_mono hamount (hround.mono (by decide) (Nat.mul_le_mul_left _ hle))

end Interest

section Runs

variable [DecidableEq AccountId] [Currency AccountId L] [LockableCurrency AccountId L]

/-- **Pro-rated interest.** A deposit that is opened and later claimed is paid with interest,
clipped at the range of amounts. The interest is within a billionth of the deposit, and a unit,
of the lesser of the documented interest for its term and the deposit; and it is monotone in the
deposit and in the term. -/
theorem interest_pro_rated (cfg : Config AccountId) (fromRational : ℕ → ℕ → ℕ)
    (hproportion : ∀ n d a, cfg.proportion n d a = Bounded.perbill (fromRational n d) a)
    (hround : RoundsDown fromRational) :
    (∀ (s s' t' : State AccountId L) (ctx ctx' : Context AccountId) (amount durationBlocks : ℕ)
      (documentHash : List UInt8) (is : List (ChainInput AccountId L)),
      step cfg (ctx, .openTimeDeposit amount durationBlocks documentHash) s = .ok s' →
      currentBlock ctx + durationBlocks ≤ u32Max →
      Along (chainStep cfg) (fun t i => i.depositEvent = .opening →
        t.nextTimeDepositId ≠ s.nextTimeDepositId) is s' →
      step cfg (ctx', .claimTimeDeposit s.nextTimeDepositId) (run (chainStep cfg) is s') = .ok t' →
        ∃ depositor interest, ctx.origin = .signed depositor ∧
          Currency.transfer (run (chainStep cfg) is s').ledger cfg.treasuryAccount depositor
            (min (amount + interest) u128Max) .allowDeath = .ok t'.ledger ∧
          |(interest : ℚ) -
              min (amount : ℚ) (documentedInterest amount annualRateBps durationBlocks)| ≤
            amount / 10 ^ 9 + 1) ∧
      ∀ amount amount' duration duration' opened opened', amount ≤ amount' →
        duration ≤ duration' → opened' + duration' ≤ u32Max →
          calculateInterest cfg amount annualRateBps opened (opened + duration) ≤
            calculateInterest cfg amount' annualRateBps opened' (opened' + duration') := by
  refine ⟨?_, ?_⟩
  · intro s s' t' ctx ctx' amount durationBlocks documentHash is hopen hrange hsame hclaim
    obtain ⟨depositor, horigin, -, -, -, l, -, rfl⟩ := openTimeDeposit_eq_ok.mp hopen
    -- the record is still there when it is claimed
    obtain ⟨status, hkept⟩ := deposit_kept StorageMap.get_insert_self hsame
    obtain ⟨caller, -, deposit, hdeposit, hcaller, -, -, -, l', hl', rfl⟩ :=
      claimTimeDeposit_eq_ok.mp hclaim
    rw [hkept] at hdeposit
    obtain rfl := Option.some.inj hdeposit
    obtain rfl : depositor = caller := hcaller
    have hmaturity : saturatingAdd u32Max (currentBlock ctx) durationBlocks =
        currentBlock ctx + durationBlocks := saturatingAdd_of_le hrange
    refine ⟨depositor, calculateInterest cfg amount annualRateBps (currentBlock ctx)
      (currentBlock ctx + durationBlocks), horigin, ?_, ?_⟩
    · rw [← hmaturity]
      exact hl'
    · exact calculateInterest_close hproportion hround (by omega)
  · intro amount amount' duration duration' opened opened' hamount hle hrange
    exact calculateInterest_mono hproportion hround hamount hle (by omega)

end Runs

/-! ### A year, and forty years -/

/-- The citizen 7 deposits a hundred units for a number of blocks, and claims them when the term is
over. -/
def depositFor (durationBlocks : ℕ) : List (Extrinsic ℕ) :=
  [(citizenContext 7 1, .openMasterAccount),
    (citizenContext 7 1, .openTimeDeposit (100 * CentralBank.unit) durationBlocks []),
    (citizenContext 7 (1 + durationBlocks), .claimTimeDeposit 0)]

/-- A deposit for a year is paid back with interest. -/
theorem interest_pro_rated_year :
    let s := run (step bankOfSiberia) ((depositFor blocksPerYear).take 2) bankGenesis
    let t := run (step bankOfSiberia) (depositFor blocksPerYear) bankGenesis
    ∃ depositor interest, Origin.signed 7 = .signed depositor ∧
      Currency.transfer s.ledger bankOfSiberia.treasuryAccount depositor
        (min (100 * CentralBank.unit + interest) u128Max) .allowDeath = .ok t.ledger ∧
      |(interest : ℚ) - min (((100 * CentralBank.unit : ℕ) : ℚ))
          (documentedInterest (100 * CentralBank.unit) annualRateBps blocksPerYear)| ≤
        ((100 * CentralBank.unit : ℕ) : ℚ) / 10 ^ 9 + 1 := by
  intro s t
  have hopened : (step bankOfSiberia (citizenContext 7 1,
      .openTimeDeposit (100 * CentralBank.unit) blocksPerYear [])
      (run (step bankOfSiberia) ((depositFor blocksPerYear).take 1) bankGenesis)).isOk = true := by
    decide +kernel
  have hclaimed : (step bankOfSiberia (citizenContext 7 (1 + blocksPerYear), .claimTimeDeposit 0)
      s).isOk = true := by decide +kernel
  obtain ⟨s', hs'⟩ := exists_ok hopened
  obtain ⟨t', ht'⟩ := exists_ok hclaimed
  have hs : s = s' := exec_ok hs'
  have ht : t = t' := exec_ok ht'
  rw [hs] at ht' ⊢
  rw [ht]
  exact (interest_pro_rated bankOfSiberia Runtime.perbill perbillProportion_eq
    perbill_roundsDown).1 _ s' t' _ _ _ _ _ [] hs' (by decide) trivial ht'

/-- **A fraction cannot be more than one.** For forty years the deposit earns a hundred units, half
of the documented interest. -/
theorem forty_years_saturate :
    let years := 40 * blocksPerYear
    let s := run (step bankOfSiberia) ((depositFor years).take 2) bankGenesis
    let t := run (step bankOfSiberia) (depositFor years) bankGenesis
    Ledger.freeBalance t.ledger 7 = Ledger.freeBalance s.ledger 7 + 200 * CentralBank.unit ∧
      documentedInterest (100 * CentralBank.unit) annualRateBps years = 200 * CentralBank.unit := by
  intro years s t
  refine ⟨by decide +kernel, ?_⟩
  norm_num [documentedInterest, annualRateBps, blocksPerYear, CentralBank.unit, years]

end BankOfSiberia
