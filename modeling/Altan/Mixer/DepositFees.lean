import Altan.Foundation.TransitionSystem
import Altan.Mixer.Model
import Altan.Runtime.Constants

/-!
# What a deposit costs

The fee on a deposit is the sum of two parts of the amount, each rounded down, with a cap; four
accounts share it, the last one what the others leave. The depositor pays the amount and the fee,
and no one else loses anything. A deposit that fails at any of its payments changes nothing.

## Main definitions

* `Settled`: the effect of a deposit on the ledger
* `Unshared`: an account that shares no fee

## Main results

* `calculateTotalFee_eq`, `calculateTotalFee_mono`: the fee
* `DepositPaid.settled`: the balances after a deposit
* `deposit_accounting`: the accounts of every deposit
-/

open Bounded Dispatch Ledger TransitionSystem Runtime

namespace Mixer

/-! ### The fee -/

section Fees

variable {AccountId : Type} {cfg : Config AccountId} {amount amount' : ℕ}

/-- The fee is the sum of its parts up to the cap: the sum is clipped only above the cap. -/
theorem calculateTotalFee_eq (hmax : cfg.maxMixerFee ≤ u128Max) (amount : ℕ) :
    calculateTotalFee cfg amount =
      min (amount * cfg.baseFeePermill / 1000000 + amount * cfg.mixerFeePermill / 1000000)
        cfg.maxMixerFee := by
  unfold calculateTotalFee saturatingAdd permillMulFloor
  dsimp only
  omega

theorem permillMulFloor_mono (parts : ℕ) : Monotone (permillMulFloor parts) := by
  intro a b hab
  exact Nat.div_le_div_right (Nat.mul_le_mul_right parts hab)

theorem calculateTotalFee_mono (cfg : Config AccountId) : Monotone (calculateTotalFee cfg) := by
  intro a b hab
  have hbase := permillMulFloor_mono cfg.baseFeePermill hab
  have hprivacy := permillMulFloor_mono cfg.mixerFeePermill hab
  exact min_le_min_right _ (min_le_min_right _ (Nat.add_le_add hbase hprivacy))

/-- The share of the company is twenty-six parts in a hundred. -/
theorem agShare_eq (totalFee : ℕ) : agShare totalFee = 26 * totalFee / 100 := by
  unfold agShare permillMulFloor
  omega

/-- The shares of the creator and the validators are a tenth each. -/
theorem creatorShare_eq (totalFee : ℕ) :
    creatorShare totalFee = 10 * totalFee / 100 ∧ valShare totalFee = 10 * totalFee / 100 := by
  unfold creatorShare valShare permillMulFloor
  omega

end Fees

/-! ### The payments -/

section Payments

variable {AccountId L : Type} [DecidableEq AccountId] [Currency AccountId L]
  {cfg : Config AccountId} {who : AccountId} {amount : ℕ} {l l₁ l₂ l₃ l₄ l' : L}

/-- The effect of a deposit on the ledger. -/
structure Settled (cfg : Config AccountId) (who : AccountId) (amount : ℕ) (l l' : L) : Prop where
  free : ∀ c, freeBalance l' c +
      (if c = who then amount + calculateTotalFee cfg amount else 0) =
    freeBalance l c + (if c = cfg.poolAccount then amount else 0) + feeTo cfg amount c
  reserved : ∀ c, reservedBalance l' c = reservedBalance l c
  issuance : totalIssuance l' = totalIssuance l

theorem DepositPaid.settled (h : DepositPaid cfg who amount l l₁ l₂ l₃ l₄ l') :
    Settled cfg who amount l l' where
  free := h.free
  reserved c := by
    rw [Currency.transfer_reserved h.khural, Currency.transfer_reserved h.validators,
      Currency.transfer_reserved h.creator, Currency.transfer_reserved h.ag,
      Currency.transfer_reserved h.pool]
  issuance := by
    rw [Currency.transfer_keepAlive_issuance h.khural,
      Currency.transfer_keepAlive_issuance h.validators,
      Currency.transfer_keepAlive_issuance h.creator, Currency.transfer_keepAlive_issuance h.ag,
      Currency.transfer_keepAlive_issuance h.pool]

/-- The account is none of those that share the fee. -/
def Unshared (cfg : Config AccountId) (c : AccountId) : Prop :=
  c ≠ cfg.inomadAgAccount ∧ c ≠ cfg.creatorAccount ∧ c ≠ cfg.validatorsPoolAccount ∧
    c ≠ cfg.khuralFoundationAccount

instance (cfg : Config AccountId) (c : AccountId) : Decidable (Unshared cfg c) :=
  inferInstanceAs (Decidable (_ ∧ _ ∧ _ ∧ _))

omit [Currency AccountId L] in
theorem feeTo_of_unshared {c : AccountId} (h : Unshared cfg c) : feeTo cfg amount c = 0 := by
  obtain ⟨hag, hcreator, hvalidators, hkhural⟩ := h
  unfold feeTo
  simp only [if_neg hag, if_neg hcreator, if_neg hvalidators, if_neg hkhural]

/-- The pool gets exactly the amount when it is neither the depositor nor shares the fee. -/
theorem Settled.pool (h : Settled cfg who amount l l') (hwho : cfg.poolAccount ≠ who)
    (hfee : Unshared cfg cfg.poolAccount) :
    freeBalance l' cfg.poolAccount = freeBalance l cfg.poolAccount + amount := by
  have hfree := h.free cfg.poolAccount
  rw [if_neg hwho, if_pos rfl, feeTo_of_unshared hfee] at hfree
  exact hfree

/-- The depositor pays exactly the amount and the fee when they are neither the pool nor share the
fee. -/
theorem Settled.depositor (h : Settled cfg who amount l l') (hpool : who ≠ cfg.poolAccount)
    (hfee : Unshared cfg who) :
    freeBalance l' who + (amount + calculateTotalFee cfg amount) = freeBalance l who := by
  have hfree := h.free who
  rw [if_pos rfl, if_neg hpool, feeTo_of_unshared hfee] at hfree
  exact hfree

/-- **The accounts of a deposit.** The fee is the sum of the base fee and the privacy fee, each
rounded down, up to the cap; it is monotone, and its four shares make it up. A deposit that goes
through credits the pool with exactly the amount and debits the depositor with the amount and the
fee, and creates and destroys nothing. A deposit that fails, at whichever payment, changes
nothing. -/
theorem deposit_accounting (cfg : Config AccountId) (hmax : cfg.maxMixerFee ≤ u128Max) :
    (∀ amount, calculateTotalFee cfg amount =
      min (amount * cfg.baseFeePermill / 1000000 + amount * cfg.mixerFeePermill / 1000000)
        cfg.maxMixerFee) ∧
    Monotone (calculateTotalFee cfg) ∧
    (∀ fee, agShare fee = 26 * fee / 100 ∧ creatorShare fee = 10 * fee / 100 ∧
      valShare fee = 10 * fee / 100 ∧
      agShare fee + creatorShare fee + valShare fee + khuralShare fee = fee) ∧
    ∀ (s : State AccountId L) (ctx : Context AccountId) (amount : ℕ) (commitment : Bytes32)
      (payload : List UInt8),
      (∀ s', deposit cfg ctx amount commitment payload s = .ok s' →
        ∃ who, ctx.origin = .signed who ∧ Settled cfg who amount s.ledger s'.ledger ∧
          (who ≠ cfg.poolAccount → Unshared cfg cfg.poolAccount →
            freeBalance s'.ledger cfg.poolAccount =
              freeBalance s.ledger cfg.poolAccount + amount) ∧
          (who ≠ cfg.poolAccount → Unshared cfg who →
            freeBalance s'.ledger who + (amount + calculateTotalFee cfg amount) =
              freeBalance s.ledger who)) ∧
      (∀ e, deposit cfg ctx amount commitment payload s = .error e →
        exec (step cfg) (ctx, .deposit amount commitment payload) s = s) ∧
      ∀ who, ctx.origin = .signed who →
        (¬ ∃ l₁ l₂ l₃ l₄ l', DepositPaid cfg who amount s.ledger l₁ l₂ l₃ l₄ l') →
          ∃ e, deposit cfg ctx amount commitment payload s = .error e := by
  refine ⟨calculateTotalFee_eq hmax, calculateTotalFee_mono cfg, fun fee => ?_, ?_⟩
  · exact ⟨agShare_eq fee, (creatorShare_eq fee).1, (creatorShare_eq fee).2, shares_sum fee⟩
  intro s ctx amount commitment payload
  refine ⟨?_, ?_, ?_⟩
  · intro s' h
    obtain ⟨who, hwho, -, -, l₁, l₂, l₃, l₄, l', hpaid, rfl⟩ := (deposit_eq_ok payload).mp h
    have hsettled := hpaid.settled
    exact ⟨who, hwho, hsettled, fun hne hfee => hsettled.pool (Ne.symm hne) hfee,
      fun hne hfee => hsettled.depositor hne hfee⟩
  · exact fun e he => exec_error he
  · intro who hwho hnot
    cases h : deposit cfg ctx amount commitment payload s with
    | error e => exact ⟨e, rfl⟩
    | ok s' =>
      -- a deposit that goes through has made all five payments
      obtain ⟨depositor, hdepositor, -, -, l₁, l₂, l₃, l₄, l', hpaid, -⟩ :=
        (deposit_eq_ok payload).mp h
      obtain rfl : who = depositor := Origin.signed.inj (hwho.symm.trans hdepositor)
      exact absurd ⟨l₁, l₂, l₃, l₄, l', hpaid⟩ hnot

end Payments

/-- The citizen 7 deposits ten units. -/
theorem deposit_accounting_ten_units : ∃ s',
    deposit mixer (mixerContext (.signed 7)) (10 * CentralBank.unit) (.ofByte 1) []
      (mixerGenesis CentralBank.unit) = .ok s' ∧
    freeBalance s'.ledger 7 + (10 * CentralBank.unit + 8000000000) =
      freeBalance (mixerGenesis CentralBank.unit).ledger 7 := by
  have hok : (deposit mixer (mixerContext (.signed 7)) (10 * CentralBank.unit) (.ofByte 1) []
      (mixerGenesis CentralBank.unit)).isOk = true := by decide +kernel
  obtain ⟨s', hs'⟩ := exists_ok hok
  obtain ⟨hfee, -, -, hdeposit⟩ := deposit_accounting (L := NativeLedger ℕ) mixer (by decide)
  obtain ⟨who, hwho, -, -, hpays⟩ := (hdeposit _ _ _ _ _).1 s' hs'
  obtain rfl : 7 = who := Origin.signed.inj hwho
  have hpaid := hpays (by decide) (by decide)
  rw [hfee] at hpaid
  exact ⟨s', hs', hpaid⟩

end Mixer
