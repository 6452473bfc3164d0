import Altan.Inheritance.Model

/-!
# What the execution of a will does

The shares of the heirs make up exactly what is to be paid, so the payments never reach into what
the account held free before. Every execution goes through, and has two parts: something is burned
of what is reserved, and then payments are made out of the account that leave its free balance.

## Main definitions

* `shares total d heirs`: the payments to the heirs
* `burned`: what an execution burns

## Main results

* `shares_sum`: the shares make up what is to be paid
* `doExecuteWill_spec`: the two parts of an execution
-/

open Bounded Dispatch Ledger

namespace Inheritance

variable {AccountId L : Type}

/-! ### The shares -/

section Shares

/-- The payments to the heirs of `total`, with `distributed` given out so far. -/
def shares (total : ℕ) : ℕ → List (AccountId × ℕ) → List (AccountId × ℕ)
  | _, [] => []
  | distributed, (heir, pct) :: heirs =>
    let share :=
      if heirs = [] then total - distributed
      else saturatingMul u128Max total pct / 100
    (heir, share) ::
      shares total (if share = 0 then distributed else saturatingAdd u128Max distributed share)
        heirs

theorem payHeirs_eq_payOut [DecidableEq AccountId] [Currency AccountId L] {deceased : AccountId}
    {total d : ℕ} {heirs : List (AccountId × ℕ)} {l : L} :
    payHeirs deceased total d heirs l = Currency.payOut l deceased (shares total d heirs) := by
  induction heirs generalizing d l with
  | nil => rfl
  | cons p heirs ih =>
    obtain ⟨heir, pct⟩ := p
    unfold payHeirs shares Currency.payOut
    simp only [List.foldl_cons]
    generalize (if heirs = [] then total - d else saturatingMul u128Max total pct / 100) = share
    by_cases hshare : share = 0
    -- nothing moves when a share is nothing
    · have hnoop : Currency.payTo deceased l (heir, 0) = l :=
        attempt_of_ok (Currency.transfer_noop l deceased heir 0 .allowDeath (Or.inl rfl))
      rw [if_pos hshare, if_pos hshare, hshare, hnoop]
      exact ih
    · rw [if_neg hshare, if_neg hshare]
      exact ih

section Sums

variable {total d : ℕ} {heirs : List (AccountId × ℕ)}

/-- A share is at most what the percentage says. -/
theorem share_le (total pct : ℕ) : 100 * (saturatingMul u128Max total pct / 100) ≤ total * pct :=
  (Nat.mul_div_le _ _).trans (Nat.min_le_left _ _)

/-- And does not bring what is given out beyond what is to be paid. -/
theorem next_distributed {pct rest : ℕ} (hmax : total ≤ u128Max)
    (h : 100 * d + (total * pct + rest) ≤ 100 * total) :
    (if saturatingMul u128Max total pct / 100 = 0 then d
      else saturatingAdd u128Max d (saturatingMul u128Max total pct / 100)) =
        d + saturatingMul u128Max total pct / 100 := by
  have hshare := share_le total pct
  unfold saturatingAdd
  split <;> omega

/-- **The shares make up what is to be paid**: of the heirs but the last none gets more than the
percentage says, and the last one gets the rest. -/
theorem shares_sum (hmax : total ≤ u128Max)
    (h : 100 * d + total * (heirs.map Prod.snd).sum ≤ 100 * total) (hne : heirs ≠ []) :
    ((shares total d heirs).map Prod.snd).sum = total - d := by
  induction heirs generalizing d with
  | nil => exact absurd rfl hne
  | cons p heirs ih =>
    obtain ⟨heir, pct⟩ := p
    unfold shares
    by_cases hlast : heirs = []
    · subst hlast
      simp [shares]
    simp only [if_neg hlast, List.map_cons, List.sum_cons, Nat.mul_add] at h ⊢
    have hshare := share_le total pct
    rw [next_distributed hmax h, ih (by omega) hlast]
    omega

end Sums

theorem Will.heirs_ne_nil (will : Will AccountId) : will.heirs.val ≠ [] := by
  intro hnil
  have hsum := will.shares_sum
  rw [hnil] at hsum
  cases hsum

/-- The payments of a certified will make up what is to be paid. -/
theorem will_shares_sum (will : Will AccountId) {total : ℕ} (hmax : total ≤ u128Max) :
    ((shares total 0 will.heirs.val).map Prod.snd).sum = total := by
  rw [shares_sum hmax _ will.heirs_ne_nil, Nat.sub_zero]
  rw [will.shares_sum]
  omega

end Shares

/-! ### The parts of an execution -/

section Parts

variable [DecidableEq AccountId] [Currency AccountId L] [EscrowCurrency AccountId L]
  {cfg : Config AccountId} {debt : AccountId → ℕ} {who : AccountId} {s s' : State AccountId L}

/-- A citizen has a certified will. -/
def HasNotarizedWill (s : State AccountId L) (who : AccountId) : Prop :=
  ∃ will ∈ s.activeWills.get who, will.isNotarized = true

instance (s : State AccountId L) (who : AccountId) : Decidable (HasNotarizedWill s who) :=
  inferInstanceAs (Decidable (∃ will ∈ s.activeWills.get who, _))

/-- What an execution burns: with a certified will what is owed, as far as the reserved funds
go. -/
def burned (debt : ℕ) (who : AccountId) (s : State AccountId L) : ℕ :=
  if HasNotarizedWill s who then min debt (reservedBalance s.ledger who) else 0

omit [DecidableEq AccountId] in
theorem settleDebt_slashed {outstanding : ℕ} {l : L} {p : ℕ × L}
    (h : settleDebt who outstanding (reservedBalance l who) l = p) :
    Slashed l p.2 who (min outstanding (reservedBalance l who)) ∧
      p.1 = reservedBalance p.2 who := by
  unfold settleDebt at h
  split at h
  · have hslashed := EscrowCurrency.slashReserved_slashed l who
      (min outstanding (reservedBalance l who))
    rw [Nat.min_eq_left (Nat.min_le_right _ _)] at hslashed
    have hreserved := hslashed.reserved
    subst h
    refine ⟨hslashed, ?_⟩
    show reservedBalance l who - _ = reservedBalance (EscrowCurrency.slashReserved l who _) who
    omega
  · next hnone =>
    subst h
    rw [Nat.eq_zero_of_not_pos hnone, Nat.zero_min]
    exact ⟨.refl l who, rfl⟩

/-- Giving back all that is reserved and paying it out leaves the free balance of before. -/
theorem release_payOut_disbursed {l : L} (ps : List (AccountId × ℕ))
    (halive : existentialDeposit L ≤ freeBalance l who)
    (hps : (ps.map Prod.snd).sum = reservedBalance l who) :
    Disbursed l
      (Currency.payOut (EscrowCurrency.unreserve l who (reservedBalance l who)) who ps) who
      (freeBalance l who) := by
  have hreleased := EscrowCurrency.unreserve_released l who (reservedBalance l who)
  rw [Nat.min_self] at hreleased
  refine hreleased.disbursed.trans (Currency.payOut_disbursed halive ?_)
  rw [hps, hreleased.free]

/-- Where nothing is reserved nothing is paid. -/
theorem doExecuteWill_of_unreserved (cfg : Config AccountId) (debt : AccountId → ℕ)
    (hzero : reservedBalance s.ledger who = 0) :
    ∃ s', doExecuteWill cfg debt who s = .ok s' ∧ s'.ledger = s.ledger := by
  unfold doExecuteWill
  simp only
  split
  · rw [if_pos hzero]
    exact ⟨s, rfl, rfl⟩
  · refine ⟨_, rfl, ?_⟩
    exact if_neg (Nat.not_lt.mpr hzero.le)

omit [DecidableEq AccountId] [EscrowCurrency AccountId L] in
theorem reserved_le_max (l : L) (who : AccountId) : reservedBalance l who ≤ u128Max :=
  (Nat.le_add_left _ _).trans ((balance_le_totalIssuance l who).trans (totalIssuance_le l))

/-- Without a certified will all that is reserved is paid to the treasury. -/
theorem doExecuteWill_of_not_notarized (h : ¬ HasNotarizedWill s who) :
    ∃ s', doExecuteWill cfg debt who s = .ok s' ∧
      Disbursed s.ledger s'.ledger who (freeBalance s.ledger who) := by
  have hnone : (s.activeWills.get who).filter Will.isNotarized = none := by
    rw [Option.filter_eq_none_iff]
    intro will hget hnotarized
    exact h ⟨will, hget, hnotarized⟩
  unfold doExecuteWill
  simp only [hnone]
  refine ⟨_, rfl, ?_⟩
  show Disbursed s.ledger (if 0 < reservedBalance s.ledger who then _ else s.ledger) who _
  split
  · next hpos =>
    exact release_payOut_disbursed [(cfg.stateTreasury, _)]
      (EscrowCurrency.reserved_provided s.ledger who hpos) (Nat.add_zero _)
  · exact .refl (Nat.le_refl _)

/-- With a certified will what is owed is burned, and the rest of what is reserved is paid to the
heirs. -/
theorem doExecuteWill_of_notarized (h : HasNotarizedWill s who) :
    ∃ s' l, doExecuteWill cfg debt who s = .ok s' ∧
      Slashed s.ledger l who (min (debt who) (reservedBalance s.ledger who)) ∧
      Disbursed l s'.ledger who (freeBalance s.ledger who) := by
  obtain ⟨will, hget, hnotarized⟩ := h
  have hsome : (s.activeWills.get who).filter Will.isNotarized = some will :=
    Option.filter_eq_some_iff.mpr ⟨hget, hnotarized⟩
  unfold doExecuteWill
  simp only [hsome]
  by_cases hzero : reservedBalance s.ledger who = 0
  · rw [if_pos hzero, hzero, Nat.min_zero]
    exact ⟨s, s.ledger, rfl, .refl _ _, .refl (Nat.le_refl _)⟩
  · rw [if_neg hzero]
    obtain ⟨hslashed, hrest⟩ := settleDebt_slashed
      (p := settleDebt who (debt who) (reservedBalance s.ledger who) s.ledger) rfl
    refine ⟨_, _, rfl, hslashed, ?_⟩
    have hfree := hslashed.free who
    rw [payHeirs_eq_payOut, hrest, ← hfree]
    apply release_payOut_disbursed
    · rw [hfree]
      exact EscrowCurrency.reserved_provided s.ledger who (Nat.pos_of_ne_zero hzero)
    · exact will_shares_sum will (reserved_le_max _ _)

/-- **The two parts of an execution.** It goes through; first something is burned of what is
reserved, with a certified will only, and then payments are made that leave the free balance. -/
theorem doExecuteWill_spec (cfg : Config AccountId) (debt : AccountId → ℕ) (who : AccountId)
    (s : State AccountId L) :
    ∃ s' l, doExecuteWill cfg debt who s = .ok s' ∧
      Slashed s.ledger l who (burned (debt who) who s) ∧
      Disbursed l s'.ledger who (freeBalance s.ledger who) := by
  unfold burned
  split
  · next h => exact doExecuteWill_of_notarized h
  · next h =>
    obtain ⟨s', hs', hdisbursed⟩ := doExecuteWill_of_not_notarized h
    exact ⟨s', s.ledger, hs', .refl _ _, hdisbursed⟩

end Parts

end Inheritance
