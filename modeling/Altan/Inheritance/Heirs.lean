import Altan.Foundation.Payments
import Altan.Runtime.Estates

/-!
# What the heirs receive

A will divides what is left of the reserved balance by percentages; the last heir is to have what
the rounding leaves. The execution counts every payment as distributed, whether it was made or not,
so what it reports is always the whole. What the heirs have of it is another matter: a payment that
is refused stays on the account of the deceased, and the will is gone.

## Main definitions

* `netForHeirs`: what is divided
* `bequests net given heirs`: what the will says the heirs are to have
* `totalDistributed`: what an execution reports
* `Delivered`: the heirs have what they were to have, and nothing of it stays behind
* `Deliverable`: what has to hold for that before the execution

## Main results

* `shares_eq_bequests_iff`: when the payments are those the will says
* `payOut_delivered_iff`: when they all arrive
* `will_delivered_iff`: so when the heirs have what the will says
-/

open Bounded Currency Dispatch Ledger

namespace Inheritance

variable {AccountId L : Type}

/-! ### What the will says -/

section Bequests

/-- What the heirs are to have of `net`, when `given` went to those before them: the percentage
rounded down, and for the last heir what is left. -/
def bequests (net : ℕ) : ℕ → List (AccountId × ℕ) → List (AccountId × ℕ)
  | _, [] => []
  | given, (heir, pct) :: heirs =>
    let bequest := if heirs = [] then net - given else net * pct / 100
    (heir, bequest) :: bequests net (given + bequest) heirs

/-- What the execution counts as distributed in the end, with `distributed` so far. -/
def distributedAfter (total : ℕ) : ℕ → List (AccountId × ℕ) → ℕ
  | distributed, [] => distributed
  | distributed, (_, pct) :: heirs =>
    let share :=
      if heirs = [] then total - distributed
      else saturatingMul u128Max total pct / 100
    distributedAfter total
      (if share = 0 then distributed else saturatingAdd u128Max distributed share) heirs

variable {net d : ℕ} {heirs : List (AccountId × ℕ)}

/-- **What is reported is the whole.** -/
theorem distributedAfter_eq (hmax : net ≤ u128Max)
    (h : 100 * d + net * (heirs.map Prod.snd).sum ≤ 100 * net) (hne : heirs ≠ []) :
    distributedAfter net d heirs = net := by
  induction heirs generalizing d with
  | nil => exact absurd rfl hne
  | cons p heirs ih =>
    obtain ⟨heir, pct⟩ := p
    unfold distributedAfter
    by_cases hlast : heirs = []
    · subst hlast
      have hrest : d + (net - d) = net := by
        simp only [List.map_cons, List.sum_cons] at h
        omega
      simp only [reduceIte, distributedAfter, saturatingAdd]
      split <;> omega
    simp only [if_neg hlast, List.map_cons, List.sum_cons, Nat.mul_add] at h ⊢
    have hshare := share_le net pct
    rw [next_distributed hmax h]
    exact ih (by omega) hlast

/-- The bequests make up what is divided. -/
theorem bequests_sum (h : 100 * d + net * (heirs.map Prod.snd).sum ≤ 100 * net)
    (hne : heirs ≠ []) : ((bequests net d heirs).map Prod.snd).sum = net - d := by
  induction heirs generalizing d with
  | nil => exact absurd rfl hne
  | cons p heirs ih =>
    obtain ⟨heir, pct⟩ := p
    unfold bequests
    by_cases hlast : heirs = []
    · subst hlast
      simp [bequests]
    simp only [if_neg hlast, List.map_cons, List.sum_cons, Nat.mul_add] at h ⊢
    have hbequest := Nat.mul_div_le (net * pct) 100
    rw [ih (by omega) hlast]
    omega

/-- **The payments are those the will says**, unless a product with a percentage goes beyond what
can be represented. -/
theorem shares_eq_bequests_iff (hmax : net ≤ u128Max)
    (h : 100 * d + net * (heirs.map Prod.snd).sum ≤ 100 * net) :
    shares net d heirs = bequests net d heirs ↔
      ∀ p ∈ heirs.dropLast, net * p.2 / 100 ≤ u128Max / 100 := by
  induction heirs generalizing d with
  | nil => simp [shares, bequests]
  | cons p heirs ih =>
    obtain ⟨heir, pct⟩ := p
    unfold shares bequests
    by_cases hlast : heirs = []
    · subst hlast
      simp [shares, bequests]
    simp only [if_neg hlast, List.map_cons, List.sum_cons, Nat.mul_add] at h ⊢
    have hbequest := Nat.mul_div_le (net * pct) 100
    have hmono : Monotone fun v : ℕ => v / 100 := fun _ _ hle => Nat.div_le_div_right hle
    have hshare : saturatingMul u128Max net pct / 100 = min (net * pct / 100) (u128Max / 100) :=
      hmono.map_min
    rw [next_distributed hmax h, List.cons.injEq, Prod.mk.injEq, List.dropLast_cons_of_ne_nil hlast,
      List.forall_mem_cons]
    dsimp only
    by_cases hfits : net * pct / 100 ≤ u128Max / 100
    · rw [hshare, Nat.min_eq_left hfits, ih (by omega)]
      simp [hfits]
    · refine iff_of_false ?_ fun hall => hfits hall.1
      rintro ⟨⟨-, hsame⟩, -⟩
      omega

end Bequests

/-! ### What the heirs have of it -/

section Delivery

variable [DecidableEq AccountId] [Currency AccountId L]

/-- What is divided among the heirs: what is reserved on an account, less the debt. -/
def netForHeirs (debt : ℕ) (who : AccountId) (l : L) : ℕ :=
  reservedBalance l who - min debt (reservedBalance l who)

/-- What the execution of a certified will reports as distributed. -/
def totalDistributed (debt : ℕ) (who : AccountId) (will : Will AccountId) (l : L) : ℕ :=
  if reservedBalance l who = 0 then 0
  else distributedAfter (netForHeirs debt who l) 0 will.heirs.val

/-- What the heirs are to have by the will of an account. -/
def legacies (debt : ℕ) (who : AccountId) (will : Will AccountId) (l : L) :
    List (AccountId × ℕ) :=
  bequests (netForHeirs debt who l) 0 will.heirs.val

/-- The payments to them. -/
def payments (debt : ℕ) (who : AccountId) (will : Will AccountId) (l : L) :
    List (AccountId × ℕ) :=
  shares (netForHeirs debt who l) 0 will.heirs.val

/-- Payments out of an account have arrived: everybody else is credited with what is for them, all
that was to be paid is credited to somebody, and the account has what it had free before. -/
structure Delivered (l l' : L) (who : AccountId) (ps : List (AccountId × ℕ)) : Prop where
  credited : ∀ c, c ≠ who → freeBalance l' c = freeBalance l c + received c ps
  total : ∑ c ∈ (ps.map Prod.fst).toFinset, (freeBalance l' c - freeBalance l c) =
    (ps.map Prod.snd).sum
  nothingLeft : freeBalance l' who = freeBalance l who

/-- What has to hold of an account and of the heirs for the bequests to arrive. -/
structure Deliverable (l : L) (who : AccountId) (net : ℕ) (heirs : List (AccountId × ℕ)) :
    Prop where
  /-- The products with the percentages can be represented, up to the rounding. -/
  fits : ∀ p ∈ heirs.dropLast, net * p.2 / 100 ≤ u128Max / 100
  /-- The deceased is not an heir, unless of nothing. -/
  elsewhere : ∀ p ∈ bequests net 0 heirs, p.2 ≠ 0 → p.1 ≠ who
  /-- What was free before covers what is locked. -/
  unlocked : net ≠ 0 → ∀ id, lockAmount l id who ≤ freeBalance l who
  /-- Every heir has the existential deposit with the bequest. -/
  reaches : Reaches l (bequests net 0 heirs)

section Nothing

variable {l : L} {who : AccountId} {ps : List (AccountId × ℕ)} {heirs : List (AccountId × ℕ)}

/-- Nothing arrives by itself. -/
theorem delivered_nothing (h : (ps.map Prod.snd).sum = 0) : Delivered l l who ps where
  credited c _ := by rw [received_of_total h, Nat.add_zero]
  total := by rw [h, Finset.sum_eq_zero fun c _ => Nat.sub_self _]
  nothingLeft := rfl

theorem deliverable_nothing {net : ℕ} (hnet : net = 0)
    (h : ((bequests net 0 heirs).map Prod.snd).sum = 0) : Deliverable l who net heirs := by
  have hzero : ∀ p ∈ bequests net 0 heirs, p.2 = 0 := fun p hp =>
    List.sum_eq_zero_iff.mp h p.2 (List.mem_map_of_mem hp)
  refine ⟨fun p _ => by simp [hnet], fun p hp hne => absurd (hzero p hp) hne,
    fun hne => absurd hnet hne, fun pre b v post hps hv => ?_⟩
  exact absurd (hzero (b, v) (by rw [hps]; simp)) hv

end Nothing

variable [LockableCurrency AccountId L] [SpendableTransfers AccountId L] {l l₁ : L}
  {who : AccountId} {ps : List (AccountId × ℕ)}

/-- **Payments arrive when none is refused**, out of an account to which what is to be paid was
released. -/
theorem payOut_delivered_iff (halive : existentialDeposit L ≤ freeBalance l who)
    (hfree : freeBalance l₁ who = freeBalance l who + (ps.map Prod.snd).sum)
    (hothers : ∀ c, c ≠ who → freeBalance l₁ c = freeBalance l c) :
    Delivered l (payOut l₁ who ps) who ps ↔ Payable l₁ who ps := by
  constructor
  · exact fun h => (payOut_free_iff halive hfree).mp h.nothingLeft
  intro hpayable
  have hleft := (payOut_free_iff halive hfree).mpr hpayable
  have hcredited : ∀ c, c ≠ who →
      freeBalance (payOut l₁ who ps) c = freeBalance l c + received c ps := by
    intro c hc
    rw [payOut_received halive hfree hpayable hc, hothers c hc]
  refine ⟨hcredited, ?_, hleft⟩
  rw [← sum_received fun p hp => List.mem_toFinset.mpr (List.mem_map_of_mem hp)]
  refine Finset.sum_congr rfl fun c _ => ?_
  by_cases hc : c = who
  -- nothing was to be paid to the account itself
  · rw [hc, hleft, Nat.sub_self, received_eq_zero hpayable.elsewhere]
  · rw [hcredited c hc, Nat.add_sub_cancel_left]

omit [LockableCurrency AccountId L] [SpendableTransfers AccountId L] in
/-- Whether payments are refused can be told before what is to be paid is released. -/
theorem payable_iff (hfree : freeBalance l₁ who = freeBalance l who + (ps.map Prod.snd).sum)
    (hothers : ∀ c, c ≠ who → freeBalance l₁ c = freeBalance l c)
    (hreserved : reservedBalance l₁ who = 0)
    (hlock : ∀ id, lockAmount l₁ id who = lockAmount l id who) :
    Payable l₁ who ps ↔ (∀ p ∈ ps, p.2 ≠ 0 → p.1 ≠ who) ∧
      ((ps.map Prod.snd).sum ≠ 0 → ∀ id, lockAmount l id who ≤ freeBalance l who) ∧
        Reaches l ps := by
  have hspendable : Spendable l₁ who (ps.map Prod.snd).sum ↔
      ∀ id, lockAmount l id who ≤ freeBalance l who := by
    refine forall_congr' fun id => ?_
    rw [hlock, hreserved, hfree]
    omega
  have hreaches : (∀ p ∈ ps, p.2 ≠ 0 → p.1 ≠ who) → (Reaches l₁ ps ↔ Reaches l ps) := by
    intro helsewhere
    refine forall_congr' fun pre => forall_congr' fun b => forall_congr' fun v =>
      forall_congr' fun post => forall_congr' fun hps => forall_congr' fun hv => ?_
    rw [hothers b (helsewhere (b, v) (by rw [hps]; simp) hv)]
  constructor
  · rintro ⟨helsewhere, hspend, hreach⟩
    exact ⟨helsewhere, fun hne => hspendable.mp (hspend hne), (hreaches helsewhere).mp hreach⟩
  · rintro ⟨helsewhere, hunlocked, hreach⟩
    exact ⟨helsewhere, fun hne => hspendable.mpr (hunlocked hne), (hreaches helsewhere).mpr hreach⟩

end Delivery

/-! ### The execution of a will -/

section Execution

variable [DecidableEq AccountId] [Currency AccountId L] [EscrowCurrency AccountId L] {l : L}
  {debt : ℕ} {who : AccountId}

/-- The ledger the heirs are paid from: what is owed is burned, and the rest is released. -/
def releasedFor (debt : ℕ) (who : AccountId) (l : L) : L :=
  let settled := settleDebt who debt (reservedBalance l who) l
  EscrowCurrency.unreserve settled.2 who settled.1

/-- What burning the debt and releasing the rest do to the balances. -/
structure ReleasedFor (l l₁ : L) (who : AccountId) (net : ℕ) : Prop where
  free : freeBalance l₁ who = freeBalance l who + net
  others : ∀ c, c ≠ who → freeBalance l₁ c = freeBalance l c
  reserved : reservedBalance l₁ who = 0
  locks : ∀ id c, lockAmount l₁ id c = lockAmount l id c

omit [DecidableEq AccountId] in
theorem settleDebt_net :
    (settleDebt who debt (reservedBalance l who) l).1 = netForHeirs debt who l := by
  unfold settleDebt netForHeirs
  split
  · rfl
  · next hnone => rw [Nat.eq_zero_of_not_pos hnone, Nat.zero_min, Nat.sub_zero]

omit [DecidableEq AccountId] in
theorem releasedFor_released [LockedEscrow AccountId L] (debt : ℕ) (who : AccountId) (l : L) :
    ReleasedFor l (releasedFor debt who l) who (netForHeirs debt who l) := by
  obtain ⟨hslashed, hrest⟩ : Slashed l (settleDebt who debt (reservedBalance l who) l).2 who
      (min debt (reservedBalance l who)) ∧ _ := settleDebt_slashed rfl
  have hreleased := EscrowCurrency.unreserve_released
    (settleDebt who debt (reservedBalance l who) l).2 who
    (settleDebt who debt (reservedBalance l who) l).1
  rw [hrest, Nat.min_self, ← hrest] at hreleased
  refine ⟨?_, fun c hc => (hreleased.others c hc).trans (hslashed.free c), ?_, fun id c => ?_⟩
  · rw [← settleDebt_net, ← hslashed.free who]
    exact hreleased.free
  · have hreserved : reservedBalance (releasedFor debt who l) who + _ = _ := hreleased.reserved
    omega
  · refine (UnlockedEscrow.unreserve_lock _ _ _ id c).trans ?_
    unfold settleDebt
    split
    · exact LockedEscrow.slashReserved_lock _ _ _ id c
    · rfl

/-- A certified will is executed by payments out of what is released. -/
theorem doExecuteWill_eq (cfg : Config AccountId) (debt : AccountId → ℕ) {s : State AccountId L}
    {will : Will AccountId} (hwill : s.activeWills.get who = some will)
    (hnotarized : will.isNotarized = true) (hreserved : reservedBalance s.ledger who ≠ 0) :
    ∃ s', doExecuteWill cfg debt who s = .ok s' ∧
      s'.ledger = payOut (releasedFor (debt who) who s.ledger) who
        (payments (debt who) who will s.ledger) := by
  have hsome : (s.activeWills.get who).filter Will.isNotarized = some will :=
    Option.filter_eq_some_iff.mpr ⟨hwill, hnotarized⟩
  unfold doExecuteWill
  simp only [hsome]
  rw [if_neg hreserved]
  refine ⟨_, rfl, ?_⟩
  unfold payments
  rw [payHeirs_eq_payOut, ← settleDebt_net]
  rfl

variable [LockableCurrency AccountId L] [SpendableTransfers AccountId L]
  [LockedEscrow AccountId L]

/-- The payments of a certified will arrive when it can be delivered. -/
theorem legacies_delivered_iff {will : Will AccountId} (hreserved : reservedBalance l who ≠ 0)
    (hsum : ((legacies debt who will l).map Prod.snd).sum = netForHeirs debt who l) :
    Delivered l (payOut (releasedFor debt who l) who (legacies debt who will l)) who
        (legacies debt who will l) ↔
      (∀ p ∈ legacies debt who will l, p.2 ≠ 0 → p.1 ≠ who) ∧
        (netForHeirs debt who l ≠ 0 → ∀ id, lockAmount l id who ≤ freeBalance l who) ∧
          Reaches l (legacies debt who will l) := by
  have hreleased := releasedFor_released debt who l
  have hfree : freeBalance (releasedFor debt who l) who = freeBalance l who + _ := hreleased.free
  have halive := EscrowCurrency.reserved_provided l who (Nat.pos_of_ne_zero hreserved)
  rw [← hsum] at hfree
  rw [payOut_delivered_iff halive hfree hreleased.others,
    payable_iff hfree hreleased.others hreleased.reserved fun id => hreleased.locks id who, hsum]

/-- **When the heirs receive what the will says.** The execution of a certified will goes through,
reports the whole as distributed and releases all that was reserved. Every heir is credited with the
percentage of it, and the last one with the rest, and nothing stays behind, exactly when the will
can be delivered. -/
theorem will_delivered_iff (cfg : Config AccountId) (debt : AccountId → ℕ) (who : AccountId)
    (s : State AccountId L) (will : Will AccountId) (hwill : s.activeWills.get who = some will)
    (hnotarized : will.isNotarized = true) :
    ∃ s', doExecuteWill cfg debt who s = .ok s' ∧
      totalDistributed (debt who) who will s.ledger = netForHeirs (debt who) who s.ledger ∧
      ((legacies (debt who) who will s.ledger).map Prod.snd).sum =
        netForHeirs (debt who) who s.ledger ∧
      reservedBalance s'.ledger who = 0 ∧
      ((payments (debt who) who will s.ledger = legacies (debt who) who will s.ledger ∧
          Delivered s.ledger s'.ledger who (legacies (debt who) who will s.ledger)) ↔
        Deliverable s.ledger who (netForHeirs (debt who) who s.ledger) will.heirs.val) := by
  have hmax : netForHeirs (debt who) who s.ledger ≤ u128Max :=
    (Nat.sub_le _ _).trans (reserved_le_max _ _)
  have hpercent : 100 * 0 +
      netForHeirs (debt who) who s.ledger * (will.heirs.val.map Prod.snd).sum ≤
        100 * netForHeirs (debt who) who s.ledger := by
    rw [will.shares_sum]
    omega
  have hsum : ((legacies (debt who) who will s.ledger).map Prod.snd).sum =
      netForHeirs (debt who) who s.ledger := bequests_sum hpercent will.heirs_ne_nil
  have hfits : payments (debt who) who will s.ledger = legacies (debt who) who will s.ledger ↔ _ :=
    shares_eq_bequests_iff hmax hpercent
  by_cases hreserved : reservedBalance s.ledger who = 0
  · -- nothing is reserved, so nothing is done
    obtain ⟨s', hs', hledger⟩ := doExecuteWill_of_unreserved (s := s) cfg debt hreserved
    have hnet : netForHeirs (debt who) who s.ledger = 0 := by
      unfold netForHeirs
      rw [hreserved, Nat.zero_sub]
    refine ⟨s', hs', ?_, hsum, by rw [hledger, hreserved], ?_⟩
    · unfold totalDistributed
      rw [if_pos hreserved, hnet]
    · rw [hledger]
      refine iff_of_true ⟨hfits.mpr fun p _ => by simp [hnet], ?_⟩ ?_
      · exact delivered_nothing (hsum.trans hnet)
      · exact deliverable_nothing hnet (hsum.trans hnet)
  · obtain ⟨s', hs', hledger⟩ := doExecuteWill_eq cfg debt hwill hnotarized hreserved
    refine ⟨s', hs', ?_, hsum, ?_, ?_⟩
    · unfold totalDistributed
      rw [if_neg hreserved]
      exact distributedAfter_eq hmax hpercent will.heirs_ne_nil
    · rw [hledger, payOut_reserved]
      exact (releasedFor_released (debt who) who s.ledger).reserved
    constructor
    · rintro ⟨hshares, hdelivered⟩
      rw [hledger, hshares, legacies_delivered_iff hreserved hsum] at hdelivered
      obtain ⟨helsewhere, hunlocked, hreaches⟩ := hdelivered
      exact ⟨hfits.mp hshares, helsewhere, hunlocked, hreaches⟩
    · rintro ⟨hpercentages, helsewhere, hunlocked, hreaches⟩
      have hshares := hfits.mpr hpercentages
      refine ⟨hshares, ?_⟩
      rw [hledger, hshares, legacies_delivered_iff hreserved hsum]
      exact ⟨helsewhere, hunlocked, hreaches⟩

end Execution

/-! ### An heir without an account -/

/-- A certified will of the account 7, and what is reserved on it. -/
def certifiedWill (reserved : ℕ) (will : Will ℕ) : State ℕ (Runtime.EscrowLedger ℕ) where
  activeWills := (∅ : StorageMap ℕ (Will ℕ)).insert 7 will
  ledger :=
    attempt (fun l => ReservableCurrency.reserve l 7 reserved)
      (ProvidedBalances.ofFree [(7, 1000 * CentralBank.unit), (8, CentralBank.unit)])

/-- One heir is to have the percentage, and the account 8 the rest. -/
def dividedWill (heir pct : ℕ) (h : pct ≤ 100) : Will ℕ where
  heirs := ⟨[(heir, pct), (8, 100 - pct)], Nat.le_of_ble_eq_true rfl⟩
  isNotarized := true
  notary := some 8
  shares_sum := by
    simp only [List.map_cons, List.map_nil, List.sum_cons, List.sum_nil]
    omega

/-- A hundredth of ten existential deposits does not give the heir an account, and stays behind. -/
theorem small_bequest_stays :
    ¬ ∀ (debt : ℕ → ℕ) (who : ℕ) (s : State ℕ (Runtime.EscrowLedger ℕ)) (will : Will ℕ),
      s.activeWills.get who = some will → will.isNotarized = true →
        ∃ s', doExecuteWill ⟨2⟩ debt who s = .ok s' ∧
          Delivered s.ledger s'.ledger who (legacies (debt who) who will s.ledger) := by
  intro h
  obtain ⟨s', hs', hdelivered⟩ := h (fun _ => 0) 7
    (certifiedWill (10 * Runtime.existentialDeposit) (dividedWill 9 1 (by decide)))
    (dividedWill 9 1 (by decide)) (by decide +kernel) rfl
  have hleft := hdelivered.nothingLeft
  have hstays : ((doExecuteWill ⟨2⟩ (fun _ => 0) 7
      (certifiedWill (10 * Runtime.existentialDeposit) (dividedWill 9 1 (by decide)))).map
        fun t => freeBalance t.ledger 7) ≠ .ok (freeBalance (certifiedWill
          (10 * Runtime.existentialDeposit) (dividedWill 9 1 (by decide))).ledger 7) := by
    decide +kernel
  rw [hs'] at hstays
  exact hstays (congrArg Except.ok hleft)

/-- Three tenths of ten units do, and the will is delivered. -/
theorem will_delivered_three_tenths :
    ∃ s', doExecuteWill ⟨2⟩ (fun _ => 0) 7
        (certifiedWill (10 * CentralBank.unit) (dividedWill 9 30 (by decide))) = .ok s' ∧
      freeBalance s'.ledger 9 = 3 * CentralBank.unit ∧
        freeBalance s'.ledger 8 = 8 * CentralBank.unit := by
  obtain ⟨s', hs', -, -, -, hiff⟩ := will_delivered_iff ⟨2⟩ (fun _ => 0) 7
    (certifiedWill (10 * CentralBank.unit) (dividedWill 9 30 (by decide)))
    (dividedWill 9 30 (by decide)) (by decide +kernel) rfl
  refine ⟨s', hs', ?_⟩
  have henough : ∀ p ∈ legacies 0 7 (dividedWill 9 30 (by decide)) (certifiedWill
      (10 * CentralBank.unit) (dividedWill 9 30 (by decide))).ledger,
        Runtime.existentialDeposit ≤ p.2 := by
    decide +kernel
  obtain ⟨-, hdelivered⟩ := hiff.mpr
    { fits := by decide +kernel
      elsewhere := by decide +kernel
      unlocked := fun _ _ => Nat.zero_le _
      reaches := fun pre b v post hps _ =>
        (henough (b, v) (by rw [legacies, hps]; simp)).trans (Nat.le_add_left _ _) }
  have hnine := hdelivered.credited 9 (by decide)
  have height := hdelivered.credited 8 (by decide)
  exact ⟨hnine.trans (by decide +kernel), height.trans (by decide +kernel)⟩

end Inheritance
