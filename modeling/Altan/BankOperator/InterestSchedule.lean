import Altan.BankOperator.Spec
import Altan.Foundation.Accounting
import Altan.Foundation.Instalments

/-!
# When the interest of a credit is collected

Interest accrues in whole periods and whole units since the last collection, and a collection starts
both anew. So what is owed at a block depends on when interest was collected before, by calls that
anybody may make, unless every collection came at the end of a period and left no part of a unit
that counts.

## Main definitions

* `interestDue`: the interest owed in a block
* `InterestBook`, `keepBook`: the interest paid, and the principal repaid with the periods it was
  owed for
* `scheduled`: the interest since the issue, whenever it was collected
* `OnSchedule`: the interest paid and owed is the scheduled one, in all blocks to come
* `OnTime`: a collection drops nothing

## Main results

* `calculateAccruedInterest_eq`: the interest since the last collection
* `scheduled_collected`, `lossless_of_scheduled`: what one collection does to what is owed later
* `onSchedule_step`: what one call does
* `interest_schedule`: the runs in which it does not matter when interest is collected
* `collections_lower_interest`: collections after which less is owed
-/

open Bounded Dispatch Ledger TransitionSystem Instalments Runtime

namespace BankOperator

/-! ### The interest of a credit -/

section Credits

variable {AccountId : Type} {cfg : Config} {ctx : Context AccountId}
  {credit : CreditContract AccountId} {amount : ℕ}

/-- The interest owed on a credit in a block. -/
def interestDue (cfg : Config) (ctx : Context AccountId) (credit : CreditContract AccountId) : ℕ :=
  (accrueLazily cfg ctx credit).accruedInterest

/-- The rate of a credit for one period, in basis points; there is none without periods. -/
def CreditContract.periodRate (cfg : Config) (credit : CreditContract AccountId) : ℕ :=
  if cfg.interestPeriodBlocks = 0 then 0 else credit.tier.dailyRateBps

/-- The whole periods from the issue of a credit to a block. -/
def CreditContract.periodsAt (cfg : Config) (credit : CreditContract AccountId) (block : ℕ) : ℕ :=
  (block - credit.issuedAt) / cfg.interestPeriodBlocks

/-- What was paid on a credit: the interest, and the principal with the whole periods it was owed
for. -/
structure InterestBook where
  paid : ℕ
  retired : ℕ
  deriving DecidableEq, Repr

/-- The book with one more payment. -/
def InterestBook.enter (cfg : Config) (ctx : Context AccountId) (amount : ℕ)
    (credit : CreditContract AccountId) (book : InterestBook) : InterestBook where
  paid := book.paid + interestPaid cfg ctx amount credit
  retired := book.retired +
    principalRepaid cfg ctx amount credit * credit.periodsAt cfg (currentBlock ctx)

/-- The interest on a credit from its issue to a block, on the principal as it was repaid, in whole
units. It does not depend on when interest was collected. -/
def scheduled (cfg : Config) (credit : CreditContract AccountId) (book : InterestBook) (block : ℕ) :
    ℕ :=
  unitsAt 10000 cfg.interestPeriodBlocks credit.issuedAt
    (credit.periodRate cfg * credit.outstanding) (credit.periodRate cfg * book.retired) block

/-- The scheduled interest is that on the principal with the periods it is owed for. -/
theorem scheduled_eq {credit : CreditContract AccountId} {book : InterestBook} (block : ℕ) :
    scheduled cfg credit book block =
      credit.periodRate cfg *
        (credit.outstanding * credit.periodsAt cfg block + book.retired) / 10000 := by
  rw [Nat.mul_add, ← Nat.mul_assoc]
  rfl

/-- What is paid and owed in interest is the scheduled interest, in every block from the last
collection on. -/
def Scheduled (cfg : Config) (credit : CreditContract AccountId) (book : InterestBook) : Prop :=
  ∀ ctx : Context AccountId, credit.lastInterestBlock ≤ ctx.blockNumber →
    ctx.blockNumber ≤ u32Max →
      book.paid + interestDue cfg ctx credit = scheduled cfg credit book ctx.blockNumber

/-- The interest on the whole amount stays in range. -/
def InterestFits (credit : CreditContract AccountId) : Prop :=
  credit.creditAmount * credit.tier.dailyRateBps * u32Max ≤ u128Max

instance : Decidable (InterestFits credit) := inferInstanceAs (Decidable (_ ≤ _))

/-- The blocks and the principal of a credit are in order. -/
structure InOrder (cfg : Config) (credit : CreditContract AccountId) (book : InterestBook) :
    Prop where
  fits : InterestFits credit
  issued : credit.issuedAt ≤ credit.lastInterestBlock
  owed : credit.outstanding ≤ credit.creditAmount
  retired : book.retired ≤
    (credit.creditAmount - credit.outstanding) * credit.periodsAt cfg credit.lastInterestBlock

variable {book : InterestBook}

theorem currentBlock_eq (h : ctx.blockNumber ≤ u32Max) : currentBlock ctx = ctx.blockNumber :=
  if_pos h

theorem periodRate_le : credit.periodRate cfg ≤ credit.tier.dailyRateBps := by
  unfold CreditContract.periodRate
  split
  · exact Nat.zero_le _
  · exact le_refl _

/-- As long as something is earned there are periods. -/
theorem periodBlocks_pos {v : ℕ} (h : credit.periodRate cfg * v ≠ 0) :
    0 < cfg.interestPeriodBlocks := by
  rw [Nat.pos_iff_ne_zero]
  intro hzero
  refine h ?_
  unfold CreditContract.periodRate
  rw [if_pos hzero, Nat.zero_mul]

theorem periodsAt_mono {block block' : ℕ} (h : block ≤ block') :
    credit.periodsAt cfg block ≤ credit.periodsAt cfg block' :=
  Nat.div_le_div_right (Nat.sub_le_sub_right h _)

/-- The interest on no more than the whole amount, for the periods of no more than all blocks. -/
theorem InterestFits.bound (h : InterestFits credit) {v n : ℕ} (hv : v ≤ credit.creditAmount)
    (hn : n ≤ u32Max) : v * credit.tier.dailyRateBps * n ≤ u128Max :=
  (Nat.mul_le_mul (Nat.mul_le_mul_right _ hv) hn).trans h

/-- **The interest since the last collection**, in whole periods and whole units. -/
theorem calculateAccruedInterest_eq (hfits : InterestFits credit)
    (howed : credit.outstanding ≤ credit.creditAmount) (hblock : ctx.blockNumber ≤ u32Max) :
    calculateAccruedInterest cfg ctx credit =
      credit.periodRate cfg * credit.outstanding *
        ((ctx.blockNumber - credit.lastInterestBlock) / cfg.interestPeriodBlocks) / 10000 := by
  unfold calculateAccruedInterest CreditContract.periodRate
  rw [currentBlock_eq hblock]
  extract_lets rate elapsed period periods
  have hperiods : periods ≤ u32Max :=
    (Nat.div_le_self elapsed period).trans ((Nat.sub_le _ _).trans hblock)
  by_cases hrate : rate = 0
  · rw [if_pos hrate]
    split
    · rw [Nat.zero_mul, Nat.zero_mul]
    · rw [show credit.tier.dailyRateBps = 0 from hrate, Nat.zero_mul, Nat.zero_mul]
  rw [if_neg hrate]
  by_cases hnone : period = 0 ∨ elapsed < period
  · rw [if_pos hnone]
    rcases hnone with hzero | hshort
    · rw [if_pos hzero, Nat.zero_mul, Nat.zero_mul]
    · rw [Nat.div_eq_of_lt hshort, Nat.mul_zero]
  · rw [if_neg hnone, if_neg (not_or.mp hnone).1]
    -- no product is clipped
    have hone : credit.outstanding * rate ≤ u128Max := by
      have hbound := hfits.bound howed (n := 1) (by decide)
      rwa [Nat.mul_one] at hbound
    have hall : credit.outstanding * rate * periods ≤ u128Max := hfits.bound howed hperiods
    unfold saturatingMul
    rw [Nat.min_eq_left hone, Nat.min_eq_left hall, Nat.mul_comm credit.outstanding]

/-- The scheduled interest stays well in range. -/
theorem InOrder.scheduled_lt (h : InOrder cfg credit book) {block : ℕ}
    (hlast : credit.lastInterestBlock ≤ block) (hblock : block ≤ u32Max) :
    scheduled cfg credit book block < u128Max := by
  have hperiods : credit.periodsAt cfg block ≤ u32Max :=
    (Nat.div_le_self _ _).trans ((Nat.sub_le _ _).trans hblock)
  have hretired : book.retired ≤
      (credit.creditAmount - credit.outstanding) * credit.periodsAt cfg block :=
    h.retired.trans (Nat.mul_le_mul_left _ (periodsAt_mono hlast))
  have hparts : credit.periodRate cfg * credit.outstanding * credit.periodsAt cfg block +
      credit.periodRate cfg * book.retired ≤ u128Max := by
    calc credit.periodRate cfg * credit.outstanding * credit.periodsAt cfg block +
          credit.periodRate cfg * book.retired
        ≤ credit.periodRate cfg * credit.outstanding * credit.periodsAt cfg block +
          credit.periodRate cfg *
            ((credit.creditAmount - credit.outstanding) * credit.periodsAt cfg block) :=
          Nat.add_le_add_left (Nat.mul_le_mul_left _ hretired) _
      _ = (credit.outstanding + (credit.creditAmount - credit.outstanding)) *
          credit.periodRate cfg * credit.periodsAt cfg block := by ring
      _ = credit.creditAmount * credit.periodRate cfg * credit.periodsAt cfg block := by
          rw [Nat.add_sub_cancel' h.owed]
      _ ≤ credit.creditAmount * credit.tier.dailyRateBps * credit.periodsAt cfg block :=
          Nat.mul_le_mul_right _ (Nat.mul_le_mul_left _ periodRate_le)
      _ ≤ u128Max := h.fits.bound (le_refl _) hperiods
  exact (Nat.div_le_div_right hparts).trans_lt (by decide)

/-- What is owed is the scheduled interest exactly if what has been collected and what is earned
since then are. -/
theorem InOrder.due_iff (h : InOrder cfg credit book) (ctx : Context AccountId)
    (hlast : credit.lastInterestBlock ≤ ctx.blockNumber) (hblock : ctx.blockNumber ≤ u32Max) :
    book.paid + interestDue cfg ctx credit = scheduled cfg credit book ctx.blockNumber ↔
      book.paid + credit.accruedInterest + credit.periodRate cfg * credit.outstanding *
        ((ctx.blockNumber - credit.lastInterestBlock) / cfg.interestPeriodBlocks) / 10000 =
          scheduled cfg credit book ctx.blockNumber := by
  have hlt := h.scheduled_lt hlast hblock
  unfold interestDue accrueLazily saturatingAdd
  dsimp only
  rw [calculateAccruedInterest_eq h.fits h.owed hblock]
  omega

/-- The last collection has dropped nothing. -/
def NothingDropped (cfg : Config) (credit : CreditContract AccountId) (book : InterestBook) :
    Prop :=
  Lossless 10000 cfg.interestPeriodBlocks credit.issuedAt credit.lastInterestBlock
    (credit.periodRate cfg * credit.outstanding) (credit.periodRate cfg * book.retired)

theorem nothingDropped_iff : NothingDropped cfg credit book ↔
    credit.periodRate cfg * credit.outstanding = 0 ∨
      (credit.lastInterestBlock - credit.issuedAt) % cfg.interestPeriodBlocks = 0 ∧
        credit.periodRate cfg *
            (credit.outstanding * credit.periodsAt cfg credit.lastInterestBlock + book.retired) %
              10000 <
          (credit.periodRate cfg * credit.outstanding).gcd 10000 := by
  rw [Nat.mul_add, ← Nat.mul_assoc]
  rfl

/-- When the last collection has dropped nothing, and what it collected was on schedule, what is
owed from then on is. -/
theorem InOrder.scheduled_of (h : InOrder cfg credit book)
    (hnow : book.paid + credit.accruedInterest =
      scheduled cfg credit book credit.lastInterestBlock)
    (hl : NothingDropped cfg credit book) : Scheduled cfg credit book := by
  intro ctx hlast hblock
  rw [h.due_iff ctx hlast hblock]
  by_cases hzero : credit.periodRate cfg * credit.outstanding = 0
  -- nothing is earned any more
  · rw [hnow]
    unfold scheduled unitsAt
    rw [hzero, Nat.zero_mul, Nat.zero_mul, Nat.zero_mul, Nat.zero_div, Nat.add_zero]
  · exact unitsAt_of_lossless (by decide) (periodBlocks_pos hzero) h.issued hnow hl hlast

/-- Conversely, what was dropped shows in the periods that follow. -/
theorem InOrder.nothingDropped_of (h : InOrder cfg credit book)
    (hroom : credit.lastInterestBlock + 10000 * cfg.interestPeriodBlocks ≤ u32Max)
    (hs : Scheduled cfg credit book) : NothingDropped cfg credit book := by
  by_cases hzero : credit.periodRate cfg * credit.outstanding = 0
  · exact Or.inl hzero
  have hdue : ∀ t, credit.lastInterestBlock ≤ t →
      t ≤ credit.lastInterestBlock + 10000 * cfg.interestPeriodBlocks →
        book.paid + credit.accruedInterest + credit.periodRate cfg * credit.outstanding *
          ((t - credit.lastInterestBlock) / cfg.interestPeriodBlocks) / 10000 =
            scheduled cfg credit book t := by
    intro t ht htmax
    have hlate : t ≤ u32Max := htmax.trans hroom
    let ctx : Context AccountId := { origin := .root, blockNumber := t }
    exact (h.due_iff ctx ht hlate).mp (hs ctx ht hlate)
  exact (lossless_of_unitsAt (by decide) (periodBlocks_pos hzero) h.issued hdue).2

end Credits

/-! ### One collection -/

section Collections

variable {AccountId : Type} {cfg : Config} {ctx : Context AccountId}
  {credit : CreditContract AccountId} {amount : ℕ} {book : InterestBook} {status : CreditStatus}

/-- A credit after a collection with a payment. -/
def collectedBy (cfg : Config) (ctx : Context AccountId) (amount : ℕ)
    (credit : CreditContract AccountId) (status : CreditStatus) : CreditContract AccountId :=
  { repaidBy cfg ctx amount credit with status := status }

@[simp] theorem collectedBy_lastInterestBlock :
    (collectedBy cfg ctx amount credit status).lastInterestBlock = currentBlock ctx := by
  simp only [collectedBy, repaidBy, accrueLazily]

@[simp] theorem collectedBy_issuedAt :
    (collectedBy cfg ctx amount credit status).issuedAt = credit.issuedAt := by
  simp only [collectedBy, repaidBy, accrueLazily]

@[simp] theorem collectedBy_creditAmount :
    (collectedBy cfg ctx amount credit status).creditAmount = credit.creditAmount := by
  simp only [collectedBy, repaidBy, accrueLazily]

@[simp] theorem collectedBy_tier :
    (collectedBy cfg ctx amount credit status).tier = credit.tier := by
  simp only [collectedBy, repaidBy, accrueLazily]

@[simp] theorem collectedBy_periodRate :
    (collectedBy cfg ctx amount credit status).periodRate cfg = credit.periodRate cfg := by
  simp only [CreditContract.periodRate, collectedBy, repaidBy, accrueLazily]

@[simp] theorem collectedBy_periodsAt (block : ℕ) :
    (collectedBy cfg ctx amount credit status).periodsAt cfg block =
      credit.periodsAt cfg block := by
  simp only [CreditContract.periodsAt, collectedBy_issuedAt]

theorem enter_retired : (book.enter cfg ctx amount credit).retired = book.retired +
    principalRepaid cfg ctx amount credit * credit.periodsAt cfg (currentBlock ctx) := by
  simp only [InterestBook.enter]

/-- The principal that is repaid is no longer outstanding. -/
theorem collectedBy_outstanding_eq : (collectedBy cfg ctx amount credit status).outstanding =
    credit.outstanding - principalRepaid cfg ctx amount credit := by
  simp only [collectedBy, repaidBy]

/-- The principal left after a payment, which covers the interest owed first. -/
def principalLeft (cfg : Config) (ctx : Context AccountId) (amount : ℕ)
    (credit : CreditContract AccountId) : ℕ :=
  credit.outstanding - (amount - interestDue cfg ctx credit)

/-- A collection drops nothing: no principal that earns interest is left, or it is made at the end
of a period, and what is left of a unit is less than what all later parts of a unit are multiples
of. -/
def CollectedOnTime (cfg : Config) (ctx : Context AccountId) (amount : ℕ)
    (credit : CreditContract AccountId) (book : InterestBook) : Prop :=
  credit.periodRate cfg * principalLeft cfg ctx amount credit = 0 ∨
    (currentBlock ctx - credit.issuedAt) % cfg.interestPeriodBlocks = 0 ∧
      credit.periodRate cfg *
          (credit.outstanding * credit.periodsAt cfg (currentBlock ctx) + book.retired) % 10000 <
        (credit.periodRate cfg * principalLeft cfg ctx amount credit).gcd 10000

/-- What is left of the principal. -/
theorem collectedBy_outstanding (status : CreditStatus) :
    (collectedBy cfg ctx amount credit status).outstanding =
      principalLeft cfg ctx amount credit := by
  unfold principalLeft collectedBy repaidBy principalRepaid interestPaid interestDue
  dsimp only
  omega

/-- The principal with the periods it is owed for is the same before and after a collection. -/
theorem collected_parts (cfg : Config) (ctx : Context AccountId) (amount : ℕ)
    (credit : CreditContract AccountId) (book : InterestBook) (status : CreditStatus) :
    (collectedBy cfg ctx amount credit status).outstanding *
      credit.periodsAt cfg (currentBlock ctx) + (book.enter cfg ctx amount credit).retired =
    credit.outstanding * credit.periodsAt cfg (currentBlock ctx) + book.retired := by
  have hprincipal : principalRepaid cfg ctx amount credit ≤ credit.outstanding := principalRepaid_le
  rw [collectedBy_outstanding_eq, enter_retired]
  calc (credit.outstanding - principalRepaid cfg ctx amount credit) *
          credit.periodsAt cfg (currentBlock ctx) +
        (book.retired + principalRepaid cfg ctx amount credit *
          credit.periodsAt cfg (currentBlock ctx))
      = (credit.outstanding - principalRepaid cfg ctx amount credit +
          principalRepaid cfg ctx amount credit) * credit.periodsAt cfg (currentBlock ctx) +
        book.retired := by ring
    _ = credit.outstanding * credit.periodsAt cfg (currentBlock ctx) + book.retired := by
        rw [Nat.sub_add_cancel hprincipal]

theorem collectedOnTime_iff (status : CreditStatus) : CollectedOnTime cfg ctx amount credit book ↔
    NothingDropped cfg (collectedBy cfg ctx amount credit status)
      (book.enter cfg ctx amount credit) := by
  rw [nothingDropped_iff, collectedBy_periodsAt, collectedBy_periodRate, collectedBy_issuedAt,
    collectedBy_lastInterestBlock, collected_parts, collectedBy_outstanding]
  rfl

/-- What is paid and owed is as before. -/
theorem collected_paid (amount : ℕ) (status : CreditStatus) :
    (book.enter cfg ctx amount credit).paid +
        (collectedBy cfg ctx amount credit status).accruedInterest =
      book.paid + interestDue cfg ctx credit := by
  unfold InterestBook.enter collectedBy repaidBy interestPaid interestDue
  dsimp only
  omega

/-- So is the scheduled interest up to the collection. -/
theorem scheduled_collected_now (amount : ℕ) (status : CreditStatus) :
    scheduled cfg (collectedBy cfg ctx amount credit status) (book.enter cfg ctx amount credit)
        (currentBlock ctx) = scheduled cfg credit book (currentBlock ctx) := by
  have hparts := collected_parts cfg ctx amount credit book status
  rw [scheduled_eq, scheduled_eq, collectedBy_periodRate, collectedBy_periodsAt, hparts]

theorem InOrder.collected (h : InOrder cfg credit book) (amount : ℕ) (status : CreditStatus)
    (hlast : credit.lastInterestBlock ≤ ctx.blockNumber) (hblock : ctx.blockNumber ≤ u32Max) :
    InOrder cfg (collectedBy cfg ctx amount credit status) (book.enter cfg ctx amount credit) where
  fits := by
    unfold InterestFits
    rw [collectedBy_creditAmount, collectedBy_tier]
    exact h.fits
  issued := by
    rw [collectedBy_issuedAt, collectedBy_lastInterestBlock, currentBlock_eq hblock]
    exact h.issued.trans hlast
  owed := by
    rw [collectedBy_outstanding_eq, collectedBy_creditAmount]
    exact (Nat.sub_le _ _).trans h.owed
  retired := by
    have hmono : credit.periodsAt cfg credit.lastInterestBlock ≤
        credit.periodsAt cfg (currentBlock ctx) := by
      rw [currentBlock_eq hblock]
      exact periodsAt_mono hlast
    have hprincipal : principalRepaid cfg ctx amount credit ≤ credit.outstanding :=
      principalRepaid_le
    have howed := h.owed
    -- what is no longer outstanding, with the principal repaid now
    have hsplit : credit.creditAmount -
          (credit.outstanding - principalRepaid cfg ctx amount credit) =
        credit.creditAmount - credit.outstanding + principalRepaid cfg ctx amount credit := by
      omega
    rw [enter_retired, collectedBy_creditAmount, collectedBy_outstanding_eq, collectedBy_periodsAt,
      collectedBy_lastInterestBlock, hsplit, Nat.add_mul]
    exact Nat.add_le_add_right (h.retired.trans (Nat.mul_le_mul_left _ hmono)) _

/-- **A collection that drops nothing** leaves the interest on schedule. -/
theorem scheduled_collected (h : InOrder cfg credit book) (hs : Scheduled cfg credit book)
    (hlast : credit.lastInterestBlock ≤ ctx.blockNumber) (hblock : ctx.blockNumber ≤ u32Max)
    (hontime : CollectedOnTime cfg ctx amount credit book) :
    Scheduled cfg (collectedBy cfg ctx amount credit status)
      (book.enter cfg ctx amount credit) := by
  have hafter := h.collected amount status hlast hblock
  have hnow := hs ctx hlast hblock
  rw [← currentBlock_eq hblock, ← scheduled_collected_now amount status,
    ← collected_paid amount status] at hnow
  exact hafter.scheduled_of hnow ((collectedOnTime_iff status).mp hontime)

/-- **Conversely**, what a collection drops shows in the periods that follow. -/
theorem lossless_of_scheduled (h : InOrder cfg credit book)
    (hlast : credit.lastInterestBlock ≤ ctx.blockNumber)
    (hroom : ctx.blockNumber + 10000 * cfg.interestPeriodBlocks ≤ u32Max)
    (hafter : Scheduled cfg (collectedBy cfg ctx amount credit status)
      (book.enter cfg ctx amount credit)) : CollectedOnTime cfg ctx amount credit book := by
  have hblock : ctx.blockNumber ≤ u32Max := (Nat.le_add_right _ _).trans hroom
  refine (collectedOnTime_iff status).mpr
    ((h.collected amount status hlast hblock).nothingDropped_of ?_ hafter)
  rwa [collectedBy_lastInterestBlock, currentBlock_eq hblock]

end Collections

/-! ### Runs -/

section Runs

variable {AccountId L : Type} {cfg : Config} {ctx : Context AccountId} {s s' : State AccountId L}
  {x : Extrinsic AccountId} {id amount : ℕ} {credit : CreditContract AccountId}
  {book : InterestBook}

/-- The payment with which a call collects the interest of a credit, if it does: with none when it
only accrues the interest. -/
def Call.collects (cfg : Config) (ctx : Context AccountId) (id : ℕ)
    (credit : CreditContract AccountId) : Call AccountId → Option ℕ
  | .accrueInterest k =>
    if k = id ∧ 0 < calculateAccruedInterest cfg ctx credit then some 0 else none
  | .repayCredit k amount => if k = id then some amount else none
  | _ => none

/-- The credit whose interest an extrinsic collects, and the payment it collects it with. -/
def collection (cfg : Config) (id : ℕ) (s : State AccountId L) (x : Extrinsic AccountId) :
    Option (CreditContract AccountId × ℕ) :=
  (s.creditContracts.get id).bind fun credit =>
    (x.2.collects cfg x.1 id credit).map fun amount => (credit, amount)

/-- Enter what an extrinsic pays on a credit. -/
def keepBook (cfg : Config) (id : ℕ) (s : State AccountId L) (x : Extrinsic AccountId)
    (book : InterestBook) : InterestBook :=
  (collection cfg id s x).elim book fun p => book.enter cfg x.1 p.2 p.1

/-- The interest on a credit is on schedule as long as it is active. -/
def OnSchedule (cfg : Config) (id : ℕ) (t : State AccountId L × InterestBook) : Prop :=
  ∀ credit, t.1.creditContracts.get id = some credit → credit.status = .active →
    Scheduled cfg credit t.2

/-- An extrinsic that collects interest drops nothing. -/
def OnTime (cfg : Config) (id : ℕ) (t : State AccountId L × InterestBook)
    (x : Extrinsic AccountId) : Prop :=
  ∀ p, collection cfg id t.1 x = some p → CollectedOnTime cfg x.1 p.2 p.1 t.2

/-- No call is made in a block before the last collection or beyond 32 bits, and none issues a
credit under the identifier. -/
def Regular (id : ℕ) (s : State AccountId L) (x : Extrinsic AccountId) : Prop :=
  (x.2.issues = true → s.nextCreditId ≠ id) ∧ x.1.blockNumber ≤ u32Max ∧
    ∀ credit, s.creditContracts.get id = some credit → credit.lastInterestBlock ≤ x.1.blockNumber

instance : Decidable (CollectedOnTime cfg ctx amount credit book) :=
  inferInstanceAs (Decidable (_ ∨ _ ∧ _))

instance (t : State AccountId L × InterestBook) : Decidable (OnTime cfg id t x) :=
  inferInstanceAs (Decidable (∀ p ∈ collection cfg id t.1 x,
    CollectedOnTime cfg x.1 p.2 p.1 t.2))

instance : Decidable (Regular id s x) :=
  inferInstanceAs (Decidable (_ ∧ _ ∧ ∀ credit ∈ s.creditContracts.get id,
    credit.lastInterestBlock ≤ x.1.blockNumber))

/-- There are ten thousand periods left after a collection. -/
def Early (cfg : Config) (id : ℕ) (s : State AccountId L) (x : Extrinsic AccountId) : Prop :=
  ∀ p, collection cfg id s x = some p →
    x.1.blockNumber + 10000 * cfg.interestPeriodBlocks ≤ u32Max

/-- The contract is there, and in order. -/
def Stands (cfg : Config) (id : ℕ) (t : State AccountId L × InterestBook) : Prop :=
  ∃ credit, t.1.creditContracts.get id = some credit ∧ InOrder cfg credit t.2

/-- A contract that only changes its status is as much in order. -/
theorem InOrder.closed (h : InOrder cfg credit book) (status : CreditStatus) :
    InOrder cfg { credit with status := status } book :=
  ⟨h.fits, h.issued, h.owed, h.retired⟩

theorem collection_of_get (hget : s.creditContracts.get id = some credit) :
    collection cfg id s x =
      (x.2.collects cfg x.1 id credit).map fun amount => (credit, amount) := by
  unfold collection
  rw [hget]
  rfl

/-- What an accepted call does to a credit: it collects the interest, with a payment or without one,
or leaves everything but the status. A credit that is closed with a payment has no principal
left. -/
inductive Effect (cfg : Config) (id : ℕ) (s s' : State AccountId L) (x : Extrinsic AccountId)
    (credit : CreditContract AccountId) : Prop
  | collected (amount : ℕ) (status : CreditStatus)
    (hcollects : collection cfg id s x = some (credit, amount))
    (hactive : credit.status = .active)
    (hget : s'.creditContracts.get id = some (collectedBy cfg x.1 amount credit status))
    (hclosed : status ≠ .active → principalLeft cfg x.1 amount credit = 0)
  | left (status : CreditStatus) (hcollects : collection cfg id s x = none)
    (hget : s'.creditContracts.get id = some { credit with status := status })
    (hactive : status = .active → credit.status = .active)

/-- The contracts are as they were. -/
theorem Effect.unchanged (hget : s.creditContracts.get id = some credit)
    (hcollects : x.2.collects cfg x.1 id credit = none)
    (hsame : s'.creditContracts.get id = s.creditContracts.get id) :
    Effect cfg id s s' x credit := by
  refine .left credit.status ?_ (hsame.trans hget) (fun h => h)
  rw [collection_of_get hget, hcollects]
  rfl

/-- A full payment leaves no principal. -/
theorem outstanding_of_fullyRepaid
    (h : fullyRepaid (repaidBy cfg ctx amount credit) = true) :
    principalLeft cfg ctx amount credit = 0 := by
  rw [← collectedBy_outstanding .active]
  exact (of_decide_eq_true h).1

variable [DecidableEq AccountId] [Currency AccountId L]

omit [DecidableEq AccountId] [Currency AccountId L] in
/-- Accruing the interest of a credit collects it, if there is any. -/
theorem effect_accrueInterest {k : ℕ} (hget : s.creditContracts.get id = some credit)
    (h : accrueInterest cfg ctx k s = .ok s') :
    Effect cfg id s s' (ctx, .accrueInterest k) credit := by
  obtain ⟨-, -, credit', hget', hactive, hs'⟩ := accrueInterest_eq_ok.mp h
  by_cases hid : k = id
  · subst hid
    obtain rfl : credit' = credit := Option.some.inj (hget'.symm.trans hget)
    by_cases hpos : 0 < calculateAccruedInterest cfg ctx credit'
    · rw [if_pos hpos] at hs'
      refine .collected 0 .active ?_ hactive ?_ (fun hne => absurd rfl hne)
      · rw [collection_of_get hget, Call.collects, if_pos ⟨rfl, hpos⟩]
        rfl
      -- accruing the interest is collecting it with no payment
      · rw [hs', StorageMap.get_insert_self, ← hactive]
        simp [collectedBy, repaidBy, interestPaid, principalRepaid, accrueLazily]
    · rw [if_neg hpos] at hs'
      refine .unchanged hget ?_ (by rw [hs'])
      rw [Call.collects, if_neg fun hand => hpos hand.2]
  · refine .unchanged hget ?_ ?_
    · rw [Call.collects, if_neg fun hand => hid hand.1]
    · rw [hs']
      split
      · exact StorageMap.get_insert_of_ne (Ne.symm hid)
      · rfl

/-- A repayment collects the interest of its credit, and may close it. -/
theorem effect_repayCredit {k amount : ℕ} (hget : s.creditContracts.get id = some credit)
    (h : repayCredit cfg ctx k amount s = .ok s') :
    Effect cfg id s s' (ctx, .repayCredit k amount) credit := by
  obtain ⟨citizen, -, -, credit', hget', -, hactive, bankAccount, -, l₁, -, l₂, -, hclose⟩ :=
    repayCredit_eq_ok.mp h
  by_cases hid : k = id
  · subst hid
    obtain rfl : credit' = credit := Option.some.inj (hget'.symm.trans hget)
    have hcollects :
        collection cfg k s (ctx, .repayCredit k amount) = some (credit', amount) := by
      rw [collection_of_get hget, Call.collects, if_pos rfl]
      rfl
    rcases closeCredit_eq_ok.mp hclose with ⟨hfull, col, -, l', -, rfl⟩ | ⟨-, rfl⟩
    · exact .collected amount .repaid hcollects hactive StorageMap.get_insert_self
        fun _ => outstanding_of_fullyRepaid hfull
    · refine .collected amount .active hcollects hactive ?_ (fun hne => absurd rfl hne)
      rw [StorageMap.get_insert_self, ← hactive]
      rfl
  · refine .unchanged hget ?_ ?_
    · rw [Call.collects, if_neg hid]
    · rcases closeCredit_eq_ok.mp hclose with ⟨-, col, -, l', -, rfl⟩ | ⟨-, rfl⟩
      · exact StorageMap.get_insert_of_ne (Ne.symm hid)
      · exact StorageMap.get_insert_of_ne (Ne.symm hid)

/-- **What a call does to a credit.** -/
theorem effect_step (hget : s.creditContracts.get id = some credit) (hregular : Regular id s x)
    (h : step cfg x s = .ok s') : Effect cfg id s s' x credit := by
  obtain ⟨ctx, call⟩ := x
  cases call with
  | setBankAccount account =>
    obtain ⟨-, rfl⟩ := setBankAccount_eq_ok.mp h
    exact .unchanged hget rfl rfl
  | assessRwa citizen assetType value =>
    obtain ⟨-, rfl⟩ := (assessRwa_eq_ok citizen assetType value).mp h
    exact .unchanged hget rfl rfl
  | lockCollateral amount assetType =>
    obtain ⟨_, -, -, _, -, l', -, rfl⟩ := lockCollateral_eq_ok.mp h
    exact .unchanged hget rfl rfl
  | requestCredit k =>
    obtain ⟨_, -, _, -, -, -, -, rfl⟩ := requestCredit_eq_ok.mp h
    exact .unchanged hget rfl rfl
  | issueCredit k =>
    obtain ⟨-, -, col, -, -, -, rfl⟩ := issueCredit_eq_ok.mp h
    exact .unchanged hget rfl (StorageMap.get_insert_of_ne (Ne.symm (hregular.1 rfl)))
  | accrueInterest k => exact effect_accrueInterest hget h
  | repayCredit k amount => exact effect_repayCredit hget h
  | declareDefault k =>
    obtain ⟨-, credit', hget', -, rfl⟩ := declareDefault_eq_ok.mp h
    by_cases hid : k = id
    · subst hid
      obtain rfl : credit' = credit := Option.some.inj (hget'.symm.trans hget)
      refine .left .default ?_ StorageMap.get_insert_self (fun hne => by cases hne)
      rw [collection_of_get hget]
      rfl
    · exact .unchanged hget rfl (StorageMap.get_insert_of_ne (Ne.symm hid))
  | requestAccountFreeze citizen reason =>
    obtain ⟨-, rfl⟩ := (requestAccountFreeze_eq_ok citizen reason).mp h
    exact .unchanged hget rfl rfl

/-- **What one call does to the schedule.** The contract stays in order. The interest stays on
schedule if the call drops nothing; and only then, if there are ten thousand periods left. -/
theorem onSchedule_step {t t' : State AccountId L × InterestBook} (hstands : Stands cfg id t)
    (hregular : Regular id t.1 x) (h : recording (keepBook cfg id) (step cfg) x t = .ok t') :
    Stands cfg id t' ∧ (OnSchedule cfg id t → OnTime cfg id t x → OnSchedule cfg id t') ∧
      (Early cfg id t.1 x → OnSchedule cfg id t' → OnTime cfg id t x) := by
  obtain ⟨credit, hget, hinorder⟩ := hstands
  obtain ⟨hs, hbook⟩ := recording_eq_ok.mp h
  have hlast := hregular.2.2 credit hget
  have hblock := hregular.2.1
  cases effect_step hget hregular hs with
  | collected amount status hcollects hactive hget' hclosed =>
    have hentered : t'.2 = t.2.enter cfg x.1 amount credit := by
      rw [hbook, keepBook, hcollects]
      rfl
    have hontime : OnTime cfg id t x ↔ CollectedOnTime cfg x.1 amount credit t.2 := by
      unfold OnTime
      rw [hcollects]
      exact ⟨fun hall => hall _ rfl, fun hone p hp => Option.some.inj hp ▸ hone⟩
    rw [hontime]
    refine ⟨⟨_, hget', ?_⟩, ?_, ?_⟩
    · rw [hentered]
      exact hinorder.collected amount status hlast hblock
    · intro hsched hone credit' hcredit' _
      obtain rfl := Option.some.inj (hget'.symm.trans hcredit')
      rw [hentered]
      exact scheduled_collected hinorder (hsched credit hget hactive) hlast hblock hone
    · intro hearly hsched
      by_cases hstatus : status = .active
      · subst hstatus
        have hafter := hsched _ hget' rfl
        rw [hentered] at hafter
        exact lossless_of_scheduled hinorder hlast (hearly _ hcollects) hafter
      -- a credit that is paid off earns nothing any more
      · left
        rw [hclosed hstatus, Nat.mul_zero]
  | left status hcollects hget' hactive =>
    have hkept : t'.2 = t.2 := by
      rw [hbook, keepBook, hcollects]
      rfl
    refine ⟨⟨_, hget', ?_⟩, ?_, ?_⟩
    · rw [hkept]
      exact hinorder.closed status
    · intro hsched _ credit' hcredit' hactive'
      obtain rfl := Option.some.inj (hget'.symm.trans hcredit')
      rw [hkept]
      exact hsched credit hget (hactive hactive')
    · intro _ _ p hp
      rw [hcollects] at hp
      cases hp

/-- The book of a credit that has just been issued. -/
def InterestBook.blank : InterestBook where
  paid := 0
  retired := 0

/-- A credit is in order, and on schedule, when it is issued. -/
theorem issued_onSchedule {colId : ℕ} (h : issueCredit cfg ctx colId s = .ok s')
    (hfits : ∀ credit, s'.creditContracts.get s.nextCreditId = some credit → InterestFits credit) :
    Stands cfg s.nextCreditId (s', .blank) ∧ OnSchedule cfg s.nextCreditId (s', .blank) := by
  obtain ⟨-, -, col, -, -, -, rfl⟩ := issueCredit_eq_ok.mp h
  have hget : (s.creditContracts.insert s.nextCreditId (issuedCredit cfg ctx colId col s)).get
      s.nextCreditId = some (issuedCredit cfg ctx colId col s) := StorageMap.get_insert_self
  have hinorder : InOrder cfg (issuedCredit cfg ctx colId col s) .blank := {
    fits := hfits _ hget
    issued := le_refl _
    owed := le_refl _
    retired := Nat.zero_le _ }
  refine ⟨⟨_, hget, hinorder⟩, fun credit hcredit _ => ?_⟩
  obtain rfl := Option.some.inj (hget.symm.trans hcredit)
  refine hinorder.scheduled_of ?_ (Or.inr ⟨?_, ?_⟩)
  · simp [scheduled, unitsAt, issuedCredit, InterestBook.blank]
  · simp [issuedCredit]
  · simp [issuedCredit, InterestBook.blank]

/-- **The interest of a credit**, from its issue on. If every collection drops nothing, the interest
paid and owed is the scheduled one in every block to come, after every call: it depends on the
principal as it was repaid, and not on the collections. As long as there are ten thousand periods
left after every collection, this is so only if every collection drops nothing. -/
theorem interest_schedule (cfg : Config) (ctx : Context AccountId) (colId : ℕ)
    (s s' : State AccountId L) (xs : List (Extrinsic AccountId))
    (hissue : issueCredit cfg ctx colId s = .ok s')
    (hfits : ∀ credit, s'.creditContracts.get s.nextCreditId = some credit → InterestFits credit)
    (hregular : Along (step cfg) (Regular s.nextCreditId) xs s') :
    let recorded := recording (keepBook cfg s.nextCreditId) (step cfg)
    let onSchedule := Throughout recorded (OnSchedule cfg s.nextCreditId) xs (s', .blank)
    let onTime := Along recorded (OnTime cfg s.nextCreditId) xs (s', .blank)
    (onTime → onSchedule) ∧
      (Along (step cfg) (Early cfg s.nextCreditId) xs s' → (onSchedule ↔ onTime)) := by
  intro recorded onSchedule onTime
  obtain ⟨hstands, hsched⟩ := issued_onSchedule hissue hfits
  have hreg : Along recorded (fun t x => Regular s.nextCreditId t.1 x) xs (s', .blank) :=
    along_recording.mpr hregular
  constructor
  · intro htime
    have hboth : Throughout recorded
        (fun t => Stands cfg s.nextCreditId t ∧ OnSchedule cfg s.nextCreditId t) xs (s', .blank) :=
      throughout_of_along
        (Q := fun t x => Regular s.nextCreditId t.1 x ∧ OnTime cfg s.nextCreditId t x)
        (fun x t t' hp hq h => ⟨(onSchedule_step hp.1 hq.1 h).1,
          (onSchedule_step hp.1 hq.1 h).2.1 hp.2 hq.2⟩) ⟨hstands, hsched⟩ (hreg.and htime)
    exact hboth.imp fun t ht => ht.2
  · intro hearly
    have hearly' : Along recorded (fun t x => Early cfg s.nextCreditId t.1 x) xs (s', .blank) :=
      along_recording.mpr hearly
    exact throughout_iff_along_within (J := Stands cfg s.nextCreditId)
      (fun x t t' hj hg h => (onSchedule_step hj hg.1 h).1)
      (fun x t t' hj hp hg h => ⟨(onSchedule_step hj hg.1 h).2.2 hg.2,
        (onSchedule_step hj hg.1 h).2.1 hp⟩) hstands hsched (hreg.and hearly')

end Runs

/-! ### Collecting too early -/

/-- The citizen 7 has asked for a credit on a unit of collateral. -/
def creditApplied : State ℕ (NativeLedger ℕ) :=
  run (step bankOperator) [(operatorContext 1 .root, .setBankAccount 2),
    (operatorContext 1 (.signed 7), .lockCollateral CentralBank.unit .altanCoin),
    (operatorContext 1 (.signed 7), .requestCredit 0)] operatorGenesis

/-- The credit is issued in the block 1. -/
def creditGranted : State ℕ (NativeLedger ℕ) :=
  exec (step bankOperator) (operatorContext 1 .root, .issueCredit 0) creditApplied

/-- Somebody accrues the interest of the first credit in a block. -/
def accrual (block : ℕ) : Extrinsic ℕ := (operatorContext block (.signed 8), .accrueInterest 0)

/-- The citizen 7 pays on the first credit in a block. -/
def instalment (block amount : ℕ) : Extrinsic ℕ :=
  (operatorContext block (.signed 7), .repayCredit 0 amount)

/-- Interest is accrued after a day, and a unit is paid after two. -/
theorem interest_schedule_daily :
    ∃ s', issueCredit bankOperator (operatorContext 1 .root) 0 creditApplied = .ok s' ∧
      Throughout (recording (keepBook bankOperator 0) (step bankOperator))
        (OnSchedule bankOperator 0) [accrual 14401, instalment 28801 CentralBank.unit]
        (s', .blank) := by
  have hok : (issueCredit bankOperator (operatorContext 1 .root) 0 creditApplied).isOk = true := by
    decide +kernel
  obtain ⟨s', hs'⟩ := exists_ok hok
  have hgranted : exec (step bankOperator) (operatorContext 1 .root, .issueCredit 0)
      creditApplied = s' := exec_ok hs'
  change creditGranted = s' at hgranted
  subst hgranted
  have hfits : ∀ credit ∈ creditGranted.creditContracts.get 0, InterestFits credit := by
    decide +kernel
  have hregular : Along (step bankOperator) (Regular 0)
      [accrual 14401, instalment 28801 CentralBank.unit] creditGranted := by decide +kernel
  have htime : Along (recording (keepBook bankOperator 0) (step bankOperator))
      (OnTime bankOperator 0) [accrual 14401, instalment 28801 CentralBank.unit]
      (creditGranted, .blank) := by decide +kernel
  exact ⟨creditGranted, hs', (interest_schedule bankOperator (operatorContext 1 .root) 0
    creditApplied creditGranted _ hs' hfits hregular).1 htime⟩

/-- The interest paid and owed on the first credit after three days, with what is collected before
then. -/
def interestAfterThreeDays (xs : List (Extrinsic ℕ)) : ℕ :=
  let t := run (recording (keepBook bankOperator 0) (step bankOperator)) xs (creditGranted, .blank)
  t.2.paid + (t.1.creditContracts.get 0).elim 0
    (interestDue bankOperator (operatorContext 43201 (.signed 8)))

/-- **Collections that lower the interest.** When anybody accrues it after a day and a half, it is
that of two days, and when the citizen pays the least amount just before the end of every day there
is none. -/
theorem collections_lower_interest :
    interestAfterThreeDays [accrual 21601] < interestAfterThreeDays [] ∧
      interestAfterThreeDays [instalment 14400 1, instalment 28799 1, instalment 43198 1] = 0 := by
  decide +kernel

end BankOperator
