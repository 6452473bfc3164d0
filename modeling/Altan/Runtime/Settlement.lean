import Altan.Runtime.Estates

/-!
# The settlement of an estate

The estate of a citizen who dies is settled when nothing is left on the account, and what was there
has been burned against the debts, or paid to the heirs of a certified will or else to the treasury.
The registration of a death reserves the free balance for that first. A free balance cannot be
reserved whole, so the reservation fails whenever there is something to reserve, and the
registration ignores that: what the citizen held free, and what the cancelled quests give back, stay
on the account. An estate is settled exactly when there was nothing in it.

## Main definitions

* `balance`, `recipients`: what an account holds, and who is to have the estate
* `Settled`: an estate is settled
* `Settles`: an input settles the estate of whom it declares dead

## Main results

* `freeBalance_le_onDeceased`: a death leaves the free balance
* `settled_iff`: an estate is settled just if nothing was held free
* `settles_iff_unfunded`: the same of runs
-/

open Bounded Dispatch Ledger TransitionSystem

namespace Estates

variable {AccountId L : Type} [DecidableEq AccountId] [Currency AccountId L]
  [EscrowCurrency AccountId L]

/-- What an account holds, free and reserved. -/
def balance (e : Estate AccountId L) (a : AccountId) : ℕ := freeBalance e a + reservedBalance e a

/-- Who is to have an estate: the heirs of a certified will, or else the treasury. -/
def recipients (cfg : Config AccountId L) (e : Estate AccountId L) (who : AccountId) :
    Finset AccountId :=
  match (e.wills.activeWills.get who).filter Inheritance.Will.isNotarized with
  | some will => (will.heirs.val.map Prod.fst).toFinset
  | none => {cfg.inheritance.stateTreasury}

/-- The estate of `who` is settled from `e` to `e'`. -/
structure Settled (cfg : Config AccountId L) (e e' : Estate AccountId L) (who : AccountId) :
    Prop where
  free : freeBalance e' who = 0
  reserved : reservedBalance e' who = 0
  /-- What was there is burned, up to what was owed, or paid. -/
  divided : ∃ burned ≤ totalOutstandingDebt e.operator who,
    totalIssuance e' + burned = totalIssuance e ∧
      balance e who = burned +
        ∑ a ∈ (recipients cfg e who).erase who, (balance e' a - balance e a)
  received : ∀ a ∈ recipients cfg e who, a ≠ who → balance e a ≤ balance e' a
  others : ∀ a, a ∉ recipients cfg e who → a ≠ who →
    freeBalance e' a = freeBalance e a ∧ reservedBalance e' a = reservedBalance e a

/-- The input settles the estate of whom it declares dead. -/
def Settles (cfg : Config AccountId L) (w : World AccountId L) (x : Input AccountId L) : Prop :=
  ∀ target, x.death = some target → Settled cfg w.ledger (exec (step cfg) x w).ledger target

/-- Whom the input declares dead holds nothing free. -/
def Unfunded (w : World AccountId L) (x : Input AccountId L) : Prop :=
  ∀ target, x.death = some target → freeBalance w.ledger target = 0

section Death

variable {cfg : Config AccountId L} {w w' : World AccountId L} {x : Input AccountId L}
  {e e' : Estate AccountId L} {who target : AccountId}

/-- **A death leaves the free balance** on the account. -/
theorem freeBalance_le_onDeceased (cfg : Config AccountId L) (e : Estate AccountId L)
    (who : AccountId) : freeBalance e who ≤ freeBalance (onDeceased cfg who e) who := by
  have hreleased := cleanupAccount_released e who
  obtain ⟨l, -, hdisbursed⟩ := triggerInheritance_spec cfg who (cleanupAccount who e)
  calc freeBalance e who
      ≤ freeBalance (cleanupAccount who e) who := by
        rw [hreleased.free]
        exact Nat.le_add_right _ _
    _ ≤ freeBalance (onDeceased cfg who e) who := hdisbursed.kept

/-- Where nothing is held free nothing is reserved either, and a death leaves the ledger. -/
theorem onDeceased_of_unfunded (cfg : Config AccountId L) (h : freeBalance e who = 0) :
    (∀ a, freeBalance (onDeceased cfg who e) a = freeBalance e a) ∧
      (∀ a, reservedBalance (onDeceased cfg who e) a = reservedBalance e a) ∧
      totalIssuance (onDeceased cfg who e) = totalIssuance e := by
  have hreserved := EscrowCurrency.reservedBalance_eq_zero h
  have hreleased := cleanupAccount_released e who
  rw [hreserved, Nat.min_zero] at hreleased
  have hzero : reservedBalance (cleanupAccount who e) who = 0 :=
    hreleased.reserved.trans hreserved
  have hledger : (onDeceased cfg who e).operator.ledger = (cleanupAccount who e).operator.ledger :=
    triggerInheritance_of_unreserved hzero
  refine ⟨fun a => ?_, fun a => ?_, ?_⟩
  · refine (congrArg (freeBalance · a) hledger).trans ?_
    by_cases ha : a = who
    · rw [ha]
      exact hreleased.free
    · exact hreleased.others a ha
  · refine (congrArg (reservedBalance · a) hledger).trans ?_
    by_cases ha : a = who
    · rw [ha]
      exact hreleased.reserved
    · exact hreleased.othersReserved a ha
  · exact (congrArg totalIssuance hledger).trans hreleased.issuance

omit [EscrowCurrency AccountId L] in
/-- An estate with nothing in it is settled when nothing moves. -/
theorem settled_of_unmoved (hfree : ∀ a, freeBalance e' a = freeBalance e a)
    (hreserved : ∀ a, reservedBalance e' a = reservedBalance e a)
    (hissuance : totalIssuance e' = totalIssuance e) (hnone : balance e who = 0) :
    Settled cfg e e' who := by
  have hbalance : ∀ a, balance e' a = balance e a := by
    intro a
    unfold balance
    rw [hfree, hreserved]
  obtain ⟨hfree₀, hreserved₀⟩ := Nat.add_eq_zero_iff.mp hnone
  refine
    { free := (hfree who).trans hfree₀
      reserved := (hreserved who).trans hreserved₀
      divided := ⟨0, Nat.zero_le _, hissuance, ?_⟩
      received := fun a _ _ => (hbalance a).ge
      others := fun a _ _ => ⟨hfree a, hreserved a⟩ }
  rw [hnone, Nat.zero_add]
  symm
  apply Finset.sum_eq_zero
  intro a _
  rw [hbalance, Nat.sub_self]

/-- **The estate of a citizen who dies is settled just if nothing was held free.** -/
theorem settled_iff (h : step cfg x w = .ok w') (hdeath : x.death = some target) :
    Settled cfg w.ledger w'.ledger target ↔ freeBalance w.ledger target = 0 := by
  have hledger := registerDeath_eq_ok h hdeath
  rw [reserveAll_eq] at hledger
  rw [hledger]
  constructor
  · intro hsettled
    have hle := freeBalance_le_onDeceased cfg w.ledger target
    rw [hsettled.free] at hle
    exact Nat.le_zero.mp hle
  · intro hnone
    obtain ⟨hfree, hreserved, hissuance⟩ := onDeceased_of_unfunded cfg hnone
    apply settled_of_unmoved hfree hreserved hissuance
    unfold balance
    rw [hnone, EscrowCurrency.reservedBalance_eq_zero hnone]

theorem settles_iff (h : step cfg x w = .ok w') : Settles cfg w x ↔ Unfunded w x := by
  unfold Settles Unfunded
  rw [exec_ok h]
  exact forall₂_congr fun target hdeath => settled_iff h hdeath

end Death

/-- **The deaths of a run settle the estates just if the dead held nothing free.** -/
theorem settles_iff_unfunded {cfg : Config AccountId L} {xs : List (Input AccountId L)}
    {w : World AccountId L} :
    Along (step cfg) (Settles cfg) xs w ↔ Along (step cfg) Unfunded xs w :=
  along_congr_of_step fun _ _ _ h => settles_iff h

/-- The death of a citizen who holds a thousand units does not settle the estate. -/
theorem not_settles_of_funded :
    ¬ ∀ xs : List (Input ℕ (Runtime.EscrowLedger ℕ)),
      Along (step Runtime.estates) (Settles Runtime.estates) xs Runtime.estatesGenesis := by
  intro h
  let born : Input ℕ (Runtime.EscrowLedger ℕ) :=
    .identity (Runtime.decree (Runtime.registration 7 (.ofByte 0)))
  let dead : Input ℕ (Runtime.EscrowLedger ℕ) :=
    .identity (Runtime.decree (.registerDeath 7 (.ofByte 0)))
  let w := exec (step Runtime.estates) born Runtime.estatesGenesis
  obtain ⟨w', hdeath⟩ : ∃ w', step Runtime.estates dead w = .ok w' :=
    exists_ok (by decide +kernel)
  have hsettles : Settles Runtime.estates w dead := (h [born, dead]).2.1 w' hdeath
  have hfree : freeBalance w.ledger 7 ≠ 0 := by decide +kernel
  exact hfree ((settles_iff hdeath).mp hsettles 7 rfl)

end Estates
