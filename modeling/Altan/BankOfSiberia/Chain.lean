import Altan.BankOfSiberia.Payouts

/-!
# The bank on the chain

Between the calls of the bank anything can happen to the ledger and to the central bank. What the
bank keeps in its own storage does not depend on it.

## Main definitions

* `ChainInput`, `chainStep`: the calls of the bank, and what happens elsewhere

## Main results

* `chainStep_deposits`: what an input does to the register of the time deposits
* `deposit_kept`: a deposit keeps its terms in every run, until another one is opened under its
  identifier
-/

open Bounded Dispatch TransitionSystem

namespace BankOfSiberia

variable {AccountId L : Type} [DecidableEq AccountId] {cfg : Config AccountId}
  {s s' : State AccountId L}

/-- What happens on the chain: the calls of the bank, and what other modules do to the central bank
and the ledger. -/
inductive ChainInput (AccountId L : Type)
  | extrinsic (x : Extrinsic AccountId)
  | elsewhere (centralBank : CentralBank.State AccountId L)

section Steps

variable [Currency AccountId L] [LockableCurrency AccountId L]

/-- One input as a step of the state machine. -/
def chainStep (cfg : Config AccountId) (i : ChainInput AccountId L) (s : State AccountId L) :
    Result (State AccountId L) :=
  match i with
  | .extrinsic x => step cfg x s
  | .elsewhere centralBank => .ok { s with centralBank := centralBank }

omit [DecidableEq AccountId] [Currency AccountId L] [LockableCurrency AccountId L] in
/-- What an input does to the register of the time deposits. -/
def ChainInput.depositEvent : ChainInput AccountId L → Register.Event
  | .extrinsic x => BankOfSiberia.depositEvent x
  | .elsewhere _ => .unchanged

theorem chainStep_deposits {i : ChainInput AccountId L} (h : chainStep cfg i s = .ok s') :
    Register.Changed u32Max TimeDeposit.terms TimeDeposit.isOpen s.depositRegister
      s'.depositRegister i.depositEvent := by
  cases i with
  | extrinsic x => exact (step_registers h).2
  | elsewhere centralBank =>
    obtain rfl := Except.ok.inj h
    rfl

/-- **A deposit keeps its terms** in every run that opens no other one under its identifier. -/
theorem deposit_kept {is : List (ChainInput AccountId L)} {id : ℕ}
    {deposit : TimeDeposit AccountId} (hdeposit : s.timeDeposits.get id = some deposit)
    (hsame : Along (chainStep cfg)
      (fun t i => i.depositEvent = .opening → t.nextTimeDepositId ≠ id) is s) :
    ∃ status, (run (chainStep cfg) is s).timeDeposits.get id =
      some { deposit with status := status } := by
  have hkept : ∃ deposit', (run (chainStep cfg) is s).timeDeposits.get id = some deposit' ∧
      deposit'.terms = deposit.terms := by
    refine run_of_along (P := fun t : State AccountId L =>
      ∃ deposit', t.timeDeposits.get id = some deposit' ∧ deposit'.terms = deposit.terms)
      ?_ ⟨deposit, hdeposit, rfl⟩ hsame
    rintro i t t' ⟨deposit₁, hdeposit₁, hterms₁⟩ hne h
    obtain ⟨deposit₂, hdeposit₂, hterms₂⟩ := (chainStep_deposits h).kept_at hdeposit₁ hne
    exact ⟨deposit₂, hdeposit₂, hterms₂.trans hterms₁⟩
  obtain ⟨deposit', hdeposit', hterms⟩ := hkept
  rw [TimeDeposit.eq_of_terms hterms] at hdeposit'
  exact ⟨_, hdeposit'⟩

end Steps

end BankOfSiberia
