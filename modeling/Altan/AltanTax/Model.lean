import Altan.Foundation.Arithmetic
import Altan.Foundation.Currency
import Altan.Foundation.Dispatch

/-!
# The fee on transfers

A transfer with a fee credits its destination with exactly the amount. The sender pays a fee on top,
three in ten thousand up to a cap, that three treasuries share.

## Main definitions

* `State`: the treasuries, and the ledger
* `FeeSplit`, `splitFee`: the fee on an amount, and its shares
* `transferWithFee`: the transfer
* `Call`, `dispatch`: the dispatchables
-/

open Bounded Dispatch

namespace AltanTax

/-- The errors of the module. -/
inductive Error
  | mathOverflow
  | treasuriesNotInitialized
  deriving DecidableEq, Repr

/-- The outcome of a function of the module. -/
abbrev Result (α : Type) := Except (DispatchError Error) α

/-- The storage of the module, and the ledger. -/
structure State (AccountId L : Type) where
  agTreasuryAccount : Option AccountId
  khuralFoundationAccount : Option AccountId
  validatorPoolAccount : Option AccountId
  ledger : L

/-- A fee and its shares. -/
structure FeeSplit where
  totalFee : ℕ
  khuralShare : ℕ
  agShare : ℕ
  validatorShare : ℕ
  deriving DecidableEq, Repr

/-- The event of a transfer with a fee. -/
structure FeeRouted (AccountId : Type) extends FeeSplit where
  sender : AccountId
  recipient : AccountId
  amount : ℕ
  deriving DecidableEq, Repr

variable {AccountId L : Type}

/-- The storage at genesis, on a ledger. -/
def genesis (agTreasury khuralFoundation validatorPool : Option AccountId) (ledger : L) :
    State AccountId L where
  agTreasuryAccount := agTreasury
  khuralFoundationAccount := khuralFoundation
  validatorPoolAccount := validatorPool
  ledger := ledger

/-- The cap on fees, a thousand units. -/
def feeCap : ℕ := 1000000000000000

/-- A product divided by a number, refused when it does not fit. -/
def checkedRatio (amount multiplier divisor : ℕ) : Result ℕ :=
  required ((checkedMul u128Max amount multiplier).bind fun v => checkedDiv v divisor)
    (.module .mathOverflow)

/-- The fee on an amount and its shares. The Khural foundation gets what the other two leave. -/
def splitFee (amount : ℕ) : Result FeeSplit := do
  let rawFee ← checkedRatio amount 3 10000
  let fee := min rawFee feeCap
  let _totalDebit ← required (checkedAdd u128Max amount fee) (.module .mathOverflow)
  let agShare ← checkedRatio fee 36 100
  let validatorShare ← checkedRatio fee 10 100
  let khuralShare ← required
    ((checkedSub fee agShare).bind fun v => checkedSub v validatorShare) (.module .mathOverflow)
  return {
    totalFee := fee
    khuralShare := khuralShare
    agShare := agShare
    validatorShare := validatorShare }

variable [Currency AccountId L]

/-- Transfer an amount to a destination, with the fee on top of it. -/
def transferWithFee (origin : Origin AccountId) (dest : AccountId) (amount : ℕ)
    (s : State AccountId L) : Result (State AccountId L × FeeRouted AccountId) := do
  let sender ← ensureSigned origin
  let agAccount ← required s.agTreasuryAccount (.module .treasuriesNotInitialized)
  let khuralAccount ← required s.khuralFoundationAccount (.module .treasuriesNotInitialized)
  let validatorAccount ← required s.validatorPoolAccount (.module .treasuriesNotInitialized)
  let split ← splitFee amount
  let ledger ← liftCurrency (Currency.transfer s.ledger sender dest amount .keepAlive)
  let ledger ← liftCurrency (Currency.transfer ledger sender agAccount split.agShare .keepAlive)
  let ledger ← liftCurrency
    (Currency.transfer ledger sender validatorAccount split.validatorShare .keepAlive)
  let ledger ← liftCurrency
    (Currency.transfer ledger sender khuralAccount split.khuralShare .keepAlive)
  return ({ s with ledger := ledger },
    { split with
      sender := sender
      recipient := dest
      amount := amount })

/-! ### Dispatch -/

/-- The dispatchables with their arguments. -/
inductive Call (AccountId : Type)
  | transferWithFee (dest : AccountId) (amount : ℕ)
  deriving DecidableEq

/-- Dispatch a call. -/
def dispatch (origin : Origin AccountId) :
    Call AccountId → State AccountId L → Result (State AccountId L)
  | .transferWithFee dest amount, s => (transferWithFee origin dest amount s).map Prod.fst

/-- A dispatched call: its origin and the call itself. -/
abbrev Extrinsic (AccountId : Type) := Origin AccountId × Call AccountId

/-- One extrinsic as a step of the state machine. -/
def step (x : Extrinsic AccountId) (s : State AccountId L) : Result (State AccountId L) :=
  dispatch x.1 x.2 s

end AltanTax
