import Altan.Foundation.Arithmetic
import Altan.Foundation.BoundedVec
import Altan.Foundation.Dispatch
import Altan.Foundation.Escrow
import Altan.Foundation.StorageMap

/-!
# The wills

A citizen draws up a will that divides the estate among heirs by percentages, and a notary certifies
it for a fee. When the citizen is dead anyone has the will executed: what the citizen owes is burned
from what is reserved on the account, and the rest is paid to the heirs. Without a certified will
all that is reserved is paid to the treasury of the state.

## Main definitions

* `Will`: heirs and their percentages, which make up a hundred
* `Config`, `Context`, `Storage`, `State`: the constants, what other modules say, and the storage
* `doExecuteWill`, `triggerInheritance`: the execution of a will
* `Call`, `dispatch`: the dispatchables
-/

open Bounded Dispatch Ledger

namespace Inheritance

/-- The errors of the module. -/
inductive Error
  | heirsShareNot100
  | noHeirsDeclared
  | notValidNotary
  | citizenNotDeceased
  | noActiveWill
  | insufficientFeeBalance
  | tooManyHeirs
  | cannotNotarizeSelf
  deriving DecidableEq, Repr

/-- The outcome of a function of the module. -/
abbrev Result (α : Type) := Except (DispatchError Error) α

/-- The heirs of a will at most. -/
def maxHeirs : ℕ := 20

/-- A will: the heirs with their percentages, and who certified it. -/
structure Will (AccountId : Type) where
  heirs : BoundedVec (AccountId × ℕ) maxHeirs
  isNotarized : Bool
  notary : Option AccountId
  shares_sum : (heirs.val.map Prod.snd).sum = 100
  deriving DecidableEq

/-- The constants of the module. -/
structure Config (AccountId : Type) where
  stateTreasury : AccountId

/-- What a call is dispatched with: its origin, and what the guilds, the citizens and the bank
say. -/
structure Context (AccountId : Type) where
  origin : Origin AccountId
  isValidNotary : AccountId → Bool
  isDeceased : AccountId → Bool
  totalOutstandingDebt : AccountId → ℕ

/-- What is kept of the wills. -/
structure Storage (AccountId : Type) where
  activeWills : StorageMap AccountId (Will AccountId)

/-- The storage of the module, and the ledger. -/
structure State (AccountId L : Type) extends Storage AccountId where
  ledger : L

variable {AccountId L : Type} [DecidableEq AccountId]

/-- Draw up a will in place of the one there is. -/
def draftWill (ctx : Context AccountId) (heirs : List (AccountId × ℕ)) (s : State AccountId L) :
    Result (State AccountId L) := do
  let caller ← ensureSigned ctx.origin
  ensure (heirs ≠ []) (.module .noHeirsDeclared)
  if hshares : (heirs.map Prod.snd).sum = 100 then
    if hlength : heirs.length ≤ maxHeirs then
      return { s with
        activeWills := s.activeWills.insert caller
          { heirs := ⟨heirs, hlength⟩
            isNotarized := false
            notary := none
            shares_sum := hshares } }
    else .error (.module .tooManyHeirs)
  else .error (.module .heirsShareNot100)

variable [Currency AccountId L]

/-- Certify a will, as a notary, for a fee. -/
def notarizeWill (ctx : Context AccountId) (targetCitizen : AccountId) (fee : ℕ)
    (s : State AccountId L) : Result (State AccountId L) := do
  let notary ← ensureSigned ctx.origin
  ensure (notary ≠ targetCitizen) (.module .cannotNotarizeSelf)
  ensure (ctx.isValidNotary notary = true) (.module .notValidNotary)
  let will ← required (s.activeWills.get targetCitizen) (.module .noActiveWill)
  let ledger ← (Currency.transfer s.ledger targetCitizen notary fee .keepAlive).mapError
    fun _ => .module .insufficientFeeBalance
  return { s with
    ledger := ledger
    activeWills := s.activeWills.insert targetCitizen
      { will with
        isNotarized := true
        notary := some notary } }

/-! ### The execution of a will -/

/-- Pay the heirs one after the other, of `total` with `distributed` given out so far. The last one
gets what is left; a payment that is refused counts as given out. -/
def payHeirs (deceased : AccountId) (total : ℕ) : ℕ → List (AccountId × ℕ) → L → L
  | _, [], ledger => ledger
  | distributed, (heir, pct) :: heirs, ledger =>
    let share :=
      if heirs = [] then total - distributed
      else saturatingMul u128Max total pct / 100
    if share = 0 then payHeirs deceased total distributed heirs ledger
    else
      payHeirs deceased total (saturatingAdd u128Max distributed share) heirs
        (attempt (fun ledger => Currency.transfer ledger deceased heir share .allowDeath) ledger)

variable [EscrowCurrency AccountId L]

/-- Burn what is owed, as far as the reserved funds go. Gives what is left of them, and the
ledger. -/
def settleDebt (deceased : AccountId) (outstanding reserved : ℕ) (ledger : L) : ℕ × L :=
  if 0 < outstanding then
    let debtToBurn := min outstanding reserved
    (reserved - debtToBurn, EscrowCurrency.slashReserved ledger deceased debtToBurn)
  else (reserved, ledger)

/-- Execute the certified will of the deceased, or pay the treasury. -/
def doExecuteWill (cfg : Config AccountId) (totalOutstandingDebt : AccountId → ℕ)
    (deceased : AccountId) (s : State AccountId L) : Result (State AccountId L) :=
  let reserved := reservedBalance s.ledger deceased
  match (s.activeWills.get deceased).filter Will.isNotarized with
  | some will =>
    if reserved = 0 then .ok s
    else
      let (netForHeirs, ledger) :=
        settleDebt deceased (totalOutstandingDebt deceased) reserved s.ledger
      let ledger := EscrowCurrency.unreserve ledger deceased netForHeirs
      .ok
        { s with
          ledger := payHeirs deceased netForHeirs 0 will.heirs.val ledger
          activeWills := s.activeWills.remove deceased }
  | none =>
    let ledger :=
      if 0 < reserved then
        attempt
          (fun ledger =>
            Currency.transfer ledger deceased cfg.stateTreasury reserved .allowDeath)
          (EscrowCurrency.unreserve s.ledger deceased reserved)
      else s.ledger
    .ok
      { s with
        ledger := ledger
        activeWills := s.activeWills.remove deceased }

/-- Execute the will of a citizen who has died; a failure is ignored. -/
def triggerInheritance (cfg : Config AccountId) (totalOutstandingDebt : AccountId → ℕ)
    (deceased : AccountId) (s : State AccountId L) : State AccountId L :=
  attempt (doExecuteWill cfg totalOutstandingDebt deceased) s

/-- Have the will of a dead citizen executed. -/
def executeWill (cfg : Config AccountId) (ctx : Context AccountId) (deceasedCitizen : AccountId)
    (s : State AccountId L) : Result (State AccountId L) := do
  let _caller ← ensureSigned ctx.origin
  ensure (ctx.isDeceased deceasedCitizen = true) (.module .citizenNotDeceased)
  doExecuteWill cfg ctx.totalOutstandingDebt deceasedCitizen s

/-! ### Dispatch -/

/-- The dispatchables with their arguments. -/
inductive Call (AccountId : Type)
  | draftWill (heirs : List (AccountId × ℕ))
  | notarizeWill (targetCitizen : AccountId) (fee : ℕ)
  | executeWill (deceasedCitizen : AccountId)
  deriving DecidableEq

/-- Dispatch a call. -/
def dispatch (cfg : Config AccountId) (ctx : Context AccountId) :
    Call AccountId → State AccountId L → Result (State AccountId L)
  | .draftWill heirs => draftWill ctx heirs
  | .notarizeWill targetCitizen fee => notarizeWill ctx targetCitizen fee
  | .executeWill deceasedCitizen => executeWill cfg ctx deceasedCitizen

end Inheritance
