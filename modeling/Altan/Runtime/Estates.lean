import Altan.BankOperator.Spec
import Altan.Foundation.Component
import Altan.Foundation.ProvidedBalances
import Altan.Guilds.Model
import Altan.Identity.Spec
import Altan.Inheritance.Execution

/-!
# The estates of the dead

The citizens, the bank operator, the guilds and the wills, wired as in the runtime. They share one
ledger, which other modules and the accounts themselves change too. When the death of a citizen is
registered, the free balance is to be reserved, the quests of the citizen are cancelled and the will
is executed, all in one call.

## Main definitions

* `Estate`: what the end of a life reaches, with the ledger as a component
* `onDeceased`, `onExiled`: the end of a life in the modules
* `World`, `Input`, `step`: the modules together
* `Execution`, `Input.execution`: the executions of wills

## Main results

* `registerDeath_eq_ok`: what registering a death does to the estate
-/

open Bounded Dispatch Ledger TransitionSystem

namespace Estates

variable {AccountId L : Type}

/-- The credits with the ledger all modules share, the guilds and the wills. -/
structure Estate (AccountId L : Type) where
  operator : BankOperator.State AccountId L
  market : Guilds.Market AccountId
  wills : Inheritance.Storage AccountId

instance : Component (Estate AccountId L) L where
  get e := e.operator.ledger
  set e ledger := { e with operator := { e.operator with ledger := ledger } }
  get_set _ _ := rfl
  set_get _ := rfl
  set_set _ _ _ := rfl

namespace Estate

/-- The state of the guilds. -/
def guilds (e : Estate AccountId L) : Guilds.State AccountId L :=
  { e.market with ledger := e.operator.ledger }

/-- An estate with the state of the guilds replaced. -/
def withGuilds (e : Estate AccountId L) (s : Guilds.State AccountId L) : Estate AccountId L :=
  { e with
    operator := { e.operator with ledger := s.ledger }
    market := s.toMarket }

/-- The state of the wills. -/
def inheritance (e : Estate AccountId L) : Inheritance.State AccountId L :=
  { e.wills with ledger := e.operator.ledger }

/-- An estate with the state of the wills replaced. -/
def withInheritance (e : Estate AccountId L) (s : Inheritance.State AccountId L) :
    Estate AccountId L :=
  { e with
    operator := { e.operator with ledger := s.ledger }
    wills := s.toStorage }

end Estate

/-- The constants of the modules. What the citizens do at the end of a life is set by the wiring. -/
structure Config (AccountId L : Type) where
  citizens : Identity.Config AccountId (Estate AccountId L)
  operator : BankOperator.Config
  inheritance : Inheritance.Config AccountId
  notaryGuildId : ℕ

/-- The storage of the modules, in a block. -/
abbrev World (AccountId L : Type) := Identity.World AccountId (Estate AccountId L)

/-- The errors of the modules. -/
inductive Error
  | identity (e : Identity.Error)
  | operator (e : BankOperator.Error)
  | guilds (e : Guilds.Error)
  | inheritance (e : Inheritance.Error)
  deriving DecidableEq, Repr

/-- An input of the citizens, a call of another module with its origin, or what happens to the
ledger elsewhere. -/
inductive Input (AccountId L : Type)
  | identity (x : Identity.Input AccountId)
  | operator (origin : Origin AccountId) (c : BankOperator.Call AccountId)
  | guilds (origin : Origin AccountId) (c : Guilds.Call AccountId)
  | inheritance (origin : Origin AccountId) (c : Inheritance.Call AccountId)
  | elsewhere (ledger : L)

variable [DecidableEq AccountId]

/-! ### What the modules ask each other -/

/-- What a citizen owes on active credits, one credit after the other. -/
def totalOutstandingDebt (s : BankOperator.State AccountId L) (who : AccountId) : ℕ :=
  (List.range s.nextCreditId).foldl
    (fun debt creditId =>
      match s.creditContracts.get creditId with
      | some credit =>
        if credit.citizen = who ∧ credit.status = .active then
          saturatingAdd u128Max debt credit.outstanding
        else debt
      | none => debt) 0

/-- A notary is a professional or a master of the guild of notaries. -/
def isValidNotary (notaryGuildId : ℕ) (m : Guilds.Market AccountId) (who : AccountId) : Bool :=
  match m.guildMembers.get (notaryGuildId, who) with
  | some .professional => true
  | some .master => true
  | _ => false

/-- A citizen is dead by record. -/
def isDeceased (s : Identity.State AccountId (Estate AccountId L)) (who : AccountId) : Bool :=
  match s.citizens.get who with
  | some record => record.status = .deceased
  | none => false

variable [Currency AccountId L] [EscrowCurrency AccountId L]

/-! ### The end of a life -/

/-- The quests of a citizen are cancelled. -/
def cleanupAccount (who : AccountId) (e : Estate AccountId L) : Estate AccountId L :=
  e.withGuilds (Guilds.cleanupAccount who e.guilds)

/-- The will of a citizen is executed. -/
def triggerInheritance (cfg : Config AccountId L) (who : AccountId) (e : Estate AccountId L) :
    Estate AccountId L :=
  e.withInheritance
    (Inheritance.triggerInheritance cfg.inheritance (totalOutstandingDebt e.operator) who
      e.inheritance)

/-- What the death of a citizen does in the modules. -/
def onDeceased (cfg : Config AccountId L) (who : AccountId) (e : Estate AccountId L) :
    Estate AccountId L :=
  triggerInheritance cfg who (cleanupAccount who e)

/-- What the exile of a citizen does in the modules. -/
def onExiled (who : AccountId) (e : Estate AccountId L) : Estate AccountId L :=
  cleanupAccount who e

/-- The constants of the citizens, with the end of a life wired. -/
def Config.identity (cfg : Config AccountId L) : Identity.Config AccountId (Estate AccountId L) :=
  { cfg.citizens with
    onDeceased := onDeceased cfg
    onExiled := onExiled }

/-- What a call about wills is dispatched with. -/
def Config.context (cfg : Config AccountId L) (origin : Origin AccountId) (w : World AccountId L) :
    Inheritance.Context AccountId where
  origin := origin
  isValidNotary := isValidNotary cfg.notaryGuildId w.ledger.market
  isDeceased := isDeceased w.toState
  totalOutstandingDebt := totalOutstandingDebt w.ledger.operator

/-- The storage with the estate replaced. -/
def withEstate (w : World AccountId L) (e : Estate AccountId L) : World AccountId L :=
  { w with ledger := e }

/-- The state after one input. -/
def step (cfg : Config AccountId L) :
    Input AccountId L → World AccountId L → Except (DispatchError Error) (World AccountId L)
  | .identity x, w => (Identity.step cfg.identity x w).mapError (DispatchError.map .identity)
  | .operator origin c, w => do
    let s ← (BankOperator.dispatch cfg.operator ⟨origin, w.now⟩ c w.ledger.operator).mapError
      (DispatchError.map .operator)
    return withEstate w { w.ledger with operator := s }
  | .guilds origin c, w => do
    let s ← (Guilds.dispatch origin c w.ledger.guilds).mapError (DispatchError.map .guilds)
    return withEstate w (w.ledger.withGuilds s)
  | .inheritance origin c, w => do
    let s ← (Inheritance.dispatch cfg.inheritance (cfg.context origin w) c
      w.ledger.inheritance).mapError (DispatchError.map .inheritance)
    return withEstate w (w.ledger.withInheritance s)
  | .elsewhere ledger, w => .ok (withEstate w (Component.set w.ledger ledger))

/-! ### The executions of wills -/

/-- One execution of a will: whose, whether at the death, and the estate before and after. -/
structure Execution (AccountId L : Type) where
  deceased : AccountId
  atDeath : Bool
  before : Estate AccountId L
  after : Estate AccountId L

/-- Who an input declares dead. -/
def Input.death : Input AccountId L → Option AccountId
  | .identity (.call _ (.registerDeath target _)) => some target
  | _ => none

/-- The execution an input brings about when it is accepted. -/
def Input.execution (cfg : Config AccountId L) (w : World AccountId L) :
    Input AccountId L → Option (Execution AccountId L)
  | .identity (.call _ (.registerDeath target _)) =>
    let before := cleanupAccount target (Identity.reserveAll w.ledger target)
    some ⟨target, true, before, triggerInheritance cfg target before⟩
  | .inheritance _ (.executeWill deceasedCitizen) =>
    some ⟨deceasedCitizen, false, w.ledger, triggerInheritance cfg deceasedCitizen w.ledger⟩
  | _ => none

section Executions

variable {cfg : Config AccountId L} {w w' : World AccountId L} {x : Input AccountId L}
  {e : Estate AccountId L} {who target : AccountId}

/-- The execution of a will always goes through. -/
theorem doExecuteWill_eq_ok {s : Inheritance.State AccountId L}
    (h : Inheritance.doExecuteWill cfg.inheritance (totalOutstandingDebt e.operator) who
      e.inheritance = .ok s) : triggerInheritance cfg who e = e.withInheritance s :=
  congrArg e.withInheritance (attempt_of_ok h)

/-- What registering a death does to the estate. -/
theorem registerDeath_eq_ok (h : step cfg x w = .ok w') (hdeath : x.death = some target) :
    w'.ledger = onDeceased cfg target (Identity.reserveAll w.ledger target) := by
  unfold Input.death at hdeath
  split at hdeath
  · next origin target' hash =>
    obtain rfl := Option.some.inj hdeath
    simp only [step, mapError_eq_ok, Identity.step, bind_eq_ok, pure_eq_ok] at h
    obtain ⟨s, hs, rfl⟩ := h
    simp only [Identity.dispatch, Identity.registerDeath, bind_eq_ok, pure_eq_ok] at hs
    obtain ⟨-, -, -, -, -, -, rfl⟩ := hs
    rfl
  · cases hdeath

omit [DecidableEq AccountId] in
/-- **The reservation at a death does nothing**: a free balance cannot be reserved whole. -/
theorem reserveAll_eq (e : Estate AccountId L) (who : AccountId) :
    Identity.reserveAll e who = e := by
  unfold Identity.reserveAll
  simp only
  split
  · next hpos =>
    obtain ⟨error, herror⟩ := EscrowCurrency.reserve_all_isError hpos
    rw [herror]
  · rfl

/-- The rewards of the quests of a citizen that are open or in progress, in all. -/
def pendingReward (e : Estate AccountId L) (who : AccountId) : ℕ :=
  e.market.quests.sum fun _ q => if q.IsPending who then q.reward else 0

/-- The end of a life gives the rewards of pending quests back. -/
theorem cleanupAccount_released (e : Estate AccountId L) (who : AccountId) :
    Released e (cleanupAccount who e) who
      (min (pendingReward e who) (reservedBalance e who)) := by
  have hledger : (cleanupAccount who e).operator.ledger =
      EscrowCurrency.unreserve e.operator.ledger who (pendingReward e who) := by
    refine (EscrowCurrency.releaseAll_eq e.operator.ledger who _).trans ?_
    exact congrArg _ (StorageMap.sum_values _ Guilds.Quest.reward)
  have hreleased := EscrowCurrency.unreserve_released e.operator.ledger who (pendingReward e who)
  rw [← hledger] at hreleased
  exact ⟨hreleased.free, hreleased.others, hreleased.reserved, hreleased.othersReserved,
    hreleased.issuance⟩

/-- What an execution burns. -/
def burned (e : Estate AccountId L) (who : AccountId) : ℕ :=
  Inheritance.burned (totalOutstandingDebt e.operator who) who e.inheritance

/-- An execution burns first, and then pays. -/
theorem triggerInheritance_spec (cfg : Config AccountId L) (who : AccountId)
    (e : Estate AccountId L) :
    ∃ l, Slashed e.operator.ledger l who (burned e who) ∧
      Disbursed l (triggerInheritance cfg who e).operator.ledger who (freeBalance e who) := by
  obtain ⟨s, l, hs, hslashed, hdisbursed⟩ := Inheritance.doExecuteWill_spec cfg.inheritance
    (totalOutstandingDebt e.operator) who e.inheritance
  rw [doExecuteWill_eq_ok hs]
  exact ⟨l, hslashed, hdisbursed⟩

/-- Where nothing is reserved an execution leaves the ledger. -/
theorem triggerInheritance_of_unreserved (hzero : reservedBalance e who = 0) :
    (triggerInheritance cfg who e).operator.ledger = e.operator.ledger := by
  obtain ⟨s, hs, hledger⟩ := Inheritance.doExecuteWill_of_unreserved (s := e.inheritance)
    cfg.inheritance (totalOutstandingDebt e.operator) hzero
  rw [doExecuteWill_eq_ok hs]
  exact hledger

end Executions

end Estates

/-! ### The runtime -/

namespace Runtime

instance : NeZero existentialDeposit := ⟨by decide⟩

/-- The ledger of the runtime, with an escrow. -/
abbrev EscrowLedger (AccountId : Type) [DecidableEq AccountId] : Type :=
  ProvidedBalances AccountId existentialDeposit

/-- The constants of the runtime: the treasury is account 2, the notaries are guild zero. -/
def estates : Estates.Config ℕ (EscrowLedger ℕ) where
  citizens :=
    { medicalAuthority := 0
      marriageFee := 5 * CentralBank.unit
      civilFeeTreasury := 2
      arbadCooldownPeriod := 432000
      maxRegistrationsPerBlock := 100
      constitutionHash := none
      onDeceased := fun _ e => e
      onExiled := fun _ e => e }
  operator := bankOperator
  inheritance := { stateTreasury := 2 }
  notaryGuildId := 0

/-- The storage before any call in a world where the bank and the citizens 7 and 8 have a thousand
units each. -/
def estatesGenesis : Estates.World ℕ (EscrowLedger ℕ) :=
  .genesis
    { operator := BankOperator.genesis (ProvidedBalances.ofFree
        ([2, 7, 8].map fun account => (account, 1000 * CentralBank.unit)))
      market := .genesis
      wills := { activeWills := ∅ } } 1

end Runtime
