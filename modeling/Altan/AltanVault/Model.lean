import Altan.Foundation.Arithmetic
import Altan.Foundation.Currency
import Altan.Foundation.Dispatch
import Altan.Foundation.StorageMap
import Altan.Foundation.TransitionSystem

/-!
# The savings vaults

An account opens vaults under numbers of its choice. A vault is an entry in the storage and an
address without a key, derived from the owner and the number; funds arrive there by ordinary
transfers, and the module pays them out to the owner alone. What has been paid out is counted, and
so is what anybody reports to have arrived.

## Main definitions

* `Config`, `State`: the constants and the storage
* `vaultAccount`: the address of a vault
* `createVault`, `withdrawToOwner`, `recordInbound`: the dispatchables
* `Call`, `dispatch`, `Input`, `step`: the module, and transfers beside it, as a state machine
* `Payment`, `Call.payment`: what a call moves
* `State.Open`: a vault has been opened

## Main results

* `createVault_eq_ok`, `withdrawToOwner_eq_ok`, `recordInbound_eq_ok`: what a successful call has
  checked and changed
* `step_payment`: what a successful call does to the ledger
* `Payment.free_le_iff`: whose balance a payment takes from
-/

open Bounded Dispatch Ledger

namespace AltanVault

/-- The errors of the module. -/
inductive Error
  | vaultAlreadyExists
  | vaultNotFound
  | notVaultOwner
  | maxVaultsReached
  | insufficientVaultBalance
  deriving DecidableEq, Repr

/-- The outcome of a function of the module. -/
abbrev Result (α : Type) := Except (DispatchError Error) α

/-- What is recorded of a vault. -/
structure VaultInfo (AccountId : Type) where
  owner : AccountId
  vaultIndex : UInt16
  createdAt : ℕ
  totalDeposited : ℕ
  totalWithdrawn : ℕ
  deriving DecidableEq

/-- The eight bytes a module is known by. -/
abbrev PalletId := Vector UInt8 8

/-- The constants of the module, the number of vaults within its width, and how the runtime derives
an account from a module and an account. -/
structure Config (AccountId : Type) where
  palletId : PalletId
  maxVaultsPerOwner : ℕ
  maxVaultsPerOwner_le : maxVaultsPerOwner ≤ u16Max
  intoSubAccountTruncating : PalletId → AccountId → AccountId

/-- The storage of the module, and the ledger. -/
structure State (AccountId L : Type) where
  vaults : StorageMap (AccountId × UInt16) (VaultInfo AccountId)
  vaultCount : StorageMap AccountId ℕ
  ledger : L

/-- The two bytes of a number, the most significant one first. -/
def toBeBytes (index : UInt16) : UInt8 × UInt8 := ((index >>> 8).toUInt8, index.toUInt8)

/-- The bytes of the module with those of a number added to the last two. -/
def vaultPalletId (palletId : PalletId) (index : UInt16) : PalletId :=
  (palletId.set 6 (palletId[6] ^^^ (toBeBytes index).1)).set 7
    (palletId[7] ^^^ (toBeBytes index).2)

section Calls

variable {AccountId L : Type}

/-- The address of a vault. -/
def vaultAccount (cfg : Config AccountId) (owner : AccountId) (vaultIndex : UInt16) : AccountId :=
  cfg.intoSubAccountTruncating (vaultPalletId cfg.palletId vaultIndex) owner

variable [DecidableEq AccountId]

/-- The storage before any call. -/
def genesis (ledger : L) : State AccountId L where
  vaults := ∅
  vaultCount := ∅
  ledger := ledger

/-- How many vaults an account has opened. -/
def State.count (s : State AccountId L) (owner : AccountId) : ℕ := s.vaultCount.getD owner 0

/-- Open a vault of the signer. -/
def createVault (cfg : Config AccountId) (origin : Origin AccountId) (now : ℕ)
    (vaultIndex : UInt16) (s : State AccountId L) : Result (State AccountId L) := do
  let owner ← ensureSigned origin
  ensure (s.count owner < cfg.maxVaultsPerOwner) (.module .maxVaultsReached)
  ensure (s.vaults.get (owner, vaultIndex) = none) (.module .vaultAlreadyExists)
  return { s with
    vaults := s.vaults.insert (owner, vaultIndex) ⟨owner, vaultIndex, now, 0, 0⟩
    vaultCount := s.vaultCount.insert owner (saturatingAdd u16Max (s.count owner) 1) }

variable [Currency AccountId L]

/-- Pay from a vault of the signer to the signer. -/
def withdrawToOwner (cfg : Config AccountId) (origin : Origin AccountId) (vaultIndex : UInt16)
    (amount : ℕ) (s : State AccountId L) : Result (State AccountId L) := do
  let caller ← ensureSigned origin
  let vaultInfo ← required (s.vaults.get (caller, vaultIndex)) (.module .vaultNotFound)
  ensure (vaultInfo.owner = caller) (.module .notVaultOwner)
  let vaultAddress := vaultAccount cfg caller vaultIndex
  ensure (amount ≤ freeBalance s.ledger vaultAddress) (.module .insufficientVaultBalance)
  let ledger ← liftCurrency (Currency.transfer s.ledger vaultAddress caller amount .allowDeath)
  return { s with
    vaults := s.vaults.insert (caller, vaultIndex)
      { vaultInfo with totalWithdrawn := saturatingAdd u128Max vaultInfo.totalWithdrawn amount }
    ledger := ledger }

omit [Currency AccountId L] in
/-- Report that funds have arrived in a vault. -/
def recordInbound (origin : Origin AccountId) (owner : AccountId) (vaultIndex : UInt16)
    (amount : ℕ) (s : State AccountId L) : Result (State AccountId L) := do
  let _ ← ensureSigned origin
  let vault ← required (s.vaults.get (owner, vaultIndex)) (.module .vaultNotFound)
  return { s with
    vaults := s.vaults.insert (owner, vaultIndex)
      { vault with totalDeposited := saturatingAdd u128Max vault.totalDeposited amount } }

/-- Transfer funds of the signer, outside the module. -/
def transfer (origin : Origin AccountId) (dest : AccountId) (amount : ℕ)
    (er : ExistenceRequirement) (s : State AccountId L) : Result (State AccountId L) := do
  let source ← ensureSigned origin
  let ledger ← liftCurrency (Currency.transfer s.ledger source dest amount er)
  return { s with ledger := ledger }

end Calls

/-! ### Dispatch -/

/-- The dispatchables with their arguments, and transfers. -/
inductive Call (AccountId : Type)
  | createVault (vaultIndex : UInt16)
  | withdrawToOwner (vaultIndex : UInt16) (amount : ℕ)
  | recordInbound (owner : AccountId) (vaultIndex : UInt16) (amount : ℕ)
  | transfer (dest : AccountId) (amount : ℕ) (er : ExistenceRequirement)
  deriving DecidableEq

/-- A dispatched call: its origin, the block, and the call itself. -/
structure Input (AccountId : Type) where
  origin : Origin AccountId
  now : ℕ
  call : Call AccountId

variable {AccountId L : Type} [DecidableEq AccountId] [Currency AccountId L]

/-- Dispatch a call. -/
def dispatch (cfg : Config AccountId) (origin : Origin AccountId) (now : ℕ) :
    Call AccountId → State AccountId L → Result (State AccountId L)
  | .createVault vaultIndex => createVault cfg origin now vaultIndex
  | .withdrawToOwner vaultIndex amount => withdrawToOwner cfg origin vaultIndex amount
  | .recordInbound owner vaultIndex amount => recordInbound origin owner vaultIndex amount
  | .transfer dest amount er => transfer origin dest amount er

/-- One call as a step of the state machine. -/
def step (cfg : Config AccountId) (x : Input AccountId) (s : State AccountId L) :
    Result (State AccountId L) :=
  dispatch cfg x.origin x.now x.call s

end AltanVault

/-! ### What the calls do

A call either writes one entry and moves nothing, or it is a payment: a withdrawal pays from the
address of a vault to its owner, a transfer from the signer to anybody. No later proof looks into a
call again. -/

open TransitionSystem

namespace AltanVault

variable {AccountId L : Type} [DecidableEq AccountId] {cfg : Config AccountId}
  {origin : Origin AccountId} {owner : AccountId} {index : UInt16} {now amount : ℕ}
  {s s' : State AccountId L}

/-- The account has opened a vault under the number. -/
def State.Open (s : State AccountId L) (owner : AccountId) (index : UInt16) : Prop :=
  ∃ v, s.vaults.get (owner, index) = some v

theorem createVault_eq_ok : createVault cfg origin now index s = .ok s' ↔
    ∃ owner, origin = .signed owner ∧ s.count owner < cfg.maxVaultsPerOwner ∧
      s.vaults.get (owner, index) = none ∧ s' = { s with
        vaults := s.vaults.insert (owner, index) ⟨owner, index, now, 0, 0⟩
        vaultCount := s.vaultCount.insert owner (saturatingAdd u16Max (s.count owner) 1) } := by
  simp only [createVault, ensureSigned_bind_eq_ok, ensure_bind_eq_ok, pure_eq_ok,
    eq_comm (a := s')]

theorem recordInbound_eq_ok : recordInbound origin owner index amount s = .ok s' ↔
    ∃ who, origin = .signed who ∧ ∃ v, s.vaults.get (owner, index) = some v ∧ s' = { s with
      vaults := s.vaults.insert (owner, index)
        { v with totalDeposited := saturatingAdd u128Max v.totalDeposited amount } } := by
  simp only [recordInbound, ensureSigned_bind_eq_ok, required_bind_eq_ok, pure_eq_ok,
    eq_comm (a := s')]

/-- A payment of an amount between two accounts. -/
structure Payment (AccountId : Type) where
  payer : AccountId
  payee : AccountId
  amount : ℕ
  er : ExistenceRequirement

/-- What a payment moves: nothing, when it is to its payer. -/
def Payment.moved (p : Payment AccountId) : ℕ := if p.payer = p.payee then 0 else p.amount

/-- The payment a call makes for its signer. -/
def Call.payment (cfg : Config AccountId) (signer : AccountId) :
    Call AccountId → Option (Payment AccountId)
  | .withdrawToOwner vaultIndex amount =>
    some ⟨vaultAccount cfg signer vaultIndex, signer, amount, .allowDeath⟩
  | .transfer dest amount er => some ⟨signer, dest, amount, er⟩
  | .createVault _ | .recordInbound .. => none

variable [Currency AccountId L]

theorem withdrawToOwner_eq_ok : withdrawToOwner cfg origin index amount s = .ok s' ↔
    ∃ caller, origin = .signed caller ∧ ∃ v, s.vaults.get (caller, index) = some v ∧
      v.owner = caller ∧ amount ≤ freeBalance s.ledger (vaultAccount cfg caller index) ∧
        ∃ l, Currency.transfer s.ledger (vaultAccount cfg caller index) caller amount
          .allowDeath = .ok l ∧ s' = { s with
            vaults := s.vaults.insert (caller, index)
              { v with totalWithdrawn := saturatingAdd u128Max v.totalWithdrawn amount }
            ledger := l } := by
  simp only [withdrawToOwner, ensureSigned_bind_eq_ok, required_bind_eq_ok, ensure_bind_eq_ok,
    liftCurrency_bind_eq_ok, pure_eq_ok, eq_comm (a := s')]

omit [DecidableEq AccountId] in
theorem transfer_eq_ok {dest : AccountId} {er : ExistenceRequirement} :
    transfer origin dest amount er s = .ok s' ↔ ∃ source, origin = .signed source ∧
      ∃ l, Currency.transfer s.ledger source dest amount er = .ok l ∧
        s' = { s with ledger := l } := by
  simp only [transfer, ensureSigned_bind_eq_ok, liftCurrency_bind_eq_ok, pure_eq_ok,
    eq_comm (a := s')]

/-- The payment goes through. -/
def Payment.Made (p : Payment AccountId) (l l' : L) : Prop :=
  Currency.transfer l p.payer p.payee p.amount p.er = .ok l'

/-- **What a successful call does to the ledger**: it is signed, and makes its payment, if it has
one. -/
theorem step_payment {x : Input AccountId} (h : step cfg x s = .ok s') :
    ∃ signer, x.origin = .signed signer ∧
      (x.call.payment cfg signer = none ∧ s'.ledger = s.ledger ∨
        ∃ p, x.call.payment cfg signer = some p ∧ p.Made s.ledger s'.ledger) := by
  obtain ⟨origin, now, call⟩ := x
  cases call with
  | createVault index =>
    obtain ⟨owner, horigin, -, -, rfl⟩ := createVault_eq_ok.mp h
    exact ⟨owner, horigin, Or.inl ⟨rfl, rfl⟩⟩
  | withdrawToOwner index amount =>
    obtain ⟨caller, horigin, v, -, -, -, l, hl, rfl⟩ := withdrawToOwner_eq_ok.mp h
    exact ⟨caller, horigin, Or.inr ⟨_, rfl, hl⟩⟩
  | recordInbound owner index amount =>
    obtain ⟨who, horigin, v, -, rfl⟩ := recordInbound_eq_ok.mp h
    exact ⟨who, horigin, Or.inl ⟨rfl, rfl⟩⟩
  | transfer dest amount er =>
    obtain ⟨source, horigin, l, hl, rfl⟩ := transfer_eq_ok.mp h
    exact ⟨source, horigin, Or.inr ⟨_, rfl, hl⟩⟩

namespace Payment

variable {p : Payment AccountId} {l l' : L}

/-- A payment moves nothing, and leaves the ledger, or moves its amount between two accounts. -/
theorem Made.cases (h : p.Made l l') : p.moved = 0 ∧ l' = l ∨
    p.moved = p.amount ∧ p.amount ≠ 0 ∧ p.payer ≠ p.payee ∧
      Transferred l l' p.payer p.payee p.amount := by
  unfold moved
  rcases Currency.transfer_cases h with ⟨hnoop, hl⟩ | ⟨hv, hne, ht⟩
  · refine Or.inl ⟨?_, hl⟩
    split
    · rfl
    · next hne => exact hnoop.resolve_right hne
  · exact Or.inr ⟨if_neg hne, hv, hne, ht⟩

/-- A payment that moves something takes from its payer, and from nobody else. -/
theorem Made.free_le_iff (h : p.Made l l') (a : AccountId) :
    freeBalance l a ≤ freeBalance l' a ↔ p.moved = 0 ∨ a ≠ p.payer := by
  rcases h.cases with ⟨hzero, rfl⟩ | ⟨hmoved, hv, -, ht⟩
  · exact iff_of_true (Nat.le_refl _) (Or.inl hzero)
  by_cases ha : a = p.payer
  · have hle := remainder_le l p.payer p.amount
    have hfunded := ht.funded
    have hsource := ht.source
    refine iff_of_false ?_ ?_
    · rw [ha]
      omega
    · rintro (hz | hne)
      · omega
      · exact hne ha
  · exact iff_of_true (Currency.transfer_free_le h ha) (Or.inr ha)

end Payment

end AltanVault
