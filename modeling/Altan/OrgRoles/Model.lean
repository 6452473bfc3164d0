import Altan.Foundation.Arithmetic
import Altan.Foundation.Dispatch
import Altan.Foundation.StorageMap

/-!
# Organisations and role keys

Anyone may create an organisation and receives its root key. Holders of a root key hand out keys
of any tier, officers hand out and revoke member keys. Identifiers of organisations are given
out in the order of creation, from zero.

## Main definitions

* `RoleTier`, `State`: the tiers of keys and the storage
* `createOrganization`, `mintRoleKey`, `revokeRoleKey`: the dispatchables
-/

open Bounded Dispatch

namespace OrgRoles

/-- The errors of the module. -/
inductive Error
  | nameTooLong
  | orgNotFound
  | alreadyHasRole
  | insufficientMintPermissions
  | insufficientRevokePermissions
  | cannotRevokeRoot
  | targetHasNoRole
  deriving DecidableEq, Repr

/-- The outcome of a function of the module. -/
abbrev Result (α : Type) := Except (DispatchError Error) α

/-- The tiers of role keys. -/
inductive RoleTier
  | root
  | officer
  | member
  deriving DecidableEq, Repr

/-- An organisation. -/
structure OrgDetails (AccountId : Type) where
  owner : AccountId
  name : List UInt8
  createdAt : ℕ
  deriving DecidableEq, Repr

/-- The storage of the module. -/
structure State (AccountId : Type) where
  nextOrgId : ℕ
  organizations : StorageMap ℕ (OrgDetails AccountId)
  roleSlots : StorageMap ℕ (ℕ × ℕ)
  issuedKeys : StorageMap (ℕ × AccountId) RoleTier

variable {AccountId : Type}

/-- The storage before any call. -/
def genesis : State AccountId where
  nextOrgId := 0
  organizations := ∅
  roleSlots := ∅
  issuedKeys := ∅

variable [DecidableEq AccountId]

/-- Create an organisation; the signer receives its root key. -/
def createOrganization (maxOrgNameLen : ℕ) (origin : Origin AccountId) (name : List UInt8)
    (maxOfficers maxMembers : ℕ) (s : State AccountId) : Result (State AccountId) := do
  let owner ← ensureSigned origin
  ensure (name.length ≤ maxOrgNameLen) (.module .nameTooLong)
  let orgId := s.nextOrgId
  return {
    -- the last identifier is given out again and again
    nextOrgId := (checkedAdd u32Max orgId 1).getD orgId
    organizations := s.organizations.insert orgId
      { owner := owner
        name := name
        createdAt := 0 }
    roleSlots := s.roleSlots.insert orgId (maxOfficers, maxMembers)
    issuedKeys := s.issuedKeys.insert (orgId, owner) .root }

/-- Whether a holder of a key may hand out a key: root any, an officer a member's. -/
def ensureMayMint (minterTier tier : RoleTier) : Result Unit :=
  match minterTier with
  | .root => .ok ()
  | .officer => ensure (tier = .member) (.module .insufficientMintPermissions)
  | .member => .error (.module .insufficientMintPermissions)

/-- Hand out a role key. -/
def mintRoleKey (origin : Origin AccountId) (orgId : ℕ) (targetAccount : AccountId)
    (tier : RoleTier) (s : State AccountId) : Result (State AccountId) := do
  let minter ← ensureSigned origin
  ensure (s.organizations.containsKey orgId = true) (.module .orgNotFound)
  ensure (s.issuedKeys.containsKey (orgId, targetAccount) = false) (.module .alreadyHasRole)
  let minterTier ← required (s.issuedKeys.get (orgId, minter))
    (.module .insufficientMintPermissions)
  -- the slots of the organisation are not consulted
  ensureMayMint minterTier tier
  return { s with issuedKeys := s.issuedKeys.insert (orgId, targetAccount) tier }

/-- Whether a holder of a key may revoke a key that is not a root key. -/
def ensureMayRevoke (revokerTier targetTier : RoleTier) : Result Unit :=
  match revokerTier with
  | .root => .ok ()
  | .officer => ensure (targetTier = .member) (.module .insufficientRevokePermissions)
  | .member => .error (.module .insufficientRevokePermissions)

/-- Revoke a role key. -/
def revokeRoleKey (origin : Origin AccountId) (orgId : ℕ) (targetAccount : AccountId)
    (s : State AccountId) : Result (State AccountId) := do
  let revoker ← ensureSigned origin
  let revokerTier ← required (s.issuedKeys.get (orgId, revoker))
    (.module .insufficientRevokePermissions)
  let targetTier ← required (s.issuedKeys.get (orgId, targetAccount)) (.module .targetHasNoRole)
  ensure (targetTier ≠ .root) (.module .cannotRevokeRoot)
  ensureMayRevoke revokerTier targetTier
  return { s with issuedKeys := s.issuedKeys.remove (orgId, targetAccount) }

/-- The dispatchables with their arguments. -/
inductive Call (AccountId : Type)
  | createOrganization (name : List UInt8) (maxOfficers maxMembers : ℕ)
  | mintRoleKey (orgId : ℕ) (targetAccount : AccountId) (tier : RoleTier)
  | revokeRoleKey (orgId : ℕ) (targetAccount : AccountId)
  deriving DecidableEq, Repr

/-- Dispatch a call. -/
def dispatch (maxOrgNameLen : ℕ) (origin : Origin AccountId) :
    Call AccountId → State AccountId → Result (State AccountId)
  | .createOrganization name maxOfficers maxMembers =>
    createOrganization maxOrgNameLen origin name maxOfficers maxMembers
  | .mintRoleKey orgId targetAccount tier => mintRoleKey origin orgId targetAccount tier
  | .revokeRoleKey orgId targetAccount => revokeRoleKey origin orgId targetAccount

/-! ### What the calls do -/

section Spec

variable {maxOrgNameLen maxOfficers maxMembers orgId : ℕ} {origin : Origin AccountId}
  {name : List UInt8} {targetAccount : AccountId} {tier minterTier : RoleTier}
  {s s' : State AccountId}

theorem createOrganization_eq_ok :
    createOrganization maxOrgNameLen origin name maxOfficers maxMembers s = .ok s' ↔
      ∃ owner, origin = .signed owner ∧ name.length ≤ maxOrgNameLen ∧
        s' = {
          nextOrgId := (checkedAdd u32Max s.nextOrgId 1).getD s.nextOrgId
          organizations := s.organizations.insert s.nextOrgId
            { owner := owner
              name := name
              createdAt := 0 }
          roleSlots := s.roleSlots.insert s.nextOrgId (maxOfficers, maxMembers)
          issuedKeys := s.issuedKeys.insert (s.nextOrgId, owner) .root } := by
  simp only [createOrganization, ensureSigned_bind_eq_ok, ensure_bind_eq_ok, pure_eq_ok,
    eq_comm (a := s')]

omit [DecidableEq AccountId] in
theorem ensureMayMint_eq_ok {u : Unit} : ensureMayMint minterTier tier = .ok u ↔
    minterTier = .root ∨ (minterTier = .officer ∧ tier = .member) := by
  cases minterTier <;> simp [ensureMayMint]

/-- A successful minting is by a holder of a key that may hand out the tier, to an account
without a key. -/
theorem mintRoleKey_ok (h : mintRoleKey origin orgId targetAccount tier s = .ok s') :
    ∃ minter minterTier, origin = .signed minter ∧
      s.issuedKeys.get (orgId, minter) = some minterTier ∧
        (minterTier = .root ∨ (minterTier = .officer ∧ tier = .member)) ∧
          s' = { s with issuedKeys := s.issuedKeys.insert (orgId, targetAccount) tier } := by
  obtain ⟨minter, horigin, h⟩ := ensureSigned_bind_eq_ok.mp h
  obtain ⟨_, h⟩ := ensure_bind_eq_ok.mp h
  obtain ⟨_, h⟩ := ensure_bind_eq_ok.mp h
  obtain ⟨minterTier, htier, h⟩ := required_bind_eq_ok.mp h
  obtain ⟨_, hmay, h⟩ := bind_eq_ok.mp h
  exact ⟨minter, minterTier, horigin, htier, ensureMayMint_eq_ok.mp hmay,
    (pure_eq_ok.mp h).symm⟩

/-- A successful revocation removes one key. -/
theorem revokeRoleKey_ok (h : revokeRoleKey origin orgId targetAccount s = .ok s') :
    s' = { s with issuedKeys := s.issuedKeys.remove (orgId, targetAccount) } := by
  obtain ⟨_, _, h⟩ := ensureSigned_bind_eq_ok.mp h
  obtain ⟨_, _, h⟩ := required_bind_eq_ok.mp h
  obtain ⟨_, _, h⟩ := required_bind_eq_ok.mp h
  obtain ⟨_, h⟩ := ensure_bind_eq_ok.mp h
  obtain ⟨_, _, h⟩ := bind_eq_ok.mp h
  exact (pure_eq_ok.mp h).symm

end Spec

end OrgRoles
