import Altan.Foundation.Arithmetic
import Altan.Foundation.BoundedVec
import Altan.Foundation.Dispatch
import Altan.Foundation.StorageMap

/-!
# The access keys

Legal entities issue keys to citizens, each with a mask of the portals that it opens. A key of the
second kind is bound to an organisation as well. A key is revoked by its issuer, for good. Whether
somebody may enter is decided by a scan of the keys of the holder.

## Main definitions

* `Config`, `Context`, `State`: the constants, what a call is dispatched with, and the storage
* `AccessKeyInfo`: a key
* `checkAccess`, `verifySbt`, `getHrRole`: what other modules ask
* `Call`, `dispatch`: the dispatchables
-/

open Bounded Dispatch

namespace AccessNft

/-- The errors of the module. -/
inductive Error
  | tokenNotFound
  | notIssuer
  | alreadyRevoked
  | tooManyKeysForHolder
  | tooManyHoldersForEntity
  | entityIdTooLong
  | invalidAccessLevel
  | invalidPortalMask
  | orgRegTooLong
  | sbtOrgMismatch
  | walletBound
  deriving DecidableEq, Repr

/-- The outcome of a function of the module. -/
abbrev Result (α : Type) := Except (DispatchError Error) α

/-- What kind of entity issues a key. -/
inductive EntityKind
  | organization
  | guild
  | governmentBody
  | committee
  | unifiedCenter
  | bank
  | pensionFund
  | creditReserve
  | foundation
  | region
  | custom
  deriving DecidableEq, Repr

/-- The identifier of an entity. -/
abbrev EntityId := BoundedVec UInt8 64

/-- The registration number of an organisation. -/
abbrev OrgRegNumber := BoundedVec UInt8 32

/-- A key. -/
structure AccessKeyInfo (AccountId : Type) where
  tokenId : ℕ
  entityKind : EntityKind
  entityId : EntityId
  holder : AccountId
  role : UInt16
  accessLevel : UInt8
  portalMask : UInt8
  issuedAt : ℕ
  revoked : Bool
  issuedBy : AccountId
  orgRegNumber : OrgRegNumber
  walletBound : Bool
  hrRole : UInt8
  deriving DecidableEq

/-- The constants of the module, and as whom an origin issues keys. -/
structure Config (AccountId : Type) where
  issuerOrigin : Origin AccountId → Option AccountId
  maxKeysPerHolder : ℕ
  maxHoldersPerEntity : ℕ

/-- What a call is dispatched with: its origin and the current block. -/
structure Context (AccountId : Type) where
  origin : Origin AccountId
  now : ℕ

variable {AccountId : Type}

/-- The storage of the module. -/
structure State (cfg : Config AccountId) where
  nextTokenId : ℕ
  accessKeys : StorageMap ℕ (AccessKeyInfo AccountId)
  holderKeys : StorageMap AccountId (BoundedVec ℕ cfg.maxKeysPerHolder)
  entityKeys : StorageMap EntityId (BoundedVec ℕ cfg.maxHoldersPerEntity)

variable {cfg : Config AccountId}

/-- The storage before any call. -/
def genesis : State cfg where
  nextTokenId := 0
  accessKeys := ∅
  holderKeys := ∅
  entityKeys := ∅

/-- The account that issues or revokes keys. -/
def ensureIssuer (cfg : Config AccountId) (ctx : Context AccountId) : Result AccountId :=
  required (cfg.issuerOrigin ctx.origin) .badOrigin

/-- Fail unless the level and the mask of a key are in range. -/
def ensureTerms (accessLevel portalMask : UInt8) : Result Unit := do
  ensure (1 ≤ accessLevel ∧ accessLevel ≤ 10) (.module .invalidAccessLevel)
  ensure (1 ≤ portalMask ∧ portalMask ≤ 7) (.module .invalidPortalMask)

variable [DecidableEq AccountId]

/-- The keys of a holder. -/
def State.keysOf (s : State cfg) (holder : AccountId) : BoundedVec ℕ cfg.maxKeysPerHolder :=
  s.holderKeys.getD holder .empty

/-- The keys for an entity. -/
def State.keysFor (s : State cfg) (entityId : EntityId) : BoundedVec ℕ cfg.maxHoldersPerEntity :=
  s.entityKeys.getD entityId .empty

/-- Write a key under its number and to both indices. When an index is full the call fails, and
with it all that it has written. -/
def storeKey (key : AccessKeyInfo AccountId) (s : State cfg) : Result (State cfg) := do
  let holderKeys ← required ((s.keysOf key.holder).tryPush key.tokenId)
    (.module .tooManyKeysForHolder)
  let entityKeys ← required ((s.keysFor key.entityId).tryPush key.tokenId)
    (.module .tooManyHoldersForEntity)
  return {
    nextTokenId := saturatingAdd u64Max key.tokenId 1
    accessKeys := s.accessKeys.insert key.tokenId key
    holderKeys := s.holderKeys.insert key.holder holderKeys
    entityKeys := s.entityKeys.insert key.entityId entityKeys }

/-- Issue a key. -/
def issueAccessKey (ctx : Context AccountId) (entityKind : EntityKind) (entityId : List UInt8)
    (holder : AccountId) (role : UInt16) (accessLevel portalMask : UInt8) (s : State cfg) :
    Result (State cfg) := do
  let issuer ← ensureIssuer cfg ctx
  ensureTerms accessLevel portalMask
  let entityIdBounded ← required (BoundedVec.tryFrom 64 entityId) (.module .entityIdTooLong)
  storeKey
    { tokenId := s.nextTokenId
      entityKind := entityKind
      entityId := entityIdBounded
      holder := holder
      role := role
      accessLevel := accessLevel
      portalMask := portalMask
      issuedAt := ctx.now
      revoked := false
      issuedBy := issuer
      orgRegNumber := .empty
      walletBound := false
      hrRole := 255 } s

/-- Issue a key that is bound to an organisation. -/
def issueSbtKey (ctx : Context AccountId) (entityKind : EntityKind) (entityId : List UInt8)
    (orgRegNumber : List UInt8) (holder : AccountId) (role : UInt16)
    (accessLevel portalMask hrRole : UInt8) (s : State cfg) : Result (State cfg) := do
  let issuer ← ensureIssuer cfg ctx
  ensureTerms accessLevel portalMask
  let entityIdBounded ← required (BoundedVec.tryFrom 64 entityId) (.module .entityIdTooLong)
  let orgRegBounded ← required (BoundedVec.tryFrom 32 orgRegNumber) (.module .orgRegTooLong)
  ensure (orgRegBounded.val ≠ []) (.module .orgRegTooLong)
  storeKey
    { tokenId := s.nextTokenId
      entityKind := entityKind
      entityId := entityIdBounded
      holder := holder
      role := role
      accessLevel := accessLevel
      portalMask := portalMask
      issuedAt := ctx.now
      revoked := false
      issuedBy := issuer
      orgRegNumber := orgRegBounded
      walletBound := true
      hrRole := hrRole } s

/-- Revoke a key, as its issuer. -/
def revokeAccessKey (ctx : Context AccountId) (tokenId : ℕ) (s : State cfg) :
    Result (State cfg) := do
  let revoker ← ensureIssuer cfg ctx
  let key ← required (s.accessKeys.get tokenId) (.module .tokenNotFound)
  ensure (key.revoked = false) (.module .alreadyRevoked)
  ensure (key.issuedBy = revoker) (.module .notIssuer)
  return { s with accessKeys := s.accessKeys.insert tokenId { key with revoked := true } }

/-! ### What other modules ask -/

/-- The keys of a holder, in the order of the index. -/
def State.heldKeys (s : State cfg) (who : AccountId) : List (AccessKeyInfo AccountId) :=
  (s.keysOf who).val.filterMap s.accessKeys.get

omit [DecidableEq AccountId] in
/-- A key is for an entity and opens every portal of a mask. -/
def AccessKeyInfo.opens (key : AccessKeyInfo AccountId) (entityId : List UInt8)
    (requiredMask : UInt8) : Bool :=
  !key.revoked && decide (key.entityId.val = entityId) &&
    decide (key.portalMask &&& requiredMask = requiredMask)

omit [DecidableEq AccountId] in
/-- A key is bound to an organisation. -/
def AccessKeyInfo.boundTo (key : AccessKeyInfo AccountId) (orgRegNumber : List UInt8) : Bool :=
  key.walletBound && decide (key.orgRegNumber.val = orgRegNumber)

/-- Whether somebody has a key that opens the portals of an entity. -/
def checkAccess (s : State cfg) (who : AccountId) (entityId : List UInt8) (requiredMask : UInt8) :
    Bool :=
  (s.heldKeys who).any fun key => key.opens entityId requiredMask

/-- Whether one of the keys that do so is bound to the organisation. -/
def verifySbt (s : State cfg) (who : AccountId) (entityId orgRegNumber : List UInt8)
    (requiredMask : UInt8) : Bool :=
  (s.heldKeys who).any fun key => key.boundTo orgRegNumber && key.opens entityId requiredMask

/-- The role of the first key that is bound to the organisation. -/
def getHrRole (s : State cfg) (who : AccountId) (orgRegNumber : List UInt8) : Option UInt8 :=
  ((s.heldKeys who).find? fun key => !key.revoked && key.boundTo orgRegNumber).map
    AccessKeyInfo.hrRole

/-! ### The dispatchables -/

/-- The dispatchables with their arguments. -/
inductive Call (AccountId : Type)
  | issueAccessKey (entityKind : EntityKind) (entityId : List UInt8) (holder : AccountId)
    (role : UInt16) (accessLevel portalMask : UInt8)
  | revokeAccessKey (tokenId : ℕ)
  | issueSbtKey (entityKind : EntityKind) (entityId orgRegNumber : List UInt8)
    (holder : AccountId) (role : UInt16) (accessLevel portalMask hrRole : UInt8)
  deriving DecidableEq

/-- Dispatch a call. -/
def dispatch (ctx : Context AccountId) : Call AccountId → State cfg → Result (State cfg)
  | .issueAccessKey entityKind entityId holder role accessLevel portalMask =>
    issueAccessKey ctx entityKind entityId holder role accessLevel portalMask
  | .revokeAccessKey tokenId => revokeAccessKey ctx tokenId
  | .issueSbtKey entityKind entityId orgRegNumber holder role accessLevel portalMask hrRole =>
    issueSbtKey ctx entityKind entityId orgRegNumber holder role accessLevel portalMask hrRole

/-- A call with what it is dispatched with. -/
abbrev Input (AccountId : Type) : Type := Context AccountId × Call AccountId

/-- The state after one input. -/
def step (cfg : Config AccountId) (x : Input AccountId) (s : State cfg) : Result (State cfg) :=
  dispatch x.1 x.2 s

end AccessNft
