import Altan.Foundation.Arithmetic
import Altan.Foundation.BoundedVec
import Altan.Foundation.Dispatch
import Altan.Foundation.StorageMap
import Altan.Identity.Spec

/-!
# The land registry

Root registers parcels of land under numbers, and their owners pass them on. An owner must be
recorded among the citizens and not be a foreigner when the land is acquired. The parcels are kept
by their number, and again by their owner.

## Main definitions

* `LandParcel`, `State`: what is recorded of a parcel, and the storage
* `registerParcel`, `transferLand`, `updateResourceRights`: the dispatchables
* `World`, `Input`, `step`: the registry and the citizens as one state machine
-/

open Bounded Dispatch

namespace LandRegistry

/-- The errors of the module, and those of the citizens. -/
inductive Error
  | parcelNotFound
  | notParcelOwner
  | foreignLandOwnershipForbidden
  | buyerNotRegistered
  | selfTransfer
  | buyerAccountFrozenOrExiled
  | parcelIdOverflow
  | identity (e : Identity.Error)
  deriving DecidableEq, Repr

/-- The outcome of a function of the module. -/
abbrev Result (α : Type) := Except (DispatchError Error) α

/-- What an owner may do with a parcel. -/
inductive ResourceRights
  | surfaceOnly
  | surfaceAndForestry
  | surfaceAndWater
  | surfaceAndHunting
  | mineralProspecting
  | fullSubsoil
  deriving DecidableEq, Repr

/-- The greatest length of a description. -/
def maxParcelDescriptionLen : ℕ := 512

/-- What is recorded of a parcel. -/
structure LandParcel (AccountId : Type) where
  owner : AccountId
  region : ℕ
  coordinateHash : Bytes32
  areaSqm : ℕ
  resourceRights : ResourceRights
  registeredAt : ℕ
  description : BoundedVec UInt8 maxParcelDescriptionLen
  deriving DecidableEq

/-- The storage of the module. -/
structure State (AccountId : Type) where
  landParcels : StorageMap ℕ (LandParcel AccountId)
  nextParcelId : ℕ
  parcelsByOwner : StorageMap (AccountId × ℕ) Unit

/-- The records of the citizens. -/
abbrev Citizens (AccountId : Type) := StorageMap AccountId Identity.CitizenRecord

variable {AccountId : Type}

/-- The storage before any call. -/
def genesis : State AccountId where
  landParcels := ∅
  nextParcelId := 0
  parcelsByOwner := ∅

variable [DecidableEq AccountId]

/-- Register a parcel to its first owner, as root. -/
def registerParcel (origin : Origin AccountId) (now : ℕ) (citizens : Citizens AccountId)
    (owner : AccountId) (region : ℕ) (coordinateHash : Bytes32) (areaSqm : ℕ)
    (resourceRights : ResourceRights) (description : BoundedVec UInt8 maxParcelDescriptionLen)
    (s : State AccountId) : Result (State AccountId) := do
  ensureRoot origin
  let citizen ← required (citizens.get owner) (.module .buyerNotRegistered)
  ensure (citizen.citizenshipStatus ≠ .foreigner) (.module .foreignLandOwnershipForbidden)
  let parcelId := s.nextParcelId
  let nextId ← required (checkedAdd u64Max parcelId 1) (.module .parcelIdOverflow)
  return {
    landParcels := s.landParcels.insert parcelId
      { owner := owner
        region := region
        coordinateHash := coordinateHash
        areaSqm := areaSqm
        resourceRights := resourceRights
        registeredAt := if now ≤ u32Max then now else 0
        description := description }
    parcelsByOwner := s.parcelsByOwner.insert (owner, parcelId) ()
    nextParcelId := nextId }

/-- Pass a parcel on to a buyer, as its owner. -/
def transferLand (origin : Origin AccountId) (citizens : Citizens AccountId) (parcelId : ℕ)
    (buyer : AccountId) (s : State AccountId) : Result (State AccountId) := do
  let seller ← ensureSigned origin
  ensure (seller ≠ buyer) (.module .selfTransfer)
  let parcel ← required (s.landParcels.get parcelId) (.module .parcelNotFound)
  ensure (parcel.owner = seller) (.module .notParcelOwner)
  let buyerRecord ← required (citizens.get buyer) (.module .buyerNotRegistered)
  ensure (buyerRecord.citizenshipStatus ≠ .foreigner) (.module .foreignLandOwnershipForbidden)
  ensure (buyerRecord.status = .active) (.module .buyerAccountFrozenOrExiled)
  return { s with
    parcelsByOwner := (s.parcelsByOwner.remove (seller, parcelId)).insert (buyer, parcelId) ()
    landParcels := s.landParcels.insert parcelId { parcel with owner := buyer } }

/-- Change what the owner of a parcel may do with it, as root. -/
def updateResourceRights (origin : Origin AccountId) (parcelId : ℕ) (newRights : ResourceRights)
    (s : State AccountId) : Result (State AccountId) := do
  ensureRoot origin
  let parcel ← required (s.landParcels.get parcelId) (.module .parcelNotFound)
  return { s with
    landParcels := s.landParcels.insert parcelId { parcel with resourceRights := newRights } }

/-! ### Dispatch -/

/-- The dispatchables with their arguments. -/
inductive Call (AccountId : Type)
  | registerParcel (owner : AccountId) (region : ℕ) (coordinateHash : Bytes32) (areaSqm : ℕ)
    (resourceRights : ResourceRights) (description : BoundedVec UInt8 maxParcelDescriptionLen)
  | transferLand (parcelId : ℕ) (buyer : AccountId)
  | updateResourceRights (parcelId : ℕ) (newRights : ResourceRights)
  deriving DecidableEq

/-- Dispatch a call. -/
def dispatch (origin : Origin AccountId) (now : ℕ) (citizens : Citizens AccountId) :
    Call AccountId → State AccountId → Result (State AccountId)
  | .registerParcel owner region coordinateHash areaSqm resourceRights description =>
    registerParcel origin now citizens owner region coordinateHash areaSqm resourceRights
      description
  | .transferLand parcelId buyer => transferLand origin citizens parcelId buyer
  | .updateResourceRights parcelId newRights => updateResourceRights origin parcelId newRights

/-- The registry, and the citizens in a block. -/
structure World (AccountId L : Type) where
  identity : Identity.World AccountId L
  land : State AccountId

/-- What happens: something to the citizens, a call of another module and the passing of blocks
included, or a call of the registry. -/
inductive Input (AccountId : Type)
  | identity (x : Identity.Input AccountId)
  | land (origin : Origin AccountId) (call : Call AccountId)
  deriving DecidableEq

/-- One input as a step of the state machine. -/
def step {L : Type} [Currency AccountId L] [ReservableCurrency AccountId L]
    (cfg : Identity.Config AccountId L) :
    Input AccountId → World AccountId L → Result (World AccountId L)
  | .identity x, w => do
    let identity ← (Identity.step cfg x w.identity).mapError (DispatchError.map .identity)
    return { w with identity := identity }
  | .land origin call, w => do
    let land ← dispatch origin w.identity.now w.identity.citizens call w.land
    return { w with land := land }

end LandRegistry
