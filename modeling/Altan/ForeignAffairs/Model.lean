import Altan.Foundation.Arithmetic
import Altan.Foundation.BoundedVec
import Altan.Foundation.Dispatch
import Altan.Foundation.Scale
import Altan.Foundation.StorageMap

/-!
# Foreign affairs

Foreign states are registered by root, each with thirteen accounts that are derived from its country
code. Root accredits a representative to each, who appoints and removes the members of a council.
The representative and the council send messages in the diplomatic channel of the country and
acknowledge those of both channels.

## Main definitions

* `Config`, `Context`, `State`: the constants, what a call is dispatched with, and the storage
* `isCouncilAuthorized`: who acts for a country
* `Call`, `dispatch`: the dispatchables
-/

open Bounded Dispatch

namespace ForeignAffairs

/-- The errors of the module. -/
inductive Error
  | countryAlreadyRegistered
  | countryNotFound
  | invalidCountryName
  | countrySanctioned
  | diplomaticStatusNotActive
  | channelFull
  | messageIndexOutOfBounds
  | unauthorizedSender
  | accountNotFound
  | noRepresentativeRegistered
  | notRepresentative
  | alreadyCouncilMember
  | notCouncilMember
  | councilFull
  | councilEmpty
  deriving DecidableEq, Repr

/-- The outcome of a function of the module. -/
abbrev Result (α : Type) := Except (DispatchError Error) α

/-- The relations with a foreign state. -/
inductive DiplomaticStatus
  | active
  | suspended
  | sanctioned
  | noRelations
  deriving DecidableEq, Repr

/-- What a message is about. -/
inductive ChannelMessageType
  | diplomaticNote
  | documentLegalization
  | passportApplication
  | bankingNotification
  | tradeAgreement
  | consularRequest
  deriving DecidableEq, Repr

/-- The channels of a country. -/
inductive ChannelKind
  | diplomatic
  | legalization
  deriving DecidableEq, Repr

/-- A registered foreign state. -/
structure ForeignStateRecord where
  countryCode : UInt16
  isoAlpha2 : Vector UInt8 2
  isoAlpha3 : Vector UInt8 3
  status : DiplomaticStatus
  registeredAt : ℕ
  bankWalletCount : UInt8
  deriving DecidableEq

/-- A message in a channel, with the hash of its sender. -/
structure ChannelMessage where
  countryCode : UInt16
  messageType : ChannelMessageType
  senderHash : Bytes32
  contentHash : Bytes32
  submittedAt : ℕ
  acknowledged : Bool
  deriving DecidableEq

/-- The constants of the module, the hash of the runtime, and how an account is encoded and
decoded. -/
structure Config (AccountId : Type) where
  maxChannelMessages : ℕ
  maxDiplomaticCouncil : ℕ
  hashing : List UInt8 → Bytes32
  encode : AccountId → List UInt8
  decode : Bytes32 → AccountId

/-- What a call is dispatched with: its origin and the current block. -/
structure Context (AccountId : Type) where
  origin : Origin AccountId
  now : ℕ

variable {AccountId : Type}

/-- The storage of the module. -/
structure State (cfg : Config AccountId) where
  foreignStates : StorageMap UInt16 ForeignStateRecord
  totalStates : ℕ
  countryNames : StorageMap UInt16 (BoundedVec UInt8 128)
  countryAccounts : StorageMap (UInt16 × UInt8) AccountId
  diplomaticChannel : StorageMap UInt16 (BoundedVec ChannelMessage cfg.maxChannelMessages)
  legalizationChannel : StorageMap UInt16 (BoundedVec ChannelMessage cfg.maxChannelMessages)
  diplomaticRepresentative : StorageMap UInt16 AccountId
  diplomaticCouncil : StorageMap UInt16 (BoundedVec AccountId cfg.maxDiplomaticCouncil)

variable {cfg : Config AccountId}

/-- The storage before any call. -/
def genesis : State cfg where
  foreignStates := ∅
  totalStates := 0
  countryNames := ∅
  countryAccounts := ∅
  diplomaticChannel := ∅
  legalizationChannel := ∅
  diplomaticRepresentative := ∅
  diplomaticCouncil := ∅

/-- The council of a country. -/
def State.council (s : State cfg) (countryCode : UInt16) :
    BoundedVec AccountId cfg.maxDiplomaticCouncil :=
  s.diplomaticCouncil.getD countryCode .empty

/-- The messages of a country in a channel. -/
def State.channel (s : State cfg) (channel : ChannelKind) (countryCode : UInt16) :
    BoundedVec ChannelMessage cfg.maxChannelMessages :=
  match channel with
  | .diplomatic => s.diplomaticChannel.getD countryCode .empty
  | .legalization => s.legalizationChannel.getD countryCode .empty

/-- The storage with other messages in a channel. -/
def State.withChannel (s : State cfg) (channel : ChannelKind) (countryCode : UInt16)
    (messages : BoundedVec ChannelMessage cfg.maxChannelMessages) : State cfg :=
  match channel with
  | .diplomatic =>
    { s with diplomaticChannel := s.diplomaticChannel.insert countryCode messages }
  | .legalization =>
    { s with legalizationChannel := s.legalizationChannel.insert countryCode messages }

/-- The number of a block in 32 bits. -/
def blockToU32 (block : ℕ) : ℕ := block % (u32Max + 1)

/-- What the account in a slot of a country is derived from. -/
def seed (countryCode : UInt16) (slot : UInt8) : List UInt8 :=
  0x46 :: 0x41 :: (countryCode >>> 8).toUInt8 :: countryCode.toUInt8 :: slot :: List.replicate 27 0

/-- The account in a slot of a country. -/
def generateAccount (cfg : Config AccountId) (countryCode : UInt16) (slot : UInt8) : AccountId :=
  cfg.decode (cfg.hashing (seed countryCode slot))

/-- The slots of a country. -/
def slots : List UInt8 := [0, 1, 2, 3, 4, 5, 6, 7, 8, 9, 10, 11, 12]

/-- Register a foreign state, as root. -/
def registerForeignState (ctx : Context AccountId) (countryCode : UInt16)
    (isoAlpha2 : Vector UInt8 2) (isoAlpha3 : Vector UInt8 3) (name : BoundedVec UInt8 128)
    (status : DiplomaticStatus) (s : State cfg) : Result (State cfg) := do
  ensureRoot ctx.origin
  ensure (s.foreignStates.containsKey countryCode = false) (.module .countryAlreadyRegistered)
  ensure (name.val ≠ []) (.module .invalidCountryName)
  return { s with
    countryAccounts := slots.foldl (fun m slot =>
      m.insert (countryCode, slot) (generateAccount cfg countryCode slot)) s.countryAccounts
    foreignStates := s.foreignStates.insert countryCode
      { countryCode := countryCode
        isoAlpha2 := isoAlpha2
        isoAlpha3 := isoAlpha3
        status := status
        registeredAt := blockToU32 ctx.now
        bankWalletCount := 10 }
    countryNames := s.countryNames.insert countryCode name
    totalStates := saturatingAdd u32Max s.totalStates 1 }

/-- Change the relations with a foreign state. -/
def setStatus (countryCode : UInt16) (newStatus : DiplomaticStatus) (s : State cfg) :
    Result (State cfg) := do
  let record ← required (s.foreignStates.get countryCode) (.module .countryNotFound)
  return { s with
    foreignStates := s.foreignStates.insert countryCode { record with status := newStatus } }

/-- Change the relations with a foreign state, as root. -/
def updateDiplomaticStatus (ctx : Context AccountId) (countryCode : UInt16)
    (newStatus : DiplomaticStatus) (s : State cfg) : Result (State cfg) := do
  ensureRoot ctx.origin
  setStatus countryCode newStatus s

/-- Impose sanctions on a foreign state, as root. -/
def freezeCountryOperations (ctx : Context AccountId) (countryCode : UInt16) (s : State cfg) :
    Result (State cfg) := do
  ensureRoot ctx.origin
  setStatus countryCode .sanctioned s

/-- A message that is not acknowledged yet. -/
def message (cfg : Config AccountId) (ctx : Context AccountId) (countryCode : UInt16)
    (messageType : ChannelMessageType) (sender : AccountId) (contentHash : Bytes32) :
    ChannelMessage where
  countryCode := countryCode
  messageType := messageType
  senderHash := cfg.hashing (cfg.encode sender)
  contentHash := contentHash
  submittedAt := blockToU32 ctx.now
  acknowledged := false

/-- The storage with one more message in a channel. -/
def pushMessage (channel : ChannelKind) (m : ChannelMessage) (s : State cfg) :
    Result (State cfg) := do
  let messages ← required ((s.channel channel m.countryCode).tryPush m) (.module .channelFull)
  return s.withChannel channel m.countryCode messages

/-- Submit a document for legalization. -/
def submitLegalizationDocument (ctx : Context AccountId) (countryCode : UInt16)
    (contentHash : Bytes32) (s : State cfg) : Result (State cfg) := do
  let sender ← ensureSigned ctx.origin
  let state ← required (s.foreignStates.get countryCode) (.module .countryNotFound)
  ensure (state.status = .active ∨ state.status = .suspended) (.module .countrySanctioned)
  pushMessage .legalization
    (message cfg ctx countryCode .documentLegalization sender contentHash) s

variable [DecidableEq AccountId]

/-- Fail unless an account is the representative of a country or of its council. -/
def isCouncilAuthorized (countryCode : UInt16) (who : AccountId) (s : State cfg) : Result Unit :=
  if s.diplomaticRepresentative.get countryCode = some who then .ok ()
  else ensure (who ∈ (s.council countryCode).val) (.module .unauthorizedSender)

/-- Send a message in the diplomatic channel. -/
def sendDiplomaticMessage (ctx : Context AccountId) (countryCode : UInt16)
    (messageType : ChannelMessageType) (contentHash : Bytes32) (s : State cfg) :
    Result (State cfg) := do
  let sender ← ensureSigned ctx.origin
  let state ← required (s.foreignStates.get countryCode) (.module .countryNotFound)
  ensure (state.status = .active) (.module .diplomaticStatusNotActive)
  isCouncilAuthorized countryCode sender s
  pushMessage .diplomatic (message cfg ctx countryCode messageType sender contentHash) s

/-- Acknowledge a message of a channel. -/
def acknowledgeMessage (ctx : Context AccountId) (countryCode : UInt16) (channel : ChannelKind)
    (messageIndex : ℕ) (s : State cfg) : Result (State cfg) := do
  let sender ← ensureSigned ctx.origin
  isCouncilAuthorized countryCode sender s
  let messages := s.channel channel countryCode
  ensure (messageIndex < messages.val.length) (.module .messageIndexOutOfBounds)
  return s.withChannel channel countryCode
    (messages.modify messageIndex fun msg => { msg with acknowledged := true })

omit [DecidableEq AccountId] in
/-- Accredit a representative, as root. The council of a predecessor is dissolved. -/
def registerRepresentative (ctx : Context AccountId) (countryCode : UInt16)
    (representative : AccountId) (s : State cfg) : Result (State cfg) := do
  ensureRoot ctx.origin
  ensure (s.foreignStates.containsKey countryCode = true) (.module .countryNotFound)
  return { s with
    diplomaticCouncil :=
      if s.diplomaticRepresentative.containsKey countryCode = true then
        s.diplomaticCouncil.remove countryCode
      else s.diplomaticCouncil
    diplomaticRepresentative := s.diplomaticRepresentative.insert countryCode representative }

/-- Fail unless an account is the representative of a country. -/
def ensureRepresentative (countryCode : UInt16) (caller : AccountId) (s : State cfg) :
    Result Unit := do
  let rep ← required (s.diplomaticRepresentative.get countryCode)
    (.module .noRepresentativeRegistered)
  ensure (caller = rep) (.module .notRepresentative)

/-- Appoint a member of the council, as the representative. -/
def appointCouncilMember (ctx : Context AccountId) (countryCode : UInt16) (member : AccountId)
    (s : State cfg) : Result (State cfg) := do
  let caller ← ensureSigned ctx.origin
  let state ← required (s.foreignStates.get countryCode) (.module .countryNotFound)
  ensure (state.status ≠ .sanctioned) (.module .countrySanctioned)
  ensureRepresentative countryCode caller s
  ensure (member ∉ (s.council countryCode).val) (.module .alreadyCouncilMember)
  let council ← required ((s.council countryCode).tryPush member) (.module .councilFull)
  return { s with diplomaticCouncil := s.diplomaticCouncil.insert countryCode council }

/-- Remove a member of the council, as the representative. -/
def removeCouncilMember (ctx : Context AccountId) (countryCode : UInt16) (member : AccountId)
    (s : State cfg) : Result (State cfg) := do
  let caller ← ensureSigned ctx.origin
  ensureRepresentative countryCode caller s
  ensure (member ∈ (s.council countryCode).val) (.module .notCouncilMember)
  return { s with
    diplomaticCouncil :=
      s.diplomaticCouncil.insert countryCode ((s.council countryCode).erase member) }

/-! ### The dispatchables -/

/-- The dispatchables with their arguments. -/
inductive Call (AccountId : Type)
  | registerForeignState (countryCode : UInt16) (isoAlpha2 : Vector UInt8 2)
    (isoAlpha3 : Vector UInt8 3) (name : BoundedVec UInt8 128) (status : DiplomaticStatus)
  | updateDiplomaticStatus (countryCode : UInt16) (newStatus : DiplomaticStatus)
  | sendDiplomaticMessage (countryCode : UInt16) (messageType : ChannelMessageType)
    (contentHash : Bytes32)
  | submitLegalizationDocument (countryCode : UInt16) (contentHash : Bytes32)
  | freezeCountryOperations (countryCode : UInt16)
  | acknowledgeMessage (countryCode : UInt16) (channel : ChannelKind) (messageIndex : ℕ)
  | registerRepresentative (countryCode : UInt16) (representative : AccountId)
  | appointCouncilMember (countryCode : UInt16) (member : AccountId)
  | removeCouncilMember (countryCode : UInt16) (member : AccountId)
  deriving DecidableEq

/-- Dispatch a call. -/
def dispatch (ctx : Context AccountId) : Call AccountId → State cfg → Result (State cfg)
  | .registerForeignState countryCode isoAlpha2 isoAlpha3 name status =>
    registerForeignState ctx countryCode isoAlpha2 isoAlpha3 name status
  | .updateDiplomaticStatus countryCode newStatus =>
    updateDiplomaticStatus ctx countryCode newStatus
  | .sendDiplomaticMessage countryCode messageType contentHash =>
    sendDiplomaticMessage ctx countryCode messageType contentHash
  | .submitLegalizationDocument countryCode contentHash =>
    submitLegalizationDocument ctx countryCode contentHash
  | .freezeCountryOperations countryCode => freezeCountryOperations ctx countryCode
  | .acknowledgeMessage countryCode channel messageIndex =>
    acknowledgeMessage ctx countryCode channel messageIndex
  | .registerRepresentative countryCode representative =>
    registerRepresentative ctx countryCode representative
  | .appointCouncilMember countryCode member => appointCouncilMember ctx countryCode member
  | .removeCouncilMember countryCode member => removeCouncilMember ctx countryCode member

/-- A call with what it is dispatched with. -/
abbrev Input (AccountId : Type) : Type := Context AccountId × Call AccountId

/-- The state after one input. -/
def step (cfg : Config AccountId) (x : Input AccountId) (s : State cfg) : Result (State cfg) :=
  dispatch x.1 x.2 s

end ForeignAffairs
