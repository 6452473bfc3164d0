import Altan.Foundation.Arithmetic
import Altan.Foundation.BoundedVec
import Altan.Foundation.Dispatch
import Altan.Foundation.Scale
import Altan.Foundation.StorageMap
import Altan.Foundation.Text
import Altan.Foundation.TransitionSystem

/-!
# The migration center

A wallet anchors an application under a hash that has not been used. An officer claims the
application with a signature of the hash and the current block, and approves or rejects it; root
revokes it as long as neither has happened. A wallet whose application has ended may submit another,
which takes the place of the first.

## Main definitions

* `Config`, `Context`, `State`: the parameters, what a call is dispatched with, and the storage
* `claimMessage`: what an officer signs
* `Call`, `dispatch`: the dispatchables
* `isApplicationApproved`, `applicantByHash`: what other modules ask
* `World`, `Input`, `step`: the storage in a block, and one input
* `submitted`: the anchor of a new application
* `Signed`: an officer has signed the claim of an application

## Main results

* `submitApplication_eq_ok`, `claimApplication_eq_ok`, `finalizeApplication_eq_ok`,
  `revokeApplication_eq_ok`: when a call is accepted
-/

open Bounded Dispatch

namespace MigrationCenter

/-- The errors of the module. -/
inductive Error
  | applicationAlreadyExists
  | applicationNotFound
  | notSubmitted
  | notUnderReview
  | notTheClaimingOfficer
  | alreadyFinalized
  | invalidOfficerSignature
  | duplicateApplicationHash
  | invalidSignatureLength
  deriving DecidableEq, Repr

/-- The outcome of a function of the module. -/
abbrev Result (α : Type) := Except (DispatchError Error) α

/-- Where an application stands. -/
inductive AnchorStatus
  | submitted
  | underReview
  | approved
  | rejected
  | revoked
  deriving DecidableEq, Repr

/-- Whether an application has ended. -/
def AnchorStatus.isTerminal : AnchorStatus → Bool
  | .submitted | .underReview => false
  | .approved | .rejected | .revoked => true

/-- A signature as an officer submits it. -/
abbrev OfficerSig := BoundedVec UInt8 64

/-- The anchor of an application. -/
structure ApplicationAnchor (AccountId : Type) where
  applicationIdHash : Bytes32
  dataHash : Bytes32
  submittedAtBlock : UInt32
  status : AnchorStatus
  officer : Option AccountId
  officerClaimSig : Option OfficerSig
  claimedAtBlock : Option UInt32
  outcomeHash : Option Bytes32
  finalizedAtBlock : Option UInt32
  deriving DecidableEq

/-- How an account is encoded, and which signatures of which messages are those of a key. -/
structure Config (AccountId : Type) where
  encode : AccountId → List UInt8
  sr25519Verify : Vector UInt8 64 → List UInt8 → Bytes32 → Bool

/-- What a call is dispatched with: its origin and the current block. -/
structure Context (AccountId : Type) where
  origin : Origin AccountId
  now : UInt32

/-- The storage of the module. -/
structure State (AccountId : Type) where
  applicationAnchors : StorageMap AccountId (ApplicationAnchor AccountId)
  hashToApplicant : StorageMap Bytes32 AccountId
  totalApplications : ℕ
  totalApproved : ℕ

variable {AccountId : Type}

/-- The storage before any call. -/
def genesis : State AccountId where
  applicationAnchors := ∅
  hashToApplicant := ∅
  totalApplications := 0
  totalApproved := 0

/-! ### Messages -/

/-- A hash in hexadecimal. -/
def h256ToHex (h : Bytes32) : List UInt8 := Text.hexadecimal h.toList

/-- The message of a claim. -/
def buildClaimMessage (appHashHex : List UInt8) (blockNum : UInt64) : List UInt8 :=
  Text.latin "INOMAD:CLAIM:".toList ++ appHashHex ++ Text.latin [':'] ++
    Text.decimal blockNum.toNat

/-- A message as wallets wrap it. -/
def wrapBytes (msg : List UInt8) : List UInt8 :=
  Text.latin "<Bytes>".toList ++ msg ++ Text.latin "</Bytes>".toList

/-- What an officer signs to claim the application with a hash in a block. -/
def claimMessage (applicationIdHash : Bytes32) (block : UInt32) : List UInt8 :=
  wrapBytes (buildClaimMessage (h256ToHex applicationIdHash) block.toUInt64)

/-- An array of bytes, if there are as many as it has. -/
def byteArray (n : ℕ) (bytes : List UInt8) : Option (Vector UInt8 n) :=
  if h : bytes.length = n then some ⟨bytes.toArray, h⟩ else none

/-! ### The calls -/

variable [DecidableEq AccountId]

/-- The anchor of an applicant. -/
def anchorOf (applicant : AccountId) (s : State AccountId) :
    Result (ApplicationAnchor AccountId) :=
  required (s.applicationAnchors.get applicant) (.module .applicationNotFound)

/-- Submit an application under a new hash, as a wallet whose former one, if any, has ended. -/
def submitApplication (ctx : Context AccountId) (applicationIdHash dataHash : Bytes32)
    (s : State AccountId) : Result (State AccountId) := do
  let applicant ← ensureSigned ctx.origin
  ensure (s.hashToApplicant.containsKey applicationIdHash = false)
    (.module .duplicateApplicationHash)
  ensure (∀ existing ∈ s.applicationAnchors.get applicant, existing.status.isTerminal = true)
    (.module .applicationAlreadyExists)
  return {
    applicationAnchors := s.applicationAnchors.insert applicant
      { applicationIdHash := applicationIdHash
        dataHash := dataHash
        submittedAtBlock := ctx.now
        status := .submitted
        officer := none
        officerClaimSig := none
        claimedAtBlock := none
        outcomeHash := none
        finalizedAtBlock := none }
    hashToApplicant := s.hashToApplicant.insert applicationIdHash applicant
    totalApplications := saturatingAdd u64Max s.totalApplications 1
    totalApproved := s.totalApproved }

/-- Claim a submitted application with a signature. -/
def claimApplication (cfg : Config AccountId) (ctx : Context AccountId) (applicant : AccountId)
    (officerSig : OfficerSig) (s : State AccountId) : Result (State AccountId) := do
  let officer ← ensureSigned ctx.origin
  let anchor ← anchorOf applicant s
  ensure (anchor.status = .submitted) (.module .notSubmitted)
  let sigBytes ← required (byteArray 64 officerSig.val) (.module .invalidSignatureLength)
  let pubKeyBytes ← required (byteArray 32 (cfg.encode officer))
    (.module .invalidOfficerSignature)
  ensure (cfg.sr25519Verify sigBytes (claimMessage anchor.applicationIdHash ctx.now) pubKeyBytes =
    true) (.module .invalidOfficerSignature)
  return { s with
    applicationAnchors := s.applicationAnchors.insert applicant
      { anchor with
        status := .underReview
        officer := some officer
        officerClaimSig := some officerSig
        claimedAtBlock := some ctx.now } }

/-- Approve or reject an application, as the officer who has claimed it. -/
def finalizeApplication (ctx : Context AccountId) (applicant : AccountId) (approved : Bool)
    (outcomeHash : Bytes32) (s : State AccountId) : Result (State AccountId) := do
  let officer ← ensureSigned ctx.origin
  let anchor ← anchorOf applicant s
  ensure (anchor.status = .underReview) (.module .notUnderReview)
  let claimingOfficer ← required anchor.officer (.module .notUnderReview)
  ensure (claimingOfficer = officer) (.module .notTheClaimingOfficer)
  return { s with
    totalApproved := if approved then saturatingAdd u64Max s.totalApproved 1 else s.totalApproved
    applicationAnchors := s.applicationAnchors.insert applicant
      { anchor with
        status := if approved then .approved else .rejected
        outcomeHash := some outcomeHash
        finalizedAtBlock := some ctx.now } }

/-- Revoke an application that has not ended, as root. -/
def revokeApplication (ctx : Context AccountId) (applicant : AccountId) (s : State AccountId) :
    Result (State AccountId) := do
  ensureRoot ctx.origin
  let anchor ← anchorOf applicant s
  ensure (anchor.status.isTerminal = false) (.module .alreadyFinalized)
  return { s with
    applicationAnchors := s.applicationAnchors.insert applicant
      { anchor with status := .revoked } }

/-- The dispatchables with their arguments. -/
inductive Call (AccountId : Type)
  | submitApplication (applicationIdHash dataHash : Bytes32)
  | claimApplication (applicant : AccountId) (officerSig : OfficerSig)
  | finalizeApplication (applicant : AccountId) (approved : Bool) (outcomeHash : Bytes32)
  | revokeApplication (applicant : AccountId)
  deriving DecidableEq

/-- Dispatch a call. -/
def dispatch (cfg : Config AccountId) (ctx : Context AccountId) :
    Call AccountId → State AccountId → Result (State AccountId)
  | .submitApplication applicationIdHash dataHash =>
    submitApplication ctx applicationIdHash dataHash
  | .claimApplication applicant officerSig => claimApplication cfg ctx applicant officerSig
  | .finalizeApplication applicant approved outcomeHash =>
    finalizeApplication ctx applicant approved outcomeHash
  | .revokeApplication applicant => revokeApplication ctx applicant

/-! ### What other modules ask -/

/-- Whether the application of an applicant is approved. -/
def isApplicationApproved (s : State AccountId) (applicant : AccountId) : Bool :=
  ((s.applicationAnchors.get applicant).map fun a => decide (a.status = .approved)).getD false

/-- The applicant who has submitted an application under a hash. -/
def applicantByHash (s : State AccountId) (hash : Bytes32) : Option AccountId :=
  s.hashToApplicant.get hash

end MigrationCenter

/-! ### What the calls about applications do

The module as a state machine in which blocks pass, and for each call when it is accepted and what
it changes. -/

open TransitionSystem

namespace MigrationCenter

variable {AccountId : Type}

/-- The storage in a block. -/
structure World (AccountId : Type) extends State AccountId where
  now : UInt32

/-- A call with its origin, or the start of the next block. -/
inductive Input (AccountId : Type)
  | call (origin : Origin AccountId) (c : Call AccountId)
  | block
  deriving DecidableEq

/-- The storage before any call, in a block. -/
def World.genesis (now : UInt32) : World AccountId := { MigrationCenter.genesis with now := now }

variable [DecidableEq AccountId]

/-- The state after one input. There is no block after the last number. -/
def step (cfg : Config AccountId) : Input AccountId → World AccountId → Result (World AccountId)
  | .call origin c, w => do
    let s ← dispatch cfg ⟨origin, w.now⟩ c w.toState
    return { w with toState := s }
  | .block, w => do
    ensure (w.now.toNat < u32Max) .panic
    return { w with now := w.now + 1 }

variable {cfg : Config AccountId} {ctx : Context AccountId} {s s' : State AccountId}
  {w w' : World AccountId} {applicant : AccountId}
  {applicationIdHash dataHash outcomeHash : Bytes32} {officerSig : OfficerSig} {approved : Bool}

theorem step_call {c : Call AccountId} {origin : Origin AccountId} :
    step cfg (.call origin c) w = .ok w' ↔
      ∃ s, dispatch cfg ⟨origin, w.now⟩ c w.toState = .ok s ∧ w' = { w with toState := s } := by
  simp only [step, bind_eq_ok, pure_eq_ok, eq_comm (a := w')]

theorem step_block : step cfg .block w = .ok w' ↔
    w.now.toNat < u32Max ∧ w' = { w with now := w.now + 1 } := by
  simp only [step, ensure_bind_eq_ok, pure_eq_ok, eq_comm (a := w')]

/-! ### The calls -/

theorem byteArray_eq_some {n : ℕ} {bytes : List UInt8} {v : Vector UInt8 n} :
    byteArray n bytes = some v ↔ v.toList = bytes := by
  unfold byteArray
  constructor
  · intro h
    obtain ⟨hlength, h⟩ := Option.dite_none_right_eq_some.mp h
    rw [← Option.some.inj h]
    rfl
  · rintro rfl
    rw [dif_pos v.length_toList]
    rfl

/-- The anchor of a new application. -/
def submitted (applicationIdHash dataHash : Bytes32) (now : UInt32) :
    ApplicationAnchor AccountId where
  applicationIdHash := applicationIdHash
  dataHash := dataHash
  submittedAtBlock := now
  status := .submitted
  officer := none
  officerClaimSig := none
  claimedAtBlock := none
  outcomeHash := none
  finalizedAtBlock := none

theorem submitApplication_eq_ok :
    submitApplication ctx applicationIdHash dataHash s = .ok s' ↔
      ∃ applicant, ctx.origin = .signed applicant ∧
        s.hashToApplicant.get applicationIdHash = none ∧
        (∀ anchor, s.applicationAnchors.get applicant = some anchor →
          anchor.status.isTerminal = true) ∧
        s' = {
          applicationAnchors := s.applicationAnchors.insert applicant
            (submitted applicationIdHash dataHash ctx.now)
          hashToApplicant := s.hashToApplicant.insert applicationIdHash applicant
          totalApplications := saturatingAdd u64Max s.totalApplications 1
          totalApproved := s.totalApproved } := by
  simp only [submitApplication, ensureSigned_bind_eq_ok, ensure_bind_eq_ok, pure_eq_ok,
    StorageMap.not_containsKey, Option.mem_def, submitted, eq_comm (a := s')]

/-- The signature is one of the message of the claim, by the key of the officer. -/
def Signed (cfg : Config AccountId) (officer : AccountId) (applicationIdHash : Bytes32)
    (block : UInt32) (officerSig : OfficerSig) : Prop :=
  ∃ (sigBytes : Vector UInt8 64) (pubKeyBytes : Bytes32), sigBytes.toList = officerSig.val ∧
    pubKeyBytes.toList = cfg.encode officer ∧
    cfg.sr25519Verify sigBytes (claimMessage applicationIdHash block) pubKeyBytes = true

/-- The anchor after an officer has claimed it. -/
def ApplicationAnchor.claimed (anchor : ApplicationAnchor AccountId) (officer : AccountId)
    (officerSig : OfficerSig) (block : UInt32) : ApplicationAnchor AccountId :=
  { anchor with
    status := .underReview
    officer := some officer
    officerClaimSig := some officerSig
    claimedAtBlock := some block }

theorem claimApplication_eq_ok : claimApplication cfg ctx applicant officerSig s = .ok s' ↔
    ∃ officer anchor, ctx.origin = .signed officer ∧
      s.applicationAnchors.get applicant = some anchor ∧ anchor.status = .submitted ∧
      Signed cfg officer anchor.applicationIdHash ctx.now officerSig ∧
      s' = { s with
        applicationAnchors := s.applicationAnchors.insert applicant
          (anchor.claimed officer officerSig ctx.now) } := by
  simp only [claimApplication, anchorOf, ensureSigned_bind_eq_ok, required_bind_eq_ok,
    ensure_bind_eq_ok, byteArray_eq_some, pure_eq_ok]
  constructor
  · rintro ⟨officer, horigin, anchor, hanchor, hstatus, sigBytes, hsig, pubKeyBytes, hkey, hvalid,
      rfl⟩
    exact ⟨officer, anchor, horigin, hanchor, hstatus,
      ⟨sigBytes, pubKeyBytes, hsig, hkey, hvalid⟩, rfl⟩
  · rintro ⟨officer, anchor, horigin, hanchor, hstatus,
      ⟨sigBytes, pubKeyBytes, hsig, hkey, hvalid⟩, rfl⟩
    exact ⟨officer, horigin, anchor, hanchor, hstatus, sigBytes, hsig, pubKeyBytes, hkey, hvalid,
      rfl⟩

/-- The anchor after its officer has approved or rejected it. -/
def ApplicationAnchor.finalized (anchor : ApplicationAnchor AccountId) (approved : Bool)
    (outcomeHash : Bytes32) (block : UInt32) : ApplicationAnchor AccountId :=
  { anchor with
    status := if approved then .approved else .rejected
    outcomeHash := some outcomeHash
    finalizedAtBlock := some block }

theorem finalizeApplication_eq_ok :
    finalizeApplication ctx applicant approved outcomeHash s = .ok s' ↔
      ∃ officer anchor, ctx.origin = .signed officer ∧
        s.applicationAnchors.get applicant = some anchor ∧ anchor.status = .underReview ∧
        anchor.officer = some officer ∧
        s' = { s with
          totalApproved :=
            if approved then saturatingAdd u64Max s.totalApproved 1 else s.totalApproved
          applicationAnchors := s.applicationAnchors.insert applicant
            (anchor.finalized approved outcomeHash ctx.now) } := by
  simp only [finalizeApplication, anchorOf, ensureSigned_bind_eq_ok, required_bind_eq_ok,
    ensure_bind_eq_ok, pure_eq_ok]
  constructor
  · rintro ⟨officer, horigin, anchor, hanchor, hstatus, _, hofficer, rfl, rfl⟩
    exact ⟨_, anchor, horigin, hanchor, hstatus, hofficer, rfl⟩
  · rintro ⟨officer, anchor, horigin, hanchor, hstatus, hofficer, rfl⟩
    exact ⟨officer, horigin, anchor, hanchor, hstatus, officer, hofficer, rfl, rfl⟩

theorem revokeApplication_eq_ok : revokeApplication ctx applicant s = .ok s' ↔
    ctx.origin = .root ∧ ∃ anchor, s.applicationAnchors.get applicant = some anchor ∧
      anchor.status.isTerminal = false ∧
      s' = { s with
        applicationAnchors := s.applicationAnchors.insert applicant
          { anchor with status := .revoked } } := by
  simp only [revokeApplication, anchorOf, ensureRoot_bind_eq_ok, required_bind_eq_ok,
    ensure_bind_eq_ok, pure_eq_ok, eq_comm (a := s')]

end MigrationCenter
