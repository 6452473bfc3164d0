import Altan.Foundation.Arithmetic
import Altan.Foundation.BoundedVec
import Altan.Foundation.Dispatch
import Altan.Foundation.Marks
import Altan.Foundation.StorageMap
import Altan.Foundation.TransitionSystem

/-!
# The recovery tokens

A group of tokens is issued to trusted accounts, with the account that they recover and how many of
them are needed. The holder of a token initiates a recovery under an identifier of its choice;
after the veto window the holders of the other tokens confirm it, and with enough confirmations it
is executed. The account that is to be recovered may veto.

## Main definitions

* `Config`, `Context`, `State`: the constants, what a call is dispatched with, and the storage
* `Token`, `RecoveryRequest`: a token, and a request
* `Call`, `dispatch`: the dispatchables
* `World`, `Input`, `step`: the storage in a block, and one input
* `initiated`: the storage after a recovery is initiated
* `Ready`: a token can confirm a request

## Main results

* `confirmRecovery_eq_ok`, `initiateRecovery_eq_ok`, `vetoRecovery_eq_ok`: when a call is accepted
* `issueRecoveryNfts_issued`: new tokens
* `step_confirm`: a token that is ready confirms
-/

open Bounded Dispatch

namespace RecoveryNft

/-- The errors of the module. -/
inductive Error
  | groupIdTooLong
  | vaultAddressTooLong
  | tokenNotFound
  | notHolder
  | alreadyConfirmed
  | requestNotFound
  | recoveryVetoWindowActive
  | recoveryAlreadyExecuted
  | recoveryVetoedByOwner
  | notTargetAccount
  | tooManyHolders
  | thresholdExceedsGroupSize
  | invalidThreshold
  deriving DecidableEq, Repr

/-- The outcome of a function of the module. -/
abbrev Result (α : Type) := Except (DispatchError Error) α

/-- The greatest value of a byte. -/
def u8Max : ℕ := 255

/-- The identifier of a group or of a request. -/
abbrev Identifier := BoundedVec UInt8 64

/-- The address of a vault. -/
abbrev VaultAddress := BoundedVec UInt8 128

/-- The tokens of a holder or of a group. -/
abbrev TokenIds := BoundedVec ℕ 16

/-- Where the funds go. -/
inductive RecoveryDestination
  | personalBankVault
  | familyVault
  deriving DecidableEq, Repr

/-- A token of a group. -/
structure Token (AccountId : Type) where
  tokenId : ℕ
  groupId : Identifier
  targetAccount : AccountId
  holder : AccountId
  destinationKind : RecoveryDestination
  vaultAddress : VaultAddress
  threshold : ℕ
  totalIssued : ℕ
  groupIndex : ℕ
  issuedAt : ℕ
  usedInRecovery : Option Identifier
  deriving DecidableEq

/-- Where a request stands. -/
inductive RecoveryRequestStatus
  | pendingVetoWindow
  | collectingSignatures
  | ownerVetoed
  | executed
  deriving DecidableEq, Repr

/-- A request to recover an account. -/
structure RecoveryRequest (AccountId : Type) where
  requestId : Identifier
  groupId : Identifier
  targetAccount : AccountId
  destinationKind : RecoveryDestination
  vaultAddress : VaultAddress
  initiatedBy : AccountId
  initiatedAt : ℕ
  vetoDeadlineBlock : ℕ
  status : RecoveryRequestStatus
  confirmationCount : ℕ
  threshold : ℕ
  deriving DecidableEq

/-- The constants of the module, and who issues tokens. -/
structure Config (AccountId : Type) where
  isIssuer : Origin AccountId → Bool
  vetoWindowBlocks : ℕ
  maxGroupSize : UInt8

/-- What a call is dispatched with: its origin and the current block. -/
structure Context (AccountId : Type) where
  origin : Origin AccountId
  now : ℕ

/-- The storage of the module. -/
structure State (AccountId : Type) where
  nextRecoveryTokenId : ℕ
  recoveryNfts : StorageMap ℕ (Token AccountId)
  holderRecoveryNfts : StorageMap AccountId TokenIds
  groupNfts : StorageMap Identifier TokenIds
  recoveryRequests : StorageMap Identifier (RecoveryRequest AccountId)
  recoveryConfirmations : StorageMap (Identifier × ℕ) Bool

variable {AccountId : Type}

/-- The storage before any call. -/
def genesis : State AccountId where
  nextRecoveryTokenId := 0
  recoveryNfts := ∅
  holderRecoveryNfts := ∅
  groupNfts := ∅
  recoveryRequests := ∅
  recoveryConfirmations := ∅

/-- An identifier from its bytes. -/
def identifier (bytes : List UInt8) : Result Identifier :=
  required (BoundedVec.tryFrom 64 bytes) (.module .groupIdTooLong)

/-- A list of tokens with one more, as far as it fits. -/
def pushed (tokenId : ℕ) (ids : TokenIds) : TokenIds := (ids.tryPush tokenId).getD ids

variable [DecidableEq AccountId]

/-- Mint a token under the next number. -/
def mint (s : State AccountId) (token : Token AccountId) : State AccountId :=
  let tokenId := s.nextRecoveryTokenId
  { s with
    nextRecoveryTokenId := saturatingAdd u64Max tokenId 1
    recoveryNfts := s.recoveryNfts.insert tokenId { token with tokenId := tokenId }
    holderRecoveryNfts := s.holderRecoveryNfts.insert token.holder
      (pushed tokenId (s.holderRecoveryNfts.getD token.holder ⟨[], Nat.zero_le _⟩))
    groupNfts := s.groupNfts.insert token.groupId
      (pushed tokenId (s.groupNfts.getD token.groupId ⟨[], Nat.zero_le _⟩)) }

/-- Issue the tokens of a group. The index of the group gets each token as it is minted rather than
all of them in the end, which comes to the same. -/
def issueRecoveryNfts (cfg : Config AccountId) (ctx : Context AccountId) (groupId : List UInt8)
    (targetAccount : AccountId) (holders : List AccountId) (destinationKind : RecoveryDestination)
    (vaultAddress : List UInt8) (threshold : ℕ) (s : State AccountId) :
    Result (State AccountId) := do
  ensure (cfg.isIssuer ctx.origin = true) .badOrigin
  ensure (1 ≤ threshold) (.module .invalidThreshold)
  ensure (threshold ≤ holders.length) (.module .thresholdExceedsGroupSize)
  ensure (holders.length ≤ cfg.maxGroupSize.toNat) (.module .tooManyHolders)
  let groupIdBounded ← identifier groupId
  let vaultAddrBounded ← required (BoundedVec.tryFrom 128 vaultAddress)
    (.module .vaultAddressTooLong)
  let tokens := holders.zipIdx.map fun (holder, i) =>
    { tokenId := 0
      groupId := groupIdBounded
      targetAccount := targetAccount
      holder := holder
      destinationKind := destinationKind
      vaultAddress := vaultAddrBounded
      threshold := threshold
      totalIssued := holders.length
      groupIndex := i + 1
      issuedAt := ctx.now
      usedInRecovery := none }
  return tokens.foldl mint s

/-- The token of a caller who holds it. -/
def heldToken (caller : AccountId) (tokenId : ℕ) (s : State AccountId) :
    Result (Token AccountId) := do
  let nft ← required (s.recoveryNfts.get tokenId) (.module .tokenNotFound)
  ensure (nft.holder = caller) (.module .notHolder)
  return nft

/-- Initiate a recovery with a token, which confirms it. -/
def initiateRecovery (cfg : Config AccountId) (ctx : Context AccountId) (tokenId : ℕ)
    (requestId : List UInt8) (s : State AccountId) : Result (State AccountId) := do
  let caller ← ensureSigned ctx.origin
  let nft ← heldToken caller tokenId s
  let requestIdBounded ← identifier requestId
  return { s with
    recoveryRequests := s.recoveryRequests.insert requestIdBounded
      { requestId := requestIdBounded
        groupId := nft.groupId
        targetAccount := nft.targetAccount
        destinationKind := nft.destinationKind
        vaultAddress := nft.vaultAddress
        initiatedBy := caller
        initiatedAt := ctx.now
        vetoDeadlineBlock := saturatingAdd u32Max ctx.now cfg.vetoWindowBlocks
        status := .pendingVetoWindow
        confirmationCount := 1
        threshold := nft.threshold }
    recoveryConfirmations := s.recoveryConfirmations.insert (requestIdBounded, tokenId) true }

/-- Veto a recovery, as the account that is to be recovered. -/
def vetoRecovery (ctx : Context AccountId) (requestId : List UInt8) (s : State AccountId) :
    Result (State AccountId) := do
  let caller ← ensureSigned ctx.origin
  let requestIdBounded ← identifier requestId
  let req ← required (s.recoveryRequests.get requestIdBounded) (.module .requestNotFound)
  ensure (req.targetAccount = caller) (.module .notTargetAccount)
  ensure (req.status ≠ .executed) (.module .recoveryAlreadyExecuted)
  return { s with
    recoveryRequests := s.recoveryRequests.insert requestIdBounded
      { req with status := .ownerVetoed } }

/-- Fail while the veto window is open. -/
def ensureVetoWindowOver (now : ℕ) (req : RecoveryRequest AccountId) : Result Unit :=
  if req.status = .pendingVetoWindow then
    ensure (req.vetoDeadlineBlock < now) (.module .recoveryVetoWindowActive)
  else .ok ()

/-- A request with one more confirmation; with enough of them it is executed. -/
def RecoveryRequest.confirmed (req : RecoveryRequest AccountId) : RecoveryRequest AccountId :=
  let req := if req.status = .pendingVetoWindow then
    { req with status := .collectingSignatures } else req
  let req := { req with confirmationCount := saturatingAdd u8Max req.confirmationCount 1 }
  if req.threshold ≤ req.confirmationCount then { req with status := .executed } else req

/-- Confirm a recovery with a token of its group. -/
def confirmRecovery (ctx : Context AccountId) (tokenId : ℕ) (requestId : List UInt8)
    (s : State AccountId) : Result (State AccountId) := do
  let caller ← ensureSigned ctx.origin
  let nft ← heldToken caller tokenId s
  let requestIdBounded ← identifier requestId
  ensure (s.recoveryConfirmations.getD (requestIdBounded, tokenId) false = false)
    (.module .alreadyConfirmed)
  let req ← required (s.recoveryRequests.get requestIdBounded) (.module .requestNotFound)
  ensure (req.status ≠ .ownerVetoed) (.module .recoveryVetoedByOwner)
  ensure (req.status ≠ .executed) (.module .recoveryAlreadyExecuted)
  ensure (nft.groupId = req.groupId) (.module .tokenNotFound)
  ensureVetoWindowOver ctx.now req
  return { s with
    recoveryRequests := s.recoveryRequests.insert requestIdBounded req.confirmed
    recoveryConfirmations := s.recoveryConfirmations.insert (requestIdBounded, tokenId) true }

/-- The dispatchables with their arguments. -/
inductive Call (AccountId : Type)
  | issueRecoveryNfts (groupId : List UInt8) (targetAccount : AccountId) (holders : List AccountId)
    (destinationKind : RecoveryDestination) (vaultAddress : List UInt8) (threshold : ℕ)
  | initiateRecovery (tokenId : ℕ) (requestId : List UInt8)
  | vetoRecovery (requestId : List UInt8)
  | confirmRecovery (tokenId : ℕ) (requestId : List UInt8)
  deriving DecidableEq

/-- Dispatch a call. -/
def dispatch (cfg : Config AccountId) (ctx : Context AccountId) :
    Call AccountId → State AccountId → Result (State AccountId)
  | .issueRecoveryNfts groupId targetAccount holders destinationKind vaultAddress threshold =>
    issueRecoveryNfts cfg ctx groupId targetAccount holders destinationKind vaultAddress threshold
  | .initiateRecovery tokenId requestId => initiateRecovery cfg ctx tokenId requestId
  | .vetoRecovery requestId => vetoRecovery ctx requestId
  | .confirmRecovery tokenId requestId => confirmRecovery ctx tokenId requestId

end RecoveryNft

/-! ### What the calls do

The module as a state machine in which blocks pass, and for each call when it is accepted and what
it changes. -/

open TransitionSystem

namespace RecoveryNft

variable {AccountId : Type}

/-- The storage in a block. -/
structure World (AccountId : Type) extends State AccountId where
  now : ℕ

/-- A call with its origin, or the start of the next block. -/
inductive Input (AccountId : Type)
  | call (origin : Origin AccountId) (c : Call AccountId)
  | block
  deriving DecidableEq

/-- The storage before any call, in a block. -/
def World.genesis (now : UInt32) : World AccountId :=
  { RecoveryNft.genesis with now := now.toNat }

variable [DecidableEq AccountId]

/-- The state after one input. There is no block after the last number. -/
def step (cfg : Config AccountId) : Input AccountId → World AccountId → Result (World AccountId)
  | .call origin c, w => do
    let s ← dispatch cfg ⟨origin, w.now⟩ c w.toState
    return { w with toState := s }
  | .block, w => do
    ensure (w.now < u32Max) .panic
    return { w with now := w.now + 1 }

variable {cfg : Config AccountId} {ctx : Context AccountId} {s s' : State AccountId}
  {w w' : World AccountId} {tokenId : ℕ} {requestId bytes : List UInt8} {id : Identifier}
  {caller : AccountId}

theorem step_call {c : Call AccountId} {origin : Origin AccountId} :
    step cfg (.call origin c) w = .ok w' ↔
      ∃ s, dispatch cfg ⟨origin, w.now⟩ c w.toState = .ok s ∧ w' = { w with toState := s } := by
  simp only [step, bind_eq_ok, pure_eq_ok, eq_comm (a := w')]

theorem step_block :
    step cfg .block w = .ok w' ↔ w.now < u32Max ∧ w' = { w with now := w.now + 1 } := by
  simp only [step, ensure_bind_eq_ok, pure_eq_ok, eq_comm (a := w')]

omit [DecidableEq AccountId] in
@[simp] theorem identifier_eq_ok : identifier bytes = .ok id ↔ id.val = bytes := by
  simp [identifier, BoundedVec.tryFrom_eq_some]

theorem heldToken_bind_eq_ok {α : Type} {k : Token AccountId → Result α} {b : α} :
    (heldToken caller tokenId s >>= k) = .ok b ↔
      ∃ nft, s.recoveryNfts.get tokenId = some nft ∧ nft.holder = caller ∧ k nft = .ok b := by
  simp only [heldToken, bind_assoc, required_bind_eq_ok, ensure_bind_eq_ok, pure_bind]

/-! ### The calls -/

/-- The storage after a recovery is initiated with a token. -/
def initiated (cfg : Config AccountId) (now : ℕ) (tokenId : ℕ) (nft : Token AccountId)
    (id : Identifier) (s : State AccountId) : State AccountId :=
  { s with
    recoveryRequests := s.recoveryRequests.insert id
      { requestId := id
        groupId := nft.groupId
        targetAccount := nft.targetAccount
        destinationKind := nft.destinationKind
        vaultAddress := nft.vaultAddress
        initiatedBy := nft.holder
        initiatedAt := now
        vetoDeadlineBlock := saturatingAdd u32Max now cfg.vetoWindowBlocks
        status := .pendingVetoWindow
        confirmationCount := 1
        threshold := nft.threshold }
    recoveryConfirmations := s.recoveryConfirmations.insert (id, tokenId) true }

theorem initiateRecovery_eq_ok : initiateRecovery cfg ctx tokenId requestId s = .ok s' ↔
    ∃ nft id, s.recoveryNfts.get tokenId = some nft ∧ ctx.origin = .signed nft.holder ∧
      id.val = requestId ∧ s' = initiated cfg ctx.now tokenId nft id s := by
  simp only [initiateRecovery, ensureSigned_bind_eq_ok, heldToken_bind_eq_ok]
  constructor
  · rintro ⟨caller, horigin, nft, hnft, rfl, h⟩
    obtain ⟨id, hid, h⟩ := bind_eq_ok.mp h
    exact ⟨nft, id, hnft, horigin, identifier_eq_ok.mp hid, (pure_eq_ok.mp h).symm⟩
  · rintro ⟨nft, id, hnft, horigin, hid, rfl⟩
    refine ⟨nft.holder, horigin, nft, hnft, rfl, ?_⟩
    exact bind_eq_ok.mpr ⟨id, identifier_eq_ok.mpr hid, rfl⟩

theorem vetoRecovery_eq_ok : vetoRecovery ctx requestId s = .ok s' ↔
    ∃ id req, id.val = requestId ∧ s.recoveryRequests.get id = some req ∧
      ctx.origin = .signed req.targetAccount ∧ req.status ≠ .executed ∧
      s' = { s with
        recoveryRequests := s.recoveryRequests.insert id { req with status := .ownerVetoed } } := by
  simp only [vetoRecovery, ensureSigned_bind_eq_ok]
  constructor
  · rintro ⟨caller, horigin, h⟩
    obtain ⟨id, hid, h⟩ := bind_eq_ok.mp h
    simp only [required_bind_eq_ok, ensure_bind_eq_ok, pure_eq_ok] at h
    obtain ⟨req, hreq, rfl, hstatus, rfl⟩ := h
    exact ⟨id, req, identifier_eq_ok.mp hid, hreq, horigin, hstatus, rfl⟩
  · rintro ⟨id, req, hid, hreq, horigin, hstatus, rfl⟩
    refine ⟨req.targetAccount, horigin, bind_eq_ok.mpr ⟨id, identifier_eq_ok.mpr hid, ?_⟩⟩
    simp only [required_bind_eq_ok, ensure_bind_eq_ok, pure_eq_ok]
    exact ⟨req, hreq, rfl, hstatus, rfl⟩

omit [DecidableEq AccountId] in
theorem ensureVetoWindowOver_eq_ok {now : ℕ} {req : RecoveryRequest AccountId} {u : Unit} :
    ensureVetoWindowOver now req = .ok u ↔
      (req.status = .pendingVetoWindow → req.vetoDeadlineBlock < now) := by
  unfold ensureVetoWindowOver
  split
  · next h => simp [h]
  · next h => simp [h]

/-- A token can confirm a request: it has not confirmed it, is of its group, and the request is
neither vetoed nor executed nor in its veto window. -/
structure Ready (s : State AccountId) (now tokenId : ℕ) (id : Identifier) (nft : Token AccountId)
    (req : RecoveryRequest AccountId) : Prop where
  token : s.recoveryNfts.get tokenId = some nft
  request : s.recoveryRequests.get id = some req
  unconfirmed : s.recoveryConfirmations.getD (id, tokenId) false = false
  unvetoed : req.status ≠ .ownerVetoed
  unexecuted : req.status ≠ .executed
  group : nft.groupId = req.groupId
  windowOver : req.status = .pendingVetoWindow → req.vetoDeadlineBlock < now

omit [DecidableEq AccountId] in
/-- A request that is confirmed counts one more, and is executed with enough confirmations only. -/
theorem Ready.confirmed_eq {now : ℕ} {nft : Token AccountId} {req : RecoveryRequest AccountId}
    (h : Ready s now tokenId id nft req) : ∃ status, req.confirmed = { req with
        confirmationCount := saturatingAdd u8Max req.confirmationCount 1
        status := status } ∧
      (status = .executed → req.threshold ≤ saturatingAdd u8Max req.confirmationCount 1) := by
  unfold RecoveryRequest.confirmed
  by_cases hpending : req.status = .pendingVetoWindow
  · simp only [hpending, if_true]
    split
    · next hle => exact ⟨.executed, rfl, fun _ => hle⟩
    · exact ⟨.collectingSignatures, rfl, nofun⟩
  · simp only [hpending, if_false]
    split
    · next hle => exact ⟨.executed, rfl, fun _ => hle⟩
    · exact ⟨req.status, rfl, fun hexecuted => absurd hexecuted h.unexecuted⟩

/-- The storage after a token has confirmed a request. -/
def confirmed (tokenId : ℕ) (id : Identifier) (req : RecoveryRequest AccountId)
    (s : State AccountId) : State AccountId :=
  { s with
    recoveryRequests := s.recoveryRequests.insert id req.confirmed
    recoveryConfirmations := s.recoveryConfirmations.insert (id, tokenId) true }

theorem confirmRecovery_eq_ok : confirmRecovery ctx tokenId requestId s = .ok s' ↔
    ∃ nft id req, id.val = requestId ∧ ctx.origin = .signed nft.holder ∧
      Ready s ctx.now tokenId id nft req ∧ s' = confirmed tokenId id req s := by
  simp only [confirmRecovery, ensureSigned_bind_eq_ok, heldToken_bind_eq_ok]
  constructor
  · rintro ⟨caller, horigin, nft, hnft, rfl, h⟩
    obtain ⟨id, hid, h⟩ := bind_eq_ok.mp h
    simp only [required_bind_eq_ok, ensure_bind_eq_ok] at h
    obtain ⟨hunconfirmed, req, hreq, hunvetoed, hunexecuted, hgroup, h⟩ := h
    obtain ⟨_, hwindow, h⟩ := bind_eq_ok.mp h
    exact ⟨nft, id, req, identifier_eq_ok.mp hid, horigin,
      ⟨hnft, hreq, hunconfirmed, hunvetoed, hunexecuted, hgroup,
        ensureVetoWindowOver_eq_ok.mp hwindow⟩, (pure_eq_ok.mp h).symm⟩
  · rintro ⟨nft, id, req, hid, horigin, hready, rfl⟩
    refine ⟨nft.holder, horigin, nft, hready.token, rfl, ?_⟩
    refine bind_eq_ok.mpr ⟨id, identifier_eq_ok.mpr hid, ?_⟩
    simp only [required_bind_eq_ok, ensure_bind_eq_ok]
    refine ⟨hready.unconfirmed, req, hready.request, hready.unvetoed, hready.unexecuted,
      hready.group, bind_eq_ok.mpr ⟨(), ?_, rfl⟩⟩
    exact ensureVetoWindowOver_eq_ok.mpr hready.windowOver

/-- A threshold that a group can have. -/
def IsThreshold (threshold : ℕ) : Prop := 1 ≤ threshold ∧ threshold ≤ u8Max

/-- The requests and confirmations are the same, and a token is as it was, or new with a threshold
that a group can have. -/
structure Issued (s s' : State AccountId) : Prop where
  requests : s'.recoveryRequests = s.recoveryRequests
  confirmations : s'.recoveryConfirmations = s.recoveryConfirmations
  tokens : ∀ tokenId nft, s'.recoveryNfts.get tokenId = some nft →
    s.recoveryNfts.get tokenId = some nft ∨ IsThreshold nft.threshold

theorem mint_issued {tokens : List (Token AccountId)}
    (h : ∀ token ∈ tokens, IsThreshold token.threshold) (s : State AccountId) :
    Issued s (tokens.foldl mint s) := by
  induction tokens generalizing s with
  | nil => exact ⟨rfl, rfl, fun _ _ h => Or.inl h⟩
  | cons token tokens ih =>
    obtain ⟨htoken, htokens⟩ := List.forall_mem_cons.mp h
    have hrest := ih htokens (mint s token)
    refine ⟨hrest.requests, hrest.confirmations, fun tokenId nft hnft => ?_⟩
    rcases hrest.tokens tokenId nft hnft with hget | hthreshold
    · rcases StorageMap.get_insert_cases hget with ⟨-, rfl⟩ | ⟨-, hget⟩
      · exact Or.inr htoken
      · exact Or.inl hget
    · exact Or.inr hthreshold

theorem issueRecoveryNfts_issued {groupId vaultAddress : List UInt8} {targetAccount : AccountId}
    {holders : List AccountId} {destinationKind : RecoveryDestination} {threshold : ℕ}
    (h : issueRecoveryNfts cfg ctx groupId targetAccount holders destinationKind vaultAddress
      threshold s = .ok s') : Issued s s' := by
  simp only [issueRecoveryNfts, ensure_bind_eq_ok] at h
  obtain ⟨-, hone, hle, hsize, h⟩ := h
  obtain ⟨groupIdBounded, -, h⟩ := bind_eq_ok.mp h
  obtain ⟨vaultAddrBounded, -, h⟩ := bind_eq_ok.mp h
  obtain rfl := pure_eq_ok.mp h
  apply mint_issued
  intro token htoken
  obtain ⟨⟨holder, i⟩, -, rfl⟩ := List.mem_map.mp htoken
  have hbyte : cfg.maxGroupSize.toNat ≤ u8Max := Nat.le_of_lt_succ cfg.maxGroupSize.toNat_lt
  exact ⟨hone, hle.trans (hsize.trans hbyte)⟩

/-- The token that is ready confirms when its holder asks for it. -/
theorem step_confirm (cfg : Config AccountId) {nft : Token AccountId}
    {req : RecoveryRequest AccountId}
    (h : Ready w.toState w.now tokenId id nft req) :
    step cfg (.call (.signed nft.holder) (.confirmRecovery tokenId id.val)) w =
      .ok { w with toState := confirmed tokenId id req w.toState } :=
  step_call.mpr ⟨_, confirmRecovery_eq_ok.mpr ⟨nft, id, req, rfl, rfl, h, rfl⟩, rfl⟩

/-! ### Blocks -/

section Blocks

variable {η : Type}

/-- A state after blocks have passed, with what has been recorded. -/
def passed (blocks : ℕ) (t : World AccountId × η) : World AccountId × η :=
  ({ t.1 with now := t.1.now + blocks }, t.2)

/-- Blocks pass as long as there are numbers, and nothing else changes when nothing is recorded of
them. -/
theorem run_passed {record : World AccountId → Input AccountId → η → η}
    (hrecord : ∀ w h, record w .block h = h) {blocks : ℕ} {t : World AccountId × η}
    (hroom : t.1.now + blocks ≤ u32Max) :
    run (recording record (step cfg)) (List.replicate blocks .block) t = passed blocks t := by
  induction blocks generalizing t with
  | zero => rfl
  | succ blocks ih =>
    have hstep : recording record (step cfg) .block t = .ok (passed 1 t) :=
      recording_eq_ok.mpr ⟨step_block.mpr ⟨by omega, rfl⟩, (hrecord _ _).symm⟩
    rw [List.replicate_succ, run_cons, exec_ok hstep]
    rw [ih (by simp only [passed]; omega)]
    simp only [passed, Nat.add_assoc, Nat.add_comm 1 blocks]

end Blocks

end RecoveryNft
