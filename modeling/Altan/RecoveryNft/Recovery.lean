import Altan.Runtime.Constants

/-!
# Recovery with a final veto

A request that was vetoed shall never be executed, an executed one never change, a request be
executed only after the veto window and with enough tokens of its group, and enough tokens be
always able to execute one that is not vetoed. An initiation does not look whether its identifier
is in use: it revives vetoed and executed requests, and leaves the confirmations of the old request
behind, which then count for nothing and cannot be given again. With a threshold of one, the only
confirmation that is needed is given with the initiation, which executes nothing. And after the last
block that there is a number for, nothing is confirmed: a veto window must end before.

## Main definitions

* `History`, `record`: the confirmations since the last initiation, the vetoes and the executions
* `CanExecute`: tokens that can bring a request to its execution
* `Sound`: what is asked of every state
* `Fair`, `InTime`: what is asked of every input

## Main results

* `kept_step`: what every input keeps
* `canExecute_of_lt`: enough tokens execute a request
* `recovery_sound_iff`: the runs in which recoveries are sound
* `vetoed_request_executed`: they are not in every run
-/

open Bounded Dispatch TransitionSystem

namespace RecoveryNft

variable {AccountId : Type}

/-! ### What is asked of the runs -/

/-- What has happened to the requests: with which tokens, and of which groups, each was confirmed
since it was last initiated, whether it was vetoed, and how it was executed first. -/
structure History (AccountId : Type) where
  confirmed : Identifier → List (ℕ × Option Identifier)
  vetoed : Identifier → Bool
  executed : Identifier → Option (RecoveryRequest AccountId)

/-- Nothing has happened. -/
def History.empty : History AccountId where
  confirmed _ := []
  vetoed _ := false
  executed _ := none

/-- A confirmation with a token, and the group it is of. -/
def confirmation (w : World AccountId) (tokenId : ℕ) : ℕ × Option Identifier :=
  (tokenId, (w.recoveryNfts.get tokenId).map Token.groupId)

/-- The request as it is executed by one more confirmation, if it is. -/
def executedNow (w : World AccountId) (id : Identifier) : Option (RecoveryRequest AccountId) :=
  ((w.recoveryRequests.get id).map RecoveryRequest.confirmed).filter fun req =>
    decide (req.status = .executed)

/-- An accepted input is recorded. -/
def record (w : World AccountId) (x : Input AccountId) (h : History AccountId) :
    History AccountId :=
  match x with
  | .call _ (.initiateRecovery tokenId requestId) =>
    { h with
      confirmed := fun id =>
        if id.val = requestId then [confirmation w tokenId] else h.confirmed id }
  | .call _ (.vetoRecovery requestId) =>
    { h with vetoed := fun id => decide (id.val = requestId) || h.vetoed id }
  | .call _ (.confirmRecovery tokenId requestId) =>
    { h with
      confirmed := fun id =>
        if id.val = requestId then h.confirmed id ++ [confirmation w tokenId] else h.confirmed id
      executed := fun id =>
        if id.val = requestId then (h.executed id).or (executedNow w id) else h.executed id }
  | _ => h

/-- The tokens that have confirmed a request, by the storage. -/
def State.confirmations (s : State AccountId) (id : Identifier) : Finset ℕ :=
  s.recoveryConfirmations.marked id

/-- A request that is neither vetoed nor executed. -/
def RecoveryRequest.Pending (req : RecoveryRequest AccountId) : Prop :=
  req.status = .pendingVetoWindow ∨ req.status = .collectingSignatures

/-- A block passes, or the holder of one of the tokens confirms or initiates a recovery with it. -/
def Input.Willing (w : World AccountId) (tokens : List ℕ) (y : Input AccountId) : Prop :=
  y = .block ∨ ∃ tokenId ∈ tokens, ∃ nft requestId, w.recoveryNfts.get tokenId = some nft ∧
    (y = .call (.signed nft.holder) (.confirmRecovery tokenId requestId) ∨
      y = .call (.signed nft.holder) (.initiateRecovery tokenId requestId))

/-- The holders of the tokens can bring a request to its execution. -/
def CanExecute [DecidableEq AccountId] (cfg : Config AccountId) (w : World AccountId)
    (id : Identifier) (tokens : List ℕ) : Prop :=
  ∃ ys : List (Input AccountId), (∀ y ∈ ys, y.Willing w tokens) ∧
    ∃ req, (run (step cfg) ys w).recoveryRequests.get id = some req ∧ req.status = .executed

/-- Tokens of a group. -/
def OfGroup (s : State AccountId) (groupId : Identifier) (tokens : List ℕ) : Prop :=
  ∀ tokenId ∈ tokens, ∃ nft, s.recoveryNfts.get tokenId = some nft ∧ nft.groupId = groupId

/-- What is asked of every state: the vetoed are not executed, the executed are as they were
executed, after the veto window and with enough different tokens of their group, confirmations are
counted, and as many tokens of the group as are needed, whichever they are, can execute a request
that was not vetoed. -/
structure Sound [DecidableEq AccountId] (cfg : Config AccountId) (w : World AccountId)
    (h : History AccountId) : Prop where
  vetoed : ∀ id req, h.vetoed id = true → w.recoveryRequests.get id = some req →
    req.status ≠ .executed
  executed : ∀ id req, h.executed id = some req → w.recoveryRequests.get id = some req
  enough : ∀ id req, w.recoveryRequests.get id = some req → req.status = .executed →
    req.vetoDeadlineBlock < w.now ∧ req.threshold ≤ (h.confirmed id).length ∧
      ((h.confirmed id).map Prod.fst).Nodup ∧ ∀ e ∈ h.confirmed id, e.2 = some req.groupId
  counted : ∀ id req, w.recoveryRequests.get id = some req →
    req.confirmationCount = (w.confirmations id).card
  live : ∀ id req, w.recoveryRequests.get id = some req → req.Pending → h.vetoed id = false →
    ∀ tokens : List ℕ, tokens.Nodup → tokens.length = req.threshold →
      OfGroup w.toState req.groupId tokens → CanExecute cfg w id tokens

/-- What is asked of every input: an initiation finds under its identifier neither an executed
request nor the confirmation of another token, and needs more than one token unless the request was
vetoed before; a confirmation executes no request that was vetoed before. -/
def Fair (w : World AccountId) (h : History AccountId) : Input AccountId → Prop
  | .call _ (.initiateRecovery tokenId requestId) => ∀ id : Identifier, id.val = requestId →
    (∀ req, w.recoveryRequests.get id = some req → req.status ≠ .executed) ∧
      (∀ t ∈ w.confirmations id, t = tokenId) ∧
      (h.vetoed id = false → ∀ nft, w.recoveryNfts.get tokenId = some nft → 2 ≤ nft.threshold)
  | .call _ (.confirmRecovery _ requestId) => ∀ id : Identifier, id.val = requestId →
    h.vetoed id = true → ∀ req, w.recoveryRequests.get id = some req →
      req.confirmationCount + 1 < req.threshold
  | _ => True

/-- The veto window of a request that was not vetoed before ends before the last block. -/
def InTime (cfg : Config AccountId) (w : World AccountId) (h : History AccountId) :
    Input AccountId → Prop
  | .call _ (.initiateRecovery _ requestId) => ∀ id : Identifier, id.val = requestId →
    h.vetoed id = false → w.now + cfg.vetoWindowBlocks < u32Max
  | _ => True

/-! ### One request -/

/-- What there is about one identifier: the request, the confirmations by the storage, and the
history. -/
structure View (AccountId : Type) where
  request : Option (RecoveryRequest AccountId)
  marks : Finset ℕ
  confirmed : List (ℕ × Option Identifier)
  vetoed : Bool
  executed : Option (RecoveryRequest AccountId)

/-- What there is about an identifier in a state with its history. -/
def view (w : World AccountId) (h : History AccountId) (id : Identifier) : View AccountId where
  request := w.recoveryRequests.get id
  marks := w.confirmations id
  confirmed := h.confirmed id
  vetoed := h.vetoed id
  executed := h.executed id

/-- What every run keeps of a request: it was confirmed by as many different tokens of its group as
it counts, whose confirmations are stored; it counts less than the threshold until it is executed,
but for the one of its initiation, and is past its veto window with the second. -/
structure Requested (now : ℕ) (v : View AccountId) (req : RecoveryRequest AccountId) : Prop where
  counted : req.confirmationCount = v.confirmed.length
  nodup : (v.confirmed.map Prod.fst).Nodup
  marked : ∀ e ∈ v.confirmed, e.1 ∈ v.marks
  group : ∀ e ∈ v.confirmed, e.2 = some req.groupId
  threshold : IsThreshold req.threshold
  room : req.status ≠ .executed → req.confirmationCount < max 2 req.threshold
  windowOver : req.status = .collectingSignatures ∨ req.status = .executed →
    req.vetoDeadlineBlock < now
  executed : req.status = .executed →
    v.executed = some req ∧ req.threshold ≤ req.confirmationCount
  several : req.Pending → v.vetoed = false → 2 ≤ req.threshold

/-- What every run keeps about an identifier. -/
structure KeptAt (now : ℕ) (v : View AccountId) : Prop where
  fresh : v.request = none → v.marks = ∅
  logged : ∀ req, v.executed = some req → req.status = .executed
  request : ∀ req, v.request = some req → Requested now v req

/-- What is asked of an identifier in every state, but for what can be done. -/
structure SafeAt (now : ℕ) (v : View AccountId) : Prop where
  vetoed : ∀ req, v.vetoed = true → v.request = some req → req.status ≠ .executed
  executed : ∀ req, v.executed = some req → v.request = some req
  enough : ∀ req, v.request = some req → req.status = .executed →
    req.vetoDeadlineBlock < now ∧ req.threshold ≤ v.confirmed.length ∧
      (v.confirmed.map Prod.fst).Nodup ∧ ∀ e ∈ v.confirmed, e.2 = some req.groupId
  counted : ∀ req, v.request = some req → req.confirmationCount = v.marks.card

/-- What every run keeps. -/
structure Kept (w : World AccountId) (h : History AccountId) : Prop where
  tokens : ∀ tokenId nft, w.recoveryNfts.get tokenId = some nft → IsThreshold nft.threshold
  views : ∀ id, KeptAt w.now (view w h id)

section Views

variable {now : ℕ} {v : View AccountId} {req : RecoveryRequest AccountId} {nft : Token AccountId}
  {tokenId : ℕ} {cfg : Config AccountId} {id : Identifier}

/-- An executed request has met its threshold after its veto window. -/
theorem Requested.enough (h : Requested now v req) (hexecuted : req.status = .executed) :
    req.vetoDeadlineBlock < now ∧ req.threshold ≤ v.confirmed.length ∧
      (v.confirmed.map Prod.fst).Nodup ∧ ∀ e ∈ v.confirmed, e.2 = some req.groupId :=
  ⟨h.windowOver (Or.inr hexecuted), h.counted ▸ (h.executed hexecuted).2, h.nodup, h.group⟩

/-- A request that is not executed has room for another confirmation. -/
theorem Requested.count_lt (h : Requested now v req) (hstatus : req.status ≠ .executed) :
    req.confirmationCount < u8Max := by
  have hroom := h.room hstatus
  have hthreshold := h.threshold.2
  unfold u8Max at *
  omega

/-- A pending request with one more confirmation. -/
theorem confirmed_eq (hpending : req.Pending) (hcount : req.confirmationCount < u8Max) :
    req.confirmed = { req with
      confirmationCount := req.confirmationCount + 1
      status := if req.threshold ≤ req.confirmationCount + 1 then .executed
        else .collectingSignatures } := by
  have hadd : saturatingAdd u8Max req.confirmationCount 1 = req.confirmationCount + 1 :=
    saturatingAdd_of_le hcount
  unfold RecoveryRequest.confirmed
  rcases hpending with hstatus | hstatus
  · simp only [hstatus, if_true, hadd]
    split <;> rfl
  · simp only [hstatus, reduceCtorEq, if_false, hadd]
    split
    · rfl
    · cases req
      cases hstatus
      rfl

/-- The window is over for a request that has been confirmed. -/
theorem confirmed_status_ne (req : RecoveryRequest AccountId) :
    req.confirmed.status ≠ .pendingVetoWindow := by
  unfold RecoveryRequest.confirmed
  by_cases hstatus : req.status = .pendingVetoWindow
  · simp only [hstatus, if_true]
    split <;> exact nofun
  · simp only [hstatus, if_false]
    split
    · exact nofun
    · exact hstatus

/-- The request of an initiation. -/
def newRequest (cfg : Config AccountId) (now : ℕ) (nft : Token AccountId) (id : Identifier) :
    RecoveryRequest AccountId where
  requestId := id
  groupId := nft.groupId
  targetAccount := nft.targetAccount
  destinationKind := nft.destinationKind
  vaultAddress := nft.vaultAddress
  initiatedBy := nft.holder
  initiatedAt := now
  vetoDeadlineBlock := saturatingAdd u32Max now cfg.vetoWindowBlocks
  status := .pendingVetoWindow
  confirmationCount := 1
  threshold := nft.threshold

/-- An identifier after an initiation. -/
def View.initiated (cfg : Config AccountId) (now tokenId : ℕ) (nft : Token AccountId)
    (id : Identifier) (v : View AccountId) : View AccountId :=
  { v with
    request := some (newRequest cfg now nft id)
    marks := insert tokenId v.marks
    confirmed := [(tokenId, some nft.groupId)] }

/-- An identifier after a veto. -/
def View.ownerVetoed (req : RecoveryRequest AccountId) (v : View AccountId) : View AccountId :=
  { v with
    request := some { req with status := .ownerVetoed }
    vetoed := true }

/-- An identifier after a confirmation. -/
def View.confirm (tokenId : ℕ) (req : RecoveryRequest AccountId) (v : View AccountId) :
    View AccountId :=
  { v with
    request := some req.confirmed
    marks := insert tokenId v.marks
    confirmed := v.confirmed ++ [(tokenId, some req.groupId)]
    executed := v.executed.or
      (some req.confirmed |>.filter fun req => decide (req.status = .executed)) }

/-- An initiation that needs several tokens unless there was a veto. -/
theorem KeptAt.initiated (h : KeptAt now v) (hthreshold : IsThreshold nft.threshold)
    (hseveral : v.vetoed = false → 2 ≤ nft.threshold) :
    KeptAt now (v.initiated cfg now tokenId nft id) where
  fresh hnone := by cases hnone
  logged := h.logged
  request req hreq := by
    obtain rfl := Option.some.inj hreq
    refine ⟨rfl, List.nodup_singleton _, ?_, ?_, hthreshold, fun _ => ?_, ?_,
      (fun h => by cases h), fun _ => hseveral⟩
    · intro e he
      rw [List.mem_singleton.mp he]
      exact Finset.mem_insert_self _ _
    · intro e he
      rw [List.mem_singleton.mp he]
      rfl
    · exact lt_max_of_lt_left (Nat.lt_succ_self 1)
    · rintro (h | h) <;> cases h

theorem KeptAt.ownerVetoed (h : KeptAt now v) (hreq : v.request = some req)
    (hstatus : req.status ≠ .executed) : KeptAt now (v.ownerVetoed req) where
  fresh hnone := by cases hnone
  logged := h.logged
  request req' hreq' := by
    obtain rfl := Option.some.inj hreq'
    have hrequested := h.request req hreq
    refine ⟨hrequested.counted, hrequested.nodup, hrequested.marked, hrequested.group,
      hrequested.threshold, fun _ => hrequested.room hstatus, ?_,
      (fun h => by cases h), ?_⟩ <;> rintro (h | h) <;> cases h

/-- Nothing was executed under the identifier of a request that is not executed. -/
theorem KeptAt.executed_eq_none (h : KeptAt now v) (hsafe : SafeAt now v)
    (hreq : v.request = some req) (hstatus : req.status ≠ .executed) : v.executed = none := by
  cases hexecuted : v.executed with
  | none => rfl
  | some req' =>
    have hsame := hsafe.executed req' hexecuted
    rw [hreq, Option.some_inj] at hsame
    exact absurd (hsame ▸ h.logged req' hexecuted) hstatus

/-- What a request is known by stays with a confirmation by a new token after the veto window, if
nothing was executed before. -/
theorem Requested.confirm (h : Requested now v req) (hnone : v.executed = none)
    (hpending : req.Pending) (hstatus : req.status ≠ .executed) (hnew : tokenId ∉ v.marks)
    (hover : req.vetoDeadlineBlock < now) :
    Requested now (v.confirm tokenId req) req.confirmed := by
  have hcount := h.count_lt hstatus
  have hfirst : (v.confirm tokenId req).executed =
      (some req.confirmed).filter fun req => decide (req.status = .executed) := by
    change v.executed.or _ = _
    rw [hnone, Option.none_or]
  rw [confirmed_eq hpending hcount] at hfirst ⊢
  refine ⟨?_, ?_, ?_, ?_, h.threshold, ?_, fun _ => hover, ?_, ?_⟩
  · change req.confirmationCount + 1 = (v.confirmed ++ [_]).length
    rw [h.counted, List.length_append]
    rfl
  · -- the tokens that have confirmed are marked, and the new one is not
    change ((v.confirmed ++ [(tokenId, some req.groupId)]).map Prod.fst).Nodup
    rw [List.map_append, List.nodup_append]
    refine ⟨h.nodup, List.nodup_singleton _, fun t ht t' ht' => ?_⟩
    rintro rfl
    obtain ⟨e, he, rfl⟩ := List.mem_map.mp ht
    rw [List.map_singleton, List.mem_singleton] at ht'
    have htoken : e.1 = tokenId := ht'
    exact hnew (htoken ▸ h.marked e he)
  · intro e he
    rcases List.mem_append.mp he with he | he
    · exact Finset.mem_insert_of_mem (h.marked e he)
    · rw [List.mem_singleton.mp he]
      exact Finset.mem_insert_self _ _
  · intro e he
    rcases List.mem_append.mp he with he | he
    · exact h.group e he
    · rw [List.mem_singleton.mp he]
  · -- below the threshold there is room for one more
    dsimp only
    split
    · exact fun h => absurd rfl h
    · intro _
      omega
  · -- at the threshold this is the execution that is recorded
    dsimp only
    split
    · next hle =>
      intro _
      refine ⟨?_, hle⟩
      rw [hfirst, if_pos hle]
      rfl
    · exact fun h => by cases h
  · intro _ hvetoed
    exact h.several hpending hvetoed

/-- A confirmation with a new token of the group after the veto window. -/
theorem KeptAt.confirm (h : KeptAt now v) (hsafe : SafeAt now v) (hreq : v.request = some req)
    (hpending : req.Pending) (hnew : tokenId ∉ v.marks)
    (hwindow : req.status = .pendingVetoWindow → req.vetoDeadlineBlock < now) :
    KeptAt now (v.confirm tokenId req) := by
  have hrequested := h.request req hreq
  have hstatus : req.status ≠ .executed := by
    rcases hpending with hstatus | hstatus <;> rw [hstatus] <;> exact fun h => by cases h
  have hover : req.vetoDeadlineBlock < now := by
    rcases hpending with hstatus | hstatus
    · exact hwindow hstatus
    · exact hrequested.windowOver (Or.inl hstatus)
  have hnone := h.executed_eq_none hsafe hreq hstatus
  constructor
  · intro h
    cases h
  · intro req' hreq'
    change v.executed.or _ = some req' at hreq'
    rw [hnone, Option.none_or] at hreq'
    obtain ⟨-, hexecuted⟩ := Option.filter_eq_some_iff.mp hreq'
    exact of_decide_eq_true hexecuted
  · intro req' hreq'
    obtain rfl := Option.some.inj hreq'
    exact hrequested.confirm hnone hpending hstatus hnew hover

end Views

/-! ### One input -/

section Inputs

variable [DecidableEq AccountId] {cfg : Config AccountId} {w w' : World AccountId}
  {x : Input AccountId} {h : History AccountId} {id : Identifier}

/-- The identifier that a call is about. -/
def Input.requestId : Input AccountId → Option (List UInt8)
  | .call _ (.initiateRecovery _ requestId) => some requestId
  | .call _ (.vetoRecovery requestId) => some requestId
  | .call _ (.confirmRecovery _ requestId) => some requestId
  | _ => none

/-- What an accepted input does to what there is about the identifier it is about. -/
inductive Turn (cfg : Config AccountId) (w : World AccountId) (v : View AccountId)
    (id : Identifier) : Input AccountId → View AccountId → Prop
  | initiated {tokenId : ℕ} {nft : Token AccountId}
    (hnft : w.recoveryNfts.get tokenId = some nft) :
    Turn cfg w v id (.call (.signed nft.holder) (.initiateRecovery tokenId id.val))
      (v.initiated cfg w.now tokenId nft id)
  | vetoed {req : RecoveryRequest AccountId} (hreq : v.request = some req)
    (hstatus : req.status ≠ .executed) :
    Turn cfg w v id (.call (.signed req.targetAccount) (.vetoRecovery id.val))
      (v.ownerVetoed req)
  | confirmed {tokenId : ℕ} {nft : Token AccountId} {req : RecoveryRequest AccountId}
    (hreq : v.request = some req) (hpending : req.Pending) (hnew : tokenId ∉ v.marks)
    (hwindow : req.status = .pendingVetoWindow → req.vetoDeadlineBlock < w.now) :
    Turn cfg w v id (.call (.signed nft.holder) (.confirmRecovery tokenId id.val))
      (v.confirm tokenId req)

omit [DecidableEq AccountId] in
/-- A request that is neither vetoed nor executed is pending. -/
theorem pending_iff {req : RecoveryRequest AccountId} :
    req.Pending ↔ req.status ≠ .ownerVetoed ∧ req.status ≠ .executed := by
  unfold RecoveryRequest.Pending
  cases req.status <;> simp

omit [DecidableEq AccountId] in
/-- A call that is about one identifier turns what there is about it, when it leaves what there is
about the others. -/
theorem turn_of_view {id' : Identifier} (hrequest : x.requestId = some id'.val)
    (hturn : Turn cfg w (view w h id') id' x (view w' (record w x h) id'))
    (hothers : ∀ id, id ≠ id' → id.val ≠ id'.val → view w' (record w x h) id = view w h id)
    (id : Identifier) :
    x.requestId ≠ some id.val ∧ view w' (record w x h) id = view w h id ∨
      Turn cfg w (view w h id) id x (view w' (record w x h) id) := by
  by_cases hid : id = id'
  · subst hid
    exact Or.inr hturn
  · have hval : id.val ≠ id'.val := fun h => hid (Subtype.ext h)
    refine Or.inl ⟨?_, hothers id hid hval⟩
    rw [hrequest]
    exact fun h => hval (Option.some.inj h).symm

/-- **What an input does about an identifier.** -/
theorem step_turn (hstep : step cfg x w = .ok w') (id : Identifier) :
    x.requestId ≠ some id.val ∧ view w' (record w x h) id = view w h id ∨
      Turn cfg w (view w h id) id x (view w' (record w x h) id) := by
  cases x with
  | block =>
    obtain ⟨-, rfl⟩ := step_block.mp hstep
    exact Or.inl ⟨(fun h => by cases h), rfl⟩
  | call origin c =>
    obtain ⟨s, hs, rfl⟩ := step_call.mp hstep
    cases c with
    | issueRecoveryNfts groupId targetAccount holders destinationKind vaultAddress threshold =>
      -- tokens are issued for no request
      have hissued := issueRecoveryNfts_issued hs
      refine Or.inl ⟨(fun h => by cases h), ?_⟩
      unfold view State.confirmations
      simp only [hissued.requests, hissued.confirmations, record]
    | initiateRecovery tokenId requestId =>
      obtain ⟨nft, id', hnft, horigin, rfl, rfl⟩ := initiateRecovery_eq_ok.mp hs
      obtain rfl : origin = .signed nft.holder := horigin
      have hview : view { w with toState := initiated cfg w.now tokenId nft id' w.toState }
          (record w (.call (.signed nft.holder) (.initiateRecovery tokenId id'.val)) h) id' =
            (view w h id').initiated cfg w.now tokenId nft id' := by
        unfold view View.initiated State.confirmations
        simp only [record, initiated, StorageMap.get_insert_self, StorageMap.marked_insert,
          if_true, confirmation, hnft]
        rfl
      refine turn_of_view rfl ?_ (fun id hid hval => ?_) id
      · rw [hview]
        exact .initiated hnft
      · unfold view State.confirmations
        simp only [record, initiated, StorageMap.get_insert_of_ne hid,
          StorageMap.marked_insert_of_ne hid, if_neg hval]
    | vetoRecovery requestId =>
      obtain ⟨id', req, rfl, hreq, horigin, hstatus, rfl⟩ := vetoRecovery_eq_ok.mp hs
      obtain rfl : origin = .signed req.targetAccount := horigin
      have hview : view { w with toState := { w.toState with
            recoveryRequests :=
              w.recoveryRequests.insert id' { req with status := .ownerVetoed } } }
          (record w (.call (.signed req.targetAccount) (.vetoRecovery id'.val)) h) id' =
            (view w h id').ownerVetoed req := by
        unfold view View.ownerVetoed State.confirmations
        simp only [record, StorageMap.get_insert_self, decide_true, Bool.true_or]
      refine turn_of_view rfl ?_ (fun id hid hval => ?_) id
      · rw [hview]
        exact .vetoed hreq hstatus
      · unfold view State.confirmations
        simp only [record, StorageMap.get_insert_of_ne hid, hval, decide_false, Bool.false_or]
    | confirmRecovery tokenId requestId =>
      obtain ⟨nft, id', req, rfl, horigin, hready, rfl⟩ := confirmRecovery_eq_ok.mp hs
      obtain rfl : origin = .signed nft.holder := horigin
      have hview : view { w with toState := confirmed tokenId id' req w.toState }
          (record w (.call (.signed nft.holder) (.confirmRecovery tokenId id'.val)) h) id' =
            (view w h id').confirm tokenId req := by
        unfold view View.confirm State.confirmations
        simp only [record, confirmed, StorageMap.get_insert_self, StorageMap.marked_insert,
          if_true, confirmation, executedNow, hready.token, hready.request, Option.map_some,
          hready.group]
      refine turn_of_view rfl ?_ (fun id hid hval => ?_) id
      · rw [hview]
        refine .confirmed hready.request (pending_iff.mpr ⟨hready.unvetoed, hready.unexecuted⟩) ?_
          hready.windowOver
        exact fun hmarked => by simp [view, State.confirmations, hready.unconfirmed] at hmarked
      · unfold view State.confirmations
        simp only [record, confirmed, StorageMap.get_insert_of_ne hid,
          StorageMap.marked_insert_of_ne hid, if_neg hval]

/-- Blocks pass and nothing else does. -/
theorem step_now (hstep : step cfg x w = .ok w') :
    w'.now = w.now ∨ x = .block ∧ w' = { w with now := w.now + 1 } := by
  cases x with
  | block => exact Or.inr ⟨rfl, (step_block.mp hstep).2⟩
  | call origin c =>
    obtain ⟨s, -, rfl⟩ := step_call.mp hstep
    exact Or.inl rfl

/-- Only an issue changes the tokens, and what it issues has a threshold. -/
theorem step_tokens (hstep : step cfg x w = .ok w') :
    w'.recoveryNfts = w.recoveryNfts ∨ x.requestId = none ∧
      ∀ tokenId nft, w'.recoveryNfts.get tokenId = some nft →
        w.recoveryNfts.get tokenId = some nft ∨ IsThreshold nft.threshold := by
  cases x with
  | block =>
    obtain ⟨-, rfl⟩ := step_block.mp hstep
    exact Or.inl rfl
  | call origin c =>
    obtain ⟨s, hs, rfl⟩ := step_call.mp hstep
    cases c with
    | issueRecoveryNfts groupId targetAccount holders destinationKind vaultAddress threshold =>
      exact Or.inr ⟨rfl, (issueRecoveryNfts_issued hs).tokens⟩
    | initiateRecovery tokenId requestId =>
      obtain ⟨nft, id, -, -, -, rfl⟩ := initiateRecovery_eq_ok.mp hs
      exact Or.inl rfl
    | vetoRecovery requestId =>
      obtain ⟨id, req, -, -, -, -, rfl⟩ := vetoRecovery_eq_ok.mp hs
      exact Or.inl rfl
    | confirmRecovery tokenId requestId =>
      obtain ⟨nft, id, req, -, -, -, rfl⟩ := confirmRecovery_eq_ok.mp hs
      exact Or.inl rfl

/-! ### What tokens can do -/

omit [DecidableEq AccountId] in
theorem Input.Willing.congr {tokens : List ℕ} {y : Input AccountId}
    (hnfts : w'.recoveryNfts = w.recoveryNfts) (h : y.Willing w' tokens) : y.Willing w tokens := by
  unfold Input.Willing at h ⊢
  rwa [hnfts] at h

/-- What the tokens can do after one of them has acted they can do before. -/
theorem CanExecute.of_exec {tokens : List ℕ} {y : Input AccountId}
    (hy : y.Willing w tokens) (hnfts : (exec (step cfg) y w).recoveryNfts = w.recoveryNfts)
    (h : CanExecute cfg (exec (step cfg) y w) id tokens) : CanExecute cfg w id tokens := by
  obtain ⟨ys, hys, hexecuted⟩ := h
  refine ⟨y :: ys, fun z hz => ?_, hexecuted⟩
  rcases List.mem_cons.mp hz with rfl | hz
  · exact hy
  · exact (hys z hz).congr hnfts

/-- While confirmations are missing after the veto window, one of enough tokens confirms. -/
theorem exists_confirm (cfg : Config AccountId) {tokens : List ℕ}
    {req : RecoveryRequest AccountId} (hnodup : tokens.Nodup)
    (hreq : w.recoveryRequests.get id = some req) (hpending : req.Pending)
    (hcounted : req.confirmationCount = (w.confirmations id).card)
    (hlt : req.confirmationCount < tokens.length) (hgroup : OfGroup w.toState req.groupId tokens)
    (hwindow : req.vetoDeadlineBlock < w.now) :
    ∃ y : Input AccountId, y.Willing w tokens ∧
      (exec (step cfg) y w).recoveryNfts = w.recoveryNfts ∧
      (exec (step cfg) y w).recoveryRequests.get id = some req.confirmed ∧
      ((exec (step cfg) y w).confirmations id).card = req.confirmationCount + 1 ∧
      (exec (step cfg) y w).now = w.now := by
  obtain ⟨tokenId, hmem, hnew⟩ : ∃ tokenId ∈ tokens, tokenId ∉ w.confirmations id := by
    have hcard : (w.confirmations id).card < tokens.toFinset.card := by
      rwa [List.toFinset_card_of_nodup hnodup, ← hcounted]
    obtain ⟨tokenId, hmem, hnew⟩ := Finset.exists_mem_notMem_of_card_lt_card hcard
    exact ⟨tokenId, List.mem_toFinset.mp hmem, hnew⟩
  obtain ⟨nft, hnft, hsame⟩ := hgroup tokenId hmem
  have hunconfirmed : w.recoveryConfirmations.getD (id, tokenId) false = false := by
    simpa [State.confirmations] using hnew
  obtain ⟨hunvetoed, hunexecuted⟩ := pending_iff.mp hpending
  have hstep := step_confirm cfg
    ⟨hnft, hreq, hunconfirmed, hunvetoed, hunexecuted, hsame, fun _ => hwindow⟩
  refine ⟨_, Or.inr ⟨tokenId, hmem, nft, id.val, hnft, Or.inl rfl⟩, ?_⟩
  rw [exec_ok hstep]
  refine ⟨rfl, StorageMap.get_insert_self, ?_, rfl⟩
  change ((w.recoveryConfirmations.insert (id, tokenId) true).marked id).card = _
  rw [StorageMap.card_marked_insert hunconfirmed, hcounted]
  rfl

/-- **Enough tokens execute a request** whose veto window is over. -/
theorem canExecute_of_windowOver {tokens : List ℕ} (hnodup : tokens.Nodup) (missing : ℕ)
    {req : RecoveryRequest AccountId} (hreq : w.recoveryRequests.get id = some req)
    (hpending : req.Pending) (hcounted : req.confirmationCount = (w.confirmations id).card)
    (hmissing : req.threshold = req.confirmationCount + (missing + 1))
    (hbyte : req.threshold ≤ u8Max) (hlength : tokens.length = req.threshold)
    (hgroup : OfGroup w.toState req.groupId tokens) (hwindow : req.vetoDeadlineBlock < w.now) :
    CanExecute cfg w id tokens := by
  induction missing generalizing w req with
  | zero =>
    have hlt : req.confirmationCount < tokens.length := by omega
    obtain ⟨y, hy, hnfts, hconfirmed, -⟩ := exists_confirm cfg hnodup hreq hpending
      hcounted hlt hgroup hwindow
    refine ⟨[y], fun z hz => List.mem_singleton.mp hz ▸ hy, req.confirmed, hconfirmed, ?_⟩
    rw [confirmed_eq hpending (by omega)]
    exact if_pos hmissing.le
  | succ missing ih =>
    have hlt : req.confirmationCount < tokens.length := by omega
    obtain ⟨y, hy, hnfts, hconfirmed, hcard, hnow⟩ := exists_confirm cfg hnodup hreq
      hpending hcounted hlt hgroup hwindow
    refine CanExecute.of_exec hy hnfts ?_
    rw [confirmed_eq hpending (by omega), if_neg (by omega)] at hconfirmed
    refine ih hconfirmed (Or.inr rfl) hcard.symm ?_ hbyte hlength ?_ (hnow ▸ hwindow)
    · dsimp only
      omega
    · intro tokenId hmem
      rw [hnfts]
      exact hgroup tokenId hmem

/-- Blocks pass as long as there are numbers. -/
theorem CanExecute.of_blocks {tokens : List ℕ} (blocks : ℕ) (hroom : w.now + blocks ≤ u32Max)
    (h : CanExecute cfg { w with now := w.now + blocks } id tokens) :
    CanExecute cfg w id tokens := by
  induction blocks generalizing w with
  | zero => exact h
  | succ blocks ih =>
    have hblock : step cfg .block w = .ok { w with now := w.now + 1 } :=
      step_block.mpr ⟨by omega, rfl⟩
    refine CanExecute.of_exec (y := .block) (Or.inl rfl) ?_ ?_
    · rw [exec_ok hblock]
    · rw [exec_ok hblock]
      refine ih (by dsimp only; omega) ?_
      rwa [Nat.add_assoc, Nat.add_comm 1 blocks]

/-- **Enough tokens execute a request** that counts the confirmations that are stored, if there is a
block after the veto window. -/
theorem canExecute_of_lt {tokens : List ℕ} (hnodup : tokens.Nodup)
    {req : RecoveryRequest AccountId} (hreq : w.recoveryRequests.get id = some req)
    (hpending : req.Pending) (hcounted : req.confirmationCount = (w.confirmations id).card)
    (hlt : req.confirmationCount < req.threshold) (hbyte : req.threshold ≤ u8Max)
    (hlength : tokens.length = req.threshold) (hgroup : OfGroup w.toState req.groupId tokens)
    (hafter : req.vetoDeadlineBlock < w.now ∨ req.vetoDeadlineBlock < u32Max) :
    CanExecute cfg w id tokens := by
  obtain ⟨missing, hmissing⟩ := Nat.exists_eq_add_of_lt hlt
  rw [Nat.add_assoc] at hmissing
  by_cases hwindow : req.vetoDeadlineBlock < w.now
  · exact canExecute_of_windowOver hnodup missing hreq hpending hcounted hmissing hbyte hlength
      hgroup hwindow
  -- the blocks up to the end of the window pass
  · obtain ⟨blocks, hblocks⟩ := Nat.exists_eq_add_of_le (Nat.not_lt.mp hwindow)
    refine CanExecute.of_blocks (blocks + 1) (by omega)
      (canExecute_of_windowOver hnodup missing hreq hpending hcounted hmissing hbyte hlength
        hgroup ?_)
    dsimp only
    omega

/-- **Tokens that have all confirmed execute nothing more.** -/
theorem not_canExecute_of_confirmed {tokens : List ℕ}
    (hconfirmed : ∀ t ∈ tokens, t ∈ w.confirmations id)
    (hstatus : ∀ req, w.recoveryRequests.get id = some req → req.status ≠ .executed) :
    ¬ CanExecute cfg w id tokens := by
  rintro ⟨ys, hys, req, hreq, hexecuted⟩
  have hrun : (∀ t ∈ tokens, t ∈ (run (step cfg) ys w).confirmations id) ∧
      ∀ req, (run (step cfg) ys w).recoveryRequests.get id = some req → req.status ≠ .executed := by
    refine (throughout_of_along (P := fun w' : World AccountId =>
        (∀ t ∈ tokens, t ∈ w'.confirmations id) ∧
          ∀ req, w'.recoveryRequests.get id = some req → req.status ≠ .executed)
      (Q := fun _ y => y.Willing w tokens) ?_ ⟨hconfirmed, hstatus⟩ (along_of_mem hys)).last
    rintro y w₁ w₂ ⟨hmarks, hstatus⟩ hy hstep
    have hturn := step_turn (h := .empty) hstep id
    change (∀ t ∈ tokens, t ∈ (view w₂ (record w₁ y .empty) id).marks) ∧
      ∀ req, (view w₂ (record w₁ y .empty) id).request = some req → req.status ≠ .executed
    generalize view w₂ (record w₁ y .empty) id = v' at hturn ⊢
    rcases hturn with ⟨-, rfl⟩ | hturn
    · exact ⟨hmarks, hstatus⟩
    · cases hturn with
      | initiated hnft =>
        refine ⟨fun t ht => Finset.mem_insert_of_mem (hmarks t ht), fun req hreq => ?_⟩
        obtain rfl := Option.some.inj hreq
        exact fun h => by cases h
      | vetoed hreq hstatus' =>
        refine ⟨hmarks, fun req hreq => ?_⟩
        obtain rfl := Option.some.inj hreq
        exact fun h => by cases h
      -- a confirmation is with a token that has not confirmed
      | confirmed hreq hpending hnew hwindow =>
        rcases hy with hy | ⟨t, ht, nft, requestId, -, hy | hy⟩
        · cases hy
        · obtain ⟨-, hc⟩ := Input.call.inj hy
          obtain ⟨rfl, -⟩ := Call.confirmRecovery.inj hc
          exact absurd (hmarks _ ht) hnew
        · obtain ⟨-, hc⟩ := Input.call.inj hy
          cases hc
  exact hrun.2 req hreq hexecuted

/-! ### The runs -/

omit [DecidableEq AccountId] in
theorem KeptAt.mono {now now' : ℕ} {v : View AccountId} (h : KeptAt now v) (hnow : now ≤ now') :
    KeptAt now' v where
  fresh := h.fresh
  logged := h.logged
  request req hreq :=
    { h.request req hreq with
      windowOver := fun hstatus => ((h.request req hreq).windowOver hstatus).trans_le hnow }

theorem Sound.safe (hs : Sound cfg w h) (id : Identifier) : SafeAt w.now (view w h id) where
  vetoed req := hs.vetoed id req
  executed req := hs.executed id req
  enough req := hs.enough id req
  counted req := hs.counted id req

/-- What is asked of an input keeps what every run keeps. -/
theorem Kept.step (hk : Kept w h) (hs : Sound cfg w h) (hf : Fair w h x)
    (hstep : RecoveryNft.step cfg x w = .ok w') : Kept w' (record w x h) where
  tokens tokenId nft hnft := by
    rcases step_tokens hstep with hsame | ⟨-, hissued⟩
    · exact hk.tokens tokenId nft (hsame ▸ hnft)
    · rcases hissued tokenId nft hnft with hold | hthreshold
      · exact hk.tokens tokenId nft hold
      · exact hthreshold
  views id := by
    have hnow : w.now ≤ w'.now := by
      rcases step_now hstep with hnow | ⟨-, rfl⟩
      · exact hnow.ge
      · exact Nat.le_succ _
    refine KeptAt.mono ?_ hnow
    have hkept := hk.views id
    rcases step_turn (h := h) hstep id with ⟨-, hsame⟩ | hturn
    · rwa [hsame]
    · generalize view w' (record w x h) id = v' at hturn
      cases hturn with
      | initiated hnft =>
        refine hkept.initiated (hk.tokens _ _ hnft) fun hvetoed => ?_
        exact (hf id rfl).2.2 hvetoed _ hnft
      | vetoed hreq hstatus => exact hkept.ownerVetoed hreq hstatus
      | confirmed hreq hpending hnew hwindow =>
        exact hkept.confirm (hs.safe id) hreq hpending hnew hwindow

/-- **An input that is fair keeps an identifier safe.** -/
theorem SafeAt.step (hk : Kept w h) (hs : Sound cfg w h) (hf : Fair w h x)
    (hstep : RecoveryNft.step cfg x w = .ok w') (id : Identifier) :
    SafeAt w'.now (view w' (record w x h) id) := by
  have hkept' := (hk.step hs hf hstep).views id
  have hkept := hk.views id
  have hsafe := hs.safe id
  -- enough confirmations are kept by every run
  suffices hrest : (∀ req, (view w' (record w x h) id).vetoed = true →
        (view w' (record w x h) id).request = some req → req.status ≠ .executed) ∧
      (∀ req, (view w' (record w x h) id).executed = some req →
        (view w' (record w x h) id).request = some req) ∧
      ∀ req, (view w' (record w x h) id).request = some req →
        req.confirmationCount = (view w' (record w x h) id).marks.card from
    ⟨hrest.1, hrest.2.1, fun req hreq => (hkept'.request req hreq).enough, hrest.2.2⟩
  rcases step_turn (h := h) hstep id with ⟨-, hsame⟩ | hturn
  · rw [hsame]
    exact ⟨hsafe.vetoed, hsafe.executed, hsafe.counted⟩
  · generalize view w' (record w x h) id = v' at hturn
    cases hturn with
    | @initiated tokenId nft hnft =>
      obtain ⟨hunexecuted, halone, -⟩ := hf id rfl
      refine ⟨fun req _ hreq => ?_, fun req hexecuted => ?_, fun req hreq => ?_⟩
      · obtain rfl := Option.some.inj hreq
        exact fun h => by cases h
      · exact absurd (hkept.logged req hexecuted) (hunexecuted req (hsafe.executed req hexecuted))
      · obtain rfl := Option.some.inj hreq
        have hmarks : insert tokenId (view w h id).marks = {tokenId} :=
          Finset.eq_singleton_iff_unique_mem.mpr ⟨Finset.mem_insert_self _ _, fun t ht =>
            (Finset.mem_insert.mp ht).elim (fun h => h) (halone t)⟩
        change 1 = (insert tokenId (view w h id).marks).card
        rw [hmarks, Finset.card_singleton]
    | @vetoed req hreq hstatus =>
      refine ⟨fun req' _ hreq' => ?_, fun req' hexecuted => ?_, fun req' hreq' => ?_⟩
      · obtain rfl := Option.some.inj hreq'
        exact fun h => by cases h
      · have hsame := hsafe.executed req' hexecuted
        rw [hreq, Option.some_inj] at hsame
        exact absurd (hsame ▸ hkept.logged req' hexecuted) hstatus
      · obtain rfl := Option.some.inj hreq'
        exact hsafe.counted req hreq
    | @confirmed tokenId nft req hreq hpending hnew hwindow =>
      have hunexecuted := (pending_iff.mp hpending).2
      have hcount := (hkept.request req hreq).count_lt hunexecuted
      have hconfirmed := confirmed_eq hpending hcount
      refine ⟨fun req' hvetoed hreq' => ?_, fun req' hexecuted => ?_, fun req' hreq' => ?_⟩
      · obtain rfl := Option.some.inj hreq'
        have hlt := hf id rfl hvetoed req hreq
        rw [hconfirmed]
        dsimp only
        rw [if_neg (Nat.not_le.mpr hlt)]
        exact fun h => by cases h
      · change (view w h id).executed.or _ = some req' at hexecuted
        rw [hkept.executed_eq_none hsafe hreq hunexecuted, Option.none_or] at hexecuted
        exact (Option.filter_eq_some_iff.mp hexecuted).1
      · obtain rfl := Option.some.inj hreq'
        rw [hconfirmed]
        change req.confirmationCount + 1 = (insert tokenId (view w h id).marks).card
        rw [Finset.card_insert_of_notMem hnew, hsafe.counted req hreq]

/-- A request in its veto window that was not vetoed before leaves a block after the window. -/
def Timely (w : World AccountId) (h : History AccountId) : Prop :=
  ∀ id req, w.recoveryRequests.get id = some req → req.status = .pendingVetoWindow →
    h.vetoed id = false → req.vetoDeadlineBlock < u32Max

/-- An input in time leaves the requests with a block after their windows. -/
theorem Timely.step (ht : Timely w h) (hi : InTime cfg w h x)
    (hstep : RecoveryNft.step cfg x w = .ok w') : Timely w' (record w x h) := by
  intro id req hreq hstatus hvetoed
  change (view w' (record w x h) id).request = some req at hreq
  change (view w' (record w x h) id).vetoed = false at hvetoed
  rcases step_turn (h := h) hstep id with ⟨-, hsame⟩ | hturn
  · rw [hsame] at hreq hvetoed
    exact ht id req hreq hstatus hvetoed
  · generalize view w' (record w x h) id = v' at hturn hreq hvetoed
    cases hturn with
    | initiated hnft =>
      obtain rfl := Option.some.inj hreq
      exact (min_le_left _ _).trans_lt (hi id rfl hvetoed)
    | vetoed _ _ => cases hvetoed
    | confirmed _ hpending _ _ =>
      obtain rfl := Option.some.inj hreq
      exact absurd hstatus (confirmed_status_ne _)

/-- **An input that is fair keeps recoveries sound**, with a block after every veto window. -/
theorem Sound.step (hk : Kept w h) (hs : Sound cfg w h) (hf : Fair w h x)
    (ht : Timely w' (record w x h)) (hstep : RecoveryNft.step cfg x w = .ok w') :
    Sound cfg w' (record w x h) := by
  have hsafe := SafeAt.step hk hs hf hstep
  refine ⟨fun id => (hsafe id).vetoed, fun id => (hsafe id).executed, fun id => (hsafe id).enough,
    fun id => (hsafe id).counted, ?_⟩
  intro id req hreq hpending hvetoed tokens hnodup hlength hgroup
  have hrequested := ((hk.step hs hf hstep).views id).request req hreq
  have hroom := hrequested.room (pending_iff.mp hpending).2
  rw [max_eq_right (hrequested.several hpending hvetoed)] at hroom
  refine canExecute_of_lt hnodup hreq hpending ((hsafe id).counted req hreq) hroom
    hrequested.threshold.2 hlength hgroup ?_
  rcases hpending with hstatus | hstatus
  · exact Or.inr (ht id req hreq hstatus hvetoed)
  · exact Or.inl (hrequested.windowOver (Or.inl hstatus))

/-- A recovery that is initiated with a token whose threshold is one cannot be executed with it. -/
theorem Sound.not_pending_of_one {tokenId : ℕ} {nft : Token AccountId} {now : ℕ}
    {v : View AccountId} (hs : Sound cfg w h) (hnft : w.recoveryNfts.get tokenId = some nft)
    (hone : nft.threshold = 1) (hview : view w h id = v.initiated cfg now tokenId nft id) :
    v.vetoed = true := by
  by_contra hvetoed
  have hreq : w.recoveryRequests.get id = some (newRequest cfg now nft id) :=
    congrArg View.request hview
  have hmarks : w.confirmations id = insert tokenId v.marks := congrArg View.marks hview
  have hgroup : OfGroup w.toState nft.groupId [tokenId] := fun t ht =>
    ⟨nft, List.mem_singleton.mp ht ▸ hnft, rfl⟩
  have hcan := hs.live id _ hreq (Or.inl rfl)
    ((congrArg View.vetoed hview).trans (Bool.eq_false_of_not_eq_true hvetoed)) [tokenId]
    (List.nodup_singleton _) hone.symm hgroup
  refine not_canExecute_of_confirmed (fun t ht => ?_) (fun req hreq' => ?_) hcan
  · rw [hmarks, List.mem_singleton.mp ht]
    exact Finset.mem_insert_self _ _
  · obtain rfl := Option.some.inj (hreq.symm.trans hreq')
    exact fun hexecuted => by cases hexecuted

/-- **An input that keeps recoveries sound is fair.** -/
theorem Sound.fair (hk : Kept w h)
    (hstep : RecoveryNft.step cfg x w = .ok w') (hs' : Sound cfg w' (record w x h)) :
    Fair w h x := by
  cases x with
  | block => trivial
  | call origin c =>
    cases c with
    | issueRecoveryNfts groupId targetAccount holders destinationKind vaultAddress threshold =>
      trivial
    | vetoRecovery requestId => trivial
    | initiateRecovery tokenId requestId =>
      rintro id rfl
      have hsafe' := hs'.safe id
      rcases step_turn (h := h) hstep id with ⟨hother, -⟩ | hturn
      · exact absurd rfl hother
      generalize hview : view w' (record w _ h) id = v' at hturn hsafe'
      cases hturn with
      | @initiated _ nft hnft =>
        refine ⟨fun req hreq hexecuted => ?_, fun t ht => ?_, fun hvetoed nft' hnft' => ?_⟩
        · -- an executed request would not be there as it was executed
          have hlogged := (((hk.views id).request req hreq).executed hexecuted).1
          obtain rfl := Option.some.inj (hsafe'.executed req hlogged)
          cases hexecuted
        · -- the confirmation of another token would be stored and not counted
          have hcard : 1 = (insert tokenId (view w h id).marks).card := hsafe'.counted _ rfl
          exact Finset.card_le_one.mp hcard.ge t (Finset.mem_insert_of_mem ht) tokenId
            (Finset.mem_insert_self _ _)
        · obtain rfl := Option.some.inj (hnft'.symm.trans hnft)
          -- a single token has confirmed already, and cannot execute the request any more
          by_contra hlt
          have hone : nft'.threshold = 1 := by
            have hthreshold := (hk.tokens _ _ hnft).1
            omega
          have hsame : w'.recoveryNfts = w.recoveryNfts := by
            rcases step_tokens hstep with hsame | ⟨hnone, -⟩
            · exact hsame
            · cases hnone
          have hvetoed' := hs'.not_pending_of_one (hsame ▸ hnft) hone hview
          exact Bool.false_ne_true (hvetoed.symm.trans hvetoed')
    | confirmRecovery tokenId requestId =>
      rintro id rfl hvetoed req hreq
      have hsafe' := hs'.safe id
      rcases step_turn (h := h) hstep id with ⟨hother, -⟩ | hturn
      · exact absurd rfl hother
      generalize view w' (record w _ h) id = v' at hturn hsafe'
      cases hturn with
      | @confirmed _ nft req' hreq' hpending hnew hwindow =>
        obtain rfl := Option.some.inj (hreq.symm.trans hreq')
        have hrequested := (hk.views id).request req hreq
        have hconfirmed := confirmed_eq hpending
          (hrequested.count_lt (pending_iff.mp hpending).2)
        -- the last confirmation would execute a request that was vetoed
        by_contra hle
        refine hsafe'.vetoed req.confirmed hvetoed rfl ?_
        rw [hconfirmed]
        exact if_pos (Nat.not_lt.mp hle)

end Inputs

/-- **The runs in which recoveries are sound** are those in which every input is fair, as long as
veto windows end before the last block; and in no other run are they sound. -/
theorem recovery_sound_iff [DecidableEq AccountId] (cfg : Config AccountId) (now : UInt32)
    (xs : List (Input AccountId)) :
    (Along (recording record (step cfg)) (fun t x => InTime cfg t.1 t.2 x) xs
        (.genesis now, .empty) →
      (Throughout (recording record (step cfg)) (fun t => Sound cfg t.1 t.2) xs
          (.genesis now, .empty) ↔
        Along (recording record (step cfg)) (fun t x => Fair t.1 t.2 x) xs
          (.genesis now, .empty))) ∧
    (Throughout (recording record (step cfg)) (fun t => Sound cfg t.1 t.2) xs
        (.genesis now, .empty) →
      Along (recording record (step cfg)) (fun t x => Fair t.1 t.2 x) xs
        (.genesis now, .empty)) := by
  have hkept : Kept (.genesis now : World AccountId) .empty := by
    refine ⟨fun tokenId nft hnft => ?_, fun id => ⟨fun _ => rfl, ?_, ?_⟩⟩
    · cases (StorageMap.get_empty tokenId).symm.trans hnft
    · exact fun req hexecuted => by cases hexecuted
    · exact fun req hreq => by cases hreq
  have hfair : Throughout (recording record (step cfg)) (fun t => Sound cfg t.1 t.2) xs
      (.genesis now, .empty) → Along (recording record (step cfg)) (fun t x => Fair t.1 t.2 x) xs
        (.genesis now, .empty) := by
    intro hsound
    refine along_of_invariant (J := fun t => Kept t.1 t.2) ?_ ?_ hkept hsound.along_both
    · rintro x t t' hk ⟨hs, hs'⟩ h
      rw [exec_ok h] at hs'
      obtain ⟨hstep, hrecord⟩ := recording_eq_ok.mp h
      rw [hrecord] at hs' ⊢
      exact hk.step hs (Sound.fair hk hstep hs') hstep
    · rintro x t t' hk ⟨-, hs'⟩ h
      rw [exec_ok h] at hs'
      obtain ⟨hstep, hrecord⟩ := recording_eq_ok.mp h
      rw [hrecord] at hs'
      exact Sound.fair hk hstep hs'
  refine ⟨fun hintime => ⟨hfair, fun halong => ?_⟩, hfair⟩
  have hrun : Throughout (recording record (step cfg))
      (fun t => Kept t.1 t.2 ∧ Sound cfg t.1 t.2 ∧ Timely t.1 t.2) xs (.genesis now, .empty) := by
    refine throughout_of_along ?_ ⟨hkept, ?_, fun id req hreq => ?_⟩ (halong.and hintime)
    · rintro x t t' ⟨hk, hs, ht⟩ ⟨hf, hi⟩ h
      obtain ⟨hstep, hrecord⟩ := recording_eq_ok.mp h
      rw [hrecord]
      have ht' := ht.step hi hstep
      exact ⟨hk.step hs hf hstep, hs.step hk hf ht' hstep, ht'⟩
    · refine ⟨fun id req hvetoed => ?_, fun id req hexecuted => ?_, fun id req hreq => ?_,
        fun id req hreq => ?_, fun id req hreq => ?_⟩
      · cases hvetoed
      · cases hexecuted
      all_goals cases (StorageMap.get_empty id).symm.trans hreq
    · cases (StorageMap.get_empty id).symm.trans hreq
  exact hrun.imp fun _ ht => ht.2.1

/-! ### A vetoed request that is executed -/

/-- Account nine vetoes the recovery that account one initiates with the first of two tokens, and
account one initiates it again. -/
def revival : List (Input ℕ) :=
  [.call (.signed 9) (.issueRecoveryNfts [] 9 [1, 2] .personalBankVault [] 2),
    .call (.signed 1) (.initiateRecovery 0 []),
    .call (.signed 9) (.vetoRecovery []),
    .call (.signed 1) (.initiateRecovery 0 [])]

/-- Account two confirms the recovery with the second token. -/
def confirmedByTwo : List (Input ℕ) := [.call (.signed 2) (.confirmRecovery 1 [])]

/-- Recoveries are not sound in every run: initiated again, a vetoed request is executed. -/
theorem vetoed_request_executed : ¬ ∀ xs,
    Throughout (recording record (step Runtime.recoveryNft))
      (fun t => Sound Runtime.recoveryNft t.1 t.2) xs (.genesis 0, .empty) := by
  intro hsound
  have hlast := (hsound (revival ++ (List.replicate 43201 .block ++ confirmedByTwo))).last
  rw [run_append, run_append, run_passed (fun _ _ => rfl) (by decide +kernel)] at hlast
  have hexecuted : ((run (recording record (step Runtime.recoveryNft)) confirmedByTwo
      (passed 43201 (run (recording record (step Runtime.recoveryNft)) revival
        (.genesis 0, .empty)))).1.recoveryRequests.get ⟨[], Nat.zero_le _⟩).map
          RecoveryRequest.status = some .executed := by
    decide +kernel
  obtain ⟨req, hreq, hstatus⟩ := Option.map_eq_some_iff.mp hexecuted
  exact hlast.vetoed _ req (by decide +kernel) hreq hstatus

end RecoveryNft
