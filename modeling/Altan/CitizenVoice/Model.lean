import Altan.Foundation.Blake2b
import Altan.Foundation.Escrow
import Altan.Foundation.TransitionSystem
import Altan.Identity.Spec

/-!
# The voice of the citizens

A citizen hands in a ticket about a guild, a branch of the government or an entity, with a deposit
that is returned if the ticket helps and burned if it does not. The author of a ticket may escalate
it, and then root alone resolves it. A citizen who is asked for a bribe reserves the amount under a
commitment; when root approves and springs the trap the target is exiled, the amount is returned,
and the treasury adds a reward.

## Main definitions

* `Ticket`, `StingOperation`: what is recorded of a ticket, and of a sting operation
* `Storage`, `State`: the storage, and with it the citizens behind the bridge
* `commitment`, `exileCitizen`, `payReward`: the commitment to an amount, the bridge to the
  citizens, and the reward
* `Call`, `dispatch`: the dispatchables
* `Input`, `step`: the citizen voice with the citizens and the ledger, as a state machine
* `withTicket`, `withSting`: the storage with a record written
* `opened`, `requested`: the storage after a ticket is handed in, and a sting operation requested

## Main results

* `submit_eq_ok`, `resolve_eq_ok`, `review_eq_ok`, `escalate_eq_ok`, `request_eq_ok`,
  `approve_eq_ok`, `reveal_eq_ok`: the calls, inverted
-/

open Bounded Dispatch Ledger

namespace CitizenVoice

/-- The errors of the module, and those it passes on from the citizens. -/
inductive Error
  | ticketNotFound
  | invalidTicketStatus
  | notAuthorised
  | insufficientBalance
  | zeroDeposit
  | onlyAuthorCanEscalate
  | ticketAlreadyEscalated
  | escalatedTicketRequiresRoot
  | stingNotFound
  | stingAlreadyApproved
  | stingAlreadySprung
  | stingNotApproved
  | invalidReveal
  | treasuryInsufficientFunds
  | identity (e : Identity.Error)
  deriving DecidableEq, Repr

/-- The outcome of a function of the module. -/
abbrev Result (α : Type) := Except (DispatchError Error) α

/-- The branches of government. -/
inductive BranchType
  | khural
  | academy
  | judicialCourt
  | bankingAuthority
  | civilRegistry
  deriving DecidableEq, Repr

/-- What a ticket is about. -/
inductive FeedbackTarget (AccountId : Type)
  | guild (guildId : ℕ)
  | government (branch : BranchType)
  | entity (account : AccountId)
  deriving DecidableEq, Repr

/-- The kinds of feedback. -/
inductive FeedbackType
  | complaint
  | suggestion
  | whistleblower
  deriving DecidableEq, Repr

/-- Where a ticket stands. -/
inductive TicketStatus
  | open
  | inReview
  | escalated
  | resolved
  | rejected
  deriving DecidableEq, Repr

/-- Where a sting operation stands. -/
inductive StingStatus
  | pending
  | approved
  | sprung
  deriving DecidableEq, Repr

/-- What is recorded of a ticket. -/
structure Ticket (AccountId : Type) where
  author : AccountId
  target : FeedbackTarget AccountId
  feedbackType : FeedbackType
  contentHash : Bytes32
  status : TicketStatus
  deposit : ℕ
  deriving DecidableEq

/-- What is recorded of a sting operation. -/
structure StingOperation (AccountId : Type) where
  citizen : AccountId
  target : AccountId
  amount : ℕ
  commitHash : Bytes32
  status : StingStatus
  deriving DecidableEq

/-- The constants of the module. -/
structure Config (AccountId L : Type) where
  stateTreasury : AccountId
  ticketDeposit : ℕ
  whistleblowerRewardPercent : ℕ
  identity : Identity.Config AccountId L

/-- What a call is dispatched with: its origin, and the masters of the guilds at the time. -/
structure Context (AccountId : Type) where
  origin : Origin AccountId
  isGuildMaster : ℕ → AccountId → Bool

/-- The storage of the module. -/
structure Storage (AccountId : Type) where
  nextTicketId : ℕ
  tickets : StorageMap ℕ (Ticket AccountId)
  targetTickets : StorageMap (FeedbackTarget AccountId × ℕ) Unit
  nextStingId : ℕ
  stingOperations : StorageMap ℕ (StingOperation AccountId)

/-- The storage, and the citizens behind the bridge. -/
structure State (AccountId L : Type) extends Storage AccountId where
  identity : Identity.World AccountId L

variable {AccountId L : Type}

/-- The storage before any call. -/
def genesis : Storage AccountId where
  nextTicketId := 0
  tickets := ∅
  targetTickets := ∅
  nextStingId := 0
  stingOperations := ∅

namespace State

/-- The ledger of the citizens. -/
def ledger (s : State AccountId L) : L := s.identity.ledger

/-- The storage with the ledger after an operation. -/
def withLedger (s : State AccountId L) (ledger : L) : State AccountId L :=
  { s with identity := { s.identity with ledger := ledger } }

variable (s : State AccountId L) (ledger : L)

@[simp] theorem withLedger_ledger : (s.withLedger ledger).ledger = ledger := rfl

@[simp] theorem withLedger_toStorage : (s.withLedger ledger).toStorage = s.toStorage := rfl

end State

/-- The commitment to an amount, with a salt. -/
def commitment (amount : ℕ) (secretSalt : Bytes32) : Bytes32 where
  toArray := (Blake2b.hash 32 (Scale.littleEndian 16 amount ++ secretSalt.toList)).toArray
  size_toArray := Blake2b.length_hash (by omega) _

/-- The reward for a sting operation. -/
def whistleblowerReward (cfg : Config AccountId L) (op : StingOperation AccountId) : ℕ :=
  saturatingMul u128Max op.amount cfg.whistleblowerRewardPercent / 100

section Authority

variable [DecidableEq AccountId]

/-- Who is responsible for a target other than the government. -/
def ensureSignedTargetAuthority (ctx : Context AccountId) (caller : AccountId) :
    FeedbackTarget AccountId → Result Unit
  | .guild guildId => ensure (ctx.isGuildMaster guildId caller = true) (.module .notAuthorised)
  | .government _ => .error (.module .notAuthorised)
  | .entity account => ensure (caller = account) (.module .notAuthorised)

/-- Who is responsible for a target: root for the government. -/
def ensureTargetAuthority (ctx : Context AccountId) : FeedbackTarget AccountId → Result Unit
  | .government _ => (ensureRoot ctx.origin).mapError fun _ : DispatchError Error =>
    .module .notAuthorised
  | target => do
    let caller ← ensureSigned ctx.origin
    ensureSignedTargetAuthority ctx caller target

/-- A ticket that is escalated is left to root. -/
def ensureResolvable (ctx : Context AccountId) (ticket : Ticket AccountId) : Result Unit :=
  if ticket.status = .escalated then
    (ensureRoot ctx.origin).mapError fun _ : DispatchError Error =>
      .module .escalatedTicketRequiresRoot
  else
    ensure (ticket.status = .open ∨ ticket.status = .inReview) (.module .invalidTicketStatus)

/-- Who may resolve a ticket, root having been asked for one that is escalated. -/
def ensureResolver (ctx : Context AccountId) (ticket : Ticket AccountId) : Result Unit :=
  match ticket.target with
  | .government _ => (ensureRoot ctx.origin).mapError fun _ : DispatchError Error =>
    .module .notAuthorised
  | target =>
    if ticket.status = .escalated then .ok ()
    else do
      let caller ← ensureSigned ctx.origin
      ensureSignedTargetAuthority ctx caller target

end Authority

section Dispatchables

variable [DecidableEq AccountId] [Currency AccountId L]

/-! ### Tickets -/

section Tickets

variable [EscrowCurrency AccountId L]

/-- Hand in a ticket, with a deposit. -/
def submitTicket (cfg : Config AccountId L) (ctx : Context AccountId)
    (target : FeedbackTarget AccountId) (feedbackType : FeedbackType) (contentHash : Bytes32)
    (s : State AccountId L) : Result (State AccountId L) := do
  let caller ← ensureSigned ctx.origin
  let deposit := cfg.ticketDeposit
  ensure (0 < deposit) (.module .zeroDeposit)
  let ledger ← (ReservableCurrency.reserve s.ledger caller deposit).mapError fun _ =>
    .module .insufficientBalance
  let ticketId := s.nextTicketId
  return { s.withLedger ledger with
    tickets := s.tickets.insert ticketId
      { author := caller
        target := target
        feedbackType := feedbackType
        contentHash := contentHash
        status := .open
        deposit := deposit }
    targetTickets := s.targetTickets.insert (target, ticketId) ()
    nextTicketId := saturatingAdd u32Max ticketId 1 }

/-- Resolve a ticket: the deposit is returned if it helps, and burned if it does not. -/
def resolveTicket (ctx : Context AccountId) (ticketId : ℕ) (_resolutionHash : Bytes32)
    (isHelpful : Bool) (s : State AccountId L) : Result (State AccountId L) := do
  let ticket ← required (s.tickets.get ticketId) (.module .ticketNotFound)
  ensureResolvable ctx ticket
  ensureResolver ctx ticket
  let ledger := if isHelpful then EscrowCurrency.unreserve s.ledger ticket.author ticket.deposit
    else EscrowCurrency.slashReserved s.ledger ticket.author ticket.deposit
  let newStatus := if isHelpful then .resolved else .rejected
  return { s.withLedger ledger with
    tickets := s.tickets.insert ticketId { ticket with status := newStatus } }

end Tickets

omit [Currency AccountId L] in
/-- Mark an open ticket as one that is looked at. -/
def markInReview (ctx : Context AccountId) (ticketId : ℕ) (s : State AccountId L) :
    Result (State AccountId L) := do
  let ticket ← required (s.tickets.get ticketId) (.module .ticketNotFound)
  ensure (ticket.status = .open) (.module .invalidTicketStatus)
  ensureTargetAuthority ctx ticket.target
  return { s with tickets := s.tickets.insert ticketId { ticket with status := .inReview } }

omit [Currency AccountId L] in
/-- Escalate a ticket of one's own. -/
def escalateTicket (ctx : Context AccountId) (ticketId : ℕ) (s : State AccountId L) :
    Result (State AccountId L) := do
  let caller ← ensureSigned ctx.origin
  let ticket ← required (s.tickets.get ticketId) (.module .ticketNotFound)
  ensure (caller = ticket.author) (.module .onlyAuthorCanEscalate)
  ensure (ticket.status = .open ∨ ticket.status = .inReview)
    (.module (if ticket.status = .escalated then .ticketAlreadyEscalated else .invalidTicketStatus))
  return { s with tickets := s.tickets.insert ticketId { ticket with status := .escalated } }

/-! ### Sting operations -/

/-- Reserve an amount as proof of funds, under a commitment. -/
def requestStingOperation [ReservableCurrency AccountId L] (ctx : Context AccountId)
    (target : AccountId) (amount : ℕ) (commitHash : Bytes32) (s : State AccountId L) :
    Result (State AccountId L) := do
  let citizen ← ensureSigned ctx.origin
  let ledger ← (ReservableCurrency.reserve s.ledger citizen amount).mapError fun _ =>
    .module .insufficientBalance
  let stingId := s.nextStingId
  return { s.withLedger ledger with
    stingOperations := s.stingOperations.insert stingId
      { citizen := citizen
        target := target
        amount := amount
        commitHash := commitHash
        status := .pending }
    nextStingId := saturatingAdd u64Max stingId 1 }

omit [DecidableEq AccountId] [Currency AccountId L] in
/-- Approve a sting operation, as root. -/
def approveSting (ctx : Context AccountId) (stingId : ℕ) (s : State AccountId L) :
    Result (State AccountId L) := do
  ensureRoot ctx.origin
  let op ← required (s.stingOperations.get stingId) (.module .stingNotFound)
  ensure (op.status = .pending)
    (.module (if op.status = .approved then .stingAlreadyApproved else .stingAlreadySprung))
  return { s with
    stingOperations := s.stingOperations.insert stingId { op with status := .approved } }

/-- The bridge to the citizens: exile the target of a sting operation. -/
def exileCitizen [ReservableCurrency AccountId L] (cfg : Config AccountId L) (who : AccountId)
    (identity : Identity.World AccountId L) : Result (Identity.World AccountId L) :=
  (Identity.step cfg.identity (.doExile who) identity).mapError (DispatchError.map .identity)

omit [DecidableEq AccountId] in
/-- Pay the reward for a sting operation from the treasury. -/
def payReward (cfg : Config AccountId L) (op : StingOperation AccountId) (ledger : L) : Result L :=
  let reward := whistleblowerReward cfg op
  if 0 < reward then
    (Currency.transfer ledger cfg.stateTreasury op.citizen reward .keepAlive).mapError fun _ =>
      .module .treasuryInsufficientFunds
  else .ok ledger

/-- Reveal the salt and spring the trap, as root: the target is exiled, the amount is returned and
the reward is paid. -/
def revealAndSpringTrap [EscrowCurrency AccountId L] (cfg : Config AccountId L)
    (ctx : Context AccountId) (stingId : ℕ) (secretSalt : Bytes32) (s : State AccountId L) :
    Result (State AccountId L) := do
  ensureRoot ctx.origin
  let op ← required (s.stingOperations.get stingId) (.module .stingNotFound)
  ensure (op.status = .approved)
    (.module (if op.status = .pending then .stingNotApproved else .stingAlreadySprung))
  ensure (commitment op.amount secretSalt = op.commitHash) (.module .invalidReveal)
  let identity ← exileCitizen cfg op.target s.identity
  let ledger ← payReward cfg op (EscrowCurrency.unreserve identity.ledger op.citizen op.amount)
  return { s with
    identity := { identity with ledger := ledger }
    stingOperations := s.stingOperations.insert stingId { op with status := .sprung } }

/-! ### Dispatch -/

/-- The dispatchables with their arguments. -/
inductive Call (AccountId : Type)
  | submitTicket (target : FeedbackTarget AccountId) (feedbackType : FeedbackType)
    (contentHash : Bytes32)
  | resolveTicket (ticketId : ℕ) (resolutionHash : Bytes32) (isHelpful : Bool)
  | markInReview (ticketId : ℕ)
  | escalateTicket (ticketId : ℕ)
  | requestStingOperation (target : AccountId) (amount : ℕ) (commitHash : Bytes32)
  | approveSting (stingId : ℕ)
  | revealAndSpringTrap (stingId : ℕ) (secretSalt : Bytes32)
  deriving DecidableEq

variable [EscrowCurrency AccountId L]

/-- Dispatch a call. -/
def dispatch (cfg : Config AccountId L) (ctx : Context AccountId) :
    Call AccountId → State AccountId L → Result (State AccountId L)
  | .submitTicket target feedbackType contentHash =>
    submitTicket cfg ctx target feedbackType contentHash
  | .resolveTicket ticketId resolutionHash isHelpful =>
    resolveTicket ctx ticketId resolutionHash isHelpful
  | .markInReview ticketId => markInReview ctx ticketId
  | .escalateTicket ticketId => escalateTicket ctx ticketId
  | .requestStingOperation target amount commitHash =>
    requestStingOperation ctx target amount commitHash
  | .approveSting stingId => approveSting ctx stingId
  | .revealAndSpringTrap stingId secretSalt => revealAndSpringTrap cfg ctx stingId secretSalt

end Dispatchables

end CitizenVoice

/-! ### What the calls go through and do -/

open TransitionSystem

namespace CitizenVoice

variable {AccountId L : Type}

/-! ### The state machine -/

/-- A call with what it is dispatched with, an input of the citizens, or what happens to the ledger
elsewhere. -/
inductive Input (AccountId L : Type)
  | call (ctx : Context AccountId) (c : Call AccountId)
  | identity (x : Identity.Input AccountId)
  | elsewhere (ledger : L)

/-- The storage before any call, with citizens of any kind. -/
def State.start (identity : Identity.World AccountId L) : State AccountId L :=
  { genesis with identity := identity }

variable [DecidableEq AccountId] [Currency AccountId L] [EscrowCurrency AccountId L]

/-- The state after one input. -/
def step (cfg : Config AccountId L) :
    Input AccountId L → State AccountId L → Result (State AccountId L)
  | .call ctx c, s => dispatch cfg ctx c s
  | .identity x, s => do
    let identity ← (Identity.step cfg.identity x s.identity).mapError
      (DispatchError.map .identity)
    return { s with identity := identity }
  | .elsewhere ledger, s => .ok (s.withLedger ledger)

omit [DecidableEq AccountId] [Currency AccountId L] [EscrowCurrency AccountId L] in
/-- The storage with a ticket replaced, and the ledger. -/
def withTicket (ticketId : ℕ) (ticket : Ticket AccountId) (ledger : L) (s : State AccountId L) :
    State AccountId L :=
  { s.withLedger ledger with tickets := s.tickets.insert ticketId ticket }

omit [DecidableEq AccountId] [Currency AccountId L] [EscrowCurrency AccountId L] in
/-- The storage with a sting operation replaced, and the citizens. -/
def withSting (stingId : ℕ) (op : StingOperation AccountId) (identity : Identity.World AccountId L)
    (s : State AccountId L) : State AccountId L :=
  { s with
    identity := identity
    stingOperations := s.stingOperations.insert stingId op }

omit [Currency AccountId L] [EscrowCurrency AccountId L] in
/-- The storage with one more ticket. -/
def opened (ticket : Ticket AccountId) (ledger : L) (s : State AccountId L) : State AccountId L :=
  { withTicket s.nextTicketId ticket ledger s with
    targetTickets := s.targetTickets.insert (ticket.target, s.nextTicketId) ()
    nextTicketId := saturatingAdd u32Max s.nextTicketId 1 }

omit [DecidableEq AccountId] [Currency AccountId L] [EscrowCurrency AccountId L] in
/-- The storage with one more sting operation. -/
def requested (op : StingOperation AccountId) (ledger : L) (s : State AccountId L) :
    State AccountId L :=
  { withSting s.nextStingId op { s.identity with ledger := ledger } s with
    nextStingId := saturatingAdd u64Max s.nextStingId 1 }

variable {cfg : Config AccountId L} {ctx : Context AccountId} {s s' : State AccountId L}
  {ticketId stingId : ℕ}

/-! ### Tickets -/

theorem submit_eq_ok {target : FeedbackTarget AccountId} {feedbackType : FeedbackType}
    {contentHash : Bytes32} (h : submitTicket cfg ctx target feedbackType contentHash s = .ok s') :
    ∃ caller ledger, ctx.origin = .signed caller ∧
      ReservableCurrency.reserve s.ledger caller cfg.ticketDeposit = .ok ledger ∧
      s' = opened ⟨caller, target, feedbackType, contentHash, .open, cfg.ticketDeposit⟩
        ledger s := by
  simp only [submitTicket, ensureSigned_bind_eq_ok, ensure_bind_eq_ok, mapError_bind_eq_ok,
    pure_eq_ok] at h
  obtain ⟨caller, hcaller, -, ledger, hledger, rfl⟩ := h
  exact ⟨caller, ledger, hcaller, hledger, rfl⟩

/-- A ticket that is not settled. -/
def TicketStatus.IsOpen (status : TicketStatus) : Prop :=
  status = .open ∨ status = .inReview ∨ status = .escalated

instance : DecidablePred TicketStatus.IsOpen := fun _ => inferInstanceAs (Decidable (_ ∨ _))

omit [DecidableEq AccountId] in
/-- What is resolved is not settled yet, and left to root if it is escalated. -/
theorem ensureResolvable_eq_ok {ticket : Ticket AccountId} {u : Unit}
    (h : ensureResolvable ctx ticket = .ok u) :
    ticket.status.IsOpen ∧ (ticket.status = .escalated → ctx.origin = .root) := by
  unfold ensureResolvable at h
  split at h
  · next hescalated =>
    refine ⟨Or.inr (Or.inr hescalated), fun _ => ?_⟩
    rw [mapError_eq_ok] at h
    cases horigin : ctx.origin with
    | root => rfl
    | _ =>
      rw [horigin] at h
      cases h
  · next hnot =>
    rw [ensure_eq_ok] at h
    exact ⟨h.imp_right Or.inl, fun hescalated => absurd hescalated hnot⟩

/-- Where a ticket stands that is resolved. -/
def settledAs (isHelpful : Bool) : TicketStatus := if isHelpful then .resolved else .rejected

theorem resolve_eq_ok (resolutionHash : Bytes32) {isHelpful : Bool}
    (h : resolveTicket ctx ticketId resolutionHash isHelpful s = .ok s') :
    ∃ ticket, s.tickets.get ticketId = some ticket ∧ ticket.status.IsOpen ∧
      (ticket.status = .escalated → ctx.origin = .root) ∧
      s' = withTicket ticketId { ticket with status := settledAs isHelpful }
        (if isHelpful then EscrowCurrency.unreserve s.ledger ticket.author ticket.deposit
          else EscrowCurrency.slashReserved s.ledger ticket.author ticket.deposit) s := by
  simp only [resolveTicket, bind_eq_ok, required_eq_ok, pure_eq_ok] at h
  obtain ⟨ticket, hget, u, hresolvable, -, -, rfl⟩ := h
  obtain ⟨hopen, hroot⟩ := ensureResolvable_eq_ok hresolvable
  exact ⟨ticket, hget, hopen, hroot, rfl⟩

omit [Currency AccountId L] [EscrowCurrency AccountId L] in
theorem review_eq_ok (h : markInReview ctx ticketId s = .ok s') :
    ∃ ticket, s.tickets.get ticketId = some ticket ∧ ticket.status = .open ∧
      s' = withTicket ticketId { ticket with status := .inReview } s.ledger s := by
  simp only [markInReview, bind_eq_ok, required_eq_ok, ensure_eq_ok, pure_eq_ok] at h
  obtain ⟨ticket, hget, -, hopen, -, -, rfl⟩ := h
  exact ⟨ticket, hget, hopen, rfl⟩

omit [Currency AccountId L] [EscrowCurrency AccountId L] in
theorem escalate_eq_ok (h : escalateTicket ctx ticketId s = .ok s') :
    ∃ ticket, s.tickets.get ticketId = some ticket ∧
      (ticket.status = .open ∨ ticket.status = .inReview) ∧
      s' = withTicket ticketId { ticket with status := .escalated } s.ledger s := by
  simp only [escalateTicket, ensureSigned_bind_eq_ok, required_bind_eq_ok, ensure_bind_eq_ok,
    pure_eq_ok] at h
  obtain ⟨caller, -, ticket, hget, -, hopen, rfl⟩ := h
  exact ⟨ticket, hget, hopen, rfl⟩

/-! ### Sting operations -/

omit [DecidableEq AccountId] in
theorem request_eq_ok {target : AccountId} {amount : ℕ} {commitHash : Bytes32} :
    requestStingOperation ctx target amount commitHash s = .ok s' ↔
      ∃ citizen, ctx.origin = .signed citizen ∧
        ∃ ledger, ReservableCurrency.reserve s.ledger citizen amount = .ok ledger ∧
          s' = requested ⟨citizen, target, amount, commitHash, .pending⟩ ledger s := by
  simp only [requestStingOperation, ensureSigned_bind_eq_ok, mapError_bind_eq_ok, pure_eq_ok,
    eq_comm (a := s')]
  rfl

omit [DecidableEq AccountId] [Currency AccountId L] [EscrowCurrency AccountId L] in
theorem approve_eq_ok : approveSting ctx stingId s = .ok s' ↔
    ctx.origin = .root ∧ ∃ op, s.stingOperations.get stingId = some op ∧ op.status = .pending ∧
      s' = withSting stingId { op with status := .approved } s.identity s := by
  simp only [approveSting, ensureRoot_bind_eq_ok, required_bind_eq_ok, ensure_bind_eq_ok,
    pure_eq_ok, withSting, eq_comm (a := s')]

theorem reveal_eq_ok {secretSalt : Bytes32} :
    revealAndSpringTrap cfg ctx stingId secretSalt s = .ok s' ↔
      ctx.origin = .root ∧ ∃ op, s.stingOperations.get stingId = some op ∧
        op.status = .approved ∧ commitment op.amount secretSalt = op.commitHash ∧
        ∃ identity, Identity.step cfg.identity (.doExile op.target) s.identity = .ok identity ∧
          ∃ ledger, payReward cfg op
              (EscrowCurrency.unreserve identity.ledger op.citizen op.amount) = .ok ledger ∧
            s' = withSting stingId { op with status := .sprung }
              { identity with ledger := ledger } s := by
  simp only [revealAndSpringTrap, ensureRoot_bind_eq_ok, required_bind_eq_ok, ensure_bind_eq_ok,
    exileCitizen, mapError_bind_eq_ok]
  simp only [bind_eq_ok, pure_eq_ok, withSting, eq_comm (a := s')]

/-- What the citizens do to the state. -/
theorem step_identity_eq_ok {x : Identity.Input AccountId} :
    step cfg (.identity x) s = .ok s' ↔
      ∃ identity, Identity.step cfg.identity x s.identity = .ok identity ∧
        s' = { s with identity := identity } := by
  simp only [step, mapError_bind_eq_ok, pure_eq_ok, eq_comm (a := s')]

omit [DecidableEq AccountId] [EscrowCurrency AccountId L] in
/-- There is no reward for nothing. -/
theorem payReward_of_amount_zero {op : StingOperation AccountId} (h : op.amount = 0) (ledger : L) :
    payReward cfg op ledger = .ok ledger := by
  have hreward : whistleblowerReward cfg op = 0 := by
    rw [whistleblowerReward, h, saturatingMul, Nat.zero_mul, Nat.zero_min, Nat.zero_div]
  rw [payReward, hreward]
  rfl

omit [EscrowCurrency AccountId L] in
/-- The reward takes nothing that is reserved. -/
theorem payReward_reserved {op : StingOperation AccountId} {ledger ledger' : L}
    (h : payReward cfg op ledger = .ok ledger') (c : AccountId) :
    reservedBalance ledger' c = reservedBalance ledger c := by
  unfold payReward at h
  dsimp only at h
  split at h
  · rw [mapError_eq_ok] at h
    rcases Currency.transfer_cases h with ⟨-, rfl⟩ | ⟨-, -, hmoved⟩
    · rfl
    · exact hmoved.reserved c
  · rw [Except.ok.inj h]

/-- What the exile of a citizen does to the ledger is what it does through other modules. -/
theorem exile_ledger {identity identity' : Identity.World AccountId L} {who : AccountId}
    (h : Identity.step cfg.identity (.doExile who) identity = .ok identity') :
    identity'.ledger = cfg.identity.onExiled who identity.ledger := by
  simp only [Identity.step, Identity.doExile, bind_eq_ok, pure_eq_ok] at h
  obtain ⟨t, ⟨r, -, -, -, rfl⟩, rfl⟩ := h
  rfl

end CitizenVoice
