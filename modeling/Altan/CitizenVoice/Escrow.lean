import Altan.Foundation.Accounting
import Altan.Foundation.Deposits
import Altan.Runtime.Constants

/-!
# The escrow of the citizen voice

The deposits of the tickets and the amounts of the sting operations of a citizen share one reserved
balance. As long as nobody else takes from it, every settlement finds its amount in full: a deposit
is returned or burned once, and the amount of a sting operation is returned once.

## Main definitions

* `owed`: what an account has reserved for tickets and sting operations that are not settled
* `Event`, `History`, `record`: what becomes of the tickets, and what is returned of the sting
  operations
* `Spares`: an input leaves the reserved balances of those who owe, and there are numbers left
* `Sound`, `Settles`, `Final`: what is asked of states, of inputs, and of states in sequence

## Main results

* `Kept.withTicket`, `Kept.withSting`: one record at a time
* `kept_step`: what a sparing input keeps
* `escrow_sound`: the escrow is sound in the runs whose inputs spare it
-/

open Bounded Dispatch Ledger TransitionSystem Deposits

namespace CitizenVoice

variable {AccountId L : Type}

/-! ### What is owed -/

/-- A ticket that is not settled claims its deposit. -/
def Ticket.liability (ticket : Ticket AccountId) : Option (AccountId × ℕ) :=
  if ticket.status.IsOpen then some (ticket.author, ticket.deposit) else none

/-- A ticket claims the same until it is settled. -/
theorem Ticket.liability_restated {ticket : Ticket AccountId} {status : TicketStatus}
    (hopen : ticket.status.IsOpen) (hopen' : status.IsOpen) :
    { ticket with status := status }.liability = ticket.liability := by
  rw [Ticket.liability, Ticket.liability, if_pos hopen, if_pos hopen']

/-- A sting operation that is not sprung claims its amount. -/
def StingOperation.liability (op : StingOperation AccountId) : Option (AccountId × ℕ) :=
  if op.status = .sprung then none else some (op.citizen, op.amount)

/-- What becomes of a deposit. -/
inductive Outcome
  | returned
  | burned
  deriving DecidableEq

/-- What has become of the deposit of a ticket that stands so. -/
def TicketStatus.outcome : TicketStatus → Option Outcome
  | .resolved => some .returned
  | .rejected => some .burned
  | _ => none

/-- What is returned of a sting operation. -/
def StingOperation.returned (op : StingOperation AccountId) : Option ℕ :=
  if op.status = .sprung then some op.amount else none

/-! ### What is settled -/

/-- What is settled stays as it is. -/
def Final (s s' : State AccountId L) : Prop :=
  (∀ ticketId ticket, s.tickets.get ticketId = some ticket → ¬ ticket.status.IsOpen →
      s'.tickets.get ticketId = some ticket) ∧
    ∀ stingId op, s.stingOperations.get stingId = some op → op.status = .sprung →
      s'.stingOperations.get stingId = some op

section Final

variable {s s' : State AccountId L} {ticketId stingId : ℕ}

theorem Final.refl (s : State AccountId L) : Final s s :=
  ⟨fun _ _ hget _ => hget, fun _ _ hget _ => hget⟩

theorem Final.trans {s s' s'' : State AccountId L} (h : Final s s') (h' : Final s' s'') :
    Final s s'' :=
  ⟨fun id ticket hget hsettled => h'.1 id ticket (h.1 id ticket hget hsettled) hsettled,
    fun id op hget hsprung => h'.2 id op (h.2 id op hget hsprung) hsprung⟩

/-- A ticket that is written was not settled before. -/
theorem final_of_ticket {ticket : Ticket AccountId}
    (hopen : ∀ old ∈ s.tickets.get ticketId, old.status.IsOpen)
    (htickets : s'.tickets = s.tickets.insert ticketId ticket)
    (hstings : s'.stingOperations = s.stingOperations) : Final s s' := by
  refine ⟨fun id old hget hsettled => ?_, fun id op hget _ => hstings ▸ hget⟩
  rw [htickets]
  refine (StorageMap.get_insert_of_ne fun hid => ?_).trans hget
  exact hsettled (hopen old (hid ▸ hget))

/-- A sting operation that is written was not sprung before. -/
theorem final_of_sting {op : StingOperation AccountId}
    (hnot : ∀ old ∈ s.stingOperations.get stingId, old.status ≠ .sprung)
    (htickets : s'.tickets = s.tickets)
    (hstings : s'.stingOperations = s.stingOperations.insert stingId op) : Final s s' := by
  refine ⟨fun id ticket hget _ => htickets ▸ hget, fun id old hget hsprung => ?_⟩
  rw [hstings]
  refine (StorageMap.get_insert_of_ne fun hid => ?_).trans hget
  exact hnot old (hid ▸ hget) hsprung

end Final

/-! ### What is asked of the runs -/

variable [DecidableEq AccountId]

/-- What an account owes for its tickets and its sting operations. -/
def Storage.owed (s : Storage AccountId) (a : AccountId) : ℕ :=
  Deposits.owed Ticket.liability s.tickets a +
    Deposits.owed StingOperation.liability s.stingOperations a

/-! ### What has happened -/

/-- What becomes of a ticket: it is escalated, or settled by an origin. -/
inductive Event (AccountId : Type)
  | escalated
  | settled (origin : Origin AccountId) (outcome : Outcome)
  deriving DecidableEq

/-- The outcome of a settlement. -/
def Event.outcome : Event AccountId → Option Outcome
  | .settled _ outcome => some outcome
  | .escalated => none

/-- What has become of every ticket, and what was returned of every sting operation. -/
structure History (AccountId : Type) where
  tickets : EventLog ℕ (Event AccountId)
  returns : EventLog ℕ ℕ

/-- Nothing has happened. -/
def History.empty : History AccountId := ⟨fun _ => [], fun _ => []⟩

/-- What an accepted input adds to the history. -/
def record (s : State AccountId L) (x : Input AccountId L) (h : History AccountId) :
    History AccountId :=
  match x with
  | .call _ (.escalateTicket ticketId) => { h with tickets := h.tickets.append ticketId .escalated }
  | .call ctx (.resolveTicket ticketId _ isHelpful) =>
    { h with
      tickets := h.tickets.append ticketId
        (.settled ctx.origin (if isHelpful then .returned else .burned)) }
  | .call _ (.revealAndSpringTrap stingId _) =>
    { h with
      returns := h.returns.append stingId
        ((s.stingOperations.get stingId).elim 0 StingOperation.amount) }
  | _ => h

section Definitions

variable [Currency AccountId L] [EscrowCurrency AccountId L]

/-- Nobody who owes has less reserved on a ledger. -/
def Keeps (s : State AccountId L) (ledger : L) : Prop :=
  (∀ ticketId ∈ s.tickets.keys, ∀ p ∈ (s.tickets.get ticketId).bind Ticket.liability,
      reservedBalance s.ledger p.1 ≤ reservedBalance ledger p.1) ∧
    ∀ stingId ∈ s.stingOperations.keys,
      ∀ p ∈ (s.stingOperations.get stingId).bind StingOperation.liability,
        reservedBalance s.ledger p.1 ≤ reservedBalance ledger p.1

instance (s : State AccountId L) (ledger : L) : Decidable (Keeps s ledger) :=
  inferInstanceAs (Decidable (_ ∧ _))

/-- An input leaves what is reserved by those who owe: other modules do, and so does what they do at
an exile. There is a number for a new ticket. -/
def Spares (cfg : Config AccountId L) (s : State AccountId L) : Input AccountId L → Prop
  | .call _ (.submitTicket ..) => s.nextTicketId < u32Max
  | .call _ (.revealAndSpringTrap stingId _) =>
    ∀ op ∈ s.stingOperations.get stingId, Keeps s (cfg.identity.onExiled op.target s.ledger)
  | .call _ _ => True
  | .identity x => Keeps s (exec (Identity.step cfg.identity) x s.identity).ledger
  | .elsewhere ledger => Keeps s ledger

instance decidableSpares (cfg : Config AccountId L) (s : State AccountId L) :
    (x : Input AccountId L) → Decidable (Spares cfg s x)
  | .call _ (.submitTicket ..) => inferInstanceAs (Decidable (_ < _))
  | .call _ (.revealAndSpringTrap ..) => inferInstanceAs (Decidable (∀ _ ∈ _, _))
  | .call _ (.resolveTicket ..) => isTrue trivial
  | .call _ (.markInReview _) => isTrue trivial
  | .call _ (.escalateTicket _) => isTrue trivial
  | .call _ (.requestStingOperation ..) => isTrue trivial
  | .call _ (.approveSting _) => isTrue trivial
  | .identity _ => inferInstanceAs (Decidable (Keeps _ _))
  | .elsewhere _ => inferInstanceAs (Decidable (Keeps _ _))

/-- There is a number for a new sting operation. -/
def Numbered (s : State AccountId L) : Input AccountId L → Prop
  | .call _ (.requestStingOperation ..) => s.nextStingId < u64Max
  | _ => True

instance decidableNumbered (s : State AccountId L) :
    (x : Input AccountId L) → Decidable (Numbered s x)
  | .call _ (.requestStingOperation ..) => inferInstanceAs (Decidable (_ < _))
  | .call _ (.submitTicket ..) => isTrue trivial
  | .call _ (.revealAndSpringTrap ..) => isTrue trivial
  | .call _ (.resolveTicket ..) => isTrue trivial
  | .call _ (.markInReview _) => isTrue trivial
  | .call _ (.escalateTicket _) => isTrue trivial
  | .call _ (.approveSting _) => isTrue trivial
  | .identity _ => isTrue trivial
  | .elsewhere _ => isTrue trivial

/-- The escrow is sound: what is owed is reserved, a deposit is returned for a ticket that is
resolved and burned for one that is rejected, once and by root if it was ever escalated, an amount
is returned for a sting operation that is sprung, once, and the tickets are found under their
targets. -/
structure Sound (s : State AccountId L) (h : History AccountId) : Prop where
  backed : ∀ a, s.owed a ≤ reservedBalance s.ledger a
  settled : ∀ ticketId, (h.tickets ticketId).filterMap Event.outcome =
    ((s.tickets.get ticketId).bind fun ticket => ticket.status.outcome).toList
  rooted : ∀ ticketId, .escalated ∈ h.tickets ticketId → ∀ origin outcome,
    .settled origin outcome ∈ h.tickets ticketId → origin = .root
  returned : ∀ stingId, h.returns stingId =
    ((s.stingOperations.get stingId).bind StingOperation.returned).toList
  indexed : ∀ target ticketId, s.targetTickets.containsKey (target, ticketId) = true ↔
    ∃ ticket, s.tickets.get ticketId = some ticket ∧ ticket.target = target

/-- What a call does to the ledger: a settlement returns or burns the whole amount. -/
def Settles (cfg : Config AccountId L) (s s' : State AccountId L) : Input AccountId L → Prop
  | .call ctx (.submitTicket ..) =>
    ∃ caller, ctx.origin = .signed caller ∧ Reserved s.ledger s'.ledger caller cfg.ticketDeposit
  | .call _ (.resolveTicket ticketId _ isHelpful) =>
    ∃ ticket, s.tickets.get ticketId = some ticket ∧
      if isHelpful then Released s.ledger s'.ledger ticket.author ticket.deposit
      else Slashed s.ledger s'.ledger ticket.author ticket.deposit
  | .call ctx (.requestStingOperation _ amount _) =>
    ∃ citizen, ctx.origin = .signed citizen ∧ Reserved s.ledger s'.ledger citizen amount
  | .call _ (.revealAndSpringTrap stingId _) =>
    ∃ op ledger, s.stingOperations.get stingId = some op ∧
      Released (cfg.identity.onExiled op.target s.ledger) ledger op.citizen op.amount ∧
        payReward cfg op ledger = .ok s'.ledger
  | .call _ _ => s'.ledger = s.ledger
  | _ => True

/-! ### The invariant -/

omit [DecidableEq AccountId] in
/-- What every run keeps of a ticket, with what has become of it. -/
structure TicketKept (ticket : Option (Ticket AccountId)) (log : List (Event AccountId)) :
    Prop where
  settled : log.filterMap Event.outcome =
    (ticket.bind fun ticket => ticket.status.outcome).toList
  rooted : .escalated ∈ log → ∀ origin outcome, .settled origin outcome ∈ log → origin = .root
  escalated : .escalated ∈ log → ∀ t ∈ ticket, ¬ (t.status = .open ∨ t.status = .inReview)
  unknown : ticket = none → log = []

/-- What every sparing run keeps. -/
structure Kept (s : State AccountId L) (h : History AccountId) : Prop where
  backed : ∀ a, s.owed a ≤ reservedBalance s.ledger a
  tickets : ∀ ticketId, TicketKept (s.tickets.get ticketId) (h.tickets ticketId)
  ticketsLt : ∀ ticketId ticket, s.tickets.get ticketId = some ticket → ticketId < s.nextTicketId
  returned : ∀ stingId, h.returns stingId =
    ((s.stingOperations.get stingId).bind StingOperation.returned).toList
  stingsLt : ∀ stingId op, s.stingOperations.get stingId = some op → stingId < s.nextStingId
  indexed : ∀ target ticketId, s.targetTickets.containsKey (target, ticketId) = true ↔
    ∃ ticket, s.tickets.get ticketId = some ticket ∧ ticket.target = target

end Definitions

section Tickets

variable {ticket ticket' : Ticket AccountId} {log : List (Event AccountId)}

omit [DecidableEq AccountId] in
/-- Nothing has become of a new ticket. -/
theorem TicketKept.new (h : TicketKept none log) (hopen : ticket.status = .open) :
    TicketKept (some ticket) log := by
  have hnil := h.unknown rfl
  subst hnil
  refine ⟨?_, fun hmem => ?_, fun hmem => ?_, fun hnone => ?_⟩
  · rw [Option.bind_some, hopen]
    rfl
  · cases hmem
  · cases hmem
  · cases hnone

omit [DecidableEq AccountId] in
/-- A ticket that is not escalated is looked at. -/
theorem TicketKept.review (h : TicketKept (some ticket) log) (hopen : ticket.status = .open) :
    TicketKept (some { ticket with status := .inReview }) log where
  settled := by
    rw [h.settled, Option.bind_some, Option.bind_some, hopen]
    rfl
  rooted := h.rooted
  escalated hmem := absurd (Or.inl hopen) (h.escalated hmem ticket rfl)
  unknown hnone := by cases hnone

omit [DecidableEq AccountId] in
/-- A ticket that is not settled has no settlement. -/
theorem TicketKept.unsettled (h : TicketKept (some ticket) log) (hopen : ticket.status.IsOpen) :
    log.filterMap Event.outcome = [] := by
  rw [h.settled, Option.bind_some]
  rcases hopen with hopen | hopen | hopen <;> rw [hopen] <;> rfl

omit [DecidableEq AccountId] in
theorem TicketKept.not_settled (h : TicketKept (some ticket) log) (hopen : ticket.status.IsOpen)
    (origin : Origin AccountId) (outcome : Outcome) : .settled origin outcome ∉ log := by
  intro hmem
  have hsome : outcome ∈ log.filterMap Event.outcome := List.mem_filterMap.mpr ⟨_, hmem, rfl⟩
  rw [h.unsettled hopen] at hsome
  cases hsome

omit [DecidableEq AccountId] in
/-- A ticket is escalated. -/
theorem TicketKept.escalate (h : TicketKept (some ticket) log)
    (hopen : ticket.status = .open ∨ ticket.status = .inReview) :
    TicketKept (some { ticket with status := .escalated }) (log ++ [.escalated]) where
  settled := by
    rw [List.filterMap_append, h.unsettled (hopen.imp_right Or.inl)]
    rfl
  rooted _ origin outcome hmem := by
    rcases List.mem_append.mp hmem with hmem | hmem
    · exact absurd hmem (h.not_settled (hopen.imp_right Or.inl) origin outcome)
    · rw [List.mem_singleton] at hmem
      cases hmem
  escalated _ t ht := by
    obtain rfl := Option.some.inj ht
    simp
  unknown hnone := by cases hnone

omit [DecidableEq AccountId] in
/-- A ticket is settled, by root if it is escalated. -/
theorem TicketKept.settle (h : TicketKept (some ticket) log) {origin : Origin AccountId}
    {isHelpful : Bool} (hopen : ticket.status.IsOpen)
    (hroot : ticket.status = .escalated → origin = .root) :
    TicketKept (some { ticket with status := settledAs isHelpful })
      (log ++ [.settled origin (if isHelpful then .returned else .burned)]) where
  settled := by
    rw [List.filterMap_append, h.unsettled hopen]
    cases isHelpful <;> rfl
  rooted hescalated origin' outcome hmem := by
    have hbefore : .escalated ∈ log := by simpa using hescalated
    rcases List.mem_append.mp hmem with hmem | hmem
    · exact absurd hmem (h.not_settled hopen origin' outcome)
    · obtain ⟨rfl, -⟩ := Event.settled.inj (List.mem_singleton.mp hmem)
      -- what was escalated is escalated still
      have hnot := h.escalated hbefore ticket rfl
      unfold TicketStatus.IsOpen at hopen
      exact hroot (by tauto)
  escalated _ t ht := by
    obtain rfl := Option.some.inj ht
    cases isHelpful <;> simp [settledAs]
  unknown hnone := by cases hnone

end Tickets

/-! ### One record at a time -/

section Records

variable [Currency AccountId L] {s : State AccountId L} {h : History AccountId} {ledger : L}
  {ticketId stingId : ℕ}

omit [Currency AccountId L] in
/-- A ticket takes the place of another. -/
theorem owed_withTicket (ticket : Ticket AccountId) (c : AccountId) :
    share c ((s.tickets.get ticketId).bind Ticket.liability) +
        (withTicket ticketId ticket ledger s).owed c =
      share c ticket.liability + s.owed c := by
  have howed : share c ((s.tickets.get ticketId).bind Ticket.liability) +
      Deposits.owed Ticket.liability (s.tickets.insert ticketId ticket) c = _ := owed_insert
  simp only [Storage.owed, withTicket, State.withLedger_toStorage]
  omega

omit [Currency AccountId L] in
/-- A sting operation takes the place of another. -/
theorem owed_withSting (op : StingOperation AccountId) (identity : Identity.World AccountId L)
    (c : AccountId) :
    share c ((s.stingOperations.get stingId).bind StingOperation.liability) +
        (withSting stingId op identity s).owed c =
      share c op.liability + s.owed c := by
  have howed : share c ((s.stingOperations.get stingId).bind StingOperation.liability) +
      Deposits.owed StingOperation.liability (s.stingOperations.insert stingId op) c = _ :=
    owed_insert
  simp only [Storage.owed, withSting]
  omega

/-- Who owes has as much reserved on a ledger that keeps it. -/
theorem Keeps.owed_le (hkeeps : Keeps s ledger)
    (hbacked : ∀ a, s.owed a ≤ reservedBalance s.ledger a) (a : AccountId) :
    s.owed a ≤ reservedBalance ledger a := by
  by_cases htickets : Deposits.owed Ticket.liability s.tickets a = 0
  · by_cases hstings : Deposits.owed StingOperation.liability s.stingOperations a = 0
    · rw [Storage.owed, htickets, hstings]
      exact Nat.zero_le _
    · obtain ⟨stingId, op, n, hget, hliable⟩ := exists_liable hstings
      refine (hbacked a).trans ?_
      refine hkeeps.2 stingId (StorageMap.mem_keys.mpr ⟨op, hget⟩) (a, n) ?_
      rw [hget]
      exact hliable
  · obtain ⟨ticketId, ticket, n, hget, hliable⟩ := exists_liable htickets
    refine (hbacked a).trans ?_
    refine hkeeps.1 ticketId (StorageMap.mem_keys.mpr ⟨ticket, hget⟩) (a, n) ?_
    rw [hget]
    exact hliable

/-- A ledger that keeps what is reserved keeps the invariant. -/
theorem Kept.identity (hk : Kept s h) {identity : Identity.World AccountId L}
    (hkeeps : Keeps s identity.ledger) : Kept { s with identity := identity } h :=
  { hk with backed := hkeeps.owed_le hk.backed }

/-- **A ticket that is written.** What is reserved follows what the ticket claims. -/
theorem Kept.withTicket {ticket : Ticket AccountId} {log : List (Event AccountId)}
    {index : StorageMap (FeedbackTarget AccountId × ℕ) Unit} {next : ℕ} (hk : Kept s h)
    (hshare : ∀ c, reservedBalance s.ledger c + share c ticket.liability ≤
      reservedBalance ledger c + share c ((s.tickets.get ticketId).bind Ticket.liability))
    (hlog : TicketKept (some ticket) log) (hlt : ticketId < next) (hnext : s.nextTicketId ≤ next)
    (hself : ∀ target, index.containsKey (target, ticketId) = true ↔ ticket.target = target)
    (hothers : ∀ target id, id ≠ ticketId →
      index.containsKey (target, id) = s.targetTickets.containsKey (target, id)) :
    Kept { CitizenVoice.withTicket ticketId ticket ledger s with
        targetTickets := index
        nextTicketId := next }
      { h with tickets := Function.update h.tickets ticketId log } where
  backed c := by
    -- the claims of the other tickets stay
    have hbefore := hk.backed c
    have howed : share c ((s.tickets.get ticketId).bind Ticket.liability) +
        (CitizenVoice.withTicket ticketId ticket ledger s).owed c = _ := owed_withTicket ticket c
    have hreserved := hshare c
    change (CitizenVoice.withTicket ticketId ticket ledger s).owed c ≤ reservedBalance ledger c
    omega
  tickets id := by
    dsimp only [CitizenVoice.withTicket]
    by_cases hid : id = ticketId
    · subst hid
      rw [StorageMap.get_insert_self, Function.update_self]
      exact hlog
    · rw [StorageMap.get_insert_of_ne hid, Function.update_of_ne hid]
      exact hk.tickets id
  ticketsLt id t hget := by
    rcases StorageMap.get_insert_cases hget with ⟨rfl, -⟩ | ⟨-, hget⟩
    · exact hlt
    · exact (hk.ticketsLt id t hget).trans_le hnext
  returned := hk.returned
  stingsLt := hk.stingsLt
  indexed target id := by
    dsimp only [CitizenVoice.withTicket]
    by_cases hid : id = ticketId
    · subst hid
      rw [StorageMap.get_insert_self]
      simpa using hself target
    · rw [StorageMap.get_insert_of_ne hid, hothers target id hid]
      exact hk.indexed target id

/-- A ticket that is written without an event. -/
theorem Kept.of_update_tickets (hk : Kept s { h with
    tickets := Function.update h.tickets ticketId (h.tickets ticketId) }) : Kept s h := by
  rwa [Function.update_eq_self] at hk

/-- A sting operation that is written without a return. -/
theorem Kept.of_update_returns (hk : Kept s { h with
    returns := Function.update h.returns stingId (h.returns stingId) }) : Kept s h := by
  rwa [Function.update_eq_self] at hk

/-- A ticket whose standing changes. -/
theorem Kept.restated {ticket : Ticket AccountId} {status : TicketStatus}
    {log : List (Event AccountId)} (hk : Kept s h) (hget : s.tickets.get ticketId = some ticket)
    (hshare : ∀ c, reservedBalance s.ledger c + share c { ticket with status := status }.liability ≤
      reservedBalance ledger c + share c ticket.liability)
    (hlog : TicketKept (some { ticket with status := status }) log) :
    Kept (CitizenVoice.withTicket ticketId { ticket with status := status } ledger s)
      { h with tickets := Function.update h.tickets ticketId log } := by
  refine hk.withTicket (fun c => ?_) hlog (hk.ticketsLt ticketId ticket hget) (Nat.le_refl _)
    (fun target => ?_) fun _ _ _ => rfl
  · rw [hget]
    exact hshare c
  · exact (hk.indexed target ticketId).trans (by simp [hget])

/-- **A sting operation that is written.** What is reserved follows what it claims. -/
theorem Kept.withSting {op : StingOperation AccountId} {identity : Identity.World AccountId L}
    {log : List ℕ} {next : ℕ} (hk : Kept s h)
    (hshare : ∀ c, s.owed c + share c op.liability ≤ reservedBalance identity.ledger c +
      share c ((s.stingOperations.get stingId).bind StingOperation.liability))
    (hlog : log = op.returned.toList) (hlt : stingId < next) (hnext : s.nextStingId ≤ next) :
    Kept { CitizenVoice.withSting stingId op identity s with nextStingId := next }
      { h with returns := Function.update h.returns stingId log } where
  backed c := by
    have howed : share c ((s.stingOperations.get stingId).bind StingOperation.liability) +
        (CitizenVoice.withSting stingId op identity s).owed c = _ := owed_withSting op identity c
    have hreserved := hshare c
    change (CitizenVoice.withSting stingId op identity s).owed c ≤
      reservedBalance identity.ledger c
    omega
  tickets := hk.tickets
  ticketsLt := hk.ticketsLt
  returned id := by
    dsimp only [CitizenVoice.withSting]
    by_cases hid : id = stingId
    · subst hid
      rw [StorageMap.get_insert_self, Function.update_self]
      exact hlog
    · rw [StorageMap.get_insert_of_ne hid, Function.update_of_ne hid]
      exact hk.returned id
  stingsLt id op' hget := by
    rcases StorageMap.get_insert_cases hget with ⟨rfl, -⟩ | ⟨-, hget⟩
    · exact hlt
    · exact (hk.stingsLt id op' hget).trans_le hnext
  indexed := hk.indexed

/-- What is not numbered yet is not there. -/
theorem Kept.ticket_eq_none (hk : Kept s h) : s.tickets.get s.nextTicketId = none := by
  cases hget : s.tickets.get s.nextTicketId with
  | none => rfl
  | some ticket => exact absurd (hk.ticketsLt _ ticket hget) (Nat.lt_irrefl _)

theorem Kept.sting_eq_none (hk : Kept s h) : s.stingOperations.get s.nextStingId = none := by
  cases hget : s.stingOperations.get s.nextStingId with
  | none => rfl
  | some op => exact absurd (hk.stingsLt _ op hget) (Nat.lt_irrefl _)

omit [Currency AccountId L] in
/-- What an account owes for one sting operation is part of what it owes. -/
theorem share_sting_le (c : AccountId) :
    share c ((s.stingOperations.get stingId).bind StingOperation.liability) ≤ s.owed c :=
  share_le_owed.trans (Nat.le_add_left _ _)

omit [Currency AccountId L] in
theorem share_ticket_le (c : AccountId) :
    share c ((s.tickets.get ticketId).bind Ticket.liability) ≤ s.owed c :=
  share_le_owed.trans (Nat.le_add_right _ _)

/-- The invariant makes the escrow sound. -/
theorem Kept.sound (hk : Kept s h) : Sound s h where
  backed := hk.backed
  settled ticketId := (hk.tickets ticketId).settled
  rooted ticketId := (hk.tickets ticketId).rooted
  returned := hk.returned
  indexed := hk.indexed

theorem kept_start (identity : Identity.World AccountId L) :
    Kept (.start identity) History.empty where
  backed _ := Nat.zero_le _
  tickets ticketId := by
    refine ⟨?_, fun hmem => ?_, fun hmem => ?_, fun _ => rfl⟩
    · rw [show (State.start identity).tickets.get ticketId = none from
        StorageMap.get_empty ticketId]
      rfl
    · cases hmem
    · cases hmem
  ticketsLt ticketId ticket hget := by
    rw [show (State.start identity).tickets.get ticketId = none from
      StorageMap.get_empty ticketId] at hget
    cases hget
  returned stingId := by
    rw [show (State.start identity).stingOperations.get stingId = none from
      StorageMap.get_empty stingId]
    rfl
  stingsLt stingId op hget := by
    rw [show (State.start identity).stingOperations.get stingId = none from
      StorageMap.get_empty stingId] at hget
    cases hget
  indexed target ticketId := by
    simp [State.start, genesis, StorageMap.containsKey]

end Records

/-! ### The calls -/

section Calls

variable [Currency AccountId L] [EscrowCurrency AccountId L] {cfg : Config AccountId L}
  {ctx : Context AccountId} {s s' : State AccountId L} {h : History AccountId}
  {ticketId stingId : ℕ}

omit [EscrowCurrency AccountId L] in
/-- The deposit of a ticket that is not settled is reserved. -/
theorem Kept.deposit_le {ticket : Ticket AccountId} (hk : Kept s h)
    (hget : s.tickets.get ticketId = some ticket) (hopen : ticket.status.IsOpen) :
    ticket.deposit ≤ reservedBalance s.ledger ticket.author := by
  have hshare : share ticket.author ((s.tickets.get ticketId).bind Ticket.liability) ≤ _ :=
    share_ticket_le ticket.author
  rw [hget, Option.bind_some, Ticket.liability, if_pos hopen, share_self] at hshare
  exact hshare.trans (hk.backed ticket.author)

/-- The deposit of a ticket that is not settled is returned in full. -/
theorem Kept.unreserve_released {ticket : Ticket AccountId} (hk : Kept s h)
    (hget : s.tickets.get ticketId = some ticket) (hopen : ticket.status.IsOpen) :
    Released s.ledger (EscrowCurrency.unreserve s.ledger ticket.author ticket.deposit)
      ticket.author ticket.deposit := by
  have hreleased := EscrowCurrency.unreserve_released s.ledger ticket.author ticket.deposit
  rwa [Nat.min_eq_left (hk.deposit_le hget hopen)] at hreleased

/-- Or burned in full. -/
theorem Kept.slashReserved_slashed {ticket : Ticket AccountId} (hk : Kept s h)
    (hget : s.tickets.get ticketId = some ticket) (hopen : ticket.status.IsOpen) :
    Slashed s.ledger (EscrowCurrency.slashReserved s.ledger ticket.author ticket.deposit)
      ticket.author ticket.deposit := by
  have hslashed := EscrowCurrency.slashReserved_slashed s.ledger ticket.author ticket.deposit
  rwa [Nat.min_eq_left (hk.deposit_le hget hopen)] at hslashed

/-- What is reserved for a sting operation is returned in full, on a ledger that keeps what is
reserved. -/
theorem Kept.sting_released {op : StingOperation AccountId} {ledger : L} (hk : Kept s h)
    (hkeeps : Keeps s ledger) (hget : s.stingOperations.get stingId = some op)
    (hnot : op.status ≠ .sprung) :
    Released ledger (EscrowCurrency.unreserve ledger op.citizen op.amount) op.citizen
      op.amount := by
  have hshare : share op.citizen ((s.stingOperations.get stingId).bind StingOperation.liability) ≤
      _ := share_sting_le op.citizen
  rw [hget, Option.bind_some, StingOperation.liability, if_neg hnot, share_self] at hshare
  have hreleased := EscrowCurrency.unreserve_released ledger op.citizen op.amount
  rwa [Nat.min_eq_left (hshare.trans (hkeeps.owed_le hk.backed op.citizen))] at hreleased

/-- **A ticket that is handed in keeps the invariant.** -/
theorem Kept.submit {target : FeedbackTarget AccountId} {feedbackType : FeedbackType}
    {contentHash : Bytes32} (hk : Kept s h) (hnext : s.nextTicketId < u32Max)
    (hs : submitTicket cfg ctx target feedbackType contentHash s = .ok s') : Kept s' h := by
  obtain ⟨caller, ledger, -, hreserve, rfl⟩ := submit_eq_ok hs
  have hreserved := ReservableCurrency.reserve_ok _ _ _ _ hreserve
  have hnone := hk.ticket_eq_none
  have hlog : TicketKept none (h.tickets s.nextTicketId) := hnone ▸ hk.tickets s.nextTicketId
  apply Kept.of_update_tickets
  refine hk.withTicket (fun c => ?_) (hlog.new rfl) ?_ ?_ (fun target' => ?_)
    fun target' id hid => ?_
  · rw [reserved_share hreserved, hnone]
    exact Nat.le_refl _
  · rw [saturatingAdd_one_of_lt hnext]
    exact Nat.lt_succ_self _
  · rw [saturatingAdd_one_of_lt hnext]
    exact Nat.le_succ _
  · -- nothing is found under the new number but the new ticket
    rw [StorageMap.containsKey, StorageMap.get_insert]
    split
    · next heq => exact iff_of_true rfl (Prod.ext_iff.mp heq).1.symm
    · next hne =>
      refine iff_of_false (fun hmem => ?_) fun heq => hne (Prod.ext heq.symm rfl)
      obtain ⟨ticket, hget, -⟩ := (hk.indexed target' s.nextTicketId).mp hmem
      rw [hnone] at hget
      cases hget
  · unfold StorageMap.containsKey
    rw [StorageMap.get_insert_of_ne fun heq => hid (Prod.ext_iff.mp heq).2]

/-- **A ticket that is resolved keeps the invariant.** -/
theorem Kept.resolve {isHelpful : Bool} (hk : Kept s h) (resolutionHash : Bytes32)
    (hs : resolveTicket ctx ticketId resolutionHash isHelpful s = .ok s') :
    Kept s' { h with
      tickets := h.tickets.append ticketId
        (.settled ctx.origin (if isHelpful then .returned else .burned)) } := by
  obtain ⟨ticket, hget, hopen, hroot, rfl⟩ := resolve_eq_ok resolutionHash hs
  have hlog : TicketKept (some ticket) (h.tickets ticketId) := hget ▸ hk.tickets ticketId
  refine hk.restated hget (fun c => ?_) (hlog.settle hopen hroot)
  rw [Ticket.liability, Ticket.liability, if_pos hopen]
  cases isHelpful with
  | true => exact (released_share (hk.unreserve_released hget hopen)).ge
  | false => exact (slashed_share (hk.slashReserved_slashed hget hopen)).ge

/-- **A sting operation that is requested keeps the invariant.** -/
theorem Kept.request {target : AccountId} {amount : ℕ} {commitHash : Bytes32} (hk : Kept s h)
    (hnext : s.nextStingId < u64Max)
    (hs : requestStingOperation ctx target amount commitHash s = .ok s') : Kept s' h := by
  obtain ⟨citizen, -, ledger, hreserve, rfl⟩ := request_eq_ok.mp hs
  have hreserved := ReservableCurrency.reserve_ok _ _ _ _ hreserve
  have hnone := hk.sting_eq_none
  apply Kept.of_update_returns
  refine hk.withSting (fun c => ?_) ?_ ?_ ?_
  · have hbefore := hk.backed c
    rw [hnone]
    change _ ≤ reservedBalance ledger c + 0
    rw [reserved_share hreserved]
    exact Nat.add_le_add_right hbefore _
  · rw [hk.returned, hnone]
    rfl
  · rw [saturatingAdd_one_of_lt hnext]
    exact Nat.lt_succ_self _
  · rw [saturatingAdd_one_of_lt hnext]
    exact Nat.le_succ _

/-- **A trap that is sprung keeps the invariant**, when the exile keeps what is reserved. -/
theorem Kept.reveal {secretSalt : Bytes32} (hk : Kept s h)
    (hkeeps : ∀ op ∈ s.stingOperations.get stingId,
      Keeps s (cfg.identity.onExiled op.target s.ledger))
    (hs : revealAndSpringTrap cfg ctx stingId secretSalt s = .ok s') :
    Kept s' { h with
      returns := h.returns.append stingId
        ((s.stingOperations.get stingId).elim 0 StingOperation.amount) } := by
  obtain ⟨-, op, hget, happroved, -, identity, hexile, ledger, hpay, rfl⟩ := reveal_eq_ok.mp hs
  have hnot : op.status ≠ .sprung := by
    rw [happroved]
    decide
  have hhook := exile_ledger hexile
  rw [hhook, ← State.ledger] at hpay
  have hkept := hkeeps op hget
  have hreleased := hk.sting_released hkept hget hnot
  rw [hget]
  refine hk.withSting (fun c => ?_) ?_ (hk.stingsLt stingId op hget) (Nat.le_refl _)
  · have hshare := released_share hreleased (c := c)
    have howed := hkept.owed_le hk.backed c
    have hpaid := payReward_reserved hpay c
    rw [hget, Option.bind_some, StingOperation.liability, StingOperation.liability, if_pos rfl,
      if_neg hnot]
    change s.owed c + 0 ≤ reservedBalance ledger c + _
    omega
  · rw [hk.returned, hget, Option.bind_some, StingOperation.returned, StingOperation.returned,
      if_neg hnot, if_pos rfl]
    rfl

/-- **Step lemma.** A sparing input keeps the invariant. -/
theorem kept_step {x : Input AccountId L} (hk : Kept s h) (hspared : Spares cfg s x)
    (hnumbered : Numbered s x) (hs : step cfg x s = .ok s') : Kept s' (record s x h) := by
  cases x with
  | identity x =>
    obtain ⟨identity, hidentity, rfl⟩ := step_identity_eq_ok.mp hs
    refine hk.identity ?_
    rwa [Spares, exec_ok hidentity] at hspared
  | elsewhere ledger =>
    obtain rfl := Except.ok.inj hs
    exact hk.identity hspared
  | call ctx c =>
    cases c with
    | submitTicket target feedbackType contentHash => exact hk.submit hspared hs
    | resolveTicket ticketId resolutionHash isHelpful => exact hk.resolve resolutionHash hs
    | markInReview ticketId =>
      obtain ⟨ticket, hget, hopen, rfl⟩ := review_eq_ok hs
      have hlog : TicketKept (some ticket) (h.tickets ticketId) := hget ▸ hk.tickets ticketId
      apply Kept.of_update_tickets
      refine hk.restated hget (fun c => ?_) (hlog.review hopen)
      rw [Ticket.liability_restated (Or.inl hopen) (Or.inr (Or.inl rfl))]
    | escalateTicket ticketId =>
      obtain ⟨ticket, hget, hopen, rfl⟩ := escalate_eq_ok hs
      have hlog : TicketKept (some ticket) (h.tickets ticketId) := hget ▸ hk.tickets ticketId
      refine hk.restated hget (fun c => ?_) (hlog.escalate hopen)
      rw [Ticket.liability_restated (hopen.imp_right Or.inl) (Or.inr (Or.inr rfl))]
    | requestStingOperation target amount commitHash => exact hk.request hnumbered hs
    | approveSting stingId =>
      obtain ⟨-, op, hget, hpending, rfl⟩ := approve_eq_ok.mp hs
      -- a pending operation claims nothing else when it is approved, and returns nothing
      have hnot : op.status ≠ .sprung := by
        rw [hpending]
        decide
      apply Kept.of_update_returns
      refine hk.withSting (fun c => ?_) ?_ (hk.stingsLt stingId op hget) (Nat.le_refl _)
      · rw [hget, Option.bind_some, StingOperation.liability, StingOperation.liability, if_neg hnot]
        exact Nat.add_le_add_right (hk.backed c) _
      · refine (hk.returned stingId).trans ?_
        rw [hget, Option.bind_some, StingOperation.returned, StingOperation.returned, if_neg hnot]
        rfl
    | revealAndSpringTrap stingId secretSalt => exact hk.reveal hspared hs

/-- **A settlement returns or burns the whole amount**, where the escrow is kept. -/
theorem settles_of_step {x : Input AccountId L} (hk : Kept s h) (hspared : Spares cfg s x)
    (hs : step cfg x s = .ok s') : Settles cfg s s' x := by
  cases x with
  | identity x => trivial
  | elsewhere ledger => trivial
  | call ctx c =>
    cases c with
    | submitTicket target feedbackType contentHash =>
      obtain ⟨caller, ledger, hcaller, hreserve, rfl⟩ := submit_eq_ok hs
      exact ⟨caller, hcaller, ReservableCurrency.reserve_ok _ _ _ _ hreserve⟩
    | resolveTicket ticketId resolutionHash isHelpful =>
      obtain ⟨ticket, hget, hopen, -, rfl⟩ := resolve_eq_ok resolutionHash hs
      refine ⟨ticket, hget, ?_⟩
      cases isHelpful with
      | true => exact hk.unreserve_released hget hopen
      | false => exact hk.slashReserved_slashed hget hopen
    | markInReview ticketId =>
      obtain ⟨ticket, -, -, rfl⟩ := review_eq_ok hs
      exact rfl
    | escalateTicket ticketId =>
      obtain ⟨ticket, -, -, rfl⟩ := escalate_eq_ok hs
      exact rfl
    | requestStingOperation target amount commitHash =>
      obtain ⟨citizen, hcitizen, ledger, hreserve, rfl⟩ := request_eq_ok.mp hs
      exact ⟨citizen, hcitizen, ReservableCurrency.reserve_ok _ _ _ _ hreserve⟩
    | approveSting stingId =>
      obtain ⟨-, op, -, -, rfl⟩ := approve_eq_ok.mp hs
      exact rfl
    | revealAndSpringTrap stingId secretSalt =>
      obtain ⟨-, op, hget, happroved, -, identity, hexile, ledger, hpay, rfl⟩ :=
        reveal_eq_ok.mp hs
      rw [exile_ledger hexile] at hpay
      refine ⟨op, _, hget, hk.sting_released (hspared op hget) hget ?_, hpay⟩
      rw [happroved]
      decide

/-- **What is settled stays as it is.** -/
theorem final_of_step {x : Input AccountId L} (hk : Kept s h) (hs : step cfg x s = .ok s') :
    Final s s' := by
  cases x with
  | identity x =>
    obtain ⟨identity, -, rfl⟩ := step_identity_eq_ok.mp hs
    exact .refl s
  | elsewhere ledger =>
    obtain rfl := Except.ok.inj hs
    exact .refl s
  | call ctx c =>
    cases c with
    | submitTicket target feedbackType contentHash =>
      obtain ⟨caller, ledger, -, -, rfl⟩ := submit_eq_ok hs
      -- a new ticket has a free number
      refine final_of_ticket (fun old hget => ?_) rfl rfl
      rw [hk.ticket_eq_none] at hget
      cases hget
    -- only a ticket that is open is written again
    | resolveTicket ticketId resolutionHash isHelpful =>
      obtain ⟨ticket, hget, hopen, -, rfl⟩ := resolve_eq_ok resolutionHash hs
      refine final_of_ticket (fun old hold => ?_) rfl rfl
      exact Option.some.inj (hget.symm.trans hold) ▸ hopen
    | markInReview ticketId =>
      obtain ⟨ticket, hget, hopen, rfl⟩ := review_eq_ok hs
      refine final_of_ticket (fun old hold => ?_) rfl rfl
      exact Option.some.inj (hget.symm.trans hold) ▸ Or.inl hopen
    | escalateTicket ticketId =>
      obtain ⟨ticket, hget, hopen, rfl⟩ := escalate_eq_ok hs
      refine final_of_ticket (fun old hold => ?_) rfl rfl
      exact Option.some.inj (hget.symm.trans hold) ▸ hopen.imp_right Or.inl
    | requestStingOperation target amount commitHash =>
      obtain ⟨citizen, -, ledger, -, rfl⟩ := request_eq_ok.mp hs
      refine final_of_sting (fun old hget => ?_) rfl rfl
      rw [hk.sting_eq_none] at hget
      cases hget
    | approveSting stingId =>
      obtain ⟨-, op, hget, hpending, rfl⟩ := approve_eq_ok.mp hs
      refine final_of_sting (fun old hold => ?_) rfl rfl
      rw [← Option.some.inj (hget.symm.trans hold), hpending]
      decide
    | revealAndSpringTrap stingId secretSalt =>
      obtain ⟨-, op, hget, happroved, -, identity, -, ledger, -, rfl⟩ := reveal_eq_ok.mp hs
      refine final_of_sting (fun old hold => ?_) rfl rfl
      rw [← Option.some.inj (hget.symm.trans hold), happroved]
      decide

end Calls

/-! ### Runs -/

section Runs

variable [Currency AccountId L] [EscrowCurrency AccountId L]

/-- In the runs whose inputs spare the escrow, and that do not run out of numbers, it is sound in
every state, every settlement returns or burns the whole amount, and what is settled stays as it
is. -/
theorem escrow_sound (cfg : Config AccountId L) (identity : Identity.World AccountId L)
    (xs : List (Input AccountId L))
    (hspared : Along (step cfg) (fun s x => Spares cfg s x ∧ Numbered s x) xs (.start identity)) :
    Throughout (recording record (step cfg)) (fun t => Sound t.1 t.2) xs
        (.start identity, History.empty) ∧
      Along (step cfg) (fun s x => Settles cfg s (exec (step cfg) x s) x) xs (.start identity) ∧
      Ascending (step cfg) Final xs (.start identity) := by
  -- what every sparing run keeps, with some history
  have hkept : ∀ x (s s' : State AccountId L), (∃ h, Kept s h) → Spares cfg s x ∧ Numbered s x →
      step cfg x s = .ok s' → ∃ h, Kept s' h := by
    rintro x s s' ⟨h, hk⟩ ⟨hx, hnumbered⟩ hs
    exact ⟨_, kept_step hk hx hnumbered hs⟩
  refine ⟨?_, ?_, ?_⟩
  · refine Throughout.imp (P := fun t : State AccountId L × History AccountId => Kept t.1 t.2)
      (fun t hk => hk.sound) ?_
    refine throughout_of_along (Q := fun t x => Spares cfg t.1 x ∧ Numbered t.1 x)
      (fun x t t' hk hx hs => ?_) (kept_start identity)
      (along_recording (Q := fun s x => Spares cfg s x ∧ Numbered s x) |>.mpr hspared)
    obtain ⟨hstep, hrecord⟩ := recording_eq_ok.mp hs
    rw [hrecord]
    exact kept_step hk hx.1 hx.2 hstep
  · refine along_of_invariant (J := fun s => ∃ h, Kept s h) hkept ?_ ⟨_, kept_start identity⟩
      hspared
    rintro x s s' ⟨h, hk⟩ hx hs
    rw [exec_ok hs]
    exact settles_of_step hk hx.1 hs
  · refine ascending_of_invariant (J := fun s => ∃ h, Kept s h) Final.refl
      (fun _ _ _ => Final.trans) hkept ?_ ⟨_, kept_start identity⟩ hspared
    rintro x s s' ⟨h, hk⟩ - hs
    exact final_of_step hk hs

end Runs

/-! ### The last number -/

/-- The citizen 7 is registered, who has a thousand units, as the treasury 2 and the account 8. -/
def citizens : Identity.World ℕ (Estates.Estate ℕ (Runtime.EscrowLedger ℕ)) :=
  run (Identity.step Runtime.estates.identity) [Runtime.decree (Runtime.registration 7 (.ofNat 0))]
    Runtime.estatesGenesis

/-- A call with its origin, when nobody is a master of a guild. -/
def signedBy (origin : Origin ℕ) (c : Call ℕ) :
    Input ℕ (Estates.Estate ℕ (Runtime.EscrowLedger ℕ)) :=
  .call ⟨origin, fun _ _ => false⟩ c

/-- The account 8 is asked for a bribe by the citizen 7. -/
def asked (amount : ℕ) : Input ℕ (Estates.Estate ℕ (Runtime.EscrowLedger ℕ)) :=
  signedBy (.signed 8) (.requestStingOperation 7 amount (commitment amount (.ofNat 1)))

/-- Root approves a sting operation. -/
def approved (stingId : ℕ) : Input ℕ (Estates.Estate ℕ (Runtime.EscrowLedger ℕ)) :=
  signedBy .root (.approveSting stingId)

/-- Root springs the trap. -/
def revealed (stingId : ℕ) : Input ℕ (Estates.Estate ℕ (Runtime.EscrowLedger ℕ)) :=
  signedBy .root (.revealAndSpringTrap stingId (.ofNat 1))

/-- A ticket is resolved by its entity, another is escalated and rejected by root, and a trap is
sprung. -/
def heard : List (Input ℕ (Estates.Estate ℕ (Runtime.EscrowLedger ℕ))) :=
  [signedBy (.signed 8) (.submitTicket (.entity 9) .complaint (.ofNat 0)),
    signedBy (.signed 8) (.submitTicket (.guild 3) .suggestion (.ofNat 1)),
    signedBy (.signed 8) (.escalateTicket 1),
    signedBy (.signed 9) (.resolveTicket 0 (.ofNat 0) true),
    signedBy .root (.resolveTicket 1 (.ofNat 0) false),
    asked (5 * CentralBank.unit), approved 0, revealed 0]

theorem escrow_sound_heard :
    Throughout (recording record (step Runtime.citizenVoice)) (fun t => Sound t.1 t.2) heard
        (.start citizens, History.empty) ∧
      Along (step Runtime.citizenVoice)
        (fun s x => Settles Runtime.citizenVoice s (exec (step Runtime.citizenVoice) x s) x) heard
        (.start citizens) ∧
      Ascending (step Runtime.citizenVoice) Final heard (.start citizens) :=
  escrow_sound Runtime.citizenVoice citizens heard (by decide +kernel)

section Overwritten

variable {n : ℕ} {s : State ℕ (Estates.Estate ℕ (Runtime.EscrowLedger ℕ))}

/-- Requests for nothing change no balance. -/
theorem step_asked (hidentity : s.identity = citizens) :
    step Runtime.citizenVoice (asked 0) s =
      .ok (requested ⟨8, 7, 0, commitment 0 (.ofNat 1), .pending⟩ citizens.ledger s) := by
  refine request_eq_ok.mpr ⟨8, rfl, citizens.ledger, ?_, rfl⟩
  rw [State.ledger, hidentity]
  rfl

/-- The state after a number of requests for nothing. -/
def Asked (n : ℕ) (s : State ℕ (Estates.Estate ℕ (Runtime.EscrowLedger ℕ))) : Prop :=
  s.nextStingId = n ∧ s.identity = citizens

theorem asked_succ (h : Asked n s) (hn : n < u64Max) :
    ∃ s', step Runtime.citizenVoice (asked 0) s = .ok s' ∧ Asked (n + 1) s' := by
  refine ⟨_, step_asked h.2, ?_, ?_⟩
  · rw [requested, h.1]
    exact saturatingAdd_one_of_lt hn
  · rw [requested, h.2]
    rfl

/-- Without quests, an exile changes nothing but the citizen. -/
theorem exile_unchanged : Runtime.citizenVoice.identity.onExiled 7 citizens.ledger =
    citizens.ledger := rfl

omit n in
/-- When the numbers have run out, a request takes the place of what was sprung under the last. -/
theorem not_final_of_asked {op : StingOperation ℕ} (hnext : s.nextStingId = u64Max)
    (hget : s.stingOperations.get u64Max = some op) (hsprung : op.status = .sprung)
    {op' : StingOperation ℕ} (hpending : op'.status = .pending)
    (ledger : Estates.Estate ℕ (Runtime.EscrowLedger ℕ)) : ¬ Final s (requested op' ledger s) := by
  intro hfinal
  have hafter := hfinal.2 u64Max op hget hsprung
  rw [requested, withSting, hnext, StorageMap.get_insert_self] at hafter
  rw [Option.some.inj hafter, hsprung] at hpending
  cases hpending

/-- The last number is approved, sprung, and requested again. -/
theorem not_final_of_last (h : Asked u64Max s) :
    Along (step Runtime.citizenVoice) (Spares Runtime.citizenVoice)
        [asked 0, approved u64Max, revealed u64Max, asked 0] s ∧
      ¬ Ascending (step Runtime.citizenVoice) Final
        [asked 0, approved u64Max, revealed u64Max, asked 0] s := by
  obtain ⟨hnext, hidentity⟩ := h
  obtain ⟨identity, hexile⟩ : ∃ identity, Identity.step Runtime.citizenVoice.identity (.doExile 7)
      citizens = .ok identity := exists_ok (by decide +kernel)
  have hledger : identity.ledger = citizens.ledger := (exile_ledger hexile).trans exile_unchanged
  -- the operation under the last number, and the states it passes through
  let op : StingOperation ℕ := ⟨8, 7, 0, commitment 0 (.ofNat 1), .pending⟩
  let s₁ := requested op citizens.ledger s
  have h₁ : step Runtime.citizenVoice (asked 0) s = .ok s₁ := step_asked hidentity
  have hget₁ : s₁.stingOperations.get u64Max = some op := by
    rw [← hnext]
    exact StorageMap.get_insert_self
  have hidentity₁ : s₁.identity = citizens := by
    change { s.identity with ledger := citizens.ledger } = citizens
    rw [hidentity]
  let s₂ := withSting u64Max { op with status := .approved } s₁.identity s₁
  have h₂ : step Runtime.citizenVoice (approved u64Max) s₁ = .ok s₂ :=
    approve_eq_ok.mpr ⟨rfl, op, hget₁, rfl, rfl⟩
  have hget₂ : s₂.stingOperations.get u64Max = some { op with status := .approved } :=
    StorageMap.get_insert_self
  let s₃ := withSting u64Max { op with status := .sprung }
    { identity with ledger := citizens.ledger } s₂
  have hpay : payReward Runtime.citizenVoice { op with status := .approved }
      (EscrowCurrency.unreserve identity.ledger 8 0) = .ok citizens.ledger := by
    rw [hledger, EscrowCurrency.unreserve_zero]
    exact payReward_of_amount_zero rfl _
  have h₃ : step Runtime.citizenVoice (revealed u64Max) s₂ = .ok s₃ := by
    refine reveal_eq_ok.mpr ⟨rfl, _, hget₂, rfl, rfl, identity, ?_, _, hpay, rfl⟩
    rwa [← hidentity₁] at hexile
  have h₄ : step Runtime.citizenVoice (asked 0) s₃ = .ok (requested op citizens.ledger s₃) :=
    request_eq_ok.mpr ⟨8, rfl, citizens.ledger, rfl, rfl⟩
  have hnext₃ : s₃.nextStingId = u64Max := by
    change saturatingAdd u64Max s.nextStingId 1 = u64Max
    rw [hnext]
    rfl
  constructor
  · unfold Along
    rw [exec_ok h₁]
    unfold Along
    rw [exec_ok h₂]
    unfold Along
    rw [exec_ok h₃]
    refine ⟨fun _ _ => trivial, fun _ _ => trivial, fun _ _ op' hget => ?_, fun _ _ => trivial,
      trivial⟩
    obtain rfl := Option.some.inj (hget₂.symm.trans hget)
    change Keeps s₂ (Runtime.citizenVoice.identity.onExiled 7 s₁.identity.ledger)
    rw [hidentity₁, exile_unchanged, ← hidentity₁]
    exact ⟨fun _ _ _ _ => Nat.le_refl _, fun _ _ _ _ => Nat.le_refl _⟩
  · intro hascending
    have hfinal := hascending [asked 0, approved u64Max, revealed u64Max] _
      (List.prefix_append _ [asked 0]) (List.prefix_refl _)
    rw [List.cons_append, List.cons_append, List.cons_append, List.nil_append] at hfinal
    simp only [run_cons, run_nil, exec_ok h₁, exec_ok h₂, exec_ok h₃, exec_ok h₄] at hfinal
    exact not_final_of_asked hnext₃ StorageMap.get_insert_self rfl rfl _ hfinal

/-- **The last number is used again**: without a bound on the sting operations, one that is sprung
becomes another that is pending. -/
theorem sprung_overwritten :
    ¬ ∀ xs, Along (step Runtime.citizenVoice) (Spares Runtime.citizenVoice) xs (.start citizens) →
      Throughout (recording record (step Runtime.citizenVoice)) (fun t => Sound t.1 t.2) xs
          (.start citizens, History.empty) ∧
        Along (step Runtime.citizenVoice)
          (fun s x => Settles Runtime.citizenVoice s (exec (step Runtime.citizenVoice) x s) x) xs
          (.start citizens) ∧
        Ascending (step Runtime.citizenVoice) Final xs (.start citizens) := by
  intro h
  have hasked : Asked u64Max (run (step Runtime.citizenVoice) (List.replicate u64Max (asked 0))
      (.start citizens)) :=
    run_replicate ⟨rfl, rfl⟩ (fun _ _ hn hasked => asked_succ hasked hn) u64Max (Nat.le_refl _)
  obtain ⟨halong, hnot⟩ := not_final_of_last hasked
  obtain ⟨-, -, hascending⟩ := h (List.replicate u64Max (asked 0) ++ _)
    (along_append.mpr ⟨along_replicate (fun _ => trivial) u64Max _, halong⟩)
  refine hnot fun js ks hjs hks => ?_
  rw [← run_append, ← run_append]
  exact hascending _ _ ((List.prefix_append_right_inj _).mpr hjs)
    ((List.prefix_append_right_inj _).mpr hks)

end Overwritten

end CitizenVoice
