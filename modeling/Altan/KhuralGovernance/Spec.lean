import Altan.Foundation.TransitionSystem
import Altan.KhuralGovernance.Model

/-!
# The Khural as a state machine

Calls come from anybody, with what is known of the citizens and of the academy when they are
dispatched; other modules move balances in between; and blocks follow each other, each with the
enactments at its start. This module says once what an accepted input goes through and does.

## Main definitions

* `Input`, `World`, `step`: the module as a state machine
* `Payment`, `payment`, `hookPayments`: what is paid out of the treasuries
* `Transition`: what an accepted input goes through and does

## Main results

* `enactProposal_eq`, `onInitialize_induct`: the enactment of one proposal, and of all
* `onInitialize_eq_manual`: the start of a block executes the proposals as a caller would
* `step_transition`: every accepted input is a transition
-/

open Bounded Dispatch Ledger TransitionSystem Identity

namespace KhuralGovernance

variable {AccountId L : Type}

/-! ### The state machine -/

/-- A call with what it is dispatched with, what other modules do to the balances, or the start of
the next block. -/
inductive Input (AccountId L : Type)
  | call (origin : Origin AccountId) (citizens : AccountId → Option CitizenRecord)
    (isAcademician : AccountId → Bool) (c : Call AccountId)
  | elsewhere (ledger : L)
  | block

/-- The storage in a block, whose number fits. -/
structure World (AccountId L : Type) extends State AccountId L where
  now : ℕ
  now_le : now ≤ u32Max

/-- The storage before any call, in a block. -/
def World.genesis (ledger : L) (now : ℕ) (h : now ≤ u32Max) : World AccountId L :=
  { KhuralGovernance.genesis ledger with now := now, now_le := h }

section Step

variable [DecidableEq AccountId] [Currency AccountId L] [EscrowCurrency AccountId L]

/-- The state after one input. -/
def step (cfg : Config AccountId) :
    Input AccountId L → World AccountId L → Result (World AccountId L)
  | .call origin citizens isAcademician c, w => do
    let s ← dispatch cfg ⟨origin, w.now, citizens, isAcademician⟩ c w.toState
    return { w with toState := s }
  | .elsewhere ledger, w => .ok { w with ledger := ledger }
  | .block, w =>
    if h : w.now + 1 ≤ u32Max then
      .ok { toState := onInitialize cfg (w.now + 1) w.toState, now := w.now + 1, now_le := h }
    else .error .panic

end Step

theorem World.currentBlock_now (w : World AccountId L) : currentBlock w.now = w.now :=
  if_pos w.now_le

/-! ### Payments out of the treasuries -/

/-- A payment out of a treasury, for a proposal. -/
structure Payment (AccountId : Type) where
  proposalId : ℕ
  treasury : AccountId
  beneficiary : AccountId
  amount : ℕ
  deriving DecidableEq, Repr

/-- The treasury of the nation of a proposal. -/
def treasuryOf (cfg : Config AccountId) (p : Proposal AccountId) : Option AccountId :=
  cfg.nationTreasuries.val[p.nationId - 1]?

/-- A proposal with enough approvals, more than there are votes against it. -/
def Approved (cfg : Config AccountId) (p : Proposal AccountId) : Prop :=
  cfg.minQuorum ≤ p.votesFor ∧ p.votesAgainst < p.votesFor

instance (cfg : Config AccountId) (p : Proposal AccountId) : Decidable (Approved cfg p) :=
  inferInstanceAs (Decidable (_ ∧ _))

/-- A proposal with another status. -/
def Proposal.withStatus (p : Proposal AccountId) (status : ProposalStatus) : Proposal AccountId :=
  { p with status := status }

section Payments

variable [Currency AccountId L]

/-- The treasuries' payments, one after the other. -/
def Paid : L → List (Payment AccountId) → L → Prop
  | l, [], l' => l' = l
  | l, x :: xs, l' => ∃ l₁,
    Currency.transfer l x.treasury x.beneficiary x.amount .keepAlive = .ok l₁ ∧ Paid l₁ xs l'

theorem Paid.append {l l' l'' : L} {xs ys : List (Payment AccountId)} (h : Paid l xs l')
    (h' : Paid l' ys l'') : Paid l (xs ++ ys) l'' := by
  induction xs generalizing l with
  | nil =>
    cases h
    exact h'
  | cons x xs ih =>
    obtain ⟨l₁, hx, hrest⟩ := h
    exact ⟨l₁, hx, ih hrest⟩

theorem Paid.reserved [DecidableEq AccountId] {l l' : L} {xs : List (Payment AccountId)}
    (h : Paid l xs l') (a : AccountId) : reservedBalance l' a = reservedBalance l a := by
  induction xs generalizing l with
  | nil => rw [show l' = l from h]
  | cons x xs ih =>
    obtain ⟨l₁, hx, hrest⟩ := h
    exact (ih hrest).trans (Currency.transfer_reserved hx a)

/-- What the enactment of a proposal pays. -/
def payment (cfg : Config AccountId) (id : ℕ) (p : Proposal AccountId) (s : State AccountId L) :
    Option (Payment AccountId) :=
  if Approved cfg p then
    (treasuryOf cfg p).bind fun treasury =>
      match Currency.transfer s.ledger treasury p.beneficiary p.amount .keepAlive with
      | .ok _ => some ⟨id, treasury, p.beneficiary, p.amount⟩
      | .error _ => none
  else none

/-- What a payment is for. -/
theorem payment_eq_some {cfg : Config AccountId} {id : ℕ} {p : Proposal AccountId}
    {s : State AccountId L} {x : Payment AccountId} (h : payment cfg id p s = some x) :
    Approved cfg p ∧ ∃ treasury, treasuryOf cfg p = some treasury ∧
      x = ⟨id, treasury, p.beneficiary, p.amount⟩ := by
  unfold payment at h
  split_ifs at h with happroved
  obtain ⟨treasury, htreasury, h⟩ := Option.bind_eq_some_iff.mp h
  refine ⟨happroved, treasury, htreasury, ?_⟩
  split at h
  · exact (Option.some.inj h).symm
  · cases h

/-- The status a proposal is enacted with: executed when the treasury pays. -/
def verdict : Option (Payment AccountId) → ProposalStatus
  | some _ => .executed
  | none => .rejected

omit [Currency AccountId L] in
theorem verdict_ne_active (o : Option (Payment AccountId)) : verdict o ≠ .active := by
  cases o <;> exact fun h => by cases h

/-- **What an enactment does**: the proposal is executed with the payment, or rejected without
one. -/
theorem enactProposal_eq (cfg : Config AccountId) (id : ℕ) (p : Proposal AccountId)
    (s : State AccountId L) :
    ∃ l, Paid s.ledger (payment cfg id p s).toList l ∧
      enactProposal cfg id p s = { s with
        ledger := l
        proposals := s.proposals.insert id (p.withStatus (verdict (payment cfg id p s))) } := by
  unfold enactProposal payment
  by_cases happroved : Approved cfg p
  · rw [if_pos happroved]
    dsimp only
    rw [if_pos (show _ ∧ _ from happroved)]
    -- the nation may have no treasury, and the treasury may not pay
    unfold treasuryOf
    cases cfg.nationTreasuries.val[p.nationId - 1]? with
    | none => exact ⟨s.ledger, rfl, rfl⟩
    | some treasury =>
      rw [Option.bind_some]
      dsimp only
      cases htransfer : Currency.transfer s.ledger treasury p.beneficiary p.amount .keepAlive with
      | ok l => exact ⟨l, ⟨l, htransfer, rfl⟩, rfl⟩
      | error e => exact ⟨s.ledger, rfl, rfl⟩
  · rw [if_neg happroved]
    dsimp only
    rw [if_neg (show ¬ (_ ∧ _) from happroved)]
    exact ⟨s.ledger, rfl, rfl⟩

/-! ### The start of a block -/

/-- Several enactments, one after the other. -/
def enactAll (cfg : Config AccountId) (es : List (ℕ × Proposal AccountId)) (s : State AccountId L) :
    State AccountId L := es.foldl (fun s e => enactProposal cfg e.1 e.2 s) s

/-- What several enactments pay. -/
def payments (cfg : Config AccountId) :
    List (ℕ × Proposal AccountId) → State AccountId L → List (Payment AccountId)
  | [], _ => []
  | (id, p) :: es, s =>
    (payment cfg id p s).toList ++ payments cfg es (enactProposal cfg id p s)

/-- What the start of a block pays. -/
def hookPayments (cfg : Config AccountId) (n : ℕ) (s : State AccountId L) :
    List (Payment AccountId) := payments cfg (expired cfg (currentBlock n) s) s

/-- A proposal whose deadline has come, and that is not decided. -/
def Due (current : ℕ) (s : State AccountId L) (id : ℕ) (p : Proposal AccountId) : Prop :=
  s.proposals.get id = some p ∧ p.status = .active ∧ p.endBlock ≤ current

omit [Currency AccountId L] in
theorem mem_expired {cfg : Config AccountId} {current id : ℕ} {p : Proposal AccountId}
    {s : State AccountId L} : (id, p) ∈ expired cfg current s ↔ Due current s id p := by
  unfold expired Due
  rw [List.mem_filter, StorageMap.mem_iter, decide_eq_true_iff]

omit [Currency AccountId L] in
theorem nodup_expired (cfg : Config AccountId) (current : ℕ) (s : State AccountId L) :
    ((expired cfg current s).map Prod.fst).Nodup :=
  (StorageMap.nodup_iter_keys cfg.iterationOrder s.proposals).sublist
    (List.filter_sublist.map Prod.fst)

/-- An enactment changes no other proposal. -/
theorem enactProposal_get_of_ne {cfg : Config AccountId} {id j : ℕ} {p : Proposal AccountId}
    {s : State AccountId L} (h : j ≠ id) :
    (enactProposal cfg id p s).proposals.get j = s.proposals.get j := by
  obtain ⟨l, -, he⟩ := enactProposal_eq cfg id p s
  rw [he]
  exact StorageMap.get_insert_of_ne h

/-- What is due is due until it is enacted. -/
theorem Due.of_enact {cfg : Config AccountId} {current id j : ℕ} {p q : Proposal AccountId}
    {s : State AccountId L} (h : Due current s j q) (hne : j ≠ id) :
    Due current (enactProposal cfg id p s) j q :=
  ⟨(enactProposal_get_of_ne hne).trans h.1, h.2⟩

/-- What holds of the state and of the payments, and is kept by enacting what is due, is kept by
several enactments. -/
theorem enactAll_induct {cfg : Config AccountId} {current : ℕ}
    {P : State AccountId L → List (Payment AccountId) → Prop}
    (hP : ∀ s h id p, P s h → Due current s id p →
      P (enactProposal cfg id p s) (h ++ (payment cfg id p s).toList))
    {es : List (ℕ × Proposal AccountId)} {s : State AccountId L} {h : List (Payment AccountId)}
    (hnodup : (es.map Prod.fst).Nodup) (hdue : ∀ e ∈ es, Due current s e.1 e.2) (hs : P s h) :
    P (enactAll cfg es s) (h ++ payments cfg es s) := by
  induction es generalizing s h with
  | nil => rwa [payments, List.append_nil]
  | cons e es ih =>
    obtain ⟨id, p⟩ := e
    obtain ⟨hfresh, hnodup⟩ := List.nodup_cons.mp hnodup
    rw [payments, ← List.append_assoc]
    -- the rest of the list, from the state with the first enacted
    refine ih hnodup (fun e he => ?_) (hP s h id p hs (hdue (id, p) List.mem_cons_self))
    -- the others are due still
    refine (hdue e (List.mem_cons_of_mem _ he)).of_enact ?_
    intro hid
    exact hfresh (hid ▸ List.mem_map_of_mem he)

/-- **The rule for the start of a block.** -/
theorem onInitialize_induct {cfg : Config AccountId} {n : ℕ}
    {P : State AccountId L → List (Payment AccountId) → Prop}
    (hP : ∀ s h id p, P s h → Due (currentBlock n) s id p →
      P (enactProposal cfg id p s) (h ++ (payment cfg id p s).toList))
    {s : State AccountId L} {h : List (Payment AccountId)} (hs : P s h) :
    P (onInitialize cfg n s) (h ++ hookPayments cfg n s) :=
  enactAll_induct hP (nodup_expired cfg _ s) (fun _ he => mem_expired.mp he) hs

/-- What is aside from the proposals and what is paid for them: the other records and the reserved
balances. -/
structure Aside (s s' : State AccountId L) : Prop where
  nextProposalId : s'.nextProposalId = s.nextProposalId
  hasVoted : s'.hasVoted = s.hasVoted
  expertBills : s'.expertBills = s.expertBills
  nextExpertBillId : s'.nextExpertBillId = s.nextExpertBillId
  hasVotedOnBill : s'.hasVotedOnBill = s.hasVotedOnBill
  expertBillDepositor : s'.expertBillDepositor = s.expertBillDepositor
  reserved : ∀ a, reservedBalance s'.ledger a = reservedBalance s.ledger a

theorem enactProposal_aside [DecidableEq AccountId] (cfg : Config AccountId) (id : ℕ)
    (p : Proposal AccountId) (s : State AccountId L) : Aside s (enactProposal cfg id p s) := by
  obtain ⟨l, hpaid, he⟩ := enactProposal_eq cfg id p s
  rw [he]
  exact ⟨rfl, rfl, rfl, rfl, rfl, rfl, hpaid.reserved⟩

theorem Aside.trans {s s' s'' : State AccountId L} (h : Aside s s') (h' : Aside s' s'') :
    Aside s s'' where
  nextProposalId := h'.nextProposalId.trans h.nextProposalId
  hasVoted := h'.hasVoted.trans h.hasVoted
  expertBills := h'.expertBills.trans h.expertBills
  nextExpertBillId := h'.nextExpertBillId.trans h.nextExpertBillId
  hasVotedOnBill := h'.hasVotedOnBill.trans h.hasVotedOnBill
  expertBillDepositor := h'.expertBillDepositor.trans h.expertBillDepositor
  reserved a := (h'.reserved a).trans (h.reserved a)

theorem onInitialize_aside [DecidableEq AccountId] (cfg : Config AccountId) (n : ℕ)
    (s : State AccountId L) : Aside s (onInitialize cfg n s) :=
  onInitialize_induct (h := []) (P := fun t _ => Aside s t)
    (fun t _ id p ht _ => ht.trans (enactProposal_aside cfg id p t))
    ⟨rfl, rfl, rfl, rfl, rfl, rfl, fun _ => rfl⟩

/-- Several enactments decide each of the proposals. -/
theorem enactAll_get {cfg : Config AccountId} {es : List (ℕ × Proposal AccountId)}
    {s : State AccountId L} {id : ℕ} {p' : Proposal AccountId}
    (h : (enactAll cfg es s).proposals.get id = some p') :
    p'.status ≠ .active ∨ (∀ p, (id, p) ∉ es) ∧ s.proposals.get id = some p' := by
  induction es generalizing s with
  | nil => exact Or.inr ⟨fun _ => List.not_mem_nil, h⟩
  | cons e es ih =>
    rcases ih h with hdecided | ⟨hrest, hget⟩
    · exact Or.inl hdecided
    dsimp only at hget
    by_cases hid : id = e.1
    · obtain ⟨l, -, he⟩ := enactProposal_eq cfg e.1 e.2 s
      rw [he, hid] at hget
      obtain rfl := Option.some.inj (StorageMap.get_insert_self.symm.trans hget)
      exact Or.inl (verdict_ne_active _)
    · rw [enactProposal_get_of_ne hid] at hget
      refine Or.inr ⟨fun p hp => ?_, hget⟩
      rcases List.mem_cons.mp hp with rfl | hp
      · exact hid rfl
      · exact hrest p hp

/-- **After the start of a block no deadline has passed undecided.** -/
theorem onInitialize_done {cfg : Config AccountId} {n id : ℕ} {s : State AccountId L}
    {p : Proposal AccountId} (h : (onInitialize cfg n s).proposals.get id = some p)
    (hactive : p.status = .active) : currentBlock n < p.endBlock := by
  rcases enactAll_get h with hdecided | ⟨hout, hget⟩
  · exact absurd hactive hdecided
  · by_contra hend
    exact hout p (mem_expired.mpr ⟨hget, hactive, Nat.not_lt.mp hend⟩)

theorem executeProposal_isOk {cfg : Config AccountId} {ctx : Context AccountId} {who : AccountId}
    {id : ℕ} {p : Proposal AccountId} {s : State AccountId L} (horigin : ctx.origin = .signed who)
    (h : Due (currentBlock ctx.now) s id p) :
    executeProposal cfg ctx id s = .ok (enactProposal cfg id p s) := by
  obtain ⟨hget, hactive, hend⟩ := h
  simp only [executeProposal, ensureSigned_bind_eq_ok, required_bind_eq_ok, ensure_bind_eq_ok,
    pure_eq_ok]
  exact ⟨who, horigin, p, hget, hactive, hend, rfl⟩

/-- **The start of a block executes the proposals as a caller would**, one after the other. -/
theorem onInitialize_eq_manual {cfg : Config AccountId} {ctx : Context AccountId}
    {who : AccountId} (s : State AccountId L) (horigin : ctx.origin = .signed who) :
    ((expired cfg (currentBlock ctx.now) s).map Prod.fst).foldlM
      (fun s id => executeProposal cfg ctx id s) s = .ok (onInitialize cfg ctx.now s) := by
  have hall : ∀ (es : List (ℕ × Proposal AccountId)) (s : State AccountId L),
      (es.map Prod.fst).Nodup → (∀ e ∈ es, Due (currentBlock ctx.now) s e.1 e.2) →
        (es.map Prod.fst).foldlM (fun s id => executeProposal cfg ctx id s) s =
          .ok (enactAll cfg es s) := by
    intro es
    induction es with
    | nil => exact fun s _ _ => rfl
    | cons e es ih =>
      intro s hnodup hdue
      obtain ⟨hfresh, hnodup⟩ := List.nodup_cons.mp hnodup
      rw [List.map_cons, List.foldlM_cons,
        executeProposal_isOk horigin (hdue e List.mem_cons_self)]
      refine ih _ hnodup fun e' he' => (hdue e' (List.mem_cons_of_mem _ he')).of_enact ?_
      intro hid
      exact hfresh (hid ▸ List.mem_map_of_mem he')
  exact hall _ s (nodup_expired cfg _ s) fun e he => mem_expired.mp he

end Payments

/-! ### Transitions -/

/-- An active citizen. -/
def ActiveCitizen (citizens : AccountId → Option CitizenRecord) (who : AccountId)
    (record : CitizenRecord) : Prop :=
  citizens who = some record ∧ record.status = .active

theorem validatedCitizen_bind_eq_ok {β : Type} {ctx : Context AccountId} {who : AccountId}
    {k : CitizenRecord → Result β} {b : β} :
    (validatedCitizen ctx who >>= k) = .ok b ↔
      ∃ record, ActiveCitizen ctx.citizens who record ∧ k record = .ok b := by
  simp only [validatedCitizen, bind_assoc, required_bind_eq_ok, ensure_bind_eq_ok, pure_bind,
    ActiveCitizen, and_assoc]

/-- A proposal before any vote. -/
def newProposal (proposer : AccountId) (nationId amount : ℕ) (beneficiary : AccountId)
    (endBlock : ℕ) (constitutionalBasis : Option Bytes32) : Proposal AccountId :=
  { proposer := proposer
    nationId := nationId
    amount := amount
    beneficiary := beneficiary
    votesFor := 0
    votesAgainst := 0
    status := .active
    endBlock := endBlock
    constitutionalBasis := constitutionalBasis }

/-- A bill before any vote. -/
def newBill (proposer : AccountId) (billHash : Bytes32) (industryTag : BoundedVec UInt8 64) :
    ExpertBill AccountId :=
  { proposer := proposer
    billHash := billHash
    industryTag := industryTag
    initiativeType := .expertInitiative
    status := .active
    votesFor := 0
    votesAgainst := 0 }

/-- Whether a bill has passed. -/
def ExpertBill.passed (b : ExpertBill AccountId) : Bool := decide (2 < b.votesFor)

/-- A bill that is finalised. -/
def ExpertBill.finalised (b : ExpertBill AccountId) : ExpertBill AccountId :=
  { b with status := if b.passed then .executed else .rejected }

section Transitions

variable [DecidableEq AccountId] [Currency AccountId L] [EscrowCurrency AccountId L]

/-- What an accepted input goes through and does. -/
inductive Transition (cfg : Config AccountId) (w : World AccountId L) :
    Input AccountId L → World AccountId L → Prop
  | createProposal (caller citizens isAcademician nationId amount beneficiary basis citizen)
    (hcitizen : ActiveCitizen citizens caller citizen) (hnation : citizen.nationId = nationId) :
    Transition cfg w
      (.call (.signed caller) citizens isAcademician
        (.createProposal nationId amount beneficiary basis))
      { w with
        proposals := w.proposals.insert w.nextProposalId
          (newProposal caller nationId amount beneficiary
            (saturatingAdd u32Max w.now cfg.votingPeriod) basis)
        nextProposalId := saturatingAdd u32Max w.nextProposalId 1 }
  | vote (caller citizens isAcademician id approve citizen p)
    (hcitizen : ActiveCitizen citizens caller citizen) (hget : w.proposals.get id = some p)
    (hactive : p.status = .active) (hopen : w.now < p.endBlock)
    (hnation : citizen.nationId = p.nationId)
    (hfirst : w.hasVoted.getD (id, caller) false = false) :
    Transition cfg w (.call (.signed caller) citizens isAcademician (.vote id approve))
      { w with
        hasVoted := w.hasVoted.insert (id, caller) true
        proposals := w.proposals.insert id (p.withVote approve) }
  | executeProposal (caller citizens isAcademician id p) (hdue : Due w.now w.toState id p) :
    Transition cfg w (.call (.signed caller) citizens isAcademician (.executeProposal id))
      { w with toState := enactProposal cfg id p w.toState }
  | proposeExpertBill (caller citizens isAcademician billHash tag citizen boundedTag ledger)
    (hcitizen : ActiveCitizen citizens caller citizen) (hacademy : isAcademician caller = true)
    (htag : BoundedVec.tryFrom 64 tag = some boundedTag)
    (hreserve : ReservableCurrency.reserve w.ledger caller cfg.expertBillDeposit = .ok ledger) :
    Transition cfg w
      (.call (.signed caller) citizens isAcademician (.proposeExpertBill billHash tag))
      { w with
        ledger := ledger
        expertBills := w.expertBills.insert w.nextExpertBillId (newBill caller billHash boundedTag)
        nextExpertBillId := saturatingAdd u32Max w.nextExpertBillId 1
        expertBillDepositor :=
          w.expertBillDepositor.insert w.nextExpertBillId (caller, cfg.expertBillDeposit) }
  | voteOnExpertBill (caller citizens isAcademician billId approve citizen b)
    (hcitizen : ActiveCitizen citizens caller citizen)
    (hleader : isAtLeastArbadLeader citizen.role = true)
    (hget : w.expertBills.get billId = some b) (hactive : b.status = .active)
    (hfirst : w.hasVotedOnBill.getD (billId, caller) false = false) :
    Transition cfg w
      (.call (.signed caller) citizens isAcademician (.voteOnExpertBill billId approve))
      { w with
        hasVotedOnBill := w.hasVotedOnBill.insert (billId, caller) true
        expertBills := w.expertBills.insert billId (b.withVote approve) }
  | executeExpertBill (caller citizens isAcademician billId b)
    (hget : w.expertBills.get billId = some b) (hactive : b.status = .active) :
    Transition cfg w
      (.call (.signed caller) citizens isAcademician (.executeExpertBill billId))
      { w with
        expertBills := w.expertBills.insert billId b.finalised
        expertBillDepositor := w.expertBillDepositor.remove billId
        ledger := settleDeposit b.passed (w.expertBillDepositor.get billId) w.ledger }
  | elsewhere (ledger) : Transition cfg w (.elsewhere ledger) { w with ledger := ledger }
  | block (h : w.now + 1 ≤ u32Max) :
    Transition cfg w .block
      { toState := onInitialize cfg (w.now + 1) w.toState, now := w.now + 1, now_le := h }

/-- **Every accepted input is a transition.** -/
theorem step_transition {cfg : Config AccountId} {w w' : World AccountId L}
    {x : Input AccountId L} (h : step cfg x w = .ok w') : Transition cfg w x w' := by
  cases x with
  | elsewhere ledger =>
    cases h
    exact .elsewhere ledger
  | block =>
    -- there is a next block while its number is in range
    dsimp only [step] at h
    split at h
    · next hfits =>
      cases h
      exact .block hfits
    · cases h
  | call origin citizens isAcademician c =>
    simp only [step, bind_eq_ok, pure_eq_ok] at h
    obtain ⟨s, hs, rfl⟩ := h
    cases c with
    | createProposal nationId amount beneficiary basis =>
      simp only [dispatch, createProposal, ensureSigned_bind_eq_ok, validatedCitizen_bind_eq_ok,
        ensure_bind_eq_ok, pure_eq_ok, World.currentBlock_now] at hs
      obtain ⟨caller, rfl, citizen, hcitizen, hnation, rfl⟩ := hs
      exact .createProposal caller citizens isAcademician nationId amount beneficiary basis citizen
        hcitizen hnation
    | vote id approve =>
      simp only [dispatch, vote, ensureSigned_bind_eq_ok, validatedCitizen_bind_eq_ok,
        required_bind_eq_ok, ensure_bind_eq_ok, pure_eq_ok, World.currentBlock_now] at hs
      obtain ⟨caller, rfl, citizen, hcitizen, p, hget, hactive, hopen, hnation, hfirst, rfl⟩ := hs
      exact .vote caller citizens isAcademician id approve citizen p hcitizen hget hactive hopen
        hnation hfirst
    | executeProposal id =>
      simp only [dispatch, executeProposal, ensureSigned_bind_eq_ok, required_bind_eq_ok,
        ensure_bind_eq_ok, pure_eq_ok, World.currentBlock_now] at hs
      obtain ⟨caller, rfl, p, hget, hactive, hend, rfl⟩ := hs
      exact .executeProposal caller citizens isAcademician id p ⟨hget, hactive, hend⟩
    | proposeExpertBill billHash tag =>
      simp only [dispatch, proposeExpertBill, ensureSigned_bind_eq_ok, validatedCitizen_bind_eq_ok,
        required_bind_eq_ok, ensure_bind_eq_ok, mapError_bind_eq_ok, pure_eq_ok] at hs
      obtain ⟨caller, rfl, citizen, hcitizen, hacademy, boundedTag, htag, ledger, hreserve, rfl⟩ :=
        hs
      exact .proposeExpertBill caller citizens isAcademician billHash tag citizen boundedTag ledger
        hcitizen hacademy htag hreserve
    | voteOnExpertBill billId approve =>
      simp only [dispatch, voteOnExpertBill, ensureSigned_bind_eq_ok, validatedCitizen_bind_eq_ok,
        required_bind_eq_ok, ensure_bind_eq_ok, pure_eq_ok] at hs
      obtain ⟨caller, rfl, citizen, hcitizen, hleader, b, hget, hactive, hfirst, rfl⟩ := hs
      exact .voteOnExpertBill caller citizens isAcademician billId approve citizen b hcitizen
        hleader hget hactive hfirst
    | executeExpertBill billId =>
      simp only [dispatch, executeExpertBill, ensureSigned_bind_eq_ok, required_bind_eq_ok,
        ensure_bind_eq_ok, pure_eq_ok] at hs
      obtain ⟨caller, rfl, b, hget, hactive, rfl⟩ := hs
      exact .executeExpertBill caller citizens isAcademician billId b hget hactive

end Transitions

end KhuralGovernance
