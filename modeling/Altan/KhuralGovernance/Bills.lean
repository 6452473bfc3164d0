import Altan.Foundation.Accounting
import Altan.Foundation.Deposits
import Altan.Foundation.Marks
import Altan.Runtime.Constants

/-!
# The deposits of expert bills

The deposits of all active bills of an academician are in one reserved balance. Each is recorded
under the number of its bill, and settled with the bill, in full since the others are backed too:
given back when the bill is executed, burned when it is rejected. The numbers and the tallies do not
wrap but stop at their bound, so this is lost once a number is given a second time, or a vote is not
counted.

## Main definitions

* `Event`, `recordDeposit`: what becomes of the deposits
* `LawfulBill`, `Lawful`: the deposits are backed, recorded and settled once, and the tallies count
  the voters
* `Undisturbed`: other modules leave what is reserved
* `Counted`: a bill finds a free number, and a vote a tally below the bound

## Main results

* `lawful_step_iff`: one step
* `bills_lawful_iff`: the runs that are lawful
-/

open Bounded Dispatch Ledger TransitionSystem Identity Deposits

namespace KhuralGovernance

variable {AccountId L : Type}

/-! ### What becomes of the deposits -/

/-- What becomes of a deposit, with the amount that is moved. -/
inductive Event (AccountId : Type)
  | reserved (who : AccountId) (amount : ℕ)
  | returned (who : AccountId) (amount : ℕ)
  | burned (who : AccountId) (amount : ℕ)
  deriving DecidableEq

/-- What has become of the deposit of each bill. -/
abbrev History (AccountId : Type) : Type := EventLog ℕ (Event AccountId)

/-- The deposit of a bill that is not decided. -/
def pending (cfg : Config AccountId) (b : ExpertBill AccountId) : Option (AccountId × ℕ) :=
  if b.status = .active then some (b.proposer, cfg.expertBillDeposit) else none

/-- What must have become of the deposit of a bill. -/
def fate (cfg : Config AccountId) (b : ExpertBill AccountId) : List (Event AccountId) :=
  .reserved b.proposer cfg.expertBillDeposit ::
    match b.status with
    | .active => []
    | .executed => [.returned b.proposer cfg.expertBillDeposit]
    | .rejected => [.burned b.proposer cfg.expertBillDeposit]

section Bills

variable [DecidableEq AccountId] [Currency AccountId L] [EscrowCurrency AccountId L]

/-- What an accepted input adds to the history. -/
def recordDeposit (cfg : Config AccountId) (w : World AccountId L) (x : Input AccountId L)
    (h : History AccountId) : History AccountId :=
  let l := w.ledger
  let l' := (exec (step cfg) x w).ledger
  match x with
  | .call (.signed who) _ _ (.proposeExpertBill ..) =>
    h.append w.nextExpertBillId (.reserved who (reservedBalance l' who - reservedBalance l who))
  | .call _ _ _ (.executeExpertBill billId) =>
    match w.expertBillDepositor.get billId, w.expertBills.get billId with
    | some (who, _), some b =>
      h.append billId
        (if b.passed then .returned who (freeBalance l' who - freeBalance l who)
        else .burned who (totalIssuance l - totalIssuance l'))
    | _, _ => h
  | _ => h

/-- The deposit of a bill is recorded while the bill is active, has been settled once and in full
when it is decided, and the tallies count the voters. -/
structure LawfulBill (cfg : Config AccountId) (s : State AccountId L) (h : History AccountId)
    (billId : ℕ) : Prop where
  recorded : s.expertBillDepositor.get billId = (s.expertBills.get billId).bind (pending cfg)
  settled : h billId = (s.expertBills.get billId).elim [] (fate cfg)
  tallied : ∀ b, s.expertBills.get billId = some b →
    b.votesFor + b.votesAgainst = (s.hasVotedOnBill.marked billId).card

/-- All bills are lawful, and everybody has reserved the recorded deposits. -/
structure Lawful (cfg : Config AccountId) (s : State AccountId L) (h : History AccountId) :
    Prop where
  bills : ∀ billId, LawfulBill cfg s h billId
  backed : Backed some s.expertBillDepositor s.ledger

/-- Nobody has voted on a bill that is not submitted. -/
def Unvoted (s : State AccountId L) : Prop :=
  ∀ billId, s.expertBills.get billId = none → s.hasVotedOnBill.marked billId = ∅

omit [EscrowCurrency AccountId L] in
/-- Other modules leave what is reserved. -/
def Undisturbed (w : World AccountId L) : Input AccountId L → Prop
  | .elsewhere ledger => ∀ a, reservedBalance w.ledger a ≤ reservedBalance ledger a
  | _ => True

omit [DecidableEq AccountId] [Currency AccountId L] [EscrowCurrency AccountId L] in
/-- A bill finds a free number, and a vote a tally below the bound. -/
def Counted (w : World AccountId L) : Input AccountId L → Prop
  | .call _ _ _ (.proposeExpertBill ..) => w.expertBills.get w.nextExpertBillId = none
  | .call _ _ _ (.voteOnExpertBill billId approve) =>
    ∀ b, w.expertBills.get billId = some b →
      (if approve then b.votesFor else b.votesAgainst) < u32Max
  | _ => True

instance decidableCounted (w : World AccountId L) :
    (x : Input AccountId L) → Decidable (Counted w x)
  | .call _ _ _ (.proposeExpertBill ..) => inferInstanceAs (Decidable (_ = none))
  | .call _ _ _ (.voteOnExpertBill billId _) =>
    match hget : w.expertBills.get billId with
    | some _ => decidable_of_iff _ (StorageMap.forall_get_iff hget).symm
    | none => isTrue fun b hb => by rw [hget] at hb; cases hb
  | .call _ _ _ (.createProposal ..) => isTrue trivial
  | .call _ _ _ (.vote ..) => isTrue trivial
  | .call _ _ _ (.executeProposal _) => isTrue trivial
  | .call _ _ _ (.executeExpertBill _) => isTrue trivial
  | .elsewhere _ => isTrue trivial
  | .block => isTrue trivial

variable {cfg : Config AccountId} {w w' : World AccountId L} {s s' : State AccountId L}
  {x : Input AccountId L} {h h' : History AccountId} {billId : ℕ} {b : ExpertBill AccountId}

/-! ### One step -/

omit [Currency AccountId L] [EscrowCurrency AccountId L] in
/-- A bill that an input is not about. -/
theorem LawfulBill.congr (hl : LawfulBill cfg s h billId)
    (hbill : s'.expertBills.get billId = s.expertBills.get billId)
    (hdeposit : s'.expertBillDepositor.get billId = s.expertBillDepositor.get billId)
    (hmarked : s'.hasVotedOnBill.marked billId = s.hasVotedOnBill.marked billId)
    (hhistory : h' billId = h billId) : LawfulBill cfg s' h' billId where
  recorded := by rw [hbill, hdeposit, hl.recorded]
  settled := by rw [hbill, hhistory, hl.settled]
  tallied := by
    rw [hbill, hmarked]
    exact hl.tallied

omit [EscrowCurrency AccountId L] in
/-- An input that writes no records of bills and leaves what is reserved. -/
theorem Lawful.of_aside (hl : Lawful cfg s h) (haside : Aside s s') : Lawful cfg s' h where
  bills billId := (hl.bills billId).congr (by rw [haside.expertBills])
    (by rw [haside.expertBillDepositor]) (by rw [haside.hasVotedOnBill]) rfl
  backed := by
    rw [haside.expertBillDepositor]
    exact hl.backed.mono fun a => (haside.reserved a).ge

omit [DecidableEq AccountId] in
/-- A vote is counted exactly when the tally is below the bound. -/
theorem withVote_counted_iff {approve : Bool} :
    (b.withVote approve).votesFor + (b.withVote approve).votesAgainst =
        b.votesFor + b.votesAgainst + 1 ↔
      (if approve then b.votesFor else b.votesAgainst) < u32Max := by
  cases approve with
  | true =>
    change saturatingAdd u32Max b.votesFor 1 + b.votesAgainst = _ ↔ b.votesFor < u32Max
    unfold saturatingAdd
    omega
  | false =>
    change b.votesFor + saturatingAdd u32Max b.votesAgainst 1 = _ ↔ b.votesAgainst < u32Max
    unfold saturatingAdd
    omega

omit [EscrowCurrency AccountId L] in
/-- A bill is submitted exactly under a free number. -/
theorem lawful_propose_iff (hl : Lawful cfg w.toState h) (hu : Unvoted w.toState)
    {caller : AccountId} {billHash : Bytes32} {tag : BoundedVec UInt8 64} {ledger : L}
    (hreserved : Reserved w.ledger ledger caller cfg.expertBillDeposit) :
    Lawful cfg
        { w.toState with
          ledger := ledger
          expertBills := w.expertBills.insert w.nextExpertBillId (newBill caller billHash tag)
          nextExpertBillId := saturatingAdd u32Max w.nextExpertBillId 1
          expertBillDepositor :=
            w.expertBillDepositor.insert w.nextExpertBillId (caller, cfg.expertBillDeposit) }
        (h.append w.nextExpertBillId (.reserved caller cfg.expertBillDeposit)) ↔
      w.expertBills.get w.nextExpertBillId = none := by
  constructor
  · intro hl'
    -- the history of the number has one event, so it had none before
    have hsettled := (hl'.bills w.nextExpertBillId).settled
    rw [StorageMap.get_insert_self] at hsettled
    have hnil : h w.nextExpertBillId = [] := EventLog.eq_nil_of_append hsettled
    have hbefore := (hl.bills w.nextExpertBillId).settled
    rw [hnil] at hbefore
    cases hget : w.expertBills.get w.nextExpertBillId with
    | none => rfl
    | some b =>
      rw [hget] at hbefore
      cases hbefore
  · intro hfree
    refine ⟨fun billId => ?_, ?_⟩
    · by_cases hb : billId = w.nextExpertBillId
      · subst hb
        have hnil := (hl.bills w.nextExpertBillId).settled
        rw [hfree] at hnil
        refine ⟨?_, ?_, ?_⟩
        · rw [StorageMap.get_insert_self, StorageMap.get_insert_self]
          rfl
        · rw [EventLog.append_self, StorageMap.get_insert_self, hnil]
          rfl
        · rw [StorageMap.forall_get_iff StorageMap.get_insert_self, hu _ hfree]
          rfl
      · exact (hl.bills billId).congr (StorageMap.get_insert_of_ne hb)
          (StorageMap.get_insert_of_ne hb) rfl (EventLog.append_of_ne hb)
    · refine hl.backed.add ?_ rfl hreserved
      rw [(hl.bills _).recorded, hfree]
      rfl

omit [EscrowCurrency AccountId L] in
/-- A vote is lawful exactly when it is counted. -/
theorem lawful_vote_iff (hl : Lawful cfg w.toState h) {caller : AccountId} {approve : Bool}
    (hget : w.expertBills.get billId = some b)
    (hfirst : w.hasVotedOnBill.getD (billId, caller) false = false) :
    Lawful cfg
        { w.toState with
          hasVotedOnBill := w.hasVotedOnBill.insert (billId, caller) true
          expertBills := w.expertBills.insert billId (b.withVote approve) } h ↔
      (if approve then b.votesFor else b.votesAgainst) < u32Max := by
  have htallied := (hl.bills billId).tallied b hget
  have hcard := StorageMap.card_marked_insert hfirst
  have hrecorded := (hl.bills billId).recorded
  have hsettled := (hl.bills billId).settled
  rw [hget, Option.bind_some] at hrecorded
  rw [hget, Option.elim_some] at hsettled
  -- a vote changes the tallies of the bill only
  have hpending : pending cfg (b.withVote approve) = pending cfg b := by cases approve <;> rfl
  have hfate : fate cfg (b.withVote approve) = fate cfg b := by cases approve <;> rfl
  rw [← withVote_counted_iff]
  constructor
  · intro hl'
    rw [(hl'.bills billId).tallied _ StorageMap.get_insert_self, htallied]
    exact hcard
  · intro hcounted
    refine ⟨fun c => ?_, hl.backed⟩
    by_cases hc : c = billId
    · subst hc
      refine ⟨?_, ?_, ?_⟩
      · rw [StorageMap.get_insert_self, Option.bind_some, hpending]
        exact hrecorded
      · rw [StorageMap.get_insert_self, Option.elim_some, hfate]
        exact hsettled
      · rw [StorageMap.forall_get_iff StorageMap.get_insert_self, hcounted, htallied]
        exact hcard.symm
    · exact (hl.bills c).congr (StorageMap.get_insert_of_ne hc) rfl
        (StorageMap.marked_insert_of_ne hc) rfl

omit [DecidableEq AccountId] in
/-- What settling a deposit that is reserved does. -/
theorem settleDeposit_of_le {l : L} {who : AccountId} {amount : ℕ}
    (hle : amount ≤ reservedBalance l who) :
    Released l (settleDeposit true (some (who, amount)) l) who amount ∧
      Slashed l (settleDeposit false (some (who, amount)) l) who amount := by
  have hreleased := EscrowCurrency.unreserve_released l who amount
  have hslashed := EscrowCurrency.slashReserved_slashed l who amount
  rw [Nat.min_eq_left hle] at hreleased hslashed
  exact ⟨hreleased, hslashed⟩

omit [EscrowCurrency AccountId L] in
/-- The deposit of an active bill is recorded under its number, and reserved. -/
theorem Lawful.deposit (hl : Lawful cfg s h) (hget : s.expertBills.get billId = some b)
    (hactive : b.status = .active) :
    s.expertBillDepositor.get billId = some (b.proposer, cfg.expertBillDeposit) ∧
      cfg.expertBillDeposit ≤ reservedBalance s.ledger b.proposer := by
  have hdeposit : s.expertBillDepositor.get billId = some (b.proposer, cfg.expertBillDeposit) := by
    rw [(hl.bills billId).recorded, hget, Option.bind_some, pending, if_pos hactive]
  exact ⟨hdeposit, hl.backed.claim_le hdeposit rfl⟩

/-- The whole of a reserved deposit is given back or burned. -/
theorem recordDeposit_execute {caller : AccountId} {citizens : AccountId → Option CitizenRecord}
    {isAcademician : AccountId → Bool}
    (hs : step cfg (.call (.signed caller) citizens isAcademician (.executeExpertBill billId)) w =
      .ok w') (hget : w.expertBills.get billId = some b) {who : AccountId} {amount : ℕ}
    (hdeposit : w.expertBillDepositor.get billId = some (who, amount))
    (hle : amount ≤ reservedBalance w.ledger who)
    (hledger : w'.ledger = settleDeposit b.passed (some (who, amount)) w.ledger) :
    recordDeposit cfg w
        (.call (.signed caller) citizens isAcademician (.executeExpertBill billId)) h =
      h.append billId (if b.passed then .returned who amount else .burned who amount) := by
  obtain ⟨hreleased, hslashed⟩ := settleDeposit_of_le hle
  unfold recordDeposit
  rw [exec_ok hs]
  dsimp only
  rw [hdeposit, hget, hledger]
  dsimp only
  congr 1
  cases b.passed with
  | true => rw [if_pos rfl, if_pos rfl, hreleased.free, Nat.add_sub_cancel_left]
  | false =>
    rw [if_neg Bool.false_ne_true, if_neg Bool.false_ne_true, ← hslashed.issuance,
      Nat.add_sub_cancel_left]

/-- A bill that is finalised settles its deposit, in full. -/
theorem Lawful.execute (hl : Lawful cfg w.toState h) (hget : w.expertBills.get billId = some b)
    (hactive : b.status = .active) {caller : AccountId}
    {citizens : AccountId → Option CitizenRecord} {isAcademician : AccountId → Bool}
    (hs : step cfg (.call (.signed caller) citizens isAcademician (.executeExpertBill billId)) w =
      .ok { w with
        expertBills := w.expertBills.insert billId b.finalised
        expertBillDepositor := w.expertBillDepositor.remove billId
        ledger := settleDeposit b.passed (w.expertBillDepositor.get billId) w.ledger }) :
    Lawful cfg
      { w.toState with
        expertBills := w.expertBills.insert billId b.finalised
        expertBillDepositor := w.expertBillDepositor.remove billId
        ledger := settleDeposit b.passed (w.expertBillDepositor.get billId) w.ledger }
      (recordDeposit cfg w
        (.call (.signed caller) citizens isAcademician (.executeExpertBill billId)) h) := by
  obtain ⟨hdeposit, hfull⟩ := hl.deposit hget hactive
  obtain ⟨hreleased, hslashed⟩ := settleDeposit_of_le hfull
  have hbefore := (hl.bills billId).settled
  rw [hget, Option.elim_some, fate, hactive] at hbefore
  rw [recordDeposit_execute hs hget hdeposit hfull (by rw [hdeposit])]
  refine ⟨fun c => ?_, ?_⟩
  · by_cases hc : c = billId
    · subst hc
      refine ⟨?_, ?_, ?_⟩
      · -- a bill that is decided has no deposit recorded
        rw [StorageMap.get_remove_self, StorageMap.get_insert_self, Option.bind_some, pending,
          ExpertBill.finalised]
        cases b.passed <;> rfl
      · rw [EventLog.append_self, StorageMap.get_insert_self, Option.elim_some, hbefore, fate,
          ExpertBill.finalised]
        cases b.passed <;> rfl
      · rw [StorageMap.forall_get_iff StorageMap.get_insert_self]
        exact (hl.bills c).tallied b hget
    · exact (hl.bills c).congr (StorageMap.get_insert_of_ne hc) (StorageMap.get_remove_of_ne hc)
        rfl (EventLog.append_of_ne hc)
  · -- the deposits of the others are reserved as before
    rw [hdeposit]
    refine hl.backed.remove hdeposit rfl ?_ ?_
    · cases b.passed with
      | true => exact hreleased.reserved.ge
      | false => exact hslashed.reserved.ge
    · intro c hc
      cases b.passed with
      | true => exact (hreleased.othersReserved c hc).ge
      | false => exact (hslashed.othersReserved c hc).ge

/-- **An input is lawful exactly when it finds a free number, or a tally below the bound.** -/
theorem lawful_step_iff (hu : Unvoted w.toState) (hl : Lawful cfg w.toState h)
    (hx : Undisturbed w x) (hs : step cfg x w = .ok w') :
    Lawful cfg w'.toState (recordDeposit cfg w x h) ↔ Counted w x := by
  cases step_transition hs with
  | proposeExpertBill caller citizens isAcademician billHash tag citizen boundedTag ledger _ _ _
      hreserve =>
    have hreserved := ReservableCurrency.reserve_ok _ _ _ _ hreserve
    have hrecord : recordDeposit cfg w (.call (.signed caller) citizens isAcademician
        (.proposeExpertBill billHash tag)) h =
          h.append w.nextExpertBillId (.reserved caller cfg.expertBillDeposit) := by
      unfold recordDeposit
      rw [exec_ok hs]
      dsimp only
      rw [hreserved.reserved, Nat.add_sub_cancel_left]
    rw [hrecord]
    exact lawful_propose_iff hl hu hreserved
  | voteOnExpertBill caller citizens isAcademician billId approve citizen b _ _ hget _ hfirst =>
    refine (lawful_vote_iff hl hget hfirst).trans ?_
    exact (StorageMap.forall_get_iff
      (p := fun b => (if approve then b.votesFor else b.votesAgainst) < u32Max) hget).symm
  | executeExpertBill caller citizens isAcademician billId b hget hactive =>
    exact iff_of_true (hl.execute hget hactive hs) trivial
  | elsewhere ledger =>
    exact iff_of_true ⟨fun billId => (hl.bills billId).congr rfl rfl rfl rfl, hl.backed.mono hx⟩
      trivial
  | block => exact iff_of_true (hl.of_aside (onInitialize_aside cfg _ w.toState)) trivial
  | executeProposal _ _ _ id p =>
    exact iff_of_true (hl.of_aside (enactProposal_aside cfg id p w.toState)) trivial
  | createProposal =>
    exact iff_of_true ⟨fun billId => (hl.bills billId).congr rfl rfl rfl rfl, hl.backed⟩ trivial
  | vote =>
    exact iff_of_true ⟨fun billId => (hl.bills billId).congr rfl rfl rfl rfl, hl.backed⟩ trivial

theorem unvoted_step (hu : Unvoted w.toState) (hs : step cfg x w = .ok w') :
    Unvoted w'.toState := by
  have haside : ∀ {t : State AccountId L}, Aside w.toState t → Unvoted t := by
    intro t ht billId hnone
    rw [ht.expertBills] at hnone
    rw [ht.hasVotedOnBill]
    exact hu billId hnone
  cases step_transition hs with
  | proposeExpertBill =>
    intro billId hnone
    exact hu billId (StorageMap.get_insert_eq_none.mp hnone).2
  | voteOnExpertBill =>
    intro billId hnone
    obtain ⟨hne, hnone⟩ := StorageMap.get_insert_eq_none.mp hnone
    exact (StorageMap.marked_insert_of_ne hne).trans (hu billId hnone)
  | executeExpertBill =>
    intro billId hnone
    exact hu billId (StorageMap.get_insert_eq_none.mp hnone).2
  | block => exact haside (onInitialize_aside cfg _ w.toState)
  | executeProposal _ _ _ id p => exact haside (enactProposal_aside cfg id p w.toState)
  | createProposal => exact hu
  | vote => exact hu
  | elsewhere => exact hu

omit [EscrowCurrency AccountId L] in
theorem lawful_genesis (ledger : L) :
    Lawful cfg (genesis ledger : State AccountId L) fun _ => [] where
  bills billId := by
    refine ⟨rfl, rfl, fun b hb => ?_⟩
    simp [genesis] at hb
  backed a := Nat.zero_le _

/-- While other modules leave what is reserved, the deposits are lawful throughout exactly the runs
in which every bill finds a free number and every vote a tally below the bound. -/
theorem bills_lawful_iff (cfg : Config AccountId) (ledger : L) (now : ℕ) (hnow : now ≤ u32Max)
    (xs : List (Input AccountId L))
    (hothers : Along (step cfg) Undisturbed xs (World.genesis ledger now hnow)) :
    Throughout (recording (recordDeposit cfg) (step cfg)) (fun t => Lawful cfg t.1.toState t.2) xs
        (World.genesis ledger now hnow, fun _ => []) ↔
      Along (step cfg) Counted xs (World.genesis ledger now hnow) := by
  set w₀ : World AccountId L := World.genesis ledger now hnow
  have hguard : Along (recording (recordDeposit cfg) (step cfg)) (fun t x => Undisturbed t.1 x) xs
      (w₀, fun _ => []) := along_recording.mpr hothers
  have hcounted : Along (recording (recordDeposit cfg) (step cfg)) (fun t x => Counted t.1 x) xs
      (w₀, fun _ => []) ↔ Along (step cfg) Counted xs w₀ := along_recording
  rw [← hcounted]
  refine throughout_iff_along_within (J := fun t => Unvoted t.1.toState) ?_ ?_ ?_
    (lawful_genesis ledger) hguard
  · intro x t t' hu _ ht
    exact unvoted_step hu (recording_eq_ok.mp ht).1
  · intro x t t' hu hl hx ht
    obtain ⟨hs, hrecord⟩ := recording_eq_ok.mp ht
    rw [hrecord]
    exact lawful_step_iff hu hl hx hs
  · exact fun billId _ => StorageMap.marked_empty

end Bills

/-! ### More bills than numbers -/

section Overwritten

/-- The account 7 submits a bill. -/
def submission : Input ℕ (Runtime.EscrowLedger ℕ) :=
  Runtime.amongLeaders 7 (.proposeExpertBill (.ofByte 0) [])

/-- The account 7 has the deposits of three bills more than the numbers hold, and a unit. -/
def endowed : World ℕ (Runtime.EscrowLedger ℕ) :=
  World.genesis (ProvidedBalances.ofFree
    [(7, (u32Max + 3) * Runtime.khural.expertBillDeposit + CentralBank.unit)]) 0 (Nat.zero_le _)

/-- The state after `n` bills: the numbers have stopped at the last, which has been given to all
bills from then on. -/
structure Flooded (n : ℕ) (t : World ℕ (Runtime.EscrowLedger ℕ) × History ℕ) : Prop where
  next : t.1.nextExpertBillId = min n u32Max
  last : (t.2 u32Max).length = n - u32Max
  funds : freeBalance t.1.ledger 7 + n * Runtime.khural.expertBillDeposit =
    (u32Max + 3) * Runtime.khural.expertBillDeposit + CentralBank.unit
  locks : t.1.ledger.locks = ∅

theorem flooded_zero : Flooded 0 (endowed, fun _ => []) where
  next := rfl
  last := rfl
  funds := by decide +kernel
  locks := by decide +kernel

/-- The next bill is submitted. -/
theorem flooded_succ {n : ℕ} {t : World ℕ (Runtime.EscrowLedger ℕ) × History ℕ}
    (hf : Flooded n t) (hn : n < u32Max + 3) :
    ∃ t', recording (recordDeposit Runtime.khural) (step Runtime.khural) submission t = .ok t' ∧
      Flooded (n + 1) t' := by
  obtain ⟨w, h⟩ := t
  -- there is another deposit, and what keeps the account alive
  have hafford : Runtime.khural.expertBillDeposit + Runtime.existentialDeposit ≤
      freeBalance w.ledger 7 := by
    have hfunds := hf.funds
    have hed : Runtime.existentialDeposit ≤ CentralBank.unit := by decide
    have hmul : (n + 1) * Runtime.khural.expertBillDeposit ≤
        (u32Max + 3) * Runtime.khural.expertBillDeposit := Nat.mul_le_mul_right _ hn
    rw [Nat.add_mul, Nat.one_mul] at hmul
    dsimp only at hfunds
    omega
  have hunlocked : w.ledger.locks = ∅ := hf.locks
  obtain ⟨ledger, hreserve, hlocks⟩ := ProvidedBalances.reserve_isOk hunlocked hafford
  have hreserved := ReservableCurrency.reserve_ok _ _ _ _ hreserve
  have hs : step Runtime.khural submission w = .ok { w with
      ledger := ledger
      expertBills := w.expertBills.insert w.nextExpertBillId
        (newBill 7 (.ofByte 0) ⟨[], Nat.zero_le _⟩)
      nextExpertBillId := saturatingAdd u32Max w.nextExpertBillId 1
      expertBillDepositor := w.expertBillDepositor.insert w.nextExpertBillId
        (7, Runtime.khural.expertBillDeposit) } := by
    simp only [submission, Runtime.amongLeaders, step, bind_eq_ok, pure_eq_ok, dispatch,
      proposeExpertBill]
    refine ⟨_, ⟨7, rfl, Runtime.arbadLeader 7, rfl, (), rfl, ⟨[], Nat.zero_le _⟩, rfl, ledger, ?_,
      rfl⟩, rfl⟩
    rw [hreserve]
    rfl
  refine ⟨(_, _), recording_eq_ok.mpr ⟨hs, rfl⟩, ?_, ?_, ?_, ?_⟩
  · change saturatingAdd u32Max w.nextExpertBillId 1 = _
    rw [show w.nextExpertBillId = min n u32Max from hf.next, saturatingAdd_min]
  · change (EventLog.append h w.nextExpertBillId _ u32Max).length = _
    rw [show w.nextExpertBillId = min n u32Max from hf.next]
    exact EventLog.length_append_last hf.last
  · have hfunds := hf.funds
    have hfree := hreserved.free
    dsimp only at hfunds ⊢
    rw [Nat.add_mul, Nat.one_mul]
    omega
  · exact hlocks

/-- Many bills are submitted. -/
theorem run_flooded : Flooded (u32Max + 3)
    (run (recording (recordDeposit Runtime.khural) (step Runtime.khural))
      (List.replicate (u32Max + 3) submission) (endowed, fun _ => [])) :=
  run_replicate flooded_zero (fun _ _ hn hf => flooded_succ hf hn) (u32Max + 3) (Nat.le_refl _)

theorem length_fate_le (cfg : Config ℕ) (b : ExpertBill ℕ) : (fate cfg b).length ≤ 2 := by
  unfold fate
  cases b.status with
  | active => exact Nat.le_succ 1
  | executed => exact Nat.le_refl 2
  | rejected => exact Nat.le_refl 2

/-- `2 ^ 32 + 2` bills are submitted: the last number is given to three of them, and the deposits of
two are not recorded any more. -/
theorem bill_overwritten :
    ¬ ∀ xs : List (Input ℕ (Runtime.EscrowLedger ℕ)),
      Along (step Runtime.khural) Undisturbed xs endowed →
        Throughout (recording (recordDeposit Runtime.khural) (step Runtime.khural))
          (fun t => Lawful Runtime.khural t.1.toState t.2) xs (endowed, fun _ => []) := by
  intro h
  have hothers : Along (step Runtime.khural) Undisturbed (List.replicate (u32Max + 3) submission)
      endowed := along_replicate (fun _ => trivial) _ _
  have hlast := run_flooded.last
  rw [((h _ hothers).last.bills u32Max).settled] at hlast
  cases hget : (run (recording (recordDeposit Runtime.khural) (step Runtime.khural))
      (List.replicate (u32Max + 3) submission)
      (endowed, fun _ => [])).1.expertBills.get u32Max with
  | none =>
    rw [hget, Option.elim_none] at hlast
    cases hlast
  | some b =>
    have hle := length_fate_le Runtime.khural b
    rw [hget, Option.elim_some] at hlast
    omega

end Overwritten

/-- Two bills of one academician, of which three leaders approve the first. -/
def twoBills : List (Input ℕ (Runtime.EscrowLedger ℕ)) :=
  [submission, submission] ++
    ([7, 8, 9].map fun who => Runtime.amongLeaders who (.voteOnExpertBill 0 true)) ++
      [Runtime.amongLeaders 5 (.executeExpertBill 0), Runtime.amongLeaders 5 (.executeExpertBill 1)]

/-- One deposit is given back, and one is burned. -/
theorem bills_lawful_iff_two :
    Throughout (recording (recordDeposit Runtime.khural) (step Runtime.khural))
      (fun t => Lawful Runtime.khural t.1.toState t.2) twoBills (endowed, fun _ => []) := by
  have hothers : Along (step Runtime.khural) Undisturbed twoBills endowed := by
    simp [twoBills, submission, Runtime.amongLeaders, Along, Undisturbed]
  refine (bills_lawful_iff Runtime.khural _ 0 (Nat.zero_le _) twoBills hothers).mpr ?_
  decide +kernel

end KhuralGovernance
