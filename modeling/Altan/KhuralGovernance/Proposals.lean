import Altan.Foundation.Accounting
import Altan.Foundation.Marks
import Altan.Runtime.Constants

/-!
# Treasury proposals

The tallies of a proposal count the accounts that have voted on it. They are final when the deadline
has come, and so is the decision once it is taken; no deadline is passed undecided. What a treasury
pays is one payment for each proposal of its nation that is executed.

## Main definitions

* `record`: the system with the payments out of the treasuries as its history
* `LawfulAt`: what is true of a proposal and of the payments for it
* `Settled`: what later states keep of the proposals
* `Moves`: what an input does to the balances

## Main results

* `keptAt_step`, `settled_step`, `moves_step`: one step
* `proposals_lawful`: a run
-/

open Bounded Dispatch Ledger TransitionSystem Identity

namespace KhuralGovernance

variable {AccountId L : Type}

/-- A proposal is made. -/
def Input.IsProposal : Input AccountId L → Prop
  | .call _ _ _ (.createProposal ..) => True
  | _ => False

instance : DecidablePred (Input.IsProposal : Input AccountId L → Prop)
  | .call _ _ _ (.createProposal ..) => isTrue trivial
  | .call _ _ _ (.vote ..) => isFalse id
  | .call _ _ _ (.executeProposal ..) => isFalse id
  | .call _ _ _ (.proposeExpertBill ..) => isFalse id
  | .call _ _ _ (.voteOnExpertBill ..) => isFalse id
  | .call _ _ _ (.executeExpertBill ..) => isFalse id
  | .elsewhere _ => isFalse id
  | .block => isFalse id

/-- A proposal counts one vote more, while its tallies are below the bound. -/
theorem withVote_tallies {p : Proposal AccountId} {approve : Bool}
    (h : p.votesFor + p.votesAgainst < u32Max) :
    (p.withVote approve).votesFor + (p.withVote approve).votesAgainst =
      p.votesFor + p.votesAgainst + 1 := by
  have hfor : saturatingAdd u32Max p.votesFor 1 = p.votesFor + 1 :=
    saturatingAdd_of_le (by omega)
  have hagainst : saturatingAdd u32Max p.votesAgainst 1 = p.votesAgainst + 1 :=
    saturatingAdd_of_le (by omega)
  cases approve with
  | true =>
    change saturatingAdd u32Max p.votesFor 1 + p.votesAgainst = _
    omega
  | false =>
    change p.votesFor + saturatingAdd u32Max p.votesAgainst 1 = _
    omega

theorem withVote_status (p : Proposal AccountId) (approve : Bool) :
    (p.withVote approve).status = p.status := by
  cases approve <;> rfl

variable [DecidableEq AccountId]

/-- The accounts that have voted on some proposal. -/
def State.voters (s : State AccountId L) : Finset AccountId := s.hasVoted.keys.image Prod.snd

theorem marked_subset_voters (s : State AccountId L) (id : ℕ) :
    s.hasVoted.marked id ⊆ s.voters := by
  unfold StorageMap.marked State.voters
  exact Finset.image_subset_image (Finset.filter_subset _ _)

/-! ### What is true of a proposal -/

section Lawful

variable [Currency AccountId L]

/-- What an accepted input pays out of the treasuries. -/
def paidBy (cfg : Config AccountId) (w : World AccountId L) :
    Input AccountId L → List (Payment AccountId)
  | .call _ _ _ (.executeProposal id) =>
    ((w.proposals.get id).bind fun p => payment cfg id p w.toState).toList
  | .block => hookPayments cfg (w.now + 1) w.toState
  | _ => []

omit [DecidableEq AccountId] in
theorem paidBy_executeProposal {cfg : Config AccountId} {w : World AccountId L}
    {origin : Origin AccountId} {citizens : AccountId → Option CitizenRecord}
    {isAcademician : AccountId → Bool} {id : ℕ} {p : Proposal AccountId}
    (hget : w.proposals.get id = some p) :
    paidBy cfg w (.call origin citizens isAcademician (.executeProposal id)) =
      (payment cfg id p w.toState).toList := by
  change ((w.proposals.get id).bind _).toList = _
  rw [hget, Option.bind_some]

/-- The payments out of the treasuries. -/
def record (cfg : Config AccountId) (w : World AccountId L) (x : Input AccountId L)
    (h : List (Payment AccountId)) : List (Payment AccountId) := h ++ paidBy cfg w x

/-- The payments for a proposal. -/
def paidFor (h : List (Payment AccountId)) (id : ℕ) : List (Payment AccountId) :=
  h.filter fun x => x.proposalId = id

/-- What is true of a proposal and of the payments for it: it counts the accounts that have voted,
it is executed only when it is approved, and then the treasury of the nation has paid once, and not
otherwise. -/
structure LawfulAt (cfg : Config AccountId) (s : State AccountId L) (h : List (Payment AccountId))
    (id : ℕ) : Prop where
  tallied : ∀ p, s.proposals.get id = some p →
    p.votesFor + p.votesAgainst = (s.hasVoted.marked id).card
  approved : ∀ p, s.proposals.get id = some p → p.status = .executed → Approved cfg p
  paid : ∀ p, s.proposals.get id = some p → p.status = .executed →
    ∃ treasury, treasuryOf cfg p = some treasury ∧
      paidFor h id = [⟨id, treasury, p.beneficiary, p.amount⟩]
  unpaid : (∀ p, s.proposals.get id = some p → p.status ≠ .executed) → paidFor h id = []

/-- The invariant: there are no votes on a proposal that is not made. -/
structure KeptAt (cfg : Config AccountId) (s : State AccountId L) (h : List (Payment AccountId))
    (id : ℕ) : Prop extends LawfulAt cfg s h id where
  unvoted : s.proposals.get id = none → s.hasVoted.marked id = ∅

/-- No proposal is made under a number before it is the next one. -/
def Fresh (s : State AccountId L) : Prop := ∀ id, s.nextProposalId ≤ id → s.proposals.get id = none

variable {cfg : Config AccountId} {s s' : State AccountId L} {h h' : List (Payment AccountId)}
  {id j : ℕ} {p : Proposal AccountId}

omit [DecidableEq AccountId] in
theorem paidFor_append : paidFor (h ++ h') id = paidFor h id ++ paidFor h' id :=
  List.filter_append h h'

omit [Currency AccountId L] in
/-- A proposal that an input is not about. -/
theorem KeptAt.congr (hk : KeptAt cfg s h j)
    (hget : s'.proposals.get j = s.proposals.get j)
    (hmarked : s'.hasVoted.marked j = s.hasVoted.marked j) (hpaid : paidFor h' j = paidFor h j) :
    KeptAt cfg s' h' j := by
  refine ⟨⟨?_, ?_, ?_, ?_⟩, ?_⟩
  · rw [hget, hmarked]
    exact hk.tallied
  · rw [hget]
    exact hk.approved
  · rw [hget, hpaid]
    exact hk.paid
  · rw [hget, hpaid]
    exact hk.unpaid
  · rw [hget, hmarked]
    exact hk.unvoted

omit [Currency AccountId L] in
/-- A proposal that is decided, or not, with its votes counted. -/
theorem KeptAt.of_get (hget : s.proposals.get id = some p)
    (htallied : p.votesFor + p.votesAgainst = (s.hasVoted.marked id).card)
    (hexecuted : p.status = .executed → Approved cfg p ∧
      ∃ treasury, treasuryOf cfg p = some treasury ∧
        paidFor h id = [⟨id, treasury, p.beneficiary, p.amount⟩])
    (hnot : p.status ≠ .executed → paidFor h id = []) : KeptAt cfg s h id := by
  refine ⟨⟨?_, ?_, ?_, fun hno => hnot (hno p hget)⟩, fun hnone => ?_⟩
  · rwa [StorageMap.forall_get_iff hget]
  · rw [StorageMap.forall_get_iff hget]
    exact fun he => (hexecuted he).1
  · rw [StorageMap.forall_get_iff hget]
    exact fun he => (hexecuted he).2
  · rw [hget] at hnone
    cases hnone

omit [DecidableEq AccountId] in
/-- A payment is for the proposal that is enacted. -/
theorem paidFor_payment :
    paidFor (payment cfg id p s).toList j = if j = id then (payment cfg id p s).toList else [] := by
  cases hpay : payment cfg id p s with
  | none => simp [paidFor]
  | some x =>
    obtain ⟨-, treasury, -, rfl⟩ := payment_eq_some hpay
    by_cases hj : j = id
    · simp [paidFor, hj]
    · simp [paidFor, hj, Ne.symm hj]

/-- **An enactment keeps the laws**: what is executed has been paid just now, for the first time. -/
theorem keptAt_enact {current : ℕ} (hk : ∀ j, KeptAt cfg s h j) (hdue : Due current s id p)
    (j : ℕ) : KeptAt cfg (enactProposal cfg id p s) (h ++ (payment cfg id p s).toList) j := by
  obtain ⟨hget, hactive, -⟩ := hdue
  obtain ⟨l, -, he⟩ := enactProposal_eq cfg id p s
  by_cases hj : j = id
  · subst hj
    -- nothing has been paid for a proposal that is active
    have hbefore : paidFor h j = [] := by
      refine (hk j).unpaid fun q hq => ?_
      rw [Option.some.inj (hq.symm.trans hget), hactive]
      exact fun hno => by cases hno
    have hafter : paidFor (h ++ (payment cfg j p s).toList) j = (payment cfg j p s).toList := by
      rw [paidFor_append, hbefore, List.nil_append, paidFor_payment, if_pos rfl]
    rw [he]
    refine .of_get StorageMap.get_insert_self ((hk j).tallied p hget) ?_ ?_
    · intro hexecuted
      rw [hafter]
      cases hpay : payment cfg j p s with
      | none =>
        rw [hpay] at hexecuted
        cases hexecuted
      | some x =>
        obtain ⟨happroved, treasury, htreasury, rfl⟩ := payment_eq_some hpay
        exact ⟨happroved, treasury, htreasury, rfl⟩
    · intro hno
      rw [hafter]
      cases hpay : payment cfg j p s with
      | none => rfl
      | some x =>
        rw [hpay] at hno
        exact absurd rfl hno
  · refine (hk j).congr (enactProposal_get_of_ne hj) ?_ ?_
    · rw [he]
    · rw [paidFor_append, paidFor_payment, if_neg hj, List.append_nil]

omit [Currency AccountId L] in
theorem keptAt_genesis (ledger : L) (id : ℕ) : KeptAt cfg (genesis ledger) [] id where
  tallied p hget := by simp [genesis] at hget
  approved p hget := by simp [genesis] at hget
  paid p hget := by simp [genesis] at hget
  unpaid _ := rfl
  unvoted _ := StorageMap.marked_empty

end Lawful

/-! ### What later states keep -/

section Settled

variable {w w' w'' : World AccountId L} {p : Proposal AccountId}

/-- The terms of a proposal. -/
def Proposal.terms (p : Proposal AccountId) :
    AccountId × ℕ × ℕ × AccountId × ℕ × Option Bytes32 :=
  (p.proposer, p.nationId, p.amount, p.beneficiary, p.endBlock, p.constitutionalBasis)

/-- A proposal that is decided, or whose deadline has come. -/
def Closed (w : World AccountId L) (p : Proposal AccountId) : Prop :=
  p.status ≠ .active ∨ p.endBlock ≤ w.now

/-- What a later state keeps of the proposals: their terms, the tallies of those that are closed,
and every decision. -/
structure Settled (w w' : World AccountId L) : Prop where
  time : w.now ≤ w'.now
  kept : ∀ id p, w.proposals.get id = some p → ∃ p', w'.proposals.get id = some p' ∧
    p'.terms = p.terms ∧
    (Closed w p → p'.votesFor = p.votesFor ∧ p'.votesAgainst = p.votesAgainst) ∧
    (p.status ≠ .active → p'.status = p.status)

omit [DecidableEq AccountId] in
theorem Settled.refl (w : World AccountId L) : Settled w w :=
  ⟨Nat.le_refl _, fun _ p hp => ⟨p, hp, rfl, fun _ => ⟨rfl, rfl⟩, fun _ => rfl⟩⟩

omit [DecidableEq AccountId] in
theorem Settled.trans (h : Settled w w') (h' : Settled w' w'') : Settled w w'' where
  time := h.time.trans h'.time
  kept id p hp := by
    obtain ⟨p', hp', hterms, hvotes, hstatus⟩ := h.kept id p hp
    obtain ⟨p'', hp'', hterms', hvotes', hstatus'⟩ := h'.kept id p' hp'
    -- what is closed stays closed
    have hclosed : Closed w p → Closed w' p' := by
      rintro (hdecided | hend)
      · exact Or.inl (hstatus hdecided ▸ hdecided)
      · have hend' : p'.endBlock = p.endBlock := congrArg (fun t => t.2.2.2.2.1) hterms
        exact Or.inr (hend' ▸ hend.trans h.time)
    refine ⟨p'', hp'', hterms'.trans hterms, fun hc => ?_, fun hdecided => ?_⟩
    · obtain ⟨hfor, hagainst⟩ := hvotes hc
      obtain ⟨hfor', hagainst'⟩ := hvotes' (hclosed hc)
      exact ⟨hfor'.trans hfor, hagainst'.trans hagainst⟩
    · have hsame := hstatus hdecided
      rw [← hsame]
      exact hstatus' (hsame ▸ hdecided)

omit [DecidableEq AccountId] in
/-- Time passes. -/
theorem Settled.of_proposals (htime : w.now ≤ w'.now) (h : w'.proposals = w.proposals) :
    Settled w w' :=
  ⟨htime, fun _ p hp => ⟨p, h ▸ hp, rfl, fun _ => ⟨rfl, rfl⟩, fun _ => rfl⟩⟩

variable [Currency AccountId L] {cfg : Config AccountId}

omit [DecidableEq AccountId] in
/-- What an enactment keeps of the proposals, whatever the time. -/
theorem enactProposal_settled (cfg : Config AccountId) {s : State AccountId L} {id j : ℕ}
    {p q : Proposal AccountId} (hget : s.proposals.get id = some p) (hactive : p.status = .active)
    (hq : s.proposals.get j = some q) :
    ∃ q', (enactProposal cfg id p s).proposals.get j = some q' ∧ q'.terms = q.terms ∧
      (q'.votesFor = q.votesFor ∧ q'.votesAgainst = q.votesAgainst) ∧
      (q.status ≠ .active → q'.status = q.status) := by
  by_cases hj : j = id
  · subst hj
    obtain rfl := Option.some.inj (hget.symm.trans hq)
    obtain ⟨l, -, he⟩ := enactProposal_eq cfg j p s
    rw [he]
    exact ⟨_, StorageMap.get_insert_self, rfl, ⟨rfl, rfl⟩, fun hno => absurd hactive hno⟩
  · exact ⟨q, (enactProposal_get_of_ne hj).trans hq, rfl, ⟨rfl, rfl⟩, fun _ => rfl⟩

omit [DecidableEq AccountId] in
/-- What the start of a block keeps of the proposals. -/
theorem onInitialize_settled (cfg : Config AccountId) (n : ℕ) {s : State AccountId L} {j : ℕ}
    {q : Proposal AccountId} (hq : s.proposals.get j = some q) :
    ∃ q', (onInitialize cfg n s).proposals.get j = some q' ∧ q'.terms = q.terms ∧
      (q'.votesFor = q.votesFor ∧ q'.votesAgainst = q.votesAgainst) ∧
      (q.status ≠ .active → q'.status = q.status) := by
  refine onInitialize_induct (h := []) (P := fun t _ => ∃ q', t.proposals.get j = some q' ∧
      q'.terms = q.terms ∧ (q'.votesFor = q.votesFor ∧ q'.votesAgainst = q.votesAgainst) ∧
      (q.status ≠ .active → q'.status = q.status)) ?_ ⟨q, hq, rfl, ⟨rfl, rfl⟩, fun _ => rfl⟩
  rintro t - id p ⟨q', hq', hterms, hvotes, hstatus⟩ ⟨hget, hactive, -⟩
  obtain ⟨q'', hq'', hterms', hvotes', hstatus'⟩ :=
    enactProposal_settled cfg hget hactive hq'
  refine ⟨q'', hq'', hterms'.trans hterms, ⟨hvotes'.1.trans hvotes.1, hvotes'.2.trans hvotes.2⟩,
    fun hno => ?_⟩
  -- a status that is final at first is final in between
  have hsame := hstatus hno
  rw [← hsame]
  exact hstatus' (hsame ▸ hno)

end Settled

/-! ### One step -/

section Steps

variable [Currency AccountId L] [EscrowCurrency AccountId L] {cfg : Config AccountId}
  {w w' : World AccountId L} {x : Input AccountId L} {h : List (Payment AccountId)}

/-- A proposal that is made finds a number below the bound. -/
def HasRoom (w : World AccountId L) (x : Input AccountId L) : Prop :=
  x.IsProposal → w.nextProposalId < u32Max

omit [DecidableEq AccountId] [Currency AccountId L] [EscrowCurrency AccountId L] in
/-- Another record under a number that is taken. -/
theorem Fresh.insert_of_get {s : State AccountId L} {id j : ℕ} {p : Proposal AccountId}
    (hf : Fresh s) (hget : s.proposals.get id = some p) (q : Proposal AccountId)
    (hj : s.nextProposalId ≤ j) : (s.proposals.insert id q).get j = none := by
  refine StorageMap.get_insert_eq_none.mpr ⟨?_, hf j hj⟩
  rintro rfl
  rw [hf j hj] at hget
  cases hget

omit [DecidableEq AccountId] [EscrowCurrency AccountId L] in
theorem Fresh.enact {s : State AccountId L} {current id : ℕ} {p : Proposal AccountId}
    (hf : Fresh s) (hdue : Due current s id p) : Fresh (enactProposal cfg id p s) := by
  obtain ⟨l, -, he⟩ := enactProposal_eq cfg id p s
  rw [he]
  exact fun j hj => hf.insert_of_get hdue.1 _ hj

theorem fresh_step (hfresh : Fresh w.toState) (hroom : HasRoom w x)
    (hs : step cfg x w = .ok w') : Fresh w'.toState := by
  cases step_transition hs with
  | createProposal =>
    intro id hid
    have hnext : saturatingAdd u32Max w.nextProposalId 1 = w.nextProposalId + 1 :=
      saturatingAdd_one_of_lt (hroom trivial)
    change saturatingAdd u32Max w.nextProposalId 1 ≤ id at hid
    have hne : id ≠ w.nextProposalId := by omega
    exact (StorageMap.get_insert_of_ne hne).trans (hfresh id (by omega))
  | vote _ _ _ id _ _ p _ hget => exact fun j hj => hfresh.insert_of_get hget _ hj
  | executeProposal _ _ _ id p hdue => exact hfresh.enact hdue
  | block =>
    exact onInitialize_induct (h := []) (P := fun t _ => Fresh t)
      (fun t _ id p hf hdue => hf.enact hdue) hfresh
  | proposeExpertBill => exact hfresh
  | voteOnExpertBill => exact hfresh
  | executeExpertBill => exact hfresh
  | elsewhere => exact hfresh

/-- No proposal counts as many votes as its tallies hold. -/
def Uncrowded (w : World AccountId L) : Prop := ∀ id, (w.hasVoted.marked id).card < u32Max

/-- **The laws of a proposal are kept**, by every input that finds room. -/
theorem keptAt_step (hfresh : Fresh w.toState) (hk : ∀ id, KeptAt cfg w.toState h id)
    (hcrowd : Uncrowded w) (hs : step cfg x w = .ok w') (j : ℕ) :
    KeptAt cfg w'.toState (record cfg w x h) j := by
  -- most inputs pay nothing
  have hnothing : ∀ l : List (Payment AccountId), paidFor (l ++ []) j = paidFor l j :=
    fun l => by rw [List.append_nil]
  cases step_transition hs with
  | createProposal caller citizens isAcademician nationId amount beneficiary basis =>
    -- the number is free, so nobody has voted on it
    have hnone : w.proposals.get w.nextProposalId = none := hfresh _ (Nat.le_refl _)
    by_cases hj : j = w.nextProposalId
    · subst hj
      refine .of_get StorageMap.get_insert_self ?_ (fun he => by cases he) fun _ => ?_
      · rw [(hk _).unvoted hnone]
        rfl
      · refine (hnothing h).trans ((hk _).unpaid fun p hp => ?_)
        rw [hnone] at hp
        cases hp
    · exact (hk j).congr (StorageMap.get_insert_of_ne hj) rfl (hnothing h)
  | vote caller citizens isAcademician id approve citizen p hcitizen hget hactive hopen hnation
      hfirst =>
    by_cases hj : j = id
    · subst hj
      -- the voter is one more, who had not voted
      have htallied := (hk j).tallied p hget
      have hbelow := hcrowd j
      have hno : (p.withVote approve).status ≠ .executed := by
        rw [withVote_status, hactive]
        exact fun he => by cases he
      refine .of_get StorageMap.get_insert_self ?_ (fun he => absurd he hno) fun _ => ?_
      · rw [withVote_tallies (by omega), htallied]
        exact (StorageMap.card_marked_insert hfirst).symm
      · refine (hnothing h).trans ((hk j).unpaid fun q hq => ?_)
        rw [Option.some.inj (hq.symm.trans hget), hactive]
        exact fun he => by cases he
    · exact (hk j).congr (StorageMap.get_insert_of_ne hj) (StorageMap.marked_insert_of_ne hj)
        (hnothing h)
  | executeProposal caller citizens isAcademician id p hdue =>
    unfold record
    rw [paidBy_executeProposal hdue.1]
    exact keptAt_enact hk hdue j
  | block =>
    exact onInitialize_induct (P := fun t h => ∀ j, KeptAt cfg t h j)
      (fun t h id p hk hdue => keptAt_enact hk hdue) hk j
  | proposeExpertBill => exact (hk j).congr rfl rfl (hnothing h)
  | voteOnExpertBill => exact (hk j).congr rfl rfl (hnothing h)
  | executeExpertBill => exact (hk j).congr rfl rfl (hnothing h)
  | elsewhere => exact (hk j).congr rfl rfl (hnothing h)

/-- **Later states keep the terms, the closed tallies and the decisions.** -/
theorem settled_step (hfresh : Fresh w.toState) (hs : step cfg x w = .ok w') : Settled w w' := by
  cases step_transition hs with
  | createProposal =>
    refine ⟨Nat.le_refl _, fun id p hp => ⟨p, ?_, rfl, fun _ => ⟨rfl, rfl⟩, fun _ => rfl⟩⟩
    refine (StorageMap.get_insert_of_ne ?_).trans hp
    rintro rfl
    rw [hfresh _ (Nat.le_refl _)] at hp
    cases hp
  | vote caller citizens isAcademician id approve citizen p hcitizen hget hactive hopen =>
    refine ⟨Nat.le_refl _, fun j q hq => ?_⟩
    by_cases hj : j = id
    · subst hj
      obtain rfl := Option.some.inj (hget.symm.trans hq)
      refine ⟨p.withVote approve, StorageMap.get_insert_self, ?_, ?_, fun hno => absurd hactive hno⟩
      · cases approve <;> rfl
      -- the proposal is open
      · rintro (hdecided | hend)
        · exact absurd hactive hdecided
        · exact absurd hopen (Nat.not_lt.mpr hend)
    · exact ⟨q, (StorageMap.get_insert_of_ne hj).trans hq, rfl, fun _ => ⟨rfl, rfl⟩, fun _ => rfl⟩
  | executeProposal caller citizens isAcademician id p hdue =>
    refine ⟨Nat.le_refl _, fun j q hq => ?_⟩
    obtain ⟨q', hq', hterms, hvotes, hstatus⟩ :=
      enactProposal_settled cfg hdue.1 hdue.2.1 hq
    exact ⟨q', hq', hterms, fun _ => hvotes, hstatus⟩
  | block =>
    refine ⟨Nat.le_succ _, fun j q hq => ?_⟩
    obtain ⟨q', hq', hterms, hvotes, hstatus⟩ :=
      onInitialize_settled cfg (w.now + 1) hq
    exact ⟨q', hq', hterms, fun _ => hvotes, hstatus⟩
  | proposeExpertBill => exact .of_proposals (Nat.le_refl _) rfl
  | voteOnExpertBill => exact .of_proposals (Nat.le_refl _) rfl
  | executeExpertBill => exact .of_proposals (Nat.le_refl _) rfl
  | elsewhere => exact .of_proposals (Nat.le_refl _) rfl

/-- The balances of an account are as they were. -/
def Unmoved (w w' : World AccountId L) (a : AccountId) : Prop :=
  freeBalance w'.ledger a = freeBalance w.ledger a ∧
    reservedBalance w'.ledger a = reservedBalance w.ledger a

/-- What an input does to the balances: a bill takes a deposit from who proposes it, and gives it
back or burns it; every other call makes the treasuries' payments. -/
def Moves (cfg : Config AccountId) (w : World AccountId L) (x : Input AccountId L)
    (w' : World AccountId L) : Prop :=
  match x with
  | .elsewhere ledger => w'.ledger = ledger
  | .call origin _ _ (.proposeExpertBill ..) => ∀ a, origin ≠ .signed a → Unmoved w w' a
  | .call _ _ _ (.executeExpertBill billId) =>
    ∀ a, (∀ amount, w.expertBillDepositor.get billId ≠ some (a, amount)) → Unmoved w w' a
  | x => Paid w.ledger (paidBy cfg w x) w'.ledger

/-- The start of a block leaves no deadline undecided. -/
def Timely (x : Input AccountId L) (w' : World AccountId L) : Prop :=
  x = .block → ∀ id p, w'.proposals.get id = some p → p.status = .active → w'.now < p.endBlock

omit [DecidableEq AccountId] in
/-- A deposit is settled with who has made it. -/
theorem settleDeposit_others {l : L} {passed : Bool} {deposit : Option (AccountId × ℕ)}
    {a : AccountId} (h : ∀ amount, deposit ≠ some (a, amount)) :
    freeBalance (settleDeposit passed deposit l) a = freeBalance l a ∧
      reservedBalance (settleDeposit passed deposit l) a = reservedBalance l a := by
  cases deposit with
  | none => exact ⟨rfl, rfl⟩
  | some d =>
    obtain ⟨depositor, amount⟩ := d
    have hne : a ≠ depositor := by
      rintro rfl
      exact h amount rfl
    cases passed with
    | true =>
      have hreleased := EscrowCurrency.unreserve_released l depositor amount
      exact ⟨hreleased.others a hne, hreleased.othersReserved a hne⟩
    | false =>
      have hslashed := EscrowCurrency.slashReserved_slashed l depositor amount
      exact ⟨hslashed.free a, hslashed.othersReserved a hne⟩

/-- **Nothing else is paid.** -/
theorem moves_step (hs : step cfg x w = .ok w') : Moves cfg w x w' := by
  cases step_transition hs with
  | createProposal => exact rfl
  | vote => exact rfl
  | executeProposal caller citizens isAcademician id p hdue =>
    obtain ⟨l, hpaid, he⟩ := enactProposal_eq cfg id p w.toState
    change Paid w.ledger (paidBy cfg w _) (enactProposal cfg id p w.toState).ledger
    rw [paidBy_executeProposal hdue.1, he]
    exact hpaid
  | proposeExpertBill caller citizens isAcademician billHash tag citizen boundedTag ledger _ _ _
      hreserve =>
    intro a ha
    have hreserved := ReservableCurrency.reserve_ok _ _ _ _ hreserve
    have hne : a ≠ caller := by
      rintro rfl
      exact ha rfl
    exact ⟨hreserved.others a hne, hreserved.othersReserved a hne⟩
  | voteOnExpertBill => exact rfl
  | executeExpertBill => exact fun a ha => settleDeposit_others ha
  | elsewhere => exact rfl
  | block =>
    -- by the rule for the start of a block: what is paid so far, and one payment more
    have hpaid : Paid w.ledger ([] ++ hookPayments cfg (w.now + 1) w.toState)
        (onInitialize cfg (w.now + 1) w.toState).ledger := by
      refine onInitialize_induct (P := fun t h => Paid w.ledger h t.ledger)
        (fun t h id p hpaid _ => ?_) rfl
      obtain ⟨l, hlast, he⟩ := enactProposal_eq cfg id p t
      rw [he]
      exact hpaid.append hlast
    exact hpaid

theorem timely_step (hs : step cfg x w = .ok w') : Timely x w' := by
  rintro rfl id p hget hactive
  cases step_transition hs with
  | block hfits =>
    have hend := onInitialize_done hget hactive
    rwa [show currentBlock (w.now + 1) = w.now + 1 from if_pos hfits] at hend

end Steps

/-! ### Runs -/

section Runs

variable [Currency AccountId L] [EscrowCurrency AccountId L] {cfg : Config AccountId}

/-- Who has voted has voted. -/
theorem voters_step {w w' : World AccountId L} {x : Input AccountId L}
    (hs : step cfg x w = .ok w') : w.voters ⊆ w'.voters := by
  -- only a vote writes the voters
  have hsame : ∀ {t : State AccountId L}, t.hasVoted = w.hasVoted → w.voters ⊆ t.voters := by
    intro t ht
    unfold State.voters
    rw [ht]
  cases step_transition hs with
  | vote =>
    unfold State.voters
    rw [StorageMap.keys_insert]
    exact Finset.image_subset_image (Finset.subset_insert _ _)
  | executeProposal _ _ _ id p => exact hsame (enactProposal_aside cfg id p w.toState).hasVoted
  | block => exact hsame (onInitialize_aside cfg (w.now + 1) w.toState).hasVoted
  | _ => exact hsame rfl

/-- The number of the next proposal goes up with the proposals made. -/
theorem nextProposalId_step {w w' : World AccountId L} {x : Input AccountId L}
    (hs : step cfg x w = .ok w') :
    w'.nextProposalId ≤ w.nextProposalId + if x.IsProposal then 1 else 0 := by
  cases step_transition hs with
  | createProposal => exact saturatingAdd_le_add
  | executeProposal _ _ _ id p =>
    exact Nat.le_add_right_of_le (enactProposal_aside cfg id p w.toState).nextProposalId.le
  | block =>
    exact Nat.le_add_right_of_le (onInitialize_aside cfg (w.now + 1) w.toState).nextProposalId.le
  | _ => exact Nat.le_add_right _ _

/-- In a run with fewer proposals and fewer voters than the numbers hold, the laws hold of every
proposal in every state, later states keep the terms, the closed tallies and the decisions, no
deadline is left undecided by the start of a block, and the treasuries' payments are all that is
paid. The start of a block enacts the proposals that are due as calls would, one after the other. -/
theorem proposals_lawful (cfg : Config AccountId) (ledger : L) (now : ℕ) (hnow : now ≤ u32Max)
    (xs : List (Input AccountId L))
    (hproposals :
      accepted (step cfg) Input.IsProposal xs (World.genesis ledger now hnow) < u32Max)
    (hvoters : (run (step cfg) xs (World.genesis ledger now hnow)).voters.card < u32Max) :
    Throughout (recording (record cfg) (step cfg))
        (fun t => ∀ id, LawfulAt cfg t.1.toState t.2 id) xs (World.genesis ledger now hnow, []) ∧
      Ascending (step cfg) Settled xs (World.genesis ledger now hnow) ∧
      Along (step cfg)
        (fun w x => Moves cfg w x (exec (step cfg) x w) ∧ Timely x (exec (step cfg) x w)) xs
        (World.genesis ledger now hnow) ∧
      ∀ (s : State AccountId L) (ctx : Context AccountId) (who : AccountId),
        ctx.origin = .signed who →
          ((expired cfg (currentBlock ctx.now) s).map Prod.fst).foldlM
            (fun s id => executeProposal cfg ctx id s) s = .ok (onInitialize cfg ctx.now s) := by
  set w₀ : World AccountId L := World.genesis ledger now hnow
  have hfresh : Fresh w₀.toState := fun id _ => StorageMap.get_empty id
  -- each proposal takes one number, and there are fewer than the bound
  have hroom : Along (step cfg) HasRoom xs w₀ := by
    refine along_of_accepted_le (fun x w w' hs => nextProposalId_step hs) ?_
    rw [show w₀.nextProposalId = 0 from rfl, Nat.zero_add]
    exact hproposals.le
  -- the voters on a proposal are among those of the whole run
  have huncrowded : Along (step cfg) (fun w _ => Uncrowded w) xs w₀ := by
    refine (along_below (R := fun w w' => w.voters ⊆ w'.voters) (fun _ => Finset.Subset.refl _)
      (fun _ _ _ h h' => h.trans h') (fun x w w' hs => voters_step hs) xs w₀).imp ?_
    intro w _ hw id
    exact (Finset.card_le_card ((marked_subset_voters w.toState id).trans hw)).trans_lt hvoters
  refine ⟨?_, ?_, ?_, fun s ctx who horigin => onInitialize_eq_manual s horigin⟩
  · have hguard : Along (recording (record cfg) (step cfg))
        (fun t x => HasRoom t.1 x ∧ Uncrowded t.1) xs (w₀, []) :=
      (along_recording (Q := fun w x => HasRoom w x ∧ Uncrowded w)).mpr (hroom.and huncrowded)
    have hkept : Throughout (recording (record cfg) (step cfg))
        (fun t => Fresh t.1.toState ∧ ∀ id, KeptAt cfg t.1.toState t.2 id) xs (w₀, []) := by
      refine throughout_of_along ?_ ⟨hfresh, keptAt_genesis ledger⟩ hguard
      rintro x t t' ⟨hf, hk⟩ ⟨hr, hu⟩ ht
      obtain ⟨hs, hrecord⟩ := recording_eq_ok.mp ht
      rw [hrecord]
      exact ⟨fresh_step hf hr hs, keptAt_step hf hk hu hs⟩
    exact hkept.imp fun t ht id => (ht.2 id).toLawfulAt
  · exact ascending_of_invariant (J := fun w => Fresh w.toState) Settled.refl
      (fun _ _ _ h h' => h.trans h') (fun x w w' hf hr hs => fresh_step hf hr hs)
      (fun x w w' hf _ hs => settled_step hf hs) hfresh hroom
  · refine along_of_step (fun x w w' hs => ?_) xs w₀
    rw [exec_ok hs]
    exact ⟨moves_step hs, timely_step hs⟩

end Runs

/-! ### Two proposals of one nation -/

/-- Three leaders approve two payments of ten units out of one treasury. -/
def rivals : List (Input ℕ (Runtime.EscrowLedger ℕ)) :=
  [Runtime.amongLeaders 7 (.createProposal 1 (10 * CentralBank.unit) 8 none),
    Runtime.amongLeaders 7 (.createProposal 1 (10 * CentralBank.unit) 9 none)] ++
  [7, 8, 9].flatMap fun who =>
    [Runtime.amongLeaders who (.vote 0 true), Runtime.amongLeaders who (.vote 1 true)]

/-- The treasury has fifteen units. -/
def scarce : Runtime.EscrowLedger ℕ :=
  ProvidedBalances.ofFree
    [(1, 15 * CentralBank.unit), (8, CentralBank.unit), (9, CentralBank.unit)]

/-- The state in which both are approved. -/
def rivalsApproved : State ℕ (Runtime.EscrowLedger ℕ) :=
  (run (step Runtime.khural) rivals (World.genesis scarce 0 (Nat.zero_le _))).toState

/-- The second of the two is executed by a call, and rejected by the start of the block, which pays
the first. -/
theorem order_decides :
    ¬ ∀ (cfg : Config ℕ) (ctx : Context ℕ) (id : ℕ),
      (executeProposal cfg ctx id rivalsApproved).isOk = true →
        ((exec (executeProposal cfg ctx) id rivalsApproved).proposals.get id).map Proposal.status =
          ((onInitialize cfg ctx.now rivalsApproved).proposals.get id).map Proposal.status := by
  intro h
  have hsame := h Runtime.khural
    ⟨.signed 7, 100800, fun a => some (Runtime.arbadLeader a), fun _ => true⟩ 1 (by decide +kernel)
  revert hsame
  decide +kernel

/-- Both are proposed and voted on by few. -/
theorem proposals_lawful_rivals :
    Throughout (recording (record Runtime.khural) (step Runtime.khural))
      (fun t => ∀ id, LawfulAt Runtime.khural t.1.toState t.2 id) rivals
      (World.genesis scarce 0 (Nat.zero_le _), []) :=
  (proposals_lawful Runtime.khural scarce 0 (Nat.zero_le _) rivals (by decide +kernel)
    (by decide +kernel)).1

end KhuralGovernance
