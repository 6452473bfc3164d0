import Altan.Foundation.Accounting
import Altan.Foundation.Assent
import Altan.Runtime.Constants

/-!
# The proposals of the organisations

A proposal shall be passed by more than half of its council as it then is, be open to every member
who has not voted, and be paid out once. The ballots of members who leave a council stay counted,
though; and a proposal that is paid out is removed with its ballots left behind, so its identifier
can be used again, by a proposal that is closed to those who have voted on the first, and is paid
out again. What the tallies count are the ballots, in every run.

## Main definitions

* `History`, `record`: the ballots since a proposal was entered, and what was paid out
* `Sound`, `Carried`: what is asked of every state, and of the input that passes a proposal
* `Fair`: what is asked of every input

## Main results

* `booked_step`: what one input keeps
* `carried_step`: a vote that passes a proposal
* `fair_of_unchanged_council`: a vote is fair as long as nobody in favour has left the council
* `proposals_sound`: proposals are sound where every input is fair
* `proposals_not_sound`: they are not in every run
-/

open Assent Bounded Dispatch Ledger TransitionSystem

namespace DecimalDao

variable {AccountId L : Type} {cfg : Config AccountId}

/-! ### What is asked of the runs -/

/-- The ballots on every proposal since it was entered, and the state before and after each time
it was paid out. -/
structure History (cfg : Config AccountId) (L : Type) where
  ballots : EventLog Bytes32 (AccountId × Bool)
  payments : EventLog Bytes32 (State cfg L × State cfg L)

/-- Nothing has happened. -/
def History.empty : History cfg L where
  ballots _ := []
  payments _ := []

/-- Who has voted on a proposal. -/
def History.voters (h : History cfg L) (propId : Bytes32) : List AccountId :=
  (h.ballots propId).map Prod.fst

variable [DecidableEq AccountId]

/-- The council of an organisation, each member once. -/
def seats (s : State cfg L) (orgId : Bytes32) : Finset AccountId :=
  (s.councils.get orgId).elim ∅ fun council => council.val.toFinset

variable [Currency AccountId L]

/-- An accepted input is recorded. -/
def record (cfg : Config AccountId) (s : State cfg L) (x : Input AccountId L)
    (h : History cfg L) : History cfg L :=
  match x with
  | .call _ (.createProposal _ propId _ _ _) =>
    { h with ballots := Function.update h.ballots propId [] }
  | .call _ (.voteProposal propId voter support) =>
    { h with ballots := h.ballots.append propId (voter, support) }
  | .call _ (.executeProposal propId) =>
    { h with payments := h.payments.append propId (s, exec (step cfg) x s) }
  | _ => h

/-- A proposal that was passed is paid out: what it asks for goes from the treasury of its
organisation to its beneficiary, and nothing else moves. -/
def Paid (propId : Bytes32) (s s' : State cfg L) : Prop :=
  ∃ proposal treasury, s.proposals.get propId = some proposal ∧ proposal.status = .passed ∧
    s.orgTreasuries.get proposal.orgId = some treasury ∧
      ∀ a, freeBalance s'.ledger a + (if a = treasury then proposal.amount else 0) =
        freeBalance s.ledger a + if a = proposal.beneficiary then proposal.amount else 0

/-- What is asked of every state: the tally of a proposal is of the ballots cast since it was
entered, a member of the council who has not voted on it can do so as long as it is open, and no
identifier was paid out twice, nor anything but what was passed. -/
structure Sound (s : State cfg L) (h : History cfg L) : Prop where
  tallied : ∀ propId p, s.proposals.get propId = some p →
    p.votesFor + p.votesAgainst = (h.ballots propId).length
  votable : ∀ propId p who support, s.proposals.get propId = some p → p.status = .opened →
    who ∈ seats s p.orgId → who ∉ h.voters propId →
      ∃ s', step cfg (.call .root (.voteProposal propId who support)) s = .ok s'
  once : ∀ propId, (h.payments propId).length ≤ 1
  paid : ∀ propId, ∀ payment ∈ h.payments propId, Paid propId payment.1 payment.2

/-- What is asked of an input: more than half of the council have voted once in favour of a proposal
that it passes, and it moves no money unless it pays a proposal out. -/
structure Carried (x : Input AccountId L) (s s' : State cfg L) (h' : History cfg L) : Prop where
  majority : ∀ propId p, s'.proposals.get propId = some p → p.status = .passed →
    (s.proposals.get propId).map ProposalRecord.status ≠ some .passed →
      (seats s' p.orgId).card <
        2 * (assenting Prod.fst Prod.snd (seats s' p.orgId) (h'.ballots propId)).card
  ledger : ∀ origin c, x = .call origin c → (∀ propId, c ≠ .executeProposal propId) →
    s'.ledger = s.ledger

/-- What is asked of every input in advance: a proposal is entered under an identifier that nobody
has voted under, and with a vote that brings the votes in favour to the majority these are more than
half of the council by more than those who have left it. -/
def Fair (s : State cfg L) (h : History cfg L) : Input AccountId L → Prop
  | .call _ (.createProposal _ propId _ _ _) =>
    ∀ who, s.proposalBallots.get (propId, who) = none
  | .call _ (.voteProposal propId _ support) =>
    ∀ p council, s.proposals.get propId = some p → s.councils.get p.orgId = some council →
      council.val.length / 2 + 1 ≤ p.votesFor + support.toNat →
        (seats s p.orgId).card +
            2 * (departed Prod.fst Prod.snd (seats s p.orgId) (h.ballots propId)).card <
          2 * (p.votesFor + support.toNat)
  | _ => True

/-! ### The tally of a vote -/

section Tally

variable {p : ProposalRecord AccountId} {support : Bool} {councilSize : ℕ}

omit [DecidableEq AccountId] in
/-- A vote is counted on its side. -/
theorem withVote_counts (hfor : p.votesFor < u32Max) (hagainst : p.votesAgainst < u32Max) :
    (p.withVote support).votesFor = p.votesFor + support.toNat ∧
      (p.withVote support).votesAgainst = p.votesAgainst + (!support).toNat := by
  unfold ProposalRecord.withVote
  cases support with
  | true => exact ⟨saturatingAdd_of_le hfor, rfl⟩
  | false => exact ⟨rfl, saturatingAdd_of_le hagainst⟩

omit [DecidableEq AccountId] in
@[simp] theorem withVote_orgId : (p.withVote support).orgId = p.orgId := by
  unfold ProposalRecord.withVote
  split <;> rfl

omit [DecidableEq AccountId] in
@[simp] theorem withVote_status : (p.withVote support).status = p.status := by
  unfold ProposalRecord.withVote
  split <;> rfl

omit [DecidableEq AccountId] in
/-- Deciding changes where a proposal stands, and nothing else. -/
theorem decided_eq :
    p.decided councilSize = { p with status := (p.decided councilSize).status } := by
  unfold ProposalRecord.decided
  split
  · rfl
  · split <;> rfl

omit [DecidableEq AccountId] in
@[simp] theorem decided_votesFor : (p.decided councilSize).votesFor = p.votesFor := by
  rw [decided_eq]

omit [DecidableEq AccountId] in
@[simp] theorem decided_votesAgainst : (p.decided councilSize).votesAgainst = p.votesAgainst := by
  rw [decided_eq]

omit [DecidableEq AccountId] in
@[simp] theorem decided_orgId : (p.decided councilSize).orgId = p.orgId := by
  rw [decided_eq]

omit [DecidableEq AccountId] in
/-- A proposal is passed by more than half. -/
theorem le_of_decided_passed (hne : p.status ≠ .passed)
    (h : (p.decided councilSize).status = .passed) : councilSize / 2 + 1 ≤ p.votesFor := by
  unfold ProposalRecord.decided at h
  split at h
  · next hfor => exact hfor
  · split at h
    · cases h
    · exact absurd h hne

omit [DecidableEq AccountId] in
/-- A proposal that is still open has no more than half on either side. -/
theorem le_of_decided_opened (h : (p.decided councilSize).status = .opened) :
    p.votesFor ≤ councilSize / 2 ∧ p.votesAgainst ≤ councilSize / 2 := by
  unfold ProposalRecord.decided at h
  split at h
  · cases h
  · next hfor =>
    split at h
    · cases h
    · next hagainst => exact ⟨by omega, by omega⟩

end Tally

/-! ### The books -/

/-- The tally of a proposal is of the ballots cast on it, which are those recorded under its
identifier; an open proposal has no majority, and a passed one a vote. -/
structure Tallied (s : State cfg L) (propId : Bytes32) (votes : List (AccountId × Bool))
    (p : ProposalRecord AccountId) : Prop where
  ballots : ∀ who, s.proposalBallots.get (propId, who) = some () ↔ who ∈ votes.map Prod.fst
  nodup : (votes.map Prod.fst).Nodup
  inFavor : p.votesFor = (yeas Prod.fst Prod.snd votes).length
  against : p.votesAgainst = (nays Prod.fst Prod.snd votes).length
  opened : p.status = .opened →
    p.votesFor ≤ cfg.maxCouncilMembers / 2 ∧ p.votesAgainst ≤ cfg.maxCouncilMembers / 2
  passed : p.status = .passed → 0 < p.votesFor

/-- Every proposal is tallied, and nothing that was paid out is there any more, but for the
ballots. -/
structure Booked (s : State cfg L) (h : History cfg L) : Prop where
  tallied : ∀ propId p, s.proposals.get propId = some p → Tallied s propId (h.ballots propId) p
  gone : ∀ propId, h.payments propId ≠ [] → s.proposals.get propId = none ∧
    ∃ who, s.proposalBallots.get (propId, who) = some ()
  once : ∀ propId, (h.payments propId).length ≤ 1
  paid : ∀ propId, ∀ payment ∈ h.payments propId, Paid propId payment.1 payment.2

variable {s s' : State cfg L} {h : History cfg L} {x : Input AccountId L} {propId : Bytes32}
  {p : ProposalRecord AccountId} {votes : List (AccountId × Bool)} {voter who : AccountId}
  {support : Bool}

theorem booked_genesis (ledger : L) : Booked (genesis ledger : State cfg L) .empty where
  tallied propId p hget := by cases (StorageMap.get_empty propId).symm.trans hget
  gone _ hpaid := absurd rfl hpaid
  once _ := Nat.zero_le 1
  paid _ _ hpayment := absurd hpayment List.not_mem_nil

omit [Currency AccountId L] in
theorem mem_seats {orgId : Bytes32} {council : BoundedVec AccountId cfg.maxCouncilMembers}
    (hcouncil : s.councils.get orgId = some council) : who ∈ seats s orgId ↔ who ∈ council.val := by
  rw [seats, hcouncil, Option.elim_some, List.mem_toFinset]

omit [Currency AccountId L] in
/-- A vote is fair as long as whoever is in favour is of the council still. -/
theorem fair_of_unchanged_council {origin : Origin AccountId}
    (hstay : ∀ p, s.proposals.get propId = some p →
      ∀ a ∈ yeas Prod.fst Prod.snd (h.ballots propId), a ∈ seats s p.orgId) :
    Fair s h (.call origin (.voteProposal propId voter support)) := by
  intro p council hget hcouncil hmajority
  have hdeparted : departed Prod.fst Prod.snd (seats s p.orgId) (h.ballots propId) = ∅ :=
    Finset.sdiff_eq_empty_iff_subset.mpr fun a ha => hstay p hget a (List.mem_toFinset.mp ha)
  -- a member who is listed twice has one seat
  have hcard : (seats s p.orgId).card ≤ council.val.length := by
    rw [seats, hcouncil]
    exact List.toFinset_card_le _
  rw [hdeparted, Finset.card_empty]
  omega

/-- A member of the council who has not voted on an open proposal can do so. -/
theorem Tallied.votable (ht : Tallied s propId votes p) (hget : s.proposals.get propId = some p)
    (hopen : p.status = .opened) (hwho : who ∈ seats s p.orgId)
    (hnew : who ∉ votes.map Prod.fst) (support : Bool) :
    ∃ s', step cfg (.call .root (.voteProposal propId who support)) s = .ok s' := by
  cases hcouncil : s.councils.get p.orgId with
  | none =>
    rw [seats, hcouncil, Option.elim_none] at hwho
    exact absurd hwho (Finset.notMem_empty who)
  | some council =>
    have hballot : s.proposalBallots.get (propId, who) = none := by
      cases hget' : s.proposalBallots.get (propId, who) with
      | none => rfl
      | some u => exact absurd ((ht.ballots who).mp hget') hnew
    exact ⟨_, voteProposal_eq_ok.mpr ⟨p, council, rfl, hget, hopen, hcouncil,
      (mem_seats hcouncil).mp hwho, hballot, rfl⟩⟩

theorem Booked.sound (hb : Booked s h) : Sound s h where
  tallied propId p hget := by
    have ht := hb.tallied propId p hget
    rw [ht.inFavor, ht.against]
    exact length_yeas_add_nays
  votable propId p who support hget hopen hwho hnew :=
    (hb.tallied propId p hget).votable hget hopen hwho hnew support
  once := hb.once
  paid := hb.paid

omit [Currency AccountId L] in
/-- A proposal that somebody has voted for was voted on. -/
theorem Tallied.exists_ballot (ht : Tallied s propId votes p) (hpassed : p.status = .passed) :
    ∃ who, s.proposalBallots.get (propId, who) = some () := by
  have hpos := ht.passed hpassed
  rw [ht.inFavor] at hpos
  obtain ⟨who, hwho⟩ := List.exists_mem_of_length_pos hpos
  obtain ⟨v, hv, rfl⟩ := List.mem_map.mp hwho
  exact ⟨v.1, (ht.ballots v.1).mpr (List.mem_map_of_mem (List.mem_of_mem_filter hv))⟩

omit [Currency AccountId L] in
/-- **A ballot is counted.** -/
theorem Tallied.vote (ht : Tallied s propId votes p)
    {council : BoundedVec AccountId cfg.maxCouncilMembers} (hopen : p.status = .opened)
    (hnew : s.proposalBallots.get (propId, voter) = none) :
    Tallied (voted propId voter support council p s) propId (votes ++ [(voter, support)])
      ((p.withVote support).decided council.val.length) := by
  obtain ⟨hfor, hagainst⟩ := ht.opened hopen
  have hmax := cfg.maxCouncilMembers_le
  have hpositive : 0 < u32Max := by decide
  have hroomFor : p.votesFor < u32Max := by omega
  have hroomAgainst : p.votesAgainst < u32Max := by omega
  obtain ⟨hcountFor, hcountAgainst⟩ :
      (p.withVote support).votesFor = p.votesFor + support.toNat ∧
        (p.withVote support).votesAgainst = p.votesAgainst + (!support).toNat :=
    withVote_counts hroomFor hroomAgainst
  refine ⟨?_, ?_, ?_, ?_, ?_, ?_⟩
  -- the ballots recorded are those cast, this one included
  · intro who
    show (s.proposalBallots.insert (propId, voter) ()).get (propId, who) = some () ↔ _
    rw [StorageMap.get_insert, List.map_append, List.mem_append, ← ht.ballots who]
    by_cases hwho : who = voter
    · simp [hwho]
    · simp [hwho]
  · rw [List.map_append, List.map_singleton, ← List.concat_eq_append]
    refine List.Nodup.concat (fun hmem => ?_) ht.nodup
    rw [(ht.ballots voter).mpr hmem] at hnew
    cases hnew
  -- the tallies go up by the side of the ballot
  · rw [decided_votesFor, yeas_append, List.length_append, ← ht.inFavor]
    cases support <;> exact hcountFor
  · rw [decided_votesAgainst, nays_append, List.length_append, ← ht.against]
    cases support <;> exact hcountAgainst
  -- a proposal that is still open has no majority of this council, so none of any
  · intro hstatus
    have hle := le_of_decided_opened hstatus
    have hsize : council.val.length / 2 ≤ cfg.maxCouncilMembers / 2 :=
      Nat.div_le_div_right council.property
    rw [decided_votesFor, decided_votesAgainst]
    exact ⟨hle.1.trans hsize, hle.2.trans hsize⟩
  · intro hstatus
    have hne : (p.withVote support).status ≠ .passed := by
      rw [withVote_status, hopen]
      exact nofun
    have hle := le_of_decided_passed hne hstatus
    rw [decided_votesFor]
    exact Nat.lt_of_lt_of_le (Nat.succ_pos _) hle

omit [Currency AccountId L] in
/-- A tally depends on the ballots under the identifier. -/
theorem Tallied.congr (ht : Tallied s propId votes p)
    (hballots : ∀ who, s'.proposalBallots.get (propId, who) = s.proposalBallots.get (propId, who)) :
    Tallied s' propId votes p :=
  ⟨fun who => (hballots who ▸ ht.ballots who), ht.nodup, ht.inFavor, ht.against, ht.opened,
    ht.passed⟩

/-! ### One input -/

/-- What neither enters, votes on nor pays out a proposal leaves the books. -/
theorem Booked.keep (hb : Booked s h) (hproposals : s'.proposals = s.proposals)
    (hballots : s'.proposalBallots = s.proposalBallots) : Booked s' h where
  tallied propId p hget :=
    (hb.tallied propId p (hproposals ▸ hget)).congr fun _ => by rw [hballots]
  gone propId hpaid := by
    rw [hproposals, hballots]
    exact hb.gone propId hpaid
  once := hb.once
  paid := hb.paid

/-- A proposal is entered where nobody has voted. -/
theorem Booked.create (hb : Booked s h) {h' : History cfg L}
    (hfresh : ∀ who, s.proposalBallots.get (propId, who) = none)
    (hopen : p.status = .opened) (hfor : p.votesFor = 0) (hagainst : p.votesAgainst = 0)
    (hballots : h'.ballots = Function.update h.ballots propId [])
    (hpayments : h'.payments = h.payments) : Booked (proposed propId p s) h' := by
  refine ⟨fun propId' p' hget => ?_, fun propId' hpaid => ?_, hpayments ▸ hb.once,
    hpayments ▸ hb.paid⟩
  · rcases StorageMap.get_insert_cases hget with ⟨rfl, rfl⟩ | ⟨hne, hget⟩
    -- the new proposal has neither votes nor ballots
    · rw [hballots, Function.update_self]
      refine ⟨fun who => ?_, List.nodup_nil, hfor, hagainst, fun _ => ?_, fun hpassed => ?_⟩
      · exact iff_of_false (fun hsome => nomatch (hfresh who).symm.trans hsome) List.not_mem_nil
      · rw [hfor, hagainst]
        exact ⟨Nat.zero_le _, Nat.zero_le _⟩
      · rw [hopen] at hpassed
        cases hpassed
    · rw [hballots, Function.update_of_ne hne]
      exact (hb.tallied propId' p' hget).congr fun _ => rfl
  · -- what was paid out has ballots left
    rw [hpayments] at hpaid
    obtain ⟨hnone, who, hballot⟩ := hb.gone propId' hpaid
    have hne : propId' ≠ propId := by
      rintro rfl
      exact nomatch (hfresh who).symm.trans hballot
    exact ⟨(StorageMap.get_insert_of_ne hne).trans hnone, who, hballot⟩

/-- A member of the council votes. -/
theorem Booked.vote (hb : Booked s h) {h' : History cfg L}
    {council : BoundedVec AccountId cfg.maxCouncilMembers}
    (hget : s.proposals.get propId = some p) (hopen : p.status = .opened)
    (hnew : s.proposalBallots.get (propId, voter) = none)
    (hballots : h'.ballots = h.ballots.append propId (voter, support))
    (hpayments : h'.payments = h.payments) :
    Booked (voted propId voter support council p s) h' := by
  refine ⟨fun propId' p' hget' => ?_, fun propId' hpaid => ?_, hpayments ▸ hb.once,
    hpayments ▸ hb.paid⟩
  · rcases StorageMap.get_insert_cases hget' with ⟨rfl, rfl⟩ | ⟨hne, hget'⟩
    · rw [hballots, EventLog.append_self]
      exact (hb.tallied propId' p hget).vote hopen hnew
    · rw [hballots, EventLog.append_of_ne hne]
      refine (hb.tallied propId' p' hget').congr fun who => StorageMap.get_insert_of_ne ?_
      exact fun hkey => hne (congrArg Prod.fst hkey)
  · -- what was paid out is not there to be voted on
    rw [hpayments] at hpaid
    obtain ⟨hnone, who, hballot⟩ := hb.gone propId' hpaid
    have hne : propId' ≠ propId := by
      rintro rfl
      exact nomatch hnone.symm.trans hget
    refine ⟨(StorageMap.get_insert_of_ne hne).trans hnone, who, ?_⟩
    refine (StorageMap.get_insert_of_ne fun hkey => ?_).trans hballot
    exact hne (congrArg Prod.fst hkey)

/-- A proposal is paid out. -/
theorem Booked.execute (hb : Booked s h) {h' : History cfg L} {ledger : L}
    (hget : s.proposals.get propId = some p) (hpassed : p.status = .passed)
    (hpaid : Paid propId s (executed propId ledger s)) (hballots : h'.ballots = h.ballots)
    (hpayments : h'.payments = h.payments.append propId (s, executed propId ledger s)) :
    Booked (executed propId ledger s) h' := by
  -- a proposal that is there has not been paid out before
  have hnone : h.payments propId = [] := by
    by_contra hsome
    exact nomatch (hb.gone propId hsome).1.symm.trans hget
  refine ⟨fun propId' p' hget' => ?_, fun propId' hsome => ?_, fun propId' => ?_,
    fun propId' payment hmem => ?_⟩
  · rw [hballots]
    have hne : propId' ≠ propId := by
      rintro rfl
      exact nomatch StorageMap.get_remove_self.symm.trans hget'
    exact (hb.tallied propId' p' ((StorageMap.get_remove_of_ne hne).symm.trans hget')).congr
      fun _ => rfl
  · by_cases hid : propId' = propId
    · subst hid
      -- the record is removed, and the ballots stay
      exact ⟨StorageMap.get_remove_self, (hb.tallied propId' p hget).exists_ballot hpassed⟩
    · rw [hpayments, EventLog.append_of_ne hid] at hsome
      obtain ⟨hnone', hballot⟩ := hb.gone propId' hsome
      exact ⟨(StorageMap.get_remove_of_ne hid).trans hnone', hballot⟩
  · by_cases hid : propId' = propId
    · subst hid
      rw [hpayments, EventLog.append_self, hnone]
      exact Nat.le_refl 1
    · rw [hpayments, EventLog.append_of_ne hid]
      exact hb.once propId'
  · by_cases hid : propId' = propId
    · subst hid
      rw [hpayments, EventLog.append_self, hnone] at hmem
      obtain rfl := List.mem_singleton.mp hmem
      exact hpaid
    · rw [hpayments, EventLog.append_of_ne hid] at hmem
      exact hb.paid propId' payment hmem

theorem paid_of_transfer {treasury : AccountId} {ledger : L}
    (hget : s.proposals.get propId = some p) (hpassed : p.status = .passed)
    (htreasury : s.orgTreasuries.get p.orgId = some treasury)
    (hledger : Currency.transfer s.ledger treasury p.beneficiary p.amount .keepAlive = .ok ledger) :
    Paid propId s (executed propId ledger s) :=
  ⟨p, treasury, hget, hpassed, htreasury, Currency.transfer_keepAlive_free hledger⟩

/-- **One fair input** keeps the books. -/
theorem booked_step (hb : Booked s h) (hf : Fair s h x) (hstep : step cfg x s = .ok s') :
    Booked s' (record cfg s x h) := by
  cases x with
  | elsewhere ledger =>
    obtain rfl := Except.ok.inj hstep
    exact hb.keep rfl rfl
  | call origin c =>
    have hexec := exec_ok hstep
    cases c with
    | instantiateOrg orgId initialCouncil =>
      obtain ⟨council, -, -, -, rfl⟩ := instantiateOrg_eq_ok.mp hstep
      exact hb.keep rfl rfl
    | syncCouncil orgId newCouncil =>
      obtain ⟨council, -, rfl⟩ := syncCouncil_eq_ok hstep
      exact hb.keep rfl rfl
    | createProposal orgId propId proposer amount beneficiary =>
      obtain ⟨-, rfl⟩ := createProposal_eq_ok hstep
      exact hb.create hf rfl rfl rfl rfl rfl
    | voteProposal propId voter support =>
      obtain ⟨p, council, -, hget, hopen, -, -, hnew, rfl⟩ := voteProposal_eq_ok.mp hstep
      exact hb.vote hget hopen hnew rfl rfl
    | executeProposal propId =>
      obtain ⟨p, treasury, ledger, hget, hpassed, htreasury, hledger, rfl⟩ :=
        executeProposal_eq_ok hstep
      refine hb.execute hget hpassed (paid_of_transfer hget hpassed htreasury hledger) rfl ?_
      simp only [record, hexec]

omit [Currency AccountId L] in
/-- An input that leaves the proposals, or passes none, is carried. -/
theorem Carried.of_kept {h' : History cfg L}
    (hkept : ∀ propId p, s'.proposals.get propId = some p →
      s.proposals.get propId = some p ∨ p.status ≠ .passed)
    (hledger : ∀ origin c, x = .call origin c → (∀ propId, c ≠ .executeProposal propId) →
      s'.ledger = s.ledger) : Carried x s s' h' where
  majority propId p hget hpassed hnew := by
    rcases hkept propId p hget with hold | hne
    · rw [hold, Option.map_some, hpassed] at hnew
      exact absurd rfl hnew
    · exact absurd hpassed hne
  ledger := hledger

/-- **A vote that passes a proposal** when it is fair. -/
theorem carried_of_vote (hb' : Booked s' (record cfg s x h)) {origin : Origin AccountId}
    {council : BoundedVec AccountId cfg.maxCouncilMembers} (hb : Booked s h)
    (hx : x = .call origin (.voteProposal propId voter support)) (hf : Fair s h x)
    (hget : s.proposals.get propId = some p) (hopen : p.status = .opened)
    (hcouncil : s.councils.get p.orgId = some council) (hvoter : voter ∈ council.val)
    (hs' : s' = voted propId voter support council p s) :
    Carried x s s' (record cfg s x h) := by
  subst hx hs'
  refine ⟨fun propId' p' hget' hpassed hnew => ?_, fun _ _ _ _ => rfl⟩
  have ht' := hb'.tallied propId' p' hget'
  rcases StorageMap.get_insert_cases hget' with ⟨rfl, rfl⟩ | ⟨-, hold⟩
  · have hballots : (record cfg s (.call origin (.voteProposal propId' voter support)) h).ballots
        propId' = h.ballots propId' ++ [(voter, support)] := EventLog.append_self
    have hvotes := ht'.inFavor
    rw [hballots] at hvotes ht' ⊢
    have hyeas : p.votesFor + support.toNat =
        (yeas Prod.fst Prod.snd (h.ballots propId' ++ [(voter, support)])).length := by
      rw [yeas_append, List.length_append, ← (hb.tallied propId' p hget).inFavor]
      cases support <;> rfl
    have hmajority : council.val.length / 2 + 1 ≤ p.votesFor + support.toNat := by
      rw [hyeas, ← hvotes, decided_votesFor]
      refine le_of_decided_passed ?_ hpassed
      rw [withVote_status, hopen]
      exact nofun
    have horg : ((p.withVote support).decided council.val.length).orgId = p.orgId := by
      rw [decided_orgId, withVote_orgId]
    have hlt := hf p council hget hcouncil hmajority
    rw [horg, more_than_half_iff _ ht'.nodup, ← hyeas]
    have hseats : seats (voted propId' voter support council p s) p.orgId = seats s p.orgId := rfl
    rw [hseats, departed_append ((mem_seats hcouncil).mpr hvoter)]
    exact hlt
  · rw [hold, Option.map_some, hpassed] at hnew
    exact absurd rfl hnew

theorem carried_step (hb : Booked s h) (hf : Fair s h x) (hstep : step cfg x s = .ok s') :
    Carried x s s' (record cfg s x h) := by
  have hb' := booked_step hb hf hstep
  cases x with
  | elsewhere ledger =>
    obtain rfl := Except.ok.inj hstep
    exact .of_kept (fun _ _ hget => Or.inl hget) nofun
  | call origin c =>
    cases c with
    | instantiateOrg orgId initialCouncil =>
      obtain ⟨council, -, -, -, rfl⟩ := instantiateOrg_eq_ok.mp hstep
      exact .of_kept (fun _ _ hget => Or.inl hget) fun _ _ _ _ => rfl
    | syncCouncil orgId newCouncil =>
      obtain ⟨council, -, rfl⟩ := syncCouncil_eq_ok hstep
      exact .of_kept (fun _ _ hget => Or.inl hget) fun _ _ _ _ => rfl
    | createProposal orgId propId proposer amount beneficiary =>
      obtain ⟨-, rfl⟩ := createProposal_eq_ok hstep
      refine .of_kept (fun propId' p hget => ?_) fun _ _ _ _ => rfl
      rcases StorageMap.get_insert_cases hget with ⟨-, rfl⟩ | ⟨-, hget⟩
      · exact Or.inr nofun
      · exact Or.inl hget
    | voteProposal propId voter support =>
      obtain ⟨p, council, -, hget, hopen, hcouncil, hvoter, -, rfl⟩ :=
        voteProposal_eq_ok.mp hstep
      exact carried_of_vote hb' hb rfl hf hget hopen hcouncil hvoter rfl
    | executeProposal propId =>
      obtain ⟨p, treasury, ledger, -, -, -, -, rfl⟩ := executeProposal_eq_ok hstep
      refine .of_kept (fun propId' p hget => ?_) ?_
      · by_cases hid : propId' = propId
        · subst hid
          exact nomatch StorageMap.get_remove_self.symm.trans hget
        · exact Or.inl ((StorageMap.get_remove_of_ne hid).symm.trans hget)
      · rintro _ _ heq hother
        cases heq
        exact absurd rfl (hother propId)

/-! ### Runs -/

/-- **Proposals are sound** in the runs in which they are entered under identifiers that nobody has
voted under, and pass with more than half of their council even without those who have left it. -/
theorem proposals_sound (cfg : Config AccountId) (ledger : L) (xs : List (Input AccountId L))
    (hfair : Along (recording (record cfg) (step cfg)) (fun t x => Fair t.1 t.2 x) xs
      (genesis ledger, .empty)) :
    Throughout (recording (record cfg) (step cfg)) (fun t => Sound t.1 t.2) xs
        (genesis ledger, .empty) ∧
      Along (recording (record cfg) (step cfg)) (fun t x =>
        Carried x t.1 (exec (step cfg) x t.1) (record cfg t.1 x t.2)) xs
          (genesis ledger, .empty) := by
  have hstep : ∀ x (t t' : State cfg L × History cfg L), Booked t.1 t.2 → Fair t.1 t.2 x →
      recording (record cfg) (step cfg) x t = .ok t' → Booked t'.1 t'.2 := by
    rintro x ⟨s, h⟩ ⟨s', h'⟩ hb hf hs
    obtain ⟨hs, rfl⟩ := recording_eq_ok.mp hs
    exact booked_step hb hf hs
  constructor
  · exact (throughout_of_along hstep (booked_genesis ledger) hfair).imp fun _ => Booked.sound
  · refine along_of_invariant hstep ?_ (booked_genesis ledger) hfair
    rintro x ⟨s, h⟩ ⟨s', h'⟩ hb hf hs
    obtain ⟨hs, rfl⟩ := recording_eq_ok.mp hs
    dsimp only
    rw [exec_ok hs]
    exact carried_step hb hf hs

/-! ### An identifier that is used again -/

/-- An organisation with one member on its council, and a proposal that the member carries. -/
def spending : List Runtime.DaoInput :=
  [Runtime.daoCall (.instantiateOrg (.ofByte 1) [Runtime.memberAccount 1]),
    Runtime.daoCall (.createProposal (.ofByte 1) (.ofByte 9) (Runtime.memberAccount 1)
      CentralBank.unit (Runtime.memberAccount 2)),
    Runtime.daoCall (.voteProposal (.ofByte 9) (Runtime.memberAccount 1) true),
    Runtime.daoCall (.executeProposal (.ofByte 9))]

/-- The storage before any call, with nothing in the books. -/
def spendingStart : Runtime.DaoState × History Runtime.decimalDao
    (Runtime.NativeLedger Runtime.AccountId32) :=
  (Runtime.daoGenesis [.ofByte 1], .empty)

theorem fair_spending : Along (recording (record Runtime.decimalDao) (step Runtime.decimalDao))
    (fun t x => Fair t.1 t.2 x) spending spendingStart := by
  refine ⟨fun _ _ => trivial, fun _ _ who => ?_, fun _ _ p council hget hcouncil _ => ?_,
    fun _ _ => trivial, trivial⟩
  · rw [exec_recording]
    rcases exec_cases (step Runtime.decimalDao)
      (Runtime.daoCall (.instantiateOrg (.ofByte 1) [Runtime.memberAccount 1]))
        (Runtime.daoGenesis [.ofByte 1]) with ⟨s', hs', he⟩ | ⟨e, hs', he⟩
    · obtain ⟨council, -, -, -, rfl⟩ := instantiateOrg_eq_ok.mp hs'
      exact he ▸ StorageMap.get_empty _
    · exact he ▸ StorageMap.get_empty _
  · have hp : ((run (recording (record Runtime.decimalDao) (step Runtime.decimalDao))
        (spending.take 2) spendingStart).1.proposals.get (.ofByte 9)).map
          (fun p => (p.orgId, p.votesFor)) = some (.ofByte 1, 0) := by
      decide +kernel
    obtain ⟨p', hget', hsays⟩ := Option.map_eq_some_iff.mp hp
    obtain rfl : p = p' := Option.some.inj (hget.symm.trans hget')
    obtain ⟨horg, hfor⟩ := Prod.mk.injEq .. ▸ hsays
    rw [horg, hfor]
    decide +kernel

theorem proposals_sound_spending :
    (Throughout (recording (record Runtime.decimalDao) (step Runtime.decimalDao))
          (fun t => Sound t.1 t.2) spending spendingStart ∧
        Along (recording (record Runtime.decimalDao) (step Runtime.decimalDao)) (fun t x =>
          Carried x t.1 (exec (step Runtime.decimalDao) x t.1)
            (record Runtime.decimalDao t.1 x t.2)) spending spendingStart) ∧
      ((run (recording (record Runtime.decimalDao) (step Runtime.decimalDao)) spending
        spendingStart).2.payments (.ofByte 9)).length = 1 :=
  ⟨proposals_sound Runtime.decimalDao _ spending fair_spending, by decide +kernel⟩

/-- What the relayer does once more. -/
def spendingAgain : List Runtime.DaoInput :=
  spending ++ [Runtime.daoCall (.createProposal (.ofByte 1) (.ofByte 9) (Runtime.memberAccount 1)
    CentralBank.unit (Runtime.memberAccount 2))]

/-- Proposals are not sound in every run: a member of the council who has not voted on a proposal
cannot do so when another was paid out under its identifier. -/
theorem proposals_not_sound : ¬ ∀ xs,
    Throughout (recording (record Runtime.decimalDao) (step Runtime.decimalDao))
        (fun t => Sound t.1 t.2) xs spendingStart ∧
      Along (recording (record Runtime.decimalDao) (step Runtime.decimalDao)) (fun t x =>
        Carried x t.1 (exec (step Runtime.decimalDao) x t.1) (record Runtime.decimalDao t.1 x t.2))
          xs spendingStart := by
  intro hsound
  have hlast := (hsound spendingAgain).1.last
  set t := run (recording (record Runtime.decimalDao) (step Runtime.decimalDao)) spendingAgain
    spendingStart with ht
  have hget : t.1.proposals.get (.ofByte 9) = some ⟨.ofByte 1, Runtime.memberAccount 1,
      CentralBank.unit, Runtime.memberAccount 2, 0, 0, .opened⟩ := by
    rw [ht]
    decide +kernel
  have hmember : Runtime.memberAccount 1 ∈ seats t.1 (.ofByte 1) := by
    rw [ht]
    decide +kernel
  have hnew : Runtime.memberAccount 1 ∉ t.2.voters (.ofByte 9) := by
    rw [ht]
    decide +kernel
  have hrefused : (step Runtime.decimalDao (Runtime.daoCall (.voteProposal (.ofByte 9)
      (Runtime.memberAccount 1) true)) t.1).isOk = false := by
    rw [ht]
    decide +kernel
  obtain ⟨s', hs'⟩ := hlast.votable (.ofByte 9) _ _ true hget rfl hmember hnew
  unfold Runtime.daoCall at hrefused
  rw [hs'] at hrefused
  cases hrefused

end DecimalDao
