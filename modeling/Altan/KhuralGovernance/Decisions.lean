import Altan.KhuralGovernance.Bills

/-!
# Who decides expert bills

Leaders of an Arbad and above vote on an expert bill, and anybody finalises it, at any time: three
approvals pass it, whatever is against it, and otherwise it is rejected, also when nobody has voted
yet. So a bill is decided by those who may vote just when it is finalised at a time that suits the
votes it has.

## Main definitions

* `Ballot`, `recordBallot`: the votes of those who may vote, as the history of the system
* `Becomes`, `Decided`: a bill is executed or rejected, and as those who may vote have decided
* `Ripe`: the votes on a bill that is finalised decide it

## Main results

* `decided_step_iff`: one step
* `bills_decided_iff`: the runs in which all bills are decided by those who may vote
-/

open Bounded Dispatch Ledger TransitionSystem Identity

namespace KhuralGovernance

variable {AccountId L : Type}

/-! ### The ballots -/

/-- A vote of an active citizen who leads an Arbad or ranks above. -/
structure Ballot (AccountId : Type) where
  voter : AccountId
  record : CitizenRecord
  approve : Bool
  active : record.status = .active
  leader : isAtLeastArbadLeader record.role = true

/-- The vote of an account, if it may vote. -/
def ballotOf (citizens : AccountId → Option CitizenRecord) (who : AccountId) (approve : Bool) :
    Option (Ballot AccountId) :=
  (citizens who).bind fun record =>
    if h : record.status = .active ∧ isAtLeastArbadLeader record.role = true then
      some ⟨who, record, approve, h.1, h.2⟩
    else none

theorem ballotOf_eq_some {citizens : AccountId → Option CitizenRecord} {who : AccountId}
    {record : CitizenRecord} (h : ActiveCitizen citizens who record)
    (hleader : isAtLeastArbadLeader record.role = true) (approve : Bool) :
    ∃ ballot, ballotOf citizens who approve = some ballot := by
  unfold ballotOf
  rw [h.1, Option.bind_some, dif_pos ⟨h.2, hleader⟩]
  exact ⟨_, rfl⟩

/-- The votes on each bill, since it was submitted. -/
abbrev Ballots (AccountId : Type) := ℕ → List (Ballot AccountId)

/-- What an accepted input adds to the ballots. -/
def recordBallot (w : World AccountId L) (x : Input AccountId L) (h : Ballots AccountId) :
    Ballots AccountId :=
  match x with
  | .call _ _ _ (.proposeExpertBill ..) => Function.update h w.nextExpertBillId []
  | .call (.signed who) citizens _ (.voteOnExpertBill billId approve) =>
    Function.update h billId (h billId ++ (ballotOf citizens who approve).toList)
  | _ => h

section Decisions

variable [DecidableEq AccountId] [Currency AccountId L] [EscrowCurrency AccountId L]

omit [DecidableEq AccountId] [Currency AccountId L] [EscrowCurrency AccountId L] in
/-- A bill gets a status it did not have. -/
def Becomes (w w' : World AccountId L) (billId : ℕ) (status : ProposalStatus) : Prop :=
  (w.expertBills.get billId).map ExpertBill.status ≠ some status ∧
    (w'.expertBills.get billId).map ExpertBill.status = some status

/-- The bills that are decided, are decided by those who may vote: a bill is rejected only when
there have been votes on it and the approvals do not prevail, and executed only with three approvals
and more than are against it. -/
def Decided (w : World AccountId L) (h : Ballots AccountId) (w' : World AccountId L) : Prop :=
  ∀ billId b', w'.expertBills.get billId = some b' →
    (Becomes w w' billId .rejected → h billId ≠ [] ∧ b'.votesFor ≤ b'.votesAgainst) ∧
    (Becomes w w' billId .executed → 3 ≤ b'.votesFor ∧ b'.votesAgainst < b'.votesFor)

/-- The votes on a bill that is finalised decide it. -/
def Ripe (w : World AccountId L) : Input AccountId L → Prop
  | .call _ _ _ (.executeExpertBill billId) => ∀ b, w.expertBills.get billId = some b →
    if 3 ≤ b.votesFor then b.votesAgainst < b.votesFor
    else 0 < b.votesFor + b.votesAgainst ∧ b.votesFor ≤ b.votesAgainst
  | _ => True

instance decidableRipe (w : World AccountId L) : (x : Input AccountId L) → Decidable (Ripe w x)
  | .call _ _ _ (.executeExpertBill billId) =>
    match hget : w.expertBills.get billId with
    | some _ => decidable_of_iff _ (StorageMap.forall_get_iff hget).symm
    | none => isTrue fun b hb => by rw [hget] at hb; cases hb
  | .call _ _ _ (.createProposal ..) => isTrue trivial
  | .call _ _ _ (.vote ..) => isTrue trivial
  | .call _ _ _ (.executeProposal _) => isTrue trivial
  | .call _ _ _ (.proposeExpertBill ..) => isTrue trivial
  | .call _ _ _ (.voteOnExpertBill ..) => isTrue trivial
  | .elsewhere _ => isTrue trivial
  | .block => isTrue trivial

/-- The tallies of a bill are zero just when there is no ballot. -/
def Balloted (w : World AccountId L) (h : Ballots AccountId) : Prop :=
  ∀ billId b, w.expertBills.get billId = some b →
    (0 < b.votesFor + b.votesAgainst ↔ h billId ≠ [])

variable {cfg : Config AccountId} {w w' : World AccountId L} {x : Input AccountId L}
  {h : Ballots AccountId}

theorem balloted_step (hb : Balloted w h) (hs : step cfg x w = .ok w') :
    Balloted w' (recordBallot w x h) := by
  cases step_transition hs with
  | proposeExpertBill =>
    intro c b hget
    rcases StorageMap.get_insert_cases hget with ⟨rfl, rfl⟩ | ⟨hne, hget⟩
    · exact iff_of_false (Nat.lt_irrefl 0) fun hno => hno (Function.update_self _ _ h)
    · exact (hb c b hget).trans (by rw [recordBallot, Function.update_of_ne hne])
  | voteOnExpertBill caller citizens isAcademician billId approve citizen b₀ hcitizen hleader
      hget₀ =>
    intro c b hget
    rcases StorageMap.get_insert_cases hget with ⟨rfl, rfl⟩ | ⟨hne, hget⟩
    · refine iff_of_true ?_ ?_
      · -- a vote leaves a tally that is not zero
        have hpos : ∀ n, 0 < saturatingAdd u32Max n 1 := fun n =>
          lt_min (Nat.succ_pos n) (by decide)
        cases approve with
        | true => exact Nat.add_pos_left (hpos _) _
        | false => exact Nat.add_pos_right _ (hpos _)
      · obtain ⟨ballot, hballot⟩ := ballotOf_eq_some hcitizen hleader approve
        rw [recordBallot, Function.update_self, hballot]
        exact List.append_ne_nil_of_right_ne_nil _ (List.cons_ne_nil _ _)
    · exact (hb c b hget).trans (by rw [recordBallot, Function.update_of_ne hne])
  | executeExpertBill caller citizens isAcademician billId b₀ hget₀ =>
    intro c b hget
    rcases StorageMap.get_insert_cases hget with ⟨rfl, rfl⟩ | ⟨-, hget⟩
    · exact hb c b₀ hget₀
    · exact hb c b hget
  | block =>
    intro c b hget
    exact hb c b ((onInitialize_aside cfg _ w.toState).expertBills ▸ hget)
  | executeProposal _ _ _ id p =>
    intro c b hget
    exact hb c b ((enactProposal_aside cfg id p w.toState).expertBills ▸ hget)
  | createProposal => exact hb
  | vote => exact hb
  | elsewhere => exact hb

omit [DecidableEq AccountId] [Currency AccountId L] [EscrowCurrency AccountId L] in
/-- Nothing is decided while every bill is active, or has the status it had. -/
theorem decided_of_status
    (hstatus : ∀ billId b', w'.expertBills.get billId = some b' →
      b'.status = .active ∨ (w.expertBills.get billId).map ExpertBill.status = some b'.status) :
    Decided w h w' := by
  have hno : ∀ billId b' status, w'.expertBills.get billId = some b' → status ≠ .active →
      ¬ Becomes w w' billId status := by
    rintro billId b' status hget hne ⟨hbefore, hafter⟩
    rw [hget, Option.map_some, Option.some.injEq] at hafter
    rcases hstatus billId b' hget with hactive | hsame
    · exact hne (hafter.symm.trans hactive)
    · exact hbefore (hafter ▸ hsame)
  intro billId b' hget
  exact ⟨fun hb => absurd hb (hno billId b' _ hget fun he => by cases he),
    fun hb => absurd hb (hno billId b' _ hget fun he => by cases he)⟩

omit [DecidableEq AccountId] [Currency AccountId L] [EscrowCurrency AccountId L] in
/-- One active bill gets another status. -/
theorem decided_insert_iff {billId : ℕ} {b b' : ExpertBill AccountId}
    (hbills : w'.expertBills = w.expertBills.insert billId b')
    (hget : w.expertBills.get billId = some b) (hactive : b.status = .active) :
    Decided w h w' ↔
      (b'.status = .rejected → h billId ≠ [] ∧ b'.votesFor ≤ b'.votesAgainst) ∧
      (b'.status = .executed → 3 ≤ b'.votesFor ∧ b'.votesAgainst < b'.votesFor) := by
  -- the bill gets what status it has now, since it was active
  have hbecomes : ∀ status, status ≠ .active →
      (Becomes w w' billId status ↔ b'.status = status) := by
    intro status hne
    unfold Becomes
    rw [hbills, hget, StorageMap.get_insert_self, Option.map_some, Option.map_some, hactive,
      Option.some.injEq, ne_eq, Option.some.injEq]
    exact and_iff_right fun he => hne he.symm
  have hrejected := hbecomes .rejected fun he => by cases he
  have hexecuted := hbecomes .executed fun he => by cases he
  constructor
  · intro hd
    have hget' : w'.expertBills.get billId = some b' := by rw [hbills, StorageMap.get_insert_self]
    rw [← hrejected, ← hexecuted]
    exact hd billId b' hget'
  · intro hone c b'' hget'
    rw [hbills] at hget'
    rcases StorageMap.get_insert_cases hget' with ⟨rfl, rfl⟩ | ⟨hne, hold⟩
    · rw [hrejected, hexecuted]
      exact hone
    · -- the other bills have the status they had
      have hno : ∀ status, ¬ Becomes w w' c status := by
        rintro status ⟨hbefore, hafter⟩
        rw [hbills, StorageMap.get_insert_of_ne hne] at hafter
        exact hbefore hafter
      exact ⟨fun hr => absurd hr (hno _), fun he => absurd he (hno _)⟩

/-- **A bill is decided by those who may vote exactly when it is ripe.** -/
theorem decided_step_iff (hb : Balloted w h) (hs : step cfg x w = .ok w') :
    Decided w h w' ↔ Ripe w x := by
  have hsame : ∀ {t : World AccountId L}, t.expertBills = w.expertBills → Decided w h t := by
    intro t ht
    -- no status changes
    refine decided_of_status fun billId b' hget => Or.inr ?_
    rw [ht] at hget
    rw [hget, Option.map_some]
  cases step_transition hs with
  | proposeExpertBill =>
    -- a bill that is submitted is active
    refine iff_of_true (decided_of_status fun billId b' hget => ?_) trivial
    rcases StorageMap.get_insert_cases hget with ⟨-, rfl⟩ | ⟨-, hget⟩
    · exact Or.inl rfl
    · exact Or.inr (by rw [hget, Option.map_some])
  | voteOnExpertBill caller citizens isAcademician billId approve citizen b _ _ hget₀ hactive =>
    refine iff_of_true (decided_of_status fun billId b' hget => ?_) trivial
    rcases StorageMap.get_insert_cases hget with ⟨-, rfl⟩ | ⟨-, hget⟩
    · refine Or.inl (Eq.trans ?_ hactive)
      cases approve <;> rfl
    · exact Or.inr (by rw [hget, Option.map_some])
  | executeExpertBill caller citizens isAcademician billId b hget hactive =>
    refine (decided_insert_iff rfl hget hactive).trans (Iff.trans ?_ (StorageMap.forall_get_iff
      (p := fun b : ExpertBill AccountId => if 3 ≤ b.votesFor then b.votesAgainst < b.votesFor
        else 0 < b.votesFor + b.votesAgainst ∧ b.votesFor ≤ b.votesAgainst) hget).symm)
    rw [hb billId b hget]
    change ((if b.passed then _ else _) = _ → _ ∧ b.votesFor ≤ b.votesAgainst) ∧
      ((if b.passed then _ else _) = _ → 3 ≤ b.votesFor ∧ b.votesAgainst < b.votesFor) ↔ _
    -- with three approvals it is executed, else rejected
    by_cases hpassed : 3 ≤ b.votesFor
    · have hp : b.passed = true := decide_eq_true hpassed
      rw [if_pos hpassed, hp]
      exact ⟨fun hd => (hd.2 rfl).2, fun hmajority => ⟨fun he => (by cases he), fun _ =>
        ⟨hpassed, hmajority⟩⟩⟩
    · have hp : b.passed = false := decide_eq_false hpassed
      rw [if_neg hpassed, hp]
      exact ⟨fun hd => hd.1 rfl, fun hvoted => ⟨fun _ => hvoted, fun he => by cases he⟩⟩
  | block => exact iff_of_true (hsame (onInitialize_aside cfg _ w.toState).expertBills) trivial
  | executeProposal _ _ _ id p =>
    exact iff_of_true (hsame (enactProposal_aside cfg id p w.toState).expertBills) trivial
  | createProposal => exact iff_of_true (hsame rfl) trivial
  | vote => exact iff_of_true (hsame rfl) trivial
  | elsewhere => exact iff_of_true (hsame rfl) trivial

/-- A run from any state whose tallies are those of the ballots. -/
theorem along_decided_iff (hb : Balloted w h) (xs : List (Input AccountId L)) :
    Along (recording recordBallot (step cfg))
        (fun t x => Decided t.1 t.2 (exec (step cfg) x t.1)) xs (w, h) ↔
      Along (step cfg) Ripe xs w := by
  have hripe : Along (recording recordBallot (step cfg)) (fun t x => Ripe t.1 x) xs (w, h) ↔
      Along (step cfg) Ripe xs w := along_recording
  rw [← hripe]
  exact along_recording_congr (J := Balloted) (R := fun s s' h _ => Decided s h s')
    (Q := fun s _ x => Ripe s x) (fun _ _ _ _ => balloted_step) (fun _ _ _ _ => decided_step_iff)
    hb

omit [DecidableEq AccountId] [Currency AccountId L] [EscrowCurrency AccountId L] in
theorem balloted_genesis (ledger : L) (now : ℕ) (hnow : now ≤ u32Max) :
    Balloted (World.genesis ledger now hnow : World AccountId L) fun _ => [] := by
  intro billId b hget
  simp [World.genesis, genesis] at hget

/-- All bills are decided by those who may vote in exactly the runs that finalise a bill only when
its votes decide it. -/
theorem bills_decided_iff (cfg : Config AccountId) (ledger : L) (now : ℕ) (hnow : now ≤ u32Max)
    (xs : List (Input AccountId L)) :
    Along (recording recordBallot (step cfg))
        (fun t x => Decided t.1 t.2 (exec (step cfg) x t.1)) xs
        (World.genesis ledger now hnow, fun _ => []) ↔
      Along (step cfg) Ripe xs (World.genesis ledger now hnow) :=
  along_decided_iff (balloted_genesis ledger now hnow) xs

end Decisions

/-! ### A stranger finalises a bill -/

/-- A bill is submitted, and an account that is no citizen finalises it. -/
def finalisedAtOnce : List (Input ℕ (Runtime.EscrowLedger ℕ)) :=
  [submission, .call (.signed 5) (fun _ => none) (fun _ => false) (.executeExpertBill 0)]

/-- The bill is rejected without a vote. -/
theorem rejected_at_once :
    ¬ Along (recording recordBallot (step Runtime.khural))
      (fun t x => Decided t.1 t.2 (exec (step Runtime.khural) x t.1)) finalisedAtOnce
      (endowed, fun _ => []) := by
  unfold endowed
  rw [along_decided_iff (balloted_genesis _ 0 (Nat.zero_le _))]
  decide +kernel

/-- A bill that three leaders have approved is finalised. -/
def finalisedInTime : List (Input ℕ (Runtime.EscrowLedger ℕ)) :=
  submission :: ([7, 8, 9].map fun who => Runtime.amongLeaders who (.voteOnExpertBill 0 true)) ++
    [.call (.signed 5) (fun _ => none) (fun _ => false) (.executeExpertBill 0)]

/-- The bill is executed with their votes. -/
theorem bills_decided_iff_in_time :
    Along (recording recordBallot (step Runtime.khural))
      (fun t x => Decided t.1 t.2 (exec (step Runtime.khural) x t.1)) finalisedInTime
      (endowed, fun _ => []) := by
  refine (bills_decided_iff Runtime.khural _ 0 (Nat.zero_le _) finalisedInTime).mpr ?_
  decide +kernel

end KhuralGovernance
