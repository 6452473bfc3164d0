import Altan.Foundation.Accounting
import Altan.JudicialCourts.Spec
import Altan.Runtime.Estates

/-!
# What a sentence costs

A sentence moves money twice: from the defendant to the treasury, and a fifth of it from there to
the informant. The three may be one and the same in any way; the changes of each account are then
the sum of those of its parts. Nothing is created or destroyed, but for what is left to a defendant
when it is less than the existential deposit. Exile cancels the quests of the defendant, but who is
left without a free balance has nothing reserved that would come back.

A case is decided once and its sentence is executed once. The last number of a case is given again
when the numbers are used up, and only then does another case take the place of one that was
executed.

## Main definitions

* `confiscated`, `netChange`: what is taken, and what each account is to gain
* `Settled`, `SentenceSettled`: the effect of a sentence on the balances
* `ChainInput`, `chainStep`: the courts while the citizens and their balances change elsewhere
* `executions`, `openings`: how often a sentence is executed, and how often a number is given

## Main results

* `executeVerdict_settled`: an executed verdict is settled
* `executions_le`: a sentence is executed once for each case that is opened
* `verdict_accounting`: both along every run, as wired in the runtime
-/

open Bounded Dispatch Ledger TransitionSystem

namespace JudicialCourts

variable {AccountId L : Type}

/-! ### What a sentence takes -/

/-- What a sentence takes from the defendant: the penalty or, for a hate crime, all there is. -/
def CourtCase.confiscated [Ledger AccountId L] (c : CourtCase AccountId) (l : L) : ℕ :=
  match c.crimeCategory.getD .economic with
  | .hateCrimeAndFascism => freeBalance l c.defendant
  | .economic => c.penaltyAmount
  | .usurpation => c.penaltyAmount

variable [DecidableEq AccountId]

/-- What an account gains when an amount is confiscated: the share of the informant, the rest as
the treasury, and less the amount as the defendant. -/
def netChange (treasury : AccountId) (c : CourtCase AccountId) (amount : ℕ) (a : AccountId) : ℤ :=
  (if c.whistleblower = some a then (whistleblowerReward c amount : ℤ) else 0) +
    (if a = treasury then (amount : ℤ) - whistleblowerReward c amount else 0) -
    if a = c.defendant then (amount : ℤ) else 0

/-- An amount is confiscated, and what is left to the defendant is lost if it is dust. -/
structure Settled [Ledger AccountId L] (treasury : AccountId) (c : CourtCase AccountId)
    (l l' : L) (amount lost : ℕ) : Prop where
  free : ∀ a, (freeBalance l' a : ℤ) =
    freeBalance l a + netChange treasury c amount a - if a = c.defendant then (lost : ℤ) else 0
  issuance : totalIssuance l' + lost = totalIssuance l
  dust : lost = 0 ∨ lost < existentialDeposit L ∧ freeBalance l c.defendant = amount + lost

/-- The sentence in a guilty case is settled from one state of the courts to the next. -/
def SentenceSettled [Ledger AccountId L] (cfg : Config AccountId L) (s s' : State AccountId L)
    (caseId : ℕ) : Prop :=
  ∃ c, s.courtCases.get caseId = some c ∧ c.status = .guilty ∧
    ∃ lost, Settled cfg.treasury c s.identity.ledger s'.identity.ledger
      (c.confiscated s.identity.ledger) lost

/-- Exile leaves the balances of all when the exiled has nothing reserved. -/
def ExileSpares [Ledger AccountId L] (cfg : Identity.Config AccountId L) : Prop :=
  ∀ who (l : L), reservedBalance l who = 0 →
    (∀ a, freeBalance (cfg.onExiled who l) a = freeBalance l a) ∧
      totalIssuance (cfg.onExiled who l) = totalIssuance l

section Sentences

variable [Currency AccountId L] [Fungible AccountId L] {cfg : Config AccountId L}
  {ctx : Context AccountId} {c : CourtCase AccountId} {l l' : L} {amount reward : ℕ}

omit [DecidableEq AccountId] in
theorem whistleblowerReward_zero : whistleblowerReward c 0 = 0 := by
  unfold whistleblowerReward
  split <;> rfl

/-- The informant is paid from the treasury. -/
theorem payWhistleblower_eq_ok (hnone : c.whistleblower = none → reward = 0)
    (h : payWhistleblower cfg c reward l = .ok l') :
    totalIssuance l' = totalIssuance l ∧
      (∀ a, reservedBalance l' a = reservedBalance l a) ∧
      ∀ a, freeBalance l' a + (if a = cfg.treasury then reward else 0) =
        freeBalance l a + if c.whistleblower = some a then reward else 0 := by
  unfold payWhistleblower at h
  cases hw : c.whistleblower with
  | none =>
    rw [hw] at h
    obtain rfl := Except.ok.inj h
    rw [hnone hw]
    exact ⟨rfl, fun _ => rfl, fun a => by simp⟩
  | some w =>
    rw [hw] at h
    dsimp only at h
    split at h
    · next hpos =>
      rw [mapError_eq_ok] at h
      -- the treasury keeps its account, so nothing is lost
      obtain ⟨lost, hlost, hissuance, hfree⟩ := Fungible.transfer_free hpos.ne' h
      obtain rfl : lost = 0 := hlost.resolve_right fun hdust => nomatch hdust.1
      refine ⟨hissuance, Fungible.transfer_reserved hpos.ne' h, fun a => ?_⟩
      simpa only [Nat.add_zero, Option.some_inj, eq_comm (a := w)] using hfree a
    · next hzero =>
      obtain rfl := Except.ok.inj h
      rw [Nat.eq_zero_of_not_pos hzero]
      exact ⟨rfl, fun _ => rfl, fun a => by simp⟩

/-- **A confiscation is settled**, whoever is the informant and whoever the defendant. -/
theorem confiscate_settled {p : Preservation} (h : confiscate cfg c amount p l = .ok l') :
    (∃ lost, Settled cfg.treasury c l l' amount lost) ∧
      ∀ a, reservedBalance l' a = reservedBalance l a := by
  unfold confiscate at h
  split at h
  · next hpos =>
    rw [bind_eq_ok] at h
    obtain ⟨l₁, htaken, hpaid⟩ := h
    rw [mapError_eq_ok] at htaken
    obtain ⟨lost, hlost, hissuance, hfree⟩ := Fungible.transfer_free hpos.ne' htaken
    have hnone : c.whistleblower = none → whistleblowerReward c amount = 0 := by
      intro hw
      unfold whistleblowerReward
      rw [hw]
      rfl
    obtain ⟨hissuance', hreserved', hfree'⟩ := payWhistleblower_eq_ok hnone hpaid
    refine ⟨⟨lost, fun a => ?_, by rw [hissuance', hissuance], hlost.imp_right And.right⟩,
      fun a => ?_⟩
    · have hfirst := hfree a
      have hsecond := hfree' a
      unfold netChange
      split_ifs at hfirst hsecond ⊢ <;> omega
    · rw [hreserved', Fungible.transfer_reserved hpos.ne' htaken]
  · next hzero =>
    obtain rfl := Except.ok.inj h
    rw [Nat.eq_zero_of_not_pos hzero]
    refine ⟨⟨0, fun a => ?_, rfl, Or.inl rfl⟩, fun _ => rfl⟩
    simp [netChange, whistleblowerReward_zero]

/-! ### What a sentence comes to -/

omit [Currency AccountId L] [Fungible AccountId L] in
/-- Exile is refused, or reaches the ledger through other modules. -/
theorem attempt_doExile_ledger (cfg : Config AccountId L) (who : AccountId)
    (s : Identity.State AccountId L) :
    (attempt (Identity.doExile cfg.identity who) s).ledger = s.ledger ∨
      (attempt (Identity.doExile cfg.identity who) s).ledger =
        cfg.identity.onExiled who s.ledger := by
  cases hs : Identity.doExile cfg.identity who s with
  | error e => exact Or.inl (by rw [attempt_of_error hs])
  | ok s' =>
    rw [attempt_of_ok hs]
    simp only [Identity.doExile, bind_eq_ok, pure_eq_ok] at hs
    obtain ⟨r, -, -, -, rfl⟩ := hs
    exact Or.inr rfl

variable [EscrowCurrency AccountId L] [ProvidedTransfers AccountId L] {s s' : State AccountId L}
  {caseId : ℕ}

/-- Who loses all of the free balance has nothing reserved, before and after. -/
theorem confiscate_all_reserved
    (h : confiscate cfg c (freeBalance l c.defendant) .expendable l = .ok l') :
    reservedBalance l' c.defendant = 0 := by
  rw [(confiscate_settled h).2]
  by_cases hnothing : freeBalance l c.defendant = 0
  · exact EscrowCurrency.reservedBalance_eq_zero hnothing
  · unfold confiscate at h
    rw [if_pos (Nat.pos_of_ne_zero hnothing), bind_eq_ok] at h
    obtain ⟨l₁, htaken, -⟩ := h
    exact Fungible.reserved_of_transfer_all hnothing (mapError_eq_ok.mp htaken)

theorem executeGuillotine_settled (hexile : ExileSpares cfg.identity)
    (h : executeGuillotine cfg ctx caseId c s = .ok s') :
    ∃ lost, Settled cfg.treasury c s.identity.ledger s'.identity.ledger
      (freeBalance s.identity.ledger c.defendant) lost := by
  obtain ⟨l, hl, h⟩ := bind_eq_ok.mp h
  simp only [ensure_bind_eq_ok, pure_eq_ok] at h
  obtain ⟨-, rfl⟩ := h
  obtain ⟨⟨lost, hsettled⟩, -⟩ := confiscate_settled hl
  refine ⟨lost, ?_⟩
  have hexiled := attempt_doExile_ledger cfg c.defendant { s.identity with ledger := l }
  rcases hexiled with hledger | hledger
  · dsimp only
    rw [hledger]
    exact hsettled
  · dsimp only
    rw [hledger]
    obtain ⟨hfree, hissuance⟩ := hexile c.defendant l (confiscate_all_reserved hl)
    exact ⟨fun a => by rw [hfree, hsettled.free], by rw [hissuance, hsettled.issuance],
      hsettled.dust⟩

omit [EscrowCurrency AccountId L] [ProvidedTransfers AccountId L] in
theorem executeStandard_settled (h : executeStandard cfg c s = .ok s') :
    ∃ lost, Settled cfg.treasury c s.identity.ledger s'.identity.ledger c.penaltyAmount lost := by
  obtain ⟨l, hl, h⟩ := bind_eq_ok.mp h
  obtain rfl := pure_eq_ok.mp h
  rw [Identity.attempt_doUnfreezeCitizen]
  exact (confiscate_settled hl).1

/-- **An executed verdict is settled.** -/
theorem executeVerdict_settled (hexile : ExileSpares cfg.identity)
    (h : executeVerdict cfg ctx caseId s = .ok s') : SentenceSettled cfg s s' caseId := by
  simp only [executeVerdict, ensureSigned_bind_eq_ok, required_bind_eq_ok,
    ensure_bind_eq_ok] at h
  obtain ⟨-, -, c, hget, hguilty, h⟩ := h
  refine ⟨c, hget, hguilty, ?_⟩
  split at h
  · next hcategory =>
    obtain ⟨t, ht, h⟩ := bind_eq_ok.mp h
    obtain rfl := pure_eq_ok.mp h
    have hsettled := executeGuillotine_settled hexile ht
    rw [CourtCase.confiscated, hcategory]
    exact hsettled
  · next hcategory =>
    obtain ⟨t, ht, h⟩ := bind_eq_ok.mp h
    obtain rfl := pure_eq_ok.mp h
    have hsettled := executeStandard_settled ht
    rw [CourtCase.confiscated, hcategory]
    exact hsettled
  · next hcategory =>
    obtain ⟨t, ht, h⟩ := bind_eq_ok.mp h
    obtain rfl := pure_eq_ok.mp h
    have hsettled := executeStandard_settled ht
    rw [CourtCase.confiscated, hcategory]
    exact hsettled

end Sentences

/-! ### The courts among the other modules -/

/-- An input of the courts, or a change of the constitution, of the citizens and of the balances
elsewhere. -/
inductive ChainInput (AccountId L : Type)
  | court (x : Input AccountId)
  | elsewhere (constitution : Constitution.State AccountId) (identity : Identity.State AccountId L)

/-- One where the sentence in a case is executed. -/
def ChainInput.execution (caseId : ℕ) : ChainInput AccountId L → ℕ
  | .court (.call _ (.executeVerdict j)) => if j = caseId then 1 else 0
  | _ => 0

/-- One where a case is given a number. -/
def opens (caseId : ℕ) (w : World AccountId L) : ChainInput AccountId L → ℕ
  | .court (.call _ (.openCase _ _ _)) => if w.court.nextCaseId = caseId then 1 else 0
  | _ => 0

/-- One where a case is neither acquitted nor executed yet. -/
def undone : Option (CourtCase AccountId) → ℕ
  | some c => if c.status = .open ∨ c.status = .guilty then 1 else 0
  | none => 0

omit [DecidableEq AccountId] in
@[simp]
theorem execution_executeVerdict {caseId j : ℕ} {origin : Origin AccountId} :
    (ChainInput.court (.call origin (.executeVerdict j)) : ChainInput AccountId L).execution
      caseId = if j = caseId then 1 else 0 := rfl

omit [DecidableEq AccountId] in
@[simp]
theorem opens_openCase {caseId : ℕ} {w : World AccountId L} {origin : Origin AccountId}
    {defendant : AccountId} {evidenceHash : Bytes32} {whistleblower : Option AccountId} :
    opens caseId w (.court (.call origin (.openCase defendant evidenceHash whistleblower))) =
      if w.court.nextCaseId = caseId then 1 else 0 := rfl

omit [DecidableEq AccountId] in
theorem undone_some {c : CourtCase AccountId} :
    undone (some c) = if c.status = .open ∨ c.status = .guilty then 1 else 0 := rfl

omit [DecidableEq AccountId] in
theorem undone_le_one (c : Option (CourtCase AccountId)) : undone c ≤ 1 := by
  cases c with
  | none => exact Nat.zero_le 1
  | some c =>
    rw [undone_some]
    split <;> omega

section Runs

variable [Currency AccountId L] [Fungible AccountId L] {cfg : Config AccountId L}
  {x : ChainInput AccountId L} {w w' : World AccountId L} {caseId : ℕ}

/-- The state after one input. -/
def chainStep (cfg : Config AccountId L) :
    ChainInput AccountId L → World AccountId L → Result (World AccountId L)
  | .court x, w => step cfg x w
  | .elsewhere constitution identity, w =>
    .ok { w with court := { w.court with
      constitution := constitution
      identity := identity } }

/-- How often the sentence in a case is executed in a run. -/
def executions (cfg : Config AccountId L) (caseId : ℕ) :
    List (ChainInput AccountId L) → World AccountId L → ℕ :=
  tally (chainStep cfg) fun _ x => x.execution caseId

/-- How often a case with this number is opened in a run. -/
def openings (cfg : Config AccountId L) (caseId : ℕ) :
    List (ChainInput AccountId L) → World AccountId L → ℕ :=
  tally (chainStep cfg) fun w x => opens caseId w x

/-- **Step lemma.** A sentence is executed in a case that is undone, and it is done then. -/
theorem chainStep_undone (h : chainStep cfg x w = .ok w') :
    undone (w'.court.courtCases.get caseId) + x.execution caseId ≤
      undone (w.court.courtCases.get caseId) + opens caseId w x := by
  cases x with
  | elsewhere =>
    obtain rfl := Except.ok.inj h
    exact Nat.le_refl _
  | court x =>
    cases x with
    | block =>
      have hblock : step cfg .block w = .ok w' := h
      obtain ⟨-, -, hcourt⟩ := step_block hblock
      rw [hcourt]
      exact Nat.le_refl _
    | call origin c =>
      obtain ⟨-, hcall⟩ := step_call h
      cases c with
      | openCase defendant =>
        obtain ⟨c, -, hopen, hcases⟩ := (openCase_opened hcall).cases
        rw [hcases, StorageMap.get_insert, opens_openCase]
        by_cases hid : caseId = w.court.nextCaseId
        · rw [if_pos hid, if_pos hid.symm]
          change undone (some c) ≤ undone _ + 1
          exact (undone_le_one _).trans (Nat.le_add_left _ _)
        · rw [if_neg hid, if_neg (Ne.symm hid)]
          exact Nat.le_refl _
      | issueVerdict j isGuilty =>
        obtain ⟨c, hdecided⟩ := issueVerdict_decided hcall
        obtain ⟨c', -, hstatus, hcases⟩ := hdecided.cases
        rw [hcases, StorageMap.get_insert]
        by_cases hid : caseId = j
        · -- an open case comes to a verdict
          have hundone : undone (some c) = 1 := if_pos (Or.inl hdecided.isOpen)
          rw [if_pos hid, hid, hdecided.found, hundone]
          exact undone_le_one (some c')
        · rw [if_neg hid]
          exact Nat.le_refl _
      | executeVerdict j =>
        obtain ⟨c, hexecuted⟩ := executeVerdict_executed hcall
        rw [hexecuted.cases, StorageMap.get_insert, execution_executeVerdict]
        by_cases hid : caseId = j
        · have hundone : undone (some c) = 1 := if_pos (Or.inr hexecuted.isGuilty)
          have hdone : undone (some { c with status := .executed }) = 0 := rfl
          rw [if_pos hid, if_pos hid.symm, hid, hexecuted.found, hundone, hdone]
          exact Nat.le_refl _
        · rw [if_neg hid, if_neg (Ne.symm hid)]
          exact Nat.le_refl _
      | declareUsurper target =>
        rw [(declareUsurper_usurped hcall).cases]
        exact Nat.le_refl _

/-- **A sentence is executed once for each case that is opened**, and once for one that is undone
before. -/
theorem executions_le (caseId : ℕ) (xs : List (ChainInput AccountId L)) (w : World AccountId L) :
    executions cfg caseId xs w ≤
      undone (w.court.courtCases.get caseId) + openings cfg caseId xs w := by
  have hstep : ∀ (x : ChainInput AccountId L) w w', chainStep cfg x w = .ok w' →
      undone (w'.court.courtCases.get caseId) + x.execution caseId ≤
        undone (w.court.courtCases.get caseId) + opens caseId w x :=
    fun _ _ _ h => chainStep_undone h
  exact tally_le_of_step (fun w => undone (w.court.courtCases.get caseId))
    (fun w x => opens caseId w x) (fun _ x => x.execution caseId) hstep xs w

/-- One where a number is still to be given. -/
def unnumbered (caseId : ℕ) (w : World AccountId L) : ℕ :=
  if w.court.nextCaseId ≤ caseId then 1 else 0

/-- Every number but the last is given once. -/
theorem chainStep_unnumbered (hmax : caseId < u32Max) (h : chainStep cfg x w = .ok w') :
    unnumbered caseId w' + opens caseId w x ≤ unnumbered caseId w := by
  unfold unnumbered
  cases x with
  | elsewhere =>
    obtain rfl := Except.ok.inj h
    exact Nat.le_refl _
  | court x =>
    cases x with
    | block =>
      have hblock : step cfg .block w = .ok w' := h
      obtain ⟨-, -, hcourt⟩ := step_block hblock
      rw [hcourt]
      exact Nat.le_refl _
    | call origin c =>
      obtain ⟨-, hcall⟩ := step_call h
      cases c with
      | openCase defendant =>
        have hid : w'.court.nextCaseId = min (w.court.nextCaseId + 1) u32Max :=
          (openCase_opened hcall).nextCaseId
        rw [hid, opens_openCase]
        split_ifs <;> omega
      | issueVerdict j isGuilty =>
        obtain ⟨c, hdecided⟩ := issueVerdict_decided hcall
        rw [hdecided.nextCaseId]
        exact Nat.le_refl _
      | executeVerdict j =>
        obtain ⟨c, hexecuted⟩ := executeVerdict_executed hcall
        rw [hexecuted.nextCaseId]
        exact Nat.le_refl _
      | declareUsurper target =>
        rw [(declareUsurper_usurped hcall).nextCaseId]
        exact Nat.le_refl _

theorem openings_le (hmax : caseId < u32Max) (xs : List (ChainInput AccountId L))
    (w : World AccountId L) : openings cfg caseId xs w ≤ unnumbered caseId w := by
  have hstep : ∀ (x : ChainInput AccountId L) w w', chainStep cfg x w = .ok w' →
      unnumbered caseId w' + opens caseId w x ≤ unnumbered caseId w + 0 :=
    fun _ _ _ h => chainStep_unnumbered hmax h
  have hle := tally_le_of_step (unnumbered caseId) (fun _ _ => 0) (fun w x => opens caseId w x)
    hstep xs w
  rwa [tally_zero, Nat.add_zero] at hle

/-- An input that has a sentence executed settles it. -/
def VerdictSettled (cfg : Config AccountId L) (w : World AccountId L)
    (x : ChainInput AccountId L) : Prop :=
  match x with
  | .court (.call _ (.executeVerdict caseId)) =>
    SentenceSettled cfg w.court (exec (chainStep cfg) x w).court caseId
  | _ => True

theorem verdictSettled_of_step [EscrowCurrency AccountId L] [ProvidedTransfers AccountId L]
    (hexile : ExileSpares cfg.identity) (h : chainStep cfg x w = .ok w') :
    VerdictSettled cfg w x := by
  cases x with
  | elsewhere => trivial
  | court x =>
    cases x with
    | block => trivial
    | call origin c =>
      cases c with
      | executeVerdict caseId =>
        change SentenceSettled cfg w.court (exec (chainStep cfg) _ w).court caseId
        rw [exec_ok h]
        exact executeVerdict_settled hexile (step_call h).2
      | _ => trivial

end Runs

/-! ### The courts in the runtime -/

section Runtime

variable [Currency AccountId L] [EscrowCurrency AccountId L] [Fungible AccountId L]
  [ProvidedTransfers AccountId L]

/-- The courts in the runtime, where exile cancels the quests of a citizen. -/
def wired (cfg : Estates.Config AccountId L) (treasury : AccountId)
    (judges usurpation : Origin AccountId → Bool) :
    Config AccountId (Estates.Estate AccountId L) where
  treasury := treasury
  judgesCollectiveOrigin := judges
  usurpationOrigin := usurpation
  identity := cfg.identity

omit [Fungible AccountId L] [ProvidedTransfers AccountId L] in
/-- What the quests of the exiled give back is reserved before. -/
theorem exileSpares_wired (cfg : Estates.Config AccountId L) : ExileSpares cfg.identity := by
  intro who e hnone
  have hreleased := Estates.cleanupAccount_released e who
  rw [hnone, Nat.min_zero] at hreleased
  refine ⟨fun a => ?_, hreleased.issuance⟩
  by_cases ha : a = who
  · rw [ha]
    exact hreleased.free
  · exact hreleased.others a ha

/-- **What a sentence costs, and how often.** Along every run of the courts as wired in the runtime,
with the citizens and the balances changing elsewhere, every sentence that is executed is in a
guilty case and is settled; what is refused changes nothing. For each case that is opened a sentence
is executed once at most, and every number but the last is given to one case only. -/
theorem verdict_accounting (cfg : Estates.Config AccountId L) (treasury : AccountId)
    (judges usurpation : Origin AccountId → Bool) (now : ℕ)
    (identity : Identity.State AccountId (Estates.Estate AccountId L))
    (xs : List (ChainInput AccountId (Estates.Estate AccountId L))) :
    Along (chainStep (wired cfg treasury judges usurpation))
      (VerdictSettled (wired cfg treasury judges usurpation)) xs ⟨now, genesis identity⟩ ∧
    (∀ x w e, chainStep (wired cfg treasury judges usurpation) x w = .error e →
      exec (chainStep (wired cfg treasury judges usurpation)) x w = w) ∧
    ∀ caseId,
      executions (wired cfg treasury judges usurpation) caseId xs ⟨now, genesis identity⟩ ≤
        openings (wired cfg treasury judges usurpation) caseId xs ⟨now, genesis identity⟩ ∧
      (caseId < u32Max →
        openings (wired cfg treasury judges usurpation) caseId xs ⟨now, genesis identity⟩ ≤ 1) ∧
      ∀ w, executions (wired cfg treasury judges usurpation) caseId xs w ≤
        1 + openings (wired cfg treasury judges usurpation) caseId xs w := by
  refine ⟨along_of_step (fun x w w' h => verdictSettled_of_step (exileSpares_wired cfg) h) xs _,
    fun x w e h => exec_error h, fun caseId => ⟨?_, fun hmax => ?_, fun w => ?_⟩⟩
  · exact (executions_le caseId xs _).trans (Nat.zero_add _).le
  · exact (openings_le hmax xs _).trans (if_pos (Nat.zero_le _)).le
  · exact (executions_le caseId xs w).trans (Nat.add_le_add_right (undone_le_one _) _)

end Runtime

/-- A citizen is fined a hundred units on the word of the plaintiff, and the sentence is asked for
twice. -/
def fine : List (ChainInput ℕ (Estates.Estate ℕ (Runtime.EscrowLedger ℕ))) :=
  [.court (.call (.signed 8) (.openCase 7 (.ofNat 0) (some 8))),
    .court (.call .root
      (.issueVerdict 0 true (.ofNat 0) (100 * CentralBank.unit) .economic)),
    .court (.call (.signed 8) (.executeVerdict 0)),
    .court (.call (.signed 8) (.executeVerdict 0))]

/-- The courts of the runtime: root stands for the judges. -/
def runtimeCourts : Config ℕ (Estates.Estate ℕ (Runtime.EscrowLedger ℕ)) :=
  wired Runtime.estates 2 (fun origin => decide (origin = .root))
    fun origin => decide (origin = .root)

/-- The citizen 7 is registered, who has a thousand units, as the treasury 2 and the account 8. -/
def registered : State ℕ (Estates.Estate ℕ (Runtime.EscrowLedger ℕ)) :=
  genesis (run (Identity.step Runtime.estates.identity)
    [Runtime.decree (Runtime.registration 7 (.ofNat 0))] Runtime.estatesGenesis).toState

/-- The plaintiff has a fifth of the fine and the treasury the rest, and that once. -/
theorem verdict_accounting_fine :
    Along (chainStep runtimeCourts) (VerdictSettled runtimeCourts) fine ⟨1, registered⟩ ∧
      executions runtimeCourts 0 fine ⟨1, registered⟩ ≤ 1 ∧
      [2, 7, 8].map (freeBalance
        (run (chainStep runtimeCourts) fine ⟨1, registered⟩).court.identity.ledger) =
          [1080 * CentralBank.unit, 900 * CentralBank.unit, 1020 * CentralBank.unit] := by
  obtain ⟨hsettled, -, honce⟩ := verdict_accounting Runtime.estates 2
    (fun origin => decide (origin = .root)) (fun origin => decide (origin = .root)) 1 _ fine
  obtain ⟨hexecutions, hopenings, -⟩ := honce 0
  exact ⟨hsettled, hexecutions.trans (hopenings (by decide)), by decide +kernel⟩

end JudicialCourts
