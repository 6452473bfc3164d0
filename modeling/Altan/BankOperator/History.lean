import Altan.BankOperator.Spec
import Altan.Foundation.TransitionSystem

/-!
# Credit histories

The credit score of a citizen is stored with how many credits they have repaid and how many are in
default. A default is always written to the record. A repayment is written only if it changes the
score, so a credit repaid in full at the highest score is not counted.

## Main definitions

* `State.creditsOf`: how many contracts of a citizen have a status
* `CreditScoreRecord.FaithfulTo`, `State.Faithful`: the records are in range and count the contracts
* `State.Rated`: whoever has a contract has a record
* `KeepsHistory`: what a call that keeps the records faithful meets

## Main results

* `rated_step`: a record is there before the first contract
* `faithful_step_iff`: when a call keeps the records faithful
* `history_faithful_iff`: the runs throughout which the records are faithful
* `full_score_not_counted`: a credit repaid in full that its record does not count
-/

open Bounded Dispatch Ledger TransitionSystem Runtime

namespace BankOperator

/-! ### Records -/

namespace CreditScoreRecord

/-- The score is in its range, and the record counts the credits repaid and those in default. -/
structure FaithfulTo (repaid defaulted : ℕ) (r : CreditScoreRecord) : Prop where
  atLeast : 300 ≤ r.score
  atMost : r.score ≤ 850
  repaid : r.creditsRepaid = repaid
  defaulted : r.creditsDefaulted = defaulted

variable {n m : ℕ} {r : CreditScoreRecord}

theorem newDefault_faithful : newDefault.FaithfulTo 0 0 := ⟨by decide, by decide, rfl, rfl⟩

/-- The score after a bonus. -/
theorem bonus_eq (h : r.score ≤ 850) (bonus : ℕ) (hbonus : bonus ≤ 20) :
    min (saturatingAdd u16Max r.score bonus) 850 = min (r.score + bonus) 850 := by
  have hfits : r.score + bonus ≤ u16Max := by
    have hmax : 870 ≤ u16Max := by decide
    omega
  rw [saturatingAdd_of_le hfits]

theorem FaithfulTo.partial_repayment (h : r.FaithfulTo n m) :
    r.applyPartialRepayment.FaithfulTo n m where
  atLeast := by
    have hscore := bonus_eq h.atMost 5 (by decide)
    have hlow := h.atLeast
    unfold applyPartialRepayment
    dsimp only
    omega
  atMost := Nat.min_le_right _ _
  repaid := h.repaid
  defaulted := h.defaulted

/-- A credit repaid in full is counted unless the counter is at its end. -/
theorem FaithfulTo.full_repayment_iff (h : r.FaithfulTo n m) :
    r.applyFullRepayment.FaithfulTo (n + 1) m ↔ r.creditsRepaid < u32Max := by
  have hscore := bonus_eq h.atMost 20 (by decide)
  have hlow := h.atLeast
  have hcount := h.repaid
  constructor
  · rintro ⟨-, -, hrepaid, -⟩
    unfold applyFullRepayment saturatingAdd at hrepaid
    dsimp only at hrepaid
    omega
  · intro hroom
    refine ⟨?_, Nat.min_le_right _ _, ?_, h.defaulted⟩
    · unfold applyFullRepayment
      dsimp only
      omega
    · unfold applyFullRepayment saturatingAdd
      dsimp only
      omega

/-- So is a default. -/
theorem FaithfulTo.default_iff (h : r.FaithfulTo n m) :
    r.applyDefault.FaithfulTo n (m + 1) ↔ r.creditsDefaulted < u32Max := by
  have hhigh := h.atMost
  have hcount := h.defaulted
  constructor
  · rintro ⟨-, -, -, hdefaulted⟩
    unfold applyDefault saturatingAdd at hdefaulted
    dsimp only at hdefaulted
    omega
  · intro hroom
    refine ⟨Nat.le_max_right _ _, ?_, h.repaid, ?_⟩
    · unfold applyDefault
      dsimp only
      omega
    · unfold applyDefault saturatingAdd
      dsimp only
      omega

end CreditScoreRecord

/-! ### Scores after a repayment -/

section Scores

variable {AccountId L : Type} [DecidableEq AccountId] {s : State AccountId L} {citizen : AccountId}
  {r : CreditScoreRecord}

theorem scoreRecord_of_get (h : s.creditScores.get citizen = some r) :
    s.scoreRecord citizen = r := by
  unfold State.scoreRecord StorageMap.getD
  rw [h]
  rfl

/-- A repayment in part is written whenever it changes the record. -/
theorem updateScore_partial (h : s.creditScores.get citizen = some r) (principal : ℕ) :
    updateScore citizen false principal s =
      s.creditScores.insert citizen (if 0 < principal then r.applyPartialRepayment else r) := by
  unfold updateScore
  rw [scoreRecord_of_get h]
  by_cases hpos : 0 < principal
  · simp only [Bool.false_eq_true, if_false, if_pos hpos]
    by_cases hscore : r.score = r.applyPartialRepayment.score
    -- only the score is changed, so the record is as it was
    · have hsame : r.applyPartialRepayment = r :=
        congrArg (fun score => { r with score := score }) hscore.symm
      rw [hsame, if_neg (not_not.mpr rfl), StorageMap.insert_of_get h]
    · rw [if_pos hscore]
  · simp only [Bool.false_eq_true, if_false, if_neg hpos, ne_eq, not_true_eq_false,
      StorageMap.insert_of_get h]

/-- A repayment in full is written only below the highest score. -/
theorem updateScore_full (h : s.creditScores.get citizen = some r) (hr : r.score ≤ 850)
    (principal : ℕ) : updateScore citizen true principal s =
      s.creditScores.insert citizen (if r.score < 850 then r.applyFullRepayment else r) := by
  have hscore : r.applyFullRepayment.score = min (r.score + 20) 850 :=
    CreditScoreRecord.bonus_eq hr 20 (le_refl 20)
  unfold updateScore
  rw [scoreRecord_of_get h]
  by_cases htop : r.score < 850
  · have hchanged : r.score ≠ r.applyFullRepayment.score := by omega
    simp only [if_true, if_pos hchanged, if_pos htop]
  · have hsame : r.score = r.applyFullRepayment.score := by omega
    simp only [if_true, if_neg (not_not.mpr hsame), if_neg htop, StorageMap.insert_of_get h]

end Scores

/-! ### Counting contracts -/

section Counts

variable {AccountId L : Type} [DecidableEq AccountId] {s s' : State AccountId L} {id : ℕ}
  {credit credit' : CreditContract AccountId} {citizen : AccountId} {r : CreditScoreRecord}

/-- How many contracts of a citizen have a status. -/
def State.creditsOf (s : State AccountId L) (who : AccountId) (status : CreditStatus) : ℕ :=
  s.creditContracts.count fun c => c.citizen = who ∧ c.status = status

/-- Every credit score is in range, and stored with the number of the credits its citizen has
repaid and of those in default. -/
def State.Faithful (s : State AccountId L) : Prop :=
  ∀ citizen r, s.creditScores.get citizen = some r →
    r.FaithfulTo (s.creditsOf citizen .repaid) (s.creditsOf citizen .default)

/-- Whoever has a contract has a record. -/
def State.Rated (s : State AccountId L) : Prop :=
  ∀ id credit, s.creditContracts.get id = some credit →
    ∃ r, s.creditScores.get credit.citizen = some r

theorem creditsOf_congr (h : s'.creditContracts = s.creditContracts) (who : AccountId)
    (status : CreditStatus) : s'.creditsOf who status = s.creditsOf who status := by
  unfold State.creditsOf
  rw [h]

/-- A contract that is replaced is counted as what it becomes. -/
theorem creditsOf_replace (hget : s.creditContracts.get id = some credit)
    (hcontracts : s'.creditContracts = s.creditContracts.insert id credit') (who : AccountId)
    (status : CreditStatus) :
    s'.creditsOf who status + (if credit.citizen = who ∧ credit.status = status then 1 else 0) =
      s.creditsOf who status +
        if credit'.citizen = who ∧ credit'.status = status then 1 else 0 := by
  unfold State.creditsOf
  rw [hcontracts]
  exact StorageMap.count_insert hget credit'

/-- The contracts of other citizens are counted as before. -/
theorem creditsOf_replace_ne (hget : s.creditContracts.get id = some credit)
    (hcontracts : s'.creditContracts = s.creditContracts.insert id credit')
    (hsame : credit'.citizen = credit.citizen) {who : AccountId} (hne : who ≠ credit.citizen)
    (status : CreditStatus) : s'.creditsOf who status = s.creditsOf who status := by
  have hcount := creditsOf_replace hget hcontracts who status
  rw [hsame, if_neg fun h => hne h.1.symm, if_neg fun h => hne h.1.symm] at hcount
  exact hcount

/-- A new contract is active, and counts neither as repaid nor as in default. -/
theorem creditsOf_replace_active (hget : s.creditContracts.get id = some credit)
    (hcontracts : s'.creditContracts = s.creditContracts.insert id credit')
    (hactive : credit'.status = .active) (who : AccountId) {status : CreditStatus}
    (hstatus : status ≠ .active) :
    s'.creditsOf who status + (if credit.citizen = who ∧ credit.status = status then 1 else 0) =
      s.creditsOf who status := by
  have hnew : ¬ (credit'.citizen = who ∧ credit'.status = status) := fun hnew =>
    hstatus (hnew.2.symm.trans hactive)
  have hrepl := creditsOf_replace hget hcontracts who status
  rwa [if_neg hnew, Nat.add_zero] at hrepl

/-- A new contract that replaces no closed one leaves the counts of closed contracts. -/
theorem creditsOf_issue (hcontracts : s'.creditContracts = s.creditContracts.insert id credit')
    (hactive : credit'.status = .active)
    (hopen : ∀ old, s.creditContracts.get id = some old → old.status = .active)
    (who : AccountId) {status : CreditStatus} (hstatus : status ≠ .active) :
    s'.creditsOf who status = s.creditsOf who status := by
  cases hold : s.creditContracts.get id with
  | none =>
    unfold State.creditsOf
    rw [hcontracts, StorageMap.count_insert_new hold,
      if_neg fun hnew => hstatus (hnew.2.symm.trans hactive), Nat.add_zero]
  | some old =>
    have hrepl := creditsOf_replace_active hold hcontracts hactive who hstatus
    rwa [if_neg fun h => hstatus (h.2.symm.trans (hopen old hold)), Nat.add_zero] at hrepl

/-- A citizen without a record has no contracts to count. -/
theorem State.Rated.creditsOf_eq_zero (h : s.Rated) (hnone : s.creditScores.get citizen = none)
    (status : CreditStatus) : s.creditsOf citizen status = 0 := by
  refine StorageMap.count_eq_zero fun id credit hget hwho => ?_
  obtain ⟨r, hr⟩ := h id credit hget
  rw [hwho.1, hnone] at hr
  cases hr

theorem State.Rated.congr (h : s.Rated) (hcontracts : s'.creditContracts = s.creditContracts)
    (hscores : s'.creditScores = s.creditScores) : s'.Rated := by
  unfold State.Rated
  rw [hcontracts, hscores]
  exact h

/-- The records stay there when some are written, and one more contract has one. -/
theorem State.Rated.insert (h : s.Rated)
    (hcontracts : s'.creditContracts = s.creditContracts.insert id credit')
    (hkept : ∀ who r, s.creditScores.get who = some r → ∃ r', s'.creditScores.get who = some r')
    (hnew : ∃ r, s'.creditScores.get credit'.citizen = some r) : s'.Rated := by
  intro k c hget
  rw [hcontracts] at hget
  rcases StorageMap.get_insert_cases hget with ⟨-, rfl⟩ | ⟨-, hold⟩
  · exact hnew
  · obtain ⟨r, hr⟩ := h k c hold
    exact hkept _ r hr

/-- Writing a record keeps all records there. -/
theorem exists_score_insert {who : AccountId}
    (h : ∃ r', s.creditScores.get who = some r') :
    ∃ r', (s.creditScores.insert citizen r).get who = some r' := by
  rw [StorageMap.get_insert]
  split
  · exact ⟨r, rfl⟩
  · exact h

/-- A repayment keeps all records there. -/
theorem exists_updateScore {who : AccountId} (h : ∃ r', s.creditScores.get who = some r')
    (fullyRepaid : Bool) (principal : ℕ) :
    ∃ r', (updateScore citizen fullyRepaid principal s).get who = some r' := by
  unfold updateScore
  extract_lets old new
  split
  · exact exists_score_insert h
  · exact h

theorem State.Faithful.congr (h : s.Faithful)
    (hcontracts : s'.creditContracts = s.creditContracts)
    (hscores : s'.creditScores = s.creditScores) : s'.Faithful := by
  intro citizen r hr
  rw [hscores] at hr
  rw [creditsOf_congr hcontracts, creditsOf_congr hcontracts]
  exact h citizen r hr

/-- **When a contract of a citizen and their record are replaced, the records stay faithful exactly
if that one is.** -/
theorem State.Faithful.replace_iff (h : s.Faithful) (hget : s.creditContracts.get id = some credit)
    (hcontracts : s'.creditContracts = s.creditContracts.insert id credit')
    (hsame : credit'.citizen = credit.citizen)
    (hscores : s'.creditScores = s.creditScores.insert credit.citizen r) :
    s'.Faithful ↔ r.FaithfulTo (s'.creditsOf credit.citizen .repaid)
      (s'.creditsOf credit.citizen .default) := by
  constructor
  · intro hf
    refine hf credit.citizen r ?_
    rw [hscores, StorageMap.get_insert_self]
  · intro hr who r' hget'
    rw [hscores] at hget'
    rcases StorageMap.get_insert_cases hget' with ⟨rfl, rfl⟩ | ⟨hne, hold⟩
    · exact hr
    · rw [creditsOf_replace_ne hget hcontracts hsame hne,
        creditsOf_replace_ne hget hcontracts hsame hne]
      exact h who r' hold

/-- Making the record of a citizen who has none keeps all records. -/
theorem score_kept (hscores : s'.creditScores = if s.creditScores.get citizen = none then
      s.creditScores.insert citizen r else s.creditScores)
    {who : AccountId} {r' : CreditScoreRecord} (hr : s.creditScores.get who = some r') :
    s'.creditScores.get who = some r' := by
  rw [hscores]
  split
  · next hnone =>
    rw [StorageMap.get_insert_of_ne, hr]
    rintro rfl
    rw [hnone] at hr
    cases hr
  · exact hr

/-- The record of a citizen without contracts is made as faithful as the others are. -/
theorem State.Faithful.newRecord (h : s.Faithful) (hrated : s.Rated)
    (hscores : s'.creditScores = if s.creditScores.get citizen = none then
        s.creditScores.insert citizen .newDefault
      else s.creditScores)
    (hsame : ∀ who status, status ≠ .active → s'.creditsOf who status = s.creditsOf who status) :
    s'.Faithful := by
  intro who r hr
  rw [hsame who .repaid (by decide), hsame who .default (by decide)]
  cases hbefore : s.creditScores.get who with
  | some r' =>
    rw [score_kept hscores hbefore] at hr
    obtain rfl := Option.some.inj hr
    exact h who r' hbefore
  | none =>
    rw [hrated.creditsOf_eq_zero hbefore, hrated.creditsOf_eq_zero hbefore]
    rw [hscores] at hr
    split at hr
    · rcases StorageMap.get_insert_cases hr with ⟨rfl, rfl⟩ | ⟨-, hold⟩
      · exact CreditScoreRecord.newDefault_faithful
      · rw [hbefore] at hold
        cases hold
    · rw [hbefore] at hr
      cases hr

end Counts

/-! ### Runs -/

section Runs

variable {AccountId L : Type} [DecidableEq AccountId] [Currency AccountId L] {cfg : Config}
  {ctx : Context AccountId} {s s' : State AccountId L} {x : Extrinsic AccountId} {id amount : ℕ}
  {credit : CreditContract AccountId}

/-- What is owed on a credit in a block, the interest up to then included. -/
def CreditContract.due (cfg : Config) (ctx : Context AccountId)
    (credit : CreditContract AccountId) : ℕ :=
  (accrueLazily cfg ctx credit).accruedInterest + credit.outstanding

/-- The call keeps the records faithful: an issue takes no identifier of a credit that is closed, a
credit is repaid in full only below the highest score, and no counter is at its end. -/
def KeepsHistory (cfg : Config) (s : State AccountId L) : Extrinsic AccountId → Prop
  | (_, .issueCredit _) => ∀ credit, s.creditContracts.get s.nextCreditId = some credit →
    credit.status = .active
  | (ctx, .repayCredit id amount) => ∀ credit, s.creditContracts.get id = some credit →
    credit.due cfg ctx ≤ amount →
      (s.scoreRecord credit.citizen).score < 850 ∧
        (s.scoreRecord credit.citizen).creditsRepaid < u32Max
  | (_, .declareDefault id) => ∀ credit, s.creditContracts.get id = some credit →
    (s.scoreRecord credit.citizen).creditsDefaulted < u32Max
  | _ => True

omit [DecidableEq AccountId] [Currency AccountId L] in
/-- A payment repays a credit in full when it covers all that is owed. -/
theorem fullyRepaid_iff :
    fullyRepaid (repaidBy cfg ctx amount credit) = true ↔ credit.due cfg ctx ≤ amount := by
  unfold fullyRepaid repaidBy principalRepaid interestPaid CreditContract.due
  rw [decide_eq_true_iff]
  dsimp only
  omega

/-- The contract and the record a repayment writes. -/
theorem repayCredit_history (h : repayCredit cfg ctx id amount s = .ok s') :
    ∃ credit, s.creditContracts.get id = some credit ∧ credit.status = .active ∧
      s'.creditScores = updateScore credit.citizen (fullyRepaid (repaidBy cfg ctx amount credit))
        (principalRepaid cfg ctx amount credit) s ∧
      s'.creditContracts = s.creditContracts.insert id { repaidBy cfg ctx amount credit with
        status := if fullyRepaid (repaidBy cfg ctx amount credit) = true then .repaid
          else .active } := by
  obtain ⟨citizen, -, -, credit, hget, rfl, hactive, bankAccount, -, l₁, -, l₂, -, hclose⟩ :=
    repayCredit_eq_ok.mp h
  refine ⟨credit, hget, hactive, ?_⟩
  rcases closeCredit_eq_ok.mp hclose with ⟨hfull, col, -, l', -, rfl⟩ | ⟨hopen, rfl⟩
  · rw [hfull]
    exact ⟨rfl, rfl⟩
  · rw [hopen]
    refine ⟨rfl, ?_⟩
    have hsame : (repaidBy cfg ctx amount credit).status = .active := hactive
    simp only [Bool.false_eq_true, if_false, ← hsame]

/-- **Whoever has a contract has a record.** -/
theorem rated_step (hrated : s.Rated) (h : step cfg x s = .ok s') : s'.Rated := by
  obtain ⟨ctx, call⟩ := x
  cases call with
  | setBankAccount account =>
    obtain ⟨-, rfl⟩ := setBankAccount_eq_ok.mp h
    exact hrated.congr rfl rfl
  | assessRwa citizen assetType value =>
    obtain ⟨-, rfl⟩ := (assessRwa_eq_ok citizen assetType value).mp h
    exact hrated
  | lockCollateral amount assetType =>
    obtain ⟨_, -, -, _, -, l', -, rfl⟩ := lockCollateral_eq_ok.mp h
    exact hrated.congr rfl rfl
  | requestCredit id =>
    obtain ⟨_, -, _, -, -, -, -, rfl⟩ := requestCredit_eq_ok.mp h
    exact hrated.congr rfl rfl
  | issueCredit id =>
    obtain ⟨-, -, col, -, -, -, rfl⟩ := issueCredit_eq_ok.mp h
    -- the record of the citizen is made here, if it is not there
    refine hrated.insert rfl (fun who r hr => ?_) ?_
    · dsimp only
      split
      · exact exists_score_insert ⟨r, hr⟩
      · exact ⟨r, hr⟩
    · dsimp only
      split
      · exact ⟨.newDefault, StorageMap.get_insert_self⟩
      · next hsome => exact Option.ne_none_iff_exists'.mp hsome
  | accrueInterest id =>
    obtain ⟨-, -, credit, hget, -, rfl⟩ := accrueInterest_eq_ok.mp h
    split
    · exact hrated.insert rfl (fun who r hr => ⟨r, hr⟩) (hrated id credit hget)
    · exact hrated
  | repayCredit id amount =>
    obtain ⟨credit, hget, -, hscores, hcontracts⟩ := repayCredit_history h
    obtain ⟨r, hr⟩ := hrated id credit hget
    have hkept : ∀ who r', s.creditScores.get who = some r' →
        ∃ r'', s'.creditScores.get who = some r'' := by
      intro who r' hr'
      rw [hscores]
      exact exists_updateScore ⟨r', hr'⟩ _ _
    exact hrated.insert hcontracts hkept (hkept credit.citizen r hr)
  | declareDefault id =>
    obtain ⟨-, credit, hget, -, rfl⟩ := declareDefault_eq_ok.mp h
    refine hrated.insert rfl (fun who r hr => exists_score_insert ⟨r, hr⟩) ?_
    exact ⟨_, StorageMap.get_insert_self⟩
  | requestAccountFreeze citizen reason =>
    obtain ⟨-, rfl⟩ := (requestAccountFreeze_eq_ok citizen reason).mp h
    exact hrated

omit [Currency AccountId L] in
/-- **An issue keeps the records faithful exactly if it takes no identifier of a closed credit.** -/
theorem State.Faithful.issue_iff (hrated : s.Rated) (hfaithful : s.Faithful)
    (hactive : credit.status = .active)
    (hcontracts : s'.creditContracts = s.creditContracts.insert s.nextCreditId credit)
    (hscores : s'.creditScores = if s.creditScores.get credit.citizen = none then
        s.creditScores.insert credit.citizen .newDefault
      else s.creditScores) :
    s'.Faithful ↔
      ∀ old, s.creditContracts.get s.nextCreditId = some old → old.status = .active := by
  constructor
  · intro hf old hold
    by_contra hclosed
    obtain ⟨r, hr⟩ := hrated s.nextCreditId old hold
    have hbefore := hfaithful old.citizen r hr
    have hafter := hf old.citizen r (score_kept hscores hr)
    have hlost := creditsOf_replace_active hold hcontracts hactive old.citizen hclosed
    rw [if_pos ⟨rfl, rfl⟩] at hlost
    cases hstatus : old.status with
    | active => exact hclosed hstatus
    | repaid =>
      rw [hstatus] at hlost
      have hb := hbefore.repaid
      have ha := hafter.repaid
      omega
    | default =>
      rw [hstatus] at hlost
      have hb := hbefore.defaulted
      have ha := hafter.defaulted
      omega
  · intro hopen
    exact hfaithful.newRecord hrated hscores fun who _ hstatus =>
      creditsOf_issue hcontracts hactive hopen who hstatus

/-- **When a repayment keeps the records faithful**: unless it repays a credit in full at the
highest score. -/
theorem repayCredit_faithful_iff (hrated : s.Rated) (hfaithful : s.Faithful)
    (h : repayCredit cfg ctx id amount s = .ok s') :
    s'.Faithful ↔ KeepsHistory cfg s (ctx, .repayCredit id amount) := by
  obtain ⟨credit, hget, hactive, hscores, hcontracts⟩ := repayCredit_history h
  obtain ⟨r, hr⟩ := hrated id credit hget
  have hrecord := hfaithful credit.citizen r hr
  have hcount := creditsOf_replace hget hcontracts credit.citizen
  have hdefault : s'.creditsOf credit.citizen .default = s.creditsOf credit.citizen .default := by
    have hd := hcount .default
    rw [hactive, if_neg (by simp), if_neg] at hd
    · exact hd
    · dsimp only
      split <;> simp
  have hkeeps : KeepsHistory cfg s (ctx, .repayCredit id amount) ↔
      (credit.due cfg ctx ≤ amount → r.score < 850 ∧ r.creditsRepaid < u32Max) := by
    unfold KeepsHistory
    dsimp only
    rw [StorageMap.forall_get_iff hget, scoreRecord_of_get hr]
  rw [hkeeps]
  by_cases hfull : fullyRepaid (repaidBy cfg ctx amount credit) = true
  -- repaid in full: one credit more is to be counted
  · have hrepaid : s'.creditsOf credit.citizen .repaid =
        s.creditsOf credit.citizen .repaid + 1 := by
      have hc := hcount .repaid
      rw [hactive, if_neg (by simp), if_pos (by rw [if_pos hfull]; exact ⟨rfl, rfl⟩)] at hc
      exact hc
    rw [hfull, updateScore_full hr hrecord.atMost] at hscores
    rw [hfaithful.replace_iff hget hcontracts rfl hscores, hdefault, hrepaid,
      imp_iff_right (fullyRepaid_iff.mp hfull)]
    by_cases htop : r.score < 850
    · rw [if_pos htop, hrecord.full_repayment_iff, and_iff_right htop]
    · rw [if_neg htop]
      refine iff_of_false (fun hnot => ?_) fun hlow => htop hlow.1
      have hold := hrecord.repaid
      have hnew := hnot.repaid
      omega
  -- in part: the numbers are as they were
  · have hrepaid : s'.creditsOf credit.citizen .repaid = s.creditsOf credit.citizen .repaid := by
      have hc := hcount .repaid
      rw [hactive, if_neg (by simp), if_neg (by rw [if_neg hfull]; simp)] at hc
      exact hc
    rw [Bool.not_eq_true] at hfull
    rw [hfull, updateScore_partial hr] at hscores
    rw [hfaithful.replace_iff hget hcontracts rfl hscores, hdefault, hrepaid]
    refine iff_of_true ?_ fun hdue => ?_
    · split
      · exact hrecord.partial_repayment
      · exact hrecord
    · rw [fullyRepaid_iff.mpr hdue] at hfull
      cases hfull

omit [Currency AccountId L] in
/-- **A default keeps the records faithful** unless the counter is at its end. -/
theorem declareDefault_faithful_iff (hrated : s.Rated) (hfaithful : s.Faithful)
    (h : declareDefault ctx id s = .ok s') :
    s'.Faithful ↔ KeepsHistory cfg s (ctx, .declareDefault id) := by
  obtain ⟨-, credit, hget, hactive, hs'⟩ := declareDefault_eq_ok.mp h
  obtain ⟨r, hr⟩ := hrated id credit hget
  rw [scoreRecord_of_get hr] at hs'
  have hcontracts : s'.creditContracts =
      s.creditContracts.insert id { credit with status := .default } := by rw [hs']
  have hscores : s'.creditScores = s.creditScores.insert credit.citizen r.applyDefault := by
    rw [hs']
  -- one credit more is to be counted as in default, and none as repaid
  have hrepaid := creditsOf_replace hget hcontracts credit.citizen .repaid
  rw [hactive, if_neg (by simp), if_neg (by simp)] at hrepaid
  have hdefault := creditsOf_replace hget hcontracts credit.citizen .default
  rw [hactive, if_neg (by simp), if_pos ⟨rfl, rfl⟩, Nat.add_zero] at hdefault
  unfold KeepsHistory
  dsimp only
  rw [StorageMap.forall_get_iff hget, scoreRecord_of_get hr,
    hfaithful.replace_iff hget hcontracts rfl hscores, Nat.add_right_cancel hrepaid, hdefault]
  exact (hfaithful credit.citizen r hr).default_iff

/-- **When a call keeps the records faithful.** -/
theorem faithful_step_iff (hrated : s.Rated) (hfaithful : s.Faithful)
    (h : step cfg x s = .ok s') : s'.Faithful ↔ KeepsHistory cfg s x := by
  obtain ⟨ctx, call⟩ := x
  cases call with
  | setBankAccount account =>
    obtain ⟨-, rfl⟩ := setBankAccount_eq_ok.mp h
    exact iff_of_true (hfaithful.congr rfl rfl) trivial
  | assessRwa citizen assetType value =>
    obtain ⟨-, rfl⟩ := (assessRwa_eq_ok citizen assetType value).mp h
    exact iff_of_true hfaithful trivial
  | lockCollateral amount assetType =>
    obtain ⟨_, -, -, _, -, l', -, rfl⟩ := lockCollateral_eq_ok.mp h
    exact iff_of_true (hfaithful.congr rfl rfl) trivial
  | requestCredit id =>
    obtain ⟨_, -, _, -, -, -, -, rfl⟩ := requestCredit_eq_ok.mp h
    exact iff_of_true (hfaithful.congr rfl rfl) trivial
  | issueCredit id =>
    obtain ⟨-, -, col, -, -, -, rfl⟩ := issueCredit_eq_ok.mp h
    exact hfaithful.issue_iff hrated rfl rfl rfl
  | accrueInterest id =>
    obtain ⟨-, -, credit, hget, hactive, hs'⟩ := accrueInterest_eq_ok.mp h
    refine iff_of_true ?_ trivial
    split at hs'
    -- the contract is written again with the same status, and no record is
    · obtain ⟨r, hr⟩ := hrated id credit hget
      have hcontracts : s'.creditContracts =
          s.creditContracts.insert id (accrueLazily cfg ctx credit) := by rw [hs']
      have hscores : s'.creditScores = s.creditScores.insert credit.citizen r := by
        rw [hs', StorageMap.insert_of_get hr]
      have hcount := creditsOf_replace hget hcontracts credit.citizen
      rw [hfaithful.replace_iff hget hcontracts rfl hscores, Nat.add_right_cancel (hcount .repaid),
        Nat.add_right_cancel (hcount .default)]
      exact hfaithful credit.citizen r hr
    · rw [hs']
      exact hfaithful
  | repayCredit id amount => exact repayCredit_faithful_iff hrated hfaithful h
  | declareDefault id => exact declareDefault_faithful_iff hrated hfaithful h
  | requestAccountFreeze citizen reason =>
    obtain ⟨-, rfl⟩ := (requestAccountFreeze_eq_ok citizen reason).mp h
    exact iff_of_true hfaithful trivial

omit [Currency AccountId L] in
theorem faithful_genesis (l : L) : (genesis l : State AccountId L).Faithful := by
  intro citizen r hr
  cases hr

omit [DecidableEq AccountId] [Currency AccountId L] in
theorem rated_genesis [DecidableEq AccountId] (l : L) : (genesis l : State AccountId L).Rated := by
  intro id credit hget
  cases hget

/-- **Credit histories.** In the states of a run every score is in its range and every record counts
the credits repaid and those in default, exactly if no credit is repaid in full at the highest
score, no issue takes the identifier of a closed credit, and no counter is at its end. -/
theorem history_faithful_iff (l : L) (xs : List (Extrinsic AccountId)) :
    Throughout (step cfg) State.Faithful xs (genesis l) ↔
      Along (step cfg) (KeepsHistory cfg) xs (genesis l) :=
  throughout_iff_along (fun _ _ _ hrated h => rated_step hrated h)
    (fun _ _ _ hrated hfaithful h => faithful_step_iff hrated hfaithful h) (rated_genesis l)
    (faithful_genesis l)

end Runs

/-- The citizen 7 locks a thousandth of what they have, draws a credit on it, repays one forty
times, and then the rest. -/
def fortyInstalments : List (Extrinsic ℕ) :=
  [(operatorContext 1 .root, .setBankAccount 2),
    (operatorContext 1 (.signed 7), .lockCollateral CentralBank.unit .altanCoin),
    (operatorContext 1 (.signed 7), .requestCredit 0),
    (operatorContext 1 .root, .issueCredit 0)] ++
  List.replicate 40 (operatorContext 1 (.signed 7), .repayCredit 0 1) ++
  [(operatorContext 1 (.signed 7), .repayCredit 0 (9 * CentralBank.unit))]

/-- The instalments raise the score to the highest, and the credit repaid in full is not counted. -/
theorem full_score_not_counted : ¬ ∀ xs, (run (step bankOperator) xs operatorGenesis).Faithful := by
  intro h
  have hrecord : (run (step bankOperator) fortyInstalments operatorGenesis).creditScores.get 7 =
      some { score := 850, creditsRepaid := 0, creditsDefaulted := 0 } := by decide +kernel
  have hrepaid : (run (step bankOperator) fortyInstalments operatorGenesis).creditsOf 7 .repaid =
      1 := by decide +kernel
  have hcounted := (h fortyInstalments 7 _ hrecord).repaid
  rw [hrepaid] at hcounted
  cases hcounted

end BankOperator
