import Altan.Foundation.Emptying
import Altan.JudicialCourts.Sentencing

/-!
# Whether a sentence for a hate crime can be blocked

The sentence for a hate crime takes all there is and enters the defendant into the registry of
shame. It fails for a defendant who is there already, for one with something reserved or locked, and
when the treasury cannot pay the informant; and a defendant who is the treasury or the informant is
not left without money. In all other cases nothing that the defendant does keeps the sentence from
being executed.

## Main definitions

* `Seizable`: the money of the defendant can be taken
* `RewardPayable`: the treasury can pay the informant
* `CarriedOut`: the sentence is executed, with nothing left and the defendant in the registry

## Main results

* `confiscate_all_iff`: when all of a balance can be confiscated
* `guillotine_iff`: when a sentence for a hate crime is executed in full
* `second_sentence_refused`: a second sentence against the same defendant is not
-/

open Bounded Dispatch Ledger TransitionSystem

namespace JudicialCourts

variable {AccountId L : Type}

section Rewards

variable {c : CourtCase AccountId} {amount : ℕ}

/-- The reward of the informant is less than what is taken. -/
theorem whistleblowerReward_lt (h : amount ≠ 0) : whistleblowerReward c amount < amount := by
  unfold whistleblowerReward perbill
  split
  · dsimp only
    split <;> omega
  · exact Nat.pos_of_ne_zero h

theorem whistleblower_of_reward (h : whistleblowerReward c amount ≠ 0) :
    ∃ w, c.whistleblower = some w := by
  refine Option.isSome_iff_exists.mp ?_
  by_contra hnone
  exact h (if_neg hnone)

end Rewards

/-- The treasury can pay a reward on top of an amount that it gets: what is locked there allows it,
and what it pays to itself is in range. -/
structure RewardPayable [Ledger AccountId L] (treasury w : AccountId) (l : L)
    (amount reward : ℕ) : Prop where
  spendable : ∀ id, reward + (lockAmount l id treasury - reservedBalance l treasury) ≤
    freeBalance l treasury + amount
  inRange : w = treasury →
    freeBalance l treasury + amount + reservedBalance l treasury + reward ≤ u128Max

/-- The money of the defendant can be taken: there is none, or the defendant is not the treasury and
has nothing reserved or locked, and the informant is another and can be paid. -/
def Seizable [Ledger AccountId L] (treasury : AccountId) (c : CourtCase AccountId) (l : L) : Prop :=
  freeBalance l c.defendant = 0 ∨
    c.defendant ≠ treasury ∧ reservedBalance l c.defendant = 0 ∧
      (∀ id, lockAmount l id c.defendant = 0) ∧
      ∀ w, c.whistleblower = some w → whistleblowerReward c (freeBalance l c.defendant) ≠ 0 →
        w ≠ c.defendant ∧ RewardPayable treasury w l (freeBalance l c.defendant)
          (whistleblowerReward c (freeBalance l c.defendant))

/-! ### Confiscations -/

section Confiscation

variable [Currency AccountId L] {cfg : Config AccountId L} {c : CourtCase AccountId} {l l₁ l' : L}
  {w : AccountId} {reward amount : ℕ}

/-- The first step of a confiscation leaves the treasury with more, and the locks of all. -/
theorem seized_treasury [LockableCurrency AccountId L] (reward : ℕ)
    (hother : c.defendant ≠ cfg.treasury) (hamount : amount ≠ 0)
    (h : Currency.transfer l c.defendant cfg.treasury amount .allowDeath = .ok l₁) :
    (Spendable l₁ cfg.treasury reward ↔ ∀ id, reward +
      (lockAmount l id cfg.treasury - reservedBalance l cfg.treasury) ≤
        freeBalance l cfg.treasury + amount) ∧
      freeBalance l₁ cfg.treasury = freeBalance l cfg.treasury + amount ∧
      reservedBalance l₁ cfg.treasury = reservedBalance l cfg.treasury := by
  have hmoved := Currency.transfer_ok l _ _ amount _ l₁ hamount hother h
  refine ⟨?_, hmoved.dest, hmoved.reserved _⟩
  unfold Spendable
  rw [hmoved.dest, hmoved.reserved]
  exact forall_congr' fun id => by rw [LockableCurrency.transfer_lock l _ _ amount _ l₁ h id]

variable [DecidableEq AccountId] [Fungible AccountId L]

/-- **Who is left with nothing** is neither the treasury nor rewarded, unless there was nothing. -/
theorem emptied_iff (hfree : freeBalance l c.defendant ≠ 0)
    (h : confiscate cfg c (freeBalance l c.defendant) .expendable l = .ok l') :
    freeBalance l' c.defendant = 0 ↔ c.defendant ≠ cfg.treasury ∧
      (c.whistleblower = some c.defendant →
        whistleblowerReward c (freeBalance l c.defendant) = 0) := by
  obtain ⟨⟨lost, hsettled⟩, -⟩ := confiscate_settled h
  have hless := whistleblowerReward_lt (c := c) hfree
  have hbalance := hsettled.free c.defendant
  have hdust := hsettled.dust
  unfold netChange at hbalance
  simp only [if_true] at hbalance
  constructor
  · intro hempty
    rw [hempty] at hbalance
    constructor
    · intro htreasury
      rw [if_pos htreasury] at hbalance
      split_ifs at hbalance <;> omega
    · intro hself
      rw [if_pos hself] at hbalance
      split_ifs at hbalance <;> omega
  · rintro ⟨hother, hunrewarded⟩
    -- what was taken does not come back
    rw [if_neg hother] at hbalance
    by_cases hself : c.whistleblower = some c.defendant
    · rw [if_pos hself, hunrewarded hself] at hbalance
      omega
    · rw [if_neg hself] at hbalance
      omega

omit [DecidableEq AccountId] in
/-- All of a balance is confiscated by a transfer to the treasury and the reward that it pays. -/
theorem confiscate_all_eq_ok (hfree : freeBalance l c.defendant ≠ 0)
    (hother : c.defendant ≠ cfg.treasury) :
    confiscate cfg c (freeBalance l c.defendant) .expendable l = .ok l' ↔
      ∃ l₁, Currency.transfer l c.defendant cfg.treasury (freeBalance l c.defendant) .allowDeath =
          .ok l₁ ∧
        payWhistleblower cfg c (whistleblowerReward c (freeBalance l c.defendant)) l₁ = .ok l' := by
  unfold confiscate
  rw [if_pos (Nat.pos_of_ne_zero hfree), bind_eq_ok,
    Fungible.transfer_of_ne _ _ _ _ _ hfree hother]
  simp only [mapError_eq_ok]
  exact Iff.rfl

omit [DecidableEq AccountId] in
theorem payWhistleblower_zero : payWhistleblower cfg c 0 l = .ok l := by
  unfold payWhistleblower
  split <;> rfl

variable [EmptyingTransfers AccountId L] [SpendableTransfers AccountId L]

/-- When the informant is paid, if the treasury got enough before. -/
theorem payWhistleblower_isOk_iff (hw : c.whistleblower = some w) (hreward : reward ≠ 0)
    (hkept : reward + existentialDeposit L ≤ freeBalance l₁ cfg.treasury)
    (hdest : w ≠ cfg.treasury → existentialDeposit L ≤ freeBalance l₁ w + reward) :
    (∃ l', payWhistleblower cfg c reward l₁ = .ok l') ↔ Spendable l₁ cfg.treasury reward ∧
      (w = cfg.treasury →
        freeBalance l₁ w + reservedBalance l₁ w + reward ≤ u128Max) := by
  have hpos := Nat.pos_of_ne_zero hreward
  unfold payWhistleblower
  rw [hw]
  dsimp only
  rw [if_pos hpos]
  simp only [mapError_eq_ok]
  by_cases hself : w = cfg.treasury
  · subst hself
    rw [EmptyingTransfers.transfer_self_isOk_iff l₁ _ reward .preserve hreward hkept]
    exact and_congr_right fun _ => ⟨fun h _ => h, fun h => h rfl⟩
  · rw [Fungible.transfer_of_ne l₁ _ w reward .preserve hreward (Ne.symm hself),
      SpendableTransfers.transfer_isOk_iff l₁ _ w reward _ hreward (Ne.symm hself) hkept]
    exact and_congr_right fun _ => iff_of_true (hdest hself) fun h => absurd h hself

variable [LockableCurrency AccountId L]

/-- The informant is paid after all of a balance was taken, if that can be. -/
theorem reward_isOk_iff (hfree : freeBalance l c.defendant ≠ 0)
    (hother : c.defendant ≠ cfg.treasury)
    (htreasury : existentialDeposit L ≤ freeBalance l cfg.treasury)
    (hw : c.whistleblower = some w) (hne : w ≠ c.defendant)
    (halive : existentialDeposit L ≤ freeBalance l w)
    (hreward : whistleblowerReward c (freeBalance l c.defendant) ≠ 0)
    (htaken : Currency.transfer l c.defendant cfg.treasury (freeBalance l c.defendant)
      .allowDeath = .ok l₁) :
    (∃ l', payWhistleblower cfg c (whistleblowerReward c (freeBalance l c.defendant)) l₁ =
        .ok l') ↔
      RewardPayable cfg.treasury w l (freeBalance l c.defendant)
        (whistleblowerReward c (freeBalance l c.defendant)) := by
  have hless := whistleblowerReward_lt (c := c) hfree
  have hmoved := Currency.transfer_ok l _ _ _ _ l₁ hfree hother htaken
  obtain ⟨hspendable, hdest, hreserved⟩ := seized_treasury
    (whistleblowerReward c (freeBalance l c.defendant)) hother hfree htaken
  have hkept : whistleblowerReward c (freeBalance l c.defendant) + existentialDeposit L ≤
      freeBalance l₁ cfg.treasury := by
    rw [hdest]
    omega
  rw [payWhistleblower_isOk_iff hw hreward hkept fun hwt => by
    rw [hmoved.others w hne hwt]
    exact Nat.le_add_right_of_le halive, hspendable]
  constructor
  · rintro ⟨hs, hrange⟩
    refine ⟨hs, fun hwt => ?_⟩
    have h := hrange hwt
    rwa [hwt, hdest, hreserved] at h
  · rintro ⟨hs, hrange⟩
    refine ⟨hs, fun hwt => ?_⟩
    have h := hrange hwt
    rwa [hwt, hdest, hreserved]

/-- The reward is paid after all of a balance was taken, to an informant who is another and can be
paid, if there is any. -/
theorem reward_isOk (hfree : freeBalance l c.defendant ≠ 0)
    (hother : c.defendant ≠ cfg.treasury)
    (htreasury : existentialDeposit L ≤ freeBalance l cfg.treasury)
    (halive : ∀ w, c.whistleblower = some w → existentialDeposit L ≤ freeBalance l w)
    (htaken : Currency.transfer l c.defendant cfg.treasury (freeBalance l c.defendant)
      .allowDeath = .ok l₁)
    (hinformant : ∀ w, c.whistleblower = some w →
      whistleblowerReward c (freeBalance l c.defendant) ≠ 0 →
        w ≠ c.defendant ∧ RewardPayable cfg.treasury w l (freeBalance l c.defendant)
          (whistleblowerReward c (freeBalance l c.defendant))) :
    ∃ l', payWhistleblower cfg c (whistleblowerReward c (freeBalance l c.defendant)) l₁ =
      .ok l' := by
  by_cases hreward : whistleblowerReward c (freeBalance l c.defendant) = 0
  · rw [hreward]
    exact ⟨l₁, payWhistleblower_zero⟩
  · obtain ⟨w, hw⟩ := whistleblower_of_reward hreward
    obtain ⟨hne, hpayable⟩ := hinformant w hw hreward
    exact (reward_isOk_iff hfree hother htreasury hw hne (halive w hw) hreward htaken).mpr hpayable

/-- **When all of a balance can be confiscated** and nothing comes back. -/
theorem confiscate_all_iff (htreasury : existentialDeposit L ≤ freeBalance l cfg.treasury)
    (halive : ∀ w, c.whistleblower = some w → existentialDeposit L ≤ freeBalance l w) :
    (∃ l', confiscate cfg c (freeBalance l c.defendant) .expendable l = .ok l' ∧
      freeBalance l' c.defendant = 0) ↔ Seizable cfg.treasury c l := by
  by_cases hfree : freeBalance l c.defendant = 0
  · have hnothing : confiscate cfg c (freeBalance l c.defendant) .expendable l = .ok l :=
      if_neg (by omega)
    exact iff_of_true ⟨l, hnothing, hfree⟩ (Or.inl hfree)
  constructor
  · rintro ⟨l', h, hempty⟩
    obtain ⟨hother, hself⟩ := (emptied_iff hfree h).mp hempty
    obtain ⟨l₁, htaken, hpaid⟩ := (confiscate_all_eq_ok hfree hother).mp h
    obtain ⟨hreserved, hlocks, -⟩ :=
      (EmptyingTransfers.transfer_all_isOk_iff l _ _ hfree hother).mp ⟨l₁, htaken⟩
    refine Or.inr ⟨hother, hreserved, hlocks, fun w hw hreward => ?_⟩
    have hne : w ≠ c.defendant := by
      rintro rfl
      exact hreward (hself hw)
    exact ⟨hne, (reward_isOk_iff hfree hother htreasury hw hne (halive w hw) hreward htaken).mp
      ⟨l', hpaid⟩⟩
  · rintro (hzero | ⟨hother, hreserved, hlocks, hinformant⟩)
    · exact absurd hzero hfree
    obtain ⟨l₁, htaken⟩ := (EmptyingTransfers.transfer_all_isOk_iff l _ _ hfree hother).mpr
      ⟨hreserved, hlocks, Nat.le_add_right_of_le htreasury⟩
    obtain ⟨l', hpaid⟩ := reward_isOk hfree hother htreasury halive htaken hinformant
    have h := (confiscate_all_eq_ok hfree hother).mpr ⟨l₁, htaken, hpaid⟩
    refine ⟨l', h, (emptied_iff hfree h).mpr ⟨hother, fun hself => ?_⟩⟩
    by_contra hreward
    exact (hinformant _ hself hreward).1 rfl

end Confiscation

/-! ### The sentence -/

section Sentence

variable [DecidableEq AccountId] [Currency AccountId L] [EscrowCurrency AccountId L]
  [Fungible AccountId L] [ProvidedTransfers AccountId L] {cfg : Config AccountId L}
  {ctx : Context AccountId} {c : CourtCase AccountId} {s : State AccountId L} {l : L} {caseId : ℕ}

/-- Exile leaves nothing to who has nothing. -/
theorem exiled_free (hexile : ExileSpares cfg.identity)
    (h : confiscate cfg c (freeBalance s.identity.ledger c.defendant) .expendable
      s.identity.ledger = .ok l) :
    freeBalance (attempt (Identity.doExile cfg.identity c.defendant)
      { s.identity with ledger := l }).ledger c.defendant = freeBalance l c.defendant := by
  rcases attempt_doExile_ledger cfg c.defendant { s.identity with ledger := l } with hl | hl
  · rw [hl]
  · rw [hl]
    exact (hexile c.defendant l (confiscate_all_reserved h)).1 c.defendant

/-- The sentence in a case is executed: the defendant has nothing left, and is in the registry of
shame. -/
def CarriedOut (cfg : Config AccountId L) (ctx : Context AccountId) (caseId : ℕ)
    (defendant : AccountId) (s : State AccountId L) : Prop :=
  ∃ s', executeVerdict cfg ctx caseId s = .ok s' ∧
    freeBalance s'.identity.ledger defendant = 0 ∧
      s'.registryOfShame.containsKey defendant = true

/-- The state after a sentence for a hate crime that leaves a ledger. -/
def guillotined (cfg : Config AccountId L) (ctx : Context AccountId) (caseId : ℕ)
    (c : CourtCase AccountId) (l : L) (s : State AccountId L) : State AccountId L :=
  { s with
    identity := attempt (Identity.doExile cfg.identity c.defendant) { s.identity with ledger := l }
    registryOfShame := s.registryOfShame.insert c.defendant
      { caseId := caseId
        evidenceHash := c.evidenceHash
        executedAtBlock := ctx.now }
    courtCases := s.courtCases.modify caseId fun c => { c with status := .executed } }

omit [EscrowCurrency AccountId L] [ProvidedTransfers AccountId L] in
/-- **What a sentence for a hate crime has checked and done.** -/
theorem executeVerdict_hateCrime_eq_ok {s' : State AccountId L} {who : AccountId}
    (hsigned : ctx.origin = .signed who) (hget : s.courtCases.get caseId = some c)
    (hguilty : c.status = .guilty) (hcategory : c.crimeCategory = some .hateCrimeAndFascism) :
    executeVerdict cfg ctx caseId s = .ok s' ↔
      ∃ l, confiscate cfg c (freeBalance s.identity.ledger c.defendant) .expendable
          s.identity.ledger = .ok l ∧ s.registryOfShame.containsKey c.defendant = false ∧
        s' = guillotined cfg ctx caseId c l s := by
  simp only [executeVerdict, ensureSigned_bind_eq_ok, required_bind_eq_ok, ensure_bind_eq_ok, hget,
    Option.some.injEq]
  constructor
  · rintro ⟨-, -, _, rfl, -, h⟩
    rw [hcategory] at h
    obtain ⟨t, ht, h⟩ := bind_eq_ok.mp h
    obtain rfl := pure_eq_ok.mp h
    obtain ⟨l, hl, ht⟩ := bind_eq_ok.mp ht
    simp only [ensure_bind_eq_ok, pure_eq_ok] at ht
    obtain ⟨hnew, rfl⟩ := ht
    exact ⟨l, hl, hnew, rfl⟩
  · rintro ⟨l, hl, hnew, rfl⟩
    have hsentence : executeGuillotine cfg ctx caseId c s =
        .ok { guillotined cfg ctx caseId c l s with courtCases := s.courtCases } :=
      bind_eq_ok.mpr ⟨l, hl, ensure_bind_eq_ok.mpr ⟨hnew, rfl⟩⟩
    refine ⟨who, hsigned, c, rfl, hguilty, ?_⟩
    rw [hcategory]
    exact bind_eq_ok.mpr ⟨_, hsentence, rfl⟩

/-- A sentence for a hate crime is executed when all can be confiscated and the defendant is not in
the registry yet. -/
theorem carriedOut_iff (hexile : ExileSpares cfg.identity) {who : AccountId}
    (hsigned : ctx.origin = .signed who) (hget : s.courtCases.get caseId = some c)
    (hguilty : c.status = .guilty) (hcategory : c.crimeCategory = some .hateCrimeAndFascism) :
    CarriedOut cfg ctx caseId c.defendant s ↔
      s.registryOfShame.containsKey c.defendant = false ∧
        ∃ l, confiscate cfg c (freeBalance s.identity.ledger c.defendant) .expendable
          s.identity.ledger = .ok l ∧ freeBalance l c.defendant = 0 := by
  unfold CarriedOut
  simp only [executeVerdict_hateCrime_eq_ok hsigned hget hguilty hcategory]
  constructor
  · rintro ⟨_, ⟨l, hl, hnew, rfl⟩, hempty, -⟩
    exact ⟨hnew, l, hl, (exiled_free hexile hl).symm.trans hempty⟩
  · rintro ⟨hnew, l, hl, hempty⟩
    refine ⟨_, ⟨l, hl, hnew, rfl⟩, (exiled_free hexile hl).trans hempty, ?_⟩
    exact StorageMap.containsKey_iff.mpr ⟨_, StorageMap.get_insert_self⟩

end Sentence

/-! ### The guillotine in the runtime -/

section Runtime

variable [DecidableEq AccountId] [Currency AccountId L] [EscrowCurrency AccountId L]
  [LockableCurrency AccountId L] [ReapedAccounts AccountId L] [Fungible AccountId L]
  [ProvidedTransfers AccountId L] [EmptyingTransfers AccountId L] [SpendableTransfers AccountId L]

/-- **When a sentence for a hate crime is executed in full**: the defendant is not in the registry
of shame yet and has no money, or is neither the treasury nor rewarded as the informant, has
nothing reserved or locked, and the treasury can pay the reward. -/
theorem guillotine_iff (cfg : Estates.Config AccountId L) (treasury : AccountId)
    (judges usurpation : Origin AccountId → Bool) (ctx : Context AccountId) (caseId : ℕ)
    (c : CourtCase AccountId) (s : State AccountId (Estates.Estate AccountId L)) (who : AccountId)
    (hsigned : ctx.origin = .signed who) (hget : s.courtCases.get caseId = some c)
    (hguilty : c.status = .guilty) (hcategory : c.crimeCategory = some .hateCrimeAndFascism)
    (htreasury : Alive s.identity.ledger treasury)
    (hinformant : ∀ w, c.whistleblower = some w → Alive s.identity.ledger w) :
    CarriedOut (wired cfg treasury judges usurpation) ctx caseId c.defendant s ↔
      s.registryOfShame.containsKey c.defendant = false ∧
        Seizable treasury c s.identity.ledger := by
  rw [carriedOut_iff (exileSpares_wired cfg) hsigned hget hguilty hcategory]
  refine and_congr_right fun _ => ?_
  exact confiscate_all_iff (EscrowCurrency.existentialDeposit_le_of_alive htreasury)
    fun w hw => EscrowCurrency.existentialDeposit_le_of_alive (hinformant w hw)

end Runtime

/-- A citizen is found guilty of two hate crimes. -/
def hateCrimes : List (ChainInput ℕ (Estates.Estate ℕ (Runtime.EscrowLedger ℕ))) :=
  [.court (.call (.signed 8) (.openCase 7 (.ofNat 0) (some 8))),
    .court (.call (.signed 8) (.openCase 7 (.ofNat 0) (some 8))),
    .court (.call .root (.issueVerdict 0 true (.ofNat 0) 0 .hateCrimeAndFascism)),
    .court (.call .root (.issueVerdict 1 true (.ofNat 0) 0 .hateCrimeAndFascism))]

/-- The courts after both verdicts. -/
def twiceGuilty : World ℕ (Estates.Estate ℕ (Runtime.EscrowLedger ℕ)) :=
  run (chainStep runtimeCourts) hateCrimes ⟨1, registered⟩

/-- The courts after the first sentence. -/
def guillotinedOnce : World ℕ (Estates.Estate ℕ (Runtime.EscrowLedger ℕ)) :=
  exec (chainStep runtimeCourts) (.court (.call (.signed 8) (.executeVerdict 0))) twiceGuilty

/-- The cases of the two. -/
def hateCase : CourtCase ℕ where
  plaintiff := 8
  defendant := 7
  whistleblower := some 8
  evidenceHash := .ofNat 0
  verdictHash := some (.ofNat 0)
  penaltyAmount := 0
  status := .guilty
  crimeCategory := some .hateCrimeAndFascism

/-- The first sentence is executed in full: the citizen has nothing reserved or locked, and the
informant is another. -/
theorem guillotine_first : CarriedOut runtimeCourts ⟨.signed 8, 1⟩ 0 7 twiceGuilty.court := by
  have hlocks : twiceGuilty.court.identity.ledger.operator.ledger.locks = ∅ := by decide +kernel
  have hunlocked : ∀ id a, lockAmount twiceGuilty.court.identity.ledger id a = 0 := by
    intro id a
    change twiceGuilty.court.identity.ledger.operator.ledger.locks.getD (id, a) 0 = 0
    rw [hlocks, StorageMap.getD_empty]
  refine (guillotine_iff Runtime.estates 2 (fun origin => decide (origin = .root))
    (fun origin => decide (origin = .root)) ⟨.signed 8, 1⟩ 0 hateCase twiceGuilty.court 8 rfl
    (by decide +kernel) rfl rfl (by decide +kernel) (fun w hw => ?_)).mpr
      ⟨by decide +kernel, Or.inr ⟨by decide, by decide +kernel, fun id => hunlocked id 7,
        fun w hw _ => ?_⟩⟩
  · obtain rfl := Option.some.inj hw
    decide +kernel
  · obtain rfl := Option.some.inj hw
    refine ⟨by decide, fun id => ?_, by decide⟩
    rw [hunlocked]
    decide +kernel

/-- **The second sentence is refused**, though the case is guilty and the treasury and the informant
are alive: the defendant is in the registry of shame after the first. -/
theorem second_sentence_refused :
    guillotinedOnce.court.courtCases.get 1 = some hateCase ∧
      Alive guillotinedOnce.court.identity.ledger 2 ∧
      Alive guillotinedOnce.court.identity.ledger 8 ∧
      ¬ ∃ s', executeVerdict runtimeCourts ⟨.signed 8, 1⟩ 1 guillotinedOnce.court = .ok s' := by
  refine ⟨by decide +kernel, by decide +kernel, by decide +kernel, ?_⟩
  rintro ⟨s', h⟩
  have hrefused : (executeVerdict runtimeCourts ⟨.signed 8, 1⟩ 1 guillotinedOnce.court).isOk =
      false := by decide +kernel
  rw [h] at hrefused
  cases hrefused

end JudicialCourts
