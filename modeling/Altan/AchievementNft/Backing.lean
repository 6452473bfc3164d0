import Altan.CentralBank.Spec
import Altan.Foundation.ProvidedBalances
import Altan.Runtime.Constants
import Altan.Runtime.Estates

/-!
# The backing of the rewards

The tokens of reward that are not redeemed share the reserved balance of the treasury. Issuing one
reserves its amount, and what is reserved keeps the treasury at the existential deposit: the
treasury can always pay the last of them. As long as nobody else touches what is reserved, it is the
sum of their amounts, and each is paid once, to its holder.

## Main definitions

* `State.outstanding`: the amounts of the tokens of reward that are not redeemed
* `record`: what is paid for every token
* `Undisturbed`: the reserved balance of the treasury is left alone, and there is a number left
* `Sound`, `Pays`: what is asked of states, and of inputs

## Main results

* `Kept.mint`, `Kept.redeem`: a new token, and one that is redeemed
* `kept_step`: what an undisturbed input keeps
* `Kept.sound`, `pays_step`: what is kept is sound
* `rewards_backed`: the rewards are backed in undisturbed runs
-/

open Bounded Dispatch Ledger TransitionSystem

namespace AchievementNft

variable {AccountId L : Type} {cfg : Config AccountId}
  {s s' : State cfg L} {token : Token AccountId} {tokenId : ℕ}

/-! ### What is outstanding, and what is paid -/

/-- What a token is worth to its holder. -/
def Token.outstandingValue (token : Token AccountId) : ℕ :=
  if token.IsOutstanding then token.altanValue else 0

/-- The amounts of the tokens of reward that are not redeemed. -/
def State.outstanding (s : State cfg L) : ℕ :=
  s.achievements.sum fun _ token => token.outstandingValue

/-- What is paid for a token, and to whom. -/
def Token.payout (token : Token AccountId) : Option (AccountId × ℕ) :=
  if token.redeemed = true then some (token.holder, token.altanValue) else none

/-- What is paid for every token, to the accounts that ask for it. -/
abbrev Payments (AccountId : Type) := EventLog ℕ (AccountId × ℕ)

/-- What an accepted input adds to the payments. -/
def record (s : State cfg L) (i : Input AccountId L) (h : Payments AccountId) :
    Payments AccountId :=
  match i with
  | .call ctx (.redeemRewardNft tokenId) =>
    match ctx.origin with
    | .signed caller =>
      h.append tokenId (caller, ((s.achievements.get tokenId).map Token.altanValue).getD 0)
    | _ => h
  | _ => h

theorem Token.payout_of_unredeemed (h : token.redeemed = false) : token.payout = none := by
  rw [Token.payout, h]
  rfl

theorem Token.outstandingValue_redeemed :
    { token with redeemed := true }.outstandingValue = 0 :=
  if_neg fun h => nomatch h.2

/-! ### What is asked -/

variable [Currency AccountId L]

/-- Nothing but the calls touches what is reserved on the treasury, and there is a number for a new
token. -/
def Undisturbed (s : State cfg L) : Input AccountId L → Prop
  | .call _ (.awardAchievement ..) => s.nextAchievementId < u64Max
  | .call _ (.issueRewardNft ..) => s.nextAchievementId < u64Max
  | .call _ (.redeemRewardNft _) => True
  | .elsewhere ledger =>
    reservedBalance ledger cfg.confederationTreasury =
      reservedBalance s.ledger cfg.confederationTreasury

instance decidableUndisturbed (s : State cfg L) :
    (i : Input AccountId L) → Decidable (Undisturbed s i)
  | .call _ (.awardAchievement ..) => inferInstanceAs (Decidable (_ < _))
  | .call _ (.issueRewardNft ..) => inferInstanceAs (Decidable (_ < _))
  | .call _ (.redeemRewardNft _) => isTrue trivial
  | .elsewhere _ => inferInstanceAs (Decidable (_ = _))

/-- What every undisturbed run keeps. -/
structure Kept (s : State cfg L) (h : Payments AccountId) : Prop where
  backed : s.outstanding = reservedBalance s.ledger cfg.confederationTreasury
  paid : ∀ tokenId, h tokenId = ((s.achievements.get tokenId).bind Token.payout).toList
  numbered : ∀ tokenId token, s.achievements.get tokenId = some token →
    tokenId < s.nextAchievementId
  reputation : ∀ tokenId token, s.achievements.get tokenId = some token →
    token.category = .reputation → token.redeemed = false

variable {h : Payments AccountId}

theorem kept_start {ledger : L} (hreserved : reservedBalance ledger cfg.confederationTreasury = 0) :
    Kept (State.start ledger : State cfg L) fun _ => [] where
  backed := hreserved.symm
  paid _ := rfl
  numbered tokenId _ hget := nomatch (StorageMap.get_empty tokenId).symm.trans hget
  reputation tokenId _ hget := nomatch (StorageMap.get_empty tokenId).symm.trans hget

/-- What a token is worth is reserved. -/
theorem Kept.altanValue_le (hk : Kept s h) (hget : s.achievements.get tokenId = some token)
    (hout : token.IsOutstanding) :
    token.altanValue ≤ reservedBalance s.ledger cfg.confederationTreasury := by
  have hle := StorageMap.le_sum_of_get
    (h := fun (_ : ℕ) (token : Token AccountId) => token.outstandingValue) hget
  rw [← hk.backed]
  exact (if_pos hout).symm.trans_le hle

variable [DecidableEq AccountId] [EscrowCurrency AccountId L]

/-- The rewards are backed: what is outstanding is reserved, a token is paid in full to its holder
once it is redeemed, and one of reputation never. The holder of a token that is not redeemed redeems
it on being alive, or on being worth the existential deposit by it, while the treasury is not
locked; nobody is refused for lack of funds. -/
structure Sound (s : State cfg L) (h : Payments AccountId) : Prop where
  backed : s.outstanding = reservedBalance s.ledger cfg.confederationTreasury
  paid : ∀ tokenId, h tokenId = ((s.achievements.get tokenId).bind Token.payout).toList
  reputation : ∀ tokenId token, s.achievements.get tokenId = some token →
    token.category = .reputation → h tokenId = []
  redeemable : ∀ tokenId token now, s.achievements.get tokenId = some token →
    token.IsOutstanding → (∀ id, lockAmount s.ledger id cfg.confederationTreasury = 0) →
    Alive s.ledger token.holder ∨ existentialDeposit L ≤ token.altanValue →
    ∃ s', step (.call ⟨.signed token.holder, now⟩ (.redeemRewardNft tokenId)) s = .ok s'
  funded : ∀ ctx tokenId e,
    step (.call ctx (.redeemRewardNft tokenId)) s = .error (.currency e) →
      e ≠ .fundsUnavailable ∧ e ≠ .notExpendable

/-- What a call does to the ledger: a redemption pays the token to its holder, who asks for it, an
issue reserves the amount on the treasury, and an award does nothing. -/
def Pays (s s' : State cfg L) : Input AccountId L → Prop
  | .call ctx (.redeemRewardNft tokenId) =>
    ∃ token, s.achievements.get tokenId = some token ∧ ctx.origin = .signed token.holder ∧
      token.IsOutstanding ∧
      Paid s.ledger s'.ledger cfg.confederationTreasury token.holder token.altanValue
  | .call _ (.issueRewardNft _ _ altanAmount _) =>
    Reserved s.ledger s'.ledger cfg.confederationTreasury altanAmount
  | .call _ (.awardAchievement ..) => s'.ledger = s.ledger
  | .elsewhere ledger => s'.ledger = ledger

/-! ### One input -/

section Kept

omit [EscrowCurrency AccountId L] in
/-- **A new token** is worth what is reserved for it. -/
theorem Kept.mint (hk : Kept s h) {ledger : L} {ids : BoundedVec ℕ cfg.maxAchievementsPerHolder}
    (hroom : s.nextAchievementId < u64Max) (hunredeemed : token.redeemed = false)
    (hreserved : reservedBalance ledger cfg.confederationTreasury =
      reservedBalance s.ledger cfg.confederationTreasury + token.outstandingValue) :
    Kept (minted token ids { s with ledger := ledger }) h := by
  have hnew : s.achievements.get s.nextAchievementId = none := by
    by_contra hsome
    obtain ⟨old, hold⟩ := Option.ne_none_iff_exists'.mp hsome
    exact Nat.lt_irrefl _ (hk.numbered _ old hold)
  have hnext : saturatingAdd u64Max s.nextAchievementId 1 = s.nextAchievementId + 1 :=
    saturatingAdd_eq_iff.mpr hroom
  refine ⟨?_, fun id => ?_, fun id other hget => ?_, fun id other hget hreputation => ?_⟩
  -- the sum and the reserve grow by the same
  · have hsum := StorageMap.sum_insert_new
      (fun (_ : ℕ) (token : Token AccountId) => token.outstandingValue) hnew token
    have hbacked : s.achievements.sum (fun _ token => token.outstandingValue) = _ := hk.backed
    refine hsum.trans ?_
    rw [Nat.add_comm, hbacked]
    exact hreserved.symm
  · rw [hk.paid id]
    unfold minted
    rw [StorageMap.get_insert]
    split
    · next hid => rw [hid, hnew, Option.bind_some, Token.payout_of_unredeemed hunredeemed]; rfl
    · rfl
  · unfold minted
    rw [hnext]
    rcases StorageMap.get_insert_cases hget with ⟨rfl, -⟩ | ⟨-, hget⟩
    · exact Nat.lt_succ_self _
    · exact Nat.lt_succ_of_lt (hk.numbered id other hget)
  · rcases StorageMap.get_insert_cases hget with ⟨-, rfl⟩ | ⟨-, hget⟩
    · exact hunredeemed
    · exact hk.reputation id other hget hreputation

omit [EscrowCurrency AccountId L] in
/-- **A redeemed token** takes what was reserved for it, and is paid once. -/
theorem Kept.redeem (hk : Kept s h) {ledger : L} (hget : s.achievements.get tokenId = some token)
    (hout : token.IsOutstanding)
    (hpaid : Paid s.ledger ledger cfg.confederationTreasury token.holder token.altanValue) :
    Kept (redeemed tokenId token ledger s)
      (h.append tokenId (token.holder, token.altanValue)) := by
  refine ⟨?_, fun id => ?_, fun id other hother => ?_, fun id other hother hreputation => ?_⟩
  -- the token is worth nothing once it is redeemed, and what it was worth has left the reserve
  · have hsum := StorageMap.sum_insert_of_get
      (fun (_ : ℕ) (token : Token AccountId) => token.outstandingValue) hget
      { token with redeemed := true }
    rw [Token.outstandingValue_redeemed, Nat.zero_add, Token.outstandingValue, if_pos hout] at hsum
    have hbacked : s.achievements.sum (fun _ token => token.outstandingValue) = _ := hk.backed
    have hreserved := hpaid.reserved
    unfold State.outstanding redeemed
    dsimp only
    omega
  · unfold redeemed
    dsimp only
    rw [StorageMap.get_insert]
    split
    · next hid =>
      -- it was not paid before
      have hnil := hk.paid tokenId
      rw [hget, Option.bind_some, Token.payout_of_unredeemed hout.2] at hnil
      rw [hid, EventLog.append_self, hnil]
      rfl
    · next hid => rw [EventLog.append_of_ne hid, hk.paid id]
  · rcases StorageMap.get_insert_cases hother with ⟨rfl, -⟩ | ⟨-, hother⟩
    · exact hk.numbered id token hget
    · exact hk.numbered id other hother
  · rcases StorageMap.get_insert_cases hother with ⟨-, rfl⟩ | ⟨-, hother⟩
    · exact absurd (hout.1.symm.trans hreputation) nofun
    · exact hk.reputation id other hother hreputation

variable {i : Input AccountId L}

/-- **An undisturbed input** keeps the rewards backed. -/
theorem kept_step (hk : Kept s h) (hundisturbed : Undisturbed s i) (hs : step i s = .ok s') :
    Kept s' (record s i h) := by
  cases i with
  | call ctx c =>
    cases c with
    | awardAchievement holder kind eventRef =>
      obtain ⟨token, ids, -, hreputation, -, hunredeemed, rfl⟩ := awardAchievement_eq_ok hs
      -- a token of reputation is worth nothing, and nothing is reserved for it
      have hout : ¬ token.IsOutstanding := fun hout => nomatch hout.1.symm.trans hreputation
      have hreserved : reservedBalance s.ledger cfg.confederationTreasury =
          reservedBalance s.ledger cfg.confederationTreasury + token.outstandingValue := by
        rw [Token.outstandingValue, if_neg hout, Nat.add_zero]
      exact hk.mint hundisturbed hunredeemed hreserved
    | issueRewardNft holder kind altanAmount eventRef =>
      obtain ⟨ledger, token, ids, hledger, -, hreward, rfl, hunredeemed, rfl⟩ :=
        issueRewardNft_eq_ok hs
      refine hk.mint hundisturbed hunredeemed ?_
      rw [Token.outstandingValue, if_pos ⟨hreward, hunredeemed⟩]
      exact (ReservableCurrency.reserve_ok _ _ _ _ hledger).reserved
    | redeemRewardNft tokenId =>
      obtain ⟨token, ledger, hget, horigin, hout, hpaid, rfl⟩ := redeemRewardNft_eq_ok.mp hs
      obtain ⟨origin, now⟩ := ctx
      obtain rfl : origin = .signed token.holder := horigin
      have hkept := hk.redeem hget hout
        (EscrowCurrency.payReserved_paid (hk.altanValue_le hget hout) hpaid)
      unfold record
      dsimp only
      rw [hget]
      exact hkept
  | elsewhere ledger =>
    obtain rfl := Except.ok.inj hs
    exact ⟨hk.backed.trans hundisturbed.symm, hk.paid, hk.numbered, hk.reputation⟩

/-- What an input does to the ledger where the rewards are backed. -/
theorem pays_step (hk : Kept s h) (hs : step i s = .ok s') : Pays s s' i := by
  cases i with
  | call ctx c =>
    cases c with
    | awardAchievement holder kind eventRef =>
      obtain ⟨token, ids, -, -, -, -, rfl⟩ := awardAchievement_eq_ok hs
      exact rfl
    | issueRewardNft holder kind altanAmount eventRef =>
      obtain ⟨ledger, token, ids, hledger, -, -, -, -, rfl⟩ := issueRewardNft_eq_ok hs
      exact ReservableCurrency.reserve_ok _ _ _ _ hledger
    | redeemRewardNft tokenId =>
      obtain ⟨token, ledger, hget, horigin, hout, hpaid, rfl⟩ := redeemRewardNft_eq_ok.mp hs
      exact ⟨token, hget, horigin, hout,
        EscrowCurrency.payReserved_paid (hk.altanValue_le hget hout) hpaid⟩
  | elsewhere ledger =>
    obtain rfl := Except.ok.inj hs
    exact rfl

/-- **What is kept is sound**: a token that is not redeemed has its amount reserved, so the treasury
holds the existential deposit beside it. -/
theorem Kept.sound [UnlockedEscrow AccountId L] [ReapedAccounts AccountId L] (hk : Kept s h) :
    Sound s h where
  backed := hk.backed
  paid := hk.paid
  reputation tokenId token hget hreputation := by
    rw [hk.paid tokenId, hget, Option.bind_some,
      Token.payout_of_unredeemed (hk.reputation tokenId token hget hreputation)]
    rfl
  redeemable tokenId token now hget hout hlock hdest := by
    have hle := hk.altanValue_le hget hout
    have hreceives :
        existentialDeposit L ≤ freeBalance s.ledger token.holder + token.altanValue := by
      -- an account that is alive holds the existential deposit already
      rcases hdest with halive | hworth
      · exact (EscrowCurrency.existentialDeposit_le_of_alive halive).trans (Nat.le_add_right _ _)
      · exact hworth.trans (Nat.le_add_left _ _)
    obtain ⟨ledger, hpaid⟩ := EscrowCurrency.payReserved_isOk hle hlock hreceives
    exact ⟨_, redeemRewardNft_eq_ok.mpr ⟨token, ledger, hget, rfl, hout, hpaid, rfl⟩⟩
  funded ctx tokenId e herror := by
    obtain ⟨token, hget, hout, herror⟩ := redeemRewardNft_eq_currency herror
    exact EscrowCurrency.payReserved_error (hk.altanValue_le hget hout) herror

end Kept

/-! ### Runs -/

/-- **The rewards are backed.** In every run that starts with nothing reserved on the treasury and
does not disturb it, the amounts of the tokens of reward that are not redeemed are what is reserved,
each is paid in full and once, to its holder, and can be redeemed in every state. -/
theorem rewards_backed [UnlockedEscrow AccountId L] [ReapedAccounts AccountId L]
    (cfg : Config AccountId) (ledger : L)
    (hreserved : reservedBalance ledger cfg.confederationTreasury = 0)
    (is : List (Input AccountId L))
    (h : Along step Undisturbed is (State.start ledger : State cfg L)) :
    Throughout (recording record step) (fun t => Sound t.1 t.2) is
        ((State.start ledger : State cfg L), fun _ => []) ∧
      Along (recording record step) (fun t i => Pays t.1 (exec step i t.1) i) is
        ((State.start ledger : State cfg L), fun _ => []) := by
  have hrecorded : Along (recording record step) (fun t i => Undisturbed t.1 i) is
      ((State.start ledger : State cfg L), fun _ => []) := along_recording.mpr h
  have hstart := kept_start hreserved
  have hkept : ∀ i (t t' : State cfg L × Payments AccountId), Kept t.1 t.2 → Undisturbed t.1 i →
      recording record step i t = .ok t' → Kept t'.1 t'.2 := by
    intro i t t' hk hundisturbed ht
    obtain ⟨hs, hrecord⟩ := recording_eq_ok.mp ht
    rw [hrecord]
    exact kept_step hk hundisturbed hs
  constructor
  · have hthrough := throughout_of_along (P := fun t : State cfg L × Payments AccountId =>
      Kept t.1 t.2) hkept hstart hrecorded
    exact hthrough.imp fun _ hk => hk.sound
  · refine along_of_invariant (J := fun t : State cfg L × Payments AccountId => Kept t.1 t.2)
      hkept ?_ hstart hrecorded
    intro i t t' hk _ ht
    obtain ⟨hs, -⟩ := recording_eq_ok.mp ht
    rw [exec_ok hs]
    exact pays_step hk hs

/-! ### A reward -/

/-- The treasury holds a hundred units, and the account `7` one. -/
def treasuryLedger : Runtime.EscrowLedger ℕ :=
  ProvidedBalances.ofFree [(2, 100 * CentralBank.unit), (7, CentralBank.unit)]

/-- The account `7` is awarded a token and given two rewards, of ten units and of five, the first of
which it redeems. -/
def rewarded : List (Input ℕ (Runtime.EscrowLedger ℕ)) :=
  [.call ⟨.signed 1, 1⟩ (.issueRewardNft 7 .questReward (10 * CentralBank.unit) none),
    .call ⟨.signed 1, 1⟩ (.awardAchievement 7 .verifier none),
    .call ⟨.signed 1, 2⟩ (.issueRewardNft 7 .taxBonus (5 * CentralBank.unit) none),
    .call ⟨.signed 7, 3⟩ (.redeemRewardNft 0)]

theorem rewards_backed_rewarded :
    (Throughout (recording record step) (fun t => Sound t.1 t.2) rewarded
        ((State.start treasuryLedger : State Runtime.achievementNft _), fun _ => []) ∧
      Along (recording record step) (fun t i => Pays t.1 (exec step i t.1) i) rewarded
        ((State.start treasuryLedger : State Runtime.achievementNft _), fun _ => [])) ∧
    (run step rewarded (State.start treasuryLedger : State Runtime.achievementNft _)).outstanding =
      5 * CentralBank.unit :=
  ⟨rewards_backed Runtime.achievementNft treasuryLedger (by decide +kernel) rewarded
    (by decide +kernel), by decide +kernel⟩

end AchievementNft
