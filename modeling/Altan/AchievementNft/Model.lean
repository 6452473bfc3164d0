import Altan.Foundation.Arithmetic
import Altan.Foundation.BoundedVec
import Altan.Foundation.Escrow
import Altan.Foundation.StorageMap
import Altan.Foundation.TransitionSystem

/-!
# The achievement tokens

An issuer awards tokens of reputation, which are worth nothing, and issues tokens of reward. The
amount of a reward is reserved on the treasury when it is issued; the holder redeems it once, which
gives it back to the treasury and pays it from there.

## Main definitions

* `Config`, `Context`, `State`: the constants, what a call is dispatched with, and the storage with
  the ledger
* `Token`: a token
* `Call`, `dispatch`: the dispatchables
* `Input`, `step`: a call, or what happens to the ledger elsewhere
* `minted`: the storage with one more token
* `redeemed`: the storage after a token is redeemed

## Main results

* `mint_eq_ok`, `awardAchievement_eq_ok`, `issueRewardNft_eq_ok`, `redeemRewardNft_eq_ok`: when a
  call is accepted
-/

open Bounded Dispatch

namespace AchievementNft

/-- The errors of the module. -/
inductive Error
  | tokenNotFound
  | notRedeemable
  | alreadyRedeemed
  | notHolder
  | tooManyAchievements
  | insufficientTreasuryBalance
  deriving DecidableEq, Repr

/-- The outcome of a function of the module. -/
abbrev Result (α : Type) := Except (DispatchError Error) α

/-- Whether a token is one of reputation or worth an amount. -/
inductive AchievementCategory
  | reputation
  | reward
  deriving DecidableEq, Repr

/-- What a token is given for. -/
inductive AchievementKind
  | verifier
  | tumedElected
  | guildMaster
  | academyScientist
  | firstCitizen
  | frontierBuilder
  | legislativeAuthor
  | centuryMember
  | verifierReward
  | electionReward
  | questReward
  | budgetPrize
  | taxBonus
  | validationBonus
  | custom (id : UInt16)
  deriving DecidableEq, Repr

/-- A token. -/
structure Token (AccountId : Type) where
  tokenId : ℕ
  holder : AccountId
  category : AchievementCategory
  kind : AchievementKind
  altanValue : ℕ
  issuedAt : ℕ
  redeemed : Bool
  issuedBy : AccountId
  eventRef : Option (BoundedVec UInt8 64)
  deriving DecidableEq

/-- The constants of the module, and who issues tokens. -/
structure Config (AccountId : Type) where
  issuer : Origin AccountId → Option AccountId
  confederationTreasury : AccountId
  maxAchievementsPerHolder : ℕ

/-- What a call is dispatched with: its origin and the current block. -/
structure Context (AccountId : Type) where
  origin : Origin AccountId
  now : ℕ

variable {AccountId L : Type}

/-- The storage of the module, and the ledger. -/
structure State (cfg : Config AccountId) (L : Type) where
  ledger : L
  nextAchievementId : ℕ
  achievements : StorageMap ℕ (Token AccountId)
  holderAchievements : StorageMap AccountId (BoundedVec ℕ cfg.maxAchievementsPerHolder)

variable {cfg : Config AccountId}

/-- The storage before any call, on a ledger. -/
def State.start (ledger : L) : State cfg L where
  ledger := ledger
  nextAchievementId := 0
  achievements := ∅
  holderAchievements := ∅

/-- A reference to an event, if it is given and fits. -/
def eventReference (eventRef : Option (List UInt8)) : Option (BoundedVec UInt8 64) :=
  eventRef.bind (BoundedVec.tryFrom 64)

variable [DecidableEq AccountId]

/-- Give a holder a token under the next number. -/
def mint (ctx : Context AccountId) (issuer holder : AccountId) (category : AchievementCategory)
    (kind : AchievementKind) (altanValue : ℕ) (eventRef : Option (List UInt8)) (s : State cfg L) :
    Result (State cfg L) := do
  let tokenId := s.nextAchievementId
  let ids ← required ((s.holderAchievements.getD holder .empty).tryPush tokenId)
    (.module .tooManyAchievements)
  return { s with
    nextAchievementId := saturatingAdd u64Max tokenId 1
    achievements := s.achievements.insert tokenId
      { tokenId := tokenId
        holder := holder
        category := category
        kind := kind
        altanValue := altanValue
        issuedAt := ctx.now
        redeemed := false
        issuedBy := issuer
        eventRef := eventReference eventRef }
    holderAchievements := s.holderAchievements.insert holder ids }

/-- Award a token of reputation. -/
def awardAchievement (ctx : Context AccountId) (holder : AccountId) (kind : AchievementKind)
    (eventRef : Option (List UInt8)) (s : State cfg L) : Result (State cfg L) := do
  let issuer ← required (cfg.issuer ctx.origin) .badOrigin
  mint ctx issuer holder .reputation kind 0 eventRef s

variable [Currency AccountId L] [EscrowCurrency AccountId L]

/-- Issue a token of reward, whose amount is reserved on the treasury. -/
def issueRewardNft (ctx : Context AccountId) (holder : AccountId) (kind : AchievementKind)
    (altanAmount : ℕ) (eventRef : Option (List UInt8)) (s : State cfg L) :
    Result (State cfg L) := do
  let issuer ← required (cfg.issuer ctx.origin) .badOrigin
  let ledger ← (ReservableCurrency.reserve s.ledger cfg.confederationTreasury altanAmount).mapError
    fun _ => .module .insufficientTreasuryBalance
  mint ctx issuer holder .reward kind altanAmount eventRef { s with ledger := ledger }

/-- Redeem a token of reward, as its holder: its amount is given back to the treasury and paid from
there. -/
def redeemRewardNft (ctx : Context AccountId) (tokenId : ℕ) (s : State cfg L) :
    Result (State cfg L) := do
  let caller ← ensureSigned ctx.origin
  let token ← required (s.achievements.get tokenId) (.module .tokenNotFound)
  ensure (token.holder = caller) (.module .notHolder)
  ensure (token.category = .reward) (.module .notRedeemable)
  ensure (token.redeemed = false) (.module .alreadyRedeemed)
  let treasury := cfg.confederationTreasury
  let ledger := EscrowCurrency.unreserve s.ledger treasury token.altanValue
  let ledger ← liftCurrency (Currency.transfer ledger treasury token.holder token.altanValue
    .keepAlive)
  return { s with
    ledger := ledger
    achievements := s.achievements.insert tokenId { token with redeemed := true } }

/-- The dispatchables with their arguments. -/
inductive Call (AccountId : Type)
  | awardAchievement (holder : AccountId) (kind : AchievementKind)
    (eventRef : Option (List UInt8))
  | issueRewardNft (holder : AccountId) (kind : AchievementKind) (altanAmount : ℕ)
    (eventRef : Option (List UInt8))
  | redeemRewardNft (tokenId : ℕ)
  deriving DecidableEq

/-- Dispatch a call. -/
def dispatch (ctx : Context AccountId) : Call AccountId → State cfg L → Result (State cfg L)
  | .awardAchievement holder kind eventRef => awardAchievement ctx holder kind eventRef
  | .issueRewardNft holder kind altanAmount eventRef =>
    issueRewardNft ctx holder kind altanAmount eventRef
  | .redeemRewardNft tokenId => redeemRewardNft ctx tokenId

end AchievementNft

/-! ### What the calls do

The module with the ledger as a state machine, and for each call when it is accepted and what it
changes. -/

open Ledger TransitionSystem

namespace AchievementNft

variable {AccountId L : Type}

/-- A call with what it is dispatched with, or what happens to the ledger elsewhere. -/
inductive Input (AccountId L : Type)
  | call (ctx : Context AccountId) (c : Call AccountId)
  | elsewhere (ledger : L)

variable [DecidableEq AccountId] {cfg : Config AccountId}

/-- The storage with one more token, and other tokens of its holder. -/
def minted (token : Token AccountId) (ids : BoundedVec ℕ cfg.maxAchievementsPerHolder)
    (s : State cfg L) : State cfg L :=
  { s with
    nextAchievementId := saturatingAdd u64Max s.nextAchievementId 1
    achievements := s.achievements.insert s.nextAchievementId token
    holderAchievements := s.holderAchievements.insert token.holder ids }

/-- The storage after a token is redeemed. -/
def redeemed (tokenId : ℕ) (token : Token AccountId) (ledger : L) (s : State cfg L) :
    State cfg L :=
  { s with
    ledger := ledger
    achievements := s.achievements.insert tokenId { token with redeemed := true } }

variable {ctx : Context AccountId} {s s' : State cfg L} {issuer holder : AccountId}
  {category : AchievementCategory} {kind : AchievementKind} {altanValue tokenId : ℕ}
  {eventRef : Option (List UInt8)}

/-- The token that is minted is not redeemed. -/
theorem mint_eq_ok
    (h : mint ctx issuer holder category kind altanValue eventRef s = .ok s') :
    ∃ token ids, token.holder = holder ∧ token.category = category ∧
      token.altanValue = altanValue ∧ token.redeemed = false ∧ s' = minted token ids s := by
  simp only [mint, required_bind_eq_ok, pure_eq_ok] at h
  obtain ⟨ids, -, rfl⟩ := h
  exact ⟨_, ids, rfl, rfl, rfl, rfl, rfl⟩

theorem awardAchievement_eq_ok (h : awardAchievement ctx holder kind eventRef s = .ok s') :
    ∃ token ids, token.holder = holder ∧ token.category = .reputation ∧
      token.altanValue = 0 ∧ token.redeemed = false ∧ s' = minted token ids s := by
  simp only [awardAchievement, required_bind_eq_ok] at h
  obtain ⟨issuer, -, h⟩ := h
  exact mint_eq_ok h

variable [Currency AccountId L] [EscrowCurrency AccountId L]

/-- The state after one input. -/
def step : Input AccountId L → State cfg L → Result (State cfg L)
  | .call ctx c, s => dispatch ctx c s
  | .elsewhere ledger, s => .ok { s with ledger := ledger }

theorem issueRewardNft_eq_ok (h : issueRewardNft ctx holder kind altanValue eventRef s = .ok s') :
    ∃ ledger token ids,
      ReservableCurrency.reserve s.ledger cfg.confederationTreasury altanValue = .ok ledger ∧
      token.holder = holder ∧ token.category = .reward ∧ token.altanValue = altanValue ∧
      token.redeemed = false ∧ s' = minted token ids { s with ledger := ledger } := by
  simp only [issueRewardNft, required_bind_eq_ok, mapError_bind_eq_ok] at h
  obtain ⟨issuer, -, ledger, hledger, h⟩ := h
  obtain ⟨token, ids, htoken⟩ := mint_eq_ok h
  exact ⟨ledger, token, ids, hledger, htoken⟩

/-- A token of reward that is not redeemed. -/
def Token.IsOutstanding (token : Token AccountId) : Prop :=
  token.category = .reward ∧ token.redeemed = false

instance : DecidablePred (@Token.IsOutstanding AccountId) :=
  fun _ => inferInstanceAs (Decidable (_ ∧ _))

/-- A token is redeemed by its holder, when the payment goes through. -/
theorem redeemRewardNft_eq_ok : redeemRewardNft ctx tokenId s = .ok s' ↔
    ∃ token ledger, s.achievements.get tokenId = some token ∧ ctx.origin = .signed token.holder ∧
      token.IsOutstanding ∧
      EscrowCurrency.payReserved s.ledger cfg.confederationTreasury token.holder
        token.altanValue = .ok ledger ∧ s' = redeemed tokenId token ledger s := by
  simp only [redeemRewardNft, ensureSigned_bind_eq_ok, required_bind_eq_ok, ensure_bind_eq_ok,
    liftCurrency, mapError_bind_eq_ok, pure_eq_ok]
  constructor
  · rintro ⟨_, horigin, token, hget, rfl, hreward, hunredeemed, ledger, hpaid, rfl⟩
    exact ⟨token, ledger, hget, horigin, ⟨hreward, hunredeemed⟩, hpaid, rfl⟩
  · rintro ⟨token, ledger, hget, horigin, ⟨hreward, hunredeemed⟩, hpaid, rfl⟩
    exact ⟨token.holder, horigin, token, hget, rfl, hreward, hunredeemed, ledger, hpaid, rfl⟩

/-- When the ledger refuses a redemption, it refuses the payment of the token. -/
theorem redeemRewardNft_eq_currency {e : CurrencyError}
    (h : redeemRewardNft ctx tokenId s = .error (.currency e)) :
    ∃ token, s.achievements.get tokenId = some token ∧ token.IsOutstanding ∧
      EscrowCurrency.payReserved s.ledger cfg.confederationTreasury token.holder
        token.altanValue = .error e := by
  simp only [redeemRewardNft, ensureSigned_bind_eq_currency, required_bind_eq_currency,
    ensure_bind_eq_currency] at h
  obtain ⟨_, -, token, hget, rfl, hreward, hunredeemed, h⟩ := h
  rcases bind_eq_error.mp h with h | ⟨ledger, -, h⟩
  · exact ⟨token, hget, ⟨hreward, hunredeemed⟩, liftCurrency_eq_currency.mp h⟩
  · cases h

end AchievementNft
