import Altan.BlackBook.Model
import Altan.Foundation.Accounting
import Altan.Runtime.Estates

/-!
# The bounties on fugitives

The bounty on a fugitive is kept on the account of the fugitive, who may sign transfers and
donations as anybody else. The pool, and after a capture the locked payout, say what is owed of the
balance there. A payout that is cancelled stays on the account; the citizen is exiled by then, and
is not condemned a second time.

## Main definitions

* `Input`, `step`: the black book and the transfers of accounts, as a state machine
* `held s f`: the bounty kept on an account
* `Event`, `record`: what becomes of the payouts
* `Spares`: an input takes no bounty from the account it is kept on, other than by a claim
* `Sound`: the bounties are backed and claimable, paid once, and seizable when cancelled

## Main results

* `kept_step`: what a sparing input keeps
* `bounties_sound`: the bounties are sound in the runs whose inputs spare them
-/

open Bounded Dispatch Ledger TransitionSystem Estates

namespace BlackBook

variable {AccountId L : Type}

/-! ### The state machine -/

/-- A call with what it is dispatched with, or a transfer that an account signs. -/
inductive Input (AccountId : Type)
  | call (ctx : Context AccountId) (c : Call AccountId)
  | transfer (signer dest : AccountId) (amount : ℕ) (er : ExistenceRequirement)

section Inputs

variable [DecidableEq AccountId] [Currency AccountId L]

/-- The state after one input. -/
def step (cfg : Config AccountId L) :
    Input AccountId → State AccountId L → Result (State AccountId L)
  | .call ctx c, s => dispatch cfg ctx c s
  | .transfer signer dest amount er, s => do
    let ledger ← liftCurrency (Currency.transfer s.identity.ledger signer dest amount er)
    return s.withLedger ledger

/-- The storage before any call, with citizens of any kind. -/
def State.start (identity : Identity.State AccountId L) : State AccountId L :=
  { genesis with identity := identity }

/-- The ledger of the citizens. -/
def State.ledger (s : State AccountId L) : L := s.identity.ledger

/-- Whether a condemned citizen is at large or captured, if a fugitive at all. -/
def State.standing (s : State AccountId L) (f : AccountId) : Option FugitiveStatus :=
  (s.wallOfShame.get f).bind CrimeRecord.fugitiveStatus

/-- The amount of a locked payout, zero without one. -/
def lockedAmount (s : State AccountId L) (f : AccountId) : ℕ :=
  ((s.lockedBountyPayouts.get f).map LockedPayout.amount).getD 0

/-- The bounty that is kept on an account. -/
def held (s : State AccountId L) (f : AccountId) : ℕ := s.bountyPools.getD f 0 + lockedAmount s f

end Inputs

/-! ### What becomes of the payouts -/

/-- What becomes of a payout. -/
inductive Event (AccountId : Type)
  | locked (payout : LockedPayout AccountId)
  | paid (payout : LockedPayout AccountId)
  | cancelled (payout : LockedPayout AccountId)
  deriving DecidableEq

/-- What has become of the payouts on each fugitive. -/
abbrev History (AccountId : Type) := AccountId → List (Event AccountId)

variable [DecidableEq AccountId]

/-- The history with an event, if there is a payout it is about. -/
def History.append (h : History AccountId) (f : AccountId)
    (event : LockedPayout AccountId → Event AccountId) (payout : Option (LockedPayout AccountId)) :
    History AccountId :=
  Function.update h f (h f ++ (payout.map event).toList)

theorem History.append_self {h : History AccountId} {f : AccountId}
    {event : LockedPayout AccountId → Event AccountId} {p : LockedPayout AccountId} :
    h.append f event (some p) f = h f ++ [event p] :=
  Function.update_self f _ h

theorem History.append_of_ne {h : History AccountId} {f c : AccountId}
    {event : LockedPayout AccountId → Event AccountId} {p : Option (LockedPayout AccountId)}
    (hc : c ≠ f) : h.append f event p c = h c :=
  Function.update_of_ne hc _ h

variable [Currency AccountId L]

/-- What an accepted input adds to the history. -/
def record (cfg : Config AccountId L) (s : State AccountId L) (x : Input AccountId)
    (h : History AccountId) : History AccountId :=
  match x with
  | .call _ (.registerCaptureAndPayout f _) =>
    h.append f .locked ((exec (step cfg) x s).lockedBountyPayouts.get f)
  | .call _ (.claimBountyPayout f) => h.append f .paid (s.lockedBountyPayouts.get f)
  | .call _ (.cancelBountyPayout f) => h.append f .cancelled (s.lockedBountyPayouts.get f)
  | _ => h

/-- The state can seize what is on the account of a condemned citizen: root condemns the citizen
again. -/
def Seizable (cfg : Config AccountId L) (s : State AccountId L) (f : AccountId) : Prop :=
  ∃ ctx category verdictHash isFugitive initialBounty s',
    condemnAndIssueWarrant cfg ctx f category verdictHash isFugitive initialBounty s = .ok s'

/-- The bounties are sound: what is owed is on the account, a claim whose time has come does not
fail for lack of funds, a payout is locked once and paid or cancelled at most once, and what is
cancelled can be seized. -/
structure Sound (cfg : Config AccountId L) (s : State AccountId L) (h : History AccountId) :
    Prop where
  pools : ∀ f v, s.bountyPools.get f = some v → v ≤ freeBalance s.ledger f
  payouts : ∀ f p, s.lockedBountyPayouts.get f = some p → p.amount ≤ freeBalance s.ledger f
  claimable : ∀ ctx f p e, s.lockedBountyPayouts.get f = some p → p.unlockBlock ≤ ctx.now →
    claimBountyPayout ctx f s = .error (.currency e) → e ≠ .fundsUnavailable ∧ e ≠ .notExpendable
  paidOnce : ∀ f, h f = [] ∨
    ∃ p, h f = [.locked p] ∨ h f = [.locked p, .paid p] ∨ h f = [.locked p, .cancelled p]
  seizable : ∀ f p, .cancelled p ∈ h f → Seizable cfg s f

/-- A claim pays the recorded hunter, and nobody else. -/
def PaysHunter (s s' : State AccountId L) : Input AccountId → Prop
  | .call _ (.claimBountyPayout f) =>
    ∃ p, s.lockedBountyPayouts.get f = some p ∧
      Currency.transfer s.ledger f p.bountyHunter p.amount .allowDeath = .ok s'.ledger
  | _ => True

/-- An input leaves the bounties where they are kept: nobody spends from what is kept on the own
account, the treasury is not condemned as a fugitive, and no payout is cancelled. -/
def Spares (cfg : Config AccountId L) (s : State AccountId L) : Input AccountId → Prop
  | .transfer signer dest amount _ =>
    amount = 0 ∨ signer = dest ∨ held s signer ≤ remainder s.ledger signer amount
  | .call ctx (.donateToBounty _ amount) =>
    ∀ donor, ctx.origin = .signed donor → held s donor + amount ≤ freeBalance s.ledger donor
  | .call _ (.condemnAndIssueWarrant target _ _ isFugitive _) =>
    ¬ (target = cfg.stateTreasury ∧ isFugitive = true)
  | .call _ (.cancelBountyPayout _) => False
  | .call _ _ => True

instance decidableSpares (cfg : Config AccountId L) (s : State AccountId L) :
    (x : Input AccountId) → Decidable (Spares cfg s x)
  | .transfer .. => inferInstanceAs (Decidable (_ ∨ _ ∨ _))
  | .call ⟨.signed donor, now, isAcademician⟩ (.donateToBounty f amount) =>
    decidable_of_iff (held s donor + amount ≤ freeBalance s.ledger donor)
      ⟨fun h _ hd => Origin.signed.inj hd ▸ h, fun h => h donor rfl⟩
  | .call ⟨.root, _, _⟩ (.donateToBounty _ _) => isTrue fun _ hd => by cases hd
  | .call ⟨.none, _, _⟩ (.donateToBounty _ _) => isTrue fun _ hd => by cases hd
  | .call _ (.condemnAndIssueWarrant ..) => inferInstanceAs (Decidable (¬ _))
  | .call _ (.cancelBountyPayout _) => isFalse id
  | .call _ (.registerCaptureAndPayout _ _) => isTrue trivial
  | .call _ (.claimBountyPayout _) => isTrue trivial

/-! ### What the calls go through and do -/

section Calls

variable {cfg : Config AccountId L} {ctx : Context AccountId} {s s' : State AccountId L}
  {f : AccountId}

/-- What condemning a citizen goes through and does. -/
structure Warrant (cfg : Config AccountId L) (s s' : State AccountId L) (target : AccountId)
    (isFugitive : Bool) (initialBounty : ℕ) : Prop where
  exiled : ∃ r r', s.identity.citizens.get target = some r ∧ r.status ≠ .exiled ∧
    r'.status = .exiled ∧ s'.identity.citizens = s.identity.citizens.insert target r'
  entered : ∃ crime : CrimeRecord,
    crime.fugitiveStatus = (if isFugitive then some .atLarge else none) ∧
      s'.wallOfShame = s.wallOfShame.insert target crime
  payouts : s'.lockedBountyPayouts = s.lockedBountyPayouts
  funds : ∃ l, confiscate cfg target (cfg.identity.onExiled target s.ledger) = .ok l ∧
    (s'.bountyPools = s.bountyPools ∧ s'.ledger = l ∨
      isFugitive = true ∧ s'.bountyPools = s.bountyPools.insert target initialBounty ∧
        Currency.transfer l cfg.stateTreasury target initialBounty .keepAlive = .ok s'.ledger)

theorem condemn_warrant {target : AccountId} {category : CrimeCategory} {verdictHash : Bytes32}
    {isFugitive : Bool} {initialBounty : ℕ}
    (h : condemnAndIssueWarrant cfg ctx target category verdictHash isFugitive initialBounty s =
      .ok s') : Warrant cfg s s' target isFugitive initialBounty := by
  simp only [condemnAndIssueWarrant, ensureRoot_bind_eq_ok, ensure_bind_eq_ok,
    mapError_bind_eq_ok, Identity.doExile, Identity.bridged] at h
  obtain ⟨-, -, -, identity, hexile, h⟩ := h
  obtain ⟨l, hconfiscate, h⟩ := bind_eq_ok.mp h
  simp only [required_bind_eq_ok, ensure_bind_eq_ok, pure_eq_ok] at hexile
  obtain ⟨r, hget, hliving, rfl⟩ := hexile
  unfold seedBounty at h
  split at h
  · next hseeded =>
    simp only [mapError_bind_eq_ok, pure_eq_ok] at h
    obtain ⟨l', htransfer, rfl⟩ := h
    exact ⟨⟨r, _, hget, hliving.1, rfl, rfl⟩, ⟨_, rfl, rfl⟩, rfl, l, hconfiscate,
      Or.inr ⟨hseeded.1, rfl, htransfer⟩⟩
  · obtain rfl := pure_eq_ok.mp h
    exact ⟨⟨r, _, hget, hliving.1, rfl, rfl⟩, ⟨_, rfl, rfl⟩, rfl, l, hconfiscate,
      Or.inl ⟨rfl, rfl⟩⟩

theorem donate_eq_ok {amount : ℕ} (h : donateToBounty ctx f amount s = .ok s') :
    ∃ donor l, ctx.origin = .signed donor ∧ s.standing f = some .atLarge ∧
      Currency.transfer s.ledger donor f amount .keepAlive = .ok l ∧
      s' = { s.withLedger l with
        bountyPools :=
          s.bountyPools.insert f (saturatingAdd u128Max (s.bountyPools.getD f 0) amount) } := by
  simp only [donateToBounty, ensureSigned_bind_eq_ok, required_bind_eq_ok, ensure_bind_eq_ok,
    mapError_bind_eq_ok, pure_eq_ok] at h
  obtain ⟨donor, horigin, crime, hcrime, hfree, hfugitive, l, htransfer, rfl⟩ := h
  refine ⟨donor, l, horigin, ?_, htransfer, rfl⟩
  unfold State.standing
  rw [hcrime, Option.bind_some]
  -- neither captured nor no fugitive
  cases hstatus : crime.fugitiveStatus with
  | none => exact absurd hstatus hfugitive
  | some status =>
    cases status with
    | atLarge => rfl
    | captured => exact absurd hstatus hfree

omit [Currency AccountId L] in
theorem capture_eq_ok {hunter : AccountId}
    (h : registerCaptureAndPayout cfg ctx f hunter s = .ok s') :
    ∃ crime amount, s.wallOfShame.get f = some crime ∧ crime.fugitiveStatus = some .atLarge ∧
      s.lockedBountyPayouts.get f = none ∧ s.bountyPools.get f = some amount ∧
      s' = { s with
        wallOfShame := s.wallOfShame.insert f { crime with fugitiveStatus := some .captured }
        lockedBountyPayouts := s.lockedBountyPayouts.insert f
          ⟨hunter, saturatingAdd u32Max ctx.now cfg.bountyLockPeriod, amount⟩
        bountyPools := s.bountyPools.remove f } := by
  simp only [registerCaptureAndPayout, ensureRoot_bind_eq_ok, ensure_bind_eq_ok,
    required_bind_eq_ok, pure_eq_ok] at h
  obtain ⟨-, crime, hcrime, hfree, hnone, amount, hpool, -, rfl⟩ := h
  exact ⟨crime, amount, hcrime, hfree, StorageMap.not_containsKey.mp hnone, hpool, rfl⟩

theorem claim_eq_ok (h : claimBountyPayout ctx f s = .ok s') :
    ∃ p l, s.lockedBountyPayouts.get f = some p ∧
      Currency.transfer s.ledger f p.bountyHunter p.amount .allowDeath = .ok l ∧
      s' = { s.withLedger l with lockedBountyPayouts := s.lockedBountyPayouts.remove f } := by
  simp only [claimBountyPayout, ensureSigned_bind_eq_ok, required_bind_eq_ok, ensure_bind_eq_ok,
    liftCurrency_bind_eq_ok, pure_eq_ok] at h
  obtain ⟨-, -, p, hp, -, l, htransfer, rfl⟩ := h
  exact ⟨p, l, hp, htransfer, rfl⟩

/-- A claim that the ledger refuses is one it refuses to pay. -/
theorem claim_eq_currency {e : CurrencyError}
    (h : claimBountyPayout ctx f s = .error (.currency e)) :
    ∃ p, s.lockedBountyPayouts.get f = some p ∧
      Currency.transfer s.ledger f p.bountyHunter p.amount .allowDeath = .error e := by
  simp only [claimBountyPayout, ensureSigned_bind_eq_currency, required_bind_eq_currency,
    ensure_bind_eq_currency] at h
  obtain ⟨-, -, p, hp, -, h⟩ := h
  rcases bind_eq_error.mp h with h | ⟨l, -, h⟩
  · exact ⟨p, hp, liftCurrency_eq_currency.mp h⟩
  · cases h

end Calls

/-! ### What is kept -/

section Kept

variable {cfg : Config AccountId L} {ctx : Context AccountId} {s s' : State AccountId L}
  {f c : AccountId} {h : History AccountId}

/-- What is kept of an account: one who is condemned is exiled, there is a pool only on a fugitive
at large and a payout only on one who is captured, what is held on the account is there, and the
history is that of one payout. -/
structure KeptAt (s : State AccountId L) (h : History AccountId) (f : AccountId) : Prop where
  exiled : s.wallOfShame.containsKey f = true →
    (s.identity.citizens.get f).map Identity.CitizenRecord.status = some .exiled
  pool : s.standing f ≠ some .atLarge → s.bountyPools.get f = none
  payout : s.standing f ≠ some .captured → s.lockedBountyPayouts.get f = none
  backed : held s f ≤ freeBalance s.ledger f
  fresh : s.standing f ≠ some .captured → h f = []
  locked : ∀ p, s.lockedBountyPayouts.get f = some p → h f = [.locked p]
  settled : s.lockedBountyPayouts.get f = none → h f = [] ∨ ∃ p, h f = [.locked p, .paid p]

/-- The invariant, with the treasury no fugitive. -/
structure Kept (cfg : Config AccountId L) (s : State AccountId L) (h : History AccountId) :
    Prop where
  kept : ∀ f, KeptAt s h f
  treasury : s.standing cfg.stateTreasury = none

omit [Currency AccountId L] in
theorem standing_of_get {crime : CrimeRecord} (hget : s.wallOfShame.get f = some crime) :
    s.standing f = crime.fugitiveStatus := by
  unfold State.standing
  rw [hget, Option.bind_some]

omit [Currency AccountId L] in
theorem standing_congr (hwall : s'.wallOfShame.get c = s.wallOfShame.get c) :
    s'.standing c = s.standing c := by
  unfold State.standing
  rw [hwall]

omit [Currency AccountId L] in
theorem held_congr (hpool : s'.bountyPools.get c = s.bountyPools.get c)
    (hpayout : s'.lockedBountyPayouts.get c = s.lockedBountyPayouts.get c) :
    held s' c = held s c := by
  unfold held lockedAmount StorageMap.getD
  rw [hpool, hpayout]

omit [Currency AccountId L] in
theorem held_eq (s : State AccountId L) (c : AccountId) :
    held s c = (s.bountyPools.get c).getD 0 +
      ((s.lockedBountyPayouts.get c).map LockedPayout.amount).getD 0 := rfl

/-- An account whose records stay as they are, and whose balance does not fall. -/
theorem KeptAt.of_unaffected {h' : History AccountId} (hk : KeptAt s h c)
    (hcitizen : s'.identity.citizens.get c = s.identity.citizens.get c)
    (hwall : s'.wallOfShame.get c = s.wallOfShame.get c)
    (hpool : s'.bountyPools.get c = s.bountyPools.get c)
    (hpayout : s'.lockedBountyPayouts.get c = s.lockedBountyPayouts.get c)
    (hfree : held s c ≤ freeBalance s'.ledger c) (hh : h' c = h c) : KeptAt s' h' c where
  exiled hc := by
    rw [hcitizen]
    refine hk.exiled ?_
    rwa [StorageMap.containsKey, hwall] at hc
  pool hc := by
    rw [standing_congr hwall] at hc
    exact hpool.trans (hk.pool hc)
  payout hc := by
    rw [standing_congr hwall] at hc
    exact hpayout.trans (hk.payout hc)
  backed := by rwa [held_congr hpool hpayout]
  fresh hc := by
    rw [standing_congr hwall] at hc
    exact hh.trans (hk.fresh hc)
  locked p hp := hh.trans (hk.locked p (hpayout ▸ hp))
  settled hc := by
    rw [hh]
    exact hk.settled (hpayout ▸ hc)

/-- Nothing is held on an account that is no fugitive's. -/
theorem KeptAt.held_eq_zero (hk : KeptAt s h c) (hnone : s.standing c = none) : held s c = 0 := by
  rw [held_eq, hk.pool (by simp [hnone]), hk.payout (by simp [hnone])]
  rfl

theorem kept_start (identity : Identity.State AccountId L) :
    Kept cfg (.start identity) (fun _ => []) where
  kept f :=
    { exiled := fun hf => by simp [State.start, genesis, StorageMap.containsKey] at hf
      pool := fun _ => StorageMap.get_empty f
      payout := fun _ => StorageMap.get_empty f
      backed := by simp [held, lockedAmount, State.start, genesis]
      fresh := fun _ => rfl
      locked := fun p hp => by simp [State.start, genesis] at hp
      settled := fun _ => Or.inl rfl }
  treasury := by simp [State.start, genesis, State.standing]

/-- **A transfer** that leaves its source what is held there leaves what is held everywhere. -/
theorem Kept.transfer (hk : Kept cfg s h) {a b : AccountId} {v : ℕ}
    {er : ExistenceRequirement} {l : L} (ht : Currency.transfer s.ledger a b v er = .ok l)
    (hspared : v = 0 ∨ a = b ∨ held s a ≤ remainder s.ledger a v) :
    Kept cfg (s.withLedger l) h := by
  refine ⟨fun c => (hk.kept c).of_unaffected rfl rfl rfl rfl ?_ rfl, hk.treasury⟩
  show held s c ≤ freeBalance l c
  have hbacked := (hk.kept c).backed
  by_cases hca : c = a
  · subst hca
    -- a transfer of nothing, or to oneself, moves nothing
    rcases Currency.transfer_cases ht with ⟨-, rfl⟩ | ⟨hv, hab, hmoved⟩
    · exact hbacked
    · rw [hmoved.source]
      exact (hspared.resolve_left hv).resolve_left hab
  · exact hbacked.trans (Currency.transfer_free_le ht hca)

omit [Currency AccountId L] in
theorem held_donated (s : State AccountId L) (l : L) (c : AccountId) (amount : ℕ) :
    held { s.withLedger l with
      bountyPools :=
        s.bountyPools.insert c (saturatingAdd u128Max (s.bountyPools.getD c 0) amount) } c ≤
      held s c + amount := by
  -- a pool that is clipped holds less
  have hclip : saturatingAdd u128Max (s.bountyPools.getD c 0) amount ≤
      s.bountyPools.getD c 0 + amount := saturatingAdd_le_add
  show StorageMap.getD _ c 0 + lockedAmount s c ≤
    s.bountyPools.getD c 0 + lockedAmount s c + amount
  rw [StorageMap.getD_insert_self]
  omega

/-- **A donation** adds to the pool what it adds to the account, and is taken from what the donor
may spend. -/
theorem Kept.donate (hk : Kept cfg s h) {amount : ℕ}
    (hspared : ∀ donor, ctx.origin = .signed donor →
      held s donor + amount ≤ freeBalance s.ledger donor)
    (hs : donateToBounty ctx f amount s = .ok s') : Kept cfg s' h := by
  obtain ⟨donor, l, horigin, hlarge, htransfer, rfl⟩ := donate_eq_ok hs
  have hdonor := hspared donor horigin
  refine ⟨fun c => ?_, hk.treasury⟩
  have hbacked := (hk.kept c).backed
  have hfree := Currency.transfer_keepAlive_free htransfer c
  by_cases hcf : c = f
  · -- the fugitive, perhaps the donor too
    subst hcf
    obtain ⟨hexiled, -, hpayout, -, hfresh, hlocked, hsettled⟩ := hk.kept c
    refine ⟨hexiled, fun hc => absurd hlarge hc, hpayout, ?_, hfresh, hlocked, hsettled⟩
    refine (held_donated s l c amount).trans ?_
    show held s c + amount ≤ freeBalance l c
    rw [if_pos rfl] at hfree
    split_ifs at hfree with hcd
    · subst hcd
      omega
    · omega
  · -- the donor may hold a bounty of his own, and keeps it
    refine (hk.kept c).of_unaffected rfl rfl (StorageMap.get_insert_of_ne hcf) rfl ?_ rfl
    show held s c ≤ freeBalance l c
    split_ifs at hfree with hcd
    · subst hcd
      omega
    · omega

/-- **A capture** locks what is in the pool. -/
theorem Kept.capture (hk : Kept cfg s h) {hunter : AccountId}
    (hs : registerCaptureAndPayout cfg ctx f hunter s = .ok s') :
    Kept cfg s' (h.append f .locked (s'.lockedBountyPayouts.get f)) := by
  obtain ⟨crime, amount, hcrime, hlarge, hnone, hpool, rfl⟩ := capture_eq_ok hs
  have hstanding : s.standing f = some .atLarge := (standing_of_get hcrime).trans hlarge
  -- the treasury is no fugitive
  have htreasury : cfg.stateTreasury ≠ f := by
    rintro rfl
    exact Option.some_ne_none _ (hstanding.symm.trans hk.treasury)
  refine ⟨fun c => ?_, ?_⟩
  · by_cases hcf : c = f
    · subst hcf
      have hkept := hk.kept c
      have hcaptured : State.standing { s with
          wallOfShame := s.wallOfShame.insert c { crime with fugitiveStatus := some .captured }
          lockedBountyPayouts := s.lockedBountyPayouts.insert c
            ⟨hunter, saturatingAdd u32Max ctx.now cfg.bountyLockPeriod, amount⟩
          bountyPools := s.bountyPools.remove c } c = some .captured := by
        rw [standing_of_get StorageMap.get_insert_self]
      -- what was in the pool is locked
      constructor
      · intro _
        exact hkept.exiled (StorageMap.containsKey_iff.mpr ⟨crime, hcrime⟩)
      · intro _
        exact StorageMap.get_remove_self
      · intro hc
        exact absurd hcaptured hc
      · have hbacked := hkept.backed
        rw [held_eq, hpool, hnone] at hbacked
        rw [held_eq, StorageMap.get_remove_self, StorageMap.get_insert_self]
        exact (Nat.zero_add _).trans_le hbacked
      · intro hc
        exact absurd hcaptured hc
      · intro p hp
        rw [StorageMap.get_insert_self] at hp ⊢
        obtain rfl := Option.some.inj hp
        rw [History.append_self, hkept.fresh (by simp [hstanding])]
        rfl
      · intro hc
        rw [StorageMap.get_insert_self] at hc
        cases hc
    · exact (hk.kept c).of_unaffected rfl (StorageMap.get_insert_of_ne hcf)
        (StorageMap.get_remove_of_ne hcf) (StorageMap.get_insert_of_ne hcf) (hk.kept c).backed
        (History.append_of_ne hcf)
  · rw [standing_congr (StorageMap.get_insert_of_ne htreasury)]
    exact hk.treasury

/-- **A claim** pays out what is locked, and nothing is held on the account after it. -/
theorem Kept.claim (hk : Kept cfg s h) (hs : claimBountyPayout ctx f s = .ok s') :
    Kept cfg s' (h.append f .paid (s.lockedBountyPayouts.get f)) := by
  obtain ⟨p, l, hp, htransfer, rfl⟩ := claim_eq_ok hs
  refine ⟨fun c => ?_, hk.treasury⟩
  by_cases hcf : c = f
  · subst hcf
    have hkept := hk.kept c
    -- who has a locked payout is captured, and has no pool
    have hstanding : s.standing c = some .captured := by
      by_contra hc
      exact Option.some_ne_none p (hp.symm.trans (hkept.payout hc))
    constructor
    · exact hkept.exiled
    · exact hkept.pool
    · intro hc
      exact StorageMap.get_remove_self
    · have hnone := hkept.pool (by simp [hstanding])
      rw [held_eq, StorageMap.get_remove_self]
      simp only [State.withLedger, hnone]
      exact Nat.zero_le _
    · intro hc
      exact absurd hstanding hc
    · intro q hq
      rw [StorageMap.get_remove_self] at hq
      cases hq
    · intro _
      rw [hp, History.append_self, hkept.locked p hp]
      exact Or.inr ⟨p, rfl⟩
  · refine (hk.kept c).of_unaffected rfl rfl rfl (StorageMap.get_remove_of_ne hcf) ?_
      (History.append_of_ne hcf)
    exact (hk.kept c).backed.trans (Currency.transfer_free_le htransfer hcf)

section Warrants

variable (hexile : ∀ who (l : L) c, c ≠ who →
  freeBalance (cfg.identity.onExiled who l) c = freeBalance l c)

include hexile

/-- Condemning a citizen takes from that citizen, and from the treasury. -/
theorem Warrant.free_le {target : AccountId} {isFugitive : Bool} {initialBounty : ℕ}
    (hw : Warrant cfg s s' target isFugitive initialBounty) (htarget : c ≠ target)
    (htreasury : c ≠ cfg.stateTreasury) : freeBalance s.ledger c ≤ freeBalance s'.ledger c := by
  obtain ⟨l, hconfiscate, hfunds⟩ := hw.funds
  have hfirst : freeBalance s.ledger c ≤ freeBalance l c := by
    rw [← hexile target s.ledger c htarget]
    dsimp only [confiscate] at hconfiscate
    split at hconfiscate
    · exact Currency.transfer_free_le (liftCurrency_eq_ok.mp hconfiscate) htarget
    · rw [Except.ok.inj hconfiscate]
  rcases hfunds with ⟨-, hledger⟩ | ⟨-, -, htransfer⟩
  · rwa [hledger]
  · exact hfirst.trans (Currency.transfer_free_le htransfer htreasury)

omit hexile in
/-- The bounty on a fugitive is put on the account. -/
theorem Warrant.pool_cases {target : AccountId} {isFugitive : Bool} {initialBounty : ℕ}
    (hw : Warrant cfg s s' target isFugitive initialBounty)
    (hspared : ¬ (target = cfg.stateTreasury ∧ isFugitive = true)) :
    s'.bountyPools = s.bountyPools ∨ isFugitive = true ∧
      s'.bountyPools = s.bountyPools.insert target initialBounty ∧
        initialBounty ≤ freeBalance s'.ledger target := by
  obtain ⟨l, -, ⟨hpools, -⟩ | ⟨hfugitive, hpools, htransfer⟩⟩ := hw.funds
  · exact Or.inl hpools
  · refine Or.inr ⟨hfugitive, hpools, ?_⟩
    have hfree := Currency.transfer_keepAlive_free htransfer target
    rw [if_neg fun ht => hspared ⟨ht, hfugitive⟩, if_pos rfl, Nat.add_zero] at hfree
    exact hfree ▸ Nat.le_add_left _ _

omit hexile in
/-- One who lives in the country is not in the book. -/
theorem KeptAt.standing_eq_none {r : Identity.CitizenRecord} (hk : KeptAt s h c)
    (hget : s.identity.citizens.get c = some r) (hliving : r.status ≠ .exiled) :
    s.standing c = none := by
  have hunnamed : s.wallOfShame.get c = none := by
    by_contra hsome
    have hstatus := hk.exiled (StorageMap.containsKey_iff.mpr (Option.ne_none_iff_exists'.mp hsome))
    rw [hget, Option.map_some] at hstatus
    exact hliving (Option.some.inj hstatus)
  rw [State.standing, hunnamed, Option.bind_none]

omit hexile in
/-- Nothing was held on the account of one who is condemned, and the bounty is now. -/
theorem KeptAt.condemn {isFugitive : Bool} {initialBounty : ℕ} (hk : KeptAt s h c)
    (hspared : ¬ (c = cfg.stateTreasury ∧ isFugitive = true))
    (hw : Warrant cfg s s' c isFugitive initialBounty) : KeptAt s' h c := by
  obtain ⟨r, r', hget, hliving, hexiled, hcitizens⟩ := hw.exiled
  obtain ⟨crime, hcrime, hwall⟩ := hw.entered
  have hnone : s.standing c = none := hk.standing_eq_none hget hliving
  have hstanding : s'.standing c = crime.fugitiveStatus :=
    standing_of_get (hwall ▸ StorageMap.get_insert_self)
  have hpool := hk.pool (by simp [hnone])
  have hpayout : s'.lockedBountyPayouts.get c = none := hw.payouts ▸ hk.payout (by simp [hnone])
  have hfresh := hk.fresh (by simp [hnone])
  refine ⟨fun _ => ?_, fun hc => ?_, fun _ => hpayout, ?_, fun _ => hfresh, fun p hp => ?_,
    fun _ => Or.inl hfresh⟩
  · rw [hcitizens, StorageMap.get_insert_self, Option.map_some, hexiled]
  · rcases hw.pool_cases hspared with hpools | ⟨hfugitive, -, -⟩
    · rw [hpools, hpool]
    · -- the pool of a fugitive, who is at large
      rw [hstanding, hcrime, if_pos hfugitive] at hc
      exact absurd rfl hc
  · rw [held_eq, hpayout]
    rcases hw.pool_cases hspared with hpools | ⟨-, hpools, hfunded⟩
    · rw [hpools, hpool]
      exact Nat.zero_le _
    · rw [hpools, StorageMap.get_insert_self]
      exact hfunded
  · rw [hpayout] at hp
    cases hp

/-- **A citizen is condemned.** What is held on other accounts stays there. -/
theorem Kept.condemn {target : AccountId} {isFugitive : Bool} {initialBounty : ℕ}
    (hk : Kept cfg s h) (hspared : ¬ (target = cfg.stateTreasury ∧ isFugitive = true))
    (hw : Warrant cfg s s' target isFugitive initialBounty) : Kept cfg s' h := by
  obtain ⟨-, r', -, -, -, hcitizens⟩ := hw.exiled
  obtain ⟨crime, hcrime, hwall⟩ := hw.entered
  refine ⟨fun c => ?_, ?_⟩
  · by_cases hct : c = target
    · subst hct
      exact (hk.kept c).condemn hspared hw
    · have hpools : s'.bountyPools.get c = s.bountyPools.get c := by
        rcases hw.pool_cases hspared with hpools | ⟨-, hpools, -⟩
        · rw [hpools]
        · rw [hpools, StorageMap.get_insert_of_ne hct]
      refine (hk.kept c).of_unaffected (hcitizens ▸ StorageMap.get_insert_of_ne hct)
        (hwall ▸ StorageMap.get_insert_of_ne hct) hpools (by rw [hw.payouts]) ?_ rfl
      -- the treasury pays the bounty, and nothing is held there
      by_cases hctreasury : c = cfg.stateTreasury
      · rw [(hk.kept c).held_eq_zero (hctreasury ▸ hk.treasury)]
        exact Nat.zero_le _
      · exact (hk.kept c).backed.trans (hw.free_le hexile hct hctreasury)
  · by_cases ht : cfg.stateTreasury = target
    · have hnot : isFugitive ≠ true := fun hf => hspared ⟨ht.symm, hf⟩
      rw [ht, standing_of_get (hwall ▸ StorageMap.get_insert_self), hcrime, if_neg hnot]
    · rw [standing_congr (hwall ▸ StorageMap.get_insert_of_ne ht)]
      exact hk.treasury

/-- **Step lemma.** A sparing input keeps the invariant. -/
theorem kept_step {x : Input AccountId} (hk : Kept cfg s h) (hspared : Spares cfg s x)
    (hs : step cfg x s = .ok s') : Kept cfg s' (record cfg s x h) := by
  have hexec := exec_ok hs
  cases x with
  | transfer signer dest amount er =>
    simp only [step, liftCurrency_bind_eq_ok, pure_eq_ok] at hs
    obtain ⟨l, htransfer, rfl⟩ := hs
    exact hk.transfer htransfer hspared
  | call ctx c =>
    cases c with
    | condemnAndIssueWarrant target category verdictHash isFugitive initialBounty =>
      exact hk.condemn hexile hspared (condemn_warrant hs)
    | donateToBounty f amount => exact hk.donate hspared hs
    | registerCaptureAndPayout f hunter =>
      unfold record
      rw [hexec]
      exact hk.capture hs
    | claimBountyPayout f => exact hk.claim hs
    | cancelBountyPayout f => exact hspared.elim

end Warrants

/-- The invariant makes the bounties sound. -/
theorem Kept.sound (hk : Kept cfg s h) : Sound cfg s h where
  pools f v hv := by
    have hbacked := (hk.kept f).backed
    rw [held_eq, hv] at hbacked
    exact (Nat.le_add_right v _).trans hbacked
  payouts f p hp := by
    have hbacked := (hk.kept f).backed
    rw [held_eq, hp] at hbacked
    exact (Nat.le_add_left p.amount _).trans hbacked
  claimable ctx f p e hp _ he := by
    obtain ⟨p', hp', herror⟩ := claim_eq_currency he
    obtain rfl := Option.some.inj (hp.symm.trans hp')
    have hbacked := (hk.kept f).backed
    rw [held_eq, hp] at hbacked
    exact Currency.transfer_allowDeath_error herror
      ((Nat.le_add_left p.amount _).trans hbacked)
  paidOnce f := by
    cases hp : s.lockedBountyPayouts.get f with
    | some p => exact Or.inr ⟨p, Or.inl ((hk.kept f).locked p hp)⟩
    | none =>
      rcases (hk.kept f).settled hp with hnil | ⟨p, hpaid⟩
      · exact Or.inl hnil
      · exact Or.inr ⟨p, Or.inr (Or.inl hpaid)⟩
  seizable f p hp := by
    -- nothing is cancelled
    cases hpayout : s.lockedBountyPayouts.get f with
    | some q =>
      rw [(hk.kept f).locked q hpayout, List.mem_singleton] at hp
      cases hp
    | none =>
      rcases (hk.kept f).settled hpayout with hnil | ⟨q, hpaid⟩
      · rw [hnil] at hp
        cases hp
      · rw [hpaid] at hp
        simp at hp

theorem paysHunter_of_step {x : Input AccountId} (hs : step cfg x s = .ok s') :
    PaysHunter s s' x := by
  cases x with
  | transfer => trivial
  | call ctx c =>
    cases c with
    | claimBountyPayout f =>
      obtain ⟨p, l, hp, htransfer, rfl⟩ := claim_eq_ok hs
      exact ⟨p, hp, htransfer⟩
    | _ => trivial

end Kept

/-! ### Runs in the runtime -/

section Runs

variable [EscrowCurrency AccountId L]

/-- The black book in the runtime, where exile cancels the quests of a citizen. -/
def wired (cfg : Estates.Config AccountId L) (stateTreasury : AccountId) (bountyLockPeriod : ℕ) :
    Config AccountId (Estate AccountId L) where
  stateTreasury := stateTreasury
  bountyLockPeriod := bountyLockPeriod
  identity := cfg.identity

/-- Exile changes no balance but that of the exiled. -/
theorem onExiled_free (who : AccountId) (e : Estate AccountId L) (c : AccountId) (hc : c ≠ who) :
    freeBalance (onExiled who e) c = freeBalance e c :=
  (cleanupAccount_released e who).others c hc

/-- In the runs whose inputs spare the bounties they are sound in every state, and every claim pays
the recorded hunter. -/
theorem bounties_sound (cfg : Estates.Config AccountId L) (stateTreasury : AccountId)
    (bountyLockPeriod : ℕ) (identity : Identity.State AccountId (Estate AccountId L))
    (xs : List (Input AccountId))
    (hspared : Along (step (wired cfg stateTreasury bountyLockPeriod))
      (Spares (wired cfg stateTreasury bountyLockPeriod)) xs (.start identity)) :
    Throughout (recording (record (wired cfg stateTreasury bountyLockPeriod))
        (step (wired cfg stateTreasury bountyLockPeriod)))
        (fun t => Sound (wired cfg stateTreasury bountyLockPeriod) t.1 t.2) xs
        (.start identity, fun _ => []) ∧
      Along (step (wired cfg stateTreasury bountyLockPeriod))
        (fun s x => PaysHunter s (exec (step (wired cfg stateTreasury bountyLockPeriod)) x s) x) xs
        (.start identity) := by
  constructor
  · refine Throughout.imp (P := fun t : State AccountId (Estate AccountId L) × History AccountId =>
      Kept (wired cfg stateTreasury bountyLockPeriod) t.1 t.2) (fun t hk => hk.sound) ?_
    refine throughout_of_along
      (Q := fun t x => Spares (wired cfg stateTreasury bountyLockPeriod) t.1 x)
      (fun x t t' hk hx hs => ?_)
      (kept_start identity) (along_recording.mpr hspared)
    obtain ⟨hstep, hrecord⟩ := recording_eq_ok.mp hs
    rw [hrecord]
    exact kept_step onExiled_free hk hx hstep
  · refine along_of_step (fun x s s' hs => ?_) xs _
    rw [exec_ok hs]
    exact paysHunter_of_step hs

end Runs

/-! ### A fugitive who spends the bounty -/

/-- A call in a block, with nobody in the academy. -/
def inBlock (now : ℕ) (origin : Origin ℕ) (c : Call ℕ) : Input ℕ :=
  .call ⟨origin, now, fun _ => false⟩ c

/-- The black book of the runtime; a bounty is locked for a week. -/
def blackBook : Config ℕ (Estate ℕ (Runtime.EscrowLedger ℕ)) := wired Runtime.estates 2 50400

/-- The citizen 7 is registered, who has a thousand units, as the treasury 2 and the account 8. -/
def oneCitizen : State ℕ (Estate ℕ (Runtime.EscrowLedger ℕ)) :=
  .start (run (Identity.step Runtime.estates.identity)
    [Runtime.decree (Runtime.registration 7 (.ofNat 0))] Runtime.estatesGenesis).toState

/-- The citizen is condemned, with a bounty of a hundred units. -/
def condemned : Input ℕ :=
  inBlock 1 .root (.condemnAndIssueWarrant 7 .corruption (.ofNat 0) true (100 * CentralBank.unit))

/-- Somebody adds to the bounty, the fugitive is caught, and the hunter is paid after a week. -/
def caught : List (Input ℕ) :=
  [condemned, inBlock 2 (.signed 8) (.donateToBounty 7 (50 * CentralBank.unit)),
    .transfer 8 2 CentralBank.unit .keepAlive, inBlock 3 .root (.registerCaptureAndPayout 7 9),
    inBlock 50403 (.signed 7) (.claimBountyPayout 7)]

theorem bounties_sound_caught :
    Along (step blackBook) (fun s x => PaysHunter s (exec (step blackBook) x s) x) caught
      oneCitizen :=
  (bounties_sound Runtime.estates 2 50400 _ caught (by decide +kernel)).2

/-- The fugitive sends the bounty elsewhere. -/
def spent : List (Input ℕ) :=
  [condemned, .transfer 7 8 (100 * CentralBank.unit) .allowDeath]

/-- The fugitive is caught, and the payout is cancelled. -/
def cancelled : List (Input ℕ) :=
  [condemned, inBlock 3 .root (.registerCaptureAndPayout 7 9),
    inBlock 4 .root (.cancelBountyPayout 7)]

/-- The bounty that is spent is not there, and the one that is cancelled is not seized: who is
condemned is not condemned again. -/
theorem bounty_spent :
    (¬ Throughout (recording (record blackBook) (step blackBook))
      (fun t => Sound blackBook t.1 t.2) spent (oneCitizen, fun _ => [])) ∧
    ¬ Throughout (recording (record blackBook) (step blackBook))
      (fun t => Sound blackBook t.1 t.2) cancelled (oneCitizen, fun _ => []) := by
  constructor
  · intro h
    have hpool : (run (step blackBook) spent oneCitizen).bountyPools.get 7 =
        some (100 * CentralBank.unit) := by decide +kernel
    have hfree : freeBalance (run (step blackBook) spent oneCitizen).ledger 7 = 0 := by
      decide +kernel
    have hrun : (run (recording (record blackBook) (step blackBook)) spent
        (oneCitizen, fun _ => [])).1 = run (step blackBook) spent oneCitizen := run_recording spent _
    rw [← hrun] at hpool hfree
    have hle := h.last.pools 7 _ hpool
    rw [hfree] at hle
    revert hle
    decide
  · intro h
    have hevents : Event.cancelled ⟨9, 50403, 100 * CentralBank.unit⟩ ∈
        (run (recording (record blackBook) (step blackBook)) cancelled
          (oneCitizen, fun _ => [])).2 7 := by decide +kernel
    obtain ⟨ctx, category, verdictHash, isFugitive, initialBounty, s', hs'⟩ :=
      h.last.seizable 7 _ hevents
    obtain ⟨r, -, hget, hliving, -, -⟩ := (condemn_warrant hs').exiled
    have hexiled : ((run (recording (record blackBook) (step blackBook)) cancelled
        (oneCitizen, fun _ => [])).1.identity.citizens.get 7).map Identity.CitizenRecord.status =
          some .exiled := by decide +kernel
    rw [hget, Option.map_some] at hexiled
    exact hliving (Option.some.inj hexiled)

end BlackBook
