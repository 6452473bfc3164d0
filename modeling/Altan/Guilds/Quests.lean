import Altan.Foundation.Accounting
import Altan.Foundation.Deposits
import Altan.Runtime.Constants

/-!
# The rewards of quests

The rewards of all quests of an employer that are not finished are in one reserved balance. Each is
taken out with its quest, in full since the others are backed too: paid to the one who did the work
when a master approves it, to anyone when a master resolves the quest, or given back to the employer
when the quest is cancelled. The numbers of quests do not wrap but stop at their bound, so a reward
is lost once the last number is given again.

## Main definitions

* `Event`, `record`: what becomes of the rewards
* `Recorded`: what has become of one reward
* `Sound`: the rewards are backed, taken out once, and can be paid
* `Moves`: what an input moves
* `Undisturbed`: other modules leave what employers have reserved
* `Fresh`: a quest finds a free number

## Main results

* `kept_step_iff`: one step
* `quests_escrowed_iff`: the runs in which the escrow is sound
-/

open Bounded Dispatch Ledger TransitionSystem Deposits

namespace Guilds

variable {AccountId L : Type}

/-! ### What becomes of the rewards -/

/-- What becomes of a reward, and who receives how much. -/
inductive Event (AccountId : Type)
  | escrowed (employer : AccountId) (reward : ℕ)
  | completed (assignee : AccountId) (reward : ℕ)
  | resolved (recipient : AccountId) (reward : ℕ)
  | returned (employer : AccountId) (reward : ℕ)
  deriving DecidableEq

/-- What has become of the reward of each quest. -/
abbrev History (AccountId : Type) : Type := EventLog ℕ (Event AccountId)

/-- The reward of a quest that is not finished. -/
def liability (q : Quest AccountId) : Option (AccountId × ℕ) :=
  match q.status with
  | .opened | .inProgress | .review => some (q.employer, q.reward)
  | .completed | .cancelled => none

/-- A quest that is not finished. -/
def Quest.Live (q : Quest AccountId) : Prop := q.status ≠ .completed ∧ q.status ≠ .cancelled

/-- How the reward of a finished quest was taken out. -/
inductive Settled (q : Quest AccountId) : Event AccountId → Prop
  | completed (a : AccountId) (hassignee : q.assignee = some a) (hs : q.status = .completed) :
    Settled q (.completed a q.reward)
  | resolved (recipient : AccountId) (hs : q.status = .completed) :
    Settled q (.resolved recipient q.reward)
  | returned (hs : q.status = .completed ∨ q.status = .cancelled) :
    Settled q (.returned q.employer q.reward)

/-- The reward of a quest stays in escrow until the quest is finished, and is taken out once. -/
inductive Recorded : Option (Quest AccountId) → List (Event AccountId) → Prop
  | absent : Recorded none []
  | opened (q) (hs : q.status = .opened) : Recorded (some q) [.escrowed q.employer q.reward]
  | assigned (q a) (hs : q.status = .inProgress ∨ q.status = .review)
    (hassignee : q.assignee = some a) : Recorded (some q) [.escrowed q.employer q.reward]
  | settled (q e) (he : Settled q e) : Recorded (some q) [.escrowed q.employer q.reward, e]

variable [DecidableEq AccountId]

/-- What an accepted input adds to the history. -/
def record {cfg : Config AccountId} (s : Federation AccountId L) (x : Input cfg L)
    (h : History AccountId) : History AccountId :=
  match x with
  | .call origin (.market (.publishQuest _ reward _)) =>
    match origin with
    | .signed who => h.append s.nextQuestId (.escrowed who reward)
    | _ => h
  | .call _ (.market (.completeQuest questId)) =>
    match s.quests.get questId with
    | some q =>
      match q.assignee with
      | some assignee => h.append questId (.completed assignee q.reward)
      | none => h
    | none => h
  | .call _ (.market (.forceResolveQuest questId recipient)) =>
    match s.quests.get questId with
    | some q => h.append questId (.resolved recipient q.reward)
    | none => h
  | .call _ (.market (.cancelQuest questId)) =>
    match s.quests.get questId with
    | some q => h.append questId (.returned q.employer q.reward)
    | none => h
  | .cleanupAccount who => fun questId =>
    match s.quests.get questId with
    | some q => if q.IsPending who then h questId ++ [.returned q.employer q.reward] else h questId
    | none => h questId
  | _ => h

section Escrow

variable [Currency AccountId L]

/-- The rewards are backed and taken out once. -/
structure Kept (s : Federation AccountId L) (h : History AccountId) : Prop where
  recorded : ∀ questId, Recorded (s.quests.get questId) (h questId)
  backed : Backed liability s.quests s.ledger

/-- Other modules leave what the employers of quests have reserved. -/
def Undisturbed {cfg : Config AccountId} (s : Federation AccountId L) : Input cfg L → Prop
  | .elsewhere ledger => ∀ questId q, s.quests.get questId = some q →
      reservedBalance s.ledger q.employer ≤ reservedBalance ledger q.employer
  | _ => True

/-- A quest finds a free number. -/
def Fresh {cfg : Config AccountId} (s : Federation AccountId L) : Input cfg L → Prop
  | .call _ (.market (.publishQuest ..)) => s.quests.get s.nextQuestId = none
  | _ => True

instance decidableFresh {cfg : Config AccountId} (s : Federation AccountId L) :
    (x : Input cfg L) → Decidable (Fresh s x)
  | .call _ (.market (.publishQuest ..)) =>
    decidable_of_iff ((s.quests.get s.nextQuestId).isNone = true) Option.isNone_iff_eq_none
  | .call _ (.market (.createGuild ..)) => isTrue trivial
  | .call _ (.market (.joinGuild _)) => isTrue trivial
  | .call _ (.market (.promoteMember ..)) => isTrue trivial
  | .call _ (.market (.assignQuest _)) => isTrue trivial
  | .call _ (.market (.submitQuest _)) => isTrue trivial
  | .call _ (.market (.completeQuest _)) => isTrue trivial
  | .call _ (.market (.cancelQuest _)) => isTrue trivial
  | .call _ (.market (.subscribeToAcademy ..)) => isTrue trivial
  | .call _ (.market (.forceResolveQuest ..)) => isTrue trivial
  | .call _ (.proposeAchievement ..) => isTrue trivial
  | .call _ (.createGuildFromRelayer ..) => isTrue trivial
  | .call _ (.updateCouncilFromRelayer ..) => isTrue trivial
  | .call _ (.createProposalFromRelayer ..) => isTrue trivial
  | .call _ (.voteProposalFromRelayer ..) => isTrue trivial
  | .call _ (.formGuildUnion ..) => isTrue trivial
  | .call _ (.voteForGrandmaster ..) => isTrue trivial
  | .call _ (.elevateUnion ..) => isTrue trivial
  | .cleanupAccount _ => isTrue trivial
  | .elsewhere _ => isTrue trivial

/-- A reward is given back to the employer in full, and paid on. -/
def Pays (q : Quest AccountId) (recipient : AccountId) (l l' : L) : Prop :=
  ∃ m : L, Released l m q.employer q.reward ∧
    Currency.transfer m q.employer recipient q.reward .keepAlive = .ok l'

/-- What an accepted input moves: a quest that is published reserves its reward, one that is
finished takes its reward out in full, and nothing else changes what is reserved. -/
def Moves {cfg : Config AccountId} (s s' : Federation AccountId L) : Input cfg L → Prop
  | .call origin (.market (.publishQuest _ reward _)) => ∃ employer, origin = .signed employer ∧
      Reserved s.ledger s'.ledger employer reward
  | .call _ (.market (.completeQuest questId)) => ∃ q assignee, s.quests.get questId = some q ∧
      q.assignee = some assignee ∧ Pays q assignee s.ledger s'.ledger
  | .call _ (.market (.forceResolveQuest questId recipient)) => ∃ q, s.quests.get questId = some q ∧
      Pays q recipient s.ledger s'.ledger
  | .call _ (.market (.cancelQuest questId)) => ∃ q, s.quests.get questId = some q ∧
      Released s.ledger s'.ledger q.employer q.reward
  | .cleanupAccount who => Released s.ledger s'.ledger who (s.pendingRewards who).sum
  | .elsewhere _ => True
  | .call _ _ => ∀ a, reservedBalance s'.ledger a = reservedBalance s.ledger a

variable {s s' : Federation AccountId L} {h h' : History AccountId} {q q' : Quest AccountId}
  {questId : ℕ} {es : List (Event AccountId)}

/-! ### The record of one quest -/

omit [DecidableEq AccountId] [Currency AccountId L] in
theorem Quest.live_of_eq {status : QuestStatus} (hs : q.status = status)
    (hlive : status ≠ .completed ∧ status ≠ .cancelled) : q.Live := by
  subst hs
  exact hlive

omit [DecidableEq AccountId] [Currency AccountId L] in
theorem Quest.Live.liability (hlive : q.Live) : liability q = some (q.employer, q.reward) := by
  unfold Guilds.liability
  obtain ⟨hcompleted, hcancelled⟩ := hlive
  cases hs : q.status with
  | opened => rfl
  | inProgress => rfl
  | review => rfl
  | completed => exact absurd hs hcompleted
  | cancelled => exact absurd hs hcancelled

omit [DecidableEq AccountId] [Currency AccountId L] in
/-- The reward of a quest that is not finished has only been put in escrow. -/
theorem Recorded.eq_escrowed (hr : Recorded (some q) es) (hlive : q.Live) :
    es = [.escrowed q.employer q.reward] := by
  obtain ⟨hcompleted, hcancelled⟩ := hlive
  cases hr with
  | opened => rfl
  | assigned => rfl
  | settled _ _ he =>
    cases he with
    | completed _ _ hs => exact absurd hs hcompleted
    | resolved _ hs => exact absurd hs hcompleted
    | returned hs =>
      rcases hs with hs | hs
      · exact absurd hs hcompleted
      · exact absurd hs hcancelled

omit [DecidableEq AccountId] [Currency AccountId L] in
/-- Somebody does the work of a quest in review. -/
theorem Recorded.exists_assignee (hr : Recorded (some q) es) (hreview : q.status = .review) :
    ∃ a, q.assignee = some a := by
  cases hr with
  | opened _ hs =>
    rw [hs] at hreview
    cases hreview
  | assigned _ a _ hassignee => exact ⟨a, hassignee⟩
  | settled _ _ he =>
    cases he with
    | completed a hassignee => exact ⟨a, hassignee⟩
    | resolved _ hs =>
      rw [hs] at hreview
      cases hreview
    | returned hs =>
      rw [hreview] at hs
      rcases hs with hs | hs <;> cases hs

omit [DecidableEq AccountId] [Currency AccountId L] in
theorem Recorded.length_le {o : Option (Quest AccountId)} (hr : Recorded o es) :
    es.length ≤ 2 := by
  cases hr with
  | absent => exact Nat.zero_le 2
  | opened => exact Nat.le_succ 1
  | assigned => exact Nat.le_succ 1
  | settled => exact Nat.le_refl 2

omit [DecidableEq AccountId] [Currency AccountId L] in
/-- What has happened to a number that is not given is nothing. -/
theorem Recorded.eq_nil_iff {o : Option (Quest AccountId)} (hr : Recorded o es) :
    es = [] ↔ o = none := by
  cases hr with
  | absent => exact iff_of_true rfl rfl
  | opened => simp
  | assigned => simp
  | settled => simp

/-- What a quest that is not finished claims is reserved. -/
theorem Kept.reward_le (hk : Kept s h) (hget : s.quests.get questId = some q) (hlive : q.Live) :
    q.reward ≤ reservedBalance s.ledger q.employer :=
  hk.backed.claim_le hget hlive.liability

/-! ### One step -/

section Record

variable {cfg : Config AccountId} {origin : Origin AccountId}

omit [Currency AccountId L] in
theorem record_complete {a : AccountId} (hget : s.quests.get questId = some q)
    (hassignee : q.assignee = some a) :
    record s (.call origin (.market (.completeQuest questId)) : Input cfg L) h =
      h.append questId (.completed a q.reward) := by
  unfold record
  dsimp only
  rw [hget]
  dsimp only
  rw [hassignee]

omit [Currency AccountId L] in
theorem record_forceResolve {recipient : AccountId} (hget : s.quests.get questId = some q) :
    record s (.call origin (.market (.forceResolveQuest questId recipient)) : Input cfg L) h =
      h.append questId (.resolved recipient q.reward) := by
  unfold record
  dsimp only
  rw [hget]

omit [Currency AccountId L] in
theorem record_cancel (hget : s.quests.get questId = some q) :
    record s (.call origin (.market (.cancelQuest questId)) : Input cfg L) h =
      h.append questId (.returned q.employer q.reward) := by
  unfold record
  dsimp only
  rw [hget]

end Record

/-- An input that is not about quests. -/
theorem Kept.congr (hk : Kept s h) (hquests : s'.quests = s.quests)
    (hreserved : ∀ a, reservedBalance s'.ledger a = reservedBalance s.ledger a) : Kept s' h where
  recorded questId := by
    rw [hquests]
    exact hk.recorded questId
  backed := by
    rw [hquests]
    exact hk.backed.mono fun a => (hreserved a).ge

/-- A quest that changes. -/
theorem Kept.replace (hk : Kept s h) (hquests : s'.quests = s.quests.insert questId q')
    (hrecorded : Recorded (some q') (h' questId)) (hothers : ∀ c, c ≠ questId → h' c = h c)
    (hbacked : Backed liability (s.quests.insert questId q') s'.ledger) : Kept s' h' where
  recorded c := by
    rw [hquests]
    by_cases hc : c = questId
    · subst hc
      rw [StorageMap.get_insert_self]
      exact hrecorded
    · rw [StorageMap.get_insert_of_ne hc, hothers c hc]
      exact hk.recorded c
  backed := by
    rw [hquests]
    exact hbacked

/-- A quest that somebody takes on, or whose work is submitted. -/
theorem Kept.advance (hk : Kept s h) (hget : s.quests.get questId = some q)
    (hlive : q.Live) {status : QuestStatus}
    (hstatus : status = .inProgress ∨ status = .review) {assignee : Option AccountId}
    {a : AccountId} (hassignee : assignee = some a) :
    Kept { s with
      quests := s.quests.insert questId
        { q with
          status := status
          assignee := assignee } } h := by
  have hevents := hk.recorded questId
  rw [hget] at hevents
  refine hk.replace rfl ?_ (fun _ _ => rfl) (hk.backed.keep hget ?_ fun _ => Nat.le_refl _)
  · rw [hevents.eq_escrowed hlive]
    exact .assigned { q with status := status, assignee := assignee } a hstatus hassignee
  · rw [hlive.liability]
    rcases hstatus with rfl | rfl <;> rfl

/-- A quest whose reward is taken out. -/
theorem Kept.finish (hk : Kept s h) (hget : s.quests.get questId = some q)
    (hlive : q.Live) {e : Event AccountId} {n : ℕ}
    (hsettled : Settled { q with status := .completed, assigneeQuestCount := n } e)
    (hquests : s'.quests = s.quests.insert questId
      { q with
        status := .completed
        assigneeQuestCount := n })
    (hself : reservedBalance s'.ledger q.employer + q.reward = reservedBalance s.ledger q.employer)
    (hothers : ∀ c, c ≠ q.employer → reservedBalance s'.ledger c = reservedBalance s.ledger c) :
    Kept s' (h.append questId e) := by
  have hevents := hk.recorded questId
  rw [hget] at hevents
  refine hk.replace hquests ?_ (fun c hc => EventLog.append_of_ne hc)
    (hk.backed.close hget hlive.liability hself.ge (fun c hc => (hothers c hc).ge) rfl)
  rw [EventLog.append_self, hevents.eq_escrowed hlive]
  exact .settled _ e hsettled

/-- What a payment leaves reserved. -/
theorem Pays.reserved {recipient : AccountId} {l l' : L} (hp : Pays q recipient l l') :
    reservedBalance l' q.employer + q.reward = reservedBalance l q.employer ∧
      ∀ c, c ≠ q.employer → reservedBalance l' c = reservedBalance l c := by
  obtain ⟨m, hreleased, htransfer⟩ := hp
  have hsame := Currency.transfer_reserved htransfer
  constructor
  · rw [hsame]
    exact hreleased.reserved
  · intro c hc
    rw [hsame]
    exact hreleased.othersReserved c hc

/-- A quest is published exactly under a free number. -/
theorem kept_publish_iff (hk : Kept s h) {caller : AccountId} {guildId reward : ℕ}
    {descriptionHash : BoundedVec UInt8 maxIpfsCidLength} {ledger : L}
    (hreserved : Reserved s.ledger ledger caller reward)
    (hquests : s'.quests =
      s.quests.insert s.nextQuestId (newQuest guildId caller reward descriptionHash))
    (hledger : s'.ledger = ledger) :
    Kept s' (h.append s.nextQuestId (.escrowed caller reward)) ↔
      s.quests.get s.nextQuestId = none := by
  rw [← (hk.recorded s.nextQuestId).eq_nil_iff]
  constructor
  · intro hk'
    -- the history of the number has one event, so it had none before
    have hrecorded := hk'.recorded s.nextQuestId
    rw [hquests, StorageMap.get_insert_self] at hrecorded
    have hevents := hrecorded.eq_escrowed ⟨by simp [newQuest], by simp [newQuest]⟩
    exact EventLog.eq_nil_of_append hevents
  · intro hnil
    have hfree := (hk.recorded s.nextQuestId).eq_nil_iff.mp hnil
    refine hk.replace hquests ?_ (fun c hc => EventLog.append_of_ne hc) ?_
    · rw [EventLog.append_self, hnil]
      exact .opened (newQuest guildId caller reward descriptionHash) rfl
    · rw [hledger]
      -- the free number claims nothing yet
      refine hk.backed.add ?_ rfl hreserved
      rw [hfree]
      rfl

variable [EscrowCurrency AccountId L]

omit [DecidableEq AccountId] in
/-- A reward that is backed is paid in full. -/
theorem pays_of_payReward {recipient : AccountId} {l l' : L}
    (hpay : payReward q recipient l = .ok l') (hle : q.reward ≤ reservedBalance l q.employer) :
    Pays q recipient l l' := by
  have hreleased := EscrowCurrency.unreserve_released l q.employer q.reward
  rw [Nat.min_eq_left hle] at hreleased
  exact ⟨_, hreleased, liftCurrency_eq_ok.mp hpay⟩

/-- What the end of a life does to the quests. -/
theorem cleanupAccount_get (who : AccountId) (t : State AccountId L) (questId : ℕ) :
    (cleanupAccount who t).quests.get questId = (t.quests.get questId).map fun q =>
      if q.IsPending who then { q with status := .cancelled } else q := by
  -- each of the pending quests is named once in the loop
  refine (StorageMap.get_foldl_modify (Finset.nodup _)).trans ?_
  refine Option.map_congr fun q hq => ?_
  refine if_congr ?_ rfl rfl
  rw [Finset.mem_val, Finset.mem_filter, hq]
  constructor
  · rintro ⟨-, q', hq', hpending⟩
    rwa [Option.mem_some_iff.mp hq']
  · intro hpending
    exact ⟨StorageMap.mem_keys.mpr ⟨q, hq⟩, q, rfl, hpending⟩

/-- The rewards of pending quests are what these quests make their employer liable for. -/
theorem pendingRewards_sum (who : AccountId) (m : Market AccountId) :
    (m.pendingRewards who).sum = m.quests.sum fun _ q => if q.IsPending who then q.reward else 0 :=
  StorageMap.sum_values _ Quest.reward

omit [DecidableEq AccountId] [Currency AccountId L] [EscrowCurrency AccountId L] in
theorem Quest.IsPending.live {who : AccountId} (hp : q.IsPending who) : q.Live := by
  rcases hp.2 with hs | hs
  · exact Quest.live_of_eq hs (by simp)
  · exact Quest.live_of_eq hs (by simp)

omit [DecidableEq AccountId] [Currency AccountId L] [EscrowCurrency AccountId L] in
theorem liability_of_pending {who : AccountId} (hp : q.IsPending who) :
    liability q = some (who, q.reward) ∧ liability { q with status := .cancelled } = none := by
  refine ⟨?_, rfl⟩
  rw [hp.live.liability, hp.1]

/-- The end of a life gives the rewards of pending quests back in full. -/
theorem Kept.cleanup_released (hk : Kept s h) (who : AccountId) :
    Released s.ledger (cleanupAccount who s.toState).ledger who (s.pendingRewards who).sum := by
  -- all of them together are backed
  have hle : (s.pendingRewards who).sum ≤ reservedBalance s.ledger who := by
    rw [pendingRewards_sum]
    exact hk.backed.closeAll_le (cleanupAccount_get who s.toState) fun q => liability_of_pending
  have hreleased := EscrowCurrency.unreserve_released s.ledger who (s.pendingRewards who).sum
  rw [Nat.min_eq_left hle, ← EscrowCurrency.releaseAll_eq] at hreleased
  exact hreleased

/-- And finishes these quests. -/
theorem Kept.cleanup {cfg : Config AccountId} (hk : Kept s h) (who : AccountId) :
    Kept { s with toState := cleanupAccount who s.toState }
      (record s (.cleanupAccount who : Input cfg L) h) where
  recorded questId := by
    have hrecorded := hk.recorded questId
    change Recorded ((cleanupAccount who s.toState).quests.get questId) _
    rw [cleanupAccount_get]
    unfold record
    dsimp only
    -- quest by quest: a pending one is given back, the others stay
    cases hget : s.quests.get questId with
    | none =>
      rw [hget] at hrecorded
      exact hrecorded
    | some q =>
      rw [hget] at hrecorded
      rw [Option.map_some]
      dsimp only
      by_cases hp : q.IsPending who
      · rw [if_pos hp, if_pos hp]
        rw [hrecorded.eq_escrowed hp.live]
        exact .settled _ _ (.returned (Or.inr rfl))
      · rw [if_neg hp, if_neg hp]
        exact hrecorded
  backed := by
    have hreleased := hk.cleanup_released who
    refine hk.backed.closeAll (cleanupAccount_get who s.toState) (fun q => liability_of_pending) ?_
      fun c hc => (hreleased.othersReserved c hc).ge
    rw [← pendingRewards_sum]
    exact hreleased.reserved.ge

variable {cfg : Config AccountId} {x : Input cfg L}

omit [DecidableEq AccountId] [Currency AccountId L] [EscrowCurrency AccountId L] in
/-- Only the employer is liable for a quest. -/
theorem eq_employer {a : AccountId} {n : ℕ} (hliable : liability q = some (a, n)) :
    q.employer = a := by
  unfold liability at hliable
  cases hs : q.status with
  | opened | inProgress | review =>
    rw [hs] at hliable
    exact (Prod.ext_iff.mp (Option.some.inj hliable)).1
  | completed | cancelled =>
    rw [hs] at hliable
    cases hliable

/-- **An accepted input moves what it is about.** -/
theorem moves_step (hk : Kept s h) (hs : step cfg x s = .ok s') : Moves s s' x := by
  cases step_transition hs with
  | market origin c t ht =>
    cases ht with
    | publishQuest caller _ _ _ _ ledger hreserve =>
      exact ⟨caller, rfl, ReservableCurrency.reserve_ok _ _ _ ledger hreserve⟩
    | completeQuest _ _ q assignee _ hget hreview _ hassignee hpay =>
      exact ⟨q, assignee, hget, hassignee,
        pays_of_payReward hpay (hk.reward_le hget (Quest.live_of_eq hreview (by simp)))⟩
    | forceResolveQuest _ _ _ q _ _ hget hreview _ hpay =>
      exact ⟨q, hget,
        pays_of_payReward hpay (hk.reward_le hget (Quest.live_of_eq hreview (by simp)))⟩
    | cancelQuest questId q hget hopen =>
      have hreleased := EscrowCurrency.unreserve_released s.ledger q.employer q.reward
      rw [Nat.min_eq_left (hk.reward_le hget (Quest.live_of_eq hopen (by simp)))] at hreleased
      exact ⟨q, hget, hreleased⟩
    | subscribeToAcademy _ _ _ _ htransfer => exact Currency.transfer_reserved htransfer
    | createGuild => exact fun _ => rfl
    | joinGuild => exact fun _ => rfl
    | promoteMember => exact fun _ => rfl
    | assignQuest => exact fun _ => rfl
    | submitQuest => exact fun _ => rfl
  | union origin d _ _ hmarket hd =>
    have hsame : ∀ a, reservedBalance s'.ledger a = reservedBalance s.ledger a := fun a => by
      rw [hmarket.ledger]
    cases d with
    | market c => exact absurd rfl (hd c)
    | _ => exact hsame
  | cleanupAccount who => exact hk.cleanup_released who
  | elsewhere => trivial

/-- **An input keeps the escrow exactly when it finds a free number.** -/
theorem kept_step_iff (hk : Kept s h) (hx : Undisturbed s x) (hs : step cfg x s = .ok s') :
    Kept s' (record s x h) ↔ Fresh s x := by
  have hmoves := moves_step hk hs
  cases step_transition hs with
  | market origin c t ht =>
    cases ht with
    | publishQuest caller _ _ _ _ ledger hreserve =>
      exact kept_publish_iff hk (ReservableCurrency.reserve_ok _ _ _ ledger hreserve) rfl rfl
    | assignQuest caller questId q hget hopen =>
      have hlive : q.Live := Quest.live_of_eq hopen (by simp)
      exact iff_of_true (hk.advance hget hlive (Or.inl rfl) rfl) trivial
    | submitQuest caller questId q hget hprogress hassignee =>
      have hlive : q.Live := Quest.live_of_eq hprogress (by simp)
      exact iff_of_true (hk.advance hget hlive (Or.inr rfl) hassignee) trivial
    | completeQuest caller questId q assignee ledger hget hreview _ hassignee hpay =>
      have hlive : q.Live := Quest.live_of_eq hreview (by simp)
      -- the reward is backed, so it is paid in full
      have hreserved := (pays_of_payReward hpay (hk.reward_le hget hlive)).reserved
      refine iff_of_true ?_ trivial
      rw [record_complete hget hassignee]
      exact hk.finish hget hlive (.completed assignee hassignee rfl) rfl hreserved.1 hreserved.2
    | forceResolveQuest caller questId recipient q ledger _ hget hreview _ hpay =>
      have hlive : q.Live := Quest.live_of_eq hreview (by simp)
      have hreserved := (pays_of_payReward hpay (hk.reward_le hget hlive)).reserved
      refine iff_of_true ?_ trivial
      rw [record_forceResolve hget]
      exact hk.finish hget hlive (.resolved recipient rfl) rfl hreserved.1 hreserved.2
    | cancelQuest questId q hget hopen =>
      have hlive : q.Live := Quest.live_of_eq hopen (by simp)
      obtain ⟨q', hget', hreleased⟩ := hmoves
      obtain rfl := Option.some.inj (hget.symm.trans hget')
      refine iff_of_true ?_ trivial
      rw [record_cancel hget]
      exact hk.finish hget hlive (.returned (Or.inl rfl)) rfl hreleased.reserved
        hreleased.othersReserved
    | subscribeToAcademy _ _ _ _ htransfer =>
      exact iff_of_true (hk.congr rfl (Currency.transfer_reserved htransfer)) trivial
    | createGuild => exact iff_of_true (hk.congr rfl fun _ => rfl) trivial
    | joinGuild => exact iff_of_true (hk.congr rfl fun _ => rfl) trivial
    | promoteMember => exact iff_of_true (hk.congr rfl fun _ => rfl) trivial
  | union origin d _ _ hmarket hd =>
    have hkept : Kept s' h := hk.congr hmarket.quests fun a => by rw [hmarket.ledger]
    cases d with
    | market c => exact absurd rfl (hd c)
    | _ => exact iff_of_true hkept trivial
  | cleanupAccount who => exact iff_of_true (hk.cleanup who) trivial
  | elsewhere ledger =>
    refine iff_of_true ⟨hk.recorded, hk.backed.mono_of_liable ?_⟩ trivial
    intro questId q a n hget hliable
    rw [← eq_employer hliable]
    exact hx questId q hget

/-! ### Payments -/

/-- The approval of the work on a quest, by a master. -/
def approval (origin : Origin AccountId) (questId : ℕ) : Input cfg L :=
  .call origin (.market (.completeQuest questId))

/-- The escrow is kept, so no approval is refused for lack of funds: without locks on the employer
it goes through whenever the one who did the work can receive the reward. -/
structure Sound (cfg : Config AccountId) (s : Federation AccountId L) (h : History AccountId) : Prop
    extends Kept s h where
  funded : ∀ origin questId e,
    step cfg (approval origin questId) s = .error (.currency e) →
      e ≠ .fundsUnavailable ∧ e ≠ .notExpendable
  payable : ∀ caller questId q, s.quests.get questId = some q → q.status = .review →
    s.guildMembers.get (q.guildId, caller) = some .master →
      (∀ id, lockAmount s.ledger id q.employer = 0) →
        ∃ a, q.assignee = some a ∧
          (existentialDeposit L ≤ freeBalance s.ledger a + q.reward →
            ∃ s', step cfg (approval (.signed caller) questId) s = .ok s')

theorem completeQuest_eq_currency {origin : Origin AccountId} {t : State AccountId L}
    {e : CurrencyError} (he : completeQuest origin questId t = .error (.currency e)) :
    ∃ q a, t.quests.get questId = some q ∧ q.status = .review ∧
      Currency.transfer (EscrowCurrency.unreserve t.ledger q.employer q.reward) q.employer a
        q.reward .keepAlive = .error e := by
  simp only [completeQuest, ensureSigned_bind_eq_currency, required_bind_eq_currency,
    ensure_bind_eq_currency] at he
  obtain ⟨caller, rfl, q, hget, hreview, role, -, -, a, -, he⟩ := he
  rcases bind_eq_error.mp he with hpay | ⟨ledger, -, hret⟩
  · exact ⟨q, a, hget, hreview, liftCurrency_eq_currency.mp hpay⟩
  · cases hret

theorem approval_eq_currency {origin : Origin AccountId} {e : CurrencyError}
    (he : step cfg (approval origin questId) s = .error (.currency e)) :
    completeQuest origin questId s.toState = .error (.currency e) := by
  rcases bind_eq_error.mp he with hcall | ⟨t, -, hret⟩
  · obtain ⟨d, hd, hmap⟩ := mapError_eq_error.mp hcall
    change completeQuest origin questId s.toState = .error d at hd
    rw [hd]
    cases d with
    | currency e' => rw [DispatchError.currency.inj hmap]
    | badOrigin => cases hmap
    | panic => cases hmap
    | module e' => cases hmap
  · cases hret

/-- What is kept in escrow can be paid. -/
theorem Kept.sound [UnlockedEscrow AccountId L] (hk : Kept s h) : Sound cfg s h where
  toKept := hk
  funded origin questId e he := by
    obtain ⟨q, a, hget, hreview, htransfer⟩ := completeQuest_eq_currency (approval_eq_currency he)
    exact EscrowCurrency.payReserved_error
      (hk.reward_le hget (Quest.live_of_eq hreview (by simp))) htransfer
  payable caller questId q hget hreview hmaster hlocks := by
    have hrecorded := hk.recorded questId
    rw [hget] at hrecorded
    obtain ⟨a, hassignee⟩ := hrecorded.exists_assignee hreview
    refine ⟨a, hassignee, fun halive => ?_⟩
    obtain ⟨ledger, hledger⟩ := EscrowCurrency.payReserved_isOk
      (hk.reward_le hget (Quest.live_of_eq hreview (by simp))) hlocks halive
    simp only [approval, step, dispatchAll, dispatch, completeQuest, payReward,
      mapError_bind_eq_ok, ensureSigned_bind_eq_ok, required_bind_eq_ok, ensure_bind_eq_ok,
      liftCurrency_bind_eq_ok, pure_eq_ok]
    exact ⟨_, _, ⟨caller, rfl, q, hget, hreview, .master, hmaster, rfl, a, hassignee, ledger,
      hledger, rfl⟩, rfl⟩

/-! ### Runs -/

omit [EscrowCurrency AccountId L] in
theorem kept_genesis (ledger : L) : Kept (.genesis ledger) (fun _ => [] : History AccountId) where
  recorded _ := .absent
  backed _ := Nat.zero_le _

/-- While other modules leave what the employers of quests have reserved, the escrow is sound
throughout, and every input moves what it is about, in exactly the runs in which every quest finds a
free number. -/
theorem quests_escrowed_iff [UnlockedEscrow AccountId L] (cfg : Config AccountId) (ledger : L)
    (xs : List (Input cfg L)) (hothers : Along (step cfg) Undisturbed xs (.genesis ledger)) :
    (Throughout (recording record (step cfg)) (fun t => Sound cfg t.1 t.2) xs
        (.genesis ledger, fun _ => []) ∧
      Along (step cfg) (fun s x => Moves s (exec (step cfg) x s) x) xs (.genesis ledger)) ↔
      Along (step cfg) Fresh xs (.genesis ledger) := by
  set s₀ : Federation AccountId L := .genesis ledger
  have hguard : Along (recording record (step cfg)) (fun t x => Undisturbed t.1 x) xs
      (s₀, fun _ => []) := along_recording.mpr hothers
  have hfresh : Along (recording record (step cfg)) (fun t x => Fresh t.1 x) xs
      (s₀, fun _ => []) ↔ Along (step cfg) Fresh xs s₀ := along_recording
  have hmoves : Along (recording record (step cfg))
      (fun t x => Moves t.1 (exec (step cfg) x t.1) x) xs (s₀, fun _ => []) ↔
        Along (step cfg) (fun s x => Moves s (exec (step cfg) x s) x) xs s₀ :=
    along_recording (Q := fun s x => Moves s (exec (step cfg) x s) x)
  have hkept : Throughout (recording record (step cfg)) (fun t => Kept t.1 t.2) xs
      (s₀, fun _ => []) ↔
        Along (recording record (step cfg)) (fun t x => Fresh t.1 x) xs (s₀, fun _ => []) := by
    refine throughout_iff_along_within (J := fun _ => True) (fun _ _ _ _ _ _ => trivial) ?_ trivial
      (kept_genesis ledger) hguard
    intro x t t' _ hk hx ht
    obtain ⟨hs, hrecord⟩ := recording_eq_ok.mp ht
    rw [hrecord]
    exact kept_step_iff hk hx hs
  -- the rest is about the runs with the history
  rw [← hfresh, ← hmoves, ← hkept]
  constructor
  · rintro ⟨hsound, -⟩
    exact hsound.imp fun t hs => hs.toKept
  · intro h
    refine ⟨h.imp fun t hk => hk.sound, h.along ?_⟩
    intro x t t' hk ht
    have hs := (recording_eq_ok.mp ht).1
    rw [exec_ok hs]
    exact moves_step hk hs

end Escrow

/-! ### More quests than numbers -/

section Overwritten

/-- The account 7 publishes a quest. -/
def posting : Runtime.GuildsInput := Runtime.guildsCall 7 (.market (.publishQuest 0 1 []))

/-- The account 7 has the rewards of three quests more than the numbers hold, and a unit, as the
accounts 8 and 9. -/
def endowed : Runtime.GuildsState :=
  .genesis (ProvidedBalances.ofFree
    [(7, u32Max + 3 + CentralBank.unit), (8, CentralBank.unit), (9, CentralBank.unit)])

/-- The state after `n` quests: the numbers have stopped at the last, which has been given to all
quests from then on. -/
structure Flooded (n : ℕ) (t : Runtime.GuildsState × History ℕ) : Prop where
  guild : t.1.guilds.containsKey 0 = true
  next : t.1.nextQuestId = min n u32Max
  last : (t.2 u32Max).length = n - u32Max
  funds : freeBalance t.1.ledger 7 + n = u32Max + 3 + CentralBank.unit
  locks : t.1.ledger.locks = ∅

theorem flooded_zero :
    Flooded 0 (exec (recording record (step Runtime.guilds)) (Runtime.founding 7)
      (endowed, fun _ => [])) where
  guild := by decide +kernel
  next := by decide +kernel
  last := rfl
  funds := by decide +kernel
  locks := by decide +kernel

/-- The next quest is published. -/
theorem flooded_succ {n : ℕ} {t : Runtime.GuildsState × History ℕ} (hf : Flooded n t)
    (hn : n < u32Max + 3) :
    ∃ t', recording record (step Runtime.guilds) posting t = .ok t' ∧ Flooded (n + 1) t' := by
  obtain ⟨s, h⟩ := t
  obtain ⟨hguild, hnext, hlast, hfunds, hunlocked⟩ := hf
  dsimp only at hguild hnext hlast hfunds hunlocked
  -- there is another reward, and what keeps the account alive
  have hafford : 1 + Runtime.existentialDeposit ≤ freeBalance s.ledger 7 := by
    have hed : Runtime.existentialDeposit ≤ CentralBank.unit := by decide
    omega
  obtain ⟨ledger, hreserve, hlocks⟩ := ProvidedBalances.reserve_isOk hunlocked hafford
  have hreserved := ReservableCurrency.reserve_ok _ _ _ _ hreserve
  have hs : step Runtime.guilds posting s = .ok { s with
      ledger := ledger
      quests := s.quests.insert s.nextQuestId (newQuest 0 7 1 ⟨[], Nat.zero_le _⟩)
      nextQuestId := saturatingAdd u32Max s.nextQuestId 1
      guilds := s.guilds.modify 0 fun g =>
        { g with questCount := saturatingAdd u32Max g.questCount 1 } } := by
    simp only [posting, Runtime.guildsCall, step, dispatchAll, dispatch, publishQuest, bounded,
      mapError_bind_eq_ok, ensureSigned_bind_eq_ok, ensure_bind_eq_ok, required_bind_eq_ok,
      pure_eq_ok]
    exact ⟨_, ⟨7, rfl, hguild, ⟨[], Nat.zero_le _⟩, rfl, ledger, hreserve, rfl⟩, rfl⟩
  refine ⟨(_, _), recording_eq_ok.mpr ⟨hs, rfl⟩, ?_, ?_, ?_, ?_, hlocks⟩
  · exact StorageMap.containsKey_modify.trans hguild
  · change saturatingAdd u32Max s.nextQuestId 1 = _
    rw [hnext, saturatingAdd_min]
  · change (EventLog.append h s.nextQuestId _ u32Max).length = _
    rw [hnext]
    exact EventLog.length_append_last hlast
  · have hfree := hreserved.free
    dsimp only
    omega

/-- `2 ^ 32 + 2` quests are published: the last number is given to three of them, and the rewards of
two are in no quest any more. -/
theorem reward_stranded :
    ¬ ∀ xs : List Runtime.GuildsInput,
      Along (step Runtime.guilds) Undisturbed xs endowed →
        Throughout (recording record (step Runtime.guilds)) (fun t => Sound Runtime.guilds t.1 t.2)
          xs (endowed, fun _ => []) := by
  intro h
  have hothers : Along (step Runtime.guilds) Undisturbed
      (Runtime.founding 7 :: List.replicate (u32Max + 3) posting) endowed := by
    refine ⟨fun _ _ => trivial, ?_⟩
    exact along_replicate (fun _ => trivial) _ _
  have hflooded := run_replicate flooded_zero (fun _ _ hn hf => flooded_succ hf hn) (u32Max + 3)
    (Nat.le_refl _)
  have hrecorded := (h _ hothers).last.recorded u32Max
  rw [run_cons] at hrecorded
  have hle := hrecorded.length_le
  have hlast := hflooded.last
  omega

end Overwritten

/-- The account 8 joins the guild of the account 7 and does the work of two quests; the first is
approved, and the second is resolved for the account 9; the third is cancelled, and the last when
the life of the employer ends. -/
def fourQuests : List Runtime.GuildsInput :=
  [Runtime.founding 7, Runtime.guildsCall 8 (.market (.joinGuild 0)),
    posting, posting, posting, posting] ++
    ([0, 1].flatMap fun questId =>
      [Runtime.guildsCall 8 (.market (.assignQuest questId)),
        Runtime.guildsCall 8 (.market (.submitQuest questId))]) ++
    [approval (.signed 7) 0, Runtime.guildsCall 7 (.market (.forceResolveQuest 1 9)),
      Runtime.guildsCall 7 (.market (.cancelQuest 2)), .cleanupAccount 7]

theorem quests_escrowed_iff_four :
    Throughout (recording record (step Runtime.guilds)) (fun t => Sound Runtime.guilds t.1 t.2)
        fourQuests (endowed, fun _ => []) ∧
      Along (step Runtime.guilds) (fun s x => Moves s (exec (step Runtime.guilds) x s) x) fourQuests
        endowed := by
  have hothers : Along (step Runtime.guilds) Undisturbed fourQuests endowed := by
    simp [fourQuests, posting, approval, Runtime.founding, Runtime.guildsCall, Along, Undisturbed]
  refine (quests_escrowed_iff Runtime.guilds _ fourQuests hothers).mpr ?_
  decide +kernel

end Guilds
