import Altan.Runtime.Constants
import Mathlib.Algebra.BigOperators.Group.Finset.Basic

/-!
# Honest payments settle in any order

A citizen locks a pocket, signs promises of no more than it holds, under different numbers, and
stays away. The receivers settle them in any order. In between, anybody repeats what has been
submitted, submits what the citizen has not signed, or settles the promises of others.

Every promise is settled once, by the receiver it was given to; what has been settled and what is
left in the pocket always make up the pocket of the start.

## Main definitions

* `Iou`, `settlement`: a promise in the hands of its receiver, and the call that settles it
* `Promises`: the promises of a citizen who has spent no more than the pocket
* `Submission`, `Submitted`: what is submitted in the meantime, in any order
* `SettledInFull`: what becomes of the promises

## Main results

* `kept_step`: what a settlement keeps of the account of the sender
* `ious_settled`: honest promises are settled in full
-/

open Bounded Dispatch Ledger TransitionSystem Runtime

namespace SteppeOffline

variable {AccountId Signature Register L : Type}

/-- A promise in the hands of the receiver it was given to. -/
structure Iou (AccountId Signature : Type) where
  payload : IouPayload
  signature : Signature
  receiver : AccountId
  deriving DecidableEq

/-- The call by which the receiver settles a promise. -/
def settlement (sender : AccountId) (i : Iou AccountId Signature) : Input AccountId Signature :=
  (.signed i.receiver, .settleIou sender i.payload i.signature)

/-- The input settles a promise of the sender. -/
def Draws (sender : AccountId) (x : Input AccountId Signature) : Prop :=
  ∃ payload signature, x.2 = .settleIou sender payload signature

/-- The input settles a promise of the sender with a number. -/
def Presents (sender : AccountId) (nonce : ℕ) (x : Input AccountId Signature) : Prop :=
  ∃ payload signature, x.2 = .settleIou sender payload signature ∧ payload.nonce = nonce

instance [DecidableEq AccountId] (sender : AccountId) :
    DecidablePred (Draws sender : Input AccountId Signature → Prop)
  | (_, .lockFunds _) => isFalse nofun
  | (_, .settleIou other payload signature) =>
    decidable_of_iff (other = sender)
      ⟨fun h => ⟨payload, signature, by rw [h]⟩, fun ⟨_, _, h⟩ => (Call.settleIou.inj h).1⟩

instance [DecidableEq AccountId] (sender : AccountId) (nonce : ℕ) :
    DecidablePred (Presents sender nonce : Input AccountId Signature → Prop)
  | (_, .lockFunds _) => isFalse nofun
  | (_, .settleIou other payload signature) =>
    decidable_of_iff (other = sender ∧ payload.nonce = nonce)
      ⟨fun h => ⟨payload, signature, by rw [h.1], h.2⟩, fun ⟨_, _, h, hn⟩ => by
        obtain ⟨rfl, rfl, -⟩ := Call.settleIou.inj h
        exact ⟨rfl, hn⟩⟩

/-- The promises of a citizen who has signed them, under different numbers that are not settled,
for no more than is in the pocket, which is reserved on an account without locks. -/
structure Promises [DecidableEq AccountId] [Currency AccountId L]
    (cfg : Config AccountId Signature Register) (sender : AccountId)
    (ious : Finset (Iou AccountId Signature)) (s : State AccountId Register L) : Prop where
  signed : ∀ i ∈ ious, cfg.verify i.signature i.payload.encode sender = true
  distinct : Set.InjOn (fun i : Iou AccountId Signature => i.payload.nonce) ious
  fresh : ∀ i ∈ ious, s.isProcessed sender i.payload.nonce = false
  within : ∑ i ∈ ious, i.payload.amount ≤ s.pocket sender
  reserved : s.pocket sender ≤ reservedBalance s.ledger sender
  unlocked : ∀ id, lockAmount s.ledger id sender = 0

section Submissions

variable [DecidableEq AccountId] [Currency AccountId L] [EscrowCurrency AccountId L]

/-- What is submitted after the calls `seen`: a promise by its receiver, who is alive or comes
alive by the payment; anything again, by anybody; what the sender has not signed; a promise of
somebody else. -/
inductive Submission (cfg : Config AccountId Signature Register) (sender : AccountId)
    (ious : Finset (Iou AccountId Signature)) (seen : List (Call AccountId Signature))
    (s : State AccountId Register L) : Input AccountId Signature → Prop
  | promise (i) (hi : i ∈ ious)
    (halive : existentialDeposit L ≤ freeBalance s.ledger i.receiver + i.payload.amount) :
    Submission cfg sender ious seen s (settlement sender i)
  | replay (origin c) (hseen : c ∈ seen) : Submission cfg sender ious seen s (origin, c)
  | forgery (origin payload signature)
    (hforged : cfg.verify signature payload.encode sender = false) :
    Submission cfg sender ious seen s (origin, .settleIou sender payload signature)
  | foreign (origin other payload signature) (hother : other ≠ sender) :
    Submission cfg sender ious seen s (origin, .settleIou other payload signature)

/-- A run of submissions, of which the sender makes none. -/
def Submitted (cfg : Config AccountId Signature Register) (sender : AccountId)
    (ious : Finset (Iou AccountId Signature)) :
    List (Call AccountId Signature) → List (Input AccountId Signature) →
      State AccountId Register L → Prop
  | _, [], _ => True
  | seen, x :: xs, s => Submission cfg sender ious seen s x ∧ x.1 ≠ .signed sender ∧
      Submitted cfg sender ious (x.2 :: seen) xs (exec (step cfg) x s)

/-- The input settles a promise of the sender for more than is in the pocket. -/
def Exceeds (sender : AccountId) (s : State AccountId Register L)
    (x : Input AccountId Signature) : Prop :=
  ∃ payload signature, x.2 = .settleIou sender payload signature ∧
    s.pocket sender < payload.amount

/-- What becomes of the promises of a sender over a run: under the number of each, one settlement
is accepted; every accepted settlement of the sender is of a promise, by its receiver; the
settlements take the total out of the pocket, give the receivers what they were promised and
nobody else anything, and never exceed the pocket, which stays reserved. As long as the pockets of
all are reserved, no issuance is lost. -/
structure SettledInFull (cfg : Config AccountId Signature Register) (sender : AccountId)
    (ious : Finset (Iou AccountId Signature)) (s : State AccountId Register L)
    (xs : List (Input AccountId Signature)) : Prop where
  once : ∀ i ∈ ious, accepted (step cfg) (Presents sender i.payload.nonce) xs s = 1
  byReceiver : Along (step cfg)
    (fun _ x => Draws sender x → ∃ i ∈ ious, x = settlement sender i) xs s
  pocket : (run (step cfg) xs s).pocket sender + ∑ i ∈ ious, i.payload.amount = s.pocket sender
  credited : ∀ r, r ≠ sender →
    gain (step cfg) (Draws sender) (fun t => (freeBalance t.ledger r : ℤ)) xs s =
      ∑ i ∈ ious with i.receiver = r, (i.payload.amount : ℤ)
  spared : Along (step cfg) (fun t x => ¬ Exceeds sender t x) xs s
  reserved : Throughout (step cfg)
    (fun t => t.pocket sender ≤ reservedBalance t.ledger sender) xs s
  issuance : (∀ a, s.pocket a ≤ reservedBalance s.ledger a) →
    Throughout (step cfg) (fun t => totalIssuance t.ledger = totalIssuance s.ledger) xs s

end Submissions

/-! ### What is kept -/

section Kept

variable [DecidableEq AccountId] [Currency AccountId L] [EscrowCurrency AccountId L]
  {cfg : Config AccountId Signature Register} {sender : AccountId}
  {ious : Finset (Iou AccountId Signature)} {s s' : State AccountId Register L}
  {x : Input AccountId Signature}

/-- The promises that are settled. -/
def settledOf (sender : AccountId) (ious : Finset (Iou AccountId Signature))
    (s : State AccountId Register L) : Finset (Iou AccountId Signature) :=
  {i ∈ ious | s.isProcessed sender i.payload.nonce = true}

/-- What is settled and what is left make up a pocket of `P`, and what is left is reserved on an
account without locks. -/
structure Kept (sender : AccountId) (ious : Finset (Iou AccountId Signature)) (P : ℕ)
    (s : State AccountId Register L) : Prop where
  pocket : s.pocket sender + ∑ i ∈ settledOf sender ious s, i.payload.amount = P
  reserved : s.pocket sender ≤ reservedBalance s.ledger sender
  unlocked : ∀ id, lockAmount s.ledger id sender = 0

/-- What may be accepted: a covered promise, by another receiver than the sender, or what somebody
else has promised. -/
inductive Proper (sender : AccountId) (ious : Finset (Iou AccountId Signature))
    (s : State AccountId Register L) : Input AccountId Signature → Prop
  | promise (i) (hi : i ∈ ious) (hreceiver : i.receiver ≠ sender)
    (hcovered : i.payload.amount ≤ s.pocket sender) : Proper sender ious s (settlement sender i)
  | foreign (origin other payload signature) (hother : other ≠ sender) :
    Proper sender ious s (origin, .settleIou other payload signature)

/-- The call is about a promise of somebody else, about one that is settled, or not signed. -/
def Spent (cfg : Config AccountId Signature Register) (sender : AccountId)
    (s : State AccountId Register L) : Call AccountId Signature → Prop
  | .lockFunds _ => False
  | .settleIou other payload signature => other = sender →
    s.isProcessed sender payload.nonce = true ∨
      cfg.verify signature payload.encode sender = false

theorem settlement_ok {payload : IouPayload} {signature : Signature} {origin : Origin AccountId}
    (h : step cfg (origin, .settleIou sender payload signature) s = .ok s') :
    ∃ receiver, origin = .signed receiver ∧ Presentable cfg sender payload signature s ∧
      Settled cfg sender receiver payload s s' :=
  settleIou_eq_ok.mp h

/-- A promise that is settled stays so. -/
theorem isProcessed_step (h : step cfg x s = .ok s') {a : AccountId} {nonce : ℕ}
    (ha : s.isProcessed a nonce = true) : s'.isProcessed a nonce = true := by
  obtain ⟨origin, c⟩ := x
  cases c with
  | lockFunds amount =>
    obtain ⟨_, _, _, _, _, rfl⟩ := lockFunds_eq_ok.mp h
    exact ha
  | settleIou other payload signature =>
    obtain ⟨_, _, _, hsettled⟩ := settlement_ok h
    rw [hsettled.isProcessed, ha, ite_self]

theorem Spent.step {c : Call AccountId Signature} (hc : Spent cfg sender s c)
    (h : step cfg x s = .ok s') : Spent cfg sender s' c := by
  cases c with
  | lockFunds amount => exact hc
  | settleIou other payload signature =>
    exact fun hother => (hc hother).imp_left (isProcessed_step h)

/-- A settled promise is one more of those that are settled. -/
theorem settledOf_promise [DecidableEq Signature] (hdistinct : Set.InjOn
    (fun i : Iou AccountId Signature => i.payload.nonce) ious) {i : Iou AccountId Signature}
    (hi : i ∈ ious) {receiver : AccountId} (h : Settled cfg sender receiver i.payload s s') :
    settledOf sender ious s' = insert i (settledOf sender ious s) := by
  ext j
  rw [Finset.mem_insert, settledOf, settledOf, Finset.mem_filter, Finset.mem_filter,
    h.isProcessed]
  by_cases hj : j.payload.nonce = i.payload.nonce
  · rw [if_pos ⟨rfl, hj⟩]
    constructor
    · rintro ⟨hmem, -⟩
      exact Or.inl (hdistinct hmem hi hj)
    · rintro (rfl | ⟨hmem, -⟩)
      · exact ⟨hi, rfl⟩
      · exact ⟨hmem, rfl⟩
  · rw [if_neg fun h => hj h.2]
    refine ⟨Or.inr, fun h => h.resolve_left ?_⟩
    rintro rfl
    exact hj rfl

theorem settledOf_foreign {other receiver : AccountId} {payload : IouPayload}
    (hother : other ≠ sender) (h : Settled cfg other receiver payload s s') :
    settledOf sender ious s' = settledOf sender ious s := by
  refine Finset.filter_congr fun j _ => ?_
  rw [h.isProcessed, if_neg fun he => hother he.1.symm]

omit [EscrowCurrency AccountId L] in
/-- A promise that is not settled is covered. -/
theorem Kept.covered [DecidableEq Signature] {P : ℕ} (h : Kept sender ious P s)
    (hwithin : ∑ i ∈ ious, i.payload.amount ≤ P) {i : Iou AccountId Signature} (hi : i ∈ ious)
    (hfresh : s.isProcessed sender i.payload.nonce = false) :
    i.payload.amount ≤ s.pocket sender := by
  have hopen : i ∉ settledOf sender ious s := by
    rw [settledOf, Finset.mem_filter, hfresh]
    exact fun h => Bool.false_ne_true h.2
  have hle : ∑ j ∈ insert i (settledOf sender ious s), j.payload.amount ≤
      ∑ j ∈ ious, j.payload.amount :=
    Finset.sum_le_sum_of_subset (Finset.insert_subset hi (Finset.filter_subset _ _))
  rw [Finset.sum_insert hopen] at hle
  have hpocket := h.pocket
  omega

variable [UnlockedEscrow AccountId L]

/-- **A promise that is not settled is accepted.** -/
theorem promise_accepted {P : ℕ} {i : Iou AccountId Signature} (hkept : Kept sender ious P s)
    (hcovered : i.payload.amount ≤ s.pocket sender)
    (hpresentable : Presentable cfg sender i.payload i.signature s)
    (halive : existentialDeposit L ≤ freeBalance s.ledger i.receiver + i.payload.amount)
    (hreceiver : i.receiver ≠ sender) : ∃ s', step cfg (settlement sender i) s = .ok s' := by
  have hreleased := EscrowCurrency.unreserve_released s.ledger sender i.payload.amount
  have hfunds := hkept.reserved
  obtain ⟨l, hl⟩ : ∃ l, Currency.transfer
      (EscrowCurrency.unreserve s.ledger sender i.payload.amount) sender i.receiver
      i.payload.amount .keepAlive = .ok l := by
    by_cases hzero : i.payload.amount = 0
    · exact ⟨_, Currency.transfer_noop _ _ _ _ _ (Or.inl hzero)⟩
    -- what is reserved keeps the existential deposit free
    have hprovided := EscrowCurrency.reserved_provided s.ledger sender (by omega)
    refine UnlockedTransfers.transfer_unlocked _ _ _ _ (fun id => ?_) ?_ ?_
    · rw [UnlockedEscrow.unreserve_lock, hkept.unlocked]
    · rw [hreleased.free]
      omega
    · rw [hreleased.others _ hreceiver]
      exact halive
  refine ⟨{ s with
    ledger := l
    offlinePockets := s.offlinePockets.insert sender (s.pocket sender - i.payload.amount)
    processedIous := s.processedIous.insert (sender, i.payload.nonce) true }, ?_⟩
  exact settleIou_eq_ok.mpr ⟨i.receiver, rfl, hpresentable, Or.inl ⟨hcovered, hl, rfl, rfl, rfl⟩⟩

variable [LockableCurrency AccountId L]

/-- **What a settlement keeps of the account of the sender.** -/
theorem kept_step [DecidableEq Signature] {P : ℕ} (hdistinct : Set.InjOn
    (fun i : Iou AccountId Signature => i.payload.nonce) ious) (hkept : Kept sender ious P s)
    (hx : Proper sender ious s x) (h : step cfg x s = .ok s') : Kept sender ious P s' := by
  cases hx with
  | promise i hi hreceiver hcovered =>
    obtain ⟨receiver, _, hpresentable, hsettled⟩ := settlement_ok h
    have hpaid : Paid sender receiver i.payload s s' :=
      hsettled.resolve_right fun hd => Nat.not_le.mpr hd.exceeded hcovered
    have hopen : i ∉ settledOf sender ious s := by
      rw [settledOf, Finset.mem_filter, hpresentable.fresh]
      exact fun h => Bool.false_ne_true h.2
    refine ⟨?_, hsettled.backed hkept.reserved, fun id => ?_⟩
    · rw [settledOf_promise hdistinct hi hsettled, Finset.sum_insert hopen, hpaid.pocket]
      have hpocket := hkept.pocket
      omega
    · rw [hsettled.lockAmount, hkept.unlocked]
  | foreign origin other payload signature hother =>
    obtain ⟨receiver, _, _, hsettled⟩ := settlement_ok h
    refine ⟨?_, ?_, fun id => ?_⟩
    · rw [settledOf_foreign hother hsettled, hsettled.pocket_of_ne hother.symm, hkept.pocket]
    · rw [hsettled.pocket_of_ne hother.symm, hsettled.reserved_of_ne hother.symm]
      exact hkept.reserved
    · rw [hsettled.lockAmount, hkept.unlocked]

end Kept

/-! ### Runs -/

section Runs

variable [DecidableEq AccountId] [Currency AccountId L] [EscrowCurrency AccountId L]
  {cfg : Config AccountId Signature Register} {sender : AccountId}
  {ious : Finset (Iou AccountId Signature)} {s s' : State AccountId Register L}
  {x : Input AccountId Signature} {xs : List (Input AccountId Signature)}
  {seen : List (Call AccountId Signature)} {P : ℕ}

/-- A promise is settled by the inputs that present it. -/
theorem isProcessed_step_iff {nonce : ℕ} (h : step cfg x s = .ok s') :
    s'.isProcessed sender nonce = true ↔
      Presents sender nonce x ∨ s.isProcessed sender nonce = true := by
  obtain ⟨origin, c⟩ := x
  cases c with
  | lockFunds amount =>
    obtain ⟨_, _, _, _, _, rfl⟩ := lockFunds_eq_ok.mp h
    exact ⟨Or.inr, fun h => h.resolve_left nofun⟩
  | settleIou other payload signature =>
    obtain ⟨_, _, _, hsettled⟩ := settlement_ok h
    rw [hsettled.isProcessed]
    constructor
    · intro hs'
      by_cases he : sender = other ∧ nonce = payload.nonce
      · exact Or.inl ⟨payload, signature, by rw [he.1], he.2.symm⟩
      · rw [if_neg he] at hs'
        exact Or.inr hs'
    · rintro (⟨payload', signature', he, rfl⟩ | hs)
      · obtain ⟨rfl, rfl, -⟩ := Call.settleIou.inj he
        exact if_pos ⟨rfl, rfl⟩
      · rw [hs, ite_self]

/-- One settlement is accepted under the number of a promise that is settled in the end. -/
theorem presented_once {nonce : ℕ} (hfresh : s.isProcessed sender nonce = false)
    (hend : (run (step cfg) xs s).isProcessed sender nonce = true) :
    accepted (step cfg) (Presents sender nonce) xs s = 1 := by
  have hneed : ∀ (i : Input AccountId Signature) (t t' : State AccountId Register L),
      Presents sender nonce i → step cfg i t = .ok t' → t.isProcessed sender nonce = false := by
    rintro ⟨origin, c⟩ t t' ⟨payload, signature, rfl, rfl⟩ ht
    obtain ⟨_, _, hpresentable, _⟩ := settlement_ok ht
    exact hpresentable.fresh
  have huse : ∀ (i : Input AccountId Signature) (t t' : State AccountId Register L),
      Presents sender nonce i → step cfg i t = .ok t' →
        ¬ t'.isProcessed sender nonce = false := by
    intro x t t' hx ht
    rw [(isProcessed_step_iff ht).mpr (Or.inl hx)]
    exact nofun
  have hgone : ∀ (i : Input AccountId Signature) (t t' : State AccountId Register L),
      ¬ t.isProcessed sender nonce = false → step cfg i t = .ok t' →
        ¬ t'.isProcessed sender nonce = false := by
    intro x t t' hgone ht
    rw [Bool.not_eq_false] at hgone ⊢
    exact isProcessed_step ht hgone
  have hkeep : ∀ (i : Input AccountId Signature) (t t' : State AccountId Register L),
      ¬ Presents sender nonce i → step cfg i t = .ok t' → t.isProcessed sender nonce = false →
        t'.isProcessed sender nonce = false := by
    intro x t t' hx ht htoken
    by_contra hgone
    rcases (isProcessed_step_iff ht).mp (Bool.not_eq_false _ ▸ hgone) with hp | hp
    · exact hx hp
    · rw [htoken] at hp
      cases hp
  exact accepted_eq_one hneed huse hgone hkeep hfresh (by rw [hend]; exact nofun)

/-- Where the pockets of all are reserved, settlements lose no issuance. -/
theorem issuance_kept (hproper : Along (step cfg) (fun s x => Proper sender ious s x) xs s)
    (hbacked : ∀ a, s.pocket a ≤ reservedBalance s.ledger a) :
    Throughout (step cfg) (fun t => totalIssuance t.ledger = totalIssuance s.ledger) xs s := by
  have hstep : ∀ (x : Input AccountId Signature) (t t' : State AccountId Register L),
      ((∀ a, t.pocket a ≤ reservedBalance t.ledger a) ∧
        totalIssuance t.ledger = totalIssuance s.ledger) → Proper sender ious t x →
      step cfg x t = .ok t' → (∀ a, t'.pocket a ≤ reservedBalance t'.ledger a) ∧
        totalIssuance t'.ledger = totalIssuance s.ledger := by
    rintro x t t' ⟨hbacked, hissuance⟩ hq ht
    -- proper or not, a settlement keeps the pockets backed
    obtain ⟨payer, payload, signature, hx⟩ :
        ∃ payer payload signature, x.2 = .settleIou payer payload signature := by
      cases hq with
      | promise => exact ⟨_, _, _, rfl⟩
      | foreign => exact ⟨_, _, _, rfl⟩
    obtain ⟨origin, c⟩ := x
    obtain rfl : c = .settleIou payer payload signature := hx
    obtain ⟨_, _, _, hsettled⟩ := settlement_ok ht
    refine ⟨fun a => ?_, (hsettled.issuance (hbacked payer)).trans hissuance⟩
    by_cases ha : a = payer
    · rw [ha]
      exact hsettled.backed (hbacked payer)
    · rw [hsettled.pocket_of_ne ha, hsettled.reserved_of_ne ha]
      exact hbacked a
  exact (throughout_of_along hstep ⟨hbacked, rfl⟩ hproper).imp fun _ h => h.2

variable [DecidableEq Signature]

/-- Of what is submitted only promises by their receivers, and what others have promised, is
accepted. -/
theorem Submission.proper (hx : Submission cfg sender ious seen s x)
    (hpassive : x.1 ≠ .signed sender)
    (hseen : ∀ c ∈ seen, Spent cfg sender s c) (hwithin : ∑ i ∈ ious, i.payload.amount ≤ P)
    (hkept : Kept sender ious P s) (h : step cfg x s = .ok s') : Proper sender ious s x := by
  cases hx with
  | promise i hi halive =>
    obtain ⟨receiver, horigin, hpresentable, _⟩ := settlement_ok h
    have hreceiver : i.receiver ≠ sender := fun he => hpassive (congrArg Origin.signed he)
    exact .promise i hi hreceiver (hkept.covered hwithin hi hpresentable.fresh)
  | replay origin c hc =>
    -- what has been submitted before is spent, if it is about the sender
    have hspent := hseen c hc
    cases c with
    | lockFunds amount => exact hspent.elim
    | settleIou other payload signature =>
      obtain ⟨_, _, hpresentable, _⟩ := settlement_ok h
      refine .foreign origin other payload signature ?_
      rintro rfl
      rcases hspent rfl with hprocessed | hforged
      · rw [hpresentable.fresh] at hprocessed
        cases hprocessed
      · rw [hpresentable.signed] at hforged
        cases hforged
  | forgery origin payload signature hforged =>
    obtain ⟨_, _, hpresentable, _⟩ := settlement_ok h
    rw [hpresentable.signed] at hforged
    cases hforged
  | foreign origin other payload signature hother =>
    exact .foreign origin other payload signature hother

variable [UnlockedEscrow AccountId L]

/-- What has been submitted is spent, whether it was accepted or not. -/
theorem Submission.spent (hx : Submission cfg sender ious seen s x)
    (hpassive : x.1 ≠ .signed sender) (hseen : ∀ c ∈ seen, Spent cfg sender s c)
    (hsigned : ∀ i ∈ ious, cfg.verify i.signature i.payload.encode sender = true)
    (hwithin : ∑ i ∈ ious, i.payload.amount ≤ P) (hkept : Kept sender ious P s) :
    Spent cfg sender (exec (step cfg) x s) x.2 := by
  have hstays : ∀ c, Spent cfg sender s c → Spent cfg sender (exec (step cfg) x s) c := by
    intro c hc
    rcases exec_cases (step cfg) x s with ⟨s', hs', he⟩ | ⟨_, _, he⟩
    · rw [he]
      exact hc.step hs'
    · rwa [he]
  cases hx with
  | promise i hi halive =>
    intro _
    cases hprocessed : s.isProcessed sender i.payload.nonce with
    | true => exact hstays (settlement sender i).2 (fun _ => Or.inl hprocessed) rfl
    | false =>
      -- a promise that is not settled is accepted, and settled then
      have hreceiver : i.receiver ≠ sender := fun he => hpassive (congrArg Origin.signed he)
      obtain ⟨s', hs'⟩ := promise_accepted hkept (hkept.covered hwithin hi hprocessed)
        ⟨hprocessed, hsigned i hi⟩ halive hreceiver
      obtain ⟨_, _, _, hsettled⟩ := settlement_ok hs'
      rw [exec_ok hs', hsettled.isProcessed, if_pos ⟨rfl, rfl⟩]
      exact Or.inl rfl
  | replay origin c hc => exact hstays c (hseen c hc)
  | forgery origin payload signature hforged => exact hstays _ fun _ => Or.inr hforged
  | foreign origin other payload signature hother => exact fun he => absurd he hother

variable [LockableCurrency AccountId L]

/-- **Of a run of submissions only what is proper is accepted, and all of it is spent then.** -/
theorem submitted_proper (hsub : Submitted cfg sender ious seen xs s)
    (hseen : ∀ c ∈ seen, Spent cfg sender s c)
    (hsigned : ∀ i ∈ ious, cfg.verify i.signature i.payload.encode sender = true)
    (hdistinct : Set.InjOn (fun i : Iou AccountId Signature => i.payload.nonce) ious)
    (hwithin : ∑ i ∈ ious, i.payload.amount ≤ P) (hkept : Kept sender ious P s) :
    Along (step cfg) (fun s x => Proper sender ious s x) xs s ∧
      (∀ c ∈ seen, Spent cfg sender (run (step cfg) xs s) c) ∧
        ∀ x ∈ xs, Spent cfg sender (run (step cfg) xs s) x.2 := by
  induction xs generalizing seen s with
  | nil => exact ⟨trivial, hseen, fun _ hx => absurd hx List.not_mem_nil⟩
  | cons x xs ih =>
    obtain ⟨hx, hpassive, hrest⟩ := hsub
    have hproper : ∀ s', step cfg x s = .ok s' → Proper sender ious s x := fun s' =>
      hx.proper hpassive hseen hwithin hkept
    -- the rest of the run starts from what the first input keeps
    have hkept' : Kept sender ious P (exec (step cfg) x s) := by
      rcases exec_cases (step cfg) x s with ⟨s', hs', he⟩ | ⟨_, _, he⟩
      · rw [he]
        exact kept_step hdistinct hkept (hproper s' hs') hs'
      · rwa [he]
    have hseen' : ∀ c ∈ x.2 :: seen, Spent cfg sender (exec (step cfg) x s) c := by
      intro c hc
      rcases List.mem_cons.mp hc with rfl | hc
      · exact hx.spent hpassive hseen hsigned hwithin hkept
      · rcases exec_cases (step cfg) x s with ⟨s', hs', he⟩ | ⟨_, _, he⟩
        · rw [he]
          exact (hseen c hc).step hs'
        · rw [he]
          exact hseen c hc
    obtain ⟨halong, hbefore, hafter⟩ := ih hrest hseen' hkept'
    refine ⟨⟨hproper, halong⟩, fun c hc => hbefore c (List.mem_cons_of_mem _ hc), ?_⟩
    intro y hy
    rcases List.mem_cons.mp hy with rfl | hy
    · exact hbefore _ List.mem_cons_self
    · exact hafter y hy

/-- What the settlements of the sender add to the balance of another account is what the account was
promised. -/
theorem gain_credited {P : ℕ} (hdistinct : Set.InjOn
    (fun i : Iou AccountId Signature => i.payload.nonce) ious) (hkept : Kept sender ious P s)
    (hproper : Along (step cfg) (fun s x => Proper sender ious s x) xs s) {r : AccountId}
    (hr : r ≠ sender) :
    gain (step cfg) (Draws sender) (fun t => (freeBalance t.ledger r : ℤ)) xs s =
      (∑ i ∈ settledOf sender ious (run (step cfg) xs s) with i.receiver = r,
          (i.payload.amount : ℤ)) -
        ∑ i ∈ settledOf sender ious s with i.receiver = r, (i.payload.amount : ℤ) := by
  refine gain_eq (J := Kept sender ious P) (p := Draws sender)
    (f := fun t => (freeBalance t.ledger r : ℤ))
    (g := fun t => ∑ i ∈ settledOf sender ious t with i.receiver = r, (i.payload.amount : ℤ))
    (fun x t t' hj hq => kept_step hdistinct hj hq) ?_ ?_ hkept hproper
  · intro x t t' _ hq hdraws ht
    cases hq with
    | promise i hi hreceiver hcovered =>
      obtain ⟨receiver, horigin, hpresentable, hsettled⟩ := settlement_ok ht
      obtain rfl : i.receiver = receiver := Origin.signed.inj horigin
      have hpaid : Paid sender i.receiver i.payload t t' :=
        hsettled.resolve_right fun hd => Nat.not_le.mpr hd.exceeded hcovered
      -- the promise was not settled before, so that the sum has one more term
      have hopen : i ∉ settledOf sender ious t := by
        rw [settledOf, Finset.mem_filter, hpresentable.fresh]
        exact fun h => Bool.false_ne_true h.2
      have hfree := Currency.transfer_keepAlive_free hpaid.transfer r
      rw [(EscrowCurrency.unreserve_released _ _ _).others r hr, if_neg hr] at hfree
      rw [settledOf_promise hdistinct hi hsettled, Finset.filter_insert]
      by_cases hir : i.receiver = r
      · rw [if_pos hir, Finset.sum_insert fun h => hopen (Finset.mem_filter.mp h).1]
        rw [if_pos hir.symm] at hfree
        omega
      · rw [if_neg hir]
        rw [if_neg (Ne.symm hir)] at hfree
        omega
    | foreign origin other payload signature hother =>
      obtain ⟨_, _, he⟩ := hdraws
      exact absurd (Call.settleIou.inj he).1 hother
  · intro x t t' _ hq hdraws ht
    cases hq with
    | promise i hi hreceiver hcovered => exact absurd ⟨_, _, rfl⟩ hdraws
    | foreign origin other payload signature hother =>
      obtain ⟨_, _, _, hsettled⟩ := settlement_ok ht
      rw [settledOf_foreign hother hsettled]

/-- **Honest payments settle in any order.** -/
theorem ious_settled (hpromises : Promises cfg sender ious s)
    (hsub : Submitted cfg sender ious [] xs s)
    (hall : ∀ i ∈ ious, settlement sender i ∈ xs) : SettledInFull cfg sender ious s xs := by
  have hnone : settledOf sender ious s = ∅ := by
    refine Finset.filter_eq_empty_iff.mpr fun i hi => ?_
    rw [hpromises.fresh i hi]
    exact Bool.false_ne_true
  have hkept : Kept sender ious (s.pocket sender) s := by
    refine ⟨?_, hpromises.reserved, hpromises.unlocked⟩
    rw [hnone, Finset.sum_empty, Nat.add_zero]
  obtain ⟨hproper, -, hspent⟩ := submitted_proper hsub (fun c hc => absurd hc List.not_mem_nil)
    hpromises.signed hpromises.distinct hpromises.within hkept
  have hthroughout : Throughout (step cfg) (Kept sender ious (s.pocket sender)) xs s :=
    throughout_of_along (fun _ _ _ hj hq ht => kept_step hpromises.distinct hj hq ht) hkept hproper
  -- every promise has been submitted, and is signed
  have hprocessed : ∀ i ∈ ious,
      (run (step cfg) xs s).isProcessed sender i.payload.nonce = true := by
    intro i hi
    refine (hspent _ (hall i hi) rfl).resolve_right fun hforged => ?_
    rw [hpromises.signed i hi] at hforged
    cases hforged
  have hsettled : settledOf sender ious (run (step cfg) xs s) = ious :=
    Finset.filter_eq_self.mpr hprocessed
  have halong : ∀ {Q : State AccountId Register L → Input AccountId Signature → Prop},
      (∀ t x, Proper sender ious t x → Q t x) → Along (step cfg) Q xs s := fun hQ =>
    along_of_invariant (J := fun _ => True) (fun _ _ _ _ _ _ => trivial)
      (fun x t _ _ hq _ => hQ t x hq) trivial hproper
  refine
    { once := fun i hi => presented_once (hpromises.fresh i hi) (hprocessed i hi)
      byReceiver := halong fun t x hq hdraws => ?_
      pocket := ?_
      credited := fun r hr => ?_
      spared := halong fun t x hq => ?_
      reserved := hthroughout.imp fun _ h => h.reserved
      issuance := issuance_kept hproper }
  · cases hq with
    | promise i hi => exact ⟨i, hi, rfl⟩
    | foreign origin other payload signature hother =>
      obtain ⟨_, _, he⟩ := hdraws
      exact absurd (Call.settleIou.inj he).1 hother
  · have hlast := hthroughout.last.pocket
    rwa [hsettled] at hlast
  · rw [gain_credited hpromises.distinct hkept hproper hr, hsettled, hnone, Finset.filter_empty,
      Finset.sum_empty, sub_zero]
  · rintro ⟨payload, signature, he, hexceeded⟩
    cases hq with
    | promise i hi hreceiver hcovered =>
      obtain ⟨-, rfl, -⟩ := Call.settleIou.inj he
      exact Nat.not_le.mpr hexceeded hcovered
    | foreign origin other payload' signature' hother =>
      exact absurd (Call.settleIou.inj he).1 hother

end Runs

/-- A promise of the account 1, in the hands of a receiver. -/
def given (units nonce receiver : ℕ) : Iou ℕ BankOfSiberia.MultiSignature where
  payload := promised units nonce
  signature := signatureOf 1 (promised units nonce).encode
  receiver := receiver

/-- The second of two promises is settled first; before the other is, it is forged, and the second
repeated by another account. -/
theorem ious_settled_twoPromises : SettledInFull steppe 1 {given 60 1 2, given 40 2 3} offTheGrid
    [settlement 1 (given 40 2 3),
      (.signed 3, .settleIou 1 (promised 60 1) (signatureOf 3 (promised 60 1).encode)),
      (.signed 2, (settlement 1 (given 40 2 3)).2),
      settlement 1 (given 60 1 2),
      settlement 1 (given 40 2 3)] := by
  apply ious_settled
  · have hdistinct : ∀ i ∈ ({given 60 1 2, given 40 2 3} : Finset _), ∀ j ∈
        ({given 60 1 2, given 40 2 3} : Finset _), i.payload.nonce = j.payload.nonce → i = j := by
      decide
    refine ⟨by decide +kernel, fun i hi j hj => hdistinct i hi j hj, by decide +kernel,
      by decide +kernel, by decide +kernel, fun id => ?_⟩
    have hlocks : offTheGrid.ledger.locks = ∅ := by decide +kernel
    show offTheGrid.ledger.locks.getD (id, 1) 0 = 0
    rw [hlocks, StorageMap.getD_empty]
  · refine ⟨.promise _ (by decide) (by decide +kernel), by decide, ?_⟩
    refine ⟨.forgery _ _ _ (by decide +kernel), by decide, ?_⟩
    refine ⟨.replay _ _ (by decide +kernel), by decide, ?_⟩
    refine ⟨.promise _ (by decide) (by decide +kernel), by decide, ?_⟩
    exact ⟨.replay _ _ (by decide +kernel), by decide, trivial⟩
  · decide

end SteppeOffline
