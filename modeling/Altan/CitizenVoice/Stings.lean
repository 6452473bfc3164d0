import Altan.CitizenVoice.Escrow
import Altan.Identity.Ending

/-!
# The collateral of the whistleblowers

The amount of a sting operation is returned when the trap is sprung, and only then. The call exiles
the target, and an exile is for the living: the operations against a target who has died or is
exiled already cannot be sprung. The collateral of every approved operation can be returned in
exactly the runs in which none is approved against the dead or the exiled, and no target of one is
exiled or dies but by its own trap.

## Main definitions

* `CanPay`: the balances with which the treasury can pay the reward
* `Redeemable`: every approved operation returns its amount when the committed salt is revealed
* `Awaits`: an approved operation that can be revealed awaits the exile of its target
* `SparesTargets`: an input leaves no operation behind

## Main results

* `redeemable_iff`: the approved operations are redeemable when their targets live
* `redeemable_iff_sparesTargets`: the runs in which they always are
-/

open Bounded Dispatch Ledger TransitionSystem
open Identity (Living Ended)

namespace CitizenVoice

variable {AccountId L : Type} [DecidableEq AccountId] [Currency AccountId L]
  [EscrowCurrency AccountId L]

/-! ### What is asked of the runs -/

omit [DecidableEq AccountId] in
/-- The treasury can pay the reward on a ledger, when the target is exiled and the amount is
returned. -/
def CanPay (cfg : Config AccountId L) (op : StingOperation AccountId) (ledger : L) : Prop :=
  ∃ ledger', payReward cfg op (EscrowCurrency.unreserve (cfg.identity.onExiled op.target ledger)
    op.citizen op.amount) = .ok ledger'

/-- A trap is sprung and the citizen gets back what is reserved of the amount, and the reward. -/
structure Redeemed (cfg : Config AccountId L) (op : StingOperation AccountId) (stingId : ℕ)
    (s s' : State AccountId L) : Prop where
  sprung : s'.stingOperations.get stingId = some { op with status := .sprung }
  returned : ∃ ledger, Released (cfg.identity.onExiled op.target s.ledger) ledger op.citizen
      (min op.amount (reservedBalance (cfg.identity.onExiled op.target s.ledger) op.citizen)) ∧
    payReward cfg op ledger = .ok s'.ledger

/-- **Every approved operation is redeemable**: root springs the trap with the committed salt, on
every ledger with which the treasury can pay. -/
def Redeemable (cfg : Config AccountId L) (s : State AccountId L) : Prop :=
  ∀ stingId op, s.stingOperations.get stingId = some op → op.status = .approved →
    ∀ salt, commitment op.amount salt = op.commitHash → ∀ ledger, CanPay cfg op ledger →
      ∀ isGuildMaster, ∃ s', step cfg (.call ⟨.root, isGuildMaster⟩ (.revealAndSpringTrap stingId
        salt)) (s.withLedger ledger) = .ok s' ∧ Redeemed cfg op stingId (s.withLedger ledger) s'

omit [DecidableEq AccountId] in
/-- An operation that can be revealed: there is a salt to the commitment, and a ledger with which
the treasury can pay. -/
def Honest (cfg : Config AccountId L) (op : StingOperation AccountId) : Prop :=
  (∃ salt, commitment op.amount salt = op.commitHash) ∧ ∃ ledger, CanPay cfg op ledger

omit [DecidableEq AccountId] in
/-- An approved operation that can be revealed awaits the exile of its target. -/
def Awaits (cfg : Config AccountId L) (s : State AccountId L) (stingId : ℕ) (who : AccountId) :
    Prop :=
  ∃ op, s.stingOperations.get stingId = some op ∧ op.status = .approved ∧ Honest cfg op ∧
    op.target = who

omit [DecidableEq AccountId] [Currency AccountId L] [EscrowCurrency AccountId L] in
/-- The standing of a citizen. -/
def State.standing (s : State AccountId L) (who : AccountId) : Option Identity.CitizenStatus :=
  s.identity.toState.status who

omit [DecidableEq AccountId] in
/-- An input leaves no operation behind: none is approved against a target who does not live, and
nobody is exiled or dies who is the target of an approved one, but by its own trap. -/
def SparesTargets (cfg : Config AccountId L) (s : State AccountId L) : Input AccountId L → Prop
  | .call _ (.approveSting stingId) =>
    ∀ op ∈ s.stingOperations.get stingId, Honest cfg op → Living (s.standing op.target)
  | .call _ (.revealAndSpringTrap stingId _) =>
    ∀ op ∈ s.stingOperations.get stingId, ∀ id, Awaits cfg s id op.target → id = stingId
  | .identity x => ∀ who ∈ x.ends, ∀ id, ¬ Awaits cfg s id who
  | _ => True

/-! ### One state -/

section States

variable {cfg : Config AccountId L} {s s' : State AccountId L}

/-- **The approved operations are redeemable when their targets live.** -/
theorem redeemable_iff :
    Redeemable cfg s ↔ ∀ stingId who, Awaits cfg s stingId who → Living (s.standing who) := by
  constructor
  · rintro h stingId who ⟨op, hget, happroved, ⟨⟨salt, hsalt⟩, ledger, hpay⟩, rfl⟩
    obtain ⟨s', hs, -⟩ := h stingId op hget happroved salt hsalt ledger hpay fun _ _ => false
    obtain ⟨-, op', hget', -, -, identity, hexile, -⟩ := reveal_eq_ok.mp hs
    obtain rfl := Option.some.inj (hget.symm.trans hget')
    have hliving : Living ((s.withLedger ledger).standing op.target) :=
      Identity.exists_exile_iff.mp ⟨identity, hexile⟩
    exact hliving
  · intro h stingId op hget happroved salt hsalt ledger hpay isGuildMaster
    have hliving := h stingId op.target ⟨op, hget, happroved, ⟨⟨salt, hsalt⟩, ledger, hpay⟩, rfl⟩
    obtain ⟨identity, hexile⟩ : ∃ identity, Identity.step cfg.identity (.doExile op.target)
        (s.withLedger ledger).identity = .ok identity := Identity.exists_exile_iff.mpr hliving
    have hhook : identity.ledger = cfg.identity.onExiled op.target ledger := exile_ledger hexile
    obtain ⟨ledger', hpaid⟩ := hpay
    rw [← hhook] at hpaid
    refine ⟨_, reveal_eq_ok.mpr ⟨rfl, op, hget, happroved, hsalt, identity, hexile, ledger', hpaid,
      rfl⟩, StorageMap.get_insert_self, _, ?_, hpaid⟩
    change Released (cfg.identity.onExiled op.target ledger) _ _
      (min op.amount (reservedBalance (cfg.identity.onExiled op.target ledger) op.citizen))
    rw [hhook]
    exact EscrowCurrency.unreserve_released _ _ _

omit [DecidableEq AccountId] in
/-- What awaits its target when an operation is written. -/
theorem awaits_insert {op : StingOperation AccountId} {stingId id : ℕ} {who : AccountId}
    (h : s'.stingOperations = s.stingOperations.insert stingId op) :
    Awaits cfg s' id who ↔
      id = stingId ∧ op.status = .approved ∧ Honest cfg op ∧ op.target = who ∨
        id ≠ stingId ∧ Awaits cfg s id who := by
  unfold Awaits
  rw [h]
  by_cases hid : id = stingId
  · subst hid
    simp
  · simp [hid, StorageMap.get_insert_of_ne hid]

/-- **Step lemma.** An accepted input keeps the approved operations redeemable exactly when it
leaves none behind. -/
theorem redeemable_of_step {x : Input AccountId L} (h : Redeemable cfg s)
    (hs : step cfg x s = .ok s') : Redeemable cfg s' ↔ SparesTargets cfg s x := by
  rw [redeemable_iff] at h ⊢
  cases x with
  | elsewhere ledger =>
    obtain rfl := Except.ok.inj hs
    exact iff_of_true h trivial
  | identity x =>
    obtain ⟨identity, hidentity, rfl⟩ := step_identity_eq_ok.mp hs
    constructor
    · intro hafter who hends id hawaits
      exact (hafter id who hawaits).2 (Identity.step_ends hidentity hends)
    · intro hspares id who hawaits
      exact Identity.step_living hidentity (h id who hawaits) fun hends =>
        hspares who hends id hawaits
  | call ctx c =>
    cases c with
    | submitTicket target feedbackType contentHash =>
      obtain ⟨caller, ledger, -, -, rfl⟩ := submit_eq_ok hs
      exact iff_of_true h trivial
    | resolveTicket ticketId resolutionHash isHelpful =>
      obtain ⟨ticket, -, -, -, rfl⟩ := resolve_eq_ok resolutionHash hs
      exact iff_of_true h trivial
    | markInReview ticketId =>
      obtain ⟨ticket, -, -, rfl⟩ := review_eq_ok hs
      exact iff_of_true h trivial
    | escalateTicket ticketId =>
      obtain ⟨ticket, -, -, rfl⟩ := escalate_eq_ok hs
      exact iff_of_true h trivial
    | requestStingOperation target amount commitHash =>
      obtain ⟨citizen, -, ledger, -, rfl⟩ := request_eq_ok.mp hs
      refine iff_of_true (fun id who hawaits => ?_) trivial
      rcases (awaits_insert rfl).mp hawaits with ⟨-, hpending, -⟩ | ⟨-, hawaits⟩
      · cases hpending
      · exact h id who hawaits
    | approveSting stingId =>
      obtain ⟨-, op, hget, -, rfl⟩ := approve_eq_ok.mp hs
      have hinsert :
          (withSting stingId { op with status := .approved } s.identity s).stingOperations =
        s.stingOperations.insert stingId { op with status := .approved } := rfl
      constructor
      · intro hafter op' hget' hhonest
        obtain rfl := Option.some.inj (hget.symm.trans hget')
        exact hafter stingId op.target
          ((awaits_insert hinsert).mpr (Or.inl ⟨rfl, rfl, hhonest, rfl⟩))
      · intro hspares id who hawaits
        rcases (awaits_insert hinsert).mp hawaits with ⟨-, -, hhonest, rfl⟩ | ⟨-, hawaits⟩
        · exact hspares op hget hhonest
        · exact h id who hawaits
    | revealAndSpringTrap stingId salt =>
      obtain ⟨-, op, hget, -, -, identity, hexile, ledger, -, rfl⟩ := reveal_eq_ok.mp hs
      constructor
      · intro hafter op' hget' id hawaits
        obtain rfl := Option.some.inj (hget.symm.trans hget')
        by_contra hid
        -- another operation against the target, who is exiled now
        have hliving := hafter id op.target ((awaits_insert rfl).mpr (Or.inr ⟨hid, hawaits⟩))
        have hended : Ended (identity.toState.status op.target) := Identity.step_ends hexile rfl
        exact hliving.2 hended
      · intro hspares id who hawaits
        rcases (awaits_insert rfl).mp hawaits with ⟨-, hsprung, -⟩ | ⟨hid, hawaits⟩
        · cases hsprung
        · have hliving : Living (identity.toState.status who) :=
            Identity.step_living hexile (h id who hawaits) fun hends =>
              hid (hspares op hget id (Option.some.inj hends ▸ hawaits))
          exact hliving

end States

/-! ### Runs -/

/-- **The approved operations are redeemable throughout exactly the runs that leave none
behind.** -/
theorem redeemable_iff_sparesTargets (cfg : Config AccountId L)
    (identity : Identity.World AccountId L) (xs : List (Input AccountId L)) :
    Throughout (step cfg) (Redeemable cfg) xs (.start identity) ↔
      Along (step cfg) (SparesTargets cfg) xs (.start identity) := by
  refine throughout_iff_along_of_step (fun x s s' h hs => redeemable_of_step h hs) ?_
  rw [redeemable_iff]
  rintro stingId who ⟨op, hget, -⟩
  rw [show (State.start identity).stingOperations.get stingId = none from
    StorageMap.get_empty stingId] at hget
  cases hget

/-- Two operations against one citizen are approved, and the first is sprung. -/
def twice : List (Input ℕ (Estates.Estate ℕ (Runtime.EscrowLedger ℕ))) :=
  [asked (5 * CentralBank.unit), asked (5 * CentralBank.unit), approved 0, approved 1, revealed 0]

/-- **The second operation against the same target is stranded.** -/
theorem second_stranded :
    ¬ ∀ xs, Throughout (step Runtime.citizenVoice) (Redeemable Runtime.citizenVoice) xs
      (.start citizens) := by
  intro h
  have hlast := (h twice).last
  rw [redeemable_iff] at hlast
  let op : StingOperation ℕ := ⟨8, 7, 5 * CentralBank.unit,
    commitment (5 * CentralBank.unit) (.ofNat 1), .approved⟩
  have hget : (run (step Runtime.citizenVoice) twice (.start citizens)).stingOperations.get 1 =
      some op := by decide +kernel
  have hpay : CanPay Runtime.citizenVoice op citizens.ledger := exists_ok (by decide +kernel)
  have hliving := hlast 1 7 ⟨op, hget, rfl, ⟨⟨_, rfl⟩, _, hpay⟩, rfl⟩
  have hexiled : (run (step Runtime.citizenVoice) twice (.start citizens)).standing 7 =
      some .exiled := by decide +kernel
  rw [hexiled] at hliving
  exact hliving.2 (Or.inr rfl)

end CitizenVoice
