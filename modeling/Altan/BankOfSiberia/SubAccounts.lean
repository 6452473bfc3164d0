import Altan.BankOfSiberia.Spec
import Altan.Foundation.TransitionSystem

/-!
# The index of sub-accounts

A sub-account is recorded twice: under its master and its address, and under its address alone.
The two records agree in every state, whatever is opened, drained, closed and opened again, and
whatever is paid into or out of the addresses from outside; a withdrawal that the ledger refuses
after its records were removed leaves both in place.

## Main definitions

* `Indexed`: the two records of the sub-accounts agree
* `IndexEffect`: what a call does to them
* `WorldInput`, `worldStep`: calls of the bank, and transfers from outside

## Main results

* `indexed_step`: an accepted call keeps the records in agreement
* `subAccounts_indexed`: they agree after every run
-/

open Bounded Dispatch TransitionSystem Runtime

namespace BankOfSiberia

variable {AccountId L : Type} [DecidableEq AccountId] {cfg : Config AccountId}
  {s s' : State AccountId L}

/-- The two records of the sub-accounts agree, and every sub-account has the address derived from
its master and its kind. -/
structure Indexed (cfg : Config AccountId) (s : State AccountId L) : Prop where
  agree : ∀ master subAccount accountType,
    s.subAccounts.get (master, subAccount) = some accountType ↔
      ∃ record, s.subAccountMeta.get subAccount = some record ∧ record.master = master ∧
        record.accountType = accountType
  derived : ∀ subAccount record, s.subAccountMeta.get subAccount = some record →
    subAccount = deriveSubAccount cfg record.master record.accountType 0

/-- The address of a sub-account determines its master and its kind. -/
def DerivesInjectively (cfg : Config AccountId) : Prop :=
  ∀ master master' accountType accountType',
    deriveSubAccount cfg master accountType 0 = deriveSubAccount cfg master' accountType' 0 →
      master = master' ∧ accountType = accountType'

/-- Both records of a new sub-account are written. -/
def SubAccountOpened (cfg : Config AccountId) (s s' : State AccountId L) (master : AccountId)
    (accountType : AccountType) (openedAt : ℕ) : Prop :=
  s'.subAccounts =
      s.subAccounts.insert (master, deriveSubAccount cfg master accountType 0) accountType ∧
    s'.subAccountMeta = s.subAccountMeta.insert (deriveSubAccount cfg master accountType 0)
      { master := master
        accountType := accountType
        openedAt := openedAt }

/-- Both records of a sub-account are removed, the master being the recorded one. -/
def SubAccountRemoved (s s' : State AccountId L) (subAccount : AccountId) : Prop :=
  ∃ record, s.subAccountMeta.get subAccount = some record ∧
    s'.subAccounts = s.subAccounts.remove (record.master, subAccount) ∧
      s'.subAccountMeta = s.subAccountMeta.remove subAccount

/-- No record of a sub-account changes. -/
def SubAccountsKept (s s' : State AccountId L) : Prop :=
  s'.subAccounts = s.subAccounts ∧ s'.subAccountMeta = s.subAccountMeta

/-- What a call does to the records of the sub-accounts. -/
def IndexEffect (cfg : Config AccountId) (x : Extrinsic AccountId) (s s' : State AccountId L) :
    Prop :=
  match x.2 with
  | .openSubAccount accountType =>
    ∃ master openedAt, SubAccountOpened cfg s s' master accountType openedAt
  | .withdrawFromSavings subAccount _ => SubAccountRemoved s s' subAccount ∨ SubAccountsKept s s'
  | .closeSubAccount subAccount => SubAccountRemoved s s' subAccount
  | _ => SubAccountsKept s s'

section Calls

variable [Currency AccountId L] [LockableCurrency AccountId L]

/-- **A successful call has its effect on the records.** -/
theorem step_index {x : Extrinsic AccountId} (h : step cfg x s = .ok s') :
    IndexEffect cfg x s s' := by
  obtain ⟨ctx, call⟩ := x
  cases call with
  | openSubAccount accountType =>
    obtain ⟨master, _, _, _, rfl⟩ := openSubAccount_eq_ok.mp h
    exact ⟨master, _, rfl, rfl⟩
  | withdrawFromSavings subAccount amount =>
    obtain ⟨master, _, record, hrecord, rfl, _, _, l, _, rfl⟩ := withdrawFromSavings_eq_ok.mp h
    -- a withdrawal of all there is removes the sub-account
    show SubAccountRemoved s _ subAccount ∨ SubAccountsKept s _
    unfold withdrawn
    split
    · exact Or.inl ⟨record, hrecord, rfl, rfl⟩
    · exact Or.inr ⟨rfl, rfl⟩
  | closeSubAccount subAccount =>
    obtain ⟨master, _, record, hrecord, rfl, _, rfl⟩ := closeSubAccount_eq_ok.mp h
    exact ⟨record, hrecord, rfl, rfl⟩
  -- no other call touches the records
  | _ =>
    have hsame : Records.Same s s' .subAccounts := step_frame h nofun
    exact Prod.mk.inj hsame

end Calls

namespace Indexed

variable {master subAccount : AccountId} {accountType : AccountType} {openedAt : ℕ}

theorem of_kept (hi : Indexed cfg s) (h : SubAccountsKept s s') :
    Indexed cfg s' where
  agree := by
    rw [h.1, h.2]
    exact hi.agree
  derived := by
    rw [h.2]
    exact hi.derived

/-- Opening a sub-account keeps the records in agreement: no one else has its address. -/
theorem of_opened (hinj : DerivesInjectively cfg) (hi : Indexed cfg s)
    (h : SubAccountOpened cfg s s' master accountType openedAt) : Indexed cfg s' := by
  obtain ⟨hforward, hreverse⟩ := h
  constructor
  · intro m a t
    rw [hforward, hreverse, StorageMap.get_insert, StorageMap.get_insert]
    by_cases ha : a = deriveSubAccount cfg master accountType 0
    · rw [if_pos ha]
      by_cases hm : m = master
      · rw [if_pos (by rw [hm, ha])]
        simp [hm]
      -- a record under another master would derive the same address
      · rw [if_neg fun he => hm (Prod.mk.inj he).1]
        constructor
        · intro hget
          obtain ⟨record, hrecord, hmaster, -⟩ := (hi.agree m a t).mp hget
          have hderived := hi.derived a record hrecord
          rw [ha] at hderived
          have hsame := (hinj _ _ _ _ hderived).1
          exact absurd (hmaster.symm.trans hsame.symm) hm
        · rintro ⟨record, hrecord, hmaster, -⟩
          rw [← Option.some.inj hrecord] at hmaster
          exact absurd hmaster.symm hm
    · rw [if_neg ha, if_neg fun he => ha (Prod.mk.inj he).2]
      exact hi.agree m a t
  · intro a record hrecord
    rw [hreverse, StorageMap.get_insert] at hrecord
    split at hrecord
    · next ha =>
      rw [ha, ← Option.some.inj hrecord]
    · exact hi.derived a record hrecord

/-- Removing both records of a sub-account keeps the others in agreement. -/
theorem of_removed (hi : Indexed cfg s) (h : SubAccountRemoved s s' subAccount) :
    Indexed cfg s' := by
  obtain ⟨removed, hremoved, hforward, hreverse⟩ := h
  constructor
  · intro m a t
    rw [hforward, hreverse, StorageMap.get_remove, StorageMap.get_remove]
    by_cases ha : a = subAccount
    · rw [if_pos ha]
      refine iff_of_false ?_ (by simp)
      split
      · simp
      -- the address is recorded under the master of the removed record only
      · next hm =>
        intro hget
        obtain ⟨record, hrecord, hmaster, -⟩ := (hi.agree m a t).mp hget
        rw [ha, hremoved] at hrecord
        rw [← Option.some.inj hrecord] at hmaster
        exact hm (by rw [hmaster, ha])
    · rw [if_neg ha, if_neg fun he => ha (Prod.mk.inj he).2]
      exact hi.agree m a t
  · intro a record hrecord
    rw [hreverse, StorageMap.get_remove] at hrecord
    split at hrecord
    · cases hrecord
    · exact hi.derived a record hrecord

/-- A master has at most one sub-account of each kind. -/
theorem unique (hi : Indexed cfg s) {subAccount' : AccountId}
    (h : s.subAccounts.get (master, subAccount) = some accountType)
    (h' : s.subAccounts.get (master, subAccount') = some accountType) :
    subAccount = subAccount' := by
  obtain ⟨record, hrecord, hmaster, htype⟩ := (hi.agree _ _ _).mp h
  obtain ⟨record', hrecord', hmaster', htype'⟩ := (hi.agree _ _ _).mp h'
  -- both addresses are derived from the same master and kind
  rw [hi.derived subAccount record hrecord, hi.derived subAccount' record' hrecord', hmaster,
    htype, hmaster', htype']

end Indexed

/-! ### Calls and transfers -/

/-- What happens on the chain: calls of the bank, and transfers between any accounts. -/
inductive WorldInput (AccountId : Type)
  | call (x : Extrinsic AccountId)
  | transfer (source dest : AccountId) (amount : ℕ) (er : ExistenceRequirement)

variable [Currency AccountId L] [LockableCurrency AccountId L]

/-- One input as a step of the state machine. -/
def worldStep (cfg : Config AccountId) (i : WorldInput AccountId) (s : State AccountId L) :
    Result (State AccountId L) :=
  match i with
  | .call x => step cfg x s
  | .transfer source dest amount er => transfer source dest amount er s

/-- **An accepted input keeps the records in agreement.** -/
theorem indexed_step (hinj : DerivesInjectively cfg) {i : WorldInput AccountId}
    (hi : Indexed cfg s) (h : worldStep cfg i s = .ok s') : Indexed cfg s' := by
  cases i with
  | transfer source dest amount er =>
    obtain ⟨l, -, rfl⟩ := transfer_eq_ok.mp h
    exact hi.of_kept ⟨rfl, rfl⟩
  | call x =>
    have heffect := step_index h
    obtain ⟨ctx, call⟩ := x
    cases call with
    | openSubAccount accountType =>
      obtain ⟨master, openedAt, hopened⟩ := heffect
      exact hi.of_opened hinj hopened
    | withdrawFromSavings subAccount amount =>
      rcases heffect with hremoved | hkept
      · exact hi.of_removed hremoved
      · exact hi.of_kept hkept
    | closeSubAccount subAccount => exact hi.of_removed heffect
    | _ => exact hi.of_kept heffect

/-- **The index of sub-accounts agrees.** When addresses determine master and kind, the two
records agree after every run of calls and transfers, every sub-account has the address derived
from its master and kind, and no master has two of one kind; and whatever is dispatched next,
accepted or refused, leaves them so. -/
theorem subAccounts_indexed (cfg : Config AccountId) (hinj : DerivesInjectively cfg)
    (c : CentralBank.State AccountId L) (is : List (WorldInput AccountId)) :
    let s := run (worldStep cfg) is (genesis c)
    (∀ master subAccount accountType,
      (s.subAccounts.get (master, subAccount) = some accountType ↔
        ∃ record, s.subAccountMeta.get subAccount = some record ∧ record.master = master ∧
          record.accountType = accountType) ∧
      (s.subAccounts.get (master, subAccount) = some accountType →
        subAccount = deriveSubAccount cfg master accountType 0)) ∧
      (∀ master subAccount subAccount' accountType,
        s.subAccounts.get (master, subAccount) = some accountType →
          s.subAccounts.get (master, subAccount') = some accountType →
            subAccount = subAccount') ∧
        ∀ i, Indexed cfg (exec (worldStep cfg) i s) := by
  intro s
  have hi : Indexed cfg s := by
    refine run_invariant (fun _ _ _ hi h => indexed_step hinj hi h) is ⟨?_, ?_⟩
    · intro master subAccount accountType
      refine iff_of_false (by rintro ⟨⟩) ?_
      rintro ⟨_, ⟨⟩, -⟩
    · rintro subAccount record ⟨⟩
  refine ⟨fun master subAccount accountType => ⟨hi.agree _ _ _, fun h => ?_⟩, ?_, fun i => ?_⟩
  · obtain ⟨record, hrecord, rfl, rfl⟩ := (hi.agree _ _ _).mp h
    exact hi.derived subAccount record hrecord
  · intro master subAccount subAccount' accountType h h'
    exact hi.unique h h'
  · exact exec_invariant (fun _ _ _ hi h => indexed_step hinj hi h) hi

/-! ### A sub-account opened twice -/

/-- The bank with bytes as accounts, and addresses that spell out what they are derived from. -/
def spelledOut : Config (List UInt8) where
  centralBank := centralBank [0] [1] fun who _ _ index => who ++ Scale.littleEndian 2 index
  treasuryAccount := [2]
  encodeAccount := id
  hashAccount := id
  verify _ _ _ := false
  proportion := perbillProportion

theorem spelledOut_injective : DerivesInjectively spelledOut := by
  intro master master' accountType accountType' h
  have h' : master ++ [accountType.derivationIndex] ++ Scale.littleEndian 4 0 =
      master' ++ [accountType'.derivationIndex] ++ Scale.littleEndian 4 0 := h
  -- the suffixes have fixed lengths
  obtain ⟨hmaster, hindex⟩ := List.append_inj' (List.append_cancel_right h') rfl
  refine ⟨hmaster, ?_⟩
  cases accountType <;> cases accountType' <;> first | rfl | cases hindex

/-- A citizen opens a savings account and is paid into it; a withdrawal of too much is refused
after the records are gone, one of everything removes them, and the account is opened again. -/
def savingsReopened : List (WorldInput (List UInt8)) :=
  [.call (citizenContext [7] 1, .openMasterAccount),
    .call (citizenContext [7] 1, .openSubAccount .savings),
    .transfer [7] [7, 0, 0, 0, 0, 0] (10 * CentralBank.unit) .keepAlive,
    .call (citizenContext [7] 2, .withdrawFromSavings [7, 0, 0, 0, 0, 0] (20 * CentralBank.unit)),
    .call (citizenContext [7] 3, .withdrawFromSavings [7, 0, 0, 0, 0, 0] (10 * CentralBank.unit)),
    .call (citizenContext [7] 4, .openSubAccount .savings)]

/-- After the run the account is recorded under its address, as it is under its master. -/
theorem subAccounts_indexed_reopened :
    let s := run (worldStep spelledOut) savingsReopened
      (genesis (CentralBank.genesis spelledOut.centralBank []
        (Balances.ofFree [([7], 100 * CentralBank.unit)] : NativeLedger (List UInt8))))
    ∃ record, s.subAccountMeta.get [7, 0, 0, 0, 0, 0] = some record ∧ record.master = [7] ∧
      record.accountType = .savings := by
  intro s
  have hindexed := subAccounts_indexed spelledOut spelledOut_injective
    (CentralBank.genesis spelledOut.centralBank []
      (Balances.ofFree [([7], 100 * CentralBank.unit)] : NativeLedger (List UInt8)))
    savingsReopened
  have hrecorded : s.subAccounts.get ([7], [7, 0, 0, 0, 0, 0]) = some .savings := by
    decide +kernel
  exact (hindexed.1 [7] [7, 0, 0, 0, 0, 0] .savings).1.mp hrecorded

end BankOfSiberia
