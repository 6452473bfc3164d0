import Altan.BankOfSiberia.Spec
import Altan.BankOfSiberia.Treasury
import Altan.Foundation.TransitionSystem

/-!
# The signatures of the bank server

Taking collateral back and drawing a cash advance need a signature of the bank server. The two
calls build the same message, of the caller, the amount and the nonce, and share the table of
used nonces: a signature moves funds at most once, but in either call, whatever the server
signed it for.

## Main definitions

* `Uses nonce`: the call carries a signature with this nonce
* `Payable`: the ledger accepts a payment from the treasury
* `Refused`: a call fails

## Main results

* `payload_injective`: a message is for one account, amount and nonce
* `accepted_uses_le_one`: a nonce is used at most once
* `used_iff`: the used nonces are those of the calls accepted so far
* `signature_crosses_iff`: when a signature for one of the two calls is refused by the other
* `unlock_signature_draws_advance`: a signature that lets collateral be taken back draws an
  advance
-/

open Bounded Dispatch TransitionSystem Runtime

namespace BankOfSiberia

variable {AccountId L : Type}

/-- The call carries a signature of the bank server with this nonce. -/
def Uses (nonce : ℕ) (x : Extrinsic AccountId) : Prop :=
  match x.2 with
  | .claimCashAdvance _ n _ | .unlockCollateral _ n _ => n = nonce
  | _ => False

instance (nonce : ℕ) (x : Extrinsic AccountId) : Decidable (Uses nonce x) := by
  unfold Uses
  split <;> infer_instance

/-- **What a message says.** Where accounts are encoded injectively in a fixed number of bytes, a
message determines the account, the amount and the nonce it is for, and nothing else. -/
theorem payload_injective {cfg : Config AccountId} {who who' : AccountId}
    {amount amount' nonce nonce' : ℕ}
    (hlength : (cfg.encodeAccount who).length = (cfg.encodeAccount who').length)
    (hencode : Function.Injective cfg.encodeAccount)
    (hamount : amount ≤ u128Max) (hamount' : amount' ≤ u128Max)
    (hnonce : nonce ≤ u64Max) (hnonce' : nonce' ≤ u64Max)
    (h : payload cfg who amount nonce = payload cfg who' amount' nonce') :
    who = who' ∧ amount = amount' ∧ nonce = nonce' := by
  unfold payload at h
  -- the widths are fixed, so the three components can be told apart
  obtain ⟨hfront, hlast⟩ := List.append_inj h (by
    rw [List.length_append, List.length_append, hlength, Scale.length_littleEndian,
      Scale.length_littleEndian])
  obtain ⟨hfirst, hmiddle⟩ := List.append_inj hfront hlength
  refine ⟨hencode hfirst, ?_, ?_⟩
  · exact Scale.littleEndian_injective (Nat.lt_of_le_of_lt hamount (by decide))
      (Nat.lt_of_le_of_lt hamount' (by decide)) hmiddle
  · exact Scale.littleEndian_injective (Nat.lt_of_le_of_lt hnonce (by decide))
      (Nat.lt_of_le_of_lt hnonce' (by decide)) hlast

section Nonces

variable [DecidableEq AccountId] [Currency AccountId L] [LockableCurrency AccountId L]
  {cfg : Config AccountId} {s s' : State AccountId L} {nonce : ℕ}

omit [DecidableEq AccountId] [Currency AccountId L] [LockableCurrency AccountId L] in
/-- A call that writes nothing to the table of nonces leaves each of them as it was. -/
theorem nonce_kept {x : Extrinsic AccountId} (hx : ¬ Uses nonce x)
    (hnonces : s'.usedNonces = s.usedNonces) :
    (Uses nonce x ∧ s.usedNonces.getD nonce false = false ∧
        s'.usedNonces.getD nonce false = true) ∨
      (¬ Uses nonce x ∧ s'.usedNonces.getD nonce false = s.usedNonces.getD nonce false) := by
  rw [hnonces]
  exact Or.inr ⟨hx, rfl⟩

omit [DecidableEq AccountId] [Currency AccountId L] [LockableCurrency AccountId L] in
/-- A call that uses up the nonce `n` leaves every other nonce as it was. -/
theorem nonce_consumed {x : Extrinsic AccountId} {n : ℕ} (hx : Uses nonce x ↔ n = nonce)
    (hunused : s.usedNonces.getD n false = false)
    (hnonces : s'.usedNonces = s.usedNonces.insert n true) :
    (Uses nonce x ∧ s.usedNonces.getD nonce false = false ∧
        s'.usedNonces.getD nonce false = true) ∨
      (¬ Uses nonce x ∧ s'.usedNonces.getD nonce false = s.usedNonces.getD nonce false) := by
  rw [hx, hnonces, StorageMap.getD_insert]
  by_cases hn : n = nonce
  · rw [if_pos hn.symm, ← hn]
    exact Or.inl ⟨rfl, hunused, rfl⟩
  · rw [if_neg (Ne.symm hn)]
    exact Or.inr ⟨hn, rfl⟩

/-- A call with a nonce finds it unused and uses it up; no other call touches the table. -/
theorem step_nonces {x : Extrinsic AccountId} (h : step cfg x s = .ok s') :
    (Uses nonce x ∧ s.usedNonces.getD nonce false = false ∧
        s'.usedNonces.getD nonce false = true) ∨
      (¬ Uses nonce x ∧ s'.usedNonces.getD nonce false = s.usedNonces.getD nonce false) := by
  have heffect := step_treasury h
  obtain ⟨ctx, call⟩ := x
  cases call with
  | claimCashAdvance amount n bankSignature =>
    obtain ⟨_, _, hunused, _, hcontracts, _⟩ := heffect
    exact nonce_consumed Iff.rfl hunused (congrArg Contracts.nonces hcontracts)
  | unlockCollateral amount n bankSignature =>
    obtain ⟨_, _, hunused, _, _, hcontracts, _⟩ := heffect
    exact nonce_consumed Iff.rfl hunused (congrArg Contracts.nonces hcontracts)
  | createEscrow counterparty amount itemHash =>
    obtain ⟨_, _, _, _, _, hcontracts, _⟩ := heffect
    exact nonce_kept id (congrArg Contracts.nonces hcontracts)
  | openTimeDeposit amount durationBlocks documentHash =>
    obtain ⟨_, _, _, _, _, hcontracts, _⟩ := heffect
    exact nonce_kept id (congrArg Contracts.nonces hcontracts)
  | claimTimeDeposit depositId =>
    obtain ⟨_, _, _, _, _, hcontracts, _⟩ := heffect
    exact nonce_kept id (congrArg Contracts.nonces hcontracts)
  | releaseEscrow escrowId =>
    obtain ⟨_, _, _, hcontracts, _⟩ := heffect
    exact nonce_kept id (congrArg Contracts.nonces hcontracts)
  | refundEscrow escrowId =>
    obtain ⟨_, _, _, hcontracts, _⟩ := heffect
    exact nonce_kept id (congrArg Contracts.nonces hcontracts)
  | approveLoan loanId =>
    obtain ⟨_, _, hcontracts, _⟩ := heffect
    exact nonce_kept id (congrArg Contracts.nonces hcontracts)
  | withdrawFromSavings _ amount | payCredit _ amount | fundTreasury amount
  | repayCashAdvance amount | lockCollateral amount =>
    obtain ⟨_, _, hcontracts, _⟩ := heffect
    exact nonce_kept id (congrArg Contracts.nonces hcontracts)
  | _ => exact nonce_kept id (congrArg Contracts.nonces heffect.1)

omit [DecidableEq AccountId] [Currency AccountId L] [LockableCurrency AccountId L] in
/-- The nonce has not been used. -/
def Unused (nonce : ℕ) (s : State AccountId L) : Prop := s.usedNonces.getD nonce false = false

/-- **Single use.** A nonce is used at most once in a run. -/
theorem accepted_uses_le_one (cfg : Config AccountId) (nonce : ℕ)
    (xs : List (Extrinsic AccountId)) (s : State AccountId L) :
    accepted (step cfg) (Uses nonce) xs s ≤ 1 := by
  have hneed : ∀ x (s s' : State AccountId L), Uses nonce x → step cfg x s = .ok s' →
      Unused nonce s := by
    intro x s s' hx h
    rcases step_nonces h with ⟨_, hunused, _⟩ | ⟨hn, _⟩
    · exact hunused
    · exact absurd hx hn
  have huse : ∀ x (s s' : State AccountId L), Uses nonce x → step cfg x s = .ok s' →
      ¬ Unused nonce s' := by
    intro x s s' hx h hunused
    rcases step_nonces h with ⟨_, _, hused⟩ | ⟨hn, _⟩
    · exact absurd (hused.symm.trans hunused) (by decide)
    · exact hn hx
  have hgone : ∀ x (s s' : State AccountId L), ¬ Unused nonce s → step cfg x s = .ok s' →
      ¬ Unused nonce s' := by
    intro x s s' hgone h hunused
    rcases step_nonces h with ⟨_, hfree, _⟩ | ⟨_, heq⟩
    · exact hgone hfree
    · exact hgone (heq.symm.trans hunused)
  exact accepted_le_one hneed huse hgone xs s

/-- **The used nonces** are those already used at the start and those of the accepted calls. -/
theorem used_iff (cfg : Config AccountId) (nonce : ℕ) (xs : List (Extrinsic AccountId))
    (s : State AccountId L) :
    (run (step cfg) xs s).usedNonces.getD nonce false = true ↔
      s.usedNonces.getD nonce false = true ∨ 0 < accepted (step cfg) (Uses nonce) xs s := by
  -- on the inputs, from any table of nonces
  induction xs generalizing s with
  | nil => simp [accepted]
  | cons x xs ih =>
    rw [run_cons, ih]
    cases hx : step cfg x s with
    | error e => rw [exec_error hx, accepted_cons_error hx]
    | ok s₁ =>
      rw [exec_ok hx, accepted_cons_ok hx]
      -- an accepted call with the nonce has used it, any other leaves it
      rcases step_nonces hx with ⟨hu, _, hused⟩ | ⟨hu, heq⟩
      · rw [if_pos hu]
        exact iff_of_true (Or.inl hused) (Or.inr (by omega))
      · rw [if_neg hu, heq, Nat.zero_add]

end Nonces

section Crossing

variable [DecidableEq AccountId] [Currency AccountId L] [LockableCurrency AccountId L]

/-- The ledger accepts a payment from the treasury that keeps it alive. -/
def Payable (cfg : Config AccountId) (s : State AccountId L) (who : AccountId) (amount : ℕ) :
    Prop :=
  ∃ l, Currency.transfer s.ledger cfg.treasuryAccount who amount .keepAlive = .ok l

/-- The call fails. -/
def Refused (cfg : Config AccountId) (s : State AccountId L) (x : Extrinsic AccountId) : Prop :=
  ∀ s', step cfg x s ≠ .ok s'

variable {cfg : Config AccountId} {s s' : State AccountId L} {ctx : Context AccountId}
  {who : AccountId} {amount nonce : ℕ} {bankSignature : MultiSignature}

/-- Given a signature of the server, an advance needs a fresh nonce and funds. -/
theorem advance_refused_iff (hsigner : ctx.origin = .signed who)
    (hsignature : Signed cfg who amount nonce bankSignature s) :
    Refused cfg s (ctx, .claimCashAdvance amount nonce bankSignature) ↔
      s.usedNonces.getD nonce false = true ∨ ¬ Payable cfg s who amount := by
  constructor
  · intro h
    by_contra hc
    obtain ⟨hunused, hpay⟩ := not_or.mp hc
    obtain ⟨l, hl⟩ := not_not.mp hpay
    -- all checks pass and the payment goes through
    exact h _ (claimCashAdvance_eq_ok.mpr
      ⟨who, hsigner, Bool.eq_false_iff.mpr hunused, hsignature, l, hl, rfl⟩)
  · intro h s' hs'
    obtain ⟨who', hsigner', hunused, _, l, hl, _⟩ := claimCashAdvance_eq_ok.mp hs'
    rw [hsigner] at hsigner'
    rw [← Origin.signed.inj hsigner'] at hl
    rcases h with hused | hpay
    · rw [hused] at hunused
      cases hunused
    · exact hpay ⟨l, hl⟩

/-- Given a signature of the server, taking collateral back needs a fresh nonce, an amount within
the collateral, and funds. -/
theorem unlock_refused_iff (hsigner : ctx.origin = .signed who)
    (hsignature : Signed cfg who amount nonce bankSignature s) :
    Refused cfg s (ctx, .unlockCollateral amount nonce bankSignature) ↔
      amount = 0 ∨ s.usedNonces.getD nonce false = true ∨ s.collateral who < amount ∨
        ¬ Payable cfg s who amount := by
  constructor
  · intro h
    by_contra hc
    simp only [not_or, not_not] at hc
    obtain ⟨hpos, hunused, hle, l, hl⟩ := hc
    exact h _ (unlockCollateral_eq_ok.mpr ⟨who, hsigner, Nat.pos_of_ne_zero hpos,
      Bool.eq_false_iff.mpr hunused, hsignature, Nat.not_lt.mp hle, l, hl, rfl⟩)
  · intro h s' hs'
    obtain ⟨who', hsigner', hpos, hunused, _, hle, l, hl, _⟩ := unlockCollateral_eq_ok.mp hs'
    rw [hsigner] at hsigner'
    rw [← Origin.signed.inj hsigner'] at hl hle
    rcases h with hzero | hused | hlt | hpay
    · exact Nat.pos_iff_ne_zero.mp hpos hzero
    · rw [hused] at hunused
      cases hunused
    · exact Nat.not_lt.mpr hle hlt
    · exact hpay ⟨l, hl⟩

/-- **What a signature of the bank server authorises.** After every run, a signature of the
server for the caller, an amount and a nonce, whichever of the two calls it was made for, is
refused by `claim_cash_advance` exactly when its nonce was used before in the run or the treasury
cannot pay, and by `unlock_collateral` exactly when moreover the amount is zero or beyond the
caller's collateral. In the whole run at most one call with the nonce is accepted. -/
theorem signature_crosses_iff (cfg : Config AccountId) (c : CentralBank.State AccountId L)
    (xs : List (Extrinsic AccountId)) (ctx : Context AccountId) (who : AccountId)
    (amount nonce : ℕ) (bankSignature : MultiSignature) (hsigner : ctx.origin = .signed who)
    (hsignature : Signed cfg who amount nonce bankSignature (run (step cfg) xs (genesis c))) :
    let s := run (step cfg) xs (genesis c)
    let uses := accepted (step cfg) (Uses nonce) xs (genesis c)
    (Refused cfg s (ctx, .claimCashAdvance amount nonce bankSignature) ↔
        0 < uses ∨ ¬ Payable cfg s who amount) ∧
      (Refused cfg s (ctx, .unlockCollateral amount nonce bankSignature) ↔
        amount = 0 ∨ 0 < uses ∨ s.collateral who < amount ∨ ¬ Payable cfg s who amount) ∧
      uses ≤ 1 := by
  intro s uses
  -- the table starts empty, so its nonces are those of the run
  have hused : s.usedNonces.getD nonce false = true ↔ 0 < uses := by
    have hiff := used_iff cfg nonce xs (genesis c)
    rw [hiff]
    exact or_iff_right Bool.false_ne_true
  refine ⟨?_, ?_, accepted_uses_le_one cfg nonce xs _⟩
  · rw [advance_refused_iff hsigner hsignature, hused]
  · rw [unlock_refused_iff hsigner hsignature, hused]

end Crossing

/-- The server's key is set to the account 9, and a citizen puts up collateral. -/
def collateralLocked : List (Extrinsic ℕ) :=
  [(officerContext 1, .setBankServerKey 9),
    (citizenContext 7 1, .lockCollateral (100 * CentralBank.unit))]

/-- What the server signs to let the citizen take half of the collateral back. -/
def halfBack : MultiSignature := serverSignature 9 7 (50 * CentralBank.unit) 1

/-- The storage when the server has signed. -/
def beforeHalfBack : State ℕ (NativeLedger ℕ) :=
  run (step bankOfSiberia) collateralLocked bankGenesis

theorem halfBack_signed :
    Signed bankOfSiberia 7 (50 * CentralBank.unit) 1 halfBack beforeHalfBack :=
  ⟨9, by decide +kernel, Scale.littleEndian 32 9, by decide +kernel, by decide +kernel⟩

/-- The law at the signature for the collateral. -/
theorem signature_crosses_halfBack :
    (Refused bankOfSiberia beforeHalfBack
        (citizenContext 7 2, .claimCashAdvance (50 * CentralBank.unit) 1 halfBack) ↔
      ¬ Payable bankOfSiberia beforeHalfBack 7 (50 * CentralBank.unit)) ∧
    (Refused bankOfSiberia beforeHalfBack
        (citizenContext 7 2, .unlockCollateral (50 * CentralBank.unit) 1 halfBack) ↔
      ¬ Payable bankOfSiberia beforeHalfBack 7 (50 * CentralBank.unit)) := by
  have h := signature_crosses_iff bankOfSiberia bankGenesis.centralBank collateralLocked
    (citizenContext 7 2) 7 (50 * CentralBank.unit) 1 halfBack rfl halfBack_signed
  have huses : ¬ 0 < accepted (step bankOfSiberia) (Uses 1) collateralLocked
      (genesis bankGenesis.centralBank) := by decide +kernel
  have hle : ¬ beforeHalfBack.collateral 7 < 50 * CentralBank.unit := by decide +kernel
  refine ⟨h.1.trans (or_iff_right huses), h.2.1.trans ?_⟩
  rw [or_iff_right (by decide), or_iff_right huses]
  exact or_iff_right hle

/-- The signature that lets half of the collateral be taken back draws an advance instead: the
treasury pays it, and the whole collateral stays recorded. -/
theorem unlock_signature_draws_advance :
    Signed bankOfSiberia 7 (50 * CentralBank.unit) 1 halfBack beforeHalfBack ∧
      ∃ s', step bankOfSiberia
          (citizenContext 7 2, .claimCashAdvance (50 * CentralBank.unit) 1 halfBack)
          beforeHalfBack = .ok s' ∧
        s'.funds bankOfSiberia + 50 * CentralBank.unit = beforeHalfBack.funds bankOfSiberia ∧
        s'.collateral 7 = 100 * CentralBank.unit := by
  refine ⟨halfBack_signed, ?_⟩
  have hok : (step bankOfSiberia
      (citizenContext 7 2, .claimCashAdvance (50 * CentralBank.unit) 1 halfBack)
      beforeHalfBack).isOk = true := by decide +kernel
  obtain ⟨s', hs'⟩ := exists_ok hok
  refine ⟨s', hs', ?_⟩
  rw [← exec_ok hs']
  constructor <;> decide +kernel

end BankOfSiberia
