import Altan.CentralBank.CreditPool
import Altan.CentralBank.Spec
import Altan.Foundation.TransitionSystem

/-!
# Issuance

What the central bank records against what its calls create and destroy. The record and the
ledger agree as long as every creation has its full effect; burning is not bounded by what was
emitted, and minting is not bounded by the credit limit, so that the audited inequality and
the hard cap depend on the amounts the banking branch asks for.

## Main definitions

* `Balanced`: the ledger's issuance is what genesis and the records say
* `Audited`: no more was burned than emitted
* `Capped`: the issuance is within the genesis issuance and the credit limit

## Main results

* `balanced_throughout_iff`: the issuance ledger holds in the runs all of whose creations have
  their full effect, and in no others
* `audited_throughout_iff`: the audited inequality holds in the runs whose burns are covered by
  emission, and in no others
* `capped_throughout`: the hard cap holds in the runs whose emissions leave room for the whole
  credit pool
* `uncovered_exceeds`: without that room, one loan of what is available breaks the cap
-/

open Bounded Dispatch TransitionSystem Runtime

namespace CentralBank

variable {AccountId L : Type} [DecidableEq AccountId] [Currency AccountId L]
  {cfg : Config AccountId} {s s' : State AccountId L} {m : ℕ}

/-! ### The issuance ledger -/

/-- The total issuance is the genesis issuance `m` with the emitted and outstanding amounts
added and the burned amounts taken away. -/
def Balanced (m : ℕ) (s : State AccountId L) : Prop :=
  Ledger.totalIssuance s.ledger + s.totalBurned = m + s.totalEmitted + s.totalOutstanding

instance : Decidable (Balanced m s) := inferInstanceAs (Decidable (_ = _))

/-- What the extrinsic creates, it creates in full. -/
def CreatesInFull (s : State AccountId L) (x : Extrinsic AccountId) : Prop :=
  match kind x with
  | .emits receiver amount => Ledger.Creatable s.ledger receiver amount
  | .lends operator amount => Ledger.Creatable s.ledger operator amount
  | _ => True

instance (x : Extrinsic AccountId) : Decidable (CreatesInFull s x) := by
  unfold CreatesInFull
  split <;> infer_instance

variable [ProxyModule AccountId L]

/-- One call keeps the issuance ledger just when it creates in full. -/
theorem balanced_step_iff {b : Book cfg} {x : Extrinsic AccountId} (hr : Represents cfg s b)
    (hb : Balanced m s) (h : step cfg x s = .ok s') : Balanced m s' ↔ CreatesInFull s x := by
  have he := step_effect h
  unfold Balanced CreatesInFull at *
  cases hk : kind x with
  | quiet =>
    rw [hk] at he
    have hp : s'.totalOutstanding = s.totalOutstanding :=
      congrArg CreditPool.outstanding he.creditPool
    rw [he.issuance, he.totalEmitted, he.totalBurned, hp]
    exact iff_of_true hb trivial
  -- the record grows by the amount, so the ledger has to
  | emits receiver amount =>
    rw [hk] at he
    have hp : s'.totalOutstanding = s.totalOutstanding :=
      congrArg CreditPool.outstanding he.creditPool
    change _ ↔ Ledger.Creatable s.ledger receiver amount
    rw [← Currency.depositCreating_issuance_iff he.pos, he.ledger, he.totalEmitted,
      he.totalBurned, hp]
    omega
  -- a keep-alive withdrawal destroys exactly its amount
  | burns operator amount =>
    rw [hk] at he
    have hp : s'.totalOutstanding = s.totalOutstanding :=
      congrArg CreditPool.outstanding he.creditPool
    have hd := (Currency.withdraw_keepAlive _ _ _ _ he.ledger).issuance
    rw [he.totalEmitted, he.totalBurned, hp]
    exact iff_of_true (by omega) trivial
  -- the outstanding credit grows by the amount, without clipping
  | lends operator amount =>
    rw [hk] at he
    have hex : RequestExact s operator amount := hr.requestExact he.available
    have hp : s'.totalOutstanding = saturatingAdd u128Max s.totalOutstanding amount :=
      congrArg CreditPool.outstanding he.creditPool
    change _ ↔ Ledger.Creatable s.ledger operator amount
    rw [← Currency.depositCreating_issuance_iff he.pos, he.ledger, he.totalEmitted,
      he.totalBurned, hp, hex.outstanding]
    omega
  | takesBack operator epochId amount =>
    rw [hk] at he
    have hex : RepayExact cfg s operator epochId amount := hr.repayExact he.owed
    have hp : s'.totalOutstanding = s.totalOutstanding - amount :=
      congrArg CreditPool.outstanding he.creditPool
    have hd := (Currency.withdraw_keepAlive _ _ _ _ he.ledger).issuance
    have hle := hex.outstanding
    rw [he.totalEmitted, he.totalBurned, hp]
    exact iff_of_true (by omega) trivial

/-- **The issuance ledger.** It holds throughout the runs all of whose creations have their full
effect, and throughout no other run. -/
theorem balanced_throughout_iff (cfg : Config AccountId)
    (licensedOperators : List (AccountId × Bool)) (l : L) (xs : List (Extrinsic AccountId)) :
    Throughout (step cfg) (Balanced (Ledger.totalIssuance l)) xs
        (genesis cfg licensedOperators l) ↔
      Along (step cfg) CreatesInFull xs (genesis cfg licensedOperators l) := by
  refine throughout_iff_along (J := fun s => ∃ b, Represents cfg s b) ?_ ?_ ?_ ?_
  · rintro x s s' ⟨b, hb⟩ h
    exact hb.step h
  · rintro x s s' ⟨b, hb⟩ hbal h
    exact balanced_step_iff hb hbal h
  · exact ⟨_, genesis_represents licensedOperators l⟩
  · exact Eq.refl (Ledger.totalIssuance l + 0)

/-- An operator without a balance is licensed and receives less than the existential deposit:
the emission is recorded, and nothing is created. -/
theorem dust_mint_unbalanced :
    ¬ Throughout (step (Runtime.centralBank 0 1 fun _ _ _ index => index + 2)) (Balanced 0)
      [(rootContext, .grantOperatorLicense 7), (rootContext, .mintToOperator 7 1)]
      (genesis (Runtime.centralBank 0 1 fun _ _ _ index => index + 2) []
        (default : NativeLedger ℕ)) := by
  decide +kernel

/-! ### The audited inequality -/

/-- No more was burned than emitted. -/
def Audited (s : State AccountId L) : Prop := s.totalBurned ≤ s.totalEmitted

omit [DecidableEq AccountId] [Currency AccountId L] [ProxyModule AccountId L] in
instance : Decidable (Audited s) := inferInstanceAs (Decidable (_ ≤ _))

/-- What happens on the chain: calls to the central bank and transfers between accounts. -/
inductive Input (AccountId : Type)
  | extrinsic (x : Extrinsic AccountId)
  | transfer (source dest : AccountId) (amount : ℕ) (er : ExistenceRequirement)

/-- One input as a step of the state machine. -/
def inputStep (cfg : Config AccountId) (i : Input AccountId) (s : State AccountId L) :
    Result (State AccountId L) :=
  match i with
  | .extrinsic x => step cfg x s
  | .transfer source dest amount er => do
    let ledger ← liftCurrency (Currency.transfer s.ledger source dest amount er)
    return { s with ledger := ledger }

/-- What the input burns was emitted and not yet burned. -/
def BurnsCovered (s : State AccountId L) : Input AccountId → Prop
  | .extrinsic x =>
    match kind x with
    | .burns _ amount => s.totalBurned + amount ≤ s.totalEmitted
    | _ => True
  | .transfer .. => True

/-- One input keeps the audited inequality just when its burn is covered. -/
theorem audited_step_iff {i : Input AccountId} (ha : Audited s)
    (h : inputStep cfg i s = .ok s') : Audited s' ↔ BurnsCovered s i := by
  unfold Audited at *
  cases i with
  -- a transfer moves what was emitted, and no record
  | transfer source dest amount er =>
    simp only [inputStep, liftCurrency_bind_eq_ok, pure_eq_ok] at h
    obtain ⟨ledger, -, rfl⟩ := h
    exact iff_of_true ha trivial
  | extrinsic x =>
    have he := step_effect h
    simp only [BurnsCovered]
    cases hk : kind x with
    | quiet =>
      rw [hk] at he
      rw [he.totalEmitted, he.totalBurned]
      exact iff_of_true ha trivial
    | emits receiver amount =>
      rw [hk] at he
      rw [he.totalEmitted, he.totalBurned]
      exact iff_of_true (Nat.le_add_right_of_le ha) trivial
    | burns operator amount =>
      rw [hk] at he
      rw [he.totalEmitted, he.totalBurned]
    | lends operator amount =>
      rw [hk] at he
      rw [he.totalEmitted, he.totalBurned]
      exact iff_of_true ha trivial
    | takesBack operator epochId amount =>
      rw [hk] at he
      rw [he.totalEmitted, he.totalBurned]
      exact iff_of_true ha trivial

/-- **The audited inequality** holds throughout the runs whose burns are covered by emission,
and throughout no other run. -/
theorem audited_throughout_iff (cfg : Config AccountId)
    (licensedOperators : List (AccountId × Bool)) (l : L) (is : List (Input AccountId)) :
    Throughout (inputStep cfg) Audited is (genesis cfg licensedOperators l) ↔
      Along (inputStep cfg) BurnsCovered is (genesis cfg licensedOperators l) :=
  throughout_iff_along_of_step (fun _ _ _ ha h => audited_step_iff ha h) (Nat.le_refl 0)

/-- An operator borrows from the credit pool and part of the loan is burned: nothing was ever
emitted. -/
theorem credit_burn_unaudited :
    ¬ Throughout (inputStep (Runtime.centralBank 0 1 fun _ _ _ index => index + 2)) Audited
      [.extrinsic (rootContext, .grantOperatorLicense 7),
        .extrinsic (signedContext 7, .requestCredit (10 * unit)),
        .extrinsic (rootContext, .burn 7 unit)]
      (genesis (Runtime.centralBank 0 1 fun _ _ _ index => index + 2) []
        (default : NativeLedger ℕ)) := by
  decide +kernel

/-! ### The hard cap -/

/-- The issuance is within the genesis issuance `m` and the credit limit. -/
def Capped (cfg : Config AccountId) (m : ℕ) (s : State AccountId L) : Prop :=
  Ledger.totalIssuance s.ledger ≤ m + cfg.creditEpochLimit

omit [DecidableEq AccountId] [ProxyModule AccountId L] in
instance : Decidable (Capped cfg m s) := inferInstanceAs (Decidable (_ ≤ _))

/-- What the extrinsic emits leaves room for everything the credit pool can still lend. -/
def LeavesRoom (m : ℕ) (s : State AccountId L) (x : Extrinsic AccountId) : Prop :=
  match kind x with
  | .emits _ amount => Ledger.totalIssuance s.ledger + amount ≤ m + s.totalOutstanding
  | _ => True

instance (x : Extrinsic AccountId) : Decidable (LeavesRoom m s x) := by
  unfold LeavesRoom
  split <;> infer_instance

/-- The issuance is covered by the genesis issuance and the outstanding credit. -/
def Covered (m : ℕ) (s : State AccountId L) : Prop :=
  Ledger.totalIssuance s.ledger ≤ m + s.totalOutstanding

/-- Every call whose emission leaves room keeps the issuance covered: lending adds to both
sides, repaying takes from both. -/
theorem covered_step {b : Book cfg} {x : Extrinsic AccountId} (hr : Represents cfg s b)
    (hc : Covered m s) (hq : LeavesRoom m s x) (h : step cfg x s = .ok s') : Covered m s' := by
  have he := step_effect h
  unfold Covered at *
  simp only [LeavesRoom] at hq
  cases hk : kind x with
  | quiet =>
    rw [hk] at he
    have hp : s'.totalOutstanding = s.totalOutstanding :=
      congrArg CreditPool.outstanding he.creditPool
    rwa [he.issuance, hp]
  -- the only kind that asks for room: no debt comes with it
  | emits receiver amount =>
    rw [hk] at he hq
    have hp : s'.totalOutstanding = s.totalOutstanding :=
      congrArg CreditPool.outstanding he.creditPool
    rw [he.ledger, hp]
    exact (Currency.depositCreating_le s.ledger receiver amount).trans hq
  | burns operator amount =>
    rw [hk] at he
    have hp : s'.totalOutstanding = s.totalOutstanding :=
      congrArg CreditPool.outstanding he.creditPool
    have hd := (Currency.withdraw_keepAlive _ _ _ _ he.ledger).issuance
    omega
  | lends operator amount =>
    rw [hk] at he
    have hex : RequestExact s operator amount := hr.requestExact he.available
    have hp : s'.totalOutstanding = saturatingAdd u128Max s.totalOutstanding amount :=
      congrArg CreditPool.outstanding he.creditPool
    have hle := Currency.depositCreating_le s.ledger operator amount
    rw [he.ledger, hp, hex.outstanding]
    omega
  | takesBack operator epochId amount =>
    rw [hk] at he
    have hex : RepayExact cfg s operator epochId amount := hr.repayExact he.owed
    have hp : s'.totalOutstanding = s.totalOutstanding - amount :=
      congrArg CreditPool.outstanding he.creditPool
    have hd := (Currency.withdraw_keepAlive _ _ _ _ he.ledger).issuance
    have hle := hex.outstanding
    omega

/-- An issuance that is not covered is one loan away from the cap: a licensed operator borrows
whatever is available. -/
theorem uncovered_exceeds {b : Book cfg} {operator : AccountId} {ctx : Context AccountId}
    (hr : Represents cfg s b) (hc : ¬ Covered m s) (hcfg : cfg.optimalUtilization ≠ 0)
    (hctx : ctx.origin = .signed operator) (hlicensed : s.isLicensed operator = true)
    (hopen : s.epochs.containsKey s.currentEpochId = true) (hpos : 0 < s.genesisCreditAvailable)
    (hcreatable : Ledger.Creatable s.ledger operator s.genesisCreditAvailable) :
    ∃ s', step cfg (ctx, .requestCredit s.genesisCreditAvailable) s = .ok s' ∧
      ¬ Capped cfg m s' := by
  obtain ⟨s', hs'⟩ := doRequestCredit_ok hcfg hpos hlicensed (Nat.le_refl _) hopen
  refine ⟨s', requestCredit_eq_ok.mpr ⟨operator, hctx, hs'⟩, ?_⟩
  have hcreated := (Currency.depositCreating_credited _ _ _ hcreatable).issuance
  rw [← (doRequestCredit_lent hs').ledger] at hcreated
  -- the loan turns all that is available into outstanding credit
  have hsum := hr.conserved.1
  unfold Covered at hc
  unfold Capped
  omega

/-- **The hard cap** holds throughout the runs whose emissions leave room for the credit
pool. -/
theorem capped_throughout {licensedOperators : List (AccountId × Bool)} {l : L}
    {xs : List (Extrinsic AccountId)}
    (h : Along (step cfg) (LeavesRoom (Ledger.totalIssuance l)) xs
      (genesis cfg licensedOperators l)) :
    Throughout (step cfg) (Capped cfg (Ledger.totalIssuance l)) xs
      (genesis cfg licensedOperators l) := by
  -- the run keeps the issuance covered; the outstanding credit is within the limit
  have hcovered : Throughout (step cfg)
      (fun s => (∃ b, Represents cfg s b) ∧ Covered (Ledger.totalIssuance l) s) xs
      (genesis cfg licensedOperators l) := by
    refine throughout_of_along ?_ ⟨⟨_, genesis_represents licensedOperators l⟩, ?_⟩ h
    · rintro x s s' ⟨⟨b, hb⟩, hc⟩ hq hs
      exact ⟨hb.step hs, covered_step hb hc hq hs⟩
    · exact Nat.le_refl (Ledger.totalIssuance l)
  refine hcovered.imp ?_
  rintro s ⟨⟨b, hb⟩, hc⟩
  exact hc.trans (Nat.add_le_add_left hb.outstanding_le _)

/-- A run in which what is minted was burned before. -/
theorem capped_throughout_reissue :
    Throughout (step (Runtime.centralBank 0 1 fun _ _ _ index => index + 2))
      (Capped (Runtime.centralBank 0 1 fun _ _ _ index => index + 2) 0)
      [(rootContext, .grantOperatorLicense 7), (signedContext 7, .requestCredit (10 * unit)),
        (rootContext, .burn 7 (5 * unit)), (rootContext, .mintToOperator 7 (5 * unit))]
      (genesis (Runtime.centralBank 0 1 fun _ _ _ index => index + 2) []
        (default : NativeLedger ℕ)) :=
  capped_throughout (l := (default : NativeLedger ℕ)) (by decide +kernel)

/-- The banking branch mints more than the credit limit to one operator. -/
theorem mint_uncapped :
    ¬ Throughout (step (Runtime.centralBank 0 1 fun _ _ _ index => index + 2))
      (Capped (Runtime.centralBank 0 1 fun _ _ _ index => index + 2) 0)
      [(rootContext, .grantOperatorLicense 7),
        (rootContext, .mintToOperator 7 (18900000000000 * unit + 1))]
      (genesis (Runtime.centralBank 0 1 fun _ _ _ index => index + 2) []
        (default : NativeLedger ℕ)) := by
  decide +kernel

end CentralBank
