import Altan.CentralBank.Spec
import Altan.Foundation.CreditBook

/-!
# The credit pool keeps a book of debts

The storage has four counters for the credit pool: what is available, what is outstanding, the
debt of each operator in each epoch, and the total debt of each operator. They are updated one
by one with saturating arithmetic. All four are read off one book of debts within the credit
limit, so that none of the saturating operations ever clips.

## Main definitions

* `Represents cfg s b`: the four counters of `s` are those of the book `b`
* `RequestExact`, `RepayExact`: no operation on the counters clips

## Main results

* `Represents.lend`, `Represents.takeBack`: lending and repaying are the book's operations
* `Represents.step`: every call keeps a represented storage represented
* `Represents.conserved`: the identities between the four counters
-/

open Bounded Dispatch

namespace CentralBank

variable {AccountId L : Type} [DecidableEq AccountId] {cfg : Config AccountId}
  {s s' : State AccountId L} {operator : AccountId} {epochId amount : ℕ}

/-- The book of debts of operators in epochs, within the credit limit. -/
abbrev Book (cfg : Config AccountId) := CreditBook AccountId ℕ cfg.creditEpochLimit

variable {b b' : Book cfg}

/-- The counters of the credit pool are those of a book of debts. -/
structure Represents (cfg : Config AccountId) (s : State AccountId L) (b : Book cfg) : Prop where
  debts : s.operatorDebt = b.debts
  totalDebts : ∀ operator, s.totalDebt operator = b.debtOf operator
  outstanding : s.totalOutstanding = b.outstanding
  available : s.genesisCreditAvailable = b.available

/-- At genesis there are no debts. -/
theorem genesis_represents (licensedOperators : List (AccountId × Bool)) (l : L) :
    Represents cfg (genesis cfg licensedOperators l) CreditBook.empty where
  debts := rfl
  totalDebts _ := StorageMap.getD_empty _ _
  outstanding := rfl
  available := rfl

namespace Represents

theorem debt_eq (h : Represents cfg s b) : s.debt operator epochId = b.debt operator epochId := by
  unfold State.debt CreditBook.debt
  rw [h.debts]

theorem of_creditPool_eq (h : Represents cfg s b) (hp : s'.creditPool = s.creditPool) :
    Represents cfg s' b where
  debts := (congrArg CreditPool.debts hp).trans h.debts
  totalDebts operator :=
    (congrArg (fun p => p.totalDebts.getD operator 0) hp).trans (h.totalDebts operator)
  outstanding := (congrArg CreditPool.outstanding hp).trans h.outstanding
  available := (congrArg CreditPool.available hp).trans h.available

/-- **Conservation.** What is available and what is outstanding make up the limit, and the
outstanding credit is the total of the operators' totals. -/
theorem conserved (h : Represents cfg s b) :
    s.genesisCreditAvailable + s.totalOutstanding = cfg.creditEpochLimit ∧
      s.totalOutstanding = s.totalOperatorDebt.total ∧
        ∀ operator, s.totalDebt operator = s.operatorDebt.rowTotal operator := by
  refine ⟨?_, ?_, fun operator => ?_⟩
  · rw [h.available, h.outstanding]
    exact b.available_add_outstanding
  · rw [h.outstanding]
    exact (StorageMap.total_eq_of_rowTotal h.totalDebts).symm
  · rw [h.totalDebts, h.debts]
    rfl

theorem outstanding_le (h : Represents cfg s b) : s.totalOutstanding ≤ cfg.creditEpochLimit :=
  h.conserved.1 ▸ Nat.le_add_left _ _

end Represents

/-- No operation of a loan on the counters of the pool clips, and the addition to the epoch's
total clips only when the total leaves its range. -/
structure RequestExact (s : State AccountId L) (operator : AccountId) (amount : ℕ) : Prop where
  available : amount ≤ s.genesisCreditAvailable
  outstanding : saturatingAdd u128Max s.totalOutstanding amount = s.totalOutstanding + amount
  debt : saturatingAdd u128Max (s.debt operator s.currentEpochId) amount =
    s.debt operator s.currentEpochId + amount
  totalDebt : saturatingAdd u128Max (s.totalDebt operator) amount = s.totalDebt operator + amount
  totalIssued : ∀ e, s.epochs.get s.currentEpochId = some e →
    (saturatingAdd u128Max e.totalIssued amount = e.totalIssued + amount ↔
      e.totalIssued + amount ≤ u128Max)

/-- No operation of a repayment on the counters of the pool clips, and the addition to the
epoch's total clips only when the total leaves its range. -/
structure RepayExact (cfg : Config AccountId) (s : State AccountId L) (operator : AccountId)
    (epochId amount : ℕ) : Prop where
  available : min (saturatingAdd u128Max s.genesisCreditAvailable amount) cfg.creditEpochLimit =
    s.genesisCreditAvailable + amount
  outstanding : amount ≤ s.totalOutstanding
  debt : amount ≤ s.debt operator epochId
  totalDebt : amount ≤ s.totalDebt operator
  totalRepaid : ∀ e, s.epochs.get epochId = some e →
    (saturatingAdd u128Max e.totalRepaid amount = e.totalRepaid + amount ↔
      e.totalRepaid + amount ≤ u128Max)

namespace Represents

/-- What can be lent can be added to every counter. -/
theorem requestExact (h : Represents cfg s b) (ha : amount ≤ s.genesisCreditAvailable) :
    RequestExact s operator amount := by
  have hlimit := cfg.creditEpochLimit_le
  have hsum := h.conserved.1
  -- every debt is part of what is outstanding, which with the amount is within the limit
  have htotal := b.debtOf_le_outstanding operator
  have hdebt := b.debt_le_outstanding operator s.currentEpochId
  rw [← h.outstanding, ← h.totalDebts] at htotal
  rw [← h.outstanding, ← h.debt_eq] at hdebt
  exact
    { available := ha
      outstanding := saturatingAdd_of_le (by omega)
      debt := saturatingAdd_of_le (by omega)
      totalDebt := saturatingAdd_of_le (by omega)
      totalIssued := fun _ _ => saturatingAdd_eq_iff }

/-- What is owed can be taken from every counter, and fits back into the pool. -/
theorem repayExact (h : Represents cfg s b) (hd : amount ≤ s.debt operator epochId) :
    RepayExact cfg s operator epochId amount := by
  have hlimit := cfg.creditEpochLimit_le
  have hsum := h.conserved.1
  -- a debt in one epoch is part of the total debt and of what is outstanding
  have htotal := b.debt_le_debtOf operator epochId
  have hout := b.debt_le_outstanding operator epochId
  rw [← h.debt_eq, ← h.totalDebts] at htotal
  rw [← h.debt_eq, ← h.outstanding] at hout
  have hadd : saturatingAdd u128Max s.genesisCreditAvailable amount =
      s.genesisCreditAvailable + amount := saturatingAdd_of_le (by omega)
  exact
    { available := by rw [hadd]; exact Nat.min_eq_left (by omega)
      outstanding := by omega
      debt := hd
      totalDebt := by omega
      totalRepaid := fun _ _ => saturatingAdd_eq_iff }

variable [Currency AccountId L]

/-- **Lending** is borrowing from the book. -/
theorem lend (h : Represents cfg s b) (hl : Lent s s' operator amount) :
    ∃ b', b.borrow operator s.currentEpochId amount = some b' ∧ Represents cfg s' b' := by
  have hex : RequestExact s operator amount := h.requestExact hl.available
  have hpool := hl.creditPool
  rw [hex.outstanding, hex.debt, hex.totalDebt] at hpool
  have hfits : amount ≤ b.available := h.available ▸ hl.available
  -- the book lends it too, since the pool and the book have the same available
  obtain ⟨b', hb'⟩ := CreditBook.exists_borrow hfits operator s.currentEpochId
  have hout := CreditBook.outstanding_borrow hb'
  have hsum := b.available_add_outstanding
  have hsum' := b'.available_add_outstanding
  refine ⟨b', hb', ?_, fun operator' => ?_, ?_, ?_⟩
  · rw [(CreditBook.borrow_eq_some.mp hb').2, ← h.debt_eq, ← h.debts]
    exact congrArg CreditPool.debts hpool
  · have ht := congrArg (fun p => p.totalDebts.getD operator' 0) hpool
    rw [CreditBook.debtOf_borrow hb', ← h.totalDebts]
    refine ht.trans (StorageMap.getD_insert.trans ?_)
    by_cases ho : operator' = operator
    · rw [if_pos ho, if_pos ho.symm, ho]
    · rw [if_neg ho, if_neg (Ne.symm ho)]
      rfl
  · rw [hout, ← h.outstanding]
    exact congrArg CreditPool.outstanding hpool
  · have ha : s'.genesisCreditAvailable = s.genesisCreditAvailable - amount :=
      congrArg CreditPool.available hpool
    rw [ha, h.available]
    omega

/-- **A repayment** is one of the book. -/
theorem takeBack (h : Represents cfg s b) (hr : Repaid cfg s s' operator epochId amount) :
    ∃ b', b.repay operator epochId amount = some b' ∧ Represents cfg s' b' := by
  have hex : RepayExact cfg s operator epochId amount := h.repayExact hr.owed
  have hpool := hr.creditPool
  rw [hex.available] at hpool
  -- the book takes it back too, since the debt is the same
  obtain ⟨b', hb'⟩ := CreditBook.exists_repay (h.debt_eq ▸ hr.owed)
  have hout := CreditBook.outstanding_repay hb'
  have hsum := b.available_add_outstanding
  have hsum' := b'.available_add_outstanding
  refine ⟨b', hb', ?_, fun operator' => ?_, ?_, ?_⟩
  · rw [(CreditBook.repay_eq_some.mp hb').2, ← h.debt_eq, ← h.debts]
    exact congrArg CreditPool.debts hpool
  · have ht := congrArg (fun p => p.totalDebts.getD operator' 0) hpool
    rw [CreditBook.debtOf_repay hb', ← h.totalDebts]
    refine ht.trans (StorageMap.getD_insert.trans ?_)
    by_cases ho : operator' = operator
    · rw [if_pos ho, if_pos ho.symm, ho]
    · rw [if_neg ho, if_neg (Ne.symm ho)]
      rfl
  · have ho : s'.totalOutstanding = s.totalOutstanding - amount :=
      congrArg CreditPool.outstanding hpool
    rw [ho, h.outstanding]
    omega
  · have ha : s'.genesisCreditAvailable = s.genesisCreditAvailable + amount :=
      congrArg CreditPool.available hpool
    rw [ha, h.available]
    omega

variable [ProxyModule AccountId L]

/-- **Every call keeps a represented storage represented.** -/
theorem step {x : Extrinsic AccountId} (h : Represents cfg s b)
    (hs : CentralBank.step cfg x s = .ok s') : ∃ b', Represents cfg s' b' := by
  have he := step_effect hs
  cases hk : kind x with
  | quiet =>
    rw [hk] at he
    exact ⟨b, h.of_creditPool_eq he.creditPool⟩
  | emits receiver amount =>
    rw [hk] at he
    exact ⟨b, h.of_creditPool_eq he.creditPool⟩
  | burns operator amount =>
    rw [hk] at he
    exact ⟨b, h.of_creditPool_eq he.creditPool⟩
  | lends operator amount =>
    rw [hk] at he
    obtain ⟨b', -, hb'⟩ := h.lend he
    exact ⟨b', hb'⟩
  | takesBack operator epochId amount =>
    rw [hk] at he
    obtain ⟨b', -, hb'⟩ := h.takeBack he
    exact ⟨b', hb'⟩

end Represents

/-! ### Progress and the epoch totals -/

omit [DecidableEq AccountId] in
/-- The key rate is defined unless the optimal utilization is zero. -/
theorem computeDynamicRate_isSome (h : cfg.optimalUtilization ≠ 0) (outstanding : ℕ) :
    ∃ rate, computeDynamicRate cfg outstanding = some rate := by
  simp only [computeDynamicRate]
  split_ifs
  · exact ⟨0, rfl⟩
  · exact ⟨_, checkedDiv_eq_some.mpr ⟨h, rfl⟩⟩
  · exact ⟨_, rfl⟩
  · next hmax => exact ⟨_, Option.map_eq_some_iff.mpr ⟨_, checkedDiv_eq_some.mpr ⟨hmax, rfl⟩, rfl⟩⟩

/-- What is recorded as issued in an epoch. -/
def State.issuedIn (s : State AccountId L) (epochId : ℕ) : ℕ :=
  (s.epochs.get epochId).elim 0 EpochInfo.totalIssued

omit [DecidableEq AccountId] in
/-- In an open epoch a new key rate can be written, and it changes no total. -/
theorem updateDynamicRate_ok (h : cfg.optimalUtilization ≠ 0)
    (hopen : s.epochs.containsKey s.currentEpochId = true) :
    ∃ s', updateDynamicRate cfg s = .ok s' := by
  obtain ⟨rate, hrate⟩ := computeDynamicRate_isSome h s.totalOutstanding
  obtain ⟨epoch, hepoch⟩ := StorageMap.containsKey_iff.mp hopen
  exact ⟨_, updateDynamicRate_eq_ok.mpr ⟨rate, hrate, epoch, hepoch, rfl⟩⟩

omit [DecidableEq AccountId] in
/-- A new key rate is written to the record of the current epoch. -/
theorem updateDynamicRate_get (h : updateDynamicRate cfg s = .ok s') :
    ∃ rate, ∀ e, s'.epochs.get e = (s.epochs.get e).map fun i =>
      if e = s.currentEpochId then { i with keyRate := rate } else i := by
  obtain ⟨rate, -, epoch, hepoch, rfl⟩ := updateDynamicRate_eq_ok.mp h
  refine ⟨rate, fun e => ?_⟩
  rw [StorageMap.get_insert]
  split
  · next he => rw [he, hepoch, Option.map_some]
  · exact Option.map_id'.symm

section Currency

variable [Currency AccountId L]

/-- **Progress.** A licensed operator can borrow whatever is available. -/
theorem doRequestCredit_ok (hcfg : cfg.optimalUtilization ≠ 0) (hpos : 0 < amount)
    (hlicensed : s.isLicensed operator = true) (ha : amount ≤ s.genesisCreditAvailable)
    (hopen : s.epochs.containsKey s.currentEpochId = true) :
    ∃ s', doRequestCredit cfg operator amount s = .ok s' := by
  simp only [doRequestCredit, ensure_bind_eq_ok]
  refine (updateDynamicRate_ok hcfg ?_).imp fun s' hs' => ⟨hpos, hlicensed, ha, hopen, hs'⟩
  exact StorageMap.containsKey_modify.trans hopen

theorem doRepayCredit_ok {l : L} (hcfg : cfg.optimalUtilization ≠ 0) (hpos : 0 < amount)
    (hopen : s.epochs.containsKey s.currentEpochId = true)
    (hepoch : s.epochs.containsKey epochId = true) (hd : amount ≤ s.debt operator epochId)
    (hfree : amount ≤ Ledger.freeBalance s.ledger operator)
    (hw : Currency.withdraw s.ledger operator amount .keepAlive = .ok l) :
    ∃ s', doRepayCredit cfg operator epochId amount s = .ok s' := by
  simp only [doRepayCredit, ensure_bind_eq_ok, mapError_bind_eq_ok]
  refine (updateDynamicRate_ok hcfg ?_).imp fun s' hs' => ⟨hpos, hepoch, hd, hfree, l, hw, hs'⟩
  exact StorageMap.containsKey_modify.trans hopen

/-- A loan is posted to the current epoch. -/
theorem doRequestCredit_get (h : doRequestCredit cfg operator amount s = .ok s') :
    ∃ rate, ∀ e, s'.epochs.get e = (s.epochs.get e).map fun i =>
      if e = s.currentEpochId then
        { i with
          totalIssued := saturatingAdd u128Max i.totalIssued amount
          keyRate := rate }
      else i := by
  simp only [doRequestCredit, ensure_bind_eq_ok] at h
  obtain ⟨-, -, -, -, hrate⟩ := h
  obtain ⟨rate, hget⟩ := updateDynamicRate_get hrate
  refine ⟨rate, fun e => ?_⟩
  rw [hget, StorageMap.get_modify]
  by_cases he : e = s.currentEpochId
  · simp [he, Function.comp_def]
  · simp only [if_neg he]

/-- A repayment is posted to the epoch of its debt. -/
theorem doRepayCredit_get (h : doRepayCredit cfg operator epochId amount s = .ok s') :
    ∃ rate, ∀ e, s'.epochs.get e = (s.epochs.get e).map fun i =>
      { i with
        totalRepaid :=
          if e = epochId then saturatingAdd u128Max i.totalRepaid amount else i.totalRepaid
        keyRate := if e = s.currentEpochId then rate else i.keyRate } := by
  simp only [doRepayCredit, ensure_bind_eq_ok, mapError_bind_eq_ok] at h
  obtain ⟨-, -, -, -, l, -, hrate⟩ := h
  obtain ⟨rate, hget⟩ := updateDynamicRate_get hrate
  refine ⟨rate, fun e => ?_⟩
  rw [hget, StorageMap.get_modify]
  -- the epoch of the debt may be the current one
  by_cases he : e = epochId
  · rw [if_pos he, he, Option.map_map]
    congr 1
    funext i
    by_cases hc : epochId = s.currentEpochId
    · simp [hc]
    · simp [hc]
  · rw [if_neg he]
    congr 1
    funext i
    by_cases hc : e = s.currentEpochId
    · simp [hc, hc ▸ he]
    · simp [hc, he]

theorem doRequestCredit_containsKey (h : doRequestCredit cfg operator amount s = .ok s') (i : ℕ) :
    s'.epochs.containsKey i = s.epochs.containsKey i := by
  obtain ⟨rate, hget⟩ := doRequestCredit_get h
  exact StorageMap.containsKey_of_get_map (hget i)

theorem doRepayCredit_containsKey (h : doRepayCredit cfg operator epochId amount s = .ok s')
    (i : ℕ) : s'.epochs.containsKey i = s.epochs.containsKey i := by
  obtain ⟨rate, hget⟩ := doRepayCredit_get h
  exact StorageMap.containsKey_of_get_map (hget i)

/-- A loan adds to the epoch's recorded total, clipped at its range. -/
theorem doRequestCredit_issuedIn (h : doRequestCredit cfg operator amount s = .ok s') :
    s'.issuedIn s.currentEpochId = saturatingAdd u128Max (s.issuedIn s.currentEpochId) amount := by
  obtain ⟨rate, hget⟩ := doRequestCredit_get h
  simp only [doRequestCredit, ensure_bind_eq_ok] at h
  obtain ⟨-, -, -, hopen, -⟩ := h
  obtain ⟨epoch, hepoch⟩ := StorageMap.containsKey_iff.mp hopen
  simp [State.issuedIn, hget, hepoch]

/-- A repayment leaves what is recorded as issued. -/
theorem doRepayCredit_issuedIn (h : doRepayCredit cfg operator epochId amount s = .ok s') (i : ℕ) :
    s'.issuedIn i = s.issuedIn i := by
  obtain ⟨rate, hget⟩ := doRepayCredit_get h
  unfold State.issuedIn
  rw [hget]
  cases s.epochs.get i <;> rfl

end Currency

end CentralBank
