import Altan.CentralBank.CreditPool

/-!
# The records of the epochs

Each credit epoch has a record with its rate, its limit, and what was issued and repaid in it. A
loan is posted to the current epoch, a repayment to the epoch its debt is of, and both write a
new rate to the current epoch. A closed epoch only takes repayments.

## Main definitions

* `Entry`, `entry`: what a call posts to the records
* `Posted`: the storage before and after an entry
* `Numbered`: the records are those of the epochs from the first to the current one
* `EpochsKept`: the records are still there, and those of closed epochs are final

## Main results

* `step_posted`: a successful call posts its entry
* `Posted.issuedIn`, `Posted.repaidIn`, `Posted.columnTotal`: what an entry adds to the totals of
  an epoch and to the debts in it
* `Posted.numbered`, `Posted.kept`: what every entry keeps
-/

open Bounded Dispatch

namespace CentralBank

variable {AccountId L : Type} {cfg : Config AccountId} {s s' : State AccountId L}

/-- What is recorded as repaid in an epoch. -/
def State.repaidIn (s : State AccountId L) (epochId : ℕ) : ℕ :=
  (s.epochs.get epochId).elim 0 EpochInfo.totalRepaid

/-- What a call posts to the records of the epochs. -/
inductive Entry (AccountId : Type)
  | nothing
  | opening
  | loan (operator : AccountId) (amount : ℕ)
  | repayment (operator : AccountId) (epochId amount : ℕ)
  deriving DecidableEq, Repr

/-- What the entry adds to what is issued in an epoch, the current one being given. -/
def Entry.issuedIn (currentEpochId e : ℕ) : Entry AccountId → ℕ
  | .loan _ amount => if currentEpochId = e then amount else 0
  | _ => 0

/-- What the entry adds to what is repaid in an epoch. -/
def Entry.repaidIn (e : ℕ) : Entry AccountId → ℕ
  | .repayment _ epochId amount => if epochId = e then amount else 0
  | _ => 0

/-- The entry of an extrinsic. -/
def entry : Extrinsic AccountId → Entry AccountId
  | (_, .transitionEpoch) => .opening
  | (ctx, .requestCredit amount) =>
    match ctx.origin with
    | .signed who => .loan who amount
    | _ => .nothing
  | (ctx, .repayCredit epochId amount) =>
    match ctx.origin with
    | .signed who => .repayment who epochId amount
    | _ => .nothing
  | _ => .nothing

theorem entry_requestCredit {ctx : Context AccountId} {who : AccountId} {amount : ℕ}
    (h : ctx.origin = .signed who) : entry (ctx, .requestCredit amount) = .loan who amount := by
  simp only [entry]
  rw [h]

theorem entry_repayCredit {ctx : Context AccountId} {who : AccountId} {epochId amount : ℕ}
    (h : ctx.origin = .signed who) :
    entry (ctx, .repayCredit epochId amount) = .repayment who epochId amount := by
  simp only [entry]
  rw [h]

/-! ### The calls -/

/-- What the records of the epochs rest on. -/
structure Records (AccountId : Type) where
  epochs : StorageMap ℕ EpochInfo
  currentEpochId : ℕ
  debts : StorageMap (AccountId × ℕ) ℕ

/-- The records in the storage. -/
def State.records (s : State AccountId L) : Records AccountId where
  epochs := s.epochs
  currentEpochId := s.currentEpochId
  debts := s.operatorDebt

/-- A new epoch is opened under the next identifier. -/
def Opened (s s' : State AccountId L) : Prop :=
  ∃ startBlock keyRate creditLimit,
    s'.records = { s.records with
      epochs := s.epochs.insert (saturatingAdd u32Max s.currentEpochId 1)
        { startBlock := startBlock
          keyRate := keyRate
          totalIssued := 0
          totalRepaid := 0
          creditLimit := creditLimit }
      currentEpochId := saturatingAdd u32Max s.currentEpochId 1 }

section Calls

variable [DecidableEq AccountId] [Currency AccountId L]

/-- The storage before and after an entry. -/
def Posted (cfg : Config AccountId) (s s' : State AccountId L) : Entry AccountId → Prop
  | .nothing => s'.records = s.records
  | .opening => Opened s s'
  | .loan operator amount => doRequestCredit cfg operator amount s = .ok s'
  | .repayment operator epochId amount => doRepayCredit cfg operator epochId amount s = .ok s'

variable [ProxyModule AccountId L] {ctx : Context AccountId} {who : AccountId}
  {amount index regionCode : ℕ}

theorem createAndFund_records (h : createAndFund cfg ctx who amount index s = .ok s') :
    s'.records = s.records := by
  obtain ⟨s₁, hs₁, ledger, -, rfl⟩ := createAndFund_eq_ok.mp h
  obtain ⟨-, -, -, -, rfl⟩ := createPure_eq_ok.mp hs₁
  rfl

theorem distributeRegions_records {codes : List ℕ}
    (h : distributeRegions cfg ctx who codes index s = .ok s') : s'.records = s.records := by
  -- the induction is on the codes that are left
  induction codes generalizing index s with
  | nil =>
    rw [distributeRegions, pure_eq_ok] at h
    rw [h]
  | cons code codes ih =>
    rw [distributeRegions, bind_eq_ok] at h
    obtain ⟨s₁, h₁, hrest⟩ := h
    obtain ⟨s₂, h₂, s₃, h₃, rfl⟩ := distributeRegion_eq_ok.mp h₁
    have hfirst := createAndFund_records h₂
    have hsecond := createAndFund_records h₃
    exact (ih hrest).trans (hsecond.trans hfirst)

theorem triggerGenesisDistribution_records (h : triggerGenesisDistribution cfg ctx s = .ok s') :
    s'.records = s.records := by
  obtain ⟨-, -, s₁, h₁, hrest⟩ := triggerGenesisDistribution_eq_ok.mp h
  have hfirst := createAndFund_records h₁
  exact (distributeRegions_records hrest).trans hfirst

/-- **A successful call posts its entry.** -/
theorem step_posted {x : Extrinsic AccountId} (h : step cfg x s = .ok s') :
    Posted cfg s s' (entry x) := by
  obtain ⟨ctx, call⟩ := x
  unfold step at h
  cases call with
  | grantOperatorLicense operator =>
    obtain ⟨-, -, rfl⟩ := grantOperatorLicense_eq_ok.mp h
    rfl
  | revokeOperatorLicense operator =>
    obtain ⟨-, -, rfl⟩ := revokeOperatorLicense_eq_ok.mp h
    rfl
  | mintToOperator operator amount =>
    obtain ⟨-, -, -, -, rfl⟩ := mintToOperator_eq_ok.mp h
    rfl
  | burn operator amount =>
    obtain ⟨-, -, -, -, ledger, -, -, rfl⟩ := burn_eq_ok.mp h
    rfl
  | transitionEpoch =>
    simp only [dispatch, transitionEpoch, doEpochTransition, ensureBankingOrigin_bind_eq_ok,
      required_bind_eq_ok, pure_eq_ok] at h
    obtain ⟨-, rate, -, rfl⟩ := h
    exact ⟨_, rate, _, rfl⟩
  | setBaseRate newRateBps =>
    obtain ⟨-, -, rfl⟩ := setBaseRate_eq_ok.mp h
    rfl
  | requestCredit amount =>
    obtain ⟨who, horigin, hreq⟩ := requestCredit_eq_ok.mp h
    rw [entry_requestCredit horigin]
    exact hreq
  | repayCredit epochId amount =>
    obtain ⟨who, horigin, hrep⟩ := repayCredit_eq_ok.mp h
    rw [entry_repayCredit horigin]
    exact hrep
  | triggerGenesisDistribution => exact triggerGenesisDistribution_records h
  | issueGenesisGrant citizen regionCode =>
    obtain ⟨-, -, -, rfl⟩ := issueGenesisGrant_eq_ok.mp h
    rfl

end Calls

variable [DecidableEq AccountId] [Currency AccountId L] {operator : AccountId}
  {amount epochId : ℕ}

/-! ### The totals of an epoch -/

omit [Currency AccountId L] [DecidableEq AccountId] in
theorem State.issuedIn_of_get {e : ℕ} {i : EpochInfo} (h : s.epochs.get e = some i) :
    s.issuedIn e = i.totalIssued := by
  simp [State.issuedIn, h]

omit [Currency AccountId L] [DecidableEq AccountId] in
theorem State.repaidIn_of_get {e : ℕ} {i : EpochInfo} (h : s.epochs.get e = some i) :
    s.repaidIn e = i.totalRepaid := by
  simp [State.repaidIn, h]

/-- The records are those of the epochs from the first to the current one. -/
def Numbered (s : State AccountId L) : Prop :=
  ∀ e, s.epochs.containsKey e = true ↔ 1 ≤ e ∧ e ≤ s.currentEpochId

/-- The records are still there. Those of epochs before the current one have kept everything but
what is repaid, which has not gone down. -/
def EpochsKept (s s' : State AccountId L) : Prop :=
  s.currentEpochId ≤ s'.currentEpochId ∧
    ∀ e i, e < s.currentEpochId → s.epochs.get e = some i →
      ∃ i', s'.epochs.get e = some i' ∧ i'.startBlock = i.startBlock ∧ i'.keyRate = i.keyRate ∧
        i'.creditLimit = i.creditLimit ∧ i'.totalIssued = i.totalIssued ∧
          i.totalRepaid ≤ i'.totalRepaid

omit [Currency AccountId L] [DecidableEq AccountId] in
theorem EpochsKept.refl (s : State AccountId L) : EpochsKept s s := by
  refine ⟨Nat.le_refl _, fun e i _ hi => ?_⟩
  exact ⟨i, hi, rfl, rfl, rfl, rfl, Nat.le_refl _⟩

omit [Currency AccountId L] [DecidableEq AccountId] in
theorem EpochsKept.trans {s₁ s₂ s₃ : State AccountId L} (h : EpochsKept s₁ s₂)
    (h' : EpochsKept s₂ s₃) : EpochsKept s₁ s₃ := by
  refine ⟨h.1.trans h'.1, fun e i he hi => ?_⟩
  -- an epoch closed before stays closed
  obtain ⟨i₂, hi₂, hb₂, hk₂, hc₂, ht₂, hr₂⟩ := h.2 e i he hi
  obtain ⟨i₃, hi₃, hb₃, hk₃, hc₃, ht₃, hr₃⟩ := h'.2 e i₂ (he.trans_le h.1) hi₂
  exact ⟨i₃, hi₃, hb₃.trans hb₂, hk₃.trans hk₂, hc₃.trans hc₂, ht₃.trans ht₂, hr₂.trans hr₃⟩

omit [Currency AccountId L] in
/-- At genesis there is the record of the first epoch, and nothing is issued in it. -/
theorem genesis_epochs (cfg : Config AccountId) (licensedOperators : List (AccountId × Bool))
    (l : L) (e : ℕ) :
    Numbered (genesis cfg licensedOperators l) ∧
      (genesis cfg licensedOperators l).issuedIn e = 0 ∧
        (genesis cfg licensedOperators l).repaidIn e = 0 ∧
          (genesis cfg licensedOperators l).operatorDebt.columnTotal e = 0 := by
  refine ⟨fun i => ?_, ?_, ?_, rfl⟩
  · unfold StorageMap.containsKey genesis
    rw [StorageMap.get_insert]
    split
    · next hi => simp [hi]
    · next hi =>
      refine iff_of_false (by simp) ?_
      rintro ⟨hlow, hhigh⟩
      exact hi (Nat.le_antisymm hhigh hlow)
  · unfold State.issuedIn genesis
    rw [StorageMap.get_insert]
    split <;> rfl
  · unfold State.repaidIn genesis
    rw [StorageMap.get_insert]
    split <;> rfl

/-- What an entry needs: a new epoch finds an identifier left. -/
def Entry.HasRoom (s : State AccountId L) (entry : Entry AccountId) : Prop :=
  entry = .opening → s.currentEpochId < u32Max

namespace Posted

variable {entry : Entry AccountId} {e : ℕ}

omit [Currency AccountId L] [DecidableEq AccountId] in
/-- What opening an epoch does to the records, when an identifier is left. -/
theorem opened (h : Opened s s') (hroom : s.currentEpochId < u32Max) :
    ∃ i : EpochInfo, i.totalIssued = 0 ∧ i.totalRepaid = 0 ∧
      s'.epochs = s.epochs.insert (s.currentEpochId + 1) i ∧
        s'.currentEpochId = s.currentEpochId + 1 ∧ s'.operatorDebt = s.operatorDebt := by
  obtain ⟨startBlock, keyRate, creditLimit, hrecords⟩ := h
  rw [saturatingAdd_one_of_lt hroom] at hrecords
  exact ⟨_, rfl, rfl, congrArg Records.epochs hrecords, congrArg Records.currentEpochId hrecords,
    congrArg Records.debts hrecords⟩

/-- Only an opening advances the current epoch, by one. -/
theorem currentEpochId_le (h : Posted cfg s s' entry) :
    s'.currentEpochId ≤ s.currentEpochId + if entry = .opening then 1 else 0 := by
  cases entry with
  | nothing =>
    have hcurrent : s'.currentEpochId = s.currentEpochId := congrArg Records.currentEpochId h
    exact hcurrent.le
  | opening =>
    obtain ⟨_, _, _, hrecords⟩ := h
    have hcurrent : s'.currentEpochId = saturatingAdd u32Max s.currentEpochId 1 :=
      congrArg Records.currentEpochId hrecords
    rw [hcurrent]
    exact saturatingAdd_le_add
  | loan operator amount =>
    obtain ⟨-, -, -, hframe⟩ := doRequestCredit_frame h
    rw [hframe]
    exact Nat.le_refl _
  | repayment operator epochId amount =>
    obtain ⟨-, -, l, -, hframe⟩ := doRepayCredit_frame h
    rw [hframe]
    exact Nat.le_refl _

/-- The records stay numbered. -/
theorem numbered (h : Posted cfg s s' entry) (hroom : entry.HasRoom s) (hn : Numbered s) :
    Numbered s' := by
  intro e
  cases entry with
  | nothing =>
    have hepochs : s'.epochs = s.epochs := congrArg Records.epochs h
    have hcurrent : s'.currentEpochId = s.currentEpochId := congrArg Records.currentEpochId h
    rw [hepochs, hcurrent]
    exact hn e
  | opening =>
    obtain ⟨i, -, -, hepochs, hcurrent, -⟩ := opened h (hroom rfl)
    rw [hepochs, hcurrent]
    unfold StorageMap.containsKey
    rw [StorageMap.get_insert]
    -- the new record is the last one
    split
    · next he => simp [he]
    · next he =>
      refine (hn e).trans ?_
      omega
  | loan operator amount =>
    obtain ⟨-, -, -, hframe⟩ := doRequestCredit_frame h
    have hcurrent : s'.currentEpochId = s.currentEpochId := by rw [hframe]
    rw [hcurrent, doRequestCredit_containsKey h]
    exact hn e
  | repayment operator epochId amount =>
    obtain ⟨-, -, l, -, hframe⟩ := doRepayCredit_frame h
    have hcurrent : s'.currentEpochId = s.currentEpochId := by rw [hframe]
    rw [hcurrent, doRepayCredit_containsKey h]
    exact hn e

omit [Currency AccountId L] [DecidableEq AccountId] in
/-- In numbered records the next identifier is free. -/
theorem next_free (hn : Numbered s) : s.epochs.get (s.currentEpochId + 1) = none := by
  rw [← StorageMap.not_containsKey, ← Bool.not_eq_true, hn]
  omega

omit [Currency AccountId L] [DecidableEq AccountId] in
/-- A new record with nothing in it changes no total. -/
theorem total_insert {f : EpochInfo → ℕ} {epochs : StorageMap ℕ EpochInfo} {id : ℕ} {i : EpochInfo}
    (hfree : epochs.get id = none) (hi : f i = 0) (e : ℕ) :
    ((epochs.insert id i).get e).elim 0 f = (epochs.get e).elim 0 f := by
  rw [StorageMap.get_insert]
  split
  · next he =>
    rw [he, hfree]
    exact hi
  · rfl

omit [Currency AccountId L] [DecidableEq AccountId] in
/-- A total of a record to which `w` is added, clipped at its range, if there is a record. -/
theorem total_map {f : EpochInfo → ℕ} {g : EpochInfo → EpochInfo} {record : Option EpochInfo}
    {w : ℕ} (hnone : record = none → w = 0)
    (hsome : ∀ i, record = some i → f (g i) = min (f i + w) u128Max) :
    (record.map g).elim 0 f = min (record.elim 0 f + w) u128Max := by
  cases record with
  | none =>
    rw [hnone rfl]
    exact (Nat.zero_min _).symm
  | some i => exact hsome i rfl

/-- **Issued.** An entry adds what it lends to the total of the current epoch, clipped at its
range. -/
theorem issuedIn (h : Posted cfg s s' entry) (hroom : entry.HasRoom s) (hn : Numbered s)
    (hr : s.issuedIn e ≤ u128Max) :
    s'.issuedIn e = min (s.issuedIn e + entry.issuedIn s.currentEpochId e) u128Max := by
  cases entry with
  | nothing =>
    have hepochs : s'.epochs = s.epochs := congrArg Records.epochs h
    have hsame : s'.issuedIn e = s.issuedIn e := by rw [State.issuedIn, State.issuedIn, hepochs]
    rw [hsame]
    exact (Nat.min_eq_left hr).symm
  | opening =>
    obtain ⟨i, hissued, -, hepochs, -, -⟩ := opened h (hroom rfl)
    have hsame : s'.issuedIn e = s.issuedIn e := by
      unfold State.issuedIn
      rw [hepochs]
      exact total_insert (next_free hn) hissued e
    rw [hsame]
    exact (Nat.min_eq_left hr).symm
  | loan operator amount =>
    obtain ⟨rate, hget⟩ := doRequestCredit_get h
    have hopen : s.epochs.containsKey s.currentEpochId = true := by
      simp only [Posted, doRequestCredit, ensure_bind_eq_ok] at h
      exact h.2.2.2.1
    unfold State.issuedIn
    rw [hget]
    refine total_map (fun hnone => if_neg ?_) fun i hi => ?_
    -- the current epoch has a record, so this is another one
    · rintro rfl
      rw [StorageMap.not_containsKey.mpr hnone] at hopen
      cases hopen
    · rw [State.issuedIn_of_get hi] at hr
      rw [Entry.issuedIn]
      by_cases he : e = s.currentEpochId
      · rw [if_pos he, if_pos he.symm]
        rfl
      · rw [if_neg he, if_neg (Ne.symm he)]
        exact (Nat.min_eq_left hr).symm
  | repayment operator epochId amount =>
    rw [doRepayCredit_issuedIn h]
    exact (Nat.min_eq_left hr).symm

/-- **Repaid.** An entry adds what it takes back to the total of the epoch of the debt, clipped
at its range. -/
theorem repaidIn (h : Posted cfg s s' entry) (hroom : entry.HasRoom s) (hn : Numbered s)
    (hr : s.repaidIn e ≤ u128Max) :
    s'.repaidIn e = min (s.repaidIn e + entry.repaidIn e) u128Max := by
  cases entry with
  | nothing =>
    have hepochs : s'.epochs = s.epochs := congrArg Records.epochs h
    have hsame : s'.repaidIn e = s.repaidIn e := by rw [State.repaidIn, State.repaidIn, hepochs]
    rw [hsame]
    exact (Nat.min_eq_left hr).symm
  | opening =>
    obtain ⟨i, -, hrepaid, hepochs, -, -⟩ := opened h (hroom rfl)
    have hsame : s'.repaidIn e = s.repaidIn e := by
      unfold State.repaidIn
      rw [hepochs]
      exact total_insert (next_free hn) hrepaid e
    rw [hsame]
    exact (Nat.min_eq_left hr).symm
  | loan operator amount =>
    obtain ⟨rate, hget⟩ := doRequestCredit_get h
    unfold State.repaidIn
    rw [hget]
    refine total_map (fun _ => rfl) fun i hi => ?_
    -- a loan writes what is issued and the rate
    rw [State.repaidIn_of_get hi] at hr
    refine Eq.trans ?_ (Nat.min_eq_left hr).symm
    split <;> rfl
  | repayment operator epochId amount =>
    obtain ⟨rate, hget⟩ := doRepayCredit_get h
    have hopen : s.epochs.containsKey epochId = true := by
      simp only [Posted, doRepayCredit, ensure_bind_eq_ok] at h
      exact h.2.1
    unfold State.repaidIn
    rw [hget]
    refine total_map (fun hnone => if_neg ?_) fun i hi => ?_
    -- the epoch of the debt has a record, so this is another one
    · rintro rfl
      rw [StorageMap.not_containsKey.mpr hnone] at hopen
      cases hopen
    · rw [State.repaidIn_of_get hi] at hr
      rw [Entry.repaidIn]
      by_cases he : e = epochId
      · rw [if_pos he.symm]
        exact if_pos he
      · rw [if_neg (Ne.symm he)]
        exact (if_neg he).trans (Nat.min_eq_left hr).symm

/-- **Debts.** An entry adds what it lends to the debts in an epoch, and takes away what it takes
back. -/
theorem columnTotal {b : Book cfg} (h : Posted cfg s s' entry) (hb : Represents cfg s b) :
    s'.operatorDebt.columnTotal e + entry.repaidIn e =
      s.operatorDebt.columnTotal e + entry.issuedIn s.currentEpochId e := by
  cases entry with
  | nothing =>
    have hdebts : s'.operatorDebt = s.operatorDebt := congrArg Records.debts h
    rw [hdebts]
    rfl
  | opening =>
    obtain ⟨_, _, _, hrecords⟩ := h
    have hdebts : s'.operatorDebt = s.operatorDebt := congrArg Records.debts hrecords
    rw [hdebts]
    rfl
  | loan operator amount =>
    obtain ⟨-, -, havailable, hframe⟩ := doRequestCredit_frame h
    have hreq : RequestExact s operator amount := hb.requestExact havailable
    have hexact := hreq.debt
    have hdebts : s'.operatorDebt = s.operatorDebt.insert (operator, s.currentEpochId)
        (s.debt operator s.currentEpochId + amount) := by
      rw [hframe, hexact]
    have hinsert := StorageMap.columnTotal_insert (b := s.operatorDebt) operator s.currentEpochId
      (s.debt operator s.currentEpochId + amount)
    change s.debt operator s.currentEpochId + _ = _ at hinsert
    rw [hdebts]
    simp only [Entry.issuedIn, Entry.repaidIn]
    -- only the column of the current epoch changes
    split
    · next he =>
      rw [← he]
      omega
    · next he => rw [StorageMap.columnTotal_insert_of_ne he]
  | repayment operator epochId amount =>
    obtain ⟨-, hle, l, -, hframe⟩ := doRepayCredit_frame h
    have hdebts : s'.operatorDebt =
        s.operatorDebt.insert (operator, epochId) (s.debt operator epochId - amount) := by
      rw [hframe]
    have hinsert := StorageMap.columnTotal_insert (b := s.operatorDebt) operator epochId
      (s.debt operator epochId - amount)
    change s.debt operator epochId + _ = _ at hinsert
    rw [hdebts]
    simp only [Entry.issuedIn, Entry.repaidIn]
    -- only the column of the epoch of the debt changes
    split
    · next he =>
      rw [← he]
      omega
    · next he => rw [StorageMap.columnTotal_insert_of_ne he]

/-- **Closed epochs are final.** No entry changes a closed epoch, but for what is repaid. -/
theorem kept (h : Posted cfg s s' entry) (hroom : entry.HasRoom s)
    (hr : ∀ e, s.repaidIn e ≤ u128Max) : EpochsKept s s' := by
  cases entry with
  | nothing =>
    have hepochs : s'.epochs = s.epochs := congrArg Records.epochs h
    have hcurrent : s'.currentEpochId = s.currentEpochId := congrArg Records.currentEpochId h
    refine ⟨hcurrent.ge, fun e i _ hi => ?_⟩
    rw [hepochs]
    exact ⟨i, hi, rfl, rfl, rfl, rfl, Nat.le_refl _⟩
  | opening =>
    obtain ⟨_, -, -, hepochs, hcurrent, -⟩ := opened h (hroom rfl)
    refine ⟨by omega, fun e i he hi => ?_⟩
    rw [hepochs, StorageMap.get_insert_of_ne (by omega)]
    exact ⟨i, hi, rfl, rfl, rfl, rfl, Nat.le_refl _⟩
  | loan operator amount =>
    obtain ⟨-, -, -, hframe⟩ := doRequestCredit_frame h
    have hcurrent : s'.currentEpochId = s.currentEpochId := by rw [hframe]
    obtain ⟨rate, hget⟩ := doRequestCredit_get h
    refine ⟨hcurrent.ge, fun e i he hi => ?_⟩
    rw [hget, hi, Option.map_some, if_neg (Nat.ne_of_lt he)]
    exact ⟨i, rfl, rfl, rfl, rfl, rfl, Nat.le_refl _⟩
  | repayment operator epochId amount =>
    obtain ⟨-, -, l, -, hframe⟩ := doRepayCredit_frame h
    have hcurrent : s'.currentEpochId = s.currentEpochId := by rw [hframe]
    obtain ⟨rate, hget⟩ := doRepayCredit_get h
    refine ⟨hcurrent.ge, fun e i he hi => ?_⟩
    rw [hget, hi, Option.map_some]
    -- the rate is that of another epoch, the limit and what is issued are not touched
    refine ⟨_, rfl, rfl, if_neg (Nat.ne_of_lt he), rfl, rfl, ?_⟩
    have hle := hr e
    rw [State.repaidIn_of_get hi] at hle
    show i.totalRepaid ≤
      if e = epochId then saturatingAdd u128Max i.totalRepaid amount else i.totalRepaid
    split
    · exact Nat.le_min.mpr ⟨Nat.le_add_right _ _, hle⟩
    · exact Nat.le_refl _

end Posted

end CentralBank
