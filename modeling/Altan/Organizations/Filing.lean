import Mathlib.Algebra.BigOperators.Intervals
import Altan.Organizations.Activation
import Altan.Organizations.Freezes

/-!
# The tax period and the calendar

A tax return is filed in the first months of a year, but the tax period is counted in blocks since
the last one: it is over after three hundred and sixty-five days. An organization that files every
year is spared when it files no later in a year than it did in the year before, and a day earlier
after a leap year. Otherwise it may be punished in the filing period, before it files.

## Main definitions

* `yearOf`, `secondOfYear`: a time in the calendar
* `Yearly`, `Timely`: a tax return is filed in the year of the last one, or in the next, and not
  later
* `Clocked`: inputs in blocks six seconds apart
* `RuntimeInput.filed`, `Registers`: the inputs that settle the tax period of an organization
* `FreezesFor`: an input freezes somebody on account of an organization

## Main results

* `seconds_eq`: a time is what has passed of its year, and the years before
* `Timely.elapsed`: what is filed in time is filed in the tax period
* `due`: the tax period is not over before a tax return that is filed in time
* `timely_spared`: an organization that files in time is never delinquent
-/

open Bounded Dispatch TransitionSystem

namespace Organizations

/-! ### The calendar -/

/-- The year of a time in seconds. -/
def yearOf (secs : ℕ) : ℕ := (yearAndDay 1970 (secs / 86400)).1

/-- The seconds of its year that have passed. -/
def secondOfYear (secs : ℕ) : ℕ := (yearAndDay 1970 (secs / 86400)).2 * 86400 + secs % 86400

/-- The days of the years before the year of a day are counted from its place there. -/
theorem yearAndDay_spec (year days : ℕ) : year ≤ (yearAndDay year days).1 ∧
    days = ∑ y ∈ Finset.Ico year (yearAndDay year days).1, daysInYear y +
      (yearAndDay year days).2 := by
  induction year, days using yearAndDay.induct with
  | case1 year days hlt =>
    rw [yearAndDay, if_pos hlt, Finset.Ico_self, Finset.sum_empty, Nat.zero_add]
    exact ⟨Nat.le_refl _, rfl⟩
  | case2 year days hlt ih =>
    obtain ⟨hle, hdays⟩ := ih
    rw [yearAndDay, if_neg hlt]
    refine ⟨Nat.le_of_succ_le hle, ?_⟩
    rw [Finset.sum_eq_sum_Ico_succ_bot hle]
    omega

/-- **A time is what has passed of its year, and the years before.** -/
theorem seconds_eq (secs : ℕ) :
    secs = (∑ y ∈ Finset.Ico 1970 (yearOf secs), daysInYear y) * 86400 + secondOfYear secs := by
  obtain ⟨-, hdays⟩ := yearAndDay_spec 1970 (secs / 86400)
  unfold yearOf secondOfYear
  omega

/-- A tax return is filed in the year of the last one, or in the next. -/
def Yearly (last now : ℕ) : Prop := yearOf now = yearOf last ∨ yearOf now = yearOf last + 1

/-- A tax return is filed in the year of the last one, or in the next and then no later in the year,
or a day earlier if the last was in a leap year. -/
def Timely (last now : ℕ) : Prop :=
  yearOf now = yearOf last ∨ yearOf now = yearOf last + 1 ∧
    secondOfYear now + (if isLeapYear (yearOf last) then 86400 else 0) ≤ secondOfYear last

/-- The filing period is in the first hundred and six days. -/
theorem secondOfYear_of_period {secs : ℕ} (h : ensureWithinFilingPeriod secs = .ok ()) :
    secondOfYear secs < 106 * 86400 := by
  unfold ensureWithinFilingPeriod at h
  split at h
  · next hzero =>
    subst hzero
    unfold secondOfYear
    rw [Nat.zero_div, yearAndDay, if_pos (daysInYear_pos 1970)]
    decide
  · have hday := (ensure_eq_ok.mp h)
    unfold secondOfYear
    split at hday <;> omega

/-- **What is filed in time is filed in the tax period.** -/
theorem Timely.elapsed {last now : ℕ} (h : Timely last now)
    (hperiod : ensureWithinFilingPeriod now = .ok ()) : now ≤ last + 365 * 86400 := by
  have hnow := seconds_eq now
  have hlast := seconds_eq last
  have hearly := secondOfYear_of_period hperiod
  rcases h with hsame | ⟨hnext, hnot⟩
  · rw [hsame] at hnow
    omega
  · have hle : 1970 ≤ yearOf last := (yearAndDay_spec 1970 (last / 86400)).1
    rw [hnext, Finset.sum_Ico_succ_top hle] at hnow
    by_cases hleap : isLeapYear (yearOf last) = true
    · rw [daysInYear.eq_def (yearOf last), if_pos hleap] at hnow
      rw [if_pos hleap] at hnot
      omega
    · rw [daysInYear.eq_def (yearOf last), if_neg hleap] at hnow
      rw [if_neg hleap] at hnot
      omega

/-! ### Blocks -/

section Blocks

variable {AccountId L C V : Type}

/-- The block after an input in a block: the scan begins the next. -/
def RuntimeInput.blockAfter (n : ℕ) : RuntimeInput AccountId L C V → ℕ
  | .org (.onInitialize _) => n + 1
  | _ => n

/-- An input in a block, six seconds after the one before, from a time on. -/
def RuntimeInput.At (start n : ℕ) : RuntimeInput AccountId L C V → Prop
  | .org (.onInitialize now) => now = n + 1
  | .org (.call ctx _) => ctx.now = n ∧ ctx.nowSecs = start + 6 * n
  | .elsewhere .. => True

/-- Inputs in blocks six seconds apart, of which each begins with the scan. -/
def Clocked (start : ℕ) : ℕ → List (RuntimeInput AccountId L C V) → Prop
  | _, [] => True
  | n, x :: xs => x.At start n ∧ Clocked start (x.blockAfter n) xs

/-- The organization for which an input files a tax return. -/
def RuntimeInput.filed : RuntimeInput AccountId L C V → Option ℕ
  | .org (.call _ (.fileTaxReturn orgId ..)) => some orgId
  | .org (.call _ (.fileTaxReturnZk orgId ..)) => some orgId
  | _ => none

/-- The registration of an organization under a number. -/
def Registers (orgId : ℕ) (s : State AccountId L C V) : RuntimeInput AccountId L C V → Prop
  | .org (.call _ (.registerOrganization ..)) => s.nextOrgId = orgId
  | _ => False

/-- The block of the last tax return, or of the registration, and the block now. -/
structure Dates where
  last : ℕ
  now : ℕ

/-- The dates after an input. -/
def recordDates (orgId : ℕ) (_ : State AccountId L C V) (x : RuntimeInput AccountId L C V)
    (d : Dates) : Dates where
  last := if x.filed = some orgId then d.now else d.last
  now := x.blockAfter d.now

/-- A tax return is filed at a time that is as it should be after the last. -/
def FiledWhen (R : ℕ → ℕ → Prop) (start orgId : ℕ) (t : State AccountId L C V × Dates)
    (x : RuntimeInput AccountId L C V) : Prop :=
  x.filed = some orgId → R (start + 6 * t.2.last) (start + 6 * t.2.now)

end Blocks

/-! ### The last tax return -/

section Paid

variable {AccountId L C V : Type} {cfg : Config AccountId L C V} {ctx : Context AccountId}
  {s s' : State AccountId L C V} {orgId start n : ℕ} {x : RuntimeInput AccountId L C V}

/-- The block an organization has paid until. -/
def State.lastPaid (s : State AccountId L C V) (orgId : ℕ) : Option ℕ :=
  (s.organizations.get orgId).map Organization.lastTaxPeriodPaid

theorem lastPaid_of_get {org : Organization AccountId}
    (h : s.organizations.get orgId = some org) :
    s.lastPaid orgId = some org.lastTaxPeriodPaid := by
  rw [State.lastPaid, h]
  rfl

theorem lastPaid_congr (h : s'.organizations = s.organizations) :
    s'.lastPaid orgId = s.lastPaid orgId := by
  rw [State.lastPaid, h, State.lastPaid]

/-- Writing an organization that has paid as long as before. -/
theorem lastPaid_insert {org org' : Organization AccountId} {id : ℕ}
    (hget : s.organizations.get id = some org)
    (h : s'.organizations = s.organizations.insert id org')
    (hpaid : org'.lastTaxPeriodPaid = org.lastTaxPeriodPaid) :
    s'.lastPaid orgId = s.lastPaid orgId := by
  rw [State.lastPaid, h, StorageMap.map_get_insert hget hpaid, State.lastPaid]

/-- Writing another organization. -/
theorem lastPaid_insert_of_ne {org : Organization AccountId} {id : ℕ} (hid : id ≠ orgId)
    (h : s'.organizations = s.organizations.insert id org) :
    s'.lastPaid orgId = s.lastPaid orgId := by
  rw [State.lastPaid, h, StorageMap.get_insert_of_ne hid.symm, State.lastPaid]

/-- A tax return that is entered is one of an organization that has paid until then, and is not
delinquent. -/
theorem declareTax_paid {declaration : TaxDeclaration} {ledger : L} {vaults : V}
    (h : declareTax declaration { s with vaults := vaults, ledger := ledger } = .ok s') :
    s'.lastPaid declaration.orgId = some declaration.timestamp ∧
      s'.status declaration.orgId ≠ some .delinquent ∧
        ∀ id, declaration.orgId ≠ id → s'.lastPaid id = s.lastPaid id := by
  obtain ⟨org, -, rfl⟩ := declareTax_eq_ok.mp h
  refine ⟨by rw [lastPaid_of_get StorageMap.get_insert_self], ?_, fun id hid =>
    lastPaid_insert_of_ne hid rfl⟩
  rw [status_insert rfl, if_pos rfl]
  intro hdelinquent
  have hstatus := Option.some.inj hdelinquent
  dsimp only at hstatus
  split at hstatus
  · cases hstatus
  · next hnot => exact hnot hstatus

variable [DecidableEq AccountId]

theorem applyPunishment_lastPaid (cfg : Config AccountId L C V) (id now : ℕ)
    (s : State AccountId L C V) :
    (applyPunishment cfg id now s).1.lastPaid orgId = s.lastPaid orgId := by
  by_cases hpunishable : Punishable cfg now s id
  · obtain ⟨org, hget, hactive, hoverdue⟩ := hpunishable
    obtain ⟨debt, last, he⟩ := applyPunishment_of_punishable hget hactive hoverdue
    rw [he]
    exact lastPaid_insert hget rfl rfl
  · obtain ⟨debt, last, he⟩ := applyPunishment_of_not hpunishable
    rw [he]
    rfl

theorem scan_lastPaid (cfg : Config AccountId L C V) (now : ℕ) (ids : List ℕ)
    (s : State AccountId L C V) :
    (ids.foldl (fun s id => scanOrg cfg now id s) s).lastPaid orgId = s.lastPaid orgId := by
  induction ids generalizing s with
  | nil => rfl
  | cons id ids ih =>
    rw [List.foldl_cons, ih, scanOrg]
    split
    · split
      · exact applyPunishment_lastPaid cfg id now s
      · rfl
    · rfl

variable [Currency AccountId L]

/-- **A tax return is filed in the filing period**, and the organization has paid until then. -/
theorem filed_paid (hat : x.At start n) (hx : x.filed = some orgId)
    (h : runtimeStep cfg x s = .ok s') : ensureWithinFilingPeriod (start + 6 * n) = .ok () ∧
      s'.lastPaid orgId = some n ∧ s'.status orgId ≠ some .delinquent := by
  unfold RuntimeInput.filed at hx
  split at hx
  · obtain rfl := Option.some.inj hx
    obtain ⟨hperiod, declaration, ledger, rfl, htime, hdeclare⟩ := fileTaxReturn_declareTax h
    obtain ⟨hpaid, hstatus, -⟩ := declareTax_paid hdeclare
    exact ⟨hat.2 ▸ hperiod, by rw [hpaid, htime, hat.1], hstatus⟩
  · obtain rfl := Option.some.inj hx
    obtain ⟨hperiod, declaration, ledger, vaults, rfl, htime, hdeclare⟩ :=
      fileTaxReturnZk_declareTax h
    obtain ⟨hpaid, hstatus, -⟩ := declareTax_paid hdeclare
    exact ⟨hat.2 ▸ hperiod, by rw [hpaid, htime, hat.1], hstatus⟩
  · cases hx

/-- **Nothing else changes until when an organization has paid**, but its registration. -/
theorem lastPaid_of_step (hx : x.filed ≠ some orgId) (hnew : ¬ Registers orgId s x)
    (h : runtimeStep cfg x s = .ok s') : s'.lastPaid orgId = s.lastPaid orgId := by
  cases x with
  | elsewhere ledger citizens vaults =>
    obtain rfl := Except.ok.inj h
    rfl
  | org x =>
    cases x with
    | onInitialize now =>
      obtain ⟨cursor, he⟩ := onInitialize_eq cfg now s
      rw [← Except.ok.inj h, he]
      exact scan_lastPaid cfg now (scannedOrgs cfg s) s
    | call ctx c =>
      cases c with
      | registerOrganization name hqRegion requiredFounders =>
        obtain ⟨caller, -, -, bounded, -, rfl⟩ := registerOrganization_eq_ok.mp h
        exact lastPaid_insert_of_ne hnew rfl
      | activateOrganization id =>
        obtain ⟨org, hget, -, hkept | hactive⟩ := activateOrganization_organizations h
        · exact lastPaid_congr hkept
        · exact lastPaid_insert hget hactive rfl
      | addCrewMember id member role regionAssigned =>
        exact lastPaid_congr (addCrewMember_organizations h)
      | fileTaxReturn id regionId declaredProfit amount documentHash =>
        obtain ⟨-, declaration, ledger, rfl, -, hdeclare⟩ := fileTaxReturn_declareTax h
        exact (declareTax_paid hdeclare).2.2 orgId fun heq => hx (congrArg some heq)
      | reportTaxEvasion id =>
        obtain ⟨reporter, -, org, -, -, -, -, rfl⟩ := reportTaxEvasion_eq_ok.mp h
        exact applyPunishment_lastPaid cfg id ctx.now s
      | freezeOrganization id =>
        obtain ⟨-, org, hget, rfl⟩ := freezeOrganization_eq_ok.mp h
        exact lastPaid_insert hget rfl rfl
      | fileTaxReturnZk id regionId declaredProfit nullifier commitment amountPaid documentHash =>
        obtain ⟨-, declaration, ledger, vaults, rfl, -, hdeclare⟩ := fileTaxReturnZk_declareTax h
        exact (declareTax_paid hdeclare).2.2 orgId fun heq => hx (congrArg some heq)
      | spendOrgFunds id beneficiary amount =>
        exact lastPaid_congr (spendOrgFunds_organizations h)

end Paid

/-! ### Runs -/

section Runs

variable {AccountId L C V : Type} [DecidableEq AccountId] [Currency AccountId L]
  {cfg : Config AccountId L C V} {s s' : State AccountId L C V} {orgId start : ℕ} {d : Dates}
  {x y : RuntimeInput AccountId L C V} {xs : List (RuntimeInput AccountId L C V)}

omit [DecidableEq AccountId] [Currency AccountId L] in
theorem blockAfter_le (n : ℕ) (x : RuntimeInput AccountId L C V) : n ≤ x.blockAfter n := by
  unfold RuntimeInput.blockAfter
  split
  · exact Nat.le_succ n
  · exact Nat.le_refl n

/-- The scan is not refused. -/
theorem blockAfter_of_error {e : DispatchError Error} (n : ℕ)
    (h : runtimeStep cfg x s = .error e) : x.blockAfter n = n := by
  unfold RuntimeInput.blockAfter
  split
  · cases h
  · rfl

/-- **A tax return that is filed in time is filed in the tax period.** -/
theorem elapsed_of_filed (hat : x.At start d.now) (hx : x.filed = some orgId)
    (hs : runtimeStep cfg x s = .ok s') (htimely : FiledWhen Timely start orgId (s, d) x) :
    d.now ≤ d.last + 5256000 := by
  have helapsed := (htimely hx).elapsed (filed_paid hat hx hs).1
  dsimp only at helapsed
  omega

/-- An input that is accepted is recorded. -/
theorem recording_ok (hs : runtimeStep cfg x s = .ok s') :
    recording (recordDates orgId) (runtimeStep cfg) x (s, d) =
      .ok (s', recordDates orgId s x d) :=
  recording_eq_ok.mpr ⟨hs, rfl⟩

/-- The run after an input that is accepted, with the dates. -/
theorem along_recording_ok {Q : State AccountId L C V × Dates → RuntimeInput AccountId L C V → Prop}
    (hs : runtimeStep cfg y s = .ok s')
    (h : Along (recording (recordDates orgId) (runtimeStep cfg)) Q (y :: xs) (s, d)) :
    Along (recording (recordDates orgId) (runtimeStep cfg)) Q xs
      (s', recordDates orgId s y d) := by
  have hrest := h.2
  rwa [exec_ok (recording_ok hs)] at hrest

/-- The run after one that is refused. -/
theorem along_recording_error {e : DispatchError Error}
    {Q : State AccountId L C V × Dates → RuntimeInput AccountId L C V → Prop}
    (hs : runtimeStep cfg y s = .error e)
    (h : Along (recording (recordDates orgId) (runtimeStep cfg)) Q (y :: xs) (s, d)) :
    Along (recording (recordDates orgId) (runtimeStep cfg)) Q xs (s, d) := by
  have hrest := h.2
  have hrefused : recording (recordDates orgId) (runtimeStep cfg) y (s, d) = .error e := by
    rw [recording, hs]
    rfl
  rwa [exec_error hrefused] at hrest

/-- **The tax period is not over before a tax return that is filed in time.** The induction is on
the run until then. -/
theorem due (hclock : Clocked start d.now (xs ++ [x])) (hx : x.filed = some orgId)
    (hs : runtimeStep cfg x (run (runtimeStep cfg) xs s) = .ok s')
    (htimely : Along (recording (recordDates orgId) (runtimeStep cfg))
      (FiledWhen Timely start orgId) (xs ++ [x]) (s, d)) : d.now ≤ d.last + 5256000 := by
  induction xs generalizing s d with
  | nil =>
    exact elapsed_of_filed hclock.1 hx hs (htimely.1 _ (recording_ok hs))
  | cons y ys ih =>
    obtain ⟨hat, hrest⟩ := hclock
    rw [run_cons] at hs
    rcases exec_cases (runtimeStep cfg) y s with ⟨t, ht, he⟩ | ⟨e, ht, he⟩
    · rw [he] at hs
      by_cases hy : y.filed = some orgId
      · exact elapsed_of_filed hat hy ht (htimely.1 _ (recording_ok ht))
      · have hlater := ih (d := recordDates orgId s y d) hrest hs (along_recording_ok ht htimely)
        simp only [recordDates, if_neg hy] at hlater
        exact (blockAfter_le d.now y).trans hlater
    · rw [he] at hs
      rw [blockAfter_of_error d.now ht] at hrest
      exact ih hrest hs (along_recording_error ht htimely)

end Runs

/-! ### Who is spared -/

section Spared

variable {AccountId L V : Type} [DecidableEq AccountId] {orgId start n last : ℕ}
  {cfg : Config AccountId L (Identity.State AccountId Unit) V}
  {s s' : State AccountId L (Identity.State AccountId Unit) V}
  {x : RuntimeInput AccountId L (Identity.State AccountId Unit) V}
  {xs : List (RuntimeInput AccountId L (Identity.State AccountId Unit) V)}

/-- An input freezes somebody on account of an organization. -/
def FreezesFor (cfg : Config AccountId L (Identity.State AccountId Unit) V) (orgId : ℕ)
    (s : State AccountId L (Identity.State AccountId Unit) V)
    (x : RuntimeInput AccountId L (Identity.State AccountId Unit) V) (who : AccountId) : Prop :=
  orgId ∈ (inspected cfg s x).2 ∧ Caught cfg (inspected cfg s x).1 [orgId] s who

/-- An input that looks at an organization finds it unpunishable. -/
def Spares (cfg : Config AccountId L (Identity.State AccountId Unit) V) (orgId : ℕ)
    (s : State AccountId L (Identity.State AccountId Unit) V)
    (x : RuntimeInput AccountId L (Identity.State AccountId Unit) V) : Prop :=
  orgId ∈ (inspected cfg s x).2 → ¬ Punishable cfg (inspected cfg s x).1 s orgId

omit [DecidableEq AccountId] in
/-- A tax return looks at no organization. -/
theorem inspected_of_filed (hx : x.filed = some orgId) : (inspected cfg s x).2 = [] := by
  unfold RuntimeInput.filed at hx
  split at hx
  · rfl
  · rfl
  · cases hx

theorem Spares.not_freezesFor (h : Spares cfg orgId s x) (who : AccountId) :
    ¬ FreezesFor cfg orgId s x who := by
  rintro ⟨hid, hcaught⟩
  exact h hid (caught_singleton.mp hcaught).1

omit [DecidableEq AccountId] in
/-- An input looks at organizations in its own block. -/
theorem inspected_block (hat : x.At start n) (hid : orgId ∈ (inspected cfg s x).2) :
    (inspected cfg s x).1 = x.blockAfter n := by
  unfold inspected at hid ⊢
  split at hid
  · exact hat
  · exact hat.1
  · cases hid

omit [DecidableEq AccountId] in
/-- An input that looks at an organization in its tax period spares it. -/
theorem spares_of_paid (htax : cfg.taxPeriodBlocks = 5256000) (hat : x.At start n)
    (hpaid : s.lastPaid orgId = some last) (hdue : x.blockAfter n ≤ last + 5256000) :
    Spares cfg orgId s x := by
  rintro hid ⟨org, hget, -, hoverdue⟩
  obtain rfl := Option.some.inj ((lastPaid_of_get hget).symm.trans hpaid)
  rw [Overdue, htax, inspected_block hat hid] at hoverdue
  omega

variable [Currency AccountId L]

/-- **An organization that is spared does not become delinquent.** -/
theorem status_of_step (hcfg : FreezesCitizens cfg) (hx : x.filed ≠ some orgId)
    (hnew : ¬ Registers orgId s x) (hspares : Spares cfg orgId s x)
    (h : runtimeStep cfg x s = .ok s') (hs : s.status orgId ≠ some .delinquent) :
    s'.status orgId ≠ some .delinquent := by
  intro hdelinquent
  cases x with
  | elsewhere ledger citizens vaults =>
    obtain rfl := Except.ok.inj h
    exact hs hdelinquent
  | org x =>
    cases step_turn h orgId with
    | same hsame => exact hs (hsame ▸ hdelinquent)
    | settled hsettled =>
      unfold settled at hsettled
      split at hsettled
      · exact hnew (Option.some.inj hsettled)
      · exact hx hsettled
      · exact hx hsettled
      · cases hsettled
    | activated _ hactive => cases hactive.symm.trans hdelinquent
    | detected hdetected =>
      rcases step_punished hcfg h with hpunished | ⟨-, hnot⟩
      · obtain ⟨hid, hpunishable⟩ := hpunished.detected.mp hdetected
        exact hspares hid hpunishable
      · exact hnot orgId hdetected
    | frozen hfrozen => cases hfrozen.symm.trans hdelinquent

/-- **Run lemma.** An organization that files in time until it files is not delinquent, and nobody
is frozen on its account. The induction is on the run until then. -/
theorem spared_of_timely (hcfg : FreezesCitizens cfg) (htax : cfg.taxPeriodBlocks = 5256000)
    {d : Dates} (hpaid : s.lastPaid orgId = some d.last) (hs : s.status orgId ≠ some .delinquent)
    (hclock : Clocked start d.now (xs ++ [x])) (hx : x.filed = some orgId)
    (hfiled : runtimeStep cfg x (run (runtimeStep cfg) xs s) = .ok s')
    (hagain : Along (runtimeStep cfg) (fun t y => ¬ Registers orgId t y) xs s)
    (htimely : Along (recording (recordDates orgId) (runtimeStep cfg))
      (FiledWhen Timely start orgId) (xs ++ [x]) (s, d)) :
    Throughout (runtimeStep cfg) (fun t => t.status orgId ≠ some .delinquent) (xs ++ [x]) s ∧
      Along (runtimeStep cfg) (fun t y => ∀ who, ¬ FreezesFor cfg orgId t y who) (xs ++ [x]) s := by
  induction xs generalizing s d with
  | nil =>
    rw [run_nil] at hfiled
    obtain ⟨hat, -⟩ := hclock
    obtain ⟨-, -, hafter⟩ := filed_paid hat hx hfiled
    refine ⟨⟨hs, ?_⟩, fun _ _ who => ?_, trivial⟩
    · rw [exec_ok hfiled]
      exact hafter
    · refine Spares.not_freezesFor (fun hid => ?_) who
      rw [inspected_of_filed hx] at hid
      cases hid
  | cons y ys ih =>
    obtain ⟨hat, hrest⟩ := hclock
    obtain ⟨hnew, hagain⟩ := hagain
    rw [run_cons] at hfiled
    rcases exec_cases (runtimeStep cfg) y s with ⟨t, ht, he⟩ | ⟨e, ht, he⟩
    · rw [he] at hfiled hagain
      have hthen := along_recording_ok ht htimely
      have hdue := due hrest hx hfiled hthen
      have hafter := ih (s := t) (d := recordDates orgId s y d)
      by_cases hy : y.filed = some orgId
      -- the tax period starts again
      · obtain ⟨-, hpaid', hstatus⟩ := filed_paid hat hy ht
        have hlast : (recordDates orgId s y d).last = d.now := if_pos hy
        obtain ⟨hthroughout, hspared⟩ := hafter (by rw [hlast, hpaid']) hstatus hrest hfiled hagain
          hthen
        refine ⟨⟨hs, ?_⟩, fun _ _ who => Spares.not_freezesFor (fun hid => ?_) who, ?_⟩
        · rwa [he]
        · rw [inspected_of_filed hy] at hid
          cases hid
        · rwa [he]
      -- the next tax return is still in time
      · have hlast : (recordDates orgId s y d).last = d.last := if_neg hy
        rw [hlast] at hdue
        have hspares := spares_of_paid htax hat hpaid hdue
        have hstatus := status_of_step hcfg hy (hnew t ht) hspares ht hs
        obtain ⟨hthroughout, hspared⟩ := hafter
          (by rw [hlast, lastPaid_of_step hy (hnew t ht) ht, hpaid]) hstatus hrest hfiled hagain
          hthen
        refine ⟨⟨hs, ?_⟩, fun _ _ => hspares.not_freezesFor, ?_⟩
        · rwa [he]
        · rwa [he]
    · rw [he] at hfiled hagain
      rw [blockAfter_of_error d.now ht] at hrest
      obtain ⟨hthroughout, hspared⟩ := ih hpaid hs hrest hfiled hagain
        (along_recording_error ht htimely)
      refine ⟨⟨hs, ?_⟩, fun t ht' => ?_, ?_⟩
      · rwa [he]
      · cases ht.symm.trans ht'
      · rwa [he]

end Spared

/-- A number below the last is given once. -/
theorem registered_once {AccountId L C V : Type} [DecidableEq AccountId] [Currency AccountId L]
    {cfg : Config AccountId L C V} {s : State AccountId L C V} {orgId : ℕ} (hk : Kept cfg s)
    (hgiven : orgId < s.nextOrgId) (xs : List (RuntimeInput AccountId L C V)) :
    Along (runtimeStep cfg) (fun t y => ¬ Registers orgId t y) xs s := by
  refine along_of_invariant (J := fun t => Kept cfg t ∧ orgId < t.nextOrgId)
    (G := fun _ _ => True) (fun x t t' ht _ hs => ?_) (fun x t t' ht _ _ hx => ?_) ⟨hk, hgiven⟩
    (along_true xs s)
  · exact ⟨kept_runtimeStep ht.1 hs, ht.2.trans_le (nextOrgId_le ht.1 hs)⟩
  · unfold Registers at hx
    split at hx
    · exact Nat.lt_irrefl _ (hx ▸ ht.2)
    · exact hx

/-- The life of an organization from its registration to one of its tax returns, in blocks six
seconds apart. Every tax return comes as it should after the one before, or after the registration,
and the number is not given again, which only the last can be. -/
structure Life {AccountId L C V : Type} [DecidableEq AccountId] [Currency AccountId L]
    (R : ℕ → ℕ → Prop) (cfg : Config AccountId L C V) (start : ℕ) (s₀ : State AccountId L C V) where
  ctx : Context AccountId
  name : List UInt8
  hqRegion : ℕ
  requiredFounders : ℕ
  registered : State AccountId L C V
  inputs : List (RuntimeInput AccountId L C V)
  final : RuntimeInput AccountId L C V
  registers : registerOrganization cfg ctx name hqRegion requiredFounders s₀ = .ok registered
  clocked : Clocked start ctx.now (inputs ++ [final])
  files : final.filed = some s₀.nextOrgId
  accepted : ∃ s', runtimeStep cfg final (run (runtimeStep cfg) inputs registered) = .ok s'
  filed : Along (recording (recordDates s₀.nextOrgId) (runtimeStep cfg))
    (FiledWhen R start s₀.nextOrgId) (inputs ++ [final]) (registered, ⟨ctx.now, ctx.now⟩)
  once : s₀.nextOrgId = u32Max →
    Along (runtimeStep cfg) (fun t y => ¬ Registers s₀.nextOrgId t y) inputs registered

/-- **An organization that files in time is spared.** Between its registration and its tax returns
it is never delinquent, and nobody is frozen on its account. -/
theorem timely_spared {AccountId L : Type} [DecidableEq AccountId] [Currency AccountId L]
    (decode : List UInt8 → AccountId) (order : IterationOrder AccountId)
    (regionTreasury confederationTreasury : AccountId) (ledger : L)
    (citizens : Identity.State AccountId Unit) (vaults : ShieldedVaults.State Unit)
    (ys : List (RuntimeInput AccountId L (Identity.State AccountId Unit)
      (ShieldedVaults.State Unit)))
    {cfg : Config AccountId L (Identity.State AccountId Unit) (ShieldedVaults.State Unit)}
    (hcfg : cfg = Runtime.organization decode order regionTreasury confederationTreasury)
    {s₀ : State AccountId L (Identity.State AccountId Unit) (ShieldedVaults.State Unit)}
    (hs₀ : run (runtimeStep cfg) ys (genesis ledger citizens vaults) = s₀) (start : ℕ)
    (life : Life Timely cfg start s₀) :
    Throughout (runtimeStep cfg) (fun t => t.status s₀.nextOrgId ≠ some .delinquent)
        (life.inputs ++ [life.final]) life.registered ∧
      Along (runtimeStep cfg) (fun t y => ∀ who, ¬ FreezesFor cfg s₀.nextOrgId t y who)
        (life.inputs ++ [life.final]) life.registered := by
  obtain ⟨ctx, name, hqRegion, requiredFounders, s, xs, x, hs, hclock, hx, ⟨s', hfiled⟩, htimely,
    hlast⟩ := life
  have hk : Kept cfg s₀ := hs₀ ▸ kept_run ys (kept_genesis ledger citizens vaults)
  have hk' := hk.register hs
  obtain ⟨caller, -, -, bounded, -, rfl⟩ := registerOrganization_eq_ok.mp hs
  refine spared_of_timely (hcfg ▸ organization_freezesCitizens _ _ _ _) (hcfg ▸ rfl) ?_ ?_ hclock hx
    hfiled ?_ htimely
  · rw [lastPaid_of_get StorageMap.get_insert_self]
  · rw [status_insert rfl, if_pos rfl]
    exact fun h => by cases h
  · rcases Nat.lt_or_ge s₀.nextOrgId u32Max with hlt | hge
    · refine registered_once hk' ?_ xs
      dsimp only
      rw [saturatingAdd_one_of_lt hlt]
      exact Nat.lt_succ_self _
    · exact hlast (Nat.le_antisymm hk.next hge)

/-! ### In the small world -/

section Idle

variable {AccountId L C V : Type} [DecidableEq AccountId] [Currency AccountId L]
  {cfg : Config AccountId L C V} {s : State AccountId L C V} {n last start : ℕ}
  {zs : List (RuntimeInput AccountId L C V)}

/-- The scans of so many blocks. -/
def scans (n m : ℕ) : List (RuntimeInput AccountId L C V) :=
  (List.range' (n + 1) m).map fun now => .org (.onInitialize now)

omit [Currency AccountId L] in
/-- The scan of the only organization does nothing in its tax period. -/
theorem onInitialize_idle {org : Organization AccountId} (hnext : s.nextOrgId = 1)
    (hcursor : s.orgScanCursor = 0) (hmax : cfg.maxOrgsPerBlock ≠ 0)
    (hget : s.organizations.get 0 = some org) (hnot : ¬ Overdue cfg n org) :
    onInitialize cfg n s = s := by
  obtain ⟨rounds, hrounds⟩ := Nat.exists_eq_succ_of_ne_zero hmax
  have hscan : scanOrg cfg n 0 s = s := by
    simp only [scanOrg, hget, applyPunishment, if_neg hnot, ite_self]
  rw [onInitialize, hnext, hcursor, hrounds, scan, Nat.mod_one, hscan]
  simp only [Nat.one_ne_zero, if_false, Nat.zero_add, Nat.le_refl, if_true]
  rw [← hcursor]

/-- The scans of so many blocks do nothing. -/
def Idle (cfg : Config AccountId L C V) (s : State AccountId L C V) (n m : ℕ) : Prop :=
  ∀ k, n < k → k ≤ n + m → onInitialize cfg k s = s

omit [DecidableEq AccountId] [Currency AccountId L] in
theorem scans_succ (n m : ℕ) : (scans n (m + 1) : List (RuntimeInput AccountId L C V)) =
    .org (.onInitialize (n + 1)) :: scans (n + 1) m := rfl

omit [Currency AccountId L] in
theorem Idle.tail {m : ℕ} (h : Idle cfg s n (m + 1)) : Idle cfg s (n + 1) m :=
  fun k hlt hle => h k (by omega) (by omega)

theorem Idle.exec {m : ℕ} (h : Idle cfg s n (m + 1)) :
    runtimeStep cfg (.org (.onInitialize (n + 1))) s = .ok s :=
  congrArg Except.ok (h (n + 1) (by omega) (by omega))

theorem Idle.run {m : ℕ} (h : Idle cfg s n m) :
    TransitionSystem.run (runtimeStep cfg) (scans n m) s = s := by
  induction m generalizing n with
  | zero => rfl
  | succ m ih =>
    rw [scans_succ, run_cons, exec_ok h.exec]
    exact ih h.tail

omit [DecidableEq AccountId] [Currency AccountId L] in
theorem clocked_scans {m : ℕ} (h : Clocked start (n + m) zs) :
    Clocked start n (scans n m ++ zs) := by
  induction m generalizing n with
  | zero => exact h
  | succ m ih =>
    have hnow : n + 1 + m = n + (m + 1) := Nat.add_right_comm n 1 m
    exact ⟨rfl, ih (hnow ▸ h)⟩

/-- Nobody files a tax return in a scan. -/
theorem Idle.filed {R : ℕ → ℕ → Prop} {orgId m : ℕ} (h : Idle cfg s n m)
    (hrest : Along (recording (recordDates orgId) (runtimeStep cfg)) (FiledWhen R start orgId) zs
      (s, ⟨last, n + m⟩)) :
    Along (recording (recordDates orgId) (runtimeStep cfg)) (FiledWhen R start orgId)
      (scans n m ++ zs) (s, ⟨last, n⟩) := by
  induction m generalizing n with
  | zero => exact hrest
  | succ m ih =>
    have hnow : n + 1 + m = n + (m + 1) := Nat.add_right_comm n 1 m
    rw [scans_succ, List.cons_append]
    refine ⟨(fun _ _ hfiled => by cases hfiled), ?_⟩
    rw [exec_ok (recording_ok h.exec)]
    exact ih h.tail (hnow ▸ hrest)

end Idle

/-- The account 7 and the account of the first organization have a thousand units each, as the
treasuries. -/
def funded : Runtime.OrgState :=
  genesis (Balances.ofFree ([3, 4, 7, deriveOrgAccount Runtime.orgs 0].map fun account =>
    (account, 1000 * CentralBank.unit))) (Identity.genesis ()) (ShieldedVaults.genesis ())

/-- The second of January 2023. -/
def newYear : ℕ := 1672617600

/-- The account 7 registers an organization, -/
def filer : Runtime.OrgState :=
  run (runtimeStep Runtime.orgs)
    [.org (.call ⟨.signed 7, 0, newYear⟩ (.registerOrganization [] 0 1))] funded

/-- activates it, -/
def activated : RuntimeInput ℕ (Runtime.NativeLedger ℕ) (Identity.State ℕ Unit)
    (ShieldedVaults.State Unit) :=
  .org (.call ⟨.signed 7, 0, newYear⟩ (.activateOrganization 0))

/-- and files a tax return in a block. -/
def filedAt (n : ℕ) : RuntimeInput ℕ (Runtime.NativeLedger ℕ) (Identity.State ℕ Unit)
    (ShieldedVaults.State Unit) :=
  .org (.call ⟨.signed 7, n, newYear + 6 * n⟩
    (.fileTaxReturn 0 0 0 (20 * CentralBank.unit) (.ofNat 0)))

theorem filer_eq : registerOrganization Runtime.orgs ⟨.signed 7, 0, newYear⟩ [] 0 1 funded =
    .ok filer := rfl

/-- The organization is active. -/
def operating : Runtime.OrgState := run (runtimeStep Runtime.orgs) [activated] filer

theorem activated_eq : runtimeStep Runtime.orgs activated filer = .ok operating := by
  have hactivated : ∃ s', runtimeStep Runtime.orgs activated filer = .ok s' :=
    exists_ok (by decide +kernel)
  obtain ⟨s', hs'⟩ := hactivated
  rw [hs', operating, run_cons, run_nil, exec_ok hs']

theorem operating_idle {m : ℕ} (h : m ≤ 5256000) : Idle Runtime.orgs operating 0 m := by
  have hoperating : operating.nextOrgId = 1 ∧ operating.orgScanCursor = 0 ∧
      ∃ org ∈ operating.organizations.get 0, org.lastTaxPeriodPaid = 0 := by decide +kernel
  obtain ⟨hnext, hcursor, org, hget, hpaid⟩ := hoperating
  intro k _ hk
  rw [Nat.zero_add] at hk
  refine onInitialize_idle hnext hcursor (by decide) hget ?_
  rw [Overdue, hpaid]
  exact Nat.not_lt.mpr (hk.trans h)

section Lives

variable {R : ℕ → ℕ → Prop} {m : ℕ}
  {zs : List (RuntimeInput ℕ (Runtime.NativeLedger ℕ) (Identity.State ℕ Unit)
    (ShieldedVaults.State Unit))}

/-- The organization is active until so many blocks have passed. -/
theorem run_activated (h : m ≤ 5256000) :
    run (runtimeStep Runtime.orgs) (activated :: scans 0 m) filer = operating := by
  rw [run_cons, exec_ok activated_eq]
  exact (operating_idle h).run

theorem clocked_activated (h : Clocked newYear m zs) :
    Clocked newYear 0 (activated :: (scans 0 m ++ zs)) := by
  refine ⟨⟨rfl, rfl⟩, clocked_scans ?_⟩
  rwa [← Nat.zero_add m] at h

/-- Nobody files a tax return until then. -/
theorem filed_activated (h : m ≤ 5256000)
    (hrest : Along (recording (recordDates 0) (runtimeStep Runtime.orgs)) (FiledWhen R newYear 0) zs
      (operating, ⟨0, m⟩)) :
    Along (recording (recordDates 0) (runtimeStep Runtime.orgs)) (FiledWhen R newYear 0)
      (activated :: (scans 0 m ++ zs)) (filer, ⟨0, 0⟩) := by
  have hdates : recordDates 0 filer activated ⟨0, 0⟩ = ⟨0, 0⟩ := rfl
  refine ⟨(fun _ _ hfiled => by cases hfiled), ?_⟩
  rw [exec_ok (recording_ok activated_eq), hdates]
  refine (operating_idle h).filed ?_
  rwa [Nat.zero_add]

end Lives

/-- The organization files a tax return a year after its registration, less a day. -/
theorem exists_timelyLife : ∃ life : Life Timely Runtime.orgs newYear funded,
    life.inputs = activated :: scans 0 5241600 ∧ life.final = filedAt 5241600 := by
  have hrun := run_activated (show 5241600 ≤ 5256000 by decide)
  refine ⟨⟨⟨.signed 7, 0, newYear⟩, [], 0, 1, filer, activated :: scans 0 5241600, filedAt 5241600,
    filer_eq, clocked_activated ⟨⟨rfl, rfl⟩, trivial⟩, rfl, ?_, ?_, ?_⟩, rfl, rfl⟩
  · rw [hrun]
    exact exists_ok (by decide +kernel)
  · refine filed_activated (by decide) ⟨fun _ _ _ => ?_, trivial⟩
    unfold Timely
    decide +kernel
  · exact fun h => by cases h

theorem timely_spared_throughout : ∃ life : Life Timely Runtime.orgs newYear funded,
    Throughout (runtimeStep Runtime.orgs) (fun t => t.status 0 ≠ some .delinquent)
        (life.inputs ++ [life.final]) life.registered ∧
      Along (runtimeStep Runtime.orgs) (fun t y => ∀ who, ¬ FreezesFor Runtime.orgs 0 t y who)
        (life.inputs ++ [life.final]) life.registered := by
  obtain ⟨life, -, -⟩ := exists_timelyLife
  exact ⟨life, timely_spared _ _ _ _ _ _ _ [] rfl rfl newYear life⟩

/-- The scan that finds the tax period over. -/
def overdueScan : RuntimeInput ℕ (Runtime.NativeLedger ℕ) (Identity.State ℕ Unit)
    (ShieldedVaults.State Unit) :=
  .org (.onInitialize 5256001)

/-- The organization files a tax return in the filing period after its registration, too late. -/
theorem exists_yearlyLife : ∃ life : Life Yearly Runtime.orgs newYear funded,
    life.registered = filer ∧ life.inputs = (activated :: scans 0 5256000) ++ [overdueScan] := by
  have hrun : run (runtimeStep Runtime.orgs) ((activated :: scans 0 5256000) ++ [overdueScan])
      filer = exec (runtimeStep Runtime.orgs) overdueScan operating := by
    rw [run_append, run_activated (Nat.le_refl _)]
    rfl
  refine ⟨⟨⟨.signed 7, 0, newYear⟩, [], 0, 1, filer,
    (activated :: scans 0 5256000) ++ [overdueScan], filedAt 5256001, filer_eq, ?_, rfl, ?_, ?_,
    ?_⟩, rfl, rfl⟩
  · rw [List.append_assoc]
    exact clocked_activated ⟨rfl, ⟨rfl, rfl⟩, trivial⟩
  · rw [hrun]
    exact exists_ok (by decide +kernel)
  · rw [List.append_assoc]
    refine filed_activated (Nat.le_refl _) ⟨(fun _ _ hfiled => by cases hfiled), ?_⟩
    have hscan : runtimeStep Runtime.orgs overdueScan operating =
        .ok (onInitialize Runtime.orgs 5256001 operating) := rfl
    have hdates : recordDates 0 operating overdueScan ⟨0, 5256000⟩ = ⟨0, 5256001⟩ := rfl
    rw [exec_ok (recording_ok hscan), hdates]
    refine ⟨fun _ _ _ => ?_, trivial⟩
    unfold Yearly
    decide +kernel
  · exact fun h => by cases h

/-- **An organization that files every year is punished before it files.** -/
theorem yearly_punished : ¬ ∀ life : Life Yearly Runtime.orgs newYear funded,
    Throughout (runtimeStep Runtime.orgs) (fun t => t.status 0 ≠ some .delinquent)
      (life.inputs ++ [life.final]) life.registered := by
  intro h
  obtain ⟨life, hregistered, hinputs⟩ := exists_yearlyLife
  have hbefore := (h life).initial (List.prefix_append life.inputs [life.final])
  rw [hregistered, hinputs, run_append, run_activated (Nat.le_refl _), run_cons, run_nil] at hbefore
  revert hbefore
  decide +kernel

end Organizations
