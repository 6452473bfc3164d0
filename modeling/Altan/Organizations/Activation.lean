import Altan.Foundation.Accounting
import Altan.Runtime.Constants

/-!
# The activation of an organization

An organization is pending until as many of its directors as it requires have paid a deposit. While
it is pending it takes no members, so the founder is its only director, and pays once. It becomes
active just when it requires no other founder. The last number alone may be registered again, with
the directors and the deposits of the organization that had it.

## Main definitions

* `Founding`, `State.founding`: what is recorded of the founding of the organizations
* `Unfounded`: the storage before and after what does not concern the founding
* `Kept`: the invariant of the runs
* `Founders`: accounts that are willing and able to activate an organization
* `Activates`: they can, every deposit arrives, and the last one makes it active
* `Enough`: there are enough directors among them who have not paid

## Main results

* `unfounded_of_step`: the inputs that do not concern the founding
* `kept_step`, `kept_run`: what the runs keep
* `activates_iff`, `activation_iff`: the founders can activate an organization when there are enough
-/

open Bounded Dispatch Ledger TransitionSystem

namespace Organizations

variable {AccountId L C V : Type}

/-! ### What is recorded of the founding -/

/-- What is recorded of the founding of the organizations. -/
structure Founding (AccountId : Type) where
  nextOrgId : ℕ
  crewMembers : StorageMap (ℕ × AccountId) CrewMember
  orgFounderDeposits : StorageMap ℕ (BoundedVec (FounderDeposit AccountId) maxFounders)
  orgRequiredFounders : StorageMap ℕ ℕ

/-- The founding of the organizations in the storage. -/
def State.founding (s : State AccountId L C V) : Founding AccountId :=
  ⟨s.nextOrgId, s.crewMembers, s.orgFounderDeposits, s.orgRequiredFounders⟩

/-- The account of an organization, if there is one under the number. -/
def State.account (s : State AccountId L C V) (orgId : ℕ) : Option AccountId :=
  (s.organizations.get orgId).map Organization.bankAccountId

/-- Who has paid a deposit for an organization. -/
def State.depositors (s : State AccountId L C V) (orgId : ℕ) : List AccountId :=
  (s.deposits orgId).val.map FounderDeposit.founder

/-- An organization that has been activated, and is not frozen. -/
def Operating (status : Option OrgStatus) : Prop :=
  status = some .active ∨ status = some .delinquent

/-- The storage before and after what does not concern the founding: nobody becomes pending, and
nobody is activated. -/
structure Unfounded (s s' : State AccountId L C V) : Prop where
  founding : s'.founding = s.founding
  account : ∀ id, s'.account id = s.account id
  pending : ∀ id, s'.status id = some .pending → s.status id = some .pending
  operating : ∀ id, Operating (s'.status id) → Operating (s.status id)

section Frames

variable {cfg : Config AccountId L C V} {s s' s'' : State AccountId L C V} {orgId now id : ℕ}

theorem account_of_get {org : Organization AccountId} (h : s.organizations.get orgId = some org) :
    s.account orgId = some org.bankAccountId := by
  rw [State.account, h]
  rfl

/-- Who changes no organization activates none. -/
theorem Unfounded.of_organizations (hfounding : s'.founding = s.founding)
    (h : s'.organizations = s.organizations) : Unfounded s s' := by
  refine ⟨hfounding, fun id => ?_, fun id => ?_, fun id => ?_⟩
  · rw [State.account, h, State.account]
  · rw [State.status, h]
    exact fun h => h
  · rw [State.status, h]
    exact fun h => h

/-- Nor does who writes one organization, with its account, that was in the same case. -/
theorem Unfounded.of_insert {org org' : Organization AccountId}
    (hfounding : s'.founding = s.founding) (hget : s.organizations.get orgId = some org)
    (h : s'.organizations = s.organizations.insert orgId org')
    (haccount : org'.bankAccountId = org.bankAccountId)
    (hpending : org'.status = .pending → org.status = .pending)
    (hoperating : Operating (some org'.status) → Operating (some org.status)) :
    Unfounded s s' := by
  have hstatus := status_of_get hget
  refine ⟨hfounding, fun id => ?_, fun id hid => ?_, fun id hid => ?_⟩
  · rw [State.account, h, StorageMap.get_insert]
    split
    · next heq =>
      rw [heq, account_of_get hget, Option.map_some, haccount]
    · rfl
  · rw [status_insert h] at hid
    split at hid
    · next heq =>
      rw [heq, hstatus, hpending (Option.some.inj hid)]
    · exact hid
  · rw [status_insert h] at hid
    split at hid
    · next heq =>
      rw [heq, hstatus]
      exact hoperating hid
    · exact hid

theorem Unfounded.refl (s : State AccountId L C V) : Unfounded s s := .of_organizations rfl rfl

theorem Unfounded.trans (h : Unfounded s s') (h' : Unfounded s' s'') : Unfounded s s'' where
  founding := h'.founding.trans h.founding
  account id := (h'.account id).trans (h.account id)
  pending id hid := h.pending id (h'.pending id hid)
  operating id hid := h.operating id (h'.operating id hid)

/-! ### The inputs that do not concern it -/

theorem accruePenalty_unfounded : Unfounded s (accruePenalty cfg orgId now s) := by
  refine .of_organizations ?_ accruePenalty_organizations
  dsimp only [accruePenalty]
  split <;> rfl

variable [DecidableEq AccountId]

theorem applyPunishment_unfounded (cfg : Config AccountId L C V) (orgId now : ℕ)
    (s : State AccountId L C V) : Unfounded s (applyPunishment cfg orgId now s).1 := by
  unfold applyPunishment
  split
  · exact .refl s
  · next org hget =>
    split
    · refine Unfounded.trans ?_ accruePenalty_unfounded
      split
      · next hactive =>
        refine .of_insert rfl hget (StorageMap.modify_of_get hget) rfl (fun h => by cases h)
          fun _ => Or.inl ?_
        rw [of_decide_eq_true hactive]
      · exact .refl s
    · exact .refl s

theorem scan_unfounded (cfg : Config AccountId L C V) (now totalOrgs cursor rounds i next : ℕ)
    (s : State AccountId L C V) :
    Unfounded s (scan cfg now totalOrgs cursor rounds i next s).1 := by
  induction rounds generalizing i next s with
  | zero => exact .refl s
  | succ rounds ih =>
    have hfirst : Unfounded s (scanOrg cfg now (wrappingAdd u32Max cursor i % totalOrgs) s) := by
      unfold scanOrg
      split
      · split
        · exact applyPunishment_unfounded cfg _ now s
        · exact .refl s
      · exact .refl s
    simp only [scan]
    split
    · exact hfirst
    · exact hfirst.trans (ih _ _ _)

theorem onInitialize_unfounded (cfg : Config AccountId L C V) (now : ℕ)
    (s : State AccountId L C V) : Unfounded s (onInitialize cfg now s) := by
  unfold onInitialize
  split
  · exact .refl s
  · have h := scan_unfounded cfg now s.nextOrgId s.orgScanCursor cfg.maxOrgsPerBlock 0
      s.orgScanCursor s
    exact ⟨h.founding, h.account, h.pending, h.operating⟩

omit [DecidableEq AccountId] in
theorem declareTax_unfounded {declaration : TaxDeclaration} {ledger : L} {vaults : V}
    (h : declareTax declaration { s with vaults := vaults, ledger := ledger } = .ok s') :
    Unfounded s s' := by
  obtain ⟨org, hget, rfl⟩ := declareTax_eq_ok.mp h
  refine .of_insert rfl hget rfl rfl (fun hpending => ?_) fun hoperating => ?_
  · dsimp only at hpending
    split at hpending
    · cases hpending
    · exact hpending
  · dsimp only at hoperating
    split at hoperating
    · next hdelinquent =>
      rw [hdelinquent]
      exact Or.inr rfl
    · exact hoperating

/-- An input that concerns the founding of an organization. -/
def Input.Founds : Input AccountId → Prop
  | .call _ (.registerOrganization ..) => True
  | .call _ (.activateOrganization _) => True
  | .call _ (.addCrewMember ..) => True
  | _ => False

/-- **The inputs that do not concern the founding.** -/
theorem unfounded_of_step [Currency AccountId L] {x : Input AccountId} (hx : ¬ x.Founds)
    (h : step cfg x s = .ok s') : Unfounded s s' := by
  cases x with
  | onInitialize now =>
    rw [← Except.ok.inj h]
    exact onInitialize_unfounded cfg now s
  | call ctx c =>
    cases c with
    | registerOrganization => exact absurd trivial hx
    | activateOrganization => exact absurd trivial hx
    | addCrewMember => exact absurd trivial hx
    | fileTaxReturn orgId regionId declaredProfit amount documentHash =>
      obtain ⟨-, declaration, ledger, -, -, hdeclare⟩ := fileTaxReturn_declareTax h
      exact declareTax_unfounded hdeclare
    | reportTaxEvasion orgId =>
      obtain ⟨reporter, -, org, -, -, -, -, rfl⟩ := reportTaxEvasion_eq_ok.mp h
      have hpunished := applyPunishment_unfounded cfg orgId ctx.now s
      exact hpunished.trans (.of_organizations rfl rfl)
    | freezeOrganization orgId =>
      obtain ⟨-, org, hget, rfl⟩ := freezeOrganization_eq_ok.mp h
      refine .of_insert rfl hget rfl rfl (fun h => by cases h) fun h => ?_
      rcases h with h | h <;> cases h
    | fileTaxReturnZk orgId regionId declaredProfit nullifier commitment amountPaid documentHash =>
      obtain ⟨-, declaration, ledger, vaults, -, -, hdeclare⟩ := fileTaxReturnZk_declareTax h
      exact declareTax_unfounded hdeclare
    | spendOrgFunds orgId beneficiary amount =>
      refine .of_organizations ?_ (spendOrgFunds_organizations h)
      simp only [step, dispatch, spendOrgFunds, ensureSigned_bind_eq_ok, ensure_bind_eq_ok,
        required_bind_eq_ok, ensureDirector_bind_eq_ok, mapError_bind_eq_ok, pure_eq_ok] at h
      obtain ⟨_, -, _, -, -, -, -, _, -, rfl⟩ := h
      rfl

end Frames

/-! ### The invariant -/

section Invariant

variable [DecidableEq AccountId] {cfg : Config AccountId L C V} {ctx : Context AccountId}
  {s s' : State AccountId L C V} {orgId id : ℕ}

/-- One director, who alone has paid, and not all that are required. -/
def SoleFounder (s : State AccountId L C V) (id : ℕ) : Prop :=
  ∃ founder, (∀ a, IsDirector s id a ↔ a = founder) ∧ (∀ a ∈ s.depositors id, a = founder) ∧
    (s.depositors id).length < s.required id

/-- What every run keeps of an organization. -/
structure OrgKept (cfg : Config AccountId L C V) (s : State AccountId L C V) (id : ℕ) : Prop where
  numbered : s.status id ≠ none → id < s.nextOrgId ∨ id = u32Max
  new : s.status id = none → (∀ a, ¬ IsDirector s id a) ∧ s.depositors id = []
  account : ∀ account, s.account id = some account → account = deriveOrgAccount cfg id
  required : s.status id ≠ none → 0 < s.required id ∧ s.required id ≤ maxFounders
  distinct : (s.depositors id).Nodup
  pending : id < u32Max → s.status id = some .pending → SoleFounder s id
  operating : id < u32Max → Operating (s.status id) → s.required id = 1

/-- What every run keeps. -/
structure Kept (cfg : Config AccountId L C V) (s : State AccountId L C V) : Prop where
  next : s.nextOrgId ≤ u32Max
  orgs : ∀ id, OrgKept cfg s id

/-- One organization is the same before and after. -/
structure SameOrg (s s' : State AccountId L C V) (id : ℕ) : Prop where
  status : s'.status id = s.status id
  account : s'.account id = s.account id
  directors : ∀ a, IsDirector s' id a ↔ IsDirector s id a
  depositors : s'.depositors id = s.depositors id
  required : s'.required id = s.required id

theorem SoleFounder.congr (h : SoleFounder s id) (hd : ∀ a, IsDirector s' id a ↔ IsDirector s id a)
    (hp : s'.depositors id = s.depositors id) (hr : s'.required id = s.required id) :
    SoleFounder s' id := by
  obtain ⟨founder, hsole, hpaid, hfew⟩ := h
  refine ⟨founder, fun a => (hd a).trans (hsole a), ?_, ?_⟩
  · rwa [hp]
  · rwa [hp, hr]

theorem OrgKept.of_same (h : OrgKept cfg s id) (hsame : SameOrg s s' id)
    (hnext : s.nextOrgId ≤ s'.nextOrgId) : OrgKept cfg s' id where
  numbered hid := by
    rw [hsame.status] at hid
    exact (h.numbered hid).imp_left fun hlt => hlt.trans_le hnext
  new hid := by
    rw [hsame.status] at hid
    obtain ⟨hnobody, hnothing⟩ := h.new hid
    exact ⟨fun a ha => hnobody a ((hsame.directors a).mp ha), hsame.depositors.trans hnothing⟩
  account account haccount := h.account account (hsame.account ▸ haccount)
  required hid := by
    rw [hsame.status] at hid
    rw [hsame.required]
    exact h.required hid
  distinct := by
    rw [hsame.depositors]
    exact h.distinct
  pending hlt hid := by
    rw [hsame.status] at hid
    exact (h.pending hlt hid).congr hsame.directors hsame.depositors hsame.required
  operating hlt hid := by
    rw [hsame.status] at hid
    rw [hsame.required]
    exact h.operating hlt hid

omit [DecidableEq AccountId] in
theorem status_eq_none_iff : s.status id = none ↔ s.account id = none := by
  unfold State.status State.account
  rw [Option.map_eq_none_iff, Option.map_eq_none_iff]

/-- What does not concern the founding keeps the invariant. -/
theorem Kept.of_unfounded (h : Kept cfg s) (hu : Unfounded s s') : Kept cfg s' := by
  have hnext : s'.nextOrgId = s.nextOrgId := congrArg Founding.nextOrgId hu.founding
  have hcrew : s'.crewMembers = s.crewMembers := congrArg Founding.crewMembers hu.founding
  have hdeposits : s'.orgFounderDeposits = s.orgFounderDeposits :=
    congrArg Founding.orgFounderDeposits hu.founding
  have hrequired : s'.orgRequiredFounders = s.orgRequiredFounders :=
    congrArg Founding.orgRequiredFounders hu.founding
  have hnone : ∀ id, s'.status id = none ↔ s.status id = none := fun id => by
    rw [status_eq_none_iff, status_eq_none_iff, hu.account]
  have hd : ∀ id a, IsDirector s' id a ↔ IsDirector s id a := fun id a => by
    rw [IsDirector, hcrew, IsDirector]
  have hp : ∀ id, s'.depositors id = s.depositors id := fun id => by
    rw [State.depositors, State.deposits, hdeposits, State.depositors, State.deposits]
  have hr : ∀ id, s'.required id = s.required id := fun id => by
    rw [State.required, hrequired, State.required]
  refine ⟨hnext ▸ h.next, fun id => ?_⟩
  have hid := h.orgs id
  refine ⟨fun hsome => ?_, fun hnew => ?_, fun account haccount => ?_, fun hsome => ?_, ?_,
    fun hlt hpending => ?_, fun hlt hoperating => ?_⟩
  · rw [hnext]
    exact hid.numbered fun h => hsome ((hnone id).mpr h)
  · obtain ⟨hnobody, hnothing⟩ := hid.new ((hnone id).mp hnew)
    exact ⟨fun a ha => hnobody a ((hd id a).mp ha), (hp id).trans hnothing⟩
  · exact hid.account account (hu.account id ▸ haccount)
  · rw [hr]
    exact hid.required fun h => hsome ((hnone id).mpr h)
  · rw [hp]
    exact hid.distinct
  · exact (hid.pending hlt (hu.pending id hpending)).congr (hd id) (hp id) (hr id)
  · rw [hr]
    exact hid.operating hlt (hu.operating id hoperating)

/-- Writing one organization, with its members, its deposits and what it requires, leaves the
others. -/
theorem sameOrg_of_get
    (horgs : s'.organizations.get id = s.organizations.get id)
    (hcrew : ∀ a, s'.crewMembers.get (id, a) = s.crewMembers.get (id, a))
    (hdeposits : s'.orgFounderDeposits.get id = s.orgFounderDeposits.get id)
    (hrequired : s'.orgRequiredFounders.get id = s.orgRequiredFounders.get id) :
    SameOrg s s' id where
  status := by rw [State.status, horgs, State.status]
  account := by rw [State.account, horgs, State.account]
  directors a := by rw [IsDirector, hcrew, IsDirector]
  depositors := by
    rw [State.depositors, State.deposits, StorageMap.getD, hdeposits, State.depositors,
      State.deposits, StorageMap.getD]
  required := by rw [State.required, StorageMap.getD, hrequired, State.required, StorageMap.getD]

/-- A new member of one organization. -/
theorem get_crew_insert_of_ne {m : StorageMap (ℕ × AccountId) CrewMember} {who a : AccountId}
    {crew : CrewMember} (hid : id ≠ orgId) :
    (m.insert (orgId, who) crew).get (id, a) = m.get (id, a) :=
  StorageMap.get_insert_of_ne fun h => hid (Prod.ext_iff.mp h).1

/-- **A registration keeps the invariant.** -/
theorem Kept.register {name : List UInt8} {hqRegion requiredFounders : ℕ} (h : Kept cfg s)
    (hs : registerOrganization cfg ctx name hqRegion requiredFounders s = .ok s') :
    Kept cfg s' := by
  obtain ⟨caller, -, hmax, bounded, -, rfl⟩ := registerOrganization_eq_ok.mp hs
  have hle : s.nextOrgId ≤ saturatingAdd u32Max s.nextOrgId 1 := by
    have hnext := h.next
    unfold saturatingAdd
    omega
  refine ⟨Nat.min_le_right _ _, fun id => ?_⟩
  by_cases hid : id = s.nextOrgId
  · subst hid
    have hold := h.orgs s.nextOrgId
    -- under a number of its own there was nothing before
    have hnew : s.nextOrgId < u32Max → s.status s.nextOrgId = none := by
      intro hlt
      by_contra hsome
      rcases hold.numbered hsome with hlt' | heq
      · exact Nat.lt_irrefl _ hlt'
      · exact Nat.lt_irrefl _ (heq ▸ hlt)
    refine ⟨fun _ => ?_, fun hnone => ?_, fun account haccount => ?_, fun _ => ?_, hold.distinct,
      fun hlt _ => ?_, fun hlt hoperating => ?_⟩
    · rcases Nat.lt_or_ge s.nextOrgId u32Max with hlt | hge
      · left
        dsimp only
        rw [saturatingAdd_one_of_lt hlt]
        exact Nat.lt_succ_self _
      · exact Or.inr (Nat.le_antisymm h.next hge)
    · rw [status_insert rfl, if_pos rfl] at hnone
      cases hnone
    · rw [account_of_get StorageMap.get_insert_self] at haccount
      exact (Option.some.inj haccount).symm
    · rw [State.required, StorageMap.getD_insert_self]
      exact ⟨Nat.lt_of_lt_of_le Nat.zero_lt_one (Nat.le_max_right _ _), hmax⟩
    · obtain ⟨hnobody, hnothing⟩ := hold.new (hnew hlt)
      refine ⟨caller, fun a => ?_, fun a ha => ?_, ?_⟩
      · unfold IsDirector
        dsimp only
        by_cases ha : a = caller
        · subst ha
          rw [StorageMap.get_insert_self]
          exact iff_of_true ⟨_, rfl, rfl⟩ rfl
        · rw [StorageMap.get_insert_of_ne fun heq => ha (Prod.ext_iff.mp heq).2]
          exact iff_of_false (hnobody a) ha
      · change a ∈ s.depositors s.nextOrgId at ha
        rw [hnothing] at ha
        cases ha
      · change (s.depositors s.nextOrgId).length < _
        rw [hnothing, State.required, StorageMap.getD_insert_self]
        exact Nat.lt_of_lt_of_le Nat.zero_lt_one (Nat.le_max_right _ _)
    · rw [status_insert rfl, if_pos rfl] at hoperating
      rcases hoperating with h | h <;> cases h
  · refine (h.orgs id).of_same (sameOrg_of_get ?_ (fun a => ?_) rfl ?_) hle
    · exact StorageMap.get_insert_of_ne hid
    · exact get_crew_insert_of_ne hid
    · exact StorageMap.get_insert_of_ne hid

/-- **A new member keeps the invariant**: the organization is not pending. -/
theorem Kept.addCrewMember {member : AccountId} {role : OrgRole} {regionAssigned : ℕ}
    (h : Kept cfg s)
    (hs : Organizations.addCrewMember ctx orgId member role regionAssigned s = .ok s') :
    Kept cfg s' := by
  obtain ⟨caller, -, org, hget, -, hnot, -, -, rfl⟩ := addCrewMember_eq_ok.mp hs
  refine ⟨h.next, fun id => ?_⟩
  by_cases hid : id = orgId
  · subst hid
    have hold := h.orgs id
    have hstatus := status_of_get hget
    refine ⟨hold.numbered, fun hnone => ?_, hold.account, hold.required, hold.distinct,
      fun _ hpending => ?_, hold.operating⟩
    · cases hstatus.symm.trans hnone
    · exact absurd (Option.some.inj (hstatus.symm.trans hpending)) hnot
  · exact (h.orgs id).of_same
      (sameOrg_of_get rfl (fun _ => get_crew_insert_of_ne hid) rfl rfl) (Nat.le_refl _)

section Deposits

variable {org : Organization AccountId} {caller : AccountId} {amount now : ℕ}
  {deposits : BoundedVec (FounderDeposit AccountId) maxFounders}

omit [DecidableEq AccountId] in
theorem depositors_deposited (org : Organization AccountId) (ledger : L)
    (hdeposits : deposits.val = (s.deposits orgId).val ++ [⟨caller, amount, now⟩]) :
    (deposited orgId org ledger deposits s).depositors orgId = s.depositors orgId ++ [caller] := by
  rw [State.depositors, State.deposits, deposited, StorageMap.getD_insert_self, hdeposits,
    List.map_append]
  rfl

omit [DecidableEq AccountId] in
/-- An organization is active when the deposit is the last that is required. -/
theorem status_deposited (ledger : L) (hget : s.organizations.get orgId = some org)
    (hpending : org.status = .pending)
    (hdeposits : deposits.val = (s.deposits orgId).val ++ [⟨caller, amount, now⟩]) :
    (deposited orgId org ledger deposits s).status orgId =
      some (if s.required orgId ≤ (s.depositors orgId).length + 1 then .active else .pending) := by
  have hlength : deposits.val.length = (s.depositors orgId).length + 1 := by
    rw [hdeposits, List.length_append, List.length_singleton, State.depositors, List.length_map]
  unfold deposited State.status
  dsimp only
  rw [hlength]
  split
  · rw [StorageMap.get_insert_self]
    rfl
  · rw [hget, Option.map_some, hpending]

omit [DecidableEq AccountId] in
/-- A deposit leaves the account of the organization. -/
theorem account_deposited (ledger : L) (hget : s.organizations.get orgId = some org)
    (deposits : BoundedVec (FounderDeposit AccountId) maxFounders) :
    (deposited orgId org ledger deposits s).account orgId = s.account orgId := by
  rw [account_of_get hget]
  unfold deposited State.account
  dsimp only
  split
  · rw [StorageMap.get_insert_self]
    rfl
  · rw [hget]
    rfl

omit [DecidableEq AccountId] in
/-- A deposit leaves the other organizations. -/
theorem get_deposited_of_ne {id : ℕ} (org : Organization AccountId) (ledger : L)
    (deposits : BoundedVec (FounderDeposit AccountId) maxFounders) (hid : id ≠ orgId) :
    (deposited orgId org ledger deposits s).organizations.get id = s.organizations.get id := by
  unfold deposited
  dsimp only
  split
  · exact StorageMap.get_insert_of_ne hid
  · rfl

end Deposits

variable [Currency AccountId L]

/-- **A deposit keeps the invariant.** -/
theorem Kept.activate (h : Kept cfg s) (hs : activateOrganization cfg ctx orgId s = .ok s') :
    Kept cfg s' := by
  obtain ⟨caller, -, org, hget, hpending, hdirector, hfirst, ledger, -, deposits, hdeposits, rfl⟩ :=
    activateOrganization_eq_ok.mp hs
  have hstatus := status_of_get hget
  rw [hpending] at hstatus
  refine ⟨h.next, fun id => ?_⟩
  by_cases hid : id = orgId
  · subst hid
    have hold := h.orgs id
    have hafter := status_deposited ledger hget hpending hdeposits
    have hsome : s.status id ≠ none := by
      rw [hstatus]
      exact Option.some_ne_none _
    have hnot : caller ∉ s.depositors id := by
      intro hmem
      obtain ⟨d, hd, rfl⟩ := List.mem_map.mp hmem
      exact hfirst d hd rfl
    have hpaid := depositors_deposited org ledger hdeposits
    have haccount := account_deposited ledger hget deposits
    refine ⟨fun _ => hold.numbered hsome, fun hnone => ?_, fun account hac => ?_,
      fun _ => hold.required hsome, ?_, fun hlt hstill => ?_, fun hlt hoperating => ?_⟩
    · cases hafter.symm.trans hnone
    · exact hold.account account (haccount ▸ hac)
    · rw [hpaid, List.nodup_append]
      refine ⟨hold.distinct, List.nodup_singleton _, fun a ha b hb heq => hnot ?_⟩
      rw [← List.mem_singleton.mp hb, ← heq]
      exact ha
    · -- the founder has paid, and others are required
      obtain ⟨founder, hsole, hall, -⟩ := hold.pending hlt hstatus
      refine ⟨founder, hsole, fun a ha => ?_, ?_⟩
      · rw [hpaid, List.mem_append, List.mem_singleton] at ha
        rcases ha with ha | rfl
        · exact hall a ha
        · exact (hsole a).mp hdirector
      · rw [hafter] at hstill
        split at hstill
        · cases hstill
        · next hfew =>
          rw [hpaid, List.length_append, List.length_singleton]
          exact Nat.lt_of_not_le hfew
    · -- the founder alone has paid
      obtain ⟨founder, hsole, hall, -⟩ := hold.pending hlt hstatus
      have hnil : s.depositors id = [] := by
        rw [List.eq_nil_iff_forall_not_mem]
        intro a ha
        rw [hall a ha, ← (hsole caller).mp hdirector] at ha
        exact hnot ha
      obtain ⟨hpos, -⟩ := hold.required hsome
      rw [hafter, hnil] at hoperating
      split at hoperating
      · next hle => exact Nat.le_antisymm hle hpos
      · rcases hoperating with h | h <;> cases h
  · refine (h.orgs id).of_same (sameOrg_of_get ?_ (fun _ => rfl) ?_ rfl) (Nat.le_refl _)
    · exact get_deposited_of_ne org ledger deposits hid
    · exact StorageMap.get_insert_of_ne hid

/-- **Step lemma.** -/
theorem kept_step {x : Input AccountId} (h : Kept cfg s) (hs : step cfg x s = .ok s') :
    Kept cfg s' := by
  by_cases hx : x.Founds
  · cases x with
    | onInitialize now => exact hx.elim
    | call ctx c =>
      cases c with
      | registerOrganization name hqRegion requiredFounders => exact h.register hs
      | activateOrganization orgId => exact h.activate hs
      | addCrewMember orgId member role regionAssigned => exact h.addCrewMember hs
      | _ => exact hx.elim
  · exact h.of_unfounded (unfounded_of_step hx hs)

omit [Currency AccountId L] in
theorem kept_genesis (ledger : L) (citizens : C) (vaults : V) :
    Kept cfg (genesis ledger citizens vaults : State AccountId L C V) := by
  have hstatus : ∀ id, (genesis ledger citizens vaults : State AccountId L C V).status id = none :=
    fun id => by rw [State.status, genesis, StorageMap.get_empty, Option.map_none]
  refine ⟨Nat.zero_le _, fun id => ⟨fun hsome => absurd (hstatus id) hsome, fun _ => ⟨?_, ?_⟩,
    fun account haccount => ?_, fun hsome => absurd (hstatus id) hsome, ?_, fun _ hpending => ?_,
    fun _ hoperating => ?_⟩⟩
  · rintro a ⟨crew, hget, -⟩
    rw [Option.mem_def, genesis, StorageMap.get_empty] at hget
    cases hget
  · rw [State.depositors, State.deposits, genesis, StorageMap.getD_empty]
    rfl
  · rw [State.account, genesis, StorageMap.get_empty] at haccount
    cases haccount
  · rw [State.depositors, State.deposits, genesis, StorageMap.getD_empty]
    exact List.nodup_nil
  · rw [hstatus] at hpending
    cases hpending
  · rw [hstatus] at hoperating
    rcases hoperating with h | h <;> cases h

/-- What happens elsewhere does not concern the founding. -/
theorem kept_runtimeStep {x : RuntimeInput AccountId L C V} (h : Kept cfg s)
    (hs : runtimeStep cfg x s = .ok s') : Kept cfg s' := by
  cases x with
  | org x => exact kept_step h hs
  | elsewhere ledger citizens vaults =>
    obtain rfl := Except.ok.inj hs
    exact h.of_unfounded (.of_organizations rfl rfl)

/-- **Run lemma.** -/
theorem kept_run (xs : List (RuntimeInput AccountId L C V)) (h : Kept cfg s) :
    Kept cfg (run (runtimeStep cfg) xs s) :=
  run_invariant (fun _ _ _ => kept_runtimeStep) xs h

/-- The numbers of the organizations go up. -/
theorem nextOrgId_le {x : RuntimeInput AccountId L C V} (h : Kept cfg s)
    (hs : runtimeStep cfg x s = .ok s') : s.nextOrgId ≤ s'.nextOrgId := by
  cases x with
  | elsewhere ledger citizens vaults =>
    obtain rfl := Except.ok.inj hs
    exact Nat.le_refl _
  | org x =>
    by_cases hx : x.Founds
    · cases x with
      | onInitialize now => exact hx.elim
      | call ctx c =>
        cases c with
        | registerOrganization name hqRegion requiredFounders =>
          obtain ⟨_, -, -, _, -, rfl⟩ := registerOrganization_eq_ok.mp hs
          exact Nat.le_min.mpr ⟨Nat.le_succ _, h.next⟩
        | activateOrganization orgId =>
          obtain ⟨_, -, _, -, -, -, -, _, -, _, -, rfl⟩ := activateOrganization_eq_ok.mp hs
          exact Nat.le_refl _
        | addCrewMember orgId member role regionAssigned =>
          obtain ⟨_, -, _, -, -, -, -, -, rfl⟩ := addCrewMember_eq_ok.mp hs
          exact Nat.le_refl _
        | _ => exact hx.elim
    · exact (congrArg Founding.nextOrgId (unfounded_of_step hx hs).founding).ge

end Invariant

/-! ### What is asked of the founders -/

section Definitions

variable [Currency AccountId L]

/-- Accounts that can pay a deposit each to the account of an organization, which is none of
theirs. -/
structure Solvent (cfg : Config AccountId L C V) (ledger : L) (account : AccountId)
    (founders : List AccountId) : Prop where
  keyless : account ∉ founders
  unlocked : ∀ f ∈ founders, ∀ id, lockAmount ledger id f = 0
  funded : ∀ f ∈ founders, cfg.orgActivationDeposit + existentialDeposit L ≤ freeBalance ledger f
  provided : existentialDeposit L ≤ freeBalance ledger account + cfg.orgActivationDeposit

/-- As many accounts as an organization requires, led by a director of it, that can pay. -/
structure Founders [DecidableEq AccountId] (cfg : Config AccountId L C V)
    (s : State AccountId L C V) (orgId : ℕ) (founders : List AccountId) : Prop
    extends Solvent cfg s.ledger (deriveOrgAccount cfg orgId) founders where
  nodup : founders.Nodup
  length : founders.length = s.required orgId
  led : ∃ founder ∈ founders.head?, IsDirector s orgId founder

omit [Currency AccountId L] in
/-- A call of the founders: one makes another a director, or pays the deposit. -/
def FoundedBy (founders : List AccountId) (orgId now nowSecs : ℕ) (x : Input AccountId) : Prop :=
  ∃ who ∈ founders,
    (∃ member ∈ founders, ∃ region,
      x = .call ⟨.signed who, now, nowSecs⟩ (.addCrewMember orgId member .director region)) ∨
    x = .call ⟨.signed who, now, nowSecs⟩ (.activateOrganization orgId)

/-- The first deposit of somebody, of which all arrives. The last that is required makes the
organization active. -/
structure Deposit (cfg : Config AccountId L C V) (s s' : State AccountId L C V) (orgId : ℕ)
    (caller : AccountId) : Prop where
  first : caller ∉ s.depositors orgId
  last : s'.depositors orgId = s.depositors orgId ++ [caller]
  paid : Currency.transfer s.ledger caller (deriveOrgAccount cfg orgId) cfg.orgActivationDeposit
    .keepAlive = .ok s'.ledger
  received : caller ≠ deriveOrgAccount cfg orgId →
    freeBalance s'.ledger (deriveOrgAccount cfg orgId) =
      freeBalance s.ledger (deriveOrgAccount cfg orgId) + cfg.orgActivationDeposit
  active : s'.status orgId = some .active ↔ (s'.depositors orgId).length = s.required orgId

variable [DecidableEq AccountId]

/-- The founders can make an organization active, and every deposit is as it should be. -/
structure Activates (cfg : Config AccountId L C V) (now nowSecs : ℕ) (s : State AccountId L C V)
    (orgId : ℕ) (founders : List AccountId) : Prop where
  completes : ∃ xs, (∀ x ∈ xs, FoundedBy founders orgId now nowSecs x) ∧
    (run (step cfg) xs s).status orgId = some .active
  exact : ∀ ctx s', activateOrganization cfg ctx orgId s = .ok s' →
    ∃ caller, ctx.origin = .signed caller ∧ Deposit cfg s s' orgId caller
  once : (s.depositors orgId).Nodup

omit [Currency AccountId L] in
/-- The directors among some accounts who have not paid. -/
def unpaid (s : State AccountId L C V) (orgId : ℕ) (founders : List AccountId) : List AccountId :=
  founders.filter fun f => decide (IsDirector s orgId f ∧ f ∉ s.depositors orgId)

omit [Currency AccountId L] in
/-- Deposits are missing, and there are enough directors among some accounts who have not paid. -/
def Enough (s : State AccountId L C V) (orgId : ℕ) (founders : List AccountId) : Prop :=
  (s.depositors orgId).length < s.required orgId ∧
    s.required orgId ≤ (s.depositors orgId).length + (unpaid s orgId founders).length

instance (s : State AccountId L C V) (orgId : ℕ) (founders : List AccountId) :
    Decidable (Enough s orgId founders) := inferInstanceAs (Decidable (_ ∧ _))

end Definitions

section Activations

variable [DecidableEq AccountId] [Currency AccountId L] {cfg : Config AccountId L C V}
  {ctx : Context AccountId} {s s' : State AccountId L C V} {orgId now nowSecs : ℕ}
  {founders : List AccountId}

/-- What an accepted deposit does, while deposits are missing or not. -/
theorem activate_eq_ok (hk : Kept cfg s) (hs : activateOrganization cfg ctx orgId s = .ok s') :
    ∃ caller, ctx.origin = .signed caller ∧ IsDirector s orgId caller ∧
      caller ∉ s.depositors orgId ∧ s'.depositors orgId = s.depositors orgId ++ [caller] ∧
      Currency.transfer s.ledger caller (deriveOrgAccount cfg orgId) cfg.orgActivationDeposit
        .keepAlive = .ok s'.ledger ∧
      (∀ a, IsDirector s' orgId a ↔ IsDirector s orgId a) ∧
      s'.required orgId = s.required orgId ∧
      s'.status orgId = some (if s.required orgId ≤ (s.depositors orgId).length + 1 then .active
        else .pending) := by
  obtain ⟨caller, hcaller, org, hget, hpending, hdirector, hfirst, ledger, hpay, deposits,
    hdeposits, rfl⟩ := activateOrganization_eq_ok.mp hs
  have haccount := (hk.orgs orgId).account _ (account_of_get hget)
  refine ⟨caller, hcaller, hdirector, fun hmem => ?_, depositors_deposited org ledger hdeposits,
    haccount ▸ hpay, fun _ => Iff.rfl, rfl, status_deposited ledger hget hpending hdeposits⟩
  obtain ⟨d, hd, rfl⟩ := List.mem_map.mp hmem
  exact hfirst d hd rfl

/-- Who has not paid is as able as before after another has. -/
theorem Solvent.transfer [LockableCurrency AccountId L] {ledger ledger' : L}
    {account f : AccountId} (h : Solvent cfg ledger account (f :: founders)) (hf : f ∉ founders)
    (hpay : Currency.transfer ledger f account cfg.orgActivationDeposit .keepAlive = .ok ledger') :
    Solvent cfg ledger' account founders := by
  have hkeyless : account ∉ founders := fun hmem => h.keyless (List.mem_cons_of_mem f hmem)
  refine ⟨hkeyless, fun g hg id => ?_, fun g hg => ?_, ?_⟩
  · rw [LockableCurrency.transfer_lock _ _ _ _ _ _ hpay]
    exact h.unlocked g (List.mem_cons_of_mem f hg) id
  · have hfunded := h.funded g (List.mem_cons_of_mem f hg)
    rcases Currency.transfer_cases hpay with ⟨-, rfl⟩ | ⟨-, -, hmoved⟩
    · exact hfunded
    · rwa [hmoved.others g (fun heq => hf (heq ▸ hg)) (fun heq => hkeyless (heq ▸ hg))]
  · have hprovided := h.provided
    rcases Currency.transfer_cases hpay with ⟨-, rfl⟩ | ⟨-, -, hmoved⟩
    · exact hprovided
    · rw [hmoved.dest]
      exact hprovided.trans (Nat.le_add_right _ _)

/-- A director who has not paid can pay, while deposits are missing. -/
theorem exists_activate [LockableCurrency AccountId L] [UnlockedTransfers AccountId L]
    {f : AccountId} (hk : Kept cfg s) (hpending : s.status orgId = some .pending)
    (hfew : (s.depositors orgId).length < s.required orgId)
    (hsolvent : Solvent cfg s.ledger (deriveOrgAccount cfg orgId) (f :: founders))
    (hdirector : IsDirector s orgId f) (hfirst : f ∉ s.depositors orgId) (now nowSecs : ℕ) :
    ∃ s', activateOrganization cfg ⟨.signed f, now, nowSecs⟩ orgId s = .ok s' := by
  obtain ⟨org, hget, hstatus⟩ := Option.map_eq_some_iff.mp hpending
  have haccount := (hk.orgs orgId).account _ (account_of_get hget)
  have hf : f ∈ f :: founders := List.mem_cons_self
  obtain ⟨ledger, hpay⟩ := UnlockedTransfers.transfer_unlocked s.ledger f
    (deriveOrgAccount cfg orgId) cfg.orgActivationDeposit (hsolvent.unlocked f hf)
    (hsolvent.funded f hf) hsolvent.provided
  -- there is room for one more deposit
  have hroom : ((s.deposits orgId).val ++
      [(⟨f, cfg.orgActivationDeposit, now⟩ : FounderDeposit AccountId)]).length ≤ maxFounders := by
    have hsome : s.status orgId ≠ none := by
      rw [hpending]
      exact Option.some_ne_none _
    obtain ⟨-, hmax⟩ := (hk.orgs orgId).required hsome
    rw [State.depositors, List.length_map] at hfew
    rw [List.length_append, List.length_singleton]
    omega
  refine ⟨_, activateOrganization_eq_ok.mpr ⟨f, rfl, org, hget, hstatus, hdirector, ?_, ledger, ?_,
    ⟨_, hroom⟩, rfl, rfl⟩⟩
  · rintro d hd rfl
    exact hfirst (List.mem_map_of_mem hd)
  · rw [haccount]
    exact hpay

/-- **The missing deposits make an organization active**: as many directors pay as are missing. -/
theorem run_deposits [LockableCurrency AccountId L] [UnlockedTransfers AccountId L]
    (hk : Kept cfg s) (hpending : s.status orgId = some .pending) (hne : founders ≠ [])
    (hcount : (s.depositors orgId).length + founders.length = s.required orgId)
    (hnodup : founders.Nodup)
    (hsolvent : Solvent cfg s.ledger (deriveOrgAccount cfg orgId) founders)
    (hdirectors : ∀ f ∈ founders, IsDirector s orgId f ∧ f ∉ s.depositors orgId)
    (now nowSecs : ℕ) :
    (run (step cfg) (founders.map fun f =>
      .call ⟨.signed f, now, nowSecs⟩ (.activateOrganization orgId)) s).status orgId =
        some .active := by
  induction founders generalizing s with
  | nil => exact absurd rfl hne
  | cons f rest ih =>
    rw [List.length_cons] at hcount
    obtain ⟨hf, hrest⟩ := List.nodup_cons.mp hnodup
    obtain ⟨hdirector, hfirst⟩ := hdirectors f List.mem_cons_self
    obtain ⟨s', hs'⟩ := exists_activate hk hpending (by omega) hsolvent hdirector hfirst now nowSecs
    obtain ⟨caller, hcaller, -, -, hlast, hpay, hsame, hrequired, hstatus⟩ := activate_eq_ok hk hs'
    obtain rfl := Origin.signed.inj hcaller
    have hstep : step cfg (.call ⟨.signed f, now, nowSecs⟩ (.activateOrganization orgId)) s =
        .ok s' := hs'
    rw [List.map_cons, run_cons, exec_ok hstep]
    rcases rest with _ | ⟨g, rest⟩
    · -- the last deposit
      rw [List.length_nil] at hcount
      rw [List.map_nil, run_nil, hstatus, if_pos (by omega)]
    · rw [List.length_cons] at hcount
      rw [if_neg (by omega)] at hstatus
      refine ih (hk.activate hs') hstatus (List.cons_ne_nil _ _) ?_ hrest
        (hsolvent.transfer hf hpay) fun g' hg' => ?_
      · rw [hlast, hrequired, List.length_append, List.length_singleton, List.length_cons]
        omega
      · obtain ⟨hg, hunpaid⟩ := hdirectors g' (List.mem_cons_of_mem f hg')
        rw [hsame, hlast, List.mem_append, List.mem_singleton, not_or]
        exact ⟨hg, hunpaid, fun heq => hf (heq ▸ hg')⟩

/-! ### How far the founders come -/

/-- The founders have come so far: the organization is pending, and some of them have paid who were
directors before. -/
structure Underway (s t : State AccountId L C V) (orgId : ℕ) (founders : List AccountId) :
    Prop where
  pending : t.status orgId = some .pending
  directors : ∀ a, IsDirector t orgId a ↔ IsDirector s orgId a
  required : t.required orgId = s.required orgId
  paid : ∃ new, t.depositors orgId = s.depositors orgId ++ new ∧ new ⊆ unpaid s orgId founders

omit [Currency AccountId L] in
/-- Nobody becomes a director of a pending organization. -/
theorem addCrewMember_not_pending {ctx : Context AccountId} {member : AccountId} {role : OrgRole}
    {regionAssigned : ℕ} (hpending : s.status orgId = some .pending) :
    addCrewMember ctx orgId member role regionAssigned s ≠ .ok s' := by
  intro hs
  obtain ⟨-, -, org, hget, -, hnot, -⟩ := addCrewMember_eq_ok.mp hs
  exact hnot (Option.some.inj ((status_of_get hget).symm.trans hpending))

omit [Currency AccountId L] in
/-- Those who pay for the first time are among the directors who have not paid. -/
theorem length_new_le {new : List AccountId} (h : new.Nodup)
    (hnew : new ⊆ unpaid s orgId founders) :
    new.length ≤ (unpaid s orgId founders).length :=
  (h.subperm hnew).length_le

/-- **Step lemma.** A call of the founders takes them further, or there are enough of them. -/
theorem Underway.step {t t' : State AccountId L C V} {x : Input AccountId} (hk : Kept cfg t)
    (h : Underway s t orgId founders) (hx : FoundedBy founders orgId now nowSecs x)
    (ht : Organizations.step cfg x t = .ok t') : Underway s t' orgId founders ∨
      s.required orgId ≤ (s.depositors orgId).length + (unpaid s orgId founders).length := by
  obtain ⟨who, hwho, ⟨member, -, region, rfl⟩ | rfl⟩ := hx
  · exact absurd ht (addCrewMember_not_pending h.pending)
  · have hkept := (hk.activate ht).orgs orgId
    obtain ⟨caller, hcaller, hdirector, hfirst, hlast, -, hsame, hrequired, hstatus⟩ :=
      activate_eq_ok hk ht
    obtain rfl := Origin.signed.inj hcaller
    obtain ⟨new, hpaid, hnew⟩ := h.paid
    rw [hpaid, List.append_assoc] at hlast
    -- the caller was a director, and had not paid
    have hunpaid : who ∈ unpaid s orgId founders := by
      refine List.mem_filter.mpr ⟨hwho, decide_eq_true ⟨(h.directors who).mp hdirector, ?_⟩⟩
      rw [hpaid] at hfirst
      exact fun hmem => hfirst (List.mem_append_left new hmem)
    have hmore : new ++ [who] ⊆ unpaid s orgId founders :=
      List.append_subset.mpr ⟨hnew, List.cons_subset.mpr ⟨hunpaid, List.nil_subset _⟩⟩
    have hdistinct := hkept.distinct
    rw [hlast] at hdistinct
    have hcount := length_new_le (List.nodup_append.mp hdistinct).2.1 hmore
    split at hstatus
    · next hle =>
      right
      rw [h.required, hpaid, List.length_append] at hle
      rw [List.length_append, List.length_singleton] at hcount
      omega
    · left
      exact ⟨hstatus, fun a => (hsame a).trans (h.directors a), hrequired.trans h.required,
        new ++ [who], hlast, hmore⟩

/-- **Run lemma.** Founders who make an organization active are enough. -/
theorem enough_of_active {xs : List (Input AccountId)} (hk : Kept cfg s)
    (hpending : s.status orgId = some .pending)
    (hxs : ∀ x ∈ xs, FoundedBy founders orgId now nowSecs x)
    (hactive : (run (step cfg) xs s).status orgId = some .active) :
    s.required orgId ≤ (s.depositors orgId).length + (unpaid s orgId founders).length := by
  have hrun : Throughout (step cfg) (fun t => Kept cfg t ∧ (Underway s t orgId founders ∨
      s.required orgId ≤ (s.depositors orgId).length + (unpaid s orgId founders).length)) xs s := by
    refine throughout_of_along (fun x t t' ht hx hs => ⟨kept_step ht.1 hs, ?_⟩) ⟨hk, Or.inl ?_⟩
      (along_of_mem hxs)
    · exact ⟨hpending, fun _ => Iff.rfl, rfl, [], (List.append_nil _).symm, List.nil_subset _⟩
    · rcases ht.2 with hunderway | henough
      · exact hunderway.step ht.1 hx hs
      · exact Or.inr henough
  rcases hrun.last.2 with hunderway | henough
  · cases hunderway.pending.symm.trans hactive
  · exact henough

/-- When no deposit is missing, the next is not the last that is required. -/
theorem missing_of_activates (hk : Kept cfg s) (hpending : s.status orgId = some .pending)
    (h : Activates cfg now nowSecs s orgId founders) :
    (s.depositors orgId).length < s.required orgId := by
  by_contra hnone
  -- so nobody can pay
  have hrefused : ∀ ctx s', activateOrganization cfg ctx orgId s ≠ .ok s' := by
    intro ctx s' hs
    obtain ⟨caller, -, hdeposit⟩ := h.exact ctx s' hs
    obtain ⟨-, -, -, -, -, -, -, -, hstatus⟩ := activate_eq_ok hk hs
    rw [if_pos (by omega)] at hstatus
    have hlength := hdeposit.active.mp hstatus
    rw [hdeposit.last, List.length_append, List.length_singleton] at hlength
    omega
  obtain ⟨xs, hxs, hactive⟩ := h.completes
  have hrun : Throughout (step cfg) (fun t => t = s) xs s := by
    refine throughout_of_along (fun x t t' ht hx hs => ?_) rfl (along_of_mem hxs)
    subst ht
    obtain ⟨who, -, ⟨member, -, region, rfl⟩ | rfl⟩ := hx
    · exact absurd hs (addCrewMember_not_pending hpending)
    · exact absurd hs (hrefused _ _)
  rw [hrun.last, hpending] at hactive
  cases hactive

/-- **When founders can make an organization active.** -/
theorem activates_iff [LockableCurrency AccountId L] [UnlockedTransfers AccountId L]
    (hk : Kept cfg s) (hpending : s.status orgId = some .pending)
    (hfounders : Founders cfg s orgId founders) (now nowSecs : ℕ) :
    Activates cfg now nowSecs s orgId founders ↔ Enough s orgId founders := by
  constructor
  · intro h
    obtain ⟨xs, hxs, hactive⟩ := h.completes
    exact ⟨missing_of_activates hk hpending h, enough_of_active hk hpending hxs hactive⟩
  rintro ⟨hfew, hmany⟩
  refine ⟨?_, fun ctx s' hs => ?_, (hk.orgs orgId).distinct⟩
  · -- as many of them pay as are missing
    obtain ⟨missing, hmissing⟩ := Nat.exists_eq_add_of_lt hfew
    have hpayers : ∀ f ∈ (unpaid s orgId founders).take (missing + 1),
        f ∈ founders ∧ IsDirector s orgId f ∧ f ∉ s.depositors orgId := by
      intro f hf
      obtain ⟨hmem, hf⟩ := List.mem_filter.mp (List.mem_of_mem_take hf)
      exact ⟨hmem, of_decide_eq_true hf⟩
    have hlength : ((unpaid s orgId founders).take (missing + 1)).length = missing + 1 := by
      rw [List.length_take, Nat.min_eq_left (by omega)]
    refine ⟨_, ?_, run_deposits hk hpending ?_ ?_ ?_ ?_ (fun f hf => (hpayers f hf).2) now nowSecs⟩
    · intro x hx
      obtain ⟨f, hf, rfl⟩ := List.mem_map.mp hx
      exact ⟨f, (hpayers f hf).1, Or.inr rfl⟩
    · intro hnil
      rw [hnil] at hlength
      cases hlength
    · rw [hlength]
      omega
    · exact (hfounders.nodup.filter _).sublist (List.take_sublist _ _)
    · refine ⟨fun hmem => hfounders.keyless (hpayers _ hmem).1, fun f hf => ?_, fun f hf => ?_,
        hfounders.provided⟩
      · exact hfounders.unlocked f (hpayers f hf).1
      · exact hfounders.funded f (hpayers f hf).1
  · -- each deposit is the first of its founder and received in full, and the last activates
    obtain ⟨caller, hcaller, -, hfirst, hlast, hpay, -, -, hstatus⟩ := activate_eq_ok hk hs
    refine ⟨caller, hcaller, hfirst, hlast, hpay, fun hkeyless => ?_, ?_⟩
    · rcases Currency.transfer_cases hpay with ⟨hnothing, hsame⟩ | ⟨-, -, hmoved⟩
      · rcases hnothing with hzero | hself
        · rw [hsame, hzero, Nat.add_zero]
        · exact absurd hself hkeyless
      · exact hmoved.dest
    · rw [hlast, List.length_append, List.length_singleton, hstatus]
      constructor
      · intro hactive
        split at hactive
        · omega
        · cases hactive
      · intro hlength
        rw [if_pos hlength.ge]

/-- An organization whose number is its own has one director, who has not paid if nobody else is
required. -/
theorem enough_iff (hk : Kept cfg s) (hpending : s.status orgId = some .pending)
    (hfounders : Founders cfg s orgId founders) (hown : orgId < u32Max) :
    Enough s orgId founders ↔ s.required orgId = 1 := by
  obtain ⟨founder, hsole, hpaid, hfew⟩ := (hk.orgs orgId).pending hown hpending
  have hsome : s.status orgId ≠ none := by
    rw [hpending]
    exact Option.some_ne_none _
  obtain ⟨hpos, -⟩ := (hk.orgs orgId).required hsome
  constructor
  · rintro ⟨-, hmany⟩
    -- the founder alone can pay, and only once
    have hone : (s.depositors orgId ++ unpaid s orgId founders).length ≤ [founder].length := by
      refine (List.Nodup.subperm ?_ fun a ha => ?_).length_le
      · refine List.nodup_append.mpr ⟨(hk.orgs orgId).distinct, hfounders.nodup.filter _, ?_⟩
        rintro a ha b hb rfl
        exact (of_decide_eq_true (List.mem_filter.mp hb).2).2 ha
      · rw [List.mem_singleton]
        rcases List.mem_append.mp ha with ha | ha
        · exact hpaid a ha
        · exact (hsole a).mp (of_decide_eq_true (List.mem_filter.mp ha).2).1
    rw [List.length_append, List.length_singleton] at hone
    omega
  · intro hone
    have hnil : s.depositors orgId = [] := List.eq_nil_of_length_eq_zero (by omega)
    refine ⟨hfew, ?_⟩
    obtain ⟨f, hf, hdirector⟩ := hfounders.led
    have hmem : f ∈ unpaid s orgId founders := by
      refine List.mem_filter.mpr ⟨List.mem_of_head? hf, decide_eq_true ⟨hdirector, ?_⟩⟩
      rw [hnil]
      exact List.not_mem_nil
    have hposlength := List.length_pos_of_mem hmem
    omega

/-- **Founders can activate an organization just when it requires no other founder.** -/
theorem activation_iff [LockableCurrency AccountId L] [UnlockedTransfers AccountId L] (ledger : L)
    (citizens : C) (vaults : V) (xs : List (RuntimeInput AccountId L C V))
    (hs : run (runtimeStep cfg) xs (genesis ledger citizens vaults) = s)
    (hpending : s.status orgId = some .pending) (hfounders : Founders cfg s orgId founders)
    (now nowSecs : ℕ) :
    (Activates cfg now nowSecs s orgId founders ↔ Enough s orgId founders) ∧
      (orgId < u32Max → (Activates cfg now nowSecs s orgId founders ↔ s.required orgId = 1)) := by
  have hk : Kept cfg s := hs ▸ kept_run xs (kept_genesis ledger citizens vaults)
  have hiff := activates_iff hk hpending hfounders now nowSecs
  exact ⟨hiff, fun hown => hiff.trans (enough_iff hk hpending hfounders hown)⟩

end Activations

/-! ### In the small world -/

/-- The account 7 registers an organization of so many founders. -/
def registered (requiredFounders : ℕ) : Runtime.OrgState :=
  run (runtimeStep Runtime.orgs)
    [.org (Runtime.orgCall 7 0 (.registerOrganization [] 0 requiredFounders))] Runtime.orgGenesis

/-- Nothing is locked after a registration. -/
theorem registered_unlocked (requiredFounders : ℕ) (id : LockIdentifier) (f : ℕ) :
    lockAmount (registered requiredFounders).ledger id f = 0 := by
  have hledger : (registered requiredFounders).ledger = Runtime.orgGenesis.ledger := by
    change (exec (fun ctx => registerOrganization Runtime.orgs ctx [] 0 requiredFounders)
      ⟨.signed 7, 0, 0⟩ Runtime.orgGenesis).ledger = Runtime.orgGenesis.ledger
    refine exec_invariant (P := fun s : Runtime.OrgState => s.ledger = Runtime.orgGenesis.ledger)
      (fun ctx s s' hs hs' => ?_) rfl
    obtain ⟨_, -, -, _, -, rfl⟩ := registerOrganization_eq_ok.mp hs'
    exact hs
  rw [hledger]
  exact Balances.ofFree_lockAmount _ id f

theorem activation_iff_alone : Activates Runtime.orgs 1 0 (registered 1) 0 [7] := by
  have hfounders : Founders Runtime.orgs (registered 1) 0 [7] :=
    ⟨⟨by decide +kernel, fun f _ id => registered_unlocked _ id f, by decide +kernel,
      by decide +kernel⟩, List.nodup_singleton 7, by decide +kernel, by decide +kernel⟩
  exact ((activation_iff _ _ _ _ rfl (by decide +kernel) hfounders 1 0).2 (by decide)).mpr
    (by decide +kernel)

/-- An organization of two founders is never active. -/
theorem two_founders_stranded : (registered 2).status 0 = some .pending ∧
    Founders Runtime.orgs (registered 2) 0 [7, 8] ∧
      ¬ Activates Runtime.orgs 1 0 (registered 2) 0 [7, 8] := by
  have hpending : (registered 2).status 0 = some .pending := by decide +kernel
  have hfounders : Founders Runtime.orgs (registered 2) 0 [7, 8] :=
    ⟨⟨by decide +kernel, fun f _ id => registered_unlocked _ id f, by decide +kernel,
      by decide +kernel⟩, by decide, by decide +kernel, by decide +kernel⟩
  have hk : Kept Runtime.orgs (registered 2) := kept_run _ (kept_genesis _ _ _)
  refine ⟨hpending, hfounders, fun h => ?_⟩
  have henough := (activates_iff hk hpending hfounders 1 0).mp h
  revert henough
  decide +kernel

end Organizations
