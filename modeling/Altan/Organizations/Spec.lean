import Altan.Foundation.TransitionSystem
import Altan.Organizations.Model

/-!
# What the calls do to the organizations

An organization passes from pending to active and from active to delinquent; a tax return makes it
active again, and root may freeze it at any time. The punishment, alone or in a scan, makes active
organizations delinquent whose tax period is over, and leaves the ledger. No later proof looks into
a call again.

## Main definitions

* `State.status`: how an organization stands
* `Punishable`: the punishment makes an organization delinquent
* `Scanned`: the storage before and after some punishments
* `settled`: the organization an input registers, or files a tax return for
* `Turn`: how the standing of an organization changes in a step
* `IsDirector`: somebody is a director of an organization
* `RuntimeInput`, `runtimeStep`: the module among others

## Main results

* `applyPunishment_status`, `onInitialize_scanned`: the punishment and the scan
* `reportTaxEvasion_eq_ok`, ...: what a successful call has checked and changed
* `step_turn`: what an input does to the standing of an organization
-/

open Bounded Dispatch TransitionSystem

namespace Organizations

variable {AccountId L C V : Type} {cfg : Config AccountId L C V} {ctx : Context AccountId}
  {s s' : State AccountId L C V} {orgId now : ℕ}

/-- How an organization stands, if there is one under the number. -/
def State.status (s : State AccountId L C V) (orgId : ℕ) : Option OrgStatus :=
  (s.organizations.get orgId).map Organization.status

theorem status_of_get {org : Organization AccountId} (h : s.organizations.get orgId = some org) :
    s.status orgId = some org.status := by
  rw [State.status, h]
  rfl

/-- Writing the entry of one organization changes its standing alone. -/
theorem status_insert {org : Organization AccountId} {id : ℕ}
    (h : s'.organizations = s.organizations.insert orgId org) :
    s'.status id = if id = orgId then some org.status else s.status id := by
  rw [State.status, h, StorageMap.get_insert]
  split
  · rfl
  · rfl

/-! ### The punishment -/

/-- An active organization whose tax period is over. -/
def Punishable (cfg : Config AccountId L C V) (now : ℕ) (s : State AccountId L C V) (orgId : ℕ) :
    Prop :=
  ∃ org, s.organizations.get orgId = some org ∧ org.status = .active ∧ Overdue cfg now org

/-- An organization becomes delinquent. -/
def Detected (s s' : State AccountId L C V) (orgId : ℕ) : Prop :=
  s.status orgId = some .active ∧ s'.status orgId = some .delinquent

instance (s s' : State AccountId L C V) (orgId : ℕ) : Decidable (Detected s s' orgId) :=
  inferInstanceAs (Decidable (_ ∧ _))

/-- The storage before and after some punishments: active organizations become delinquent, and the
ledger is left. -/
structure Scanned (s s' : State AccountId L C V) : Prop where
  status : ∀ id, s'.status id = s.status id ∨ Detected s s' id
  ledger : s'.ledger = s.ledger

theorem Scanned.refl (s : State AccountId L C V) : Scanned s s := ⟨fun _ => Or.inl rfl, rfl⟩

theorem Scanned.trans {s₁ s₂ s₃ : State AccountId L C V} (h : Scanned s₁ s₂)
    (h' : Scanned s₂ s₃) : Scanned s₁ s₃ := by
  refine ⟨fun id => ?_, h'.ledger.trans h.ledger⟩
  rcases h.status id with hfirst | hfirst
  · rcases h'.status id with hsecond | hsecond
    · exact Or.inl (hsecond.trans hfirst)
    · exact Or.inr ⟨hfirst ▸ hsecond.1, hsecond.2⟩
  · rcases h'.status id with hsecond | hsecond
    · exact Or.inr ⟨hfirst.1, hsecond.trans hfirst.2⟩
    -- a delinquent organization is not active
    · have hne := hfirst.2.symm.trans hsecond.1
      cases hne

theorem accruePenalty_organizations :
    (accruePenalty cfg orgId now s).organizations = s.organizations := by
  dsimp only [accruePenalty]
  split
  · rfl
  · rfl

theorem accruePenalty_ledger : (accruePenalty cfg orgId now s).ledger = s.ledger := by
  dsimp only [accruePenalty]
  split
  · rfl
  · rfl

variable [DecidableEq AccountId]

/-- **What the punishment does to the standing of the organizations.** -/
theorem applyPunishment_status (cfg : Config AccountId L C V) (orgId now : ℕ)
    (s : State AccountId L C V) (id : ℕ) [Decidable (Punishable cfg now s orgId)] :
    (applyPunishment cfg orgId now s).1.status id =
      if id = orgId ∧ Punishable cfg now s orgId then some .delinquent else s.status id := by
  by_cases hpunishable : Punishable cfg now s orgId
  -- the entry is written, and nobody else's
  · have ⟨org, hget, hactive, hoverdue⟩ := hpunishable
    have hmark : (accruePenalty cfg orgId now (markDelinquent cfg orgId now s)).organizations =
        s.organizations.insert orgId { org with status := .delinquent } := by
      rw [accruePenalty_organizations]
      exact StorageMap.modify_of_get hget
    simp only [applyPunishment, hget, hactive, if_pos hoverdue, decide_true, if_true]
    rw [status_insert hmark]
    exact if_congr (and_iff_left hpunishable).symm rfl rfl
  · rw [if_neg fun h => hpunishable h.2, State.status, State.status]
    congr 2
    unfold applyPunishment
    split
    · rfl
    · next org hget =>
      split
      · next hoverdue =>
        have hnot : ¬ org.status = .active := fun hactive =>
          hpunishable ⟨org, hget, hactive, hoverdue⟩
        simp only [hnot, decide_false, Bool.false_eq_true, if_false]
        exact accruePenalty_organizations
      · rfl

theorem applyPunishment_ledger (cfg : Config AccountId L C V) (orgId now : ℕ)
    (s : State AccountId L C V) : (applyPunishment cfg orgId now s).1.ledger = s.ledger := by
  unfold applyPunishment
  split
  · rfl
  · split
    · dsimp only
      rw [accruePenalty_ledger]
      split
      · rfl
      · rfl
    · rfl

theorem applyPunishment_scanned (cfg : Config AccountId L C V) (orgId now : ℕ)
    (s : State AccountId L C V) : Scanned s (applyPunishment cfg orgId now s).1 := by
  classical
  refine ⟨fun id => ?_, applyPunishment_ledger cfg orgId now s⟩
  by_cases hid : id = orgId ∧ Punishable cfg now s orgId
  · refine Or.inr ⟨?_, by rw [applyPunishment_status, if_pos hid]⟩
    obtain ⟨rfl, org, hget, hactive, -⟩ := hid
    rw [status_of_get hget, hactive]
  · exact Or.inl (by rw [applyPunishment_status, if_neg hid])

/-- **An organization that is punished while it is punishable is detected.** -/
theorem applyPunishment_detected (h : Punishable cfg now s orgId) :
    Detected s (applyPunishment cfg orgId now s).1 orgId := by
  classical
  refine ⟨?_, by rw [applyPunishment_status, if_pos ⟨rfl, h⟩]⟩
  obtain ⟨org, hget, hactive, -⟩ := h
  rw [status_of_get hget, hactive]

theorem scanOrg_scanned (cfg : Config AccountId L C V) (now orgId : ℕ)
    (s : State AccountId L C V) : Scanned s (scanOrg cfg now orgId s) := by
  unfold scanOrg
  split
  · split
    · exact applyPunishment_scanned cfg orgId now s
    · exact Scanned.refl s
  · exact Scanned.refl s

theorem scan_scanned (cfg : Config AccountId L C V) (now totalOrgs cursor rounds i next : ℕ)
    (s : State AccountId L C V) :
    Scanned s (scan cfg now totalOrgs cursor rounds i next s).1 := by
  induction rounds generalizing i next s with
  | zero => exact Scanned.refl s
  | succ rounds ih =>
    have hfirst := scanOrg_scanned cfg now (wrappingAdd u32Max cursor i % totalOrgs) s
    simp only [scan]
    split
    · exact hfirst
    · exact hfirst.trans (ih _ _ _)

/-- **What the scan does.** -/
theorem onInitialize_scanned (cfg : Config AccountId L C V) (now : ℕ)
    (s : State AccountId L C V) : Scanned s (onInitialize cfg now s) := by
  unfold onInitialize
  split
  · exact Scanned.refl s
  · have h := scan_scanned cfg now s.nextOrgId s.orgScanCursor cfg.maxOrgsPerBlock 0
      s.orgScanCursor s
    exact ⟨h.status, h.ledger⟩

/-! ### The calls -/

theorem registerOrganization_eq_ok {name : List UInt8} {hqRegion requiredFounders : ℕ} :
    registerOrganization cfg ctx name hqRegion requiredFounders s = .ok s' ↔
      ∃ caller, ctx.origin = .signed caller ∧ max requiredFounders 1 ≤ maxFounders ∧
        ∃ bounded : BoundedVec UInt8 maxNameLength, bounded.val = name ∧ s' = { s with
          organizations := s.organizations.insert s.nextOrgId
            ⟨bounded, hqRegion, .pending, deriveOrgAccount cfg s.nextOrgId, ctx.now, ctx.now⟩
          crewMembers := s.crewMembers.insert (s.nextOrgId, caller)
            ⟨.director, hqRegion, ctx.now⟩
          orgRequiredFounders := s.orgRequiredFounders.insert s.nextOrgId
            (max requiredFounders 1)
          nextOrgId := saturatingAdd u32Max s.nextOrgId 1 } := by
  simp only [registerOrganization, ensureSigned_bind_eq_ok, ensure_bind_eq_ok,
    required_bind_eq_ok, BoundedVec.tryFrom_eq_some, pure_eq_ok, eq_comm (a := s')]

theorem ensureDirector_bind_eq_ok {caller : AccountId} {α : Type} {k : Unit → Result α} {a : α} :
    (ensureDirector caller orgId s >>= k) = .ok a ↔ s.organizations.containsKey orgId = true ∧
      (∃ crew, s.crewMembers.get (orgId, caller) = some crew ∧ crew.role = .director) ∧
        k () = .ok a := by
  simp only [ensureDirector, bind_assoc, ensure_bind_eq_ok, required_bind_eq_ok]
  refine and_congr_right fun _ => ?_
  constructor
  · rintro ⟨crew, hget, hrole, hk⟩
    exact ⟨⟨crew, hget, hrole⟩, hk⟩
  · rintro ⟨⟨crew, hget, hrole⟩, hk⟩
    exact ⟨crew, hget, hrole, hk⟩

omit [DecidableEq AccountId] in
theorem declareTax_eq_ok {declaration : TaxDeclaration} :
    declareTax declaration s = .ok s' ↔ ∃ org,
      s.organizations.get declaration.orgId = some org ∧ s' = { s with
        taxDeclarations := s.taxDeclarations.insert s.nextDeclarationId declaration
        nextDeclarationId := saturatingAdd u32Max s.nextDeclarationId 1
        organizations := s.organizations.insert declaration.orgId
          { org with
            lastTaxPeriodPaid := declaration.timestamp
            status := if org.status = .delinquent then .active else org.status }
        orgPenaltyDebt := s.orgPenaltyDebt.remove declaration.orgId
        lastPenaltyBlock := s.lastPenaltyBlock.remove declaration.orgId } := by
  simp only [declareTax, required_bind_eq_ok, pure_eq_ok, eq_comm (a := s')]

omit [DecidableEq AccountId] in
theorem freezeOrganization_eq_ok : freezeOrganization ctx orgId s = .ok s' ↔
    ctx.origin = .root ∧ ∃ org, s.organizations.get orgId = some org ∧ s' = { s with
      organizations := s.organizations.insert orgId { org with status := .frozen } } := by
  simp only [freezeOrganization, ensureRoot_bind_eq_ok, required_bind_eq_ok, pure_eq_ok,
    eq_comm (a := s')]

/-- Somebody is a director of an organization. -/
def IsDirector (s : State AccountId L C V) (orgId : ℕ) (who : AccountId) : Prop :=
  ∃ crew ∈ s.crewMembers.get (orgId, who), crew.role = .director

instance (s : State AccountId L C V) (orgId : ℕ) : DecidablePred (IsDirector s orgId) :=
  fun who => inferInstanceAs (Decidable (∃ crew ∈ s.crewMembers.get (orgId, who), _))

theorem addCrewMember_eq_ok {member : AccountId} {role : OrgRole} {regionAssigned : ℕ} :
    addCrewMember ctx orgId member role regionAssigned s = .ok s' ↔
      ∃ caller, ctx.origin = .signed caller ∧ ∃ org, s.organizations.get orgId = some org ∧
        org.status ≠ .frozen ∧ org.status ≠ .pending ∧ IsDirector s orgId caller ∧
          s.crewMembers.get (orgId, member) = none ∧ s' = { s with
            crewMembers := s.crewMembers.insert (orgId, member)
              ⟨role, regionAssigned, ctx.now⟩ } := by
  simp only [addCrewMember, ensureSigned_bind_eq_ok, ensure_bind_eq_ok, required_bind_eq_ok,
    ensureDirector_bind_eq_ok, StorageMap.not_containsKey, pure_eq_ok, eq_comm (a := s'),
    IsDirector, Option.mem_def]
  constructor
  · rintro ⟨caller, hcaller, org, hget, hfrozen, hpending, -, hdirector, hnew, hs⟩
    exact ⟨caller, hcaller, org, hget, hfrozen, hpending, hdirector, hnew, hs⟩
  · rintro ⟨caller, hcaller, org, hget, hfrozen, hpending, hdirector, hnew, hs⟩
    exact ⟨caller, hcaller, org, hget, hfrozen, hpending,
      StorageMap.containsKey_iff.mpr ⟨org, hget⟩, hdirector, hnew, hs⟩

theorem addCrewMember_organizations {member : AccountId} {role : OrgRole} {regionAssigned : ℕ}
    (h : addCrewMember ctx orgId member role regionAssigned s = .ok s') :
    s'.organizations = s.organizations := by
  obtain ⟨-, -, -, -, -, -, -, -, rfl⟩ := addCrewMember_eq_ok.mp h
  rfl

variable [Currency AccountId L]

theorem reportTaxEvasion_eq_ok : reportTaxEvasion cfg ctx orgId s = .ok s' ↔
    ∃ reporter, ctx.origin = .signed reporter ∧ ∃ org, s.organizations.get orgId = some org ∧
      org.status ≠ .frozen ∧ org.status ≠ .delinquent ∧ Overdue cfg ctx.now org ∧
        s' = payAuditor cfg reporter (applyPunishment cfg orgId ctx.now s).1 := by
  simp only [reportTaxEvasion, ensureSigned_bind_eq_ok, ensure_bind_eq_ok, required_bind_eq_ok,
    pure_eq_ok, eq_comm (a := s')]

omit [DecidableEq AccountId] [Currency AccountId L] in
/-- How many founders an organization requires. -/
def State.required (s : State AccountId L C V) (orgId : ℕ) : ℕ := s.orgRequiredFounders.getD orgId 0

omit [DecidableEq AccountId] [Currency AccountId L] in
/-- The storage after a deposit: the organization is active once all have paid. -/
def deposited (orgId : ℕ) (org : Organization AccountId) (ledger : L)
    (deposits : BoundedVec (FounderDeposit AccountId) maxFounders) (s : State AccountId L C V) :
    State AccountId L C V :=
  { s with
    ledger := ledger
    orgFounderDeposits := s.orgFounderDeposits.insert orgId deposits
    organizations := if s.required orgId ≤ deposits.val.length then
      s.organizations.insert orgId { org with status := .active } else s.organizations }

theorem activateOrganization_eq_ok : activateOrganization cfg ctx orgId s = .ok s' ↔
    ∃ caller, ctx.origin = .signed caller ∧ ∃ org, s.organizations.get orgId = some org ∧
      org.status = .pending ∧ IsDirector s orgId caller ∧
        (∀ d ∈ (s.deposits orgId).val, d.founder ≠ caller) ∧
          ∃ ledger, Currency.transfer s.ledger caller org.bankAccountId cfg.orgActivationDeposit
              .keepAlive = .ok ledger ∧
            ∃ deposits : BoundedVec (FounderDeposit AccountId) maxFounders,
              deposits.val =
                  (s.deposits orgId).val ++ [⟨caller, cfg.orgActivationDeposit, ctx.now⟩] ∧
                s' = deposited orgId org ledger deposits s := by
  -- the last step, either way
  have hlast : ∀ (org : Organization AccountId) (ledger : L)
      (deposits : BoundedVec (FounderDeposit AccountId) maxFounders),
      (if s.orgRequiredFounders.getD orgId 0 ≤ deposits.val.length then
        { s with
          ledger := ledger
          orgFounderDeposits := s.orgFounderDeposits.insert orgId deposits
          organizations := s.organizations.insert orgId { org with status := .active } }
      else
        { s with
          ledger := ledger
          orgFounderDeposits := s.orgFounderDeposits.insert orgId deposits }) =
        deposited orgId org ledger deposits s := by
    intro org ledger deposits
    unfold deposited State.required
    split <;> rfl
  simp only [activateOrganization, ensureSigned_bind_eq_ok, ensure_bind_eq_ok,
    required_bind_eq_ok, ensureDirector_bind_eq_ok, liftCurrency_bind_eq_ok,
    BoundedVec.tryFrom_eq_some, pure_eq_ok, hlast, eq_comm (a := s'), IsDirector, Option.mem_def]
  constructor
  · rintro ⟨caller, hcaller, org, hget, hpending, -, hdirector, hfirst, hpaid⟩
    exact ⟨caller, hcaller, org, hget, hpending, hdirector, hfirst, hpaid⟩
  · rintro ⟨caller, hcaller, org, hget, hpending, hdirector, hfirst, hpaid⟩
    exact ⟨caller, hcaller, org, hget, hpending, StorageMap.containsKey_iff.mpr ⟨org, hget⟩,
      hdirector, hfirst, hpaid⟩

/-- A deposit leaves the standing of the organization or makes it active. -/
theorem activateOrganization_organizations (h : activateOrganization cfg ctx orgId s = .ok s') :
    ∃ org, s.organizations.get orgId = some org ∧ org.status = .pending ∧
      (s'.organizations = s.organizations ∨
        s'.organizations = s.organizations.insert orgId { org with status := .active }) := by
  obtain ⟨-, -, org, hget, hpending, -, -, ledger, -, deposits, -, rfl⟩ :=
    activateOrganization_eq_ok.mp h
  refine ⟨org, hget, hpending, ?_⟩
  unfold deposited
  dsimp only
  split
  · exact Or.inr rfl
  · exact Or.inl rfl

/-- A tax return is entered in the filing period, once the tax is paid. -/
theorem fileTaxReturn_declareTax {regionId declaredProfit amount : ℕ} {documentHash : Bytes32}
    (h : fileTaxReturn cfg ctx orgId regionId declaredProfit amount documentHash s = .ok s') :
    ensureWithinFilingPeriod ctx.nowSecs = .ok () ∧ ∃ declaration ledger,
      declaration.orgId = orgId ∧ declaration.timestamp = ctx.now ∧
        declareTax declaration { s with ledger := ledger } = .ok s' := by
  simp only [fileTaxReturn, ensureSigned_bind_eq_ok, ensure_bind_eq_ok, required_bind_eq_ok,
    ensureDirector_bind_eq_ok] at h
  obtain ⟨_, -, _, -, -, -, -, h⟩ := h
  obtain ⟨_, hperiod, h⟩ := bind_eq_ok.mp h
  simp only [ensure_bind_eq_ok, mapError_bind_eq_ok] at h
  obtain ⟨-, _, -, ledger, -, h⟩ := h
  exact ⟨hperiod, _, ledger, rfl, rfl, h⟩

theorem fileTaxReturnZk_declareTax {regionId declaredProfit amountPaid : ℕ}
    {nullifier commitment documentHash : Bytes32}
    (h : fileTaxReturnZk cfg ctx orgId regionId declaredProfit nullifier commitment amountPaid
      documentHash s = .ok s') :
    ensureWithinFilingPeriod ctx.nowSecs = .ok () ∧ ∃ declaration ledger vaults,
      declaration.orgId = orgId ∧ declaration.timestamp = ctx.now ∧
        declareTax declaration { s with vaults := vaults, ledger := ledger } = .ok s' := by
  simp only [fileTaxReturnZk, ensureSigned_bind_eq_ok, ensure_bind_eq_ok, required_bind_eq_ok,
    ensureDirector_bind_eq_ok] at h
  obtain ⟨_, -, _, -, -, -, -, h⟩ := h
  obtain ⟨_, hperiod, h⟩ := bind_eq_ok.mp h
  simp only [ensure_bind_eq_ok, mapError_bind_eq_ok] at h
  obtain ⟨-, -, ⟨vaults, _⟩, -, ledger, -, h⟩ := h
  exact ⟨hperiod, _, ledger, vaults, rfl, rfl, h⟩

theorem spendOrgFunds_organizations {beneficiary : AccountId} {amount : ℕ}
    (h : spendOrgFunds ctx orgId beneficiary amount s = .ok s') :
    s'.organizations = s.organizations := by
  simp only [spendOrgFunds, ensureSigned_bind_eq_ok, ensure_bind_eq_ok, required_bind_eq_ok,
    ensureDirector_bind_eq_ok, mapError_bind_eq_ok, pure_eq_ok] at h
  obtain ⟨_, -, _, -, -, -, -, _, -, rfl⟩ := h
  rfl

/-! ### The standing of an organization -/

omit [DecidableEq AccountId] [Currency AccountId L] in
/-- The organization an input registers, or files a tax return for. -/
def settled (s : State AccountId L C V) : Input AccountId → Option ℕ
  | .call _ (.registerOrganization ..) => some s.nextOrgId
  | .call _ (.fileTaxReturn orgId ..) | .call _ (.fileTaxReturnZk orgId ..) => some orgId
  | _ => none

/-- How the standing of an organization changes: not at all, by an input that settles it, from
pending to active, from active to delinquent, or to frozen. -/
inductive Turn (settled : Option ℕ) (s s' : State AccountId L C V) (id : ℕ) : Prop
  | same (h : s'.status id = s.status id)
  | settled (h : settled = some id)
  | activated (h : s.status id = some .pending) (h' : s'.status id = some .active)
  | detected (h : Detected s s' id)
  | frozen (h : s'.status id = some .frozen)

omit [DecidableEq AccountId] [Currency AccountId L] in
theorem Turn.of_insert {org : Organization AccountId} {o : Option ℕ} {id : ℕ}
    (h : s'.organizations = s.organizations.insert orgId org)
    (hturn : s'.status orgId = some org.status → Turn o s s' orgId) : Turn o s s' id := by
  by_cases hid : id = orgId
  · rw [hid]
    exact hturn (by rw [status_insert h, if_pos rfl])
  · exact .same (by rw [status_insert h, if_neg hid])

omit [DecidableEq AccountId] [Currency AccountId L] in
theorem Scanned.turn (h : Scanned s s') (o : Option ℕ) (id : ℕ) : Turn o s s' id := by
  rcases h.status id with hsame | hdetected
  · exact .same hsame
  · exact .detected hdetected

/-- **What an input does to the standing of an organization.** -/
theorem step_turn {x : Input AccountId} (h : step cfg x s = .ok s') (id : ℕ) :
    Turn (settled s x) s s' id := by
  have hsame : s'.organizations = s.organizations → Turn (settled s x) s s' id := fun h =>
    .same (by rw [State.status, h, State.status])
  cases x with
  | onInitialize now =>
    rw [← Except.ok.inj h]
    exact (onInitialize_scanned cfg now s).turn _ id
  | call ctx c =>
    cases c with
    | registerOrganization name hqRegion requiredFounders =>
      obtain ⟨caller, -, -, bounded, -, rfl⟩ := registerOrganization_eq_ok.mp h
      exact Turn.of_insert rfl fun _ => .settled rfl
    | activateOrganization orgId =>
      obtain ⟨org, hget, hpending, hkept | hactive⟩ := activateOrganization_organizations h
      · exact hsame hkept
      · exact Turn.of_insert hactive fun hstatus =>
          .activated (by rw [status_of_get hget, hpending]) hstatus
    | addCrewMember orgId member role regionAssigned =>
      exact hsame (addCrewMember_organizations h)
    | fileTaxReturn orgId regionId declaredProfit amount documentHash =>
      obtain ⟨-, declaration, ledger, rfl, -, hdeclare⟩ := fileTaxReturn_declareTax h
      obtain ⟨org, -, rfl⟩ := declareTax_eq_ok.mp hdeclare
      exact Turn.of_insert rfl fun _ => .settled rfl
    | reportTaxEvasion orgId =>
      obtain ⟨reporter, -, org, -, -, -, -, rfl⟩ := reportTaxEvasion_eq_ok.mp h
      rcases (applyPunishment_scanned cfg orgId ctx.now s).status id with hkept | hdetected
      · exact .same hkept
      · exact .detected hdetected
    | freezeOrganization orgId =>
      obtain ⟨-, org, -, rfl⟩ := freezeOrganization_eq_ok.mp h
      exact Turn.of_insert rfl .frozen
    | fileTaxReturnZk orgId regionId declaredProfit nullifier commitment amountPaid documentHash =>
      obtain ⟨-, declaration, ledger, vaults, rfl, -, hdeclare⟩ := fileTaxReturnZk_declareTax h
      obtain ⟨org, -, rfl⟩ := declareTax_eq_ok.mp hdeclare
      exact Turn.of_insert rfl fun _ => .settled rfl
    | spendOrgFunds orgId beneficiary amount =>
      exact hsame (spendOrgFunds_organizations h)

/-! ### Among other modules -/

/-- An input, or what happens to the ledger, the citizens and the vaults elsewhere. -/
inductive RuntimeInput (AccountId L C V : Type)
  | org (x : Input AccountId)
  | elsewhere (ledger : L) (citizens : C) (vaults : V)

/-- The state after one input. -/
def runtimeStep (cfg : Config AccountId L C V) :
    RuntimeInput AccountId L C V → State AccountId L C V → Result (State AccountId L C V)
  | .org x, s => step cfg x s
  | .elsewhere ledger citizens vaults, s =>
    .ok { s with
      ledger := ledger
      citizens := citizens
      vaults := vaults }

end Organizations
