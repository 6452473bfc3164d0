import Altan.BankOfSiberia.Spec
import Altan.Foundation.TransitionSystem
import Altan.Runtime.Model

/-!
# Who acts for the banking branch

A key is legitimate when root ordered its creation, or a holder of a legitimate key of the same
organisation handed it out. Identifiers of organisations are given out in order to anyone, so
the keys of the organisations 1 and 2, which act for the two banks, are legitimate exactly in the
runs in which root orders the second and the third creation of an organisation.

## Main definitions

* `Traced`, `tracedStep`: the runtime with the legitimate keys as history
* `Legitimate`: whoever acts for a bank holds a legitimate key
* `CreatedByRoot`: what an extrinsic must meet for that to go on

## Main results

* `legitimate_step_iff`: an accepted extrinsic keeps the branch legitimate exactly when it meets
  `CreatedByRoot`
* `legitimate_throughout_iff`: the same of runs; and without orders of root nobody acts for a bank
* `second_organisation_seizes`: the creator of two organisations mints
-/

open Dispatch TransitionSystem

namespace Runtime

/-- The storage, with the keys that are legitimate. -/
structure Traced (AccountId L : Type) where
  state : State AccountId L
  legitimate : Finset (ℕ × AccountId)

variable {AccountId L : Type} [DecidableEq AccountId]

/-- The legitimate keys after an extrinsic: a new key is legitimate when root ordered it or its
minter's key is. -/
def legitimateAfter (x : Extrinsic AccountId) (t : Traced AccountId L) :
    Finset (ℕ × AccountId) :=
  match x.call, x.authority.origin with
  | .orgRoles (.createOrganization _ _ _), .signed owner =>
    if x.authority.OfRoot then insert (t.state.orgRoles.nextOrgId, owner) t.legitimate
    else t.legitimate.erase (t.state.orgRoles.nextOrgId, owner)
  | .orgRoles (.mintRoleKey orgId targetAccount _), .signed minter =>
    if x.authority.OfRoot ∨ (orgId, minter) ∈ t.legitimate then
      insert (orgId, targetAccount) t.legitimate
    else t.legitimate.erase (orgId, targetAccount)
  | .orgRoles (.revokeRoleKey orgId targetAccount), _ =>
    t.legitimate.erase (orgId, targetAccount)
  | _, _ => t.legitimate

/-- The organisations that act for a bank. -/
def bankingOrgs : List ℕ := [cbOrgId, boSOrgId]

/-- Whoever passes as an officer of a bank holds a legitimate key. -/
def Legitimate (t : Traced AccountId L) : Prop :=
  ∀ orgId ∈ bankingOrgs, ∀ who,
    ensureOrgOfficer orgId t.state.orgRoles (.signed who) = true → (orgId, who) ∈ t.legitimate

/-- What an extrinsic must meet for the officers of the banks to stay legitimate: the
organisations of the banks are created by order of root. -/
def CreatedByRoot (t : Traced AccountId L) (x : Extrinsic AccountId) : Prop :=
  match x.call with
  | .orgRoles (.createOrganization _ _ _) =>
    x.authority.OfRoot ∨ t.state.orgRoles.nextOrgId ∉ bankingOrgs
  | _ => True

instance (t : Traced AccountId L) (x : Extrinsic AccountId) : Decidable (CreatedByRoot t x) := by
  unfold CreatedByRoot
  split <;> infer_instance

section Keys

variable {orgId : ℕ} {who : AccountId} {s : OrgRoles.State AccountId}

theorem ensureOrgOfficer_signed : ensureOrgOfficer orgId s (.signed who) = true ↔
    ∃ tier, s.issuedKeys.get (orgId, who) = some tier ∧ tier ≠ .member := by
  cases hkey : s.issuedKeys.get (orgId, who) with
  | none => simp [ensureOrgOfficer, hkey]
  | some tier => cases tier <;> simp [ensureOrgOfficer, hkey]

end Keys

section Calls

variable {x : Extrinsic AccountId} {t : Traced AccountId L} {o : OrgRoles.State AccountId}
  {b : BankOfSiberia.State AccountId L} {orgId : ℕ} {targetAccount : AccountId}

/-- When one key changes, the branch is legitimate if that key is, should it be an officer's of a
bank. -/
theorem legitimate_of_changed_key (key : ℕ × AccountId) {legitimate : Finset (ℕ × AccountId)}
    (ht : Legitimate t)
    (hothers : ∀ k, k ≠ key → o.issuedKeys.get k = t.state.orgRoles.issuedKeys.get k)
    (hkept : ∀ k, k ≠ key → k ∈ t.legitimate → k ∈ legitimate)
    (hkey : key.1 ∈ bankingOrgs → ∀ tier, o.issuedKeys.get key = some tier → tier ≠ .member →
      key ∈ legitimate) :
    Legitimate ⟨⟨o, b⟩, legitimate⟩ := by
  intro id hid who hwho
  obtain ⟨tier, htier, hne⟩ := ensureOrgOfficer_signed.mp hwho
  by_cases hk : (id, who) = key
  · rw [hk] at htier ⊢
    exact hkey (hk ▸ hid) tier htier hne
  · apply hkept _ hk
    rw [hothers _ hk] at htier
    exact ht id hid who (ensureOrgOfficer_signed.mpr ⟨tier, htier, hne⟩)

/-- A new organisation gives its creator a key, legitimate when root ordered it. -/
theorem legitimate_create_iff (ht : Legitimate t) {name : List UInt8}
    {maxOfficers maxMembers : ℕ} (hcall : x.call = .orgRoles
      (.createOrganization name maxOfficers maxMembers))
    (h : OrgRoles.createOrganization orgMaxNameLength x.authority.origin name maxOfficers
      maxMembers t.state.orgRoles = .ok o) :
    Legitimate ⟨⟨o, b⟩, legitimateAfter x t⟩ ↔
      x.authority.OfRoot ∨ t.state.orgRoles.nextOrgId ∉ bankingOrgs := by
  obtain ⟨owner, horigin, _, rfl⟩ := OrgRoles.createOrganization_eq_ok.mp h
  have hafter : legitimateAfter x t = if x.authority.OfRoot then
      insert (t.state.orgRoles.nextOrgId, owner) t.legitimate
      else t.legitimate.erase (t.state.orgRoles.nextOrgId, owner) := by
    unfold legitimateAfter
    rw [hcall, horigin]
  rw [hafter]
  constructor
  · intro hl
    by_contra hc
    obtain ⟨hroot, hbank⟩ := not_or.mp hc
    -- otherwise the creator passes with a key that was not ordered
    have hmem := hl _ (not_not.mp hbank) owner
      (ensureOrgOfficer_signed.mpr ⟨.root, StorageMap.get_insert_self, nofun⟩)
    rw [if_neg hroot] at hmem
    exact Finset.notMem_erase _ _ hmem
  · intro hq
    apply legitimate_of_changed_key (t.state.orgRoles.nextOrgId, owner) ht
    · intro k hk
      exact StorageMap.get_insert_of_ne hk
    · intro k hk hmem
      split
      · exact Finset.mem_insert_of_mem hmem
      · exact Finset.mem_erase_of_ne_of_mem hk hmem
    · intro hbank _ _ _
      rw [if_pos (hq.resolve_right (not_not.mpr hbank))]
      exact Finset.mem_insert_self _ _

/-- A key of an officer or root is handed out by a legitimate holder. -/
theorem legitimate_mint (ht : Legitimate t) {tier : OrgRoles.RoleTier}
    (hcall : x.call = .orgRoles (.mintRoleKey orgId targetAccount tier))
    (h : OrgRoles.mintRoleKey x.authority.origin orgId targetAccount tier t.state.orgRoles =
      .ok o) :
    Legitimate ⟨⟨o, b⟩, legitimateAfter x t⟩ := by
  obtain ⟨minter, minterTier, horigin, hminter, hmay, rfl⟩ := OrgRoles.mintRoleKey_ok h
  have hafter : legitimateAfter x t =
      if x.authority.OfRoot ∨ (orgId, minter) ∈ t.legitimate then
        insert (orgId, targetAccount) t.legitimate
      else t.legitimate.erase (orgId, targetAccount) := by
    unfold legitimateAfter
    rw [hcall, horigin]
  rw [hafter]
  apply legitimate_of_changed_key (orgId, targetAccount) ht
  · intro k hk
    exact StorageMap.get_insert_of_ne hk
  · intro k hk hmem
    split
    · exact Finset.mem_insert_of_mem hmem
    · exact Finset.mem_erase_of_ne_of_mem hk hmem
  · intro hbank tier' htier hne
    -- a key above a member's comes from a root key, which is legitimate
    have hroot : minterTier = .root := by
      rcases hmay with hroot | ⟨_, hmember⟩
      · exact hroot
      · rw [StorageMap.get_insert_self] at htier
        exact absurd ((Option.some.inj htier).symm.trans hmember) hne
    have hmem := ht orgId hbank minter
      (ensureOrgOfficer_signed.mpr ⟨minterTier, hminter, hroot ▸ nofun⟩)
    rw [if_pos (Or.inr hmem)]
    exact Finset.mem_insert_self _ _

/-- A revoked key is nobody's. -/
theorem legitimate_revoke (ht : Legitimate t)
    (hcall : x.call = .orgRoles (.revokeRoleKey orgId targetAccount))
    (h : OrgRoles.revokeRoleKey x.authority.origin orgId targetAccount t.state.orgRoles = .ok o) :
    Legitimate ⟨⟨o, b⟩, legitimateAfter x t⟩ := by
  have hafter : legitimateAfter x t = t.legitimate.erase (orgId, targetAccount) := by
    unfold legitimateAfter
    rw [hcall]
  rw [hafter, OrgRoles.revokeRoleKey_ok h]
  apply legitimate_of_changed_key (orgId, targetAccount) ht
  · intro k hk
    exact StorageMap.get_remove_of_ne hk
  · intro k hk hmem
    exact Finset.mem_erase_of_ne_of_mem hk hmem
  · intro _ tier htier _
    rw [StorageMap.get_remove_self] at htier
    cases htier

end Calls

section Steps

variable [Currency AccountId L] [CentralBank.ProxyModule AccountId L] [LockableCurrency AccountId L]
  {cfg : BankOfSiberia.Config AccountId}

/-- One extrinsic, with the legitimate keys. -/
def tracedStep (cfg : BankOfSiberia.Config AccountId) (x : Extrinsic AccountId)
    (t : Traced AccountId L) : Result (Traced AccountId L) := do
  let state ← step cfg x t.state
  return ⟨state, legitimateAfter x t⟩

theorem tracedStep_eq_ok {x : Extrinsic AccountId} {t t' : Traced AccountId L} :
    tracedStep cfg x t = .ok t' ↔
      ∃ state, step cfg x t.state = .ok state ∧ t' = ⟨state, legitimateAfter x t⟩ := by
  simp only [tracedStep, bind_eq_ok, pure_eq_ok, eq_comm (a := t')]

/-- **The exact condition of one extrinsic.** -/
theorem legitimate_step_iff {x : Extrinsic AccountId} {t t' : Traced AccountId L}
    (ht : Legitimate t) (h : tracedStep cfg x t = .ok t') : Legitimate t' ↔ CreatedByRoot t x := by
  obtain ⟨⟨o, b⟩, hs, rfl⟩ := tracedStep_eq_ok.mp h
  rcases step_orgRoles hs with ⟨call, hcall, ho⟩ | ⟨hother, ho⟩
  · simp only [CreatedByRoot]
    rw [hcall]
    cases call with
    | createOrganization name maxOfficers maxMembers =>
      exact legitimate_create_iff ht hcall ho
    | mintRoleKey orgId targetAccount tier =>
      exact iff_of_true (legitimate_mint ht hcall ho) trivial
    | revokeRoleKey orgId targetAccount =>
      exact iff_of_true (legitimate_revoke ht hcall ho) trivial
  -- no other call touches the registry or the legitimate keys
  · have hafter : legitimateAfter x t = t.legitimate := by
      unfold legitimateAfter
      split <;> first | rfl | exact absurd ‹_› (hother _)
    have hq : CreatedByRoot t x := by
      unfold CreatedByRoot
      split
      · exact absurd ‹_› (hother _)
      · trivial
    refine iff_of_true ?_ hq
    rw [hafter]
    intro orgId hid who hwho
    change ensureOrgOfficer orgId o (.signed who) = true at hwho
    rw [show o = t.state.orgRoles from ho] at hwho
    exact ht orgId hid who hwho

/-- The legitimate keys do not change what the runtime does. -/
theorem tracedStep_run (xs : List (Extrinsic AccountId)) (t : Traced AccountId L) :
    (run (tracedStep cfg) xs t).state = run (step cfg) xs t.state := by
  induction xs generalizing t with
  | nil => rfl
  | cons x xs ih =>
    rw [run_cons, run_cons, ih]
    congr 1
    cases hx : step cfg x t.state with
    | ok s =>
      have hok : tracedStep cfg x t = .ok ⟨s, legitimateAfter x t⟩ :=
        tracedStep_eq_ok.mpr ⟨s, hx, rfl⟩
      rw [exec_ok hx, exec_ok hok]
    | error e =>
      have herror : tracedStep cfg x t = .error e := by
        unfold tracedStep
        rw [hx]
        rfl
      rw [exec_error hx, exec_error herror]

/-- Without orders of root no key is legitimate. -/
theorem legitimate_eq_empty (cfg : BankOfSiberia.Config AccountId)
    {xs : List (Extrinsic AccountId)} (hxs : ∀ x ∈ xs, ¬ x.authority.OfRoot)
    {t : Traced AccountId L} (ht : t.legitimate = ∅) :
    (run (tracedStep cfg) xs t).legitimate = ∅ := by
  induction xs generalizing t with
  | nil => exact ht
  | cons x xs ih =>
    rw [run_cons]
    refine ih (fun y hy => hxs y (List.mem_cons_of_mem _ hy)) ?_
    rcases exec_cases (tracedStep cfg) x t with ⟨t', ht', he⟩ | ⟨_, _, he⟩
    · rw [he]
      obtain ⟨s, _, rfl⟩ := tracedStep_eq_ok.mp ht'
      have hx := hxs x List.mem_cons_self
      show legitimateAfter x t = ∅
      unfold legitimateAfter
      -- a creation or a minting that root did not order makes no key legitimate
      split
      · rw [if_neg hx, ht]
        rfl
      · rw [if_neg fun hor => hor.elim hx fun hm => Finset.notMem_empty _ (ht ▸ hm), ht]
        rfl
      · rw [ht]
        rfl
      · exact ht
    · rw [he]
      exact ht

/-- The storage before any call of the registry, with nothing legitimate. -/
def tracedGenesis (b : BankOfSiberia.State AccountId L) : Traced AccountId L :=
  ⟨⟨OrgRoles.genesis, b⟩, ∅⟩

omit [Currency AccountId L] [CentralBank.ProxyModule AccountId L] [LockableCurrency AccountId L] in
/-- Before any call nobody holds a key. -/
theorem tracedGenesis_legitimate (b : BankOfSiberia.State AccountId L) :
    Legitimate (tracedGenesis b) := by
  intro orgId _ who hwho
  obtain ⟨_, htier, _⟩ := ensureOrgOfficer_signed.mp hwho
  cases htier

/-- **Who acts for the banks.** Whoever passes as an officer of a bank holds a key that goes back
to root throughout exactly the runs in which root orders the creation of the organisations 1 and
2. In such a run without further orders of root nobody acts for a bank at all. -/
theorem legitimate_throughout_iff (cfg : BankOfSiberia.Config AccountId)
    (b : BankOfSiberia.State AccountId L) (xs : List (Extrinsic AccountId)) :
    (Throughout (tracedStep cfg) Legitimate xs (tracedGenesis b) ↔
        Along (tracedStep cfg) CreatedByRoot xs (tracedGenesis b)) ∧
      (Along (tracedStep cfg) CreatedByRoot xs (tracedGenesis b) →
        (∀ x ∈ xs, ¬ x.authority.OfRoot) → ∀ orgId ∈ bankingOrgs, ∀ who,
          ensureOrgOfficer orgId (run (step cfg) xs ⟨OrgRoles.genesis, b⟩).orgRoles
            (.signed who) = false) := by
  have hiff : Throughout (tracedStep cfg) Legitimate xs (tracedGenesis b) ↔
      Along (tracedStep cfg) CreatedByRoot xs (tracedGenesis b) :=
    throughout_iff_along_of_step (fun _ _ _ ht h => legitimate_step_iff ht h)
      (tracedGenesis_legitimate b)
  refine ⟨hiff, ?_⟩
  intro halong hxs orgId hid who
  -- an officer would hold a legitimate key, and there is none
  have hlegitimate := (hiff.mpr halong).last
  have hempty := legitimate_eq_empty cfg hxs (t := tracedGenesis b) rfl
  by_contra hwho
  have hmem := hlegitimate orgId hid who (by
    rw [tracedStep_run]
    exact Bool.not_eq_false _ ▸ hwho)
  rw [hempty] at hmem
  exact Finset.notMem_empty _ hmem

end Steps

/-- An extrinsic of the world of the tests. -/
def extrinsic (authority : Authority ℕ) (call : Call ℕ) : Extrinsic ℕ where
  authority := authority
  blockNumber := 1
  extrinsicIndex := some 0
  isApplicationApproved _ := false
  call := call

/-- An account creates an organisation before those of the banks exist, and root has the other two
created in the name of the account 5, which appoints an officer. -/
def rootedOrganisations : List (Extrinsic ℕ) :=
  [extrinsic (.signed 3) (.orgRoles (.createOrganization [] 0 0)),
    extrinsic (.sudoAs 5) (.orgRoles (.createOrganization [] 0 0)),
    extrinsic (.sudoAs 5) (.orgRoles (.createOrganization [] 0 0)),
    extrinsic (.signed 5) (.orgRoles (.mintRoleKey 1 6 .officer)),
    extrinsic (.signed 3) (.orgRoles (.createOrganization [] 0 0))]

/-- The organisations that root has created stay legitimate; and before that nobody acts for a
bank. -/
theorem legitimate_throughout_rooted :
    Throughout (tracedStep bankOfSiberia) Legitimate rootedOrganisations
        (tracedGenesis bankGenesis) ∧
      ∀ orgId ∈ bankingOrgs, ∀ who,
        ensureOrgOfficer orgId (run (step bankOfSiberia) (rootedOrganisations.take 1)
          ⟨OrgRoles.genesis, bankGenesis⟩).orgRoles (.signed who) = false := by
  have hrooted : Along (tracedStep bankOfSiberia) CreatedByRoot rootedOrganisations
      (tracedGenesis bankGenesis) := by decide +kernel
  have hbefore : Along (tracedStep bankOfSiberia) CreatedByRoot (rootedOrganisations.take 1)
      (tracedGenesis bankGenesis) := by decide +kernel
  have hnobody : ∀ x ∈ rootedOrganisations.take 1, ¬ x.authority.OfRoot := by decide
  have h := legitimate_throughout_iff bankOfSiberia bankGenesis
  exact ⟨(h rootedOrganisations).1.mpr hrooted, (h _).2 hbefore hnobody⟩

/-- An account creates two organisations, licenses itself and mints. -/
def seizure : List (Extrinsic ℕ) :=
  [.orgRoles (.createOrganization [] 0 0), .orgRoles (.createOrganization [] 0 0),
    .centralBank (.grantOperatorLicense 3),
    .centralBank (.mintToOperator 3 CentralBank.unit)].map (extrinsic (.signed 3))

/-- The creator of the first two organisations holds the root key of the organisation 1, which
nobody gave them, and mints with it. -/
theorem second_organisation_seizes :
    ¬ Throughout (tracedStep bankOfSiberia) Legitimate seizure (tracedGenesis bankGenesis) ∧
      Ledger.freeBalance (run (step bankOfSiberia) seizure
        ⟨OrgRoles.genesis, bankGenesis⟩).ledger 3 = CentralBank.unit := by
  constructor
  · intro h
    have hmem := h.last cbOrgId (by decide) 3 (by decide +kernel)
    revert hmem
    decide +kernel
  · decide +kernel

end Runtime
