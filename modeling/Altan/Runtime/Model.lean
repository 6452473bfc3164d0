import Altan.BankOfSiberia.Model
import Altan.OrgRoles.Model

/-!
# The banking branch in the runtime

The central bank and the Bank of Siberia take their authority from the registry of role keys:
root and officers of the organisation 1 act for the central bank, those of the organisation 2
for the Bank of Siberia. The sudo key dispatches calls as root, or as any account it names.

## Main definitions

* `ensureOrgOfficer`: the origins that act for an organisation
* `Authority`: who orders a call
* `State`, `Call`, `step`: the storage, the calls, and one extrinsic
-/

open Dispatch

namespace Runtime

/-- The organisation of the central bank. -/
def cbOrgId : ℕ := 1

/-- The organisation of the Bank of Siberia. -/
def boSOrgId : ℕ := 2

/-- The greatest length of the name of an organisation. -/
def orgMaxNameLength : ℕ := 64

/-- Who orders a call: the sudo key as root or in the name of an account, or an account
itself. -/
inductive Authority (AccountId : Type)
  | root
  | sudoAs (who : AccountId)
  | signed (who : AccountId)
  deriving DecidableEq, Repr

/-- The errors of the modules. -/
inductive Error
  | orgRoles (e : OrgRoles.Error)
  | bankOfSiberia (e : BankOfSiberia.Error)
  deriving DecidableEq, Repr

/-- The outcome of an extrinsic. -/
abbrev Result (α : Type) := Except (DispatchError Error) α

/-- The calls of the modules, and transfers of an account's own balance. -/
inductive Call (AccountId : Type)
  | orgRoles (call : OrgRoles.Call AccountId)
  | centralBank (call : CentralBank.Call AccountId)
  | bankOfSiberia (call : BankOfSiberia.Call AccountId)
  | transfer (dest : AccountId) (amount : ℕ) (er : ExistenceRequirement)
  deriving DecidableEq, Repr

/-- An extrinsic: a call, who orders it, its place in the chain, and the citizens approved at the
time. -/
structure Extrinsic (AccountId : Type) where
  authority : Authority AccountId
  blockNumber : ℕ
  extrinsicIndex : Option ℕ
  isApplicationApproved : AccountId → Bool
  call : Call AccountId

/-- The storage of the modules. -/
structure State (AccountId L : Type) where
  orgRoles : OrgRoles.State AccountId
  bankOfSiberia : BankOfSiberia.State AccountId L

variable {AccountId L : Type}

/-- The origin a call is dispatched with. -/
def Authority.origin : Authority AccountId → Origin AccountId
  | .root => .root
  | .sudoAs who => .signed who
  | .signed who => .signed who

/-- The sudo key orders the call. -/
def Authority.OfRoot : Authority AccountId → Prop
  | .root | .sudoAs _ => True
  | .signed _ => False

instance : DecidablePred (@Authority.OfRoot AccountId)
  | .root | .sudoAs _ => isTrue trivial
  | .signed _ => isFalse id

/-- The ledger of the runtime. -/
def State.ledger (s : State AccountId L) : L := s.bankOfSiberia.ledger

section Calls

variable [DecidableEq AccountId]

/-- Whether an origin acts for an organisation: root, and the holders of its root and officer
keys. -/
def ensureOrgOfficer (orgId : ℕ) (s : OrgRoles.State AccountId) : Origin AccountId → Bool
  | .root => true
  | .signed who =>
    match s.issuedKeys.get (orgId, who) with
    | some .root | some .officer => true
    | _ => false
  | .none => false

/-- What a call of the central bank is dispatched with. -/
def Extrinsic.centralBankContext (x : Extrinsic AccountId) (s : OrgRoles.State AccountId) :
    CentralBank.Context AccountId where
  origin := x.authority.origin
  bankingOrigin := ensureOrgOfficer cbOrgId s
  blockNumber := x.blockNumber
  extrinsicIndex := x.extrinsicIndex

/-- What a call of the Bank of Siberia is dispatched with. -/
def Extrinsic.bankOfSiberiaContext (x : Extrinsic AccountId) (s : OrgRoles.State AccountId) :
    BankOfSiberia.Context AccountId where
  origin := x.authority.origin
  bankingOrigin := ensureOrgOfficer boSOrgId s
  blockNumber := x.blockNumber
  isApplicationApproved := x.isApplicationApproved

variable [Currency AccountId L] [CentralBank.ProxyModule AccountId L] [LockableCurrency AccountId L]

/-- The Bank of Siberia's part of an extrinsic. -/
def onBankOfSiberia
    (f : BankOfSiberia.State AccountId L → BankOfSiberia.Result (BankOfSiberia.State AccountId L))
    (s : State AccountId L) : Result (State AccountId L) := do
  let bankOfSiberia ← (f s.bankOfSiberia).mapError (DispatchError.map .bankOfSiberia)
  return { s with bankOfSiberia := bankOfSiberia }

/-- One extrinsic as a step of the state machine. -/
def step (cfg : BankOfSiberia.Config AccountId) (x : Extrinsic AccountId)
    (s : State AccountId L) : Result (State AccountId L) :=
  match x.call with
  | .orgRoles call => do
    let orgRoles ← (OrgRoles.dispatch orgMaxNameLength x.authority.origin call
      s.orgRoles).mapError (DispatchError.map .orgRoles)
    return { s with orgRoles := orgRoles }
  | .centralBank call =>
    onBankOfSiberia (BankOfSiberia.onCentralBank
      (CentralBank.dispatch cfg.centralBank (x.centralBankContext s.orgRoles) call)) s
  | .bankOfSiberia call =>
    onBankOfSiberia (BankOfSiberia.dispatch cfg (x.bankOfSiberiaContext s.orgRoles) call) s
  | .transfer dest amount er => do
    let source ← ensureSigned x.authority.origin
    onBankOfSiberia (BankOfSiberia.transfer source dest amount er) s

end Calls

/-! ### What an extrinsic does -/

section Spec

variable [DecidableEq AccountId] [Currency AccountId L] [CentralBank.ProxyModule AccountId L]
  [LockableCurrency AccountId L] {cfg : BankOfSiberia.Config AccountId}
  {x : Extrinsic AccountId} {s s' : State AccountId L}

omit [DecidableEq AccountId] [Currency AccountId L] [CentralBank.ProxyModule AccountId L]
  [LockableCurrency AccountId L] in
theorem onBankOfSiberia_eq_ok
    {f : BankOfSiberia.State AccountId L → BankOfSiberia.Result (BankOfSiberia.State AccountId L)} :
    onBankOfSiberia f s = .ok s' ↔
      ∃ b, f s.bankOfSiberia = .ok b ∧ s' = { s with bankOfSiberia := b } := by
  simp only [onBankOfSiberia, mapError_bind_eq_ok, pure_eq_ok, eq_comm (a := s')]

/-- Only calls of the role registry change it, as it dispatches them. -/
theorem step_orgRoles (h : step cfg x s = .ok s') :
    (∃ call, x.call = .orgRoles call ∧ OrgRoles.dispatch orgMaxNameLength x.authority.origin call
        s.orgRoles = .ok s'.orgRoles) ∨
      ((∀ call, x.call ≠ .orgRoles call) ∧ s'.orgRoles = s.orgRoles) := by
  unfold step at h
  cases hcall : x.call with
  | orgRoles call =>
    rw [hcall] at h
    obtain ⟨o, ho, h⟩ := mapError_bind_eq_ok.mp h
    rw [← pure_eq_ok.mp h]
    exact Or.inl ⟨call, rfl, ho⟩
  | centralBank call =>
    rw [hcall] at h
    obtain ⟨_, _, rfl⟩ := onBankOfSiberia_eq_ok.mp h
    exact Or.inr ⟨nofun, rfl⟩
  | bankOfSiberia call =>
    rw [hcall] at h
    obtain ⟨_, _, rfl⟩ := onBankOfSiberia_eq_ok.mp h
    exact Or.inr ⟨nofun, rfl⟩
  | transfer dest amount er =>
    rw [hcall] at h
    obtain ⟨_, _, h⟩ := ensureSigned_bind_eq_ok.mp h
    obtain ⟨_, _, rfl⟩ := onBankOfSiberia_eq_ok.mp h
    exact Or.inr ⟨nofun, rfl⟩

end Spec

end Runtime
