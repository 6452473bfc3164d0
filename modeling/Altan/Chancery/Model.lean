import Altan.Foundation.BoundedVec
import Altan.Foundation.Dispatch
import Altan.Foundation.Scale
import Altan.Foundation.StorageMap
import Altan.Foundation.TransitionSystem
import Altan.Guilds.Model

/-!
# The chancery

An agreement is registered under the hash of its document, with its parties and, if wanted,
professional validators. It awaits the signatures of the parties, then the validations, and is in
force once nobody is missing. In force it is disputed or completed by a party. When the life of a
citizen ends, the agreements that await signatures and name the citizen are cancelled.

## Main definitions

* `Agreement`, `State`: an agreement, and the storage
* `annulSignatures`: what the end of a life does to the agreements
* `Call`, `dispatch`: the dispatchables
* `isValidValidator`: whom the guilds know as a professional
* `Input`, `step`: the calls and the end of a life
* `Turn`: what an input does to the agreement under a hash

## Main results

* `annulSignatures_get`: the end of a life, agreement by agreement
* `step_turn`: what an accepted input does
-/

open Dispatch

namespace Chancery

/-- The errors of the module. -/
inductive Error
  | agreementAlreadyExists
  | agreementNotFound
  | insufficientParties
  | notAParty
  | notAValidator
  | alreadySigned
  | alreadyValidated
  | notPendingSignatures
  | notPendingValidation
  | notActive
  | alreadyDisputed
  | alreadyCompleted
  | validatorNotProfessional
  | tooManyParties
  | tooManyValidators
  | creatorNotInParties
  deriving DecidableEq, Repr

/-- The outcome of a function of the module. -/
abbrev Result (α : Type) := Except (DispatchError Error) α

/-- The constants of the module. -/
structure Config where
  maxParties : ℕ
  maxValidators : ℕ

/-- What a call is dispatched with: its origin, and whom the guilds know as a professional at the
time. -/
structure Context (AccountId : Type) where
  origin : Origin AccountId
  isValidValidator : AccountId → Bool

/-- Where an agreement stands. -/
inductive AgreementStatus
  | pendingSignatures
  | pendingValidation
  | active
  | disputed
  | completed
  | cancelled
  deriving DecidableEq, Repr

/-- An agreement. -/
structure Agreement (cfg : Config) (AccountId : Type) where
  documentHash : Bytes32
  creator : AccountId
  parties : BoundedVec AccountId cfg.maxParties
  validators : Option (BoundedVec AccountId cfg.maxValidators)
  signedBy : BoundedVec AccountId cfg.maxParties
  validatedBy : BoundedVec AccountId cfg.maxValidators
  status : AgreementStatus
  deriving DecidableEq

/-- The storage of the module. -/
structure State (cfg : Config) (AccountId : Type) where
  agreements : StorageMap Bytes32 (Agreement cfg AccountId)

variable {cfg : Config} {AccountId : Type}

/-- The storage before any call. -/
def genesis : State cfg AccountId where
  agreements := ∅

/-- Validators are set, and one at least. -/
def Agreement.hasValidators (a : Agreement cfg AccountId) : Bool :=
  match a.validators with
  | some validators => decide (validators.val ≠ [])
  | none => false

variable [DecidableEq AccountId]

/-- Everybody required is among those collected. -/
def allPresent (required collected : List AccountId) : Bool :=
  required.all fun acc => decide (acc ∈ collected)

/-- Change the agreement under a hash. -/
def tryMutate (documentHash : Bytes32)
    (f : Agreement cfg AccountId → Result (Agreement cfg AccountId)) (s : State cfg AccountId) :
    Result (State cfg AccountId) := do
  let agreement ← required (s.agreements.get documentHash) (.module .agreementNotFound)
  let agreement ← f agreement
  return { s with agreements := s.agreements.insert documentHash agreement }

/-- Register an agreement. -/
def proposeAgreement (ctx : Context AccountId) (documentHash : Bytes32) (parties : List AccountId)
    (validators : Option (List AccountId)) (s : State cfg AccountId) :
    Result (State cfg AccountId) := do
  let creator ← ensureSigned ctx.origin
  ensure (s.agreements.containsKey documentHash = false) (.module .agreementAlreadyExists)
  ensure (2 ≤ parties.length) (.module .insufficientParties)
  ensure (creator ∈ parties) (.module .creatorNotInParties)
  let boundedParties ← required (BoundedVec.tryFrom cfg.maxParties parties)
    (.module .tooManyParties)
  let boundedValidators ← validators.mapM fun v =>
    required (BoundedVec.tryFrom cfg.maxValidators v) (.module .tooManyValidators)
  return { s with
    agreements := s.agreements.insert documentHash
      { documentHash := documentHash
        creator := creator
        parties := boundedParties
        validators := boundedValidators
        signedBy := ⟨[], Nat.zero_le _⟩
        validatedBy := ⟨[], Nat.zero_le _⟩
        status := .pendingSignatures } }

/-- An agreement with one more signature. With the last one it awaits its validators, or is in
force if it has none. -/
def Agreement.signed (a : Agreement cfg AccountId)
    (signedBy : BoundedVec AccountId cfg.maxParties) : Agreement cfg AccountId :=
  if allPresent a.parties.val signedBy.val = true then
    if a.hasValidators = true then
      { a with signedBy := signedBy, status := .pendingValidation }
    else { a with signedBy := signedBy, status := .active }
  else { a with signedBy := signedBy }

/-- Sign an agreement as a party. -/
def signAgreement (ctx : Context AccountId) (documentHash : Bytes32) (s : State cfg AccountId) :
    Result (State cfg AccountId) := do
  let signer ← ensureSigned ctx.origin
  tryMutate documentHash (fun agreement => do
    ensure (agreement.status = .pendingSignatures) (.module .notPendingSignatures)
    ensure (signer ∈ agreement.parties.val) (.module .notAParty)
    ensure (signer ∉ agreement.signedBy.val) (.module .alreadySigned)
    let signedBy ← required (agreement.signedBy.tryPush signer) (.module .tooManyParties)
    return agreement.signed signedBy) s

/-- An agreement with one more validation, of those that are due. With the last one it is in
force. -/
def Agreement.validated (a : Agreement cfg AccountId) (validators : List AccountId)
    (validatedBy : BoundedVec AccountId cfg.maxValidators) : Agreement cfg AccountId :=
  let a := { a with validatedBy := validatedBy }
  if allPresent validators a.validatedBy.val = true then { a with status := .active } else a

/-- Validate an agreement as an invited professional. -/
def validateAgreement (ctx : Context AccountId) (documentHash : Bytes32)
    (s : State cfg AccountId) : Result (State cfg AccountId) := do
  let validator ← ensureSigned ctx.origin
  ensure (ctx.isValidValidator validator = true) (.module .validatorNotProfessional)
  tryMutate documentHash (fun agreement => do
    ensure (agreement.status = .pendingValidation) (.module .notPendingValidation)
    let validators ← required agreement.validators (.module .notAValidator)
    ensure (validator ∈ validators.val) (.module .notAValidator)
    ensure (validator ∉ agreement.validatedBy.val) (.module .alreadyValidated)
    let validatedBy ← required (agreement.validatedBy.tryPush validator)
      (.module .tooManyValidators)
    return agreement.validated validators.val validatedBy) s

/-- End an agreement in force, as a party. -/
def closeAgreement (status : AgreementStatus) (ctx : Context AccountId) (documentHash : Bytes32)
    (s : State cfg AccountId) : Result (State cfg AccountId) := do
  let caller ← ensureSigned ctx.origin
  tryMutate documentHash (fun agreement => do
    ensure (agreement.status = .active) (.module .notActive)
    ensure (caller ∈ agreement.parties.val) (.module .notAParty)
    return { agreement with status := status }) s

/-- Raise a dispute on an agreement in force. -/
def raiseDispute (ctx : Context AccountId) (documentHash : Bytes32) (s : State cfg AccountId) :
    Result (State cfg AccountId) :=
  closeAgreement .disputed ctx documentHash s

/-- Mark an agreement in force as fulfilled. -/
def completeAgreement (ctx : Context AccountId) (documentHash : Bytes32)
    (s : State cfg AccountId) : Result (State cfg AccountId) :=
  closeAgreement .completed ctx documentHash s

/-- An agreement awaits signatures and names an account as a party. -/
def Agreement.IsPending (who : AccountId) (a : Agreement cfg AccountId) : Prop :=
  a.status = .pendingSignatures ∧ who ∈ a.parties.val

instance (who : AccountId) :
    DecidablePred (Agreement.IsPending who : Agreement cfg AccountId → Prop) :=
  fun _ => inferInstanceAs (Decidable (_ ∧ _))

/-- Cancel the agreements that await signatures and name an account. -/
def annulSignatures (who : AccountId) (s : State cfg AccountId) : State cfg AccountId :=
  let idsToCancel :=
    s.agreements.keys.filter fun hash => ∃ a ∈ s.agreements.get hash, Agreement.IsPending who a
  { s with
    agreements := idsToCancel.val.foldl
      (fun agreements hash => agreements.modify hash fun a => { a with status := .cancelled })
      s.agreements }

/-- The dispatchables with their arguments. -/
inductive Call (AccountId : Type)
  | proposeAgreement (documentHash : Bytes32) (parties : List AccountId)
    (validators : Option (List AccountId))
  | signAgreement (documentHash : Bytes32)
  | validateAgreement (documentHash : Bytes32)
  | raiseDispute (documentHash : Bytes32)
  | completeAgreement (documentHash : Bytes32)
  deriving DecidableEq

/-- Dispatch a call. -/
def dispatch (ctx : Context AccountId) :
    Call AccountId → State cfg AccountId → Result (State cfg AccountId)
  | .proposeAgreement documentHash parties validators =>
    proposeAgreement ctx documentHash parties validators
  | .signAgreement documentHash => signAgreement ctx documentHash
  | .validateAgreement documentHash => validateAgreement ctx documentHash
  | .raiseDispute documentHash => raiseDispute ctx documentHash
  | .completeAgreement documentHash => completeAgreement ctx documentHash

end Chancery

/-! ### What an input does to an agreement

The module as a state machine, with the guilds of the runtime asked for professionals: a call is
dispatched with the members the guilds have at the time. Under a hash, an input registers an
agreement, takes it one stage further, cancels it, or leaves it. -/

open TransitionSystem

namespace Chancery

variable {cfg : Config} {AccountId : Type} [DecidableEq AccountId]

/-- The members of the guilds with their ranks. -/
abbrev GuildMembers (AccountId : Type) := StorageMap (ℕ × AccountId) Guilds.MemberRole

/-- A professional is a professional or a master of one of the first three guilds. -/
def isValidValidator (guildMembers : GuildMembers AccountId) (who : AccountId) : Bool :=
  (List.range 3).any fun guildId =>
    match guildMembers.get (guildId, who) with
    | some .professional => true
    | some .master => true
    | _ => false

/-- A call with its origin and the members of the guilds at the time, or the end of a life. -/
inductive Input (AccountId : Type)
  | call (origin : Origin AccountId) (guildMembers : GuildMembers AccountId) (c : Call AccountId)
  | annulSignatures (who : AccountId)

/-- The state after one input. -/
def step : Input AccountId → State cfg AccountId → Result (State cfg AccountId)
  | .call origin guildMembers c, s => dispatch ⟨origin, isValidValidator guildMembers⟩ c s
  | .annulSignatures who, s => .ok (annulSignatures who s)

/-- The hash a call is about. -/
def Call.documentHash : Call AccountId → Bytes32
  | .proposeAgreement documentHash _ _ => documentHash
  | .signAgreement documentHash => documentHash
  | .validateAgreement documentHash => documentHash
  | .raiseDispute documentHash => documentHash
  | .completeAgreement documentHash => documentHash

/-- An input that does not concern the agreement under a hash: a call about another one, or the
end of a life that does not cancel it. -/
def Input.Spares (hash : Bytes32) (a : Option (Agreement cfg AccountId)) :
    Input AccountId → Prop
  | .call _ _ c => c.documentHash ≠ hash
  | .annulSignatures who => ∀ agreement ∈ a, ¬ agreement.IsPending who

/-- What is registered with a proposal. -/
structure Proposed (hash : Bytes32) (creator : AccountId) (parties : List AccountId)
    (validators : Option (List AccountId)) (a : Agreement cfg AccountId) : Prop where
  documentHash : a.documentHash = hash
  creator : a.creator = creator
  parties : a.parties.val = parties
  validators : a.validators.map Subtype.val = validators
  signedBy : a.signedBy.val = []
  validatedBy : a.validatedBy.val = []
  status : a.status = .pendingSignatures

/-- What an input does to the agreement under a hash. -/
inductive Turn (hash : Bytes32) : Input AccountId → Option (Agreement cfg AccountId) →
    Option (Agreement cfg AccountId) → Prop
  | kept {x : Input AccountId} {a : Option (Agreement cfg AccountId)} (hspares : x.Spares hash a) :
    Turn hash x a a
  | proposed {creator : AccountId} {guildMembers : GuildMembers AccountId}
    {parties : List AccountId} {validators : Option (List AccountId)}
    {a : Agreement cfg AccountId} (htwo : 2 ≤ parties.length) (hcreator : creator ∈ parties)
    (hnew : Proposed hash creator parties validators a) :
    Turn hash (.call (.signed creator) guildMembers (.proposeAgreement hash parties validators))
      none (some a)
  | signed {signer : AccountId} {guildMembers : GuildMembers AccountId}
    {a : Agreement cfg AccountId} {signedBy : BoundedVec AccountId cfg.maxParties}
    (hstatus : a.status = .pendingSignatures) (hparty : signer ∈ a.parties.val)
    (hnew : signer ∉ a.signedBy.val) (hsigned : signedBy.val = a.signedBy.val ++ [signer]) :
    Turn hash (.call (.signed signer) guildMembers (.signAgreement hash)) (some a)
      (some (a.signed signedBy))
  | validated {validator : AccountId} {guildMembers : GuildMembers AccountId}
    {a : Agreement cfg AccountId} {validators validatedBy : BoundedVec AccountId cfg.maxValidators}
    (hrank : isValidValidator guildMembers validator = true)
    (hstatus : a.status = .pendingValidation) (hvalidators : a.validators = some validators)
    (hinvited : validator ∈ validators.val) (hnew : validator ∉ a.validatedBy.val)
    (hvalidated : validatedBy.val = a.validatedBy.val ++ [validator]) :
    Turn hash (.call (.signed validator) guildMembers (.validateAgreement hash)) (some a)
      (some (a.validated validators.val validatedBy))
  | disputed {caller : AccountId} {guildMembers : GuildMembers AccountId}
    {a : Agreement cfg AccountId} (hstatus : a.status = .active)
    (hparty : caller ∈ a.parties.val) :
    Turn hash (.call (.signed caller) guildMembers (.raiseDispute hash)) (some a)
      (some { a with status := .disputed })
  | completed {caller : AccountId} {guildMembers : GuildMembers AccountId}
    {a : Agreement cfg AccountId} (hstatus : a.status = .active)
    (hparty : caller ∈ a.parties.val) :
    Turn hash (.call (.signed caller) guildMembers (.completeAgreement hash)) (some a)
      (some { a with status := .completed })
  | cancelled {who : AccountId} {a : Agreement cfg AccountId} (hpending : a.IsPending who) :
    Turn hash (.annulSignatures who) (some a) (some { a with status := .cancelled })

section Turns

variable {s s' : State cfg AccountId} {ctx : Context AccountId} {documentHash hash : Bytes32}

/-- **The end of a life, agreement by agreement.** -/
theorem annulSignatures_get (who : AccountId) (s : State cfg AccountId) (hash : Bytes32) :
    (annulSignatures who s).agreements.get hash = (s.agreements.get hash).map fun a =>
      if a.IsPending who then { a with status := .cancelled } else a := by
  unfold annulSignatures
  refine (StorageMap.get_foldl_modify (Finset.nodup _)).trans ?_
  refine Option.map_congr fun a ha => if_congr ?_ rfl rfl
  rw [Finset.mem_val, Finset.mem_filter, ha]
  constructor
  · rintro ⟨-, a', ha', hpending⟩
    rwa [Option.mem_some_iff.mp ha']
  · intro hpending
    exact ⟨StorageMap.mem_keys.mpr ⟨a, ha⟩, a, rfl, hpending⟩

omit [DecidableEq AccountId] in
theorem tryMutate_eq_ok {f : Agreement cfg AccountId → Result (Agreement cfg AccountId)} :
    tryMutate documentHash f s = .ok s' ↔
      ∃ a a', s.agreements.get documentHash = some a ∧ f a = .ok a' ∧
        s' = { s with agreements := s.agreements.insert documentHash a' } := by
  unfold tryMutate
  rw [required_bind_eq_ok]
  simp only [bind_eq_ok, pure_eq_ok, eq_comm (a := s')]
  constructor
  · rintro ⟨a, hget, a', hf, rfl⟩
    exact ⟨a, a', hget, hf, rfl⟩
  · rintro ⟨a, a', hget, hf, rfl⟩
    exact ⟨a, hget, a', hf, rfl⟩

/-- A call about a hash leaves the agreements under the others. -/
theorem turn_of_insert {origin : Origin AccountId} {guildMembers : GuildMembers AccountId}
    {c : Call AccountId} {a : Agreement cfg AccountId}
    (hself : Turn c.documentHash (.call origin guildMembers c) (s.agreements.get c.documentHash)
      (some a)) (hash : Bytes32) :
    Turn hash (.call origin guildMembers c) (s.agreements.get hash)
      ((s.agreements.insert c.documentHash a).get hash) := by
  by_cases hhash : hash = c.documentHash
  · rw [hhash, StorageMap.get_insert_self]
    exact hself
  · rw [StorageMap.get_insert_of_ne hhash]
    exact .kept fun h => hhash h.symm

omit [DecidableEq AccountId] in
/-- A list as a bounded one, if there is one. -/
theorem mapM_tryFrom_eq_ok {n : ℕ} {e : DispatchError Error} {l : Option (List AccountId)}
    {v : Option (BoundedVec AccountId n)}
    (h : l.mapM (fun l => required (BoundedVec.tryFrom n l) e) = .ok v) :
    v.map Subtype.val = l := by
  cases l with
  | none =>
    rw [← pure_eq_ok.mp h]
    rfl
  | some l =>
    change (required (BoundedVec.tryFrom n l) e >>= fun v => pure (some v)) = .ok v at h
    simp only [required_bind_eq_ok, BoundedVec.tryFrom_eq_some, pure_eq_ok] at h
    obtain ⟨v, rfl, rfl⟩ := h
    rfl

variable {origin : Origin AccountId} {guildMembers : GuildMembers AccountId}

theorem proposeAgreement_turn {parties : List AccountId} {validators : Option (List AccountId)}
    (h : proposeAgreement ⟨origin, isValidValidator guildMembers⟩ documentHash parties validators s
      = .ok s') (hash : Bytes32) :
    Turn hash (.call origin guildMembers (.proposeAgreement documentHash parties validators))
      (s.agreements.get hash) (s'.agreements.get hash) := by
  simp only [proposeAgreement, ensureSigned_bind_eq_ok, ensure_bind_eq_ok, required_bind_eq_ok,
    StorageMap.not_containsKey, BoundedVec.tryFrom_eq_some] at h
  obtain ⟨creator, rfl, hfree, htwo, hcreator, boundedParties, hparties, h⟩ := h
  obtain ⟨boundedValidators, hvalidators, h⟩ := bind_eq_ok.mp h
  obtain rfl := pure_eq_ok.mp h
  refine turn_of_insert ?_ hash
  change Turn documentHash _ (s.agreements.get documentHash) _
  rw [hfree]
  exact .proposed htwo hcreator
    ⟨rfl, rfl, hparties, mapM_tryFrom_eq_ok hvalidators, rfl, rfl, rfl⟩

theorem signAgreement_turn
    (h : signAgreement ⟨origin, isValidValidator guildMembers⟩ documentHash s = .ok s')
    (hash : Bytes32) :
    Turn hash (.call origin guildMembers (.signAgreement documentHash)) (s.agreements.get hash)
      (s'.agreements.get hash) := by
  simp only [signAgreement, ensureSigned_bind_eq_ok, tryMutate_eq_ok, ensure_bind_eq_ok,
    required_bind_eq_ok, pure_eq_ok, BoundedVec.tryPush_eq_some] at h
  obtain ⟨signer, rfl, a, a', hget, ⟨hstatus, hparty, hnew, signedBy, hsigned, rfl⟩, rfl⟩ := h
  refine turn_of_insert ?_ hash
  change Turn documentHash _ (s.agreements.get documentHash) _
  rw [hget]
  exact .signed hstatus hparty hnew hsigned

theorem validateAgreement_turn
    (h : validateAgreement ⟨origin, isValidValidator guildMembers⟩ documentHash s = .ok s')
    (hash : Bytes32) :
    Turn hash (.call origin guildMembers (.validateAgreement documentHash))
      (s.agreements.get hash) (s'.agreements.get hash) := by
  simp only [validateAgreement, ensureSigned_bind_eq_ok, tryMutate_eq_ok, ensure_bind_eq_ok,
    required_bind_eq_ok, pure_eq_ok, BoundedVec.tryPush_eq_some] at h
  obtain ⟨validator, rfl, hrank, a, a', hget, ⟨hstatus, validators, hvalidators, hinvited, hnew,
    validatedBy, hvalidated, rfl⟩, rfl⟩ := h
  refine turn_of_insert ?_ hash
  change Turn documentHash _ (s.agreements.get documentHash) _
  rw [hget]
  exact .validated hrank hstatus hvalidators hinvited hnew hvalidated

theorem closeAgreement_eq_ok {status : AgreementStatus}
    (h : closeAgreement status ctx documentHash s = .ok s') :
    ∃ caller a, ctx.origin = .signed caller ∧ s.agreements.get documentHash = some a ∧
      a.status = .active ∧ caller ∈ a.parties.val ∧
      s' = { s with
        agreements := s.agreements.insert documentHash { a with status := status } } := by
  simp only [closeAgreement, ensureSigned_bind_eq_ok, tryMutate_eq_ok, ensure_bind_eq_ok,
    pure_eq_ok] at h
  obtain ⟨caller, horigin, a, a', hget, ⟨hstatus, hparty, rfl⟩, rfl⟩ := h
  exact ⟨caller, a, horigin, hget, hstatus, hparty, rfl⟩

/-- **What an accepted input does to the agreement under a hash.** -/
theorem step_turn {x : Input AccountId} (h : step x s = .ok s') (hash : Bytes32) :
    Turn hash x (s.agreements.get hash) (s'.agreements.get hash) := by
  cases x with
  | call origin guildMembers c =>
    cases c with
    | proposeAgreement documentHash parties validators => exact proposeAgreement_turn h hash
    | signAgreement documentHash => exact signAgreement_turn h hash
    | validateAgreement documentHash => exact validateAgreement_turn h hash
    | raiseDispute documentHash =>
      obtain ⟨caller, a, rfl, hget, hstatus, hparty, rfl⟩ := closeAgreement_eq_ok h
      refine turn_of_insert ?_ hash
      change Turn documentHash _ (s.agreements.get documentHash) _
      rw [hget]
      exact .disputed hstatus hparty
    | completeAgreement documentHash =>
      obtain ⟨caller, a, rfl, hget, hstatus, hparty, rfl⟩ := closeAgreement_eq_ok h
      refine turn_of_insert ?_ hash
      change Turn documentHash _ (s.agreements.get documentHash) _
      rw [hget]
      exact .completed hstatus hparty
  | annulSignatures who =>
    obtain rfl := Except.ok.inj h
    rw [annulSignatures_get]
    cases hget : s.agreements.get hash with
    | none => exact .kept nofun
    | some a =>
      rw [Option.map_some]
      by_cases hpending : a.IsPending who
      · rw [if_pos hpending]
        exact .cancelled hpending
      · rw [if_neg hpending]
        refine .kept fun a' ha' => ?_
        rwa [← Option.mem_some_iff.mp ha']

end Turns

end Chancery
