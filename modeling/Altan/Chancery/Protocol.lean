import Altan.Chancery.Model

/-!
# The agreement protocol

Whatever lists of parties and validators are given, an agreement comes into force only when every
party has signed and every validator validated it, each by an own call at the stage meant for it,
and its document, creator, parties and validators never change.

## Main definitions

* `Follows`: the stages of an agreement
* `Agreement.Sound`: who has signed and validated an agreement at its stage
* `Lawful`: what one input may change
* `Extends`: what a run may change
* `EntersForce`, `Input.Completes`: an agreement comes into force, and by which inputs

## Main results

* `Turn.sound`, `Turn.extends`: one input
* `protocol_run`: every run
* `Turn.entersForce_iff`: an agreement comes into force with the last signature or validation
-/

open TransitionSystem

namespace Chancery

variable {cfg : Config} {AccountId : Type}

/-- The stage that may come after another. Nothing comes after a dispute, a completion or a
cancellation. -/
inductive Follows : AgreementStatus → AgreementStatus → Prop
  | awaiting : Follows .pendingSignatures .pendingValidation
  | signed : Follows .pendingSignatures .active
  | cancelled : Follows .pendingSignatures .cancelled
  | validated : Follows .pendingValidation .active
  | disputed : Follows .active .disputed
  | completed : Follows .active .completed

/-- The stages that every party has to sign for. -/
def AgreementStatus.NeedsSignatures : AgreementStatus → Prop
  | .pendingValidation | .active | .disputed | .completed => True
  | .pendingSignatures | .cancelled => False

/-- The stages that every validator has to validate for. -/
def AgreementStatus.NeedsValidations : AgreementStatus → Prop
  | .active | .disputed | .completed => True
  | .pendingSignatures | .pendingValidation | .cancelled => False

/-- The validators of an agreement, if any. -/
def Agreement.invited (a : Agreement cfg AccountId) : List AccountId :=
  (a.validators.map Subtype.val).getD []

/-- Who has signed and validated an agreement are some of those asked, each once, and all of them
once the stage needs it. -/
structure Agreement.Sound (a : Agreement cfg AccountId) : Prop where
  signed_nodup : a.signedBy.val.Nodup
  signed_subset : ∀ p ∈ a.signedBy.val, p ∈ a.parties.val
  validated_nodup : a.validatedBy.val.Nodup
  validated_subset : ∀ v ∈ a.validatedBy.val, v ∈ a.invited
  all_signed : a.status.NeedsSignatures → ∀ p ∈ a.parties.val, p ∈ a.signedBy.val
  all_validated : a.status.NeedsValidations → ∀ v ∈ a.invited, v ∈ a.validatedBy.val

/-- Every agreement is sound. -/
def Sound (s : State cfg AccountId) : Prop :=
  ∀ hash a, s.agreements.get hash = some a → a.Sound

/-- At least a professional in some guild. -/
def HoldsProfessionalRank (guildMembers : GuildMembers AccountId) (who : AccountId)
    [DecidableEq AccountId] : Prop :=
  ∃ guildId, guildMembers.get (guildId, who) = some .professional ∨
    guildMembers.get (guildId, who) = some .master

variable [DecidableEq AccountId]

/-- The signed call of an account to sign an agreement. -/
def Input.Signs (hash : Bytes32) (p : AccountId) (x : Input AccountId) : Prop :=
  ∃ guildMembers, x = .call (.signed p) guildMembers (.signAgreement hash)

/-- The signed call of an account that holds the rank to validate an agreement. -/
def Input.Validates (hash : Bytes32) (v : AccountId) (x : Input AccountId) : Prop :=
  ∃ guildMembers, x = .call (.signed v) guildMembers (.validateAgreement hash) ∧
    HoldsProfessionalRank guildMembers v

/-- A proposal to register an agreement under a hash. -/
def Input.Proposes (hash : Bytes32) (x : Input AccountId) : Prop :=
  ∃ origin guildMembers parties validators,
    x = .call origin guildMembers (.proposeAgreement hash parties validators)

/-- What one input may change: the stage as it follows, and who has signed or validated by the own
call of the account at the stage meant for it. A hash is registered once. -/
structure Lawful (x : Input AccountId) (s s' : State cfg AccountId) : Prop where
  stage : ∀ hash a a', s.agreements.get hash = some a → s'.agreements.get hash = some a' →
    a'.status = a.status ∨ Follows a.status a'.status
  signed : ∀ hash a' p, s'.agreements.get hash = some a' → p ∈ a'.signedBy.val →
    (∃ a, s.agreements.get hash = some a ∧ p ∈ a.signedBy.val) ∨
      x.Signs hash p ∧ ∃ a, s.agreements.get hash = some a ∧ a.status = .pendingSignatures
  validated : ∀ hash a' v, s'.agreements.get hash = some a' → v ∈ a'.validatedBy.val →
    (∃ a, s.agreements.get hash = some a ∧ v ∈ a.validatedBy.val) ∨
      x.Validates hash v ∧ ∃ a, s.agreements.get hash = some a ∧ a.status = .pendingValidation
  registered : ∀ hash, x.Proposes hash → s.agreements.get hash = none

/-- An agreement at the same or a later stage, with the same terms, and with at least the
signatures and validations. -/
structure Agreement.Extends (a a' : Agreement cfg AccountId) : Prop where
  stage : Relation.ReflTransGen Follows a.status a'.status
  documentHash : a'.documentHash = a.documentHash
  creator : a'.creator = a.creator
  parties : a'.parties = a.parties
  validators : a'.validators = a.validators
  signedBy : a.signedBy.val <+: a'.signedBy.val
  validatedBy : a.validatedBy.val <+: a'.validatedBy.val

/-- Every agreement is still there, at the same or a later stage. -/
def Extends (s s' : State cfg AccountId) : Prop :=
  ∀ hash a, s.agreements.get hash = some a →
    ∃ a', s'.agreements.get hash = some a' ∧ a.Extends a'

omit [DecidableEq AccountId] in
theorem Agreement.Extends.refl (a : Agreement cfg AccountId) : a.Extends a :=
  ⟨.refl, rfl, rfl, rfl, rfl, List.prefix_refl _, List.prefix_refl _⟩

omit [DecidableEq AccountId] in
theorem Agreement.Extends.trans {a b c : Agreement cfg AccountId} (h : a.Extends b)
    (h' : b.Extends c) : a.Extends c where
  stage := h.stage.trans h'.stage
  documentHash := h'.documentHash.trans h.documentHash
  creator := h'.creator.trans h.creator
  parties := h'.parties.trans h.parties
  validators := h'.validators.trans h.validators
  signedBy := h.signedBy.trans h'.signedBy
  validatedBy := h.validatedBy.trans h'.validatedBy

omit [DecidableEq AccountId] in
/-- An agreement at the next stage only. -/
theorem Agreement.extends_of_follows {a : Agreement cfg AccountId} {status : AgreementStatus}
    (h : Follows a.status status) : a.Extends { a with status := status } :=
  ⟨.single h, rfl, rfl, rfl, rfl, List.prefix_refl _, List.prefix_refl _⟩

/-! ### One more signature or validation -/

section Collecting

variable {a : Agreement cfg AccountId} {signedBy : BoundedVec AccountId cfg.maxParties}
  {validators validatedBy : BoundedVec AccountId cfg.maxValidators}

theorem allPresent_iff {required collected : List AccountId} :
    allPresent required collected = true ↔ ∀ acc ∈ required, acc ∈ collected := by
  simp [allPresent]

omit [DecidableEq AccountId] in
theorem hasValidators_iff : a.hasValidators = true ↔ a.invited ≠ [] := by
  unfold Agreement.hasValidators Agreement.invited
  cases a.validators <;> simp

/-- The stage of an agreement with one more signature. -/
theorem signed_eq (a : Agreement cfg AccountId) (signedBy : BoundedVec AccountId cfg.maxParties) :
    a.signed signedBy = { a with
      signedBy := signedBy
      status :=
        if ∀ p ∈ a.parties.val, p ∈ signedBy.val then
          if a.invited = [] then .active else .pendingValidation
        else a.status } := by
  unfold Agreement.signed
  simp only [allPresent_iff, hasValidators_iff]
  split
  · split
    · rfl
    · next h => rw [if_pos (not_not.mp h)]
  · rfl

/-- The stage of an agreement with one more validation. -/
theorem validated_eq (a : Agreement cfg AccountId) (validators : List AccountId)
    (validatedBy : BoundedVec AccountId cfg.maxValidators) :
    a.validated validators validatedBy = { a with
      validatedBy := validatedBy
      status := if ∀ v ∈ validators, v ∈ validatedBy.val then .active else a.status } := by
  unfold Agreement.validated
  simp only [allPresent_iff]
  split <;> rfl

theorem signed_extends (hstatus : a.status = .pendingSignatures)
    (hsigned : a.signedBy.val <+: signedBy.val) : a.Extends (a.signed signedBy) := by
  rw [signed_eq]
  refine ⟨?_, rfl, rfl, rfl, rfl, hsigned, List.prefix_refl _⟩
  dsimp only
  rw [hstatus]
  split
  · split
    · exact .single .signed
    · exact .single .awaiting
  · exact .refl

theorem validated_extends (hstatus : a.status = .pendingValidation)
    (hvalidated : a.validatedBy.val <+: validatedBy.val) (validators : List AccountId) :
    a.Extends (a.validated validators validatedBy) := by
  rw [validated_eq]
  refine ⟨?_, rfl, rfl, rfl, rfl, List.prefix_refl _, hvalidated⟩
  dsimp only
  rw [hstatus]
  split
  · exact .single .validated
  · exact .refl

omit [DecidableEq AccountId] in
theorem invited_eq (h : a.validators = some validators) : a.invited = validators.val := by
  unfold Agreement.invited
  rw [h]
  rfl

omit [DecidableEq AccountId] in
/-- A list with one entry that is new and one of those asked. -/
theorem nodup_concat_of_notMem {l : List AccountId} {who : AccountId} (hl : l.Nodup)
    (hwho : who ∉ l) : (l ++ [who]).Nodup :=
  List.nodup_append.mpr ⟨hl, List.nodup_singleton who, fun p hp q hq => by
    rintro rfl
    exact hwho (List.mem_singleton.mp hq ▸ hp)⟩

theorem Agreement.Sound.signed {signer : AccountId} (h : a.Sound)
    (hstatus : a.status = .pendingSignatures) (hparty : signer ∈ a.parties.val)
    (hnew : signer ∉ a.signedBy.val) (hsigned : signedBy.val = a.signedBy.val ++ [signer]) :
    (a.signed signedBy).Sound := by
  rw [signed_eq]
  refine ⟨?_, ?_, h.validated_nodup, h.validated_subset, ?_, ?_⟩
  · rw [hsigned]
    exact nodup_concat_of_notMem h.signed_nodup hnew
  · intro p hp
    rw [hsigned, List.mem_append, List.mem_singleton] at hp
    rcases hp with hp | rfl
    · exact h.signed_subset p hp
    · exact hparty
  -- the stage needs the signatures only if all are there
  · dsimp only
    split
    · next hall => exact fun _ => hall
    · rw [hstatus]
      exact nofun
  -- in force without validations only if nobody is invited
  · dsimp only
    split
    · split
      · next hnone =>
        intro _ v hv
        change v ∈ a.invited at hv
        rw [hnone] at hv
        cases hv
      · exact nofun
    · rw [hstatus]
      exact nofun

theorem Agreement.Sound.validated {validator : AccountId} (h : a.Sound)
    (hstatus : a.status = .pendingValidation) (hvalidators : a.validators = some validators)
    (hinvited : validator ∈ validators.val) (hnew : validator ∉ a.validatedBy.val)
    (hvalidated : validatedBy.val = a.validatedBy.val ++ [validator]) :
    (a.validated validators.val validatedBy).Sound := by
  have hasked : a.invited = validators.val := invited_eq hvalidators
  have hall : ∀ p ∈ a.parties.val, p ∈ a.signedBy.val := by
    apply h.all_signed
    rw [hstatus]
    trivial
  rw [validated_eq]
  refine ⟨h.signed_nodup, h.signed_subset, ?_, ?_, fun _ => hall, ?_⟩
  · rw [hvalidated]
    exact nodup_concat_of_notMem h.validated_nodup hnew
  · intro v hv
    rw [hvalidated, List.mem_append, List.mem_singleton] at hv
    change v ∈ a.invited
    rcases hv with hv | rfl
    · exact h.validated_subset v hv
    · rwa [hasked]
  · dsimp only
    split
    · next hvalidations =>
      intro _ v hv
      exact hvalidations v (hasked ▸ hv)
    · rw [hstatus]
      exact nofun

end Collecting

/-! ### One input -/

section Inputs

variable {hash : Bytes32} {x : Input AccountId} {o o' : Option (Agreement cfg AccountId)}
  {s s' : State cfg AccountId}

omit [DecidableEq AccountId] in
/-- An agreement that was in force needs nothing more. -/
theorem Agreement.Sound.close {a : Agreement cfg AccountId} (h : a.Sound)
    (hstatus : a.status = .active) (status : AgreementStatus) :
    Agreement.Sound { a with status := status } where
  signed_nodup := h.signed_nodup
  signed_subset := h.signed_subset
  validated_nodup := h.validated_nodup
  validated_subset := h.validated_subset
  all_signed _ := h.all_signed (by rw [hstatus]; trivial)
  all_validated _ := h.all_validated (by rw [hstatus]; trivial)

/-- **An input keeps an agreement sound.** -/
theorem Turn.sound (h : Turn hash x o o') (hsound : ∀ a ∈ o, a.Sound) : ∀ a' ∈ o', a'.Sound := by
  cases h with
  | kept hspares => exact hsound
  | proposed htwo hcreator hnew =>
    intro a' ha'
    obtain rfl := Option.mem_some_iff.mp ha'
    refine ⟨?_, ?_, ?_, ?_, ?_, ?_⟩
    · rw [hnew.signedBy]
      exact List.nodup_nil
    · rw [hnew.signedBy]
      exact nofun
    · rw [hnew.validatedBy]
      exact List.nodup_nil
    · rw [hnew.validatedBy]
      exact nofun
    · rw [hnew.status]
      exact nofun
    · rw [hnew.status]
      exact nofun
  | signed hstatus hparty hnew hsigned =>
    intro a' ha'
    obtain rfl := Option.mem_some_iff.mp ha'
    exact (hsound _ rfl).signed hstatus hparty hnew hsigned
  | validated hrank hstatus hvalidators hinvited hnew hvalidated =>
    intro a' ha'
    obtain rfl := Option.mem_some_iff.mp ha'
    exact (hsound _ rfl).validated hstatus hvalidators hinvited hnew hvalidated
  | disputed hstatus hparty =>
    intro a' ha'
    obtain rfl := Option.mem_some_iff.mp ha'
    exact (hsound _ rfl).close hstatus .disputed
  | completed hstatus hparty =>
    intro a' ha'
    obtain rfl := Option.mem_some_iff.mp ha'
    exact (hsound _ rfl).close hstatus .completed
  | cancelled hpending =>
    intro a' ha'
    obtain rfl := Option.mem_some_iff.mp ha'
    have ha := hsound _ rfl
    exact ⟨ha.signed_nodup, ha.signed_subset, ha.validated_nodup, ha.validated_subset, nofun,
      nofun⟩

/-- **An input takes an agreement one stage further at most, and keeps its terms.** -/
theorem Turn.extends (h : Turn hash x o o') {a : Agreement cfg AccountId} (ha : o = some a) :
    ∃ a', o' = some a' ∧ a.Extends a' ∧ (a'.status = a.status ∨ Follows a.status a'.status) := by
  subst ha
  cases h with
  | kept hspares => exact ⟨a, rfl, .refl a, Or.inl rfl⟩
  | @signed signer _ _ signedBy hstatus hparty hnew hsigned =>
    have hprefix : a.signedBy.val <+: signedBy.val := hsigned ▸ List.prefix_append _ _
    refine ⟨_, rfl, signed_extends hstatus hprefix, ?_⟩
    rw [signed_eq]
    dsimp only
    rw [hstatus]
    split
    · split
      · exact Or.inr .signed
      · exact Or.inr .awaiting
    · exact Or.inl rfl
  | @validated validator _ _ validators validatedBy hrank hstatus hvalidators hinvited hnew
      hvalidated =>
    have hprefix : a.validatedBy.val <+: validatedBy.val := hvalidated ▸ List.prefix_append _ _
    refine ⟨_, rfl, validated_extends hstatus hprefix _, ?_⟩
    rw [validated_eq]
    dsimp only
    rw [hstatus]
    split
    · exact Or.inr .validated
    · exact Or.inl rfl
  | disputed hstatus hparty =>
    have hfollows : Follows a.status .disputed := hstatus ▸ .disputed
    exact ⟨_, rfl, a.extends_of_follows hfollows, Or.inr hfollows⟩
  | completed hstatus hparty =>
    have hfollows : Follows a.status .completed := hstatus ▸ .completed
    exact ⟨_, rfl, a.extends_of_follows hfollows, Or.inr hfollows⟩
  | cancelled hpending =>
    have hfollows : Follows a.status .cancelled := hpending.1 ▸ .cancelled
    exact ⟨_, rfl, a.extends_of_follows hfollows, Or.inr hfollows⟩

/-- Whoever has signed after an input had signed before, or signs now. -/
theorem Turn.signed_cases (h : Turn hash x o o') {a' : Agreement cfg AccountId} {p : AccountId}
    (ha' : o' = some a') (hp : p ∈ a'.signedBy.val) :
    (∃ a, o = some a ∧ p ∈ a.signedBy.val) ∨
      x.Signs hash p ∧ ∃ a, o = some a ∧ a.status = .pendingSignatures := by
  cases h with
  | kept hspares => exact Or.inl ⟨a', ha', hp⟩
  | proposed htwo hcreator hnew =>
    obtain rfl := Option.some.inj ha'
    rw [hnew.signedBy] at hp
    cases hp
  | signed hstatus hparty hnew hsigned =>
    obtain rfl := Option.some.inj ha'
    rw [signed_eq] at hp
    change p ∈ Subtype.val _ at hp
    rw [hsigned, List.mem_append, List.mem_singleton] at hp
    rcases hp with hp | rfl
    · exact Or.inl ⟨_, rfl, hp⟩
    · exact Or.inr ⟨⟨_, rfl⟩, _, rfl, hstatus⟩
  | validated hrank hstatus hvalidators hinvited hnew hvalidated =>
    obtain rfl := Option.some.inj ha'
    rw [validated_eq] at hp
    exact Or.inl ⟨_, rfl, hp⟩
  | disputed hstatus hparty =>
    obtain rfl := Option.some.inj ha'
    exact Or.inl ⟨_, rfl, hp⟩
  | completed hstatus hparty =>
    obtain rfl := Option.some.inj ha'
    exact Or.inl ⟨_, rfl, hp⟩
  | cancelled hpending =>
    obtain rfl := Option.some.inj ha'
    exact Or.inl ⟨_, rfl, hp⟩

/-- Whom the runtime asks the guilds about and finds a professional is one. -/
theorem holdsProfessionalRank_of_isValid {guildMembers : GuildMembers AccountId} {who : AccountId}
    (h : isValidValidator guildMembers who = true) : HoldsProfessionalRank guildMembers who := by
  obtain ⟨guildId, -, hrank⟩ := List.any_eq_true.mp h
  refine ⟨guildId, ?_⟩
  cases hget : guildMembers.get (guildId, who) with
  | none =>
    rw [hget] at hrank
    cases hrank
  | some role =>
    cases role with
    | apprentice =>
      rw [hget] at hrank
      cases hrank
    | professional => exact Or.inl rfl
    | master => exact Or.inr rfl

/-- Whoever has validated after an input had validated before, or validates now. -/
theorem Turn.validated_cases (h : Turn hash x o o') {a' : Agreement cfg AccountId} {v : AccountId}
    (ha' : o' = some a') (hv : v ∈ a'.validatedBy.val) :
    (∃ a, o = some a ∧ v ∈ a.validatedBy.val) ∨
      x.Validates hash v ∧ ∃ a, o = some a ∧ a.status = .pendingValidation := by
  cases h with
  | kept hspares => exact Or.inl ⟨a', ha', hv⟩
  | proposed htwo hcreator hnew =>
    obtain rfl := Option.some.inj ha'
    rw [hnew.validatedBy] at hv
    cases hv
  | signed hstatus hparty hnew hsigned =>
    obtain rfl := Option.some.inj ha'
    rw [signed_eq] at hv
    exact Or.inl ⟨_, rfl, hv⟩
  | validated hrank hstatus hvalidators hinvited hnew hvalidated =>
    obtain rfl := Option.some.inj ha'
    rw [validated_eq] at hv
    change v ∈ Subtype.val _ at hv
    rw [hvalidated, List.mem_append, List.mem_singleton] at hv
    rcases hv with hv | rfl
    · exact Or.inl ⟨_, rfl, hv⟩
    · exact Or.inr ⟨⟨_, rfl, holdsProfessionalRank_of_isValid hrank⟩, _, rfl, hstatus⟩
  | disputed hstatus hparty =>
    obtain rfl := Option.some.inj ha'
    exact Or.inl ⟨_, rfl, hv⟩
  | completed hstatus hparty =>
    obtain rfl := Option.some.inj ha'
    exact Or.inl ⟨_, rfl, hv⟩
  | cancelled hpending =>
    obtain rfl := Option.some.inj ha'
    exact Or.inl ⟨_, rfl, hv⟩

/-- A proposal is accepted under a free hash only. -/
theorem Turn.free_of_proposes (h : Turn hash x o o') (hx : x.Proposes hash) : o = none := by
  obtain ⟨origin, guildMembers, parties, validators, rfl⟩ := hx
  cases h with
  | kept hspares => exact absurd rfl hspares
  | proposed htwo hcreator hnew => rfl

theorem step_sound (h : step x s = .ok s') (hsound : Sound s) : Sound s' := by
  intro hash a' ha'
  exact (step_turn h hash).sound (fun a ha => hsound hash a ha) a' ha'

theorem step_extends (h : step x s = .ok s') : Extends s s' := by
  intro hash a ha
  obtain ⟨a', ha', hextends, -⟩ := (step_turn h hash).extends ha
  exact ⟨a', ha', hextends⟩

/-- **An accepted input is lawful.** -/
theorem step_lawful (h : step x s = .ok s') : Lawful x s s' where
  stage hash a a' ha ha' := by
    obtain ⟨a'', ha'', -, hstage⟩ := (step_turn h hash).extends ha
    obtain rfl : a'' = a' := Option.some.inj (ha''.symm.trans ha')
    exact hstage
  signed hash a' p ha' hp := (step_turn h hash).signed_cases ha' hp
  validated hash a' v ha' hv := (step_turn h hash).validated_cases ha' hv
  registered hash hx := (step_turn h hash).free_of_proposes hx

end Inputs

/-! ### Coming into force -/

section Force

variable {hash : Bytes32} {x : Input AccountId} {o o' : Option (Agreement cfg AccountId)}

omit [DecidableEq AccountId] in
/-- An agreement comes into force. -/
def EntersForce (o o' : Option (Agreement cfg AccountId)) : Prop :=
  ∃ a' ∈ o', a'.status = .active ∧ ∀ a ∈ o, a.status ≠ .active

instance (o o' : Option (Agreement cfg AccountId)) : Decidable (EntersForce o o') :=
  inferInstanceAs (Decidable (∃ a' ∈ o', a'.status = .active ∧ ∀ a ∈ o, a.status ≠ .active))

/-- The input is the last signature or validation that the agreement under a hash awaits. -/
def Input.Completes (hash : Bytes32) (o : Option (Agreement cfg AccountId)) :
    Input AccountId → Prop
  | .call (.signed signer) _ (.signAgreement documentHash) =>
    documentHash = hash ∧ ∃ a ∈ o, a.invited = [] ∧
      ∀ p ∈ a.parties.val, p = signer ∨ p ∈ a.signedBy.val
  | .call (.signed validator) _ (.validateAgreement documentHash) =>
    documentHash = hash ∧ ∃ a ∈ o, ∀ v ∈ a.invited, v = validator ∨ v ∈ a.validatedBy.val
  | _ => False

omit [DecidableEq AccountId] in
/-- All of `l` are among those collected when one more is. -/
theorem forall_mem_concat_iff {l collected : List AccountId} {who : AccountId} :
    (∀ p ∈ l, p ∈ collected ++ [who]) ↔ ∀ p ∈ l, p = who ∨ p ∈ collected :=
  forall₂_congr fun p _ => by rw [List.mem_append, List.mem_singleton, or_comm]

omit [DecidableEq AccountId] in
/-- An agreement that is not active does not come into force. -/
theorem not_entersForce {a' : Agreement cfg AccountId} (h : a'.status ≠ .active) :
    ¬ EntersForce o (some a') := by
  rintro ⟨b, hb, hactive, -⟩
  rw [← Option.mem_some_iff.mp hb] at hactive
  exact h hactive

/-- **An agreement comes into force with the last signature or validation.** -/
theorem Turn.entersForce_iff (h : Turn hash x o o') : EntersForce o o' ↔ x.Completes hash o := by
  cases h with
  | kept hspares =>
    refine iff_of_false ?_ ?_
    · rintro ⟨a', ha', hactive, hinactive⟩
      exact hinactive a' ha' hactive
    · intro hcompletes
      unfold Input.Completes at hcompletes
      split at hcompletes
      · exact hspares hcompletes.1
      · exact hspares hcompletes.1
      · exact hcompletes
  | proposed htwo hcreator hnew =>
    refine iff_of_false (not_entersForce ?_) id
    rw [hnew.status]
    exact nofun
  -- the last signature, when no validator is invited
  | @signed signer _ a signedBy hstatus hparty hnew hsigned =>
    rw [signed_eq]
    simp only [EntersForce, Input.Completes, Option.mem_some_iff, exists_eq_left', hsigned,
      forall_mem_concat_iff, hstatus, true_and]
    constructor
    · rintro ⟨hactive, -⟩
      split at hactive
      · next hall =>
        split at hactive
        · next hnone => exact ⟨hnone, hall⟩
        · cases hactive
      · cases hactive
    · rintro ⟨hnone, hall⟩
      refine ⟨by rw [if_pos hall, if_pos hnone], fun b hb => ?_⟩
      rw [← hb, hstatus]
      exact nofun
  -- the last validation
  | @validated validator _ a validators validatedBy hrank hstatus hvalidators hinvited hnew
      hvalidated =>
    rw [validated_eq]
    simp only [EntersForce, Input.Completes, Option.mem_some_iff, exists_eq_left', hvalidated,
      forall_mem_concat_iff, hstatus, true_and, invited_eq hvalidators]
    constructor
    · rintro ⟨hactive, -⟩
      split at hactive
      · next hall => exact hall
      · cases hactive
    · intro hall
      refine ⟨if_pos hall, fun b hb => ?_⟩
      rw [← hb, hstatus]
      exact nofun
  | disputed hstatus hparty => exact iff_of_false (not_entersForce nofun) id
  | completed hstatus hparty => exact iff_of_false (not_entersForce nofun) id
  | cancelled hpending => exact iff_of_false (not_entersForce nofun) id

/-- What comes into force has awaited a signature or a validation. -/
theorem Turn.pending_of_entersForce (h : Turn hash x o o') (hforce : EntersForce o o') :
    ∃ a ∈ o, a.status = .pendingSignatures ∨ a.status = .pendingValidation := by
  have hcompletes := h.entersForce_iff.mp hforce
  cases h with
  | kept hspares =>
    obtain ⟨a', ha', hactive, hinactive⟩ := hforce
    exact absurd hactive (hinactive a' ha')
  | signed hstatus => exact ⟨_, rfl, Or.inl hstatus⟩
  | validated _ hstatus => exact ⟨_, rfl, Or.inr hstatus⟩
  | proposed => cases hcompletes
  | disputed => cases hcompletes
  | completed => cases hcompletes
  | cancelled => cases hcompletes

end Force

/-! ### Runs -/

omit [DecidableEq AccountId] in
theorem Extends.refl (s : State cfg AccountId) : Extends s s :=
  fun _ a ha => ⟨a, ha, .refl a⟩

omit [DecidableEq AccountId] in
theorem Extends.trans {s s' s'' : State cfg AccountId} (h : Extends s s') (h' : Extends s' s'') :
    Extends s s'' := by
  intro hash a ha
  obtain ⟨a', ha', hextends⟩ := h hash a ha
  obtain ⟨a'', ha'', hextends'⟩ := h' hash a' ha'
  exact ⟨a'', ha'', hextends.trans hextends'⟩

/-- **The agreement protocol.** In every run each accepted input is lawful, every agreement is
sound in every state, and from any state to a later one every agreement keeps its terms and goes
through the stages in order. -/
theorem protocol_run (xs : List (Input AccountId)) :
    Along step (fun s x => Lawful x s (exec step x s)) xs (genesis : State cfg AccountId) ∧
      Throughout step Sound xs (genesis : State cfg AccountId) ∧
      Ascending step Extends xs (genesis : State cfg AccountId) := by
  refine ⟨?_, ?_, ?_⟩
  · refine along_of_step (fun x s s' hs => ?_) xs genesis
    rw [exec_ok hs]
    exact step_lawful hs
  · refine throughout_of_along (Q := fun _ _ => True)
      (fun x s s' hsound _ hs => step_sound hs hsound)
      ?_ (along_true xs genesis)
    intro hash a ha
    rw [genesis, StorageMap.get_empty] at ha
    cases ha
  · refine (ascending_iff_along (Q := fun _ _ => True) Extends.refl
      (fun _ _ _ => Extends.trans) ?_).mpr (along_true xs genesis)
    exact fun x s s' hs => iff_of_true (step_extends hs) trivial

end Chancery
