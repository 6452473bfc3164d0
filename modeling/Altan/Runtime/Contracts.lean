import Altan.Chancery.Protocol
import Altan.Foundation.Accounting
import Altan.Identity.Ending
import Altan.Runtime.Estates

/-!
# Contracts with the dead

The citizens and the chancery, wired as in the runtime: the end of a life cancels the agreements
that await signatures and name the citizen. It overlooks those that await their validators, and an
agreement may be proposed that names the dead. No contract comes into force with the dead in
exactly the runs in which no such agreement gets its last signature or validation.

## Main definitions

* `Registry`, `World`, `Input`, `step`: the modules together
* `Living`: what comes into force has no party whose life has ended
* `record`: the parties whose end an agreement has overlooked
* `Spares`: no agreement that has overlooked the end of a party is completed

## Main results

* `step_chancery`: what an input does to the chancery
* `Kept.step`: a pending agreement has overlooked the end of every party whose life has ended
* `living_iff_spares`: the runs in which no contract comes into force with the dead
-/

open Dispatch Ledger TransitionSystem
open Identity (Ended)

namespace Contracts

variable {limits : Chancery.Config} {AccountId L : Type}

/-- The chancery, and what else the end of a life reaches, with the ledger. -/
structure Registry (limits : Chancery.Config) (AccountId L : Type) where
  chancery : Chancery.State limits AccountId
  estate : Estates.Estate AccountId L

instance : Component (Registry limits AccountId L) L where
  get r := r.estate.operator.ledger
  set r ledger := { r with estate := Component.set r.estate ledger }
  get_set _ _ := rfl
  set_get _ := rfl
  set_set _ _ _ := rfl

/-- The constants of the modules. What the citizens do at the end of a life is set by the wiring. -/
structure Config (limits : Chancery.Config) (AccountId L : Type) where
  citizens : Identity.Config AccountId (Registry limits AccountId L)
  estates : Estates.Config AccountId L

/-- The storage of the modules, in a block. -/
abbrev World (limits : Chancery.Config) (AccountId L : Type) :=
  Identity.World AccountId (Registry limits AccountId L)

/-- The errors of the modules. -/
inductive Error
  | identity (e : Identity.Error)
  | chancery (e : Chancery.Error)
  | guilds (e : Guilds.Error)
  deriving DecidableEq, Repr

/-- An input of the citizens, a call of the chancery or the guilds with its origin, or what happens
to the estate elsewhere. -/
inductive Input (AccountId L : Type)
  | identity (x : Identity.Input AccountId)
  | chancery (origin : Origin AccountId) (c : Chancery.Call AccountId)
  | guilds (origin : Origin AccountId) (c : Guilds.Call AccountId)
  | elsewhere (estate : Estates.Estate AccountId L)

variable [DecidableEq AccountId] [Currency AccountId L] [EscrowCurrency AccountId L]

/-- What the death of a citizen does in the modules. -/
def onDeceased (cfg : Config limits AccountId L) (who : AccountId)
    (r : Registry limits AccountId L) : Registry limits AccountId L :=
  let estate := Estates.cleanupAccount who r.estate
  let chancery := Chancery.annulSignatures who r.chancery
  { chancery := chancery
    estate := Estates.triggerInheritance cfg.estates who estate }

/-- What the exile of a citizen does in the modules. -/
def onExiled (who : AccountId) (r : Registry limits AccountId L) : Registry limits AccountId L :=
  let estate := Estates.cleanupAccount who r.estate
  let chancery := Chancery.annulSignatures who r.chancery
  { chancery := chancery
    estate := estate }

/-- The constants of the citizens, with the end of a life wired. -/
def Config.identity (cfg : Config limits AccountId L) :
    Identity.Config AccountId (Registry limits AccountId L) :=
  { cfg.citizens with
    onDeceased := onDeceased cfg
    onExiled := onExiled }

/-- The storage with the registry replaced. -/
def withRegistry (w : World limits AccountId L) (r : Registry limits AccountId L) :
    World limits AccountId L :=
  { w with ledger := r }

/-- The state after one input. -/
def step (cfg : Config limits AccountId L) :
    Input AccountId L → World limits AccountId L →
      Except (DispatchError Error) (World limits AccountId L)
  | .identity x, w => (Identity.step cfg.identity x w).mapError (DispatchError.map .identity)
  | .chancery origin c, w => do
    let s ← (Chancery.step (.call origin w.ledger.estate.market.guildMembers c)
      w.ledger.chancery).mapError (DispatchError.map .chancery)
    return withRegistry w { w.ledger with chancery := s }
  | .guilds origin c, w => do
    let s ← (Guilds.dispatch origin c w.ledger.estate.guilds).mapError (DispatchError.map .guilds)
    return withRegistry w { w.ledger with estate := w.ledger.estate.withGuilds s }
  | .elsewhere estate, w => .ok (withRegistry w { w.ledger with estate := estate })

/-- The modules before any call, on an estate. -/
def genesis (estate : Estates.Estate AccountId L) (now : ℕ) : World limits AccountId L :=
  .genesis { chancery := Chancery.genesis, estate := estate } now

/-! ### What is asked of the runs -/

/-- The agreement under a hash. -/
def agreement (w : World limits AccountId L) (hash : Bytes32) :
    Option (Chancery.Agreement limits AccountId) :=
  w.ledger.chancery.agreements.get hash

/-- An account whose life has ended. -/
def HasEnded (w : World limits AccountId L) (who : AccountId) : Prop := Ended (w.toState.status who)

instance (w : World limits AccountId L) : DecidablePred (HasEnded w) :=
  fun _ => inferInstanceAs (Decidable (Ended _))

/-- An agreement that comes into force has no party whose life has ended. -/
def Living (w w' : World limits AccountId L) : Prop :=
  ∀ hash, Chancery.EntersForce (agreement w hash) (agreement w' hash) →
    ∀ a' ∈ agreement w' hash, ∀ p ∈ a'.parties.val, ¬ HasEnded w' p

/-- Whose life an input ends. -/
def Input.ends : Input AccountId L → Option AccountId
  | .identity x => x.ends
  | _ => none

/-- The agreements that await their validators overlook the end of a party. -/
def overlook (w : World limits AccountId L) (who : AccountId) (log : EventLog Bytes32 AccountId) :
    EventLog Bytes32 AccountId :=
  fun hash =>
    if ∃ a ∈ agreement w hash, a.status = .pendingValidation ∧ who ∈ a.parties.val then
      log hash ++ [who]
    else log hash

/-- The parties whose end the agreements have overlooked: those who are dead or exiled when one is
proposed, and those whose life ends while it awaits its validators. -/
def record (w : World limits AccountId L) (x : Input AccountId L)
    (log : EventLog Bytes32 AccountId) : EventLog Bytes32 AccountId :=
  match x with
  | .chancery _ (.proposeAgreement hash parties _) =>
    Function.update log hash (parties.filter fun p => decide (HasEnded w p))
  | x => x.ends.elim log fun who => overlook w who log

/-- What an input does in the chancery, if anything. -/
def Input.onChancery (w : World limits AccountId L) :
    Input AccountId L → Option (Chancery.Input AccountId)
  | .chancery origin c => some (.call origin w.ledger.estate.market.guildMembers c)
  | x => x.ends.map .annulSignatures

/-- The input is the last signature or validation that an agreement awaits. -/
def Completes (w : World limits AccountId L) (hash : Bytes32) (x : Input AccountId L) : Prop :=
  ∃ y ∈ x.onChancery w, y.Completes hash (agreement w hash)

/-- The input completes no agreement that has overlooked the end of a party who is still dead or
exiled. -/
def Spares (w : World limits AccountId L) (log : EventLog Bytes32 AccountId)
    (x : Input AccountId L) :
    Prop :=
  ∀ hash, Completes w hash x → ∀ p ∈ log hash, ¬ HasEnded w p

/-! ### One input -/

section Inputs

variable {cfg : Config limits AccountId L} {w w' : World limits AccountId L}
  {x : Input AccountId L} {log : EventLog Bytes32 AccountId} {hash : Bytes32}

omit [DecidableEq AccountId] in
/-- Nothing that happens on the ledger touches the chancery. -/
theorem untouched_chancery :
    Identity.Untouched fun r : Registry limits AccountId L => r.chancery where
  transfer l a b v er l' h := by
    obtain ⟨_, rfl⟩ := Component.exists_set_of_lift h
    rfl
  reserve l a v l' h := by
    obtain ⟨_, rfl⟩ := Component.exists_set_of_lift h
    rfl

/-- The end of a life cancels what awaits signatures; no other input of the citizens reaches the
chancery. -/
theorem identity_chancery {x : Identity.Input AccountId}
    (h : Identity.step cfg.identity x w = .ok w') :
    w'.ledger.chancery = match x.ends with
      | some who => Chancery.annulSignatures who w.ledger.chancery
      | none => w.ledger.chancery := by
  refine (Identity.step_observe untouched_chancery h).trans ?_
  cases x with
  | call origin c =>
    cases c with
    | registerDeath target hash =>
      have hreserve := untouched_chancery.reserveAll w.ledger target
      exact congrArg (Chancery.annulSignatures target) hreserve
    | _ => rfl
  | _ => rfl

/-- **What an input does to the chancery.** -/
theorem step_chancery (h : step cfg x w = .ok w') :
    match x.onChancery w with
    | some y => Chancery.step y w.ledger.chancery = .ok w'.ledger.chancery
    | none => w'.ledger.chancery = w.ledger.chancery := by
  cases x with
  | identity x =>
    have hchancery := identity_chancery (mapError_eq_ok.mp h)
    cases hends : x.ends with
    | some who =>
      rw [hends] at hchancery
      simp only [Input.onChancery, Input.ends, hends, Option.map_some]
      exact congrArg Except.ok hchancery.symm
    | none =>
      rw [hends] at hchancery
      simp only [Input.onChancery, Input.ends, hends, Option.map_none]
      exact hchancery
  | chancery origin c =>
    obtain ⟨s, hs, h⟩ := mapError_bind_eq_ok.mp h
    obtain rfl := pure_eq_ok.mp h
    exact hs
  | guilds origin c =>
    obtain ⟨s, hs, h⟩ := mapError_bind_eq_ok.mp h
    obtain rfl := pure_eq_ok.mp h
    rfl
  | elsewhere estate =>
    obtain rfl := Except.ok.inj h
    rfl

/-- Who has ended after an input had ended before, or is the one it ends. -/
theorem step_ended (h : step cfg x w = .ok w') {p : AccountId} (hp : HasEnded w' p) :
    HasEnded w p ∨ x.ends = some p := by
  cases x with
  | identity x => exact Identity.step_ended (mapError_eq_ok.mp h) hp
  | chancery origin c =>
    obtain ⟨s, hs, h⟩ := mapError_bind_eq_ok.mp h
    obtain rfl := pure_eq_ok.mp h
    exact Or.inl hp
  | guilds origin c =>
    obtain ⟨s, hs, h⟩ := mapError_bind_eq_ok.mp h
    obtain rfl := pure_eq_ok.mp h
    exact Or.inl hp
  | elsewhere estate =>
    obtain rfl := Except.ok.inj h
    exact Or.inl hp

/-- What an input does to the agreement under a hash. -/
theorem step_turn (h : step cfg x w = .ok w') (hash : Bytes32) :
    (∃ y, x.onChancery w = some y ∧ Chancery.Turn hash y (agreement w hash) (agreement w' hash)) ∨
      x.onChancery w = none ∧ agreement w' hash = agreement w hash := by
  have hchancery := step_chancery h
  cases hy : x.onChancery w with
  | some y =>
    rw [hy] at hchancery
    exact Or.inl ⟨y, rfl, Chancery.step_turn hchancery hash⟩
  | none =>
    rw [hy] at hchancery
    exact Or.inr ⟨rfl, congrArg (fun s => s.agreements.get hash) hchancery⟩

/-- A call of the chancery changes nobody's standing. -/
theorem chancery_hasEnded {origin : Origin AccountId} {c : Chancery.Call AccountId}
    (h : step cfg (.chancery origin c) w = .ok w') (p : AccountId) :
    HasEnded w' p ↔ HasEnded w p := by
  obtain ⟨s, hs, h⟩ := mapError_bind_eq_ok.mp h
  obtain rfl := pure_eq_ok.mp h
  exact Iff.rfl

/-! ### What the agreements have overlooked -/

/-- A pending agreement has overlooked the end of every party whose life has ended, and no others
than its parties. -/
structure Kept (w : World limits AccountId L) (log : EventLog Bytes32 AccountId) : Prop where
  overlooked : ∀ hash a p, agreement w hash = some a →
    a.status = .pendingSignatures ∨ a.status = .pendingValidation → p ∈ a.parties.val →
    HasEnded w p → p ∈ log hash
  parties : ∀ hash p, p ∈ log hash → ∃ a, agreement w hash = some a ∧ p ∈ a.parties.val

/-- An agreement goes on with its parties. -/
theorem agreement_extends (h : step cfg x w = .ok w') {a : Chancery.Agreement limits AccountId}
    (ha : agreement w hash = some a) : ∃ a', agreement w' hash = some a' ∧ a.Extends a' := by
  rcases step_turn h hash with ⟨y, -, hturn⟩ | ⟨-, hsame⟩
  · obtain ⟨a', ha', hextends, -⟩ := hturn.extends ha
    exact ⟨a', ha', hextends⟩
  · exact ⟨a, hsame.trans ha, .refl a⟩

omit [Currency AccountId L] [EscrowCurrency AccountId L] in
/-- A proposal starts over under its hash; other calls of the chancery overlook nobody. -/
theorem record_chancery_of_ne {origin : Origin AccountId} {c : Chancery.Call AccountId}
    (hc : ∀ parties validators, c ≠ .proposeAgreement hash parties validators) :
    record w (.chancery origin c) log hash = log hash := by
  cases c with
  | proposeAgreement documentHash parties validators =>
    have hne : hash ≠ documentHash := by
      rintro rfl
      exact hc parties validators rfl
    exact Function.update_of_ne hne _ log
  | _ => rfl

omit [Currency AccountId L] [EscrowCurrency AccountId L] in
/-- What is proposed has overlooked the parties whose life has ended. -/
theorem record_proposeAgreement {origin : Origin AccountId} {parties : List AccountId}
    {validators : Option (List AccountId)} {p : AccountId} :
    p ∈ record w (.chancery origin (.proposeAgreement hash parties validators)) log hash ↔
      p ∈ parties ∧ HasEnded w p := by
  simp [record]

/-- A call of the chancery keeps what the pending agreements have overlooked. -/
theorem Kept.chancery {origin : Origin AccountId} {c : Chancery.Call AccountId} (hk : Kept w log)
    (h : step cfg (.chancery origin c) w = .ok w') :
    Kept w' (record w (.chancery origin c) log) := by
  constructor
  · intro hash a' p ha' hpending hp hended
    rw [chancery_hasEnded h] at hended
    rcases step_turn h hash with ⟨y, hy, hturn⟩ | ⟨hnone, -⟩
    · obtain rfl := Option.some.inj hy
      have hkept := fun a ha => hk.overlooked hash a p ha
      rw [ha'] at hturn
      generalize agreement w hash = o at hturn hkept
      cases hturn with
      | kept hspares =>
        have hc : ∀ parties validators, c ≠ .proposeAgreement hash parties validators := by
          rintro parties validators rfl
          exact hspares rfl
        rw [record_chancery_of_ne hc]
        exact hkept a' rfl hpending hp hended
      -- who has ended by now is recorded with the proposal
      | proposed htwo hcreator hnew =>
        rw [hnew.parties] at hp
        exact record_proposeAgreement.mpr ⟨hp, hended⟩
      | signed hstatus =>
        rw [Chancery.signed_eq] at hp
        exact hkept _ rfl (Or.inl hstatus) hp hended
      | validated _ hstatus =>
        rw [Chancery.validated_eq] at hp
        exact hkept _ rfl (Or.inr hstatus) hp hended
      -- what is disputed or completed is not pending
      | disputed => rcases hpending with hpending | hpending <;> cases hpending
      | completed => rcases hpending with hpending | hpending <;> cases hpending
    · cases hnone
  · -- who is recorded is a party, and parties stay
    intro hash p hp
    by_cases hc : ∃ parties validators, c = .proposeAgreement hash parties validators
    · obtain ⟨parties, validators, rfl⟩ := hc
      obtain ⟨hparty, -⟩ := record_proposeAgreement.mp hp
      rcases step_turn h hash with ⟨y, hy, hturn⟩ | ⟨hnone, -⟩
      · obtain rfl := Option.some.inj hy
        generalize agreement w hash = o at hturn
        generalize ho' : agreement w' hash = o' at hturn
        cases hturn with
        | kept hspares => exact absurd rfl hspares
        | proposed htwo hcreator hnew => exact ⟨_, rfl, hnew.parties ▸ hparty⟩
      · cases hnone
    · push Not at hc
      rw [record_chancery_of_ne hc] at hp
      obtain ⟨a, ha, hparty⟩ := hk.parties hash p hp
      obtain ⟨a', ha', hextends⟩ := agreement_extends h ha
      exact ⟨a', ha', hextends.parties ▸ hparty⟩

omit [Currency AccountId L] [EscrowCurrency AccountId L] in
theorem mem_overlook_of_mem {who p : AccountId} (hp : p ∈ log hash) :
    p ∈ overlook w who log hash := by
  unfold overlook
  split
  · exact List.mem_append_left _ hp
  · exact hp

/-- Any other input keeps it too: what the end of a life does not cancel overlooks it. -/
theorem Kept.elsewhere (hk : Kept w log) (h : step cfg x w = .ok w')
    (hx : ∀ origin c, x ≠ .chancery origin c) :
    Kept w' (x.ends.elim log fun who => overlook w who log) := by
  have honChancery : x.onChancery w = x.ends.map .annulSignatures := by
    cases x with
    | chancery origin c => exact absurd rfl (hx origin c)
    | _ => rfl
  cases hends : x.ends with
  | none =>
    rw [hends, Option.map_none] at honChancery
    have hsame : ∀ hash, agreement w' hash = agreement w hash := by
      intro hash
      rcases step_turn h hash with ⟨y, hy, -⟩ | ⟨-, hsame⟩
      · rw [honChancery] at hy
        cases hy
      · exact hsame
    constructor
    · intro hash a' p ha' hpending hp hended
      rw [hsame] at ha'
      rcases step_ended h hended with hended | hp'
      · exact hk.overlooked hash a' p ha' hpending hp hended
      · rw [hends] at hp'
        cases hp'
    · intro hash p hp
      rw [hsame]
      exact hk.parties hash p hp
  | some who =>
    rw [hends, Option.map_some] at honChancery
    have hturn : ∀ hash, Chancery.Turn hash (.annulSignatures who) (agreement w hash)
        (agreement w' hash) := by
      intro hash
      rcases step_turn h hash with ⟨y, hy, hturn⟩ | ⟨hnone, -⟩
      · rw [honChancery] at hy
        rwa [Option.some.inj hy]
      · rw [honChancery] at hnone
        cases hnone
    constructor
    · intro hash a' p ha' hpending hp hended
      change p ∈ overlook w who log hash
      have hturn := hturn hash
      rw [ha'] at hturn
      generalize ho : agreement w hash = o at hturn
      cases hturn with
      | kept hspares =>
        rcases step_ended h hended with hended | hp'
        · exact mem_overlook_of_mem (hk.overlooked hash a' p ho hpending hp hended)
        -- the one whose life ends is a party: the agreement awaits its validators
        · obtain rfl : who = p := Option.some.inj (hends.symm.trans hp')
          have hvalidation : a'.status = .pendingValidation := by
            rcases hpending with hpending | hpending
            · exact absurd ⟨hpending, hp⟩ (hspares a' rfl)
            · exact hpending
          unfold overlook
          rw [if_pos ⟨a', ho, hvalidation, hp⟩]
          exact List.mem_append_right _ (List.mem_singleton_self _)
      | cancelled => rcases hpending with hpending | hpending <;> cases hpending
    · intro hash p hp
      have hparty : ∃ a, agreement w hash = some a ∧ p ∈ a.parties.val := by
        change p ∈ overlook w who log hash at hp
        unfold overlook at hp
        split at hp
        · next hoverlooked =>
          obtain ⟨a, ha, -, hwho⟩ := hoverlooked
          rcases List.mem_append.mp hp with hp | hp
          · exact hk.parties hash p hp
          · exact ⟨a, ha, List.mem_singleton.mp hp ▸ hwho⟩
        · exact hk.parties hash p hp
      obtain ⟨a, ha, hparty⟩ := hparty
      obtain ⟨a', ha', hextends⟩ := agreement_extends h ha
      exact ⟨a', ha', hextends.parties ▸ hparty⟩

/-- **Every input keeps what the pending agreements have overlooked.** -/
theorem Kept.step (hk : Kept w log) (h : step cfg x w = .ok w') : Kept w' (record w x log) := by
  cases x with
  | chancery origin c => exact hk.chancery h
  | identity x => exact hk.elsewhere h nofun
  | guilds origin c => exact hk.elsewhere h nofun
  | elsewhere estate => exact hk.elsewhere h nofun

/-! ### Contracts come into force -/

/-- An agreement comes into force with an input that completes it, which changes nobody's
standing. -/
theorem entersForce_iff (h : step cfg x w = .ok w') :
    Chancery.EntersForce (agreement w hash) (agreement w' hash) ↔ Completes w hash x := by
  rcases step_turn h hash with ⟨y, hy, hturn⟩ | ⟨hnone, hsame⟩
  · rw [hturn.entersForce_iff]
    unfold Completes
    rw [hy]
    simp
  · refine iff_of_false ?_ ?_
    · rintro ⟨a', ha', hactive, hinactive⟩
      exact hinactive a' (hsame ▸ ha') hactive
    · rintro ⟨y, hy, -⟩
      rw [hnone] at hy
      cases hy

/-- What completes an agreement is a call of the chancery, which changes nobody's standing. -/
theorem Completes.hasEnded (hx : Completes w hash x) (h : step cfg x w = .ok w') (p : AccountId) :
    HasEnded w' p ↔ HasEnded w p := by
  have hother : x.onChancery w = x.ends.map .annulSignatures →
      (HasEnded w' p ↔ HasEnded w p) := by
    intro honChancery
    obtain ⟨y, hy, hcompletes⟩ := hx
    rw [honChancery] at hy
    obtain ⟨who, -, rfl⟩ := Option.map_eq_some_iff.mp hy
    exact hcompletes.elim
  cases x with
  | chancery origin c => exact chancery_hasEnded h p
  | identity x => exact hother rfl
  | guilds origin c => exact hother rfl
  | elsewhere estate => exact hother rfl

/-- **What comes into force is with the living just if the input spares what has overlooked the
end of a party.** -/
theorem Kept.living_iff (hk : Kept w log) (h : Contracts.step cfg x w = .ok w') :
    Living w w' ↔ Spares w log x := by
  constructor
  · intro hliving hash hcompletes p hp hended
    obtain ⟨a, ha, hparty⟩ := hk.parties hash p hp
    obtain ⟨a', ha', hextends⟩ := agreement_extends h ha
    refine hliving hash ((entersForce_iff h).mpr hcompletes) a' ha' p ?_
      ((hcompletes.hasEnded h p).mpr hended)
    rwa [hextends.parties]
  · intro hspares hash hforce a' ha' p hp hended
    have hcompletes := (entersForce_iff h).mp hforce
    rw [hcompletes.hasEnded h] at hended
    rcases step_turn h hash with ⟨y, -, hturn⟩ | ⟨-, hsame⟩
    · obtain ⟨a, ha, hpending⟩ := hturn.pending_of_entersForce hforce
      obtain ⟨b, hb, hextends⟩ := agreement_extends h ha
      obtain rfl : b = a' := Option.some.inj (hb.symm.trans ha')
      rw [hextends.parties] at hp
      exact hspares hash hcompletes p (hk.overlooked hash a p ha hpending hp hended) hended
    · obtain ⟨b, hb, hactive, hinactive⟩ := hforce
      exact hinactive b (hsame ▸ hb) hactive

end Inputs

/-! ### Runs -/

omit [Currency AccountId L] [EscrowCurrency AccountId L] in
/-- Before any call no agreement has overlooked anything. -/
theorem kept_genesis (estate : Estates.Estate AccountId L) (now : ℕ) :
    Kept (genesis estate now : World limits AccountId L) fun _ => [] where
  overlooked hash a p ha := by
    change StorageMap.get ∅ hash = some a at ha
    rw [StorageMap.get_empty] at ha
    cases ha
  parties hash p hp := by cases hp

/-- **No contract comes into force with the dead in exactly the runs that complete no agreement
which has overlooked the end of a party who is still dead or exiled.** -/
theorem living_iff_spares (cfg : Config limits AccountId L) (estate : Estates.Estate AccountId L)
    (now : ℕ) (xs : List (Input AccountId L)) :
    Along (step cfg) (fun w x => Living w (exec (step cfg) x w)) xs (genesis estate now) ↔
      Along (recording record (step cfg)) (fun t x => Spares t.1 t.2 x) xs
        (genesis estate now, fun _ => []) := by
  have hliving : Along (recording record (step cfg))
      (fun t x => Living t.1 (exec (step cfg) x t.1)) xs (genesis estate now, fun _ => []) ↔
        Along (step cfg) (fun w x => Living w (exec (step cfg) x w)) xs (genesis estate now) :=
    along_recording (Q := fun w x => Living w (exec (step cfg) x w))
  rw [← hliving]
  refine along_recording_congr (J := Kept) (R := fun w w' _ _ => Living w w')
    (Q := fun w log x => Spares w log x) ?_ ?_ (kept_genesis estate now)
  · exact fun x w w' log hk hs => hk.step hs
  · exact fun x w w' log hk hs => hk.living_iff hs

end Contracts

/-! ### A contract with the dead -/

namespace Runtime

/-- Ten parties and five validators at most. -/
def chancery : Chancery.Config where
  maxParties := 10
  maxValidators := 5

/-- The constants of the runtime. -/
def contracts : Contracts.Config chancery ℕ (EscrowLedger ℕ) where
  citizens :=
    { medicalAuthority := 0
      marriageFee := 5 * CentralBank.unit
      civilFeeTreasury := 2
      arbadCooldownPeriod := 432000
      maxRegistrationsPerBlock := 100
      constitutionHash := none
      onDeceased := fun _ r => r
      onExiled := fun _ r => r }
  estates := estates

end Runtime

namespace Contracts

/-- The storage before any call. -/
def start : World Runtime.chancery ℕ (Runtime.EscrowLedger ℕ) :=
  genesis Runtime.estatesGenesis.ledger 1

/-- The citizen 7 and the account 8 sign a contract that awaits the validation of 9, a master of
the first guild; then the citizen dies. -/
def widowed : List (Input ℕ (Runtime.EscrowLedger ℕ)) :=
  [.identity (Runtime.decree (Runtime.registration 7 (.ofByte 0))),
    .guilds (.signed 9) (.createGuild [] [] none 0),
    .chancery (.signed 7) (.proposeAgreement (.ofByte 1) [7, 8] (some [9])),
    .chancery (.signed 7) (.signAgreement (.ofByte 1)),
    .chancery (.signed 8) (.signAgreement (.ofByte 1)),
    .identity (Runtime.decree (.registerDeath 7 (.ofByte 2)))]

/-- Then it is validated. -/
def validation : Input ℕ (Runtime.EscrowLedger ℕ) :=
  .chancery (.signed 9) (.validateAgreement (.ofByte 1))

/-- The contract that was validated after the death of a party is in force. -/
theorem dead_party_bound :
    ¬ ∀ xs : List (Input ℕ (Runtime.EscrowLedger ℕ)),
      Along (step Runtime.contracts)
        (fun w x => Living w (exec (step Runtime.contracts) x w)) xs start := by
  intro h
  obtain ⟨-, hlast, -⟩ := along_append.mp (h (widowed ++ [validation]))
  obtain ⟨w', hw'⟩ := exists_ok (x := step Runtime.contracts validation
    (run (step Runtime.contracts) widowed start)) (by decide +kernel)
  have hparties := hlast w' hw' (.ofByte 1) (by decide +kernel)
  revert hparties
  decide +kernel

end Contracts
