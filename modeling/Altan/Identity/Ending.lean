import Altan.Identity.Citizenship

/-!
# The end of a life

A citizen's life ends for this record with a registered death or an exile. Nothing else makes a
standing one of the dead or the exiled, and what the end of a life does through other modules it
does then and at no other input.

## Main definitions

* `Ended`: the standing of the dead and the exiled
* `Living`: the standing of every other citizen
* `Input.ends`: whose life an input ends
* `Input.rest`: what an input does through other modules

## Main results

* `step_ended`: who has ended after an input had ended before, or is the one it ends
* `step_ends`: who is ended by an input has ended after it
* `step_living`: a citizen lives on through every other input
* `exists_exile_iff`: an exile is for the living
* `step_observe`: what the inputs do to the rest of the state
-/

open Dispatch Ledger

namespace Identity

variable {AccountId L : Type}

/-- The standing of the dead and of the exiled. -/
def Ended (status : Option CitizenStatus) : Prop :=
  status = some .deceased ∨ status = some .exiled

instance : DecidablePred Ended := fun _ => inferInstanceAs (Decidable (_ ∨ _))

/-- The standing of a citizen who is neither. -/
def Living (status : Option CitizenStatus) : Prop := status.isSome ∧ ¬ Ended status

instance : DecidablePred Living := fun _ => inferInstanceAs (Decidable (_ ∧ _))

/-- Whose life an input ends. -/
def Input.ends : Input AccountId → Option AccountId
  | .call _ (.registerDeath target _) => some target
  | .doExile who => some who
  | _ => none

variable [DecidableEq AccountId] {cfg : Config AccountId L} {ctx : Context AccountId}
  {s s' : State AccountId L} {who p : AccountId}

/-! ### Standings -/

/-- When one account moves, who has ended had ended before, or moved to it. -/
theorem Moved.ended {old : Option CitizenStatus} {new : CitizenStatus} (h : Moved s s' who old new)
    (hp : Ended (s'.status p)) : Ended (s.status p) ∨ p = who ∧ Ended (some new) := by
  rw [h.after, Function.update_apply] at hp
  split at hp
  · next hwho => exact Or.inr ⟨hwho, hp⟩
  · exact Or.inl hp

theorem Moved.ended_of_not {old : Option CitizenStatus} {new : CitizenStatus}
    (h : Moved s s' who old new) (hnew : ¬ Ended (some new)) (hp : Ended (s'.status p)) :
    Ended (s.status p) := by
  rcases h.ended hp with hp | ⟨-, hended⟩
  · exact hp
  · exact absurd hended hnew

/-- **A call that ends nobody's life makes nobody's standing an ended one.** -/
theorem dispatch_ended [Currency AccountId L] [ReservableCurrency AccountId L]
    {c : Call AccountId} (h : dispatch cfg ctx c s = .ok s') (hp : Ended (s'.status p)) :
    Ended (s.status p) ∨ ∃ hash, c = .registerDeath p hash := by
  cases c with
  | registerCitizen => exact Or.inl ((registerCitizen_moved h).ended_of_not (by decide) hp)
  | freezeCitizen => exact Or.inl ((freezeCitizen_moved h).ended_of_not (by decide) hp)
  | unfreezeCitizen => exact Or.inl ((unfreezeCitizen_moved h).ended_of_not (by decide) hp)
  | registerBirth => exact Or.inl ((registerBirth_moved h).ended_of_not (by decide) hp)
  | registerDeath target hash =>
    obtain ⟨old, -, hmoved⟩ := registerDeath_moved h
    rcases hmoved.ended hp with hp | ⟨rfl, -⟩
    · exact Or.inl hp
    · exact Or.inr ⟨hash, rfl⟩
  | _ => exact Or.inl ((dispatch_unmoved h id).status ▸ hp)

/-- **Who has ended after an input had ended before, or is the one it ends.** -/
theorem step_ended [Currency AccountId L] [ReservableCurrency AccountId L] {x : Input AccountId}
    {w w' : World AccountId L} (h : step cfg x w = .ok w') (hp : Ended (w'.status p)) :
    Ended (w.status p) ∨ x.ends = some p := by
  cases x with
  | call origin c =>
    obtain ⟨s', hs', h⟩ := bind_eq_ok.mp h
    obtain rfl := pure_eq_ok.mp h
    rcases dispatch_ended hs' hp with hp | ⟨hash, rfl⟩
    · exact Or.inl hp
    · exact Or.inr rfl
  | doFreezeCitizen who =>
    obtain ⟨s', hs', h⟩ := bind_eq_ok.mp h
    obtain rfl := pure_eq_ok.mp h
    obtain ⟨old, hmoved⟩ := doFreezeCitizen_moved hs'
    -- a freeze, and its end, leave nobody ended who was not
    have hfrozen : ¬ Ended (some CitizenStatus.frozen) := by decide
    exact Or.inl (hmoved.ended_of_not hfrozen hp)
  | doUnfreezeCitizen who =>
    obtain ⟨s', hs', h⟩ := bind_eq_ok.mp h
    obtain rfl := pure_eq_ok.mp h
    simp only [doUnfreezeCitizen, bridged_bind_eq_ok, ensure_bind_eq_ok, pure_eq_ok] at hs'
    obtain ⟨r, hget, -, rfl⟩ := hs'
    have hmoved : Moved w.toState { w.toState with
        citizens := w.citizens.insert who { r with status := .active } } who (some r.status)
        .active := moved_insert (status_of_get hget) rfl rfl
    exact Or.inl (hmoved.ended_of_not (by decide) hp)
  | doDemoteToRegular who =>
    obtain ⟨s', hs', h⟩ := bind_eq_ok.mp h
    obtain rfl := pure_eq_ok.mp h
    simp only [doDemoteToRegular, bridged_bind_eq_ok, pure_eq_ok] at hs'
    obtain ⟨r, hget, rfl⟩ := hs'
    -- a demotion writes the record and leaves the status
    have hstatus : State.status { w.toState with
        citizens := w.citizens.insert who { r with role := .regular, termEnd := none } } =
        w.toState.status := status_insert hget rfl rfl
    exact Or.inl (hstatus ▸ hp)
  | doExile who =>
    obtain ⟨s', hs', h⟩ := bind_eq_ok.mp h
    obtain rfl := pure_eq_ok.mp h
    obtain ⟨old, hmoved, -⟩ := doExile_moved hs'
    rcases hmoved.ended hp with hp | ⟨rfl, -⟩
    · exact Or.inl hp
    · exact Or.inr rfl
  | block =>
    obtain rfl := Except.ok.inj h
    exact Or.inl hp

section Lives

variable [Currency AccountId L] [ReservableCurrency AccountId L] {x : Input AccountId}
  {w w' : World AccountId L}

/-- **Who is ended by an input has ended after it.** -/
theorem step_ends (h : step cfg x w = .ok w') (hx : x.ends = some p) :
    Ended (w'.status p) := by
  cases x with
  | call origin c =>
    cases c with
    | registerDeath target hash =>
      obtain rfl := Option.some.inj hx
      obtain ⟨s', hs', h⟩ := bind_eq_ok.mp h
      obtain rfl := pure_eq_ok.mp h
      obtain ⟨old, -, hmoved⟩ := registerDeath_moved hs'
      rw [hmoved.after, Function.update_self]
      exact Or.inl rfl
    | _ => cases hx
  | doExile who =>
    obtain rfl := Option.some.inj hx
    obtain ⟨s', hs', h⟩ := bind_eq_ok.mp h
    obtain rfl := pure_eq_ok.mp h
    obtain ⟨old, hmoved, hold, hold'⟩ := doExile_moved hs'
    rw [hmoved.after, Function.update_self, CitizenStatus.exile]
    exact Or.inr (congrArg some (if_neg (by tauto)))
  | _ => cases hx

/-- **A citizen lives on through every input that does not end the life.** -/
theorem step_living (h : step cfg x w = .ok w') (hp : Living (w.status p))
    (hx : x.ends ≠ some p) : Living (w'.status p) := by
  obtain ⟨hsome, hliving⟩ := hp
  refine ⟨?_, fun hended => (step_ended h hended).elim hliving hx⟩
  -- no citizen is deleted
  unfold State.status at hsome ⊢
  rw [Option.isSome_map] at hsome ⊢
  exact (step_effect h).containsKey hsome

/-- **An exile is for the living.** -/
theorem exists_exile_iff :
    (∃ w', step cfg (.doExile p) w = .ok w') ↔ Living (w.status p) := by
  constructor
  · rintro ⟨w', h⟩
    obtain ⟨s', hs', -⟩ := bind_eq_ok.mp h
    obtain ⟨old, hmoved, hold, hold'⟩ := doExile_moved hs'
    rw [hmoved.before]
    exact ⟨rfl, by simp [Ended, hold, hold']⟩
  · rintro ⟨hsome, hliving⟩
    cases hget : w.citizens.get p with
    | none => simp [State.status, hget] at hsome
    | some r =>
      rw [status_of_get hget, Ended] at hliving
      have hstatus : r.status ≠ .exiled ∧ r.status ≠ .deceased := by
        simpa [and_comm] using hliving
      obtain ⟨s', hs'⟩ : ∃ s', doExile cfg p w.toState = .ok s' := by
        simp only [doExile, bridged_bind_eq_ok, ensure_bind_eq_ok, pure_eq_ok]
        exact ⟨_, r, hget, hstatus, rfl⟩
      exact ⟨{ w with toState := s' }, bind_eq_ok.mpr ⟨s', hs', rfl⟩⟩

end Lives

/-! ### The rest of the state -/

section Rest

variable [Currency AccountId L] [ReservableCurrency AccountId L] {O : Type} {obs : L → O}

/-- Transfers and reservations do not touch what is observed. -/
structure Untouched (obs : L → O) : Prop where
  transfer : ∀ l a b v er l', Currency.transfer l a b v er = .ok l' → obs l' = obs l
  reserve : ∀ l a v l', ReservableCurrency.reserve l a v = .ok l' → obs l' = obs l

omit [DecidableEq AccountId] in
/-- Nor does the reservation of all that is free. -/
theorem Untouched.reserveAll (hobs : Untouched obs) (l : L) (who : AccountId) :
    obs (reserveAll l who) = obs l := by
  unfold Identity.reserveAll
  dsimp only
  split
  · cases hreserve : ReservableCurrency.reserve l who (freeBalance l who) with
    | ok l' => exact hobs.reserve _ _ _ _ hreserve
    | error e => rfl
  · rfl

omit [Currency AccountId L] [ReservableCurrency AccountId L] in
theorem ensureBirthOrigin_ledger (h : ensureBirthOrigin cfg ctx s = .ok s') :
    s'.ledger = s.ledger := by
  unfold ensureBirthOrigin at h
  split at h
  · rw [Except.ok.inj h]
  · simp only [ensureSigned_bind_eq_ok, ensure_bind_eq_ok, checkAndIncrementOracleRate] at h
    obtain ⟨caller, -, -, h⟩ := h
    split at h
    · simp only [ensure_bind_eq_ok, pure_eq_ok] at h
      rw [← h.2]
    · rw [← pure_eq_ok.mp h]

/-- Calls that move no funds check, and then write the records of this module. -/
theorem dispatch_ledger {c : Call AccountId}
    (hmarriage : ∀ partnerB, c ≠ .registerMarriage partnerB)
    (hdeath : ∀ target hash, c ≠ .registerDeath target hash) :
    Yields (fun s' => s'.ledger = s.ledger) (dispatch cfg ctx c s) := by
  cases c with
  | registerMarriage partnerB => exact absurd rfl (hmarriage partnerB)
  | registerDeath target hash => exact absurd rfl (hdeath target hash)
  | registerBirth child parent1 parent2 childHash birthRegionId =>
    refine Yields.bind fun t ht => ?_
    rw [← ensureBirthOrigin_ledger ht]
    repeat refine Yields.bind fun _ _ => ?_
    exact Yields.pure rfl
  | _ =>
    repeat refine Yields.bind fun _ _ => ?_
    exact Yields.pure rfl

/-- **What a call does to the rest of the state.** -/
theorem dispatch_observe (hobs : Untouched obs) {c : Call AccountId}
    (h : dispatch cfg ctx c s = .ok s') :
    obs s'.ledger = match c with
      | .registerDeath target _ => obs (cfg.onDeceased target (reserveAll s.ledger target))
      | _ => obs s.ledger := by
  by_cases hmarriage : ∃ partnerB, c = .registerMarriage partnerB
  · obtain ⟨partnerB, rfl⟩ := hmarriage
    simp only [dispatch, registerMarriage, ensureSigned_bind_eq_ok, ensure_bind_eq_ok,
      citizen_bind_eq_ok, required_bind_eq_ok, liftCurrency_bind_eq_ok, pure_eq_ok] at h
    obtain ⟨_, -, -, _, -, -, _, -, -, -, -, l, hl, l', hl', rfl⟩ := h
    exact (hobs.transfer _ _ _ _ _ _ hl').trans (hobs.transfer _ _ _ _ _ _ hl)
  by_cases hdeath : ∃ target hash, c = .registerDeath target hash
  · obtain ⟨target, hash, rfl⟩ := hdeath
    obtain ⟨-, -, h⟩ := bind_eq_ok.mp h
    simp only [citizen_bind_eq_ok, ensure_bind_eq_ok, pure_eq_ok] at h
    obtain ⟨r, -, -, rfl⟩ := h
    rfl
  · push Not at hmarriage hdeath
    rw [dispatch_ledger hmarriage hdeath s' h]
    split
    · next target hash _ => exact absurd rfl (hdeath target hash)
    · rfl

/-- What an input does through other modules: something at the end of a life only. -/
def Input.rest (cfg : Config AccountId L) : Input AccountId → L → L
  | .call _ (.registerDeath target _), l => cfg.onDeceased target (reserveAll l target)
  | .doExile who, l => cfg.onExiled who l
  | _, l => l

/-- **What an input does to the rest of the state.** -/
theorem step_observe (hobs : Untouched obs) {x : Input AccountId} {w w' : World AccountId L}
    (h : step cfg x w = .ok w') : obs w'.ledger = obs (x.rest cfg w.ledger) := by
  cases x with
  | call origin c =>
    obtain ⟨t, ht, h⟩ := bind_eq_ok.mp h
    obtain rfl := pure_eq_ok.mp h
    refine (dispatch_observe hobs ht).trans ?_
    cases c <;> rfl
  | doFreezeCitizen who =>
    simp only [step, doFreezeCitizen, bind_eq_ok, pure_eq_ok] at h
    obtain ⟨t, ⟨r, -, rfl⟩, rfl⟩ := h
    rfl
  | doUnfreezeCitizen who =>
    obtain ⟨t, ht, h⟩ := bind_eq_ok.mp h
    obtain rfl := pure_eq_ok.mp h
    simp only [doUnfreezeCitizen, bridged_bind_eq_ok, ensure_bind_eq_ok, pure_eq_ok] at ht
    obtain ⟨r, -, -, rfl⟩ := ht
    rfl
  | doDemoteToRegular who =>
    simp only [step, doDemoteToRegular, bind_eq_ok, pure_eq_ok] at h
    obtain ⟨t, ⟨r, -, rfl⟩, rfl⟩ := h
    rfl
  | doExile who =>
    obtain ⟨t, ht, h⟩ := bind_eq_ok.mp h
    obtain rfl := pure_eq_ok.mp h
    simp only [doExile, bridged_bind_eq_ok, ensure_bind_eq_ok, pure_eq_ok] at ht
    obtain ⟨r, -, -, rfl⟩ := ht
    rfl
  | block =>
    obtain rfl := Except.ok.inj h
    rfl

end Rest

end Identity
