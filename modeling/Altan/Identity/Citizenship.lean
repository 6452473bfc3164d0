import Altan.Identity.Spec

/-!
# Citizenship and standing

Who is not a foreigner does not become one: the kind of citizenship is written when an account is
first recorded, and by the two ways for a foreigner to become a citizen. And nobody who is recorded
is struck off. The standing is written by the calls that move it, and by no other.

## Main definitions

* `CitizenRecord.IsCitizen`: a record of somebody who is not a foreigner
* `Retained`: whoever is recorded stays so, and citizens do not become foreigners
* `Unmoved`: no standing changes, and the citizens are retained
* `Call.Moves`: the calls that write a standing

## Main results

* `dispatch_unmoved`: a call that writes no standing leaves all of them
* `dispatch_retained`, `step_retained`: every call, and every input, retains the citizens
* `dispatch_lawful`: no call of the module changes a standing unlawfully
-/

open Bounded Dispatch Ledger TransitionSystem

namespace Identity

variable {AccountId L : Type} [DecidableEq AccountId] {cfg : Config AccountId L}
  {ctx : Context AccountId} {s s' : State AccountId L} {who : AccountId} {r r' : CitizenRecord}

/-- The record is that of a citizen and not of a foreigner. -/
def CitizenRecord.IsCitizen (r : CitizenRecord) : Prop := r.citizenshipStatus ≠ .foreigner

instance : DecidablePred CitizenRecord.IsCitizen := fun r =>
  inferInstanceAs (Decidable (r.citizenshipStatus ≠ .foreigner))

/-- Whoever is recorded stays so, and citizens do not become foreigners. -/
def Retained (s s' : State AccountId L) : Prop :=
  ∀ who r, s.citizens.get who = some r →
    ∃ r', s'.citizens.get who = some r' ∧ (r.IsCitizen → r'.IsCitizen)

theorem Retained.of_eq (h : s'.citizens = s.citizens) : Retained s s' := by
  intro a r hr
  rw [h]
  exact ⟨r, hr, id⟩

/-- A new record is none of those there were. -/
theorem Retained.insert_new (hnew : s.citizens.containsKey who = false)
    (h : s'.citizens = s.citizens.insert who r) : Retained s s' := by
  intro a r' hr'
  have hne : a ≠ who := by
    rintro rfl
    rw [StorageMap.not_containsKey.mp hnew] at hr'
    cases hr'
  rw [h, StorageMap.get_insert_of_ne hne]
  exact ⟨r', hr', id⟩

/-- A record is replaced by one of a citizen, if it was one. -/
theorem Retained.insert (hget : s.citizens.get who = some r)
    (h : s'.citizens = s.citizens.insert who r') (hr : r.IsCitizen → r'.IsCitizen) :
    Retained s s' := by
  intro a r₀ hr₀
  rw [h, StorageMap.get_insert]
  split
  · next ha =>
    rw [ha, hget] at hr₀
    exact ⟨r', rfl, Option.some.inj hr₀ ▸ hr⟩
  · exact ⟨r₀, hr₀, id⟩

/-! ### Who writes no standing -/

/-- The standing that a record shows, and the kind of citizenship. -/
def CitizenRecord.standing (r : CitizenRecord) : CitizenStatus × CitizenshipStatus :=
  (r.status, r.citizenshipStatus)

theorem advanceVesting_standing (level : VestingLevel) (r : CitizenRecord) :
    (r.advanceVesting level).standing = r.standing := by
  unfold CitizenRecord.advanceVesting
  exact apply_ite CitizenRecord.standing _ _ _ |>.trans (ite_self _)

/-- No standing changes, and the citizens are retained. -/
structure Unmoved (s s' : State AccountId L) : Prop where
  status : s'.status = s.status
  retained : Retained s s'

theorem Unmoved.of_standing (h : ∀ a, (s'.citizens.get a).map CitizenRecord.standing =
    (s.citizens.get a).map CitizenRecord.standing) : Unmoved s s' where
  status := by
    ext a : 1
    have hstatus := congrArg (Option.map Prod.fst) (h a)
    rwa [Option.map_map, Option.map_map] at hstatus
  retained := by
    intro a r hr
    have ha := h a
    rw [hr] at ha
    obtain ⟨r', hr', hstanding⟩ := Option.map_eq_some_iff.mp ha
    refine ⟨r', hr', fun hcitizen => ?_⟩
    unfold CitizenRecord.IsCitizen
    rwa [show r'.citizenshipStatus = r.citizenshipStatus from congrArg Prod.snd hstanding]

/-- A record is replaced by one of the same standing, and of a citizen if it was one. -/
theorem Unmoved.insert (hget : s.citizens.get who = some r)
    (h : s'.citizens = s.citizens.insert who r') (hstatus : r'.status = r.status)
    (hr : r.IsCitizen → r'.IsCitizen) : Unmoved s s' :=
  ⟨status_insert hget h hstatus, Retained.insert hget h hr⟩

theorem Unmoved.of_civics (h : s'.civics = s.civics) : Unmoved s s' :=
  of_standing fun a => congrArg (fun c : Civics AccountId => (c.citizens.get a).map _) h

/-- The deeds that may write a standing: a first record, and those that are of no kind. -/
def Deed.Moves : Deed AccountId → Prop
  | .registration .. | .birth .. | .other => True
  | _ => False

theorem Effect.standing {period now : ℕ} {d : Deed AccountId} {c c' : Civics AccountId}
    (h : Effect period now d c c') (hd : ¬ d.Moves) (a : AccountId) :
    (c'.citizens.get a).map CitizenRecord.standing =
      (c.citizens.get a).map CitizenRecord.standing := by
  cases h with
  | registration | birth | amended | kept => exact absurd trivial hd
  | verification hget | appointment hget => exact StorageMap.map_get_insert hget rfl
  | khural hget | confederation hget => exact StorageMap.map_get_insert hget rfl
  | arbad => exact map_get_enrol (fun _ => rfl) (advanceVesting_standing _)
  | zun => exact StorageMap.map_get_modify fun r => advanceVesting_standing _ _
  | myangad | tumed => exact StorageMap.map_get_modify fun _ => rfl
  | leave => rfl

theorem Effect.unmoved {period now : ℕ} {d : Deed AccountId}
    (h : Effect period now d s.civics s'.civics) (hd : ¬ d.Moves) : Unmoved s s' :=
  .of_standing (h.standing hd)

theorem claimRepatriation_unmoved {acceptedConstitutionHash : Bytes32}
    (h : claimRepatriation cfg ctx who acceptedConstitutionHash s = .ok s') : Unmoved s s' := by
  simp only [claimRepatriation, ensureRoot_bind_eq_ok] at h
  obtain ⟨-, h⟩ := h
  obtain ⟨-, -, h⟩ := bind_eq_ok.mp h
  simp only [citizen_bind_eq_ok, ensure_bind_eq_ok, pure_eq_ok] at h
  obtain ⟨r, hget, -, rfl⟩ := h
  exact Unmoved.insert hget rfl rfl fun _ hx => by cases hx

theorem claimBirthright_unmoved {acceptedConstitutionHash : Bytes32}
    (h : claimBirthright cfg ctx acceptedConstitutionHash s = .ok s') : Unmoved s s' := by
  simp only [claimBirthright, ensureSigned_bind_eq_ok] at h
  obtain ⟨caller, -, h⟩ := h
  obtain ⟨-, -, h⟩ := bind_eq_ok.mp h
  simp only [citizen_bind_eq_ok, ensure_bind_eq_ok, pure_eq_ok] at h
  obtain ⟨r, hget, -, -, rfl⟩ := h
  exact Unmoved.insert hget rfl rfl fun _ hx => by cases hx

/-- The calls that write a standing. -/
def Call.Moves : Call AccountId → Prop
  | .registerCitizen .. | .registerBirth .. | .registerDeath .. | .freezeCitizen _
  | .unfreezeCitizen _ => True
  | _ => False

/-- **A call that writes no standing leaves all of them, and retains the citizens.** -/
theorem dispatch_unmoved [Currency AccountId L] [ReservableCurrency AccountId L]
    {c : Call AccountId} (h : dispatch cfg ctx c s = .ok s') (hc : ¬ c.Moves) :
    Unmoved s s' := by
  obtain ⟨origin, now⟩ := ctx
  have heffect := dispatch_effect h
  cases c with
  | verifyCitizen | formArbad | formZun | formMyangad | formTumed | formKhural
  | formConfederation | leaveArbad =>
    cases origin with
    | signed caller => exact heffect.unmoved id
    | _ => cases h
  | formFamilyArbad spouse head =>
    cases origin with
    | signed caller =>
      have hdeed : ¬ (if head = caller then Deed.arbad true caller [spouse]
          else Deed.arbad true spouse [caller]).Moves := by
        split <;> exact id
      exact heffect.unmoved hdeed
    | _ => cases h
  | bootstrapVerifyCreator | updateRole =>
    cases origin with
    | root => exact heffect.unmoved id
    | _ => cases h
  | claimRepatriation => exact claimRepatriation_unmoved h
  | claimBirthright => exact claimBirthright_unmoved h
  | assignGuardian => exact Unmoved.of_civics (assignGuardian_civics h)
  | registerMarriage => exact Unmoved.of_civics (registerMarriage_civics h)
  | registerDivorce => exact Unmoved.of_civics (registerDivorce_civics h)
  | registerNickname => exact Unmoved.of_civics (registerNickname_civics h)
  | clearNickname => exact Unmoved.of_civics (clearNickname_civics h)
  | _ => exact absurd trivial hc

/-- **No call of this module changes a standing unlawfully.** -/
theorem dispatch_lawful [Currency AccountId L] [ReservableCurrency AccountId L]
    {c : Call AccountId} (h : dispatch cfg ctx c s = .ok s') : Lawful s s' := by
  cases c with
  | registerCitizen => exact (registerCitizen_moved h).lawful.mpr (by decide)
  | freezeCitizen => exact (freezeCitizen_moved h).lawful.mpr (by decide)
  | unfreezeCitizen => exact (unfreezeCitizen_moved h).lawful.mpr (by decide)
  | registerBirth => exact (registerBirth_moved h).lawful.mpr (by decide)
  | registerDeath =>
    obtain ⟨old, -, hmoved⟩ := registerDeath_moved h
    apply hmoved.lawful.mpr
    cases old <;> decide
  | _ => exact lawful_of_status_eq (dispatch_unmoved h id).status

/-! ### Every input retains the citizens -/

/-- **Every call retains the citizens.** -/
theorem dispatch_retained [Currency AccountId L] [ReservableCurrency AccountId L]
    {c : Call AccountId} (h : dispatch cfg ctx c s = .ok s') : Retained s s' := by
  cases c with
  | registerCitizen =>
    simp only [dispatch, registerCitizen, ensureRoot_bind_eq_ok, ensure_bind_eq_ok,
      pure_eq_ok] at h
    obtain ⟨-, hnew, -, -, -, -, -, rfl⟩ := h
    exact Retained.insert_new hnew rfl
  | registerBirth =>
    obtain ⟨t, ht, h⟩ := bind_eq_ok.mp h
    have hcitizens : t.citizens = s.citizens := ensureBirthOrigin_citizens ht
    simp only [ensure_bind_eq_ok, required_bind_eq_ok, pure_eq_ok] at h
    obtain ⟨-, -, hnew, parentRec, -, -, rfl⟩ := h
    exact Retained.insert_new (hcitizens ▸ hnew)
      (congrArg (StorageMap.insert · _ _) hcitizens)
  | registerDeath =>
    obtain ⟨-, -, h⟩ := bind_eq_ok.mp h
    simp only [citizen_bind_eq_ok, ensure_bind_eq_ok, pure_eq_ok] at h
    obtain ⟨r, hget, -, rfl⟩ := h
    exact Retained.insert hget rfl id
  | freezeCitizen =>
    simp only [dispatch, freezeCitizen, ensureRoot_bind_eq_ok, citizen_bind_eq_ok,
      ensure_bind_eq_ok, pure_eq_ok] at h
    obtain ⟨-, r, hget, -, rfl⟩ := h
    exact Retained.insert hget rfl id
  | unfreezeCitizen =>
    simp only [dispatch, unfreezeCitizen, ensureRoot_bind_eq_ok, citizen_bind_eq_ok,
      ensure_bind_eq_ok, pure_eq_ok] at h
    obtain ⟨-, r, hget, -, -, rfl⟩ := h
    exact Retained.insert hget rfl id
  | _ => exact (dispatch_unmoved h id).retained

/-- **Every input retains the citizens**, those of other modules included. -/
theorem step_retained [Currency AccountId L] [ReservableCurrency AccountId L]
    {x : Input AccountId} {w w' : World AccountId L} (h : step cfg x w = .ok w') :
    Retained w.toState w'.toState := by
  cases x with
  | call origin c =>
    obtain ⟨s', hs', h⟩ := bind_eq_ok.mp h
    rw [← pure_eq_ok.mp h]
    exact dispatch_retained hs'
  | doFreezeCitizen who =>
    simp only [step, doFreezeCitizen, bind_eq_ok, bridged, required_eq_ok, pure_eq_ok] at h
    obtain ⟨s', ⟨r, hget, rfl⟩, rfl⟩ := h
    exact Retained.insert hget rfl id
  | doUnfreezeCitizen who =>
    simp only [step, doUnfreezeCitizen, bind_eq_ok, bridged, required_eq_ok, ensure_eq_ok,
      pure_eq_ok] at h
    obtain ⟨s', ⟨r, hget, -, -, rfl⟩, rfl⟩ := h
    exact Retained.insert hget rfl id
  | doDemoteToRegular who =>
    simp only [step, doDemoteToRegular, bind_eq_ok, bridged, required_eq_ok, pure_eq_ok] at h
    obtain ⟨s', ⟨r, hget, rfl⟩, rfl⟩ := h
    exact Retained.insert hget rfl id
  | doExile who =>
    simp only [step, doExile, bind_eq_ok, bridged, required_eq_ok, ensure_eq_ok, pure_eq_ok] at h
    obtain ⟨s', ⟨r, hget, -, -, rfl⟩, rfl⟩ := h
    exact Retained.insert hget rfl id
  | block =>
    rw [← Except.ok.inj h]
    exact Retained.of_eq rfl

end Identity
