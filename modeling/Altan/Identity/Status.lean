import Altan.Identity.Model

/-!
# The standing of citizens

Of all that is recorded of a citizen, the standing is written by few calls: a registration, a
birth, a death, a freeze, its end, and an exile.

## Main definitions

* `State.status`: the standing of an account, if it is registered
* `Moved`: one account has another standing, the others the same
* `LawfulMove`, `Lawful`: what a standing may become
* `changeStatus`: the standings after one is changed

## Main results

* `Moved.lawful`: one account's change of standing is lawful just if the move is
* `attempt_doFreezeCitizen_status`, `attempt_doUnfreezeCitizen_status`, `attempt_doExile_status`:
  what other modules do, who change a standing without these checks
-/

open Bounded Dispatch

namespace Identity

variable {AccountId L : Type} [DecidableEq AccountId] {cfg : Config AccountId L}
  {ctx : Context AccountId} {s s' : State AccountId L} {who : AccountId}

/-- The standing of an account, if it is registered. -/
def State.status (s : State AccountId L) (who : AccountId) : Option CitizenStatus :=
  (s.citizens.get who).map CitizenRecord.status

/-- One account comes to have another standing; the others keep theirs. -/
structure Moved (s s' : State AccountId L) (who : AccountId) (old : Option CitizenStatus)
    (new : CitizenStatus) : Prop where
  before : s.status who = old
  after : s'.status = Function.update s.status who (some new)

/-- Writing a record moves the account to the standing of the record. -/
theorem moved_insert {old : Option CitizenStatus} {new : CitizenStatus} {r : CitizenRecord}
    (hbefore : s.status who = old) (hcitizens : s'.citizens = s.citizens.insert who r)
    (hr : r.status = new) : Moved s s' who old new where
  before := hbefore
  after := by
    ext a : 1
    unfold State.status
    rw [hcitizens, StorageMap.get_insert, Function.update_apply, ← hr]
    split <;> rfl

theorem status_insert {r r' : CitizenRecord} (hget : s.citizens.get who = some r)
    (hcitizens : s'.citizens = s.citizens.insert who r') (hr : r'.status = r.status) :
    s'.status = s.status := by
  ext a : 1
  unfold State.status
  rw [hcitizens]
  exact StorageMap.map_get_insert hget hr

theorem status_of_get {r : CitizenRecord} (hget : s.citizens.get who = some r) :
    s.status who = some r.status := by
  unfold State.status
  rw [hget]
  rfl

theorem citizen_bind_eq_ok {α : Type} {k : CitizenRecord → Result α} {b : α} :
    (citizen s who >>= k) = .ok b ↔ ∃ r, s.citizens.get who = some r ∧ k r = .ok b :=
  required_bind_eq_ok

/-! ### Who writes the standing -/

theorem registerCitizen_moved {target : AccountId} {nationId : ℕ} {role : CitizenRole}
    {isIndigenous : Bool} {regionId birthRegionId : Option ℕ} {passportType : PassportType}
    {documentHash birthPageHash emailHash : Bytes32}
    (h : registerCitizen ctx target nationId role isIndigenous regionId birthRegionId passportType
      documentHash birthPageHash emailHash s = .ok s') : Moved s s' target none .active := by
  simp only [registerCitizen, ensureRoot_bind_eq_ok, ensure_bind_eq_ok, pure_eq_ok] at h
  obtain ⟨-, hnew, -, -, -, -, -, rfl⟩ := h
  refine moved_insert ?_ rfl rfl
  unfold State.status
  rw [StorageMap.not_containsKey.mp hnew]
  rfl

theorem freezeCitizen_moved {target : AccountId} (h : freezeCitizen ctx target s = .ok s') :
    Moved s s' target (some .active) .frozen := by
  simp only [freezeCitizen, ensureRoot_bind_eq_ok, citizen_bind_eq_ok, ensure_bind_eq_ok,
    pure_eq_ok] at h
  obtain ⟨-, r, hget, hactive, rfl⟩ := h
  refine moved_insert ?_ rfl rfl
  rw [status_of_get hget, hactive]

theorem unfreezeCitizen_moved {target : AccountId} (h : unfreezeCitizen ctx target s = .ok s') :
    Moved s s' target (some .frozen) .active := by
  simp only [unfreezeCitizen, ensureRoot_bind_eq_ok, citizen_bind_eq_ok, ensure_bind_eq_ok,
    pure_eq_ok] at h
  obtain ⟨-, r, hget, -, hfrozen, rfl⟩ := h
  refine moved_insert ?_ rfl rfl
  rw [status_of_get hget, hfrozen]

theorem ensureBirthOrigin_citizens (h : ensureBirthOrigin cfg ctx s = .ok s') :
    s'.citizens = s.citizens := by
  unfold ensureBirthOrigin at h
  split at h
  · rw [Except.ok.inj h]
  · simp only [ensureSigned_bind_eq_ok, ensure_bind_eq_ok, checkAndIncrementOracleRate] at h
    obtain ⟨caller, -, -, h⟩ := h
    split at h
    · simp only [ensure_bind_eq_ok, pure_eq_ok] at h
      rw [← h.2]
    · rw [← pure_eq_ok.mp h]

theorem registerBirth_moved {child parent1 : AccountId} {parent2 : Option AccountId}
    {childHash : Bytes32} {birthRegionId : ℕ}
    (h : registerBirth cfg ctx child parent1 parent2 childHash birthRegionId s = .ok s') :
    Moved s s' child none .minor := by
  obtain ⟨t, ht, h⟩ := bind_eq_ok.mp h
  have hcitizens : t.citizens = s.citizens := ensureBirthOrigin_citizens ht
  simp only [ensure_bind_eq_ok, required_bind_eq_ok, pure_eq_ok] at h
  obtain ⟨-, -, hnew, parentRec, -, -, rfl⟩ := h
  refine moved_insert ?_ (congrArg (StorageMap.insert · child _) hcitizens) rfl
  unfold State.status
  rw [← hcitizens, StorageMap.not_containsKey.mp hnew]
  rfl

theorem registerDeath_moved [Currency AccountId L] [ReservableCurrency AccountId L]
    {target : AccountId} {deathCredentialHash : Bytes32}
    (h : registerDeath cfg ctx target deathCredentialHash s = .ok s') :
    ∃ old, old ≠ .deceased ∧ Moved s s' target (some old) .deceased := by
  obtain ⟨-, -, h⟩ := bind_eq_ok.mp h
  simp only [citizen_bind_eq_ok, ensure_bind_eq_ok, pure_eq_ok] at h
  obtain ⟨r, hget, halive, rfl⟩ := h
  exact ⟨r.status, halive, moved_insert (status_of_get hget) rfl rfl⟩

/-! ### What a standing may become -/

/-- What the standing of an account may become: the deceased stay so, the exiled at most die,
only the active are frozen, and minors are neither frozen nor made active. -/
structure LawfulMove (old new : Option CitizenStatus) : Prop where
  deceased : old = some .deceased → new = some .deceased
  exiled : old = some .exiled → new = some .exiled ∨ new = some .deceased
  frozen : new = some .frozen → old = some .active ∨ old = some .frozen
  minor : old = some .minor → new ≠ some .frozen ∧ new ≠ some .active

instance (old new : Option CitizenStatus) : Decidable (LawfulMove old new) :=
  decidable_of_iff
    ((old = some .deceased → new = some .deceased) ∧
      (old = some .exiled → new = some .exiled ∨ new = some .deceased) ∧
      (new = some .frozen → old = some .active ∨ old = some .frozen) ∧
      (old = some .minor → new ≠ some .frozen ∧ new ≠ some .active))
    ⟨fun ⟨h₁, h₂, h₃, h₄⟩ => ⟨h₁, h₂, h₃, h₄⟩, fun ⟨h₁, h₂, h₃, h₄⟩ => ⟨h₁, h₂, h₃, h₄⟩⟩

theorem LawfulMove.refl (old : Option CitizenStatus) : LawfulMove old old where
  deceased := id
  exiled := Or.inl
  frozen := Or.inr
  minor h := by simp [h]

/-- No standing of any account changes unlawfully. -/
def Lawful (s s' : State AccountId L) : Prop := ∀ who, LawfulMove (s.status who) (s'.status who)

theorem lawful_of_status_eq (h : s'.status = s.status) : Lawful s s' := by
  intro who
  rw [h]
  exact LawfulMove.refl _

/-- A change of one account's standing is lawful just if it is for this account. -/
theorem lawful_iff_of_update {new : Option CitizenStatus}
    (h : s'.status = Function.update s.status who new) :
    Lawful s s' ↔ LawfulMove (s.status who) new := by
  unfold Lawful
  rw [h]
  constructor
  · intro hlawful
    have hwho := hlawful who
    rwa [Function.update_self] at hwho
  · intro hmove a
    by_cases ha : a = who
    · rwa [ha, Function.update_self]
    · rw [Function.update_of_ne ha]
      exact LawfulMove.refl _

theorem Moved.lawful {old : Option CitizenStatus} {new : CitizenStatus}
    (h : Moved s s' who old new) : Lawful s s' ↔ LawfulMove old (some new) := by
  rw [← h.before]
  exact lawful_iff_of_update h.after

/-! ### What other modules do -/

namespace CitizenStatus

/-- The standing of a registered citizen whom another module freezes. -/
def freeze (_ : CitizenStatus) : CitizenStatus := .frozen

/-- The standing of a registered citizen whom another module releases. -/
def release (old : CitizenStatus) : CitizenStatus := if old = .deceased then old else .active

/-- The standing of a registered citizen whom another module exiles. -/
def exile (old : CitizenStatus) : CitizenStatus :=
  if old = .exiled ∨ old = .deceased then old else .exiled

theorem release_ne_frozen (old : CitizenStatus) : old.release ≠ .frozen := by
  cases old <;> decide

theorem exile_ne_frozen (old : CitizenStatus) : old.exile ≠ .frozen := by
  cases old <;> decide

end CitizenStatus

/-- One account's standing is changed, if it is registered. -/
def changeStatus (g : CitizenStatus → CitizenStatus) (who : AccountId)
    (status : AccountId → Option CitizenStatus) : AccountId → Option CitizenStatus :=
  Function.update status who ((status who).map g)

theorem changeStatus_self {g : CitizenStatus → CitizenStatus}
    {status : AccountId → Option CitizenStatus} :
    changeStatus g who status who = (status who).map g :=
  Function.update_self ..

theorem changeStatus_of_ne {g : CitizenStatus → CitizenStatus} {a : AccountId}
    {status : AccountId → Option CitizenStatus} (h : a ≠ who) :
    changeStatus g who status a = status a :=
  Function.update_of_ne h ..

theorem Moved.changeStatus {g : CitizenStatus → CitizenStatus} {old : CitizenStatus}
    (h : Moved s s' who (some old) (g old)) : s'.status = changeStatus g who s.status := by
  rw [h.after, Identity.changeStatus, h.before]
  rfl

theorem lawful_iff_of_changeStatus {g : CitizenStatus → CitizenStatus}
    (h : s'.status = changeStatus g who s.status) :
    Lawful s s' ↔ LawfulMove (s.status who) ((s.status who).map g) :=
  lawful_iff_of_update h

/-- A change of one account's standing whose failure is ignored. -/
theorem attempt_status {f : State AccountId L → Result (State AccountId L)}
    {g : CitizenStatus → CitizenStatus}
    (hok : ∀ s', f s = .ok s' → ∃ old, Moved s s' who (some old) (g old))
    (herror : ∀ e, f s = .error e → (s.status who).map g = s.status who) :
    (attempt f s).status = changeStatus g who s.status := by
  cases hf : f s with
  | ok s' =>
    obtain ⟨old, hmoved⟩ := hok s' hf
    rw [attempt_of_ok hf]
    exact hmoved.changeStatus
  | error e =>
    rw [attempt_of_error hf, changeStatus, herror e hf]
    exact (Function.update_eq_self who s.status).symm

theorem bridged_bind_eq_ok {α : Type} {k : CitizenRecord → Result α} {b : α} :
    (bridged s who >>= k) = .ok b ↔ ∃ r, s.citizens.get who = some r ∧ k r = .ok b :=
  required_bind_eq_ok

/-- A bridged change fails for those who are not registered, or for its own reason. -/
theorem bridged_bind_eq_error {α : Type} {k : CitizenRecord → Result α} {e : DispatchError Error}
    (h : (bridged s who >>= k) = .error e) :
    s.status who = none ∨ ∃ r, s.status who = some r.status ∧ k r = .error e := by
  rcases bind_eq_error.mp h with hnone | ⟨r, hget, hk⟩
  · left
    unfold State.status
    cases hget : s.citizens.get who with
    | none => rfl
    | some r =>
      rw [bridged, hget] at hnone
      cases hnone
  · exact Or.inr ⟨r, status_of_get (required_eq_ok.mp hget), hk⟩

theorem doFreezeCitizen_moved (h : doFreezeCitizen who s = .ok s') :
    ∃ old, Moved s s' who (some old) (CitizenStatus.freeze old) := by
  simp only [doFreezeCitizen, bridged_bind_eq_ok, pure_eq_ok] at h
  obtain ⟨r, hget, rfl⟩ := h
  exact ⟨r.status, moved_insert (status_of_get hget) rfl rfl⟩

theorem doUnfreezeCitizen_moved (h : doUnfreezeCitizen who s = .ok s') :
    ∃ old, Moved s s' who (some old) (CitizenStatus.release old) := by
  simp only [doUnfreezeCitizen, bridged_bind_eq_ok, ensure_bind_eq_ok, pure_eq_ok] at h
  obtain ⟨r, hget, halive, rfl⟩ := h
  exact ⟨r.status, moved_insert (status_of_get hget) rfl (if_neg halive).symm⟩

theorem doExile_moved (h : doExile cfg who s = .ok s') :
    ∃ old, Moved s s' who (some old) (CitizenStatus.exile old) ∧ old ≠ .exiled ∧
      old ≠ .deceased := by
  simp only [doExile, bridged_bind_eq_ok, ensure_bind_eq_ok, pure_eq_ok] at h
  obtain ⟨r, hget, hterminal, rfl⟩ := h
  exact ⟨r.status, moved_insert (status_of_get hget) rfl (if_neg (by tauto)).symm, hterminal⟩

theorem attempt_doFreezeCitizen_status :
    (attempt (doFreezeCitizen who) s).status = changeStatus .freeze who s.status := by
  apply attempt_status fun _ => doFreezeCitizen_moved
  intro e he
  rcases bridged_bind_eq_error he with hnone | ⟨r, -, hk⟩
  · rw [hnone]
    rfl
  · cases hk

theorem attempt_doUnfreezeCitizen_status :
    (attempt (doUnfreezeCitizen who) s).status = changeStatus .release who s.status := by
  apply attempt_status fun _ => doUnfreezeCitizen_moved
  intro e he
  rcases bridged_bind_eq_error he with hnone | ⟨r, hr, hk⟩
  · rw [hnone]
    rfl
  -- the only other failure is that of the deceased, whose standing a release would keep
  · have hdeceased : r.status = .deceased := by
      by_contra halive
      rw [ensure, if_pos halive] at hk
      cases hk
    rw [hr, hdeceased]
    rfl

/-- The record of a citizen whom another module releases. -/
def CitizenRecord.released (r : CitizenRecord) : CitizenRecord :=
  if r.status = .deceased then r else { r with status := .active }

theorem attempt_doUnfreezeCitizen :
    attempt (doUnfreezeCitizen who) s =
      { s with citizens := s.citizens.modify who CitizenRecord.released } := by
  cases hget : s.citizens.get who with
  | none =>
    rw [StorageMap.modify_of_none hget]
    apply attempt_of_error
    unfold doUnfreezeCitizen bridged
    rw [hget]
    rfl
  | some r =>
    by_cases hdeceased : r.status = .deceased
    · have hfixed : r.released = r := if_pos hdeceased
      rw [StorageMap.modify_of_fixed hget hfixed]
      cases hf : doUnfreezeCitizen who s with
      | error e => exact attempt_of_error hf
      | ok s' =>
        simp only [doUnfreezeCitizen, bridged_bind_eq_ok, ensure_bind_eq_ok] at hf
        obtain ⟨r', hget', halive, -⟩ := hf
        rw [hget, Option.some_inj] at hget'
        exact absurd (hget' ▸ hdeceased) halive
    · rw [StorageMap.modify_of_get hget, CitizenRecord.released, if_neg hdeceased]
      apply attempt_of_ok
      simp only [doUnfreezeCitizen, bridged_bind_eq_ok, ensure_bind_eq_ok, pure_eq_ok]
      exact ⟨r, hget, hdeceased, rfl⟩

/-- Citizens are released in any order. -/
instance :
    RightCommutative fun (s : State AccountId L) who => attempt (doUnfreezeCitizen who) s where
  right_comm s a b := by
    rw [attempt_doUnfreezeCitizen, attempt_doUnfreezeCitizen, attempt_doUnfreezeCitizen,
      attempt_doUnfreezeCitizen, StorageMap.modify_comm]

theorem attempt_doExile_status :
    (attempt (doExile cfg who) s).status = changeStatus .exile who s.status := by
  apply attempt_status fun _ h => (doExile_moved h).imp fun _ hmoved => hmoved.1
  intro e he
  rcases bridged_bind_eq_error he with hnone | ⟨r, hr, hk⟩
  · rw [hnone]
    rfl
  · have hterminal : r.status = .exiled ∨ r.status = .deceased := by
      by_contra hneither
      rw [not_or] at hneither
      rw [ensure, if_pos hneither] at hk
      cases hk
    rw [hr]
    exact congrArg some (if_pos hterminal)

theorem attempt_doDemoteToRegular_status :
    (attempt (doDemoteToRegular who) s).status = s.status := by
  cases hf : doDemoteToRegular who s with
  | error e => rw [attempt_of_error hf]
  | ok s' =>
    rw [attempt_of_ok hf]
    simp only [doDemoteToRegular, bridged_bind_eq_ok, pure_eq_ok] at hf
    obtain ⟨r, hget, rfl⟩ := hf
    exact status_insert hget rfl rfl

end Identity
