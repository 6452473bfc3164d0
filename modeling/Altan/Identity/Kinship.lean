import Altan.Foundation.Ancestry
import Altan.Identity.Spec

/-!
# Who vouches for whom, and who descends from whom

A citizen is verified by another who is verified, or as the first one by root. A newborn is of the
nation of its first parent. Both make forests: whoever is verified can be traced, from voucher to
voucher, to one whom root has verified, and whoever belongs to a nation descends, by first parents,
from one whom root has registered in it. Nothing of this is ever lost or changed. The second parent
of a newborn is not looked at.

## Main definitions

* `BondEffect`: what an input does to the nations, the verifications and the parents
* `vouch`, `Web`: who has vouched for whom, and what it says of the verified citizens
* `settle`, `Descent`: whom root has registered in which nation, and what follows for the others

## Main results

* `step_bonds`: every accepted input has its effect
* `web_of_trust`: who is verified
* `nations_descend`: who belongs to a nation
-/

open Ancestry Bounded Dispatch Ledger TransitionSystem

namespace Identity

variable {AccountId L : Type}

/-- The nation of a citizen, and whether somebody has vouched for it. -/
def CitizenRecord.bond (r : CitizenRecord) : ℕ × VerificationStatus := (r.nationId, r.verification)

@[simp] theorem CitizenRecord.advanceVesting_bond (level : VestingLevel) (r : CitizenRecord) :
    (r.advanceVesting level).bond = r.bond := by
  unfold advanceVesting
  simp only
  repeat' split
  all_goals rfl

/-- The deeds that form a unit, or leave one, or give a rank. -/
def Deed.isPublic : Deed AccountId → Bool
  | .registration .. | .birth .. | .verification _ | .other => false
  | _ => true

variable [DecidableEq AccountId]

/-- The nation of a citizen. -/
def State.nation (s : State AccountId L) (a : AccountId) : Option ℕ :=
  (s.citizens.get a).map CitizenRecord.nationId

/-- Somebody has vouched for a citizen. -/
def State.IsVerified (s : State AccountId L) (a : AccountId) : Prop :=
  (s.citizens.get a).map CitizenRecord.verification = some .verified

instance (s : State AccountId L) (a : AccountId) : Decidable (s.IsVerified a) :=
  inferInstanceAs (Decidable (_ = _))

/-- The first parent of a citizen whose birth was registered. -/
def State.firstParent (s : State AccountId L) (a : AccountId) : Option AccountId :=
  (s.parentalLinks.get a).map Prod.fst

/-! ### What an input does to the bonds -/

/-- The nations, the verifications and the parents are kept. -/
structure BondsKept (s s' : State AccountId L) : Prop where
  bond : ∀ a, (s'.citizens.get a).map CitizenRecord.bond =
    (s.citizens.get a).map CitizenRecord.bond
  parentalLinks : s'.parentalLinks = s.parentalLinks

/-- A citizen is registered in a nation. -/
def Settled (s s' : State AccountId L) (target : AccountId) (nationId : ℕ) : Prop :=
  s.citizens.get target = none ∧ s'.parentalLinks = s.parentalLinks ∧
    ∃ r, r.bond = (nationId, .unverified) ∧ s'.citizens = s.citizens.insert target r

/-- A newborn is registered in the nation of its first parent. -/
def Born (s s' : State AccountId L) (child parent1 : AccountId) (parent2 : Option AccountId) :
    Prop :=
  s.citizens.get child = none ∧
    s'.parentalLinks = s.parentalLinks.insert child (parent1, parent2) ∧
      ∃ parentRec r, s.citizens.get parent1 = some parentRec ∧
        r.bond = (parentRec.nationId, .unverified) ∧ s'.citizens = s.citizens.insert child r

/-- Somebody vouches for a citizen for whom nobody has vouched before. -/
def Vouched (s s' : State AccountId L) (a : AccountId) : Prop :=
  s'.parentalLinks = s.parentalLinks ∧
    ∃ r r', s.citizens.get a = some r ∧ r.verification = .unverified ∧
      r'.bond = (r.nationId, .verified) ∧ s'.citizens = s.citizens.insert a r'

/-- What an input does to the bonds. -/
def BondEffect (s s' : State AccountId L) : Input AccountId → Prop
  | .call _ (.registerCitizen target nationId _ _ _ _ _ _ _ _) => Settled s s' target nationId
  | .call _ (.registerBirth child parent1 parent2 _ _) => Born s s' child parent1 parent2
  | .call (.signed voucher) (.verifyCitizen a) => s.IsVerified voucher ∧ Vouched s s' a
  | .call .root (.bootstrapVerifyCreator a) => Vouched s s' a
  | _ => BondsKept s s'

section Kept

variable {s s' : State AccountId L} {who : AccountId}

theorem bondsKept_of_insert {r r' : CitizenRecord} (hget : s.citizens.get who = some r)
    (hcitizens : s'.citizens = s.citizens.insert who r')
    (hlinks : s'.parentalLinks = s.parentalLinks) (hr : r'.bond = r.bond) : BondsKept s s' := by
  refine ⟨fun a => ?_, hlinks⟩
  rw [hcitizens]
  exact StorageMap.map_get_insert hget hr

theorem bondsKept_of_eq (hcitizens : s'.citizens = s.citizens)
    (hlinks : s'.parentalLinks = s.parentalLinks) : BondsKept s s' :=
  ⟨fun a => by rw [hcitizens], hlinks⟩

/-- The deeds that form a unit, or leave one, or give a rank, keep the bonds. -/
theorem Effect.bondsKept {period now : ℕ} {d : Deed AccountId}
    (h : Effect period now d s.civics s'.civics) (hd : d.isPublic = true) : BondsKept s s' := by
  suffices hkept : ∀ {c c' : Civics AccountId}, Effect period now d c c' →
      (∀ a, (c'.citizens.get a).map CitizenRecord.bond =
        (c.citizens.get a).map CitizenRecord.bond) ∧ c'.parentalLinks = c.parentalLinks from
    ⟨(hkept h).1, (hkept h).2⟩
  intro c c' h
  cases h with
  | registration | birth | verification | amended | kept => cases hd
  | appointment hget => exact ⟨fun a => StorageMap.map_get_insert hget rfl, rfl⟩
  | khural hget => exact ⟨fun a => StorageMap.map_get_insert hget rfl, rfl⟩
  | confederation hget => exact ⟨fun a => StorageMap.map_get_insert hget rfl, rfl⟩
  | arbad =>
    refine ⟨fun a => map_get_enrol (fun r => rfl) fun r => ?_, rfl⟩
    exact r.advanceVesting_bond _
  | zun => exact ⟨fun a => StorageMap.map_get_modify fun r => CitizenRecord.advanceVesting_bond _ _,
      rfl⟩
  | myangad => exact ⟨fun a => StorageMap.map_get_modify fun r => rfl, rfl⟩
  | tumed => exact ⟨fun a => StorageMap.map_get_modify fun r => rfl, rfl⟩
  | leave => exact ⟨fun a => rfl, rfl⟩

end Kept

section Steps

variable {cfg : Config AccountId L} {ctx : Context AccountId} {s s' : State AccountId L}
  {who : AccountId}

theorem registerBirth_born {child parent1 : AccountId} {parent2 : Option AccountId}
    {childHash : Bytes32} {birthRegionId : ℕ}
    (h : registerBirth cfg ctx child parent1 parent2 childHash birthRegionId s = .ok s') :
    Born s s' child parent1 parent2 := by
  obtain ⟨t, ht, h⟩ := bind_eq_ok.mp h
  have hcivics : t.civics = s.civics := (ensureBirthOrigin_civics ht).1
  have hcitizens : t.citizens = s.citizens := congrArg Civics.citizens hcivics
  have hlinks : t.parentalLinks = s.parentalLinks := congrArg Civics.parentalLinks hcivics
  simp only [ensure_bind_eq_ok, required_bind_eq_ok, pure_eq_ok] at h
  obtain ⟨-, -, hnew, parentRec, hparent, -, rfl⟩ := h
  rw [hcitizens] at hnew hparent
  refine ⟨StorageMap.not_containsKey.mp hnew, ?_, parentRec, ?_⟩
  · rw [hlinks]
  · rw [← hcitizens] at hparent ⊢
    exact ⟨_, hparent, rfl, rfl⟩

theorem verifyCitizen_vouched {newCitizen : AccountId}
    (h : verifyCitizen ctx newCitizen s = .ok s') :
    ∃ voucher, ctx.origin = .signed voucher ∧ s.IsVerified voucher ∧ Vouched s s' newCitizen := by
  simp only [verifyCitizen, ensureSigned_bind_eq_ok, citizen_bind_eq_ok, ensure_bind_eq_ok,
    pure_eq_ok] at h
  obtain ⟨verifier, horigin, verifierRec, hverifier, -, hverified, newRec, hget, -, hunverified,
    rfl⟩ := h
  refine ⟨verifier, horigin, ?_, rfl, newRec, _, hget, hunverified, rfl, rfl⟩
  unfold State.IsVerified
  rw [hverifier, Option.map_some, hverified]

theorem bootstrapVerifyCreator_vouched {creator : AccountId}
    (h : bootstrapVerifyCreator ctx creator s = .ok s') :
    ctx.origin = .root ∧ Vouched s s' creator := by
  simp only [bootstrapVerifyCreator, ensureRoot_bind_eq_ok, citizen_bind_eq_ok,
    ensure_bind_eq_ok, pure_eq_ok] at h
  obtain ⟨hroot, r, hget, hunverified, rfl⟩ := h
  exact ⟨hroot, rfl, r, _, hget, hunverified, rfl, rfl⟩

variable [Currency AccountId L] [ReservableCurrency AccountId L]

/-- Every accepted call has its effect on the bonds. -/
theorem dispatch_bonds {c : Call AccountId} (h : dispatch cfg ctx c s = .ok s') :
    BondEffect s s' (.call ctx.origin c) := by
  cases c with
  | registerCitizen =>
    simp only [dispatch, registerCitizen, ensureRoot_bind_eq_ok, ensure_bind_eq_ok,
      pure_eq_ok] at h
    obtain ⟨-, hnew, -, -, -, -, -, rfl⟩ := h
    exact ⟨StorageMap.not_containsKey.mp hnew, rfl, _, rfl, rfl⟩
  | registerBirth => exact registerBirth_born h
  | verifyCitizen newCitizen =>
    obtain ⟨voucher, horigin, hvouched⟩ := verifyCitizen_vouched h
    rw [horigin]
    exact hvouched
  | bootstrapVerifyCreator creator =>
    obtain ⟨hroot, hvouched⟩ := bootstrapVerifyCreator_vouched h
    rw [hroot]
    exact hvouched
  -- the calls that form a unit, or leave one, or give a rank
  | updateRole =>
    obtain ⟨-, (heffect : Effect cfg.arbadCooldownPeriod _ _ _ _)⟩ := updateRole_effect h
    exact heffect.bondsKept rfl
  | formArbad =>
    obtain ⟨_, -, heffect⟩ := formArbad_effect h
    exact heffect.bondsKept rfl
  | formFamilyArbad =>
    obtain ⟨_, -, (heffect : Effect cfg.arbadCooldownPeriod _ _ _ _)⟩ := formFamilyArbad_effect h
    exact heffect.bondsKept (by split <;> rfl)
  | formZun =>
    obtain ⟨_, -, (heffect : Effect cfg.arbadCooldownPeriod _ _ _ _)⟩ := formZun_effect h
    exact heffect.bondsKept rfl
  | formMyangad =>
    obtain ⟨_, -, (heffect : Effect cfg.arbadCooldownPeriod _ _ _ _)⟩ := formMyangad_effect h
    exact heffect.bondsKept rfl
  | formTumed =>
    obtain ⟨_, -, (heffect : Effect cfg.arbadCooldownPeriod _ _ _ _)⟩ := formTumed_effect h
    exact heffect.bondsKept rfl
  | formKhural =>
    obtain ⟨_, -, (heffect : Effect cfg.arbadCooldownPeriod _ _ _ _)⟩ := formKhural_effect h
    exact heffect.bondsKept rfl
  | formConfederation =>
    obtain ⟨_, -, (heffect : Effect cfg.arbadCooldownPeriod _ _ _ _)⟩ := formConfederation_effect h
    exact heffect.bondsKept rfl
  | leaveArbad =>
    obtain ⟨_, -, (heffect : Effect cfg.arbadCooldownPeriod _ _ _ _)⟩ := leaveArbad_effect h
    exact heffect.bondsKept rfl
  -- the calls that write one record in something else
  | freezeCitizen =>
    simp only [dispatch, freezeCitizen, ensureRoot_bind_eq_ok, citizen_bind_eq_ok,
      ensure_bind_eq_ok, pure_eq_ok] at h
    obtain ⟨-, r, hget, -, rfl⟩ := h
    exact bondsKept_of_insert hget rfl rfl rfl
  | unfreezeCitizen =>
    simp only [dispatch, unfreezeCitizen, ensureRoot_bind_eq_ok, citizen_bind_eq_ok,
      ensure_bind_eq_ok, pure_eq_ok] at h
    obtain ⟨-, r, hget, -, -, rfl⟩ := h
    exact bondsKept_of_insert hget rfl rfl rfl
  | registerDeath =>
    obtain ⟨-, -, h⟩ := bind_eq_ok.mp h
    simp only [citizen_bind_eq_ok, ensure_bind_eq_ok, pure_eq_ok] at h
    obtain ⟨r, hget, -, rfl⟩ := h
    exact bondsKept_of_insert hget rfl rfl rfl
  | claimRepatriation =>
    simp only [dispatch, claimRepatriation, ensureRoot_bind_eq_ok] at h
    obtain ⟨-, h⟩ := h
    obtain ⟨-, -, h⟩ := bind_eq_ok.mp h
    simp only [citizen_bind_eq_ok, ensure_bind_eq_ok, pure_eq_ok] at h
    obtain ⟨r, hget, -, rfl⟩ := h
    exact bondsKept_of_insert hget rfl rfl rfl
  | claimBirthright =>
    simp only [dispatch, claimBirthright, ensureSigned_bind_eq_ok] at h
    obtain ⟨caller, -, h⟩ := h
    obtain ⟨-, -, h⟩ := bind_eq_ok.mp h
    simp only [citizen_bind_eq_ok, ensure_bind_eq_ok, pure_eq_ok] at h
    obtain ⟨r, hget, -, -, rfl⟩ := h
    exact bondsKept_of_insert hget rfl rfl rfl
  -- and those that write no citizen
  | assignGuardian =>
    simp only [dispatch, assignGuardian, citizen_bind_eq_ok, ensure_bind_eq_ok, pure_eq_ok] at h
    obtain ⟨-, -, -, -, -, -, -, rfl⟩ := h
    exact bondsKept_of_eq rfl rfl
  | registerMarriage =>
    simp only [dispatch, registerMarriage, ensureSigned_bind_eq_ok, citizen_bind_eq_ok,
      ensure_bind_eq_ok, required_bind_eq_ok, liftCurrency_bind_eq_ok, pure_eq_ok] at h
    obtain ⟨partnerA, -, -, -, -, -, -, -, -, -, -, l, -, l', -, rfl⟩ := h
    exact bondsKept_of_eq rfl rfl
  | registerDivorce =>
    simp only [dispatch, registerDivorce, ensureSigned_bind_eq_ok, required_bind_eq_ok,
      ensure_bind_eq_ok, pure_eq_ok] at h
    obtain ⟨caller, -, spouse, -, -, rfl⟩ := h
    exact bondsKept_of_eq rfl rfl
  | registerNickname =>
    simp only [dispatch, registerNickname, ensureSigned_bind_eq_ok, citizen_bind_eq_ok,
      ensure_bind_eq_ok, pure_eq_ok] at h
    obtain ⟨caller, -, r, -, -, -, -, -, -, rfl⟩ := h
    exact bondsKept_of_eq rfl rfl
  | clearNickname =>
    simp only [dispatch, clearNickname, ensureSigned_bind_eq_ok, required_bind_eq_ok,
      pure_eq_ok] at h
    obtain ⟨caller, -, name, -, rfl⟩ := h
    exact bondsKept_of_eq rfl rfl

/-- **Every accepted input has its effect on the bonds.** -/
theorem step_bonds {w w' : World AccountId L} {x : Input AccountId} (h : step cfg x w = .ok w') :
    BondEffect w.toState w'.toState x := by
  cases x with
  | block =>
    rw [← Except.ok.inj h]
    exact bondsKept_of_eq rfl rfl
  | call origin c =>
    simp only [step, bind_eq_ok, pure_eq_ok] at h
    obtain ⟨s, hs, rfl⟩ := h
    exact dispatch_bonds hs
  | doFreezeCitizen who =>
    simp only [step, doFreezeCitizen, bind_eq_ok, bridged, required_eq_ok, pure_eq_ok] at h
    obtain ⟨s, ⟨r, hget, rfl⟩, rfl⟩ := h
    exact bondsKept_of_insert hget rfl rfl rfl
  | doUnfreezeCitizen who =>
    simp only [step, doUnfreezeCitizen, bind_eq_ok, bridged, required_eq_ok, ensure_eq_ok,
      pure_eq_ok] at h
    obtain ⟨s, ⟨r, hget, -, -, rfl⟩, rfl⟩ := h
    exact bondsKept_of_insert hget rfl rfl rfl
  | doDemoteToRegular who =>
    simp only [step, doDemoteToRegular, bind_eq_ok, bridged, required_eq_ok, pure_eq_ok] at h
    obtain ⟨s, ⟨r, hget, rfl⟩, rfl⟩ := h
    exact bondsKept_of_insert hget rfl rfl rfl
  | doExile who =>
    simp only [step, doExile, bind_eq_ok, bridged, required_eq_ok, ensure_eq_ok, pure_eq_ok] at h
    obtain ⟨s, ⟨r, hget, -, -, rfl⟩, rfl⟩ := h
    exact bondsKept_of_insert hget rfl rfl rfl

end Steps

/-! ### Who is verified -/

/-- For whom an input vouches, and who does: another citizen, or root. -/
def Input.vouching : Input AccountId → Option (AccountId × Option AccountId)
  | .call (.signed voucher) (.verifyCitizen a) => some (a, some voucher)
  | .call .root (.bootstrapVerifyCreator a) => some (a, none)
  | _ => none

/-- For whom somebody has vouched, and who has: another citizen, or root. -/
abbrev Vouchers (AccountId : Type) [DecidableEq AccountId] : Type :=
  StorageMap AccountId (Option AccountId)

/-- The history of who has vouched for whom. -/
def vouch (_ : World AccountId L) (x : Input AccountId) (m : Vouchers AccountId) :
    Vouchers AccountId :=
  match x.vouching with
  | some (a, voucher) => m.insert a voucher
  | none => m

/-- The citizen who has vouched for another. -/
def Vouchers.voucher (m : Vouchers AccountId) (a : AccountId) : Option AccountId := (m.get a).join

theorem Vouchers.voucher_eq_some {m : Vouchers AccountId} {a v : AccountId} :
    m.voucher a = some v ↔ m.get a = some (some v) := Option.join_eq_some_iff

theorem Vouchers.voucher_insert (m : Vouchers AccountId) (a : AccountId)
    (o : Option AccountId) : Vouchers.voucher (m.insert a o) = Function.update m.voucher a o := by
  ext b : 1
  unfold voucher
  rw [StorageMap.get_insert, Function.update_apply]
  split <;> rfl

/-- Those who are verified are those somebody has vouched for, the vouchers among them; and going
from voucher to voucher comes to an end. -/
structure Web (s : State AccountId L) (m : Vouchers AccountId) : Prop where
  verified_iff : ∀ a, s.IsVerified a ↔ m.containsKey a = true
  voucher : ∀ a v, m.voucher a = some v → s.IsVerified v
  grounded : Grounded m.voucher

section Web

variable {s s' : State AccountId L} {a : AccountId}

theorem isVerified_of_insert {r : CitizenRecord} (hcitizens : s'.citizens = s.citizens.insert a r)
    (b : AccountId) :
    s'.IsVerified b ↔ if b = a then r.verification = .verified else s.IsVerified b := by
  unfold State.IsVerified
  rw [hcitizens, StorageMap.get_insert]
  split
  · rw [Option.map_some, Option.some.injEq]
  · rfl

theorem BondsKept.isVerified (h : BondsKept s s') (b : AccountId) :
    s'.IsVerified b ↔ s.IsVerified b := by
  have hbond := congrArg (Option.map Prod.snd) (h.bond b)
  rw [Option.map_map, Option.map_map] at hbond
  exact Iff.of_eq (congrArg (· = some VerificationStatus.verified) hbond)

/-- A new citizen is not verified. -/
theorem isVerified_of_new {r : CitizenRecord} (hnew : s.citizens.get a = none)
    (hr : r.verification = .unverified) (hcitizens : s'.citizens = s.citizens.insert a r)
    (b : AccountId) : s'.IsVerified b ↔ s.IsVerified b := by
  rw [isVerified_of_insert hcitizens]
  split
  · next hb =>
    unfold State.IsVerified
    rw [hr, hb, hnew]
    simp
  · rfl

theorem Vouched.isVerified (h : Vouched s s' a) (b : AccountId) :
    s'.IsVerified b ↔ b = a ∨ s.IsVerified b := by
  obtain ⟨-, r, r', -, -, hr', hcitizens⟩ := h
  rw [isVerified_of_insert hcitizens]
  split
  · next hb => exact iff_of_true (congrArg Prod.snd hr') (Or.inl hb)
  · next hb => rw [or_iff_right hb]

theorem Vouched.not_isVerified (h : Vouched s s' a) : ¬ s.IsVerified a := by
  obtain ⟨-, r, r', hget, hunverified, -, -⟩ := h
  unfold State.IsVerified
  rw [hget, Option.map_some, hunverified]
  simp

/-- Nobody becomes verified unless somebody vouches. -/
theorem BondEffect.isVerified_of_none {x : Input AccountId} (h : BondEffect s s' x)
    (hx : x.vouching = none) (b : AccountId) : s'.IsVerified b ↔ s.IsVerified b := by
  unfold BondEffect at h
  split at h
  · obtain ⟨hnew, -, r, hr, hcitizens⟩ := h
    exact isVerified_of_new hnew (congrArg Prod.snd hr) hcitizens b
  · obtain ⟨hnew, -, parentRec, r, -, hr, hcitizens⟩ := h
    exact isVerified_of_new hnew (congrArg Prod.snd hr) hcitizens b
  · cases hx
  · cases hx
  · exact h.isVerified b

/-- Who vouches is verified, or root. -/
theorem BondEffect.vouched_of_some {x : Input AccountId} {voucher : Option AccountId}
    (h : BondEffect s s' x) (hx : x.vouching = some (a, voucher)) :
    (∀ v, voucher = some v → s.IsVerified v) ∧ Vouched s s' a := by
  unfold Input.vouching at hx
  split at hx
  · cases hx
    exact ⟨fun v hv => Option.some.inj hv ▸ h.1, h.2⟩
  · cases hx
    exact ⟨nofun, h⟩
  · cases hx

/-- **An accepted input keeps the web.** -/
theorem Web.step (w : World AccountId L) {x : Input AccountId} {m : Vouchers AccountId}
    (hweb : Web s m) (h : BondEffect s s' x) : Web s' (vouch w x m) := by
  unfold vouch
  cases hx : x.vouching with
  | none =>
    have hsame := h.isVerified_of_none hx
    exact ⟨fun a => (hsame a).trans (hweb.verified_iff a),
      fun a v hv => (hsame v).mpr (hweb.voucher a v hv), hweb.grounded⟩
  | some vouching =>
    obtain ⟨a, voucher⟩ := vouching
    obtain ⟨hvoucher, hvouched⟩ := h.vouched_of_some hx
    have hnew := hvouched.not_isVerified
    refine ⟨fun b => ?_, fun b v hv => ?_, ?_⟩
    · rw [hvouched.isVerified, hweb.verified_iff, StorageMap.containsKey, StorageMap.containsKey,
        StorageMap.get_insert]
      split
      · next hb => simp [hb]
      · next hb => simp [hb]
    · rw [hvouched.isVerified]
      rw [Vouchers.voucher_insert, Function.update_apply] at hv
      split at hv
      · exact Or.inr (hvoucher v hv)
      · exact Or.inr (hweb.voucher b v hv)
    -- nobody who is verified has been vouched for by the new one
    · rw [Vouchers.voucher_insert]
      exact hweb.grounded.enter (fun d hd => hnew (hweb.voucher d a hd))
        fun hself => hnew (hvoucher a hself)

theorem web_genesis (ledger : L) (now : ℕ) :
    Web (World.genesis ledger now : World AccountId L).toState (∅ : Vouchers AccountId) where
  verified_iff a := by
    show (StorageMap.get ∅ a).map CitizenRecord.verification = _ ↔ _
    simp [StorageMap.containsKey]
  voucher a v hv := by
    rw [Vouchers.voucher_eq_some] at hv
    simp at hv
  grounded := grounded_of_none fun a => rfl

/-- In a web, whoever is verified can be traced to one whom root has verified. -/
theorem Web.isVerified_iff {m : Vouchers AccountId} (hweb : Web s m) :
    s.IsVerified a ↔ ∃ r, m.get r = some none ∧ Descends m.voucher a r := by
  constructor
  · intro ha
    obtain ⟨r, hr, hdesc⟩ := hweb.grounded.exists_origin a
    refine ⟨r, ?_, hdesc⟩
    -- the last one of the chain is verified, and nobody but root can have vouched
    have hverified : s.IsVerified r := by
      rcases Relation.ReflTransGen.cases_tail hdesc with rfl | ⟨b, -, hb⟩
      · exact ha
      · exact hweb.voucher b r hb
    obtain ⟨o, ho⟩ := StorageMap.containsKey_iff.mp ((hweb.verified_iff r).mp hverified)
    unfold Vouchers.voucher at hr
    rw [ho] at hr ⊢
    exact congrArg some hr
  · rintro ⟨r, hr, hdesc⟩
    rw [hweb.verified_iff, StorageMap.containsKey_iff]
    rcases Relation.ReflTransGen.cases_head hdesc with rfl | ⟨b, hb, -⟩
    · exact ⟨none, hr⟩
    · exact ⟨some b, Vouchers.voucher_eq_some.mp hb⟩

end Web

section Runs

variable [Currency AccountId L] [ReservableCurrency AccountId L]

/-- The history of an accepted input keeps the web, and every voucher in it. -/
theorem recording_web {cfg : Config AccountId L} {x : Input AccountId}
    {t t' : World AccountId L × Vouchers AccountId} (hweb : Web t.1.toState t.2)
    (h : recording vouch (step cfg) x t = .ok t') :
    Web t'.1.toState t'.2 ∧ ∀ a o, t.2.get a = some o → t'.2.get a = some o := by
  obtain ⟨w, m⟩ := t
  obtain ⟨w', m'⟩ := t'
  obtain ⟨hstep, rfl⟩ := recording_eq_ok.mp h
  have hbonds := step_bonds hstep
  refine ⟨hweb.step w hbonds, fun a o ho => ?_⟩
  unfold vouch
  split
  · next b voucher hx =>
    -- nobody has vouched for the new one before
    have hnew := (hbonds.vouched_of_some hx).2.not_isVerified
    show (StorageMap.insert m b voucher).get a = some o
    rw [StorageMap.get_insert_of_ne]
    · exact ho
    · rintro rfl
      exact hnew ((hweb.verified_iff a).mpr (StorageMap.containsKey_iff.mpr ⟨o, ho⟩))
  · exact ho

/-- A run keeps the web, and every voucher in it. -/
theorem run_web (cfg : Config AccountId L) (xs : List (Input AccountId))
    {t : World AccountId L × Vouchers AccountId} (hweb : Web t.1.toState t.2) :
    Web (run (recording vouch (step cfg)) xs t).1.toState
        (run (recording vouch (step cfg)) xs t).2 ∧
      ∀ a o, t.2.get a = some o → (run (recording vouch (step cfg)) xs t).2.get a = some o := by
  have hstep : ∀ x (u u' : World AccountId L × Vouchers AccountId),
      (Web u.1.toState u.2 ∧ ∀ a o, t.2.get a = some o → u.2.get a = some o) →
        recording vouch (step cfg) x u = .ok u' →
          Web u'.1.toState u'.2 ∧ ∀ a o, t.2.get a = some o → u'.2.get a = some o := by
    intro x u u' hu h
    obtain ⟨hweb', hkept⟩ := recording_web hu.1 h
    exact ⟨hweb', fun a o ho => hkept a o (hu.2 a o ho)⟩
  exact run_invariant hstep xs ⟨hweb, fun _ _ ho => ho⟩

/-- **The web of trust.** After every run the verified citizens are exactly those who can be traced,
from voucher to voucher, to one whom root has verified; and whatever happens after, who has vouched
for them stays, and so they stay verified. -/
theorem web_of_trust (cfg : Config AccountId L) (ledger : L) (now : ℕ)
    (xs ys : List (Input AccountId)) :
    let vouchers := (run (recording vouch (step cfg)) xs (.genesis ledger now, ∅)).2
    let later := (run (recording vouch (step cfg)) (xs ++ ys) (.genesis ledger now, ∅)).2
    (∀ a, (run (step cfg) xs (.genesis ledger now)).IsVerified a ↔
        ∃ r, vouchers.get r = some none ∧ Descends vouchers.voucher a r) ∧
      (∀ a o, vouchers.get a = some o → later.get a = some o) ∧
        ∀ a, (run (step cfg) xs (.genesis ledger now)).IsVerified a →
          (run (step cfg) (xs ++ ys) (.genesis ledger now)).IsVerified a := by
  intro vouchers later
  have hweb : ∀ zs, Web (run (step cfg) zs (.genesis ledger now)).toState
      (run (recording vouch (step cfg)) zs (.genesis ledger now, ∅)).2 := by
    intro zs
    have hrun := (run_web cfg zs (t := (.genesis ledger now, ∅)) (web_genesis ledger now)).1
    rwa [run_recording] at hrun
  have hkept : ∀ a o, vouchers.get a = some o → later.get a = some o := by
    have hafter := run_web cfg ys
      (t := run (recording vouch (step cfg)) xs (.genesis ledger now, ∅))
      (by rw [run_recording]; exact hweb xs)
    rw [← run_append] at hafter
    exact hafter.2
  refine ⟨fun a => (hweb xs).isVerified_iff, hkept, fun a ha => ?_⟩
  obtain ⟨o, ho⟩ := StorageMap.containsKey_iff.mp (((hweb xs).verified_iff a).mp ha)
  exact ((hweb (xs ++ ys)).verified_iff a).mpr (StorageMap.containsKey_iff.mpr ⟨o, hkept a o ho⟩)

end Runs

/-! ### Who belongs to a nation -/

/-- Whom an input registers, and in which nation. -/
def Input.settling : Input AccountId → Option (AccountId × ℕ)
  | .call _ (.registerCitizen target nationId _ _ _ _ _ _ _ _) => some (target, nationId)
  | _ => none

/-- The history of whom root has registered, and in which nation. -/
def settle (_ : World AccountId L) (x : Input AccountId) (m : StorageMap AccountId ℕ) :
    StorageMap AccountId ℕ :=
  match x.settling with
  | some (target, nationId) => m.insert target nationId
  | none => m

/-- Those without a parent are those whom root has registered, and are of that nation; the others
are of the nation of a first parent; and going from first parent to first parent comes to an end. -/
structure Descent (s : State AccountId L) (m : StorageMap AccountId ℕ) : Prop where
  settled_iff : ∀ a n, m.get a = some n ↔ s.nation a = some n ∧ s.firstParent a = none
  parent : ∀ c p, s.firstParent c = some p → s.nation c = s.nation p ∧ s.nation c ≠ none
  grounded : Grounded s.firstParent

section Descent

variable {s s' : State AccountId L} {a : AccountId} {m : StorageMap AccountId ℕ}

theorem nation_eq_bond (s : State AccountId L) :
    s.nation = fun a => ((s.citizens.get a).map CitizenRecord.bond).map Prod.fst := by
  ext a : 1
  rw [Option.map_map]
  rfl

theorem nation_of_insert {r : CitizenRecord} (hcitizens : s'.citizens = s.citizens.insert a r) :
    s'.nation = Function.update s.nation a (some r.nationId) := by
  ext b : 1
  unfold State.nation
  rw [hcitizens, StorageMap.get_insert, Function.update_apply]
  split <;> rfl

theorem firstParent_of_eq (hlinks : s'.parentalLinks = s.parentalLinks) :
    s'.firstParent = s.firstParent := by
  unfold State.firstParent
  rw [hlinks]

theorem Vouched.nation (h : Vouched s s' a) :
    s'.nation = s.nation ∧ s'.firstParent = s.firstParent := by
  obtain ⟨hlinks, r, r', hget, -, hr', hcitizens⟩ := h
  refine ⟨?_, firstParent_of_eq hlinks⟩
  rw [nation_of_insert hcitizens, show r'.nationId = r.nationId from congrArg Prod.fst hr']
  apply Function.update_eq_self_iff.mpr
  unfold State.nation
  rw [hget, Option.map_some]

theorem BondsKept.nation (h : BondsKept s s') :
    s'.nation = s.nation ∧ s'.firstParent = s.firstParent := by
  refine ⟨?_, firstParent_of_eq h.parentalLinks⟩
  rw [nation_eq_bond, nation_eq_bond]
  ext b : 1
  rw [h.bond]

theorem BondEffect.settled_of_some {x : Input AccountId} {nationId : ℕ} (h : BondEffect s s' x)
    (hx : x.settling = some (a, nationId)) : Settled s s' a nationId := by
  unfold Input.settling at hx
  split at hx
  · cases hx
    exact h
  · cases hx

/-- Nothing but a birth changes a nation or a parent without a registration by root. -/
theorem BondEffect.born_or_kept {x : Input AccountId} (h : BondEffect s s' x)
    (hx : x.settling = none) :
    (∃ child parent1 parent2, Born s s' child parent1 parent2) ∨
      s'.nation = s.nation ∧ s'.firstParent = s.firstParent := by
  unfold BondEffect at h
  split at h
  · cases hx
  · exact Or.inl ⟨_, _, _, h⟩
  · exact Or.inr h.2.nation
  · exact Or.inr (Vouched.nation h)
  · exact Or.inr h.nation

theorem Settled.nation {target : AccountId} {nationId : ℕ} (h : Settled s s' target nationId) :
    s.nation target = none ∧ s'.nation = Function.update s.nation target (some nationId) ∧
      s'.firstParent = s.firstParent := by
  obtain ⟨hnew, hlinks, r, hr, hcitizens⟩ := h
  refine ⟨?_, ?_, firstParent_of_eq hlinks⟩
  · unfold State.nation
    rw [hnew, Option.map_none]
  · rw [nation_of_insert hcitizens, show r.nationId = nationId from congrArg Prod.fst hr]

theorem Born.nation {child parent1 : AccountId} {parent2 : Option AccountId}
    (h : Born s s' child parent1 parent2) :
    s.nation child = none ∧ s.nation parent1 ≠ none ∧
      s'.nation = Function.update s.nation child (s.nation parent1) ∧
        s'.firstParent = Function.update s.firstParent child (some parent1) := by
  obtain ⟨hnew, hlinks, parentRec, r, hparent, hr, hcitizens⟩ := h
  have hnation : s.nation parent1 = some parentRec.nationId := by
    unfold State.nation
    rw [hparent, Option.map_some]
  refine ⟨?_, ?_, ?_, ?_⟩
  · unfold State.nation
    rw [hnew, Option.map_none]
  · rw [hnation]
    simp
  · rw [nation_of_insert hcitizens, hnation,
      show r.nationId = parentRec.nationId from congrArg Prod.fst hr]
  · ext b : 1
    unfold State.firstParent
    rw [hlinks, StorageMap.get_insert, Function.update_apply]
    split <;> rfl

/-- Whoever is not registered is nobody's first parent, and has none. -/
theorem Descent.of_unregistered (h : Descent s m) (ha : s.nation a = none) :
    s.firstParent a = none ∧ ∀ d, s.firstParent d ≠ some a := by
  constructor
  · by_contra hne
    obtain ⟨p, hp⟩ := Option.ne_none_iff_exists'.mp hne
    exact (h.parent a p hp).2 ha
  · intro d hd
    obtain ⟨hsame, hregistered⟩ := h.parent d a hd
    exact hregistered (hsame.trans ha)

/-- Root registers a citizen. -/
theorem Descent.settle {target : AccountId} {nationId : ℕ} (h : Descent s m)
    (hs : Settled s s' target nationId) : Descent s' (m.insert target nationId) := by
  obtain ⟨hnew, hnation, hfirst⟩ := hs.nation
  obtain ⟨horphan, hchildless⟩ := h.of_unregistered hnew
  refine ⟨fun a n => ?_, fun c p hp => ?_, hfirst ▸ h.grounded⟩
  · rw [StorageMap.get_insert, hnation, hfirst, Function.update_apply]
    split
    · next ha => simp [ha, horphan]
    · exact h.settled_iff a n
  · rw [hfirst] at hp
    obtain ⟨hsame, hregistered⟩ := h.parent c p hp
    have hc : c ≠ target := by
      rintro rfl
      rw [horphan] at hp
      cases hp
    have hp' : p ≠ target := fun he => hchildless c (he ▸ hp)
    rw [hnation, Function.update_of_ne hc, Function.update_of_ne hp']
    exact ⟨hsame, hregistered⟩

/-- A birth is registered. -/
theorem Descent.bear {child parent1 : AccountId} {parent2 : Option AccountId} (h : Descent s m)
    (hs : Born s s' child parent1 parent2) : Descent s' m := by
  obtain ⟨hnew, hparent, hnation, hfirst⟩ := hs.nation
  obtain ⟨horphan, hchildless⟩ := h.of_unregistered hnew
  have hne : parent1 ≠ child := by
    rintro rfl
    exact hparent hnew
  refine ⟨fun a n => ?_, fun c p hp => ?_, ?_⟩
  · rw [hnation, hfirst, Function.update_apply, Function.update_apply, h.settled_iff]
    split
    · next ha => simp [ha, hnew]
    · rfl
  · rw [hfirst, Function.update_apply] at hp
    rw [hnation, Function.update_apply, Function.update_apply]
    split at hp
    · next hc =>
      obtain rfl := Option.some.inj hp
      rw [if_pos hc, if_neg hne]
      exact ⟨rfl, hparent⟩
    · next hc =>
      have hpc : p ≠ child := fun he => hchildless c (he ▸ hp)
      rw [if_neg hc, if_neg hpc]
      exact h.parent c p hp
  -- nobody descends from a newborn
  · rw [hfirst]
    exact h.grounded.enter hchildless fun he => hne (Option.some.inj he)

/-- **An accepted input keeps the descent.** -/
theorem Descent.step (w : World AccountId L) {x : Input AccountId} (h : Descent s m)
    (hx : BondEffect s s' x) : Descent s' (Identity.settle w x m) := by
  unfold Identity.settle
  cases hsettling : x.settling with
  | some settling => exact h.settle (hx.settled_of_some hsettling)
  | none =>
    rcases hx.born_or_kept hsettling with ⟨child, parent1, parent2, hborn⟩ | ⟨hnation, hfirst⟩
    · exact h.bear hborn
    · refine ⟨?_, ?_, hfirst ▸ h.grounded⟩
      · rw [hnation, hfirst]
        exact h.settled_iff
      · rw [hnation, hfirst]
        exact h.parent

/-- Whoever belongs to a nation descends from one whom root has registered in it. -/
theorem Descent.nation_iff (h : Descent s m) {n : ℕ} :
    s.nation a = some n ↔ ∃ r, m.get r = some n ∧ Descends s.firstParent a r := by
  constructor
  · intro ha
    obtain ⟨r, hr, hdesc⟩ := h.grounded.exists_origin a
    have hsame := hdesc.common fun c p hp => (h.parent c p hp).1
    exact ⟨r, (h.settled_iff r n).mpr ⟨hsame.symm.trans ha, hr⟩, hdesc⟩
  · rintro ⟨r, hr, hdesc⟩
    have hsame := hdesc.common fun c p hp => (h.parent c p hp).1
    exact hsame.trans ((h.settled_iff r n).mp hr).1

theorem descent_genesis (ledger : L) (now : ℕ) :
    Descent (World.genesis ledger now : World AccountId L).toState ∅ where
  settled_iff a n := by
    show StorageMap.get ∅ a = _ ↔ (StorageMap.get ∅ a).map CitizenRecord.nationId = _ ∧ _
    simp
  parent c p hp := by
    change (StorageMap.get ∅ c).map Prod.fst = some p at hp
    simp at hp
  grounded := grounded_of_none fun a => by
    show (StorageMap.get ∅ a).map Prod.fst = none
    simp

/-- An accepted input keeps every nation and every first parent. -/
theorem Descent.kept (h : Descent s m) {x : Input AccountId} (hx : BondEffect s s' x) :
    (∀ a n, s.nation a = some n → s'.nation a = some n) ∧
      ∀ a p, s.firstParent a = some p → s'.firstParent a = some p := by
  cases hsettling : x.settling with
  | some settling =>
    obtain ⟨hnew, hnation, hfirst⟩ := (hx.settled_of_some hsettling).nation
    rw [hnation, hfirst]
    refine ⟨fun a n ha => ?_, fun _ _ hp => hp⟩
    rw [Function.update_of_ne]
    · exact ha
    · rintro rfl
      rw [hnew] at ha
      cases ha
  | none =>
    rcases hx.born_or_kept hsettling with ⟨child, parent1, parent2, hborn⟩ | ⟨hnation, hfirst⟩
    · obtain ⟨hnew, -, hnation, hfirst⟩ := hborn.nation
      rw [hnation, hfirst]
      constructor
      · intro a n ha
        rw [Function.update_of_ne]
        · exact ha
        · rintro rfl
          rw [hnew] at ha
          cases ha
      · intro a p hp
        rw [Function.update_of_ne]
        · exact hp
        · rintro rfl
          rw [(h.of_unregistered hnew).1] at hp
          cases hp
    · rw [hnation, hfirst]
      exact ⟨fun _ _ ha => ha, fun _ _ hp => hp⟩

end Descent

section Runs

variable [Currency AccountId L] [ReservableCurrency AccountId L]

/-- A run keeps the descent, every nation and every first parent. -/
theorem run_descent (cfg : Config AccountId L) (xs : List (Input AccountId))
    {t : World AccountId L × StorageMap AccountId ℕ} (h : Descent t.1.toState t.2) :
    Descent (run (recording settle (step cfg)) xs t).1.toState
        (run (recording settle (step cfg)) xs t).2 ∧
      (∀ a n, t.1.nation a = some n →
        (run (recording settle (step cfg)) xs t).1.nation a = some n) ∧
        ∀ a p, t.1.firstParent a = some p →
          (run (recording settle (step cfg)) xs t).1.firstParent a = some p := by
  have hstep : ∀ x (u u' : World AccountId L × StorageMap AccountId ℕ),
      (Descent u.1.toState u.2 ∧ (∀ a n, t.1.nation a = some n → u.1.nation a = some n) ∧
        ∀ a p, t.1.firstParent a = some p → u.1.firstParent a = some p) →
        recording settle (step cfg) x u = .ok u' →
          Descent u'.1.toState u'.2 ∧ (∀ a n, t.1.nation a = some n → u'.1.nation a = some n) ∧
            ∀ a p, t.1.firstParent a = some p → u'.1.firstParent a = some p := by
    rintro x ⟨w, m⟩ ⟨w', m'⟩ ⟨hdescent, hnation, hparent⟩ hu
    obtain ⟨hs, rfl⟩ := recording_eq_ok.mp hu
    have hbonds := step_bonds hs
    obtain ⟨hnation', hparent'⟩ := hdescent.kept hbonds
    exact ⟨hdescent.step w hbonds, fun a n ha => hnation' a n (hnation a n ha),
      fun a p hp => hparent' a p (hparent a p hp)⟩
  exact run_invariant hstep xs ⟨h, fun _ _ ha => ha, fun _ _ hp => hp⟩

/-- **Who belongs to a nation.** After every run a citizen is of a nation exactly when it descends,
by first parents, from one whom root has registered in it; and whatever happens after, its nation
and its first parent stay what they are. -/
theorem nations_descend (cfg : Config AccountId L) (ledger : L) (now : ℕ)
    (xs ys : List (Input AccountId)) (a : AccountId) :
    let w := run (step cfg) xs (.genesis ledger now)
    let later := run (step cfg) (xs ++ ys) (.genesis ledger now)
    let settlers := (run (recording settle (step cfg)) xs (.genesis ledger now, ∅)).2
    (∀ n, w.nation a = some n ↔ ∃ r, settlers.get r = some n ∧ Descends w.firstParent a r) ∧
      (∀ n, w.nation a = some n → later.nation a = some n) ∧
        ∀ p, w.firstParent a = some p → later.firstParent a = some p := by
  intro w later settlers
  have hfirst := run_descent cfg xs (t := (.genesis ledger now, ∅)) (descent_genesis ledger now)
  have hafter := run_descent cfg ys
    (t := run (recording settle (step cfg)) xs (.genesis ledger now, ∅)) hfirst.1
  rw [← run_append] at hafter
  rw [run_recording] at hfirst
  rw [run_recording, run_recording] at hafter
  exact ⟨fun n => hfirst.1.nation_iff, hafter.2.1 a, hafter.2.2 a⟩

end Runs

end Identity
