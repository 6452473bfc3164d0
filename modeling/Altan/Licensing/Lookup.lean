import Altan.Licensing.Spec
import Altan.Runtime.Constants

/-!
# Looking up a license

Whether an organization is licensed is looked up on the list of its licenses, which has room for
a hundred. A license that finds the list full is issued all the same, and is not found; and a number
that is given again takes a license away from the organization it was given to first. As long as
neither happens, what is looked up is what the licenses say.

## Main definitions

* `isLicensed`: what other modules ask
* `Licensed`: what the licenses say
* `Indexable`, `IssuesIndexed`: the licenses of a block find room, under numbers that are free

## Main results

* `isLicensed_iff`: the lookup is exact when the lists are
* `indexed_step`: the lists stay exact while what is issued is indexed
* `isLicensed_exact`: and so does the lookup
* `license_unlisted`: the license after the hundredth is not found
-/

open Bounded Dispatch TransitionSystem

namespace Licensing

variable {AccountId L : Type} [DecidableEq AccountId]

/-- The numbers of the licenses of an organization. -/
def State.orgLicenses (s : State AccountId L) (orgAccount : AccountId) : LicenseIds :=
  s.licensesByOrg.getD orgAccount BoundedVec.empty

/-- Whether an organization holds an active license of a type in a region that has not expired. -/
def isLicensed (current : ℕ) (orgAccount : AccountId) (licenseType : LicenseType)
    (regionId : UInt8) (s : State AccountId L) : Bool :=
  ((s.orgLicenses orgAccount).val.filterMap s.licenses.get).any fun l =>
    l.isActive && decide (l.licenseType = licenseType) && decide (l.regionId = regionId) &&
      decide (current < l.expiresBlock)

omit [DecidableEq AccountId] in
/-- There is an active license of an organization, of a type and in a region, that has not
expired. -/
def Licensed (current : ℕ) (orgAccount : AccountId) (licenseType : LicenseType) (regionId : UInt8)
    (s : State AccountId L) : Prop :=
  ∃ licenseId license, s.licenses.get licenseId = some license ∧
    license.orgAccount = orgAccount ∧ license.licenseType = licenseType ∧
      license.regionId = regionId ∧ license.isActive = true ∧ current < license.expiresBlock

/-- The lists are exact: each has the licenses of its organization. -/
def Indexed (s : State AccountId L) : Prop :=
  ∀ orgAccount licenseId, licenseId ∈ (s.orgLicenses orgAccount).val ↔
    ∃ license, s.licenses.get licenseId = some license ∧ license.orgAccount = orgAccount

section Lookup

variable {s s' : State AccountId L} {current : ℕ} {orgAccount : AccountId}
  {licenseType : LicenseType} {regionId : UInt8}

/-- **The lookup is exact when the lists are.** -/
theorem isLicensed_iff (h : Indexed s) :
    isLicensed current orgAccount licenseType regionId s = true ↔
      Licensed current orgAccount licenseType regionId s := by
  unfold isLicensed Licensed
  simp only [List.any_eq_true, List.mem_filterMap, Bool.and_eq_true, decide_eq_true_iff]
  constructor
  · rintro ⟨license, ⟨licenseId, hlisted, hget⟩, ⟨⟨hactive, htype⟩, hregion⟩, hexpires⟩
    obtain ⟨license', hget', horg⟩ := (h orgAccount licenseId).mp hlisted
    obtain rfl := Option.some.inj (hget.symm.trans hget')
    exact ⟨licenseId, license, hget, horg, htype, hregion, hactive, hexpires⟩
  · rintro ⟨licenseId, license, hget, horg, htype, hregion, hactive, hexpires⟩
    exact ⟨license, ⟨licenseId, (h orgAccount licenseId).mpr ⟨license, hget, horg⟩, hget⟩,
      ⟨⟨hactive, htype⟩, hregion⟩, hexpires⟩

theorem Indexed.congr (h : Indexed s) (hlists : s'.licensesByOrg = s.licensesByOrg)
    (hlicenses : s'.licenses = s.licenses) : Indexed s' := by
  intro orgAccount licenseId
  rw [State.orgLicenses, hlists, hlicenses]
  exact h orgAccount licenseId

/-- A license keeps its organization when it is revoked. -/
theorem Indexed.revoke {licenseId : ℕ} {license : License AccountId} (h : Indexed s)
    (hget : s.licenses.get licenseId = some license) (reason : BoundedVec UInt8 256) :
    Indexed { s with licenses := s.licenses.insert licenseId (license.revoked reason) } := by
  intro orgAccount id
  refine (h orgAccount id).trans ?_
  dsimp only
  rw [StorageMap.get_insert]
  split
  · next hid =>
    rw [hid, hget]
    simp only [Option.some.injEq, exists_eq_left']
    exact Iff.rfl
  · exact Iff.rfl

end Lookup

/-! ### What is issued -/

/-- The license of an application is indexed when it is issued: the number is free and the list has
room, or the number is that of a license of the same organization. -/
def Indexable (s : State AccountId L) (app : LicenseApplication AccountId) : Prop :=
  (∀ license ∈ s.licenses.get s.nextLicenseId, license.orgAccount = app.orgAccount) ∧
    (s.licenses.get s.nextLicenseId = none → (s.orgLicenses app.orgAccount).val.length < 100)

instance (s : State AccountId L) (app : LicenseApplication AccountId) :
    Decidable (Indexable s app) := inferInstanceAs (Decidable (_ ∧ _))

section Issue

variable [Currency AccountId L] [EscrowCurrency AccountId L] {cfg : Config AccountId}
  {s : State AccountId L} {n appId : ℕ} {app : LicenseApplication AccountId}

/-- The licenses are indexed that some applications result in, one after the other. -/
def IndexesAll (cfg : Config AccountId) (n : ℕ) : List ℕ → State AccountId L → Prop
  | [], _ => True
  | appId :: ids, s =>
    (∀ app ∈ s.licenseApplications.get appId, app.status = .pendingKhural →
        app.passes cfg = true → Indexable s app) ∧
      IndexesAll cfg n ids (enactListed cfg n s appId)

instance decidableIndexesAll (cfg : Config AccountId) (n : ℕ) :
    (ids : List ℕ) → (s : State AccountId L) → Decidable (IndexesAll cfg n ids s)
  | [], _ => isTrue trivial
  | appId :: ids, s =>
    have := decidableIndexesAll cfg n ids (enactListed cfg n s appId)
    inferInstanceAs (Decidable (_ ∧ _))

/-- The licenses that the start of a block issues are indexed. -/
def IssuesIndexed (cfg : Config AccountId) (w : World AccountId L) : Input AccountId L → Prop
  | .block =>
    IndexesAll cfg (w.now + 1) (w.appsEnding (w.now + 1)).val (w.withoutEnding (w.now + 1))
  | _ => True

instance (cfg : Config AccountId) (w : World AccountId L) :
    (x : Input AccountId L) → Decidable (IssuesIndexed cfg w x)
  | .block => inferInstanceAs (Decidable (IndexesAll ..))
  | .call .. => isTrue trivial
  | .judicialRevoke .. => isTrue trivial
  | .elsewhere _ => isTrue trivial

/-- What the enactment of an application does to the lists. -/
theorem enactApplication_orgLicenses (hpasses : app.passes cfg = true) (orgAccount : AccountId) :
    (enactApplication cfg n appId app s).orgLicenses orgAccount =
      if orgAccount = app.orgAccount then
        ((s.orgLicenses app.orgAccount).tryPush s.nextLicenseId).getD
          (s.orgLicenses app.orgAccount)
      else s.orgLicenses orgAccount := by
  unfold enactApplication
  rw [if_pos hpasses]
  unfold State.orgLicenses StorageMap.getD
  dsimp only
  rw [StorageMap.get_insert]
  split
  · rfl
  · rfl

/-- **A license that is indexed keeps the lists exact.** -/
theorem Indexed.enactApplication (h : Indexed s)
    (hindexable : app.passes cfg = true → Indexable s app) :
    Indexed (enactApplication cfg n appId app s) := by
  rcases enactApplication_licenses cfg n appId app s with ⟨hpasses, hlicenses, -⟩ |
    ⟨hrejected, hlicenses, -⟩
  · obtain ⟨hsame, hroom⟩ := hindexable hpasses
    -- the number is on the list already, or there is room for it
    have hlisted : s.nextLicenseId ∈ (s.orgLicenses app.orgAccount).val ∨
        (s.orgLicenses app.orgAccount).val.length < 100 := by
      cases hget : s.licenses.get s.nextLicenseId with
      | none => exact Or.inr (hroom hget)
      | some license => exact Or.inl ((h _ _).mpr ⟨license, hget, hsame license hget⟩)
    intro orgAccount licenseId
    rw [enactApplication_orgLicenses hpasses, hlicenses, StorageMap.get_insert]
    by_cases horg : orgAccount = app.orgAccount
    · subst horg
      rw [if_pos rfl, BoundedVec.mem_getD_tryPush hlisted]
      split
      · next hid => exact iff_of_true (Or.inr hid) ⟨_, rfl, rfl⟩
      · next hid =>
        rw [or_iff_left hid]
        exact h _ _
    · rw [if_neg horg, h]
      split
      · next hid =>
        subst hid
        -- whoever had the number is the organization that has it now
        refine iff_of_false ?_ ?_
        · rintro ⟨license, hget, rfl⟩
          exact horg (hsame license hget)
        · rintro ⟨license, hget, he⟩
          obtain rfl := Option.some.inj hget
          exact horg he.symm
      · exact Iff.rfl
  · refine h.congr ?_ hlicenses
    unfold Licensing.enactApplication
    rw [if_neg (by rw [hrejected]; exact Bool.false_ne_true)]

theorem Indexed.enactAll {ids : List ℕ} (h : Indexed s) (hall : IndexesAll cfg n ids s) :
    Indexed (enactAll cfg n ids s) := by
  induction ids generalizing s with
  | nil => exact h
  | cons appId ids ih =>
    refine ih ?_ hall.2
    rcases enactListed_cases cfg n appId s with ⟨app, hget, hpending, he⟩ | ⟨-, he⟩
    · rw [he]
      exact h.enactApplication (hall.1 app hget hpending)
    · rw [he]
      exact h

/-- **Step lemma.** The lists stay exact while what is issued is indexed. -/
theorem indexed_step {w w' : World AccountId L} {x : Input AccountId L} (h : Indexed w.toState)
    (hissues : IssuesIndexed cfg w x) (hs : step cfg x w = .ok w') : Indexed w'.toState := by
  have htransition := step_transition hs
  generalize w'.toState = s' at htransition
  cases htransition with
  | ministries => exact h
  | filed => exact h
  | voted => exact h
  | revoked _ licenseId reason license _ _ hget => exact h.revoke hget reason
  | elsewhere => exact h
  | block => exact Indexed.enactAll h hissues

/-- The lookup is exact for every organization, type and region. -/
def Exact (w : World AccountId L) : Prop :=
  ∀ orgAccount licenseType regionId,
    isLicensed w.now orgAccount licenseType regionId w.toState = true ↔
      Licensed w.now orgAccount licenseType regionId w.toState

/-- **The lookup is exact throughout every run in which the licenses that are issued are
indexed.** -/
theorem isLicensed_exact (cfg : Config AccountId) (ledger : L) (now : ℕ) (hnow : now ≤ u32Max)
    (xs : List (Input AccountId L))
    (h : Along (step cfg) (IssuesIndexed cfg) xs (World.genesis ledger now hnow)) :
    Throughout (step cfg) Exact xs (World.genesis ledger now hnow) := by
  have hindexed : Throughout (step cfg) (fun w => Indexed w.toState) xs
      (World.genesis ledger now hnow) := by
    refine throughout_of_along (fun _ _ _ hw hissues hs => indexed_step hw hissues hs) ?_ h
    intro orgAccount licenseId
    refine iff_of_false (fun hlisted => by cases hlisted) ?_
    rintro ⟨license, hget, -⟩
    cases hget
  exact hindexed.imp fun w hw orgAccount licenseType regionId => isLicensed_iff hw

end Issue

/-! ### A hundred licenses -/

/-- Account one applies for a license of account nine, in another region from the hundredth on; a
delegate approves, and the license is issued. -/
def licenseIssued (appId : ℕ) : List Runtime.LicensingInput :=
  [Runtime.amongDelegates (.signed 1)
      (.submitLicenseApplication 9 .mineralExtraction (UInt8.ofNat (appId / 100)) 1 (.ofByte 0) 0),
    Runtime.amongDelegates (.signed 2) (.voteOnLicense appId true),
    .block]

/-- Account nine is given so many licenses. -/
def licensesIssued (count : ℕ) : List Runtime.LicensingInput :=
  Runtime.ministryAuthorized :: (List.range count).flatMap licenseIssued

/-- Two licenses are found. -/
theorem isLicensed_exact_two :
    Throughout (step (Runtime.briefLicensing 1)) Exact (licensesIssued 2)
      Runtime.licensingGenesis :=
  isLicensed_exact (Runtime.briefLicensing 1) (ProvidedBalances.ofFree []) 0 (Nat.zero_le _)
    (licensesIssued 2) (by decide +kernel)

/-- What is found of the last license, and what is recorded. -/
def lastLicense (w : Licensing.World ℕ (Runtime.EscrowLedger ℕ)) :
    Bool × Option (ℕ × LicenseType × UInt8 × Bool × Bool) :=
  (isLicensed w.now 9 .mineralExtraction 1 w.toState,
    (w.licenses.get 100).map fun l =>
      (l.orgAccount, l.licenseType, l.regionId, l.isActive, decide (w.now < l.expiresBlock)))

/-- A license that is recorded and not found shows that the lookup is not exact. -/
theorem not_exact_of_lastLicense {w : Licensing.World ℕ (Runtime.EscrowLedger ℕ)}
    (h : lastLicense w = (false, some (9, .mineralExtraction, 1, true, true))) : ¬ Exact w := by
  intro hexact
  obtain ⟨hfound, hrecorded⟩ := Prod.ext_iff.mp h
  obtain ⟨license, hget, hfields⟩ := Option.map_eq_some_iff.mp hrecorded
  simp only [Prod.mk.injEq, decide_eq_true_iff] at hfields
  obtain ⟨horg, htype, hregion, hactive, hexpires⟩ := hfields
  have hlicensed := (hexact 9 .mineralExtraction 1).mpr
    ⟨100, license, hget, horg, htype, hregion, hactive, hexpires⟩
  exact Bool.false_ne_true (hfound.symm.trans hlicensed)

/-- **The license after the hundredth is not found.** -/
theorem license_unlisted : ¬ ∀ (cfg : Config ℕ) (xs : List Runtime.LicensingInput),
    Exact (run (step cfg) xs Runtime.licensingGenesis) := by
  intro h
  exact not_exact_of_lastLicense (by decide +kernel)
    (h (Runtime.briefLicensing 1) (licensesIssued 101))

end Licensing
