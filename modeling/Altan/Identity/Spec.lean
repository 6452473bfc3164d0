import Altan.CentralBank.Spec
import Altan.Foundation.Roster
import Altan.Foundation.TransitionSystem
import Altan.Identity.Status

/-!
# What the inputs do to the citizens and to what they form

An input may come from anybody, through a dispatchable or from another module, and blocks pass
between them. What an input is about, for the citizens and the units they form, is its deed; most
inputs have none, or only change the office and the standing of one citizen. This module says once
what each deed does, and on what condition it is accepted; the properties of runs are derived from
that alone.

## Main definitions

* `Input`, `World`, `step`: the module as a state machine
* `Civics`: the part of the storage the deeds are about
* `Deed`, `Input.deed`: what an input is about
* `Effect`: what an accepted deed goes through, and what it does

## Main results

* `step_effect`: every accepted input has the effect of its deed
* `throughout_iff_of_effect`: the exact guard rule, from what the deeds do
-/

open Bounded Dispatch Ledger TransitionSystem

namespace Identity

variable {AccountId L : Type}

/-! ### The state machine -/

/-- A call with its origin, what another module does to a citizen, or the start of the next
block. -/
inductive Input (AccountId : Type)
  | call (origin : Origin AccountId) (c : Call AccountId)
  | doFreezeCitizen (who : AccountId)
  | doUnfreezeCitizen (who : AccountId)
  | doDemoteToRegular (who : AccountId)
  | doExile (who : AccountId)
  | block
  deriving DecidableEq

/-- The storage in a block. -/
structure World (AccountId L : Type) extends State AccountId L where
  now : ℕ

/-- The storage before any call, in a block. -/
def World.genesis (ledger : L) (now : ℕ) : World AccountId L :=
  { Identity.genesis ledger with now := now }

/-- The state after one input. -/
def step [DecidableEq AccountId] [Currency AccountId L] [ReservableCurrency AccountId L]
    (cfg : Config AccountId L) :
    Input AccountId → World AccountId L → Result (World AccountId L)
  | .call origin c, w => do
    let s ← dispatch cfg ⟨origin, w.now⟩ c w.toState
    return { w with toState := s }
  | .doFreezeCitizen who, w => do
    let s ← doFreezeCitizen who w.toState
    return { w with toState := s }
  | .doUnfreezeCitizen who, w => do
    let s ← doUnfreezeCitizen who w.toState
    return { w with toState := s }
  | .doDemoteToRegular who, w => do
    let s ← doDemoteToRegular who w.toState
    return { w with toState := s }
  | .doExile who, w => do
    let s ← doExile cfg who w.toState
    return { w with toState := s }
  | .block, w => .ok { w with now := w.now + 1 }

/-! ### Deeds -/

/-- What is recorded of the citizens and of the units they form. -/
structure Civics (AccountId : Type) where
  citizens : StorageMap AccountId CitizenRecord
  nextCitizenId : ℕ
  usedDocumentHashes : StorageMap Bytes32 Bool
  usedEmailHashes : StorageMap Bytes32 Bool
  usedBirthHashes : StorageMap Bytes32 Bool
  parentalLinks : StorageMap AccountId (AccountId × Option AccountId)
  lastArbadLeave : StorageMap AccountId ℕ
  arbads : Roster AccountId (ArbadRecord AccountId)
  zuns : Roster AccountId (ZunRecord AccountId)
  myangads : Roster AccountId (MyangadRecord AccountId)
  tumeds : Roster AccountId (TumedRecord AccountId)
  khurals : Roster AccountId (KhuralRecord AccountId)
  confederations : Roster AccountId (ConfederationRecord AccountId)

/-- The civics of a state. -/
def State.civics (s : State AccountId L) : Civics AccountId where
  citizens := s.citizens
  nextCitizenId := s.nextCitizenId
  usedDocumentHashes := s.usedDocumentHashes
  usedEmailHashes := s.usedEmailHashes
  usedBirthHashes := s.usedBirthHashes
  parentalLinks := s.parentalLinks
  lastArbadLeave := s.lastArbadLeave
  arbads := ⟨s.arbads, s.arbadByLeader, s.nextArbadId⟩
  zuns := ⟨s.zuns, s.zunByLeader, s.nextZunId⟩
  myangads := ⟨s.myangads, s.myangadByLeader, s.nextMyangadId⟩
  tumeds := ⟨s.tumeds, s.tumedByLeader, s.nextTumedId⟩
  khurals := ⟨s.khurals, s.khuralByLeader, s.nextKhuralId⟩
  confederations := ⟨s.confederations, s.confederationByLeader, s.nextConfederationId⟩

/-- The civics before any call. -/
def Civics.genesis : Civics AccountId where
  citizens := ∅
  nextCitizenId := 0
  usedDocumentHashes := ∅
  usedEmailHashes := ∅
  usedBirthHashes := ∅
  parentalLinks := ∅
  lastArbadLeave := ∅
  arbads := ⟨∅, ∅, 0⟩
  zuns := ⟨∅, ∅, 0⟩
  myangads := ⟨∅, ∅, 0⟩
  tumeds := ⟨∅, ∅, 0⟩
  khurals := ⟨∅, ∅, 0⟩
  confederations := ⟨∅, ∅, 0⟩

@[simp] theorem genesis_civics (ledger : L) :
    (genesis ledger : State AccountId L).civics = Civics.genesis := rfl

/-- What an input is about. -/
inductive Deed (AccountId : Type)
  | registration (who : AccountId) (role : CitizenRole) (document email : Bytes32)
  | birth (child : AccountId) (document : Bytes32)
  | verification (who : AccountId)
  | appointment (who : AccountId) (role : CitizenRole)
  | arbad (family : Bool) (leader : AccountId) (members : List AccountId)
  | zun (leader : AccountId) (others : List ℕ)
  | myangad (leader : AccountId) (branch : BranchOfPower) (others : List ℕ)
  | tumed (leader : AccountId) (others : List ℕ)
  | khural (leader : AccountId) (tumeds : List ℕ)
  | confederation (leader : AccountId) (khurals : List ℕ)
  | leave (who : AccountId) (arbadId : ℕ)
  | other
  deriving DecidableEq

variable [DecidableEq AccountId]

/-- The deed of a signed call. -/
def Call.deed (caller : AccountId) : Call AccountId → Deed AccountId
  | .verifyCitizen newCitizen => .verification newCitizen
  | .formArbad members => .arbad false caller members
  | .formFamilyArbad spouse head _ =>
    if head = caller then .arbad true caller [spouse] else .arbad true spouse [caller]
  | .formZun otherArbadIds => .zun caller otherArbadIds
  | .formMyangad branch otherZunIds => .myangad caller branch otherZunIds
  | .formTumed otherMyangadIds => .tumed caller otherMyangadIds
  | .formKhural tumedIds => .khural caller tumedIds
  | .formConfederation khuralIds => .confederation caller khuralIds
  | .leaveArbad arbadId => .leave caller arbadId
  | .registerBirth child _ _ childHash _ => .birth child childHash
  | _ => .other

/-- The deed of a call of root. -/
def Call.rootDeed : Call AccountId → Deed AccountId
  | .registerCitizen target _ role _ _ _ _ documentHash _ emailHash =>
    .registration target role documentHash emailHash
  | .bootstrapVerifyCreator creator => .verification creator
  | .updateRole target newRole => .appointment target newRole
  | .registerBirth child _ _ childHash _ => .birth child childHash
  | _ => .other

/-- The deed of an input. -/
def Input.deed : Input AccountId → Deed AccountId
  | .call (.signed caller) c => c.deed caller
  | .call .root c => c.rootDeed
  | _ => .other

/-! ### Effects -/

/-- What no change of office or standing touches in a record. -/
structure SameCitizen (r r' : CitizenRecord) : Prop where
  citizenId : r'.citizenId = r.citizenId
  nationId : r'.nationId = r.nationId
  vestingLevel : r'.vestingLevel = r.vestingLevel
  khuralTermsServed : r'.khuralTermsServed = r.khuralTermsServed
  documentHash : r'.documentHash = r.documentHash
  emailHash : r'.emailHash = r.emailHash

/-- The record of one who is registered with a number, a rank and a document. -/
structure FirstRecord (r : CitizenRecord) (citizenId : ℕ) (role : CitizenRole)
    (document : Bytes32) : Prop where
  citizenId : r.citizenId = citizenId
  role : r.role = role
  vestingLevel : r.vestingLevel = none
  khuralTermsServed : r.khuralTermsServed = 0
  documentHash : r.documentHash = document

/-- Ten units of a tier, with that of the leader first. -/
structure Tenfold {U : Type} (r : Roster AccountId U) (leader : AccountId)
    (others ids : List ℕ) : Prop where
  own : ∃ myId, r.byLeader.get leader = some myId ∧ ids = myId :: others
  nodup : ids.Nodup
  length : ids.length = 10
  formed : ∀ id ∈ ids, ∃ u, r.units.get id = some u

/-- The citizens after an Arbad is formed: the leader comes into office, and the vesting of all of
them advances. -/
def enrol (now : ℕ) (leader : AccountId) (members : List AccountId)
    (citizens : StorageMap AccountId CitizenRecord) : StorageMap AccountId CitizenRecord :=
  members.foldl
    (fun citizens m => citizens.modify m (CitizenRecord.advanceVesting .arbadMember))
    (citizens.modify leader fun r =>
      (r.inOffice .arbadLeader now twoYearTerm).advanceVesting .arbadMember)

/-- Forming an Arbad changes nothing that a term of office and the vesting do not show. -/
theorem map_get_enrol {O : Type} {obs : CitizenRecord → O} {now : ℕ} {leader : AccountId}
    {members : List AccountId} {citizens : StorageMap AccountId CitizenRecord} {a : AccountId}
    (hoffice : ∀ r, obs (r.inOffice .arbadLeader now twoYearTerm) = obs r)
    (hvesting : ∀ r, obs (r.advanceVesting .arbadMember) = obs r) :
    ((enrol now leader members citizens).get a).map obs = (citizens.get a).map obs := by
  unfold enrol
  rw [StorageMap.map_get_foldl_modify hvesting]
  exact StorageMap.map_get_modify fun r => (hvesting _).trans (hoffice r)

theorem containsKey_enrol {now : ℕ} {leader : AccountId} {members : List AccountId}
    {citizens : StorageMap AccountId CitizenRecord} {a : AccountId} :
    (enrol now leader members citizens).containsKey a = citizens.containsKey a := by
  have hseen : ((enrol now leader members citizens).get a).map (fun _ => ()) =
      (citizens.get a).map fun _ => () := map_get_enrol (fun _ => rfl) fun _ => rfl
  have hsome := congrArg Option.isSome hseen
  rwa [Option.isSome_map, Option.isSome_map] at hsome

/-- What an accepted deed goes through and does, with a cooldown of `period` blocks. -/
inductive Effect (period now : ℕ) :
    Deed AccountId → Civics AccountId → Civics AccountId → Prop
  | registration {c : Civics AccountId} {who : AccountId} {role : CitizenRole}
      {document email : Bytes32} {r : CitizenRecord} (hnew : c.citizens.get who = none)
      (hdocument : c.usedDocumentHashes.getD document false = false)
      (hemail : c.usedEmailHashes.getD email false = false)
      (hr : FirstRecord r (saturatingAdd u64Max c.nextCitizenId 1) role document)
      (hremail : r.emailHash = email) :
      Effect period now (.registration who role document email) c
        { c with
          nextCitizenId := saturatingAdd u64Max c.nextCitizenId 1
          usedDocumentHashes := c.usedDocumentHashes.insert document true
          usedEmailHashes := c.usedEmailHashes.insert email true
          citizens := c.citizens.insert who r }
  | birth {c : Civics AccountId} {child parent1 : AccountId} {parent2 : Option AccountId}
      {document : Bytes32} {r parentRec : CitizenRecord} (hnew : c.citizens.get child = none)
      (hdocument : c.usedBirthHashes.getD document false = false)
      (hparent : c.citizens.get parent1 = some parentRec)
      (hr : FirstRecord r c.nextCitizenId .regular document) :
      Effect period now (.birth child document) c
        { c with
          citizens := c.citizens.insert child r
          nextCitizenId := saturatingAdd u64Max c.nextCitizenId 1
          parentalLinks := c.parentalLinks.insert child (parent1, parent2)
          usedBirthHashes := c.usedBirthHashes.insert document true }
  | verification {c : Civics AccountId} {who : AccountId} {r : CitizenRecord}
      (hget : c.citizens.get who = some r) :
      Effect period now (.verification who) c
        { c with
          citizens := c.citizens.insert who
            { r with
              verification := .verified
              vestingLevel := some .verified } }
  | appointment {c : Civics AccountId} {who : AccountId} {role : CitizenRole} {r : CitizenRecord}
      (hget : c.citizens.get who = some r) :
      Effect period now (.appointment who role) c
        { c with citizens := c.citizens.insert who { r with role := role } }
  | arbad {c : Civics AccountId} {family : Bool} {leader : AccountId} {members : List AccountId}
      {a : ArbadRecord AccountId} {r : CitizenRecord} (hget : c.citizens.get leader = some r)
      (hleader : a.leader = leader) (hmembers : a.members.val = members)
      (hcooldown : family = false → ∀ m ∈ members, ∀ lastLeave,
        c.lastArbadLeave.get m = some lastLeave → saturatingAdd u32Max lastLeave period ≤ now) :
      Effect period now (.arbad family leader members) c
        { c with
          citizens := enrol now leader members c.citizens
          arbads := c.arbads.form leader a }
  | zun {c : Civics AccountId} {leader : AccountId} {others : List ℕ} {z : ZunRecord AccountId}
      {r : CitizenRecord} (hget : c.citizens.get leader = some r) (hleader : z.leader = leader)
      (harbads : Tenfold c.arbads leader others z.arbads.val) :
      Effect period now (.zun leader others) c
        { c with
          citizens := c.citizens.modify leader fun r =>
            (r.inOffice .zunLeader now twoYearTerm).advanceVesting .zunMember
          zuns := c.zuns.form leader z }
  | myangad {c : Civics AccountId} {leader : AccountId} {branch : BranchOfPower}
      {others : List ℕ} {m : MyangadRecord AccountId} {r : CitizenRecord}
      (hget : c.citizens.get leader = some r) (hleader : m.leader = leader)
      (hbranch : m.branch = branch) (hzuns : Tenfold c.zuns leader others m.zuns.val) :
      Effect period now (.myangad leader branch others) c
        { c with
          citizens := c.citizens.modify leader fun r =>
            { r.inOffice .myangadLeader now twoYearTerm with branch := some branch }
          myangads := c.myangads.form leader m }
  | tumed {c : Civics AccountId} {leader : AccountId} {others : List ℕ}
      {t : TumedRecord AccountId} {r : CitizenRecord} (hget : c.citizens.get leader = some r)
      (hleader : t.leader = leader) (hmyangads : Tenfold c.myangads leader others t.myangads.val)
      (hrole : r.role = .myangadLeader) :
      Effect period now (.tumed leader others) c
        { c with
          citizens := c.citizens.modify leader fun r =>
            { r.inOffice .tumedLeader now twoYearTerm with branch := some t.branch }
          tumeds := c.tumeds.form leader t }
  | khural {c : Civics AccountId} {leader : AccountId} {tumeds : List ℕ}
      {k : KhuralRecord AccountId} {r : CitizenRecord} (hget : c.citizens.get leader = some r)
      (hterms : r.khuralTermsServed < 2) (hleader : k.leader = leader)
      (htumeds : k.tumeds.val = tumeds) (hnodup : tumeds.Nodup)
      (hlegislative : ∀ id ∈ tumeds, ∃ t, c.tumeds.units.get id = some t ∧
        t.branch = .legislative ∧ t.nationId = k.nationId)
      (hrole : r.role = .tumedLeader) :
      Effect period now (.khural leader tumeds) c
        { c with
          citizens := c.citizens.insert leader
            { r.inOffice .khuralDelegate now fourYearTerm with
              khuralTermsServed := saturatingAdd 255 r.khuralTermsServed 1 }
          khurals := c.khurals.form leader k }
  | confederation {c : Civics AccountId} {leader : AccountId} {khurals : List ℕ}
      {f : ConfederationRecord AccountId} {r : CitizenRecord}
      (hget : c.citizens.get leader = some r) (hrole : r.role = .khuralDelegate)
      (hterms : r.khuralTermsServed < 2) (hleader : f.leader = leader) :
      Effect period now (.confederation leader khurals) c
        { c with
          citizens := c.citizens.insert leader
            { r.inOffice .confederationDelegate now fourYearTerm with
              khuralTermsServed := saturatingAdd 255 r.khuralTermsServed 1 }
          confederations := c.confederations.form leader f }
  | leave {c : Civics AccountId} {who : AccountId} {arbadId position : ℕ}
      {a : ArbadRecord AccountId} (hget : c.arbads.units.get arbadId = some a) :
      Effect period now (.leave who arbadId) c
        { c with
          arbads :=
            { c.arbads with
              units := c.arbads.units.insert arbadId
                { a with members := a.members.swapRemove position } }
          lastArbadLeave := c.lastArbadLeave.insert who now }
  | amended {c : Civics AccountId} {who : AccountId} {r r' : CitizenRecord}
      (hget : c.citizens.get who = some r) (hsame : SameCitizen r r')
      (hoffice : r'.role = r.role ∧ r'.branch = r.branch ∨ r'.role = .regular) :
      Effect period now .other c { c with citizens := c.citizens.insert who r' }
  | kept {c : Civics AccountId} : Effect period now .other c c

/-- Whoever is registered stays so. -/
theorem Effect.containsKey {period now : ℕ} {d : Deed AccountId} {c c' : Civics AccountId}
    (h : Effect period now d c c') {a : AccountId} (ha : c.citizens.containsKey a = true) :
    c'.citizens.containsKey a = true := by
  cases h with
  | registration | birth | verification | appointment | khural | confederation | amended =>
    exact StorageMap.containsKey_insert_of_containsKey ha
  | zun | myangad | tumed => rwa [StorageMap.containsKey_modify]
  | arbad => rwa [containsKey_enrol]
  | leave | kept => exact ha

/-! ### Every input has the effect of its deed -/

section Calls

variable {cfg : Config AccountId L} {origin : Origin AccountId} {now : ℕ}
  {s s' : State AccountId L} {who : AccountId}

/-- What is gathered is the units listed, all different if they were so before, and each has passed
its check. -/
theorem gather_eq_ok {check : ℕ → Result Unit} {all ids res : List ℕ}
    (h : gather check all ids = .ok res) :
    res = all ++ ids ∧ (all.Nodup → res.Nodup) ∧ ∀ id ∈ ids, check id = .ok () := by
  induction ids generalizing all with
  | nil =>
    rw [gather, Except.ok.injEq] at h
    simp [h]
  | cons id ids ih =>
    rw [gather, ensure_bind_eq_ok] at h
    obtain ⟨hnew, h⟩ := h
    obtain ⟨u, hcheck, h⟩ := bind_eq_ok.mp h
    obtain ⟨hres, hnodup, hchecks⟩ := ih h
    refine ⟨by rw [hres, List.append_assoc, List.singleton_append], fun hall => hnodup ?_, ?_⟩
    · exact List.nodup_append.mpr ⟨hall, List.nodup_singleton id, by
        rintro a ha b hb rfl
        exact hnew (List.mem_singleton.mp hb ▸ ha)⟩
    · intro id' hid'
      rcases List.mem_cons.mp hid' with rfl | hid'
      · exact hcheck
      · exact hchecks id' hid'

/-- Ten units are gathered from that of the leader and nine others. -/
theorem tenfold_of_gather {U : Type} {r : Roster AccountId U} {leader : AccountId} {myId : ℕ}
    {others all : List ℕ} {check : ℕ → Result Unit} {u : U}
    (hown : r.byLeader.get leader = some myId) (hunit : r.units.get myId = some u)
    (hlength : others.length = 9) (h : gather check [myId] others = .ok all)
    (hcheck : ∀ id, check id = .ok () → ∃ u, r.units.get id = some u) :
    Tenfold r leader others all := by
  obtain ⟨hall, hnodup, hchecks⟩ := gather_eq_ok h
  refine ⟨⟨myId, hown, hall⟩, hnodup (List.nodup_singleton myId), ?_, ?_⟩
  · rw [hall, List.singleton_append, List.length_cons, hlength]
  · intro id hid
    rw [hall, List.singleton_append, List.mem_cons] at hid
    rcases hid with rfl | hid
    · exact ⟨u, hunit⟩
    · exact hcheck id (hchecks id hid)

theorem registerCitizen_effect {target : AccountId} {nationId : ℕ} {role : CitizenRole}
    {isIndigenous : Bool} {regionId birthRegionId : Option ℕ} {passportType : PassportType}
    {documentHash birthPageHash emailHash : Bytes32}
    (h : registerCitizen ⟨origin, now⟩ target nationId role isIndigenous regionId birthRegionId
      passportType documentHash birthPageHash emailHash s = .ok s') :
    origin = .root ∧ Effect cfg.arbadCooldownPeriod now
      (.registration target role documentHash emailHash) s.civics s'.civics := by
  simp only [registerCitizen, ensureRoot_bind_eq_ok, ensure_bind_eq_ok, pure_eq_ok] at h
  obtain ⟨hroot, hnew, -, -, -, hdocument, hemail, rfl⟩ := h
  exact ⟨hroot, .registration (StorageMap.not_containsKey.mp hnew) hdocument hemail
    ⟨rfl, rfl, rfl, rfl, rfl⟩ rfl⟩

theorem ensureBirthOrigin_civics (h : ensureBirthOrigin cfg ⟨origin, now⟩ s = .ok s') :
    s'.civics = s.civics ∧ (origin = .root ∨ ∃ caller, origin = .signed caller) := by
  unfold ensureBirthOrigin at h
  split at h
  · next hroot => exact ⟨congrArg State.civics (Except.ok.inj h).symm, Or.inl hroot⟩
  · simp only [ensureSigned_bind_eq_ok, ensure_bind_eq_ok, checkAndIncrementOracleRate] at h
    obtain ⟨caller, hcaller, -, h⟩ := h
    refine ⟨?_, Or.inr ⟨caller, hcaller⟩⟩
    split at h
    · simp only [ensure_bind_eq_ok, pure_eq_ok] at h
      rw [← h.2]
      rfl
    · rw [← pure_eq_ok.mp h]
      rfl

theorem registerBirth_effect {child parent1 : AccountId} {parent2 : Option AccountId}
    {childHash : Bytes32} {birthRegionId : ℕ}
    (h : registerBirth cfg ⟨origin, now⟩ child parent1 parent2 childHash birthRegionId s =
      .ok s') :
    (origin = .root ∨ ∃ caller, origin = .signed caller) ∧
      Effect cfg.arbadCooldownPeriod now (.birth child childHash) s.civics s'.civics := by
  obtain ⟨t, ht, h⟩ := bind_eq_ok.mp h
  obtain ⟨hcivics, horigin⟩ := ensureBirthOrigin_civics ht
  simp only [ensure_bind_eq_ok, required_bind_eq_ok, pure_eq_ok] at h
  obtain ⟨-, hdocument, hnew, parentRec, hparent, -, rfl⟩ := h
  refine ⟨horigin, ?_⟩
  rw [← hcivics]
  exact .birth (StorageMap.not_containsKey.mp hnew) hdocument hparent ⟨rfl, rfl, rfl, rfl, rfl⟩

theorem verifyCitizen_effect {newCitizen : AccountId}
    (h : verifyCitizen ⟨origin, now⟩ newCitizen s = .ok s') :
    (∃ caller, origin = .signed caller) ∧
      Effect cfg.arbadCooldownPeriod now (.verification newCitizen) s.civics s'.civics := by
  simp only [verifyCitizen, ensureSigned_bind_eq_ok, citizen_bind_eq_ok, ensure_bind_eq_ok,
    pure_eq_ok] at h
  obtain ⟨verifier, horigin, verifierRec, -, -, -, newRec, hget, -, -, rfl⟩ := h
  exact ⟨⟨verifier, horigin⟩, .verification hget⟩

theorem bootstrapVerifyCreator_effect {creator : AccountId}
    (h : bootstrapVerifyCreator ⟨origin, now⟩ creator s = .ok s') :
    origin = .root ∧
      Effect cfg.arbadCooldownPeriod now (.verification creator) s.civics s'.civics := by
  simp only [bootstrapVerifyCreator, ensureRoot_bind_eq_ok, citizen_bind_eq_ok,
    ensure_bind_eq_ok, pure_eq_ok] at h
  obtain ⟨hroot, r, hget, -, rfl⟩ := h
  exact ⟨hroot, .verification hget⟩

theorem updateRole_effect {target : AccountId} {newRole : CitizenRole}
    (h : updateRole ⟨origin, now⟩ target newRole s = .ok s') :
    origin = .root ∧
      Effect cfg.arbadCooldownPeriod now (.appointment target newRole) s.civics s'.civics := by
  simp only [updateRole, ensureRoot_bind_eq_ok, citizen_bind_eq_ok, pure_eq_ok] at h
  obtain ⟨hroot, r, hget, rfl⟩ := h
  exact ⟨hroot, .appointment hget⟩

/-! The calls that change the office or the standing of one citizen, or nothing of the civics. -/

theorem amended_of_insert {r r' : CitizenRecord} (hget : s.citizens.get who = some r)
    (hs' : s'.civics = { s.civics with citizens := s.citizens.insert who r' })
    (hsame : SameCitizen r r')
    (hoffice : r'.role = r.role ∧ r'.branch = r.branch ∨ r'.role = .regular) :
    Effect cfg.arbadCooldownPeriod now .other s.civics s'.civics := by
  rw [hs']
  exact .amended hget hsame hoffice

theorem kept_of_eq (hs' : s'.civics = s.civics) :
    Effect cfg.arbadCooldownPeriod now .other s.civics s'.civics := by
  rw [hs']
  exact .kept

theorem freezeCitizen_effect {target : AccountId}
    (h : freezeCitizen ⟨origin, now⟩ target s = .ok s') :
    Effect cfg.arbadCooldownPeriod now .other s.civics s'.civics := by
  simp only [freezeCitizen, ensureRoot_bind_eq_ok, citizen_bind_eq_ok, ensure_bind_eq_ok,
    pure_eq_ok] at h
  obtain ⟨-, r, hget, -, rfl⟩ := h
  exact amended_of_insert hget rfl ⟨rfl, rfl, rfl, rfl, rfl, rfl⟩ (Or.inl ⟨rfl, rfl⟩)

theorem unfreezeCitizen_effect {target : AccountId}
    (h : unfreezeCitizen ⟨origin, now⟩ target s = .ok s') :
    Effect cfg.arbadCooldownPeriod now .other s.civics s'.civics := by
  simp only [unfreezeCitizen, ensureRoot_bind_eq_ok, citizen_bind_eq_ok, ensure_bind_eq_ok,
    pure_eq_ok] at h
  obtain ⟨-, r, hget, -, -, rfl⟩ := h
  exact amended_of_insert hget rfl ⟨rfl, rfl, rfl, rfl, rfl, rfl⟩ (Or.inl ⟨rfl, rfl⟩)

theorem registerDeath_effect [Currency AccountId L] [ReservableCurrency AccountId L]
    {target : AccountId} {deathCredentialHash : Bytes32}
    (h : registerDeath cfg ⟨origin, now⟩ target deathCredentialHash s = .ok s') :
    Effect cfg.arbadCooldownPeriod now .other s.civics s'.civics := by
  obtain ⟨-, -, h⟩ := bind_eq_ok.mp h
  simp only [citizen_bind_eq_ok, ensure_bind_eq_ok, pure_eq_ok] at h
  obtain ⟨r, hget, -, rfl⟩ := h
  exact amended_of_insert hget rfl ⟨rfl, rfl, rfl, rfl, rfl, rfl⟩ (Or.inr rfl)

theorem assignGuardian_civics {minorTarget newGuardian : AccountId}
    (h : assignGuardian cfg ⟨origin, now⟩ minorTarget newGuardian s = .ok s') :
    s'.civics = s.civics := by
  simp only [assignGuardian, citizen_bind_eq_ok, ensure_bind_eq_ok, pure_eq_ok] at h
  obtain ⟨-, -, -, -, -, -, -, rfl⟩ := h
  rfl

theorem claimRepatriation_effect {acceptedConstitutionHash : Bytes32}
    (h : claimRepatriation cfg ⟨origin, now⟩ who acceptedConstitutionHash s = .ok s') :
    Effect cfg.arbadCooldownPeriod now .other s.civics s'.civics := by
  simp only [claimRepatriation, ensureRoot_bind_eq_ok] at h
  obtain ⟨-, h⟩ := h
  obtain ⟨-, -, h⟩ := bind_eq_ok.mp h
  simp only [citizen_bind_eq_ok, ensure_bind_eq_ok, pure_eq_ok] at h
  obtain ⟨r, hget, -, rfl⟩ := h
  exact amended_of_insert hget rfl ⟨rfl, rfl, rfl, rfl, rfl, rfl⟩ (Or.inl ⟨rfl, rfl⟩)

theorem claimBirthright_effect {acceptedConstitutionHash : Bytes32}
    (h : claimBirthright cfg ⟨origin, now⟩ acceptedConstitutionHash s = .ok s') :
    Effect cfg.arbadCooldownPeriod now .other s.civics s'.civics := by
  simp only [claimBirthright, ensureSigned_bind_eq_ok] at h
  obtain ⟨caller, -, h⟩ := h
  obtain ⟨-, -, h⟩ := bind_eq_ok.mp h
  simp only [citizen_bind_eq_ok, ensure_bind_eq_ok, pure_eq_ok] at h
  obtain ⟨r, hget, -, -, rfl⟩ := h
  exact amended_of_insert hget rfl ⟨rfl, rfl, rfl, rfl, rfl, rfl⟩ (Or.inl ⟨rfl, rfl⟩)

theorem registerMarriage_civics [Currency AccountId L] {partnerB : AccountId}
    (h : registerMarriage cfg ⟨origin, now⟩ partnerB s = .ok s') :
    s'.civics = s.civics := by
  simp only [registerMarriage, ensureSigned_bind_eq_ok, citizen_bind_eq_ok, ensure_bind_eq_ok,
    required_bind_eq_ok, liftCurrency_bind_eq_ok, pure_eq_ok] at h
  obtain ⟨partnerA, -, -, -, -, -, -, -, -, -, -, l, -, l', -, rfl⟩ := h
  rfl

theorem registerDivorce_civics (h : registerDivorce ⟨origin, now⟩ s = .ok s') :
    s'.civics = s.civics := by
  simp only [registerDivorce, ensureSigned_bind_eq_ok, required_bind_eq_ok, ensure_bind_eq_ok,
    pure_eq_ok] at h
  obtain ⟨caller, -, spouse, -, -, rfl⟩ := h
  rfl

theorem registerNickname_civics {name : BoundedVec UInt8 24}
    (h : registerNickname ⟨origin, now⟩ name s = .ok s') :
    s'.civics = s.civics := by
  simp only [registerNickname, ensureSigned_bind_eq_ok, citizen_bind_eq_ok, ensure_bind_eq_ok,
    pure_eq_ok] at h
  obtain ⟨caller, -, r, -, -, -, -, -, -, rfl⟩ := h
  rfl

theorem clearNickname_civics (h : clearNickname ⟨origin, now⟩ s = .ok s') :
    s'.civics = s.civics := by
  simp only [clearNickname, ensureSigned_bind_eq_ok, required_bind_eq_ok, pure_eq_ok] at h
  obtain ⟨caller, -, name, -, rfl⟩ := h
  rfl

theorem doFreezeCitizen_effect (h : doFreezeCitizen who s = .ok s') :
    Effect cfg.arbadCooldownPeriod now .other s.civics s'.civics := by
  simp only [doFreezeCitizen, bridged_bind_eq_ok, pure_eq_ok] at h
  obtain ⟨r, hget, rfl⟩ := h
  exact amended_of_insert hget rfl ⟨rfl, rfl, rfl, rfl, rfl, rfl⟩ (Or.inl ⟨rfl, rfl⟩)

theorem doUnfreezeCitizen_effect (h : doUnfreezeCitizen who s = .ok s') :
    Effect cfg.arbadCooldownPeriod now .other s.civics s'.civics := by
  simp only [doUnfreezeCitizen, bridged_bind_eq_ok, ensure_bind_eq_ok, pure_eq_ok] at h
  obtain ⟨r, hget, -, rfl⟩ := h
  exact amended_of_insert hget rfl ⟨rfl, rfl, rfl, rfl, rfl, rfl⟩ (Or.inl ⟨rfl, rfl⟩)

theorem doDemoteToRegular_effect (h : doDemoteToRegular who s = .ok s') :
    Effect cfg.arbadCooldownPeriod now .other s.civics s'.civics := by
  simp only [doDemoteToRegular, bridged_bind_eq_ok, pure_eq_ok] at h
  obtain ⟨r, hget, rfl⟩ := h
  exact amended_of_insert hget rfl ⟨rfl, rfl, rfl, rfl, rfl, rfl⟩ (Or.inr rfl)

theorem doExile_effect (h : doExile cfg who s = .ok s') :
    Effect cfg.arbadCooldownPeriod now .other s.civics s'.civics := by
  simp only [doExile, bridged_bind_eq_ok, ensure_bind_eq_ok, pure_eq_ok] at h
  obtain ⟨r, hget, -, rfl⟩ := h
  exact amended_of_insert hget rfl ⟨rfl, rfl, rfl, rfl, rfl, rfl⟩ (Or.inr rfl)

/-! The calls that form units, and the one that leaves an Arbad. -/

/-- Who is added to an Arbad by `formArbad` has not left one recently. -/
theorem ensureMembers_cooldown {caller : AccountId} {nationId : ℕ} {seen members : List AccountId}
    {u : Unit} (h : ensureMembers cfg now caller nationId s seen members = .ok u) :
    ∀ m ∈ members, ∀ lastLeave, s.lastArbadLeave.get m = some lastLeave →
      saturatingAdd u32Max lastLeave cfg.arbadCooldownPeriod ≤ now := by
  induction members generalizing seen with
  | nil => simp
  | cons m members ih =>
    simp only [ensureMembers, ensure_bind_eq_ok, citizen_bind_eq_ok] at h
    obtain ⟨-, -, mr, -, -, -, -, hcool, h⟩ := h
    intro m' hm' lastLeave hleave
    rcases List.mem_cons.mp hm' with rfl | hm'
    · exact hcool lastLeave hleave
    · exact ih h m' hm' lastLeave hleave

theorem formArbad_effect {members : List AccountId}
    (h : formArbad cfg ⟨origin, now⟩ members s = .ok s') :
    ∃ caller, origin = .signed caller ∧
      Effect cfg.arbadCooldownPeriod now (.arbad false caller members) s.civics s'.civics := by
  simp only [formArbad, ensureSigned_bind_eq_ok, citizen_bind_eq_ok, ensure_bind_eq_ok] at h
  obtain ⟨caller, horigin, r, hget, -, -, -, -, h⟩ := h
  obtain ⟨u, hmembers, h⟩ := bind_eq_ok.mp h
  simp only [required_bind_eq_ok, pure_eq_ok] at h
  obtain ⟨bounded, hbounded, rfl⟩ := h
  exact ⟨caller, horigin, .arbad hget rfl (BoundedVec.tryFrom_eq_some.mp hbounded)
    fun _ => ensureMembers_cooldown hmembers⟩

theorem formFamilyArbad_effect {spouse head : AccountId} {marriageCredentialHash : Option Bytes32}
    (h : formFamilyArbad ⟨origin, now⟩ spouse head marriageCredentialHash s = .ok s') :
    ∃ caller, origin = .signed caller ∧ Effect cfg.arbadCooldownPeriod now
      (if head = caller then .arbad true caller [spouse] else .arbad true spouse [caller])
        s.civics s'.civics := by
  simp only [formFamilyArbad, ensureSigned_bind_eq_ok, citizen_bind_eq_ok, ensure_bind_eq_ok,
    required_bind_eq_ok, pure_eq_ok] at h
  obtain ⟨caller, horigin, -, -, callerRec, hcaller, -, -, -, spouseRec, hspouse, -, -, -,
    bounded, hbounded, rfl⟩ := h
  refine ⟨caller, horigin, ?_⟩
  have hmembers := BoundedVec.tryFrom_eq_some.mp hbounded
  split
  · next hhead =>
    simp only [if_pos hhead] at hmembers ⊢
    exact .arbad hcaller rfl hmembers fun hf => by cases hf
  · next hhead =>
    simp only [if_neg hhead] at hmembers ⊢
    exact .arbad hspouse rfl hmembers fun hf => by cases hf

theorem formZun_effect {otherArbadIds : List ℕ}
    (h : formZun ⟨origin, now⟩ otherArbadIds s = .ok s') :
    ∃ caller, origin = .signed caller ∧
      Effect cfg.arbadCooldownPeriod now (.zun caller otherArbadIds) s.civics s'.civics := by
  simp only [formZun, ensureSigned_bind_eq_ok, citizen_bind_eq_ok, ensure_bind_eq_ok,
    required_bind_eq_ok] at h
  obtain ⟨caller, horigin, r, hget, -, -, myId, hown, myArbad, hunit, hlength, h⟩ := h
  obtain ⟨all, hall, h⟩ := bind_eq_ok.mp h
  simp only [required_bind_eq_ok, pure_eq_ok] at h
  obtain ⟨bounded, hbounded, rfl⟩ := h
  refine ⟨caller, horigin, .zun hget rfl ?_⟩
  rw [BoundedVec.tryFrom_eq_some.mp hbounded]
  apply tenfold_of_gather (r := s.civics.arbads) hown hunit hlength hall
  intro id hid
  simp only [required_bind_eq_ok, ensure_eq_ok] at hid
  obtain ⟨u, hu, -⟩ := hid
  exact ⟨u, hu⟩

theorem formMyangad_effect {branch : BranchOfPower} {otherZunIds : List ℕ}
    (h : formMyangad ⟨origin, now⟩ branch otherZunIds s = .ok s') :
    ∃ caller, origin = .signed caller ∧
      Effect cfg.arbadCooldownPeriod now (.myangad caller branch otherZunIds)
        s.civics s'.civics := by
  simp only [formMyangad, ensureSigned_bind_eq_ok, citizen_bind_eq_ok, ensure_bind_eq_ok,
    required_bind_eq_ok] at h
  obtain ⟨caller, horigin, r, hget, -, -, myId, hown, myZun, hunit, hlength, h⟩ := h
  obtain ⟨all, hall, h⟩ := bind_eq_ok.mp h
  simp only [required_bind_eq_ok, pure_eq_ok] at h
  obtain ⟨bounded, hbounded, rfl⟩ := h
  refine ⟨caller, horigin, .myangad hget rfl rfl ?_⟩
  rw [BoundedVec.tryFrom_eq_some.mp hbounded]
  apply tenfold_of_gather (r := s.civics.zuns) hown hunit hlength hall
  intro id hid
  simp only [required_bind_eq_ok, ensure_eq_ok] at hid
  obtain ⟨u, hu, -⟩ := hid
  exact ⟨u, hu⟩

theorem formTumed_effect {otherMyangadIds : List ℕ}
    (h : formTumed ⟨origin, now⟩ otherMyangadIds s = .ok s') :
    ∃ caller, origin = .signed caller ∧
      Effect cfg.arbadCooldownPeriod now (.tumed caller otherMyangadIds)
        s.civics s'.civics := by
  simp only [formTumed, ensureSigned_bind_eq_ok, citizen_bind_eq_ok, ensure_bind_eq_ok,
    required_bind_eq_ok] at h
  obtain ⟨caller, horigin, r, hget, -, hrole, myId, hown, myMyangad, hunit, hlength, h⟩ := h
  obtain ⟨all, hall, h⟩ := bind_eq_ok.mp h
  simp only [required_bind_eq_ok, pure_eq_ok] at h
  obtain ⟨bounded, hbounded, rfl⟩ := h
  refine ⟨caller, horigin, .tumed
    (t := ⟨caller, bounded, myMyangad.branch, myMyangad.nationId⟩) hget rfl ?_ hrole⟩
  rw [BoundedVec.tryFrom_eq_some.mp hbounded]
  apply tenfold_of_gather (r := s.civics.myangads) hown hunit hlength hall
  intro id hid
  simp only [required_bind_eq_ok, ensure_bind_eq_ok, ensure_eq_ok] at hid
  obtain ⟨u, hu, -⟩ := hid
  exact ⟨u, hu⟩

theorem formKhural_effect {tumedIds : List ℕ}
    (h : formKhural ⟨origin, now⟩ tumedIds s = .ok s') :
    ∃ caller, origin = .signed caller ∧
      Effect cfg.arbadCooldownPeriod now (.khural caller tumedIds) s.civics s'.civics := by
  simp only [formKhural, ensureSigned_bind_eq_ok, citizen_bind_eq_ok, ensure_bind_eq_ok,
    required_bind_eq_ok] at h
  obtain ⟨caller, horigin, r, hget, -, hrole, -, first, -, h⟩ := h
  obtain ⟨all, hall, h⟩ := bind_eq_ok.mp h
  simp only [ensure_bind_eq_ok, required_bind_eq_ok, pure_eq_ok] at h
  obtain ⟨hterms, bounded, hbounded, rfl⟩ := h
  obtain ⟨hres, hnodup, hchecks⟩ := gather_eq_ok hall
  rw [List.nil_append] at hres
  refine ⟨caller, horigin, .khural hget hterms rfl (BoundedVec.tryFrom_eq_some.mp hbounded)
    (hres ▸ hnodup List.nodup_nil) (fun id hid => ?_) hrole⟩
  have hcheck := hchecks id hid
  simp only [required_bind_eq_ok, ensure_bind_eq_ok, ensure_eq_ok] at hcheck
  exact hcheck

theorem formConfederation_effect {khuralIds : List ℕ}
    (h : formConfederation ⟨origin, now⟩ khuralIds s = .ok s') :
    ∃ caller, origin = .signed caller ∧
      Effect cfg.arbadCooldownPeriod now (.confederation caller khuralIds)
        s.civics s'.civics := by
  simp only [formConfederation, ensureSigned_bind_eq_ok, citizen_bind_eq_ok,
    ensure_bind_eq_ok] at h
  obtain ⟨caller, horigin, r, hget, -, hrole, -, h⟩ := h
  obtain ⟨all, -, h⟩ := bind_eq_ok.mp h
  simp only [ensure_bind_eq_ok, required_bind_eq_ok, pure_eq_ok] at h
  obtain ⟨hterms, bounded, -, rfl⟩ := h
  exact ⟨caller, horigin, .confederation hget hrole hterms rfl⟩

theorem leaveArbad_effect {arbadId : ℕ} (h : leaveArbad ⟨origin, now⟩ arbadId s = .ok s') :
    ∃ caller, origin = .signed caller ∧
      Effect cfg.arbadCooldownPeriod now (.leave caller arbadId) s.civics s'.civics := by
  simp only [leaveArbad, ensureSigned_bind_eq_ok, citizen_bind_eq_ok, ensure_bind_eq_ok,
    required_bind_eq_ok, pure_eq_ok] at h
  obtain ⟨caller, horigin, -, -, -, arbad, hget, -, position, -, rfl⟩ := h
  exact ⟨caller, horigin, .leave hget⟩

end Calls

/-! ### Runs -/

section Runs

variable [Currency AccountId L] [ReservableCurrency AccountId L] {cfg : Config AccountId L}
  {w w' : World AccountId L} {x : Input AccountId}

/-- **Every accepted call has the effect of its deed.** -/
theorem dispatch_effect {origin : Origin AccountId} {now : ℕ} {c : Call AccountId}
    {s s' : State AccountId L} (h : dispatch cfg ⟨origin, now⟩ c s = .ok s') :
    Effect cfg.arbadCooldownPeriod now (Input.call origin c).deed s.civics s'.civics := by
  cases c with
  | registerCitizen =>
    obtain ⟨rfl, heffect⟩ := registerCitizen_effect h
    exact heffect
  | verifyCitizen =>
    obtain ⟨⟨caller, rfl⟩, heffect⟩ := verifyCitizen_effect h
    exact heffect
  | bootstrapVerifyCreator =>
    obtain ⟨rfl, heffect⟩ := bootstrapVerifyCreator_effect h
    exact heffect
  | updateRole =>
    obtain ⟨rfl, heffect⟩ := updateRole_effect h
    exact heffect
  | registerBirth =>
    obtain ⟨rfl | ⟨caller, rfl⟩, heffect⟩ := registerBirth_effect h
    · exact heffect
    · exact heffect
  | formArbad =>
    obtain ⟨caller, rfl, heffect⟩ := formArbad_effect h
    exact heffect
  | formFamilyArbad =>
    obtain ⟨caller, rfl, heffect⟩ := formFamilyArbad_effect h
    exact heffect
  | formZun =>
    obtain ⟨caller, rfl, heffect⟩ := formZun_effect h
    exact heffect
  | formMyangad =>
    obtain ⟨caller, rfl, heffect⟩ := formMyangad_effect h
    exact heffect
  | formTumed =>
    obtain ⟨caller, rfl, heffect⟩ := formTumed_effect h
    exact heffect
  | formKhural =>
    obtain ⟨caller, rfl, heffect⟩ := formKhural_effect h
    exact heffect
  | formConfederation =>
    obtain ⟨caller, rfl, heffect⟩ := formConfederation_effect h
    exact heffect
  | leaveArbad =>
    obtain ⟨caller, rfl, heffect⟩ := leaveArbad_effect h
    exact heffect
  -- the others are about no deed, whoever makes them
  | freezeCitizen => cases origin <;> exact freezeCitizen_effect h
  | unfreezeCitizen => cases origin <;> exact unfreezeCitizen_effect h
  | registerDeath => cases origin <;> exact registerDeath_effect h
  | assignGuardian => cases origin <;> exact kept_of_eq (assignGuardian_civics h)
  | claimRepatriation => cases origin <;> exact claimRepatriation_effect h
  | claimBirthright => cases origin <;> exact claimBirthright_effect h
  | registerMarriage => cases origin <;> exact kept_of_eq (registerMarriage_civics h)
  | registerDivorce => cases origin <;> exact kept_of_eq (registerDivorce_civics h)
  | registerNickname => cases origin <;> exact kept_of_eq (registerNickname_civics h)
  | clearNickname => cases origin <;> exact kept_of_eq (clearNickname_civics h)

theorem step_call {origin : Origin AccountId} {c : Call AccountId} {s : State AccountId L}
    (h : dispatch cfg ⟨origin, w.now⟩ c w.toState = .ok s) :
    step cfg (.call origin c) w = .ok { w with toState := s } :=
  bind_eq_ok.mpr ⟨s, h, rfl⟩

/-- **Every accepted input has the effect of its deed.** -/
theorem step_effect (h : step cfg x w = .ok w') :
    Effect cfg.arbadCooldownPeriod w.now x.deed w.civics w'.civics := by
  cases x with
  | block =>
    rw [← Except.ok.inj h]
    exact .kept
  | call origin c =>
    simp only [step, bind_eq_ok, pure_eq_ok] at h
    obtain ⟨s, hs, rfl⟩ := h
    exact dispatch_effect hs
  | doFreezeCitizen who =>
    simp only [step, bind_eq_ok, pure_eq_ok] at h
    obtain ⟨s, hs, rfl⟩ := h
    exact doFreezeCitizen_effect hs
  | doUnfreezeCitizen who =>
    simp only [step, bind_eq_ok, pure_eq_ok] at h
    obtain ⟨s, hs, rfl⟩ := h
    exact doUnfreezeCitizen_effect hs
  | doDemoteToRegular who =>
    simp only [step, bind_eq_ok, pure_eq_ok] at h
    obtain ⟨s, hs, rfl⟩ := h
    exact doDemoteToRegular_effect hs
  | doExile who =>
    simp only [step, bind_eq_ok, pure_eq_ok] at h
    obtain ⟨s, hs, rfl⟩ := h
    exact doExile_effect hs

/-- **Exact guard rule, from the deeds.** Let `J` be an invariant of the civics under which a deed
keeps `P` exactly when it meets `Q`. Then `P` holds throughout exactly the runs along `Q`. -/
theorem throughout_iff_of_effect {J P : Civics AccountId → Prop}
    {Q : Civics AccountId → Deed AccountId → Prop}
    (hJ : ∀ now d c c', J c → Effect cfg.arbadCooldownPeriod now d c c' → J c')
    (hstep : ∀ now d c c', J c → P c → Effect cfg.arbadCooldownPeriod now d c c' →
      (P c' ↔ Q c d))
    {xs : List (Input AccountId)} (hj : J w.civics) (h : P w.civics) :
    Throughout (step cfg) (fun w => P w.civics) xs w ↔
      Along (step cfg) (fun w x => Q w.civics x.deed) xs w :=
  throughout_iff_along (J := fun w => J w.civics)
    (fun _ w _ hj h => hJ w.now _ _ _ hj (step_effect h))
    (fun _ w _ hj hp h => hstep w.now _ _ _ hj hp (step_effect h)) hj h

end Runs

end Identity

/-! ### The citizens in the runtime

The constants the runtime gives the citizens, in a small world to evaluate calls in: accounts are
numbers, the medical authority is zero. -/

namespace Runtime

/-- The citizens, with nothing to clean up in other modules at the end of a life. -/
def citizens : Identity.Config ℕ (NativeLedger ℕ) where
  medicalAuthority := 0
  marriageFee := 5 * CentralBank.unit
  civilFeeTreasury := 2
  arbadCooldownPeriod := 432000
  maxRegistrationsPerBlock := 100
  constitutionHash := none
  onDeceased _ ledger := ledger
  onExiled _ ledger := ledger

/-- The registration of an account whose documents have one hash. -/
def registration (who : ℕ) (hash : Bytes32) : Identity.Call ℕ :=
  .registerCitizen who 1 .regular true none none .internal hash hash hash

/-- A call of root. -/
def decree (c : Identity.Call ℕ) : Identity.Input ℕ := .call .root c

/-- A signed call. -/
def signed (caller : ℕ) (c : Identity.Call ℕ) : Identity.Input ℕ := .call (.signed caller) c

/-- The citizens before any call. -/
def noCitizens : Identity.World ℕ (NativeLedger ℕ) := .genesis default 1

/-- A citizen who is given a rank forms ten units of a tier. -/
def tenUnits (leader : ℕ) (rank : Identity.CitizenRole) (unit : Identity.Call ℕ) :
    List (Identity.Input ℕ) :=
  (List.replicate 10 [decree (.updateRole leader rank), signed leader unit]).flatten

/-- Two citizens are registered, and one of them forms ten units of each tier from the same ten of
the tier below, up to a legislative Tumed. -/
def legislature : List (Identity.Input ℕ) :=
  [decree (registration 3 (.ofNat 0)), decree (registration 4 (.ofNat 1)),
      decree (.bootstrapVerifyCreator 3)] ++
    tenUnits 3 .regular (.formArbad [4]) ++
    tenUnits 3 .arbadLeader (.formZun (List.range 9)) ++
    tenUnits 3 .zunLeader (.formMyangad .legislative (List.range 9)) ++
    [decree (.updateRole 3 .myangadLeader), signed 3 (.formTumed (List.range 9))]

end Runtime
