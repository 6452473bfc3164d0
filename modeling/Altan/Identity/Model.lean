import Altan.Foundation.Arithmetic
import Altan.Foundation.BoundedVec
import Altan.Foundation.Currency
import Altan.Foundation.Dispatch
import Altan.Foundation.Scale
import Altan.Foundation.StorageMap

/-!
# The citizens

A citizen is registered by root, or as a minor by the medical authority, and is frozen, exiled and
declared dead under this record. Verified citizens form Arbads, and their leaders the higher tiers
one after the other, each of ten units of the tier below; the delegates of the Khural come from the
legislative branch alone. Citizens marry, take nicknames and claim their citizenship.

## Main definitions

* `Config`, `Context`, `State`: the constants, what a call is dispatched with, and the storage
* `CitizenRecord`, `CitizenStatus`: what is recorded of a citizen
* `doFreezeCitizen`, `doUnfreezeCitizen`, `doDemoteToRegular`, `doExile`: what other modules do
* `Call`, `dispatch`: the dispatchables
-/

open Bounded Dispatch Ledger

namespace Identity

/-- The errors of the module. -/
inductive Error
  | alreadyRegistered
  | notRegistered
  | invalidNationId
  | citizenInactive
  | citizenAlreadyFrozen
  | citizenNotFrozen
  | invalidRank
  | notEnoughMembers
  | nationMismatch
  | duplicateMember
  | arbadNotFound
  | zunNotFound
  | myangadNotFound
  | tumedNotFound
  | khuralNotFound
  | branchMismatch
  | hierarchyLimitExceeded
  | termLimitExceeded
  | verifierNotVerified
  | alreadyVerified
  | documentAlreadyUsed
  | emailAlreadyUsed
  | notMedicalAuthority
  | alreadyDeceased
  | birthHashAlreadyUsed
  | invalidParent
  | cannotUnfreezeDeceased
  | targetNotMinor
  | guardianNotActive
  | arbadCooldownActive
  | notArbadMember
  | oracleRateLimitExceeded
  | alreadyCitizen
  | constitutionHashMismatch
  | notEligibleForMarriage
  | alreadyMarried
  | notMarried
  | cannotMarryFrozenCitizen
  | nicknameTaken
  | nicknameInvalid
  | nicknameNotSet
  | nicknameAlreadySet
  | other (message : String)
  deriving DecidableEq, Repr

/-- The outcome of a function of the module. -/
abbrev Result (α : Type) := Except (DispatchError Error) α

/-- The blocks of a year. -/
def blocksPerYear : ℕ := 5256000

/-- The mandate of the leaders of the lower tiers. -/
def twoYearTerm : ℕ := blocksPerYear * 2

/-- The mandate of the delegates. -/
def fourYearTerm : ℕ := blocksPerYear * 4

/-! ### Records -/

/-- The branches of the state. -/
inductive BranchOfPower
  | executive
  | judicial
  | legislative
  | banking
  deriving DecidableEq, Repr

/-- The rank of a citizen. -/
inductive CitizenRole
  | regular
  | arbadLeader
  | zunLeader
  | myangadLeader
  | tumedLeader
  | president
  | khuralDelegate
  | confederationDelegate
  deriving DecidableEq, Repr

/-- The standing of a citizen. -/
inductive CitizenStatus
  | active
  | frozen
  | minor
  | deceased
  | exiled
  deriving DecidableEq, Repr

/-- The kind of citizenship. -/
inductive CitizenshipStatus
  | indigenous
  | naturalized
  | foreigner
  deriving DecidableEq, Repr

/-- How much of a citizen's share is unlocked. -/
inductive VestingLevel
  | verified
  | arbadMember
  | zunMember
  deriving DecidableEq, Repr

namespace VestingLevel

/-- The place of a level. -/
def rank : VestingLevel → ℕ
  | verified => 0
  | arbadMember => 1
  | zunMember => 2

instance : LT VestingLevel := ⟨fun a b => a.rank < b.rank⟩

instance (a b : VestingLevel) : Decidable (a < b) := inferInstanceAs (Decidable (_ < _))

end VestingLevel

/-- Whether other citizens have vouched for a citizen. -/
inductive VerificationStatus
  | unverified
  | verified
  deriving DecidableEq, Repr

/-- The kind of passport. -/
inductive PassportType
  | internal
  | international
  deriving DecidableEq, Repr

/-- What is recorded of a citizen. -/
structure CitizenRecord where
  citizenId : ℕ
  nationId : ℕ
  naturalizedPeopleId : Option ℕ
  role : CitizenRole
  status : CitizenStatus
  verification : VerificationStatus
  vestingLevel : Option VestingLevel
  branch : Option BranchOfPower
  termEnd : Option ℕ
  khuralTermsServed : ℕ
  isIndigenous : Bool
  citizenshipStatus : CitizenshipStatus
  regionId : Option ℕ
  birthRegionId : Option ℕ
  passportType : PassportType
  documentHash : Bytes32
  birthPageHash : Bytes32
  emailHash : Bytes32
  deriving DecidableEq

/-- The vesting level raised, never lowered. -/
def CitizenRecord.advanceVesting (level : VestingLevel) (r : CitizenRecord) : CitizenRecord :=
  let advance :=
    match r.vestingLevel with
    | none => true
    | some current => decide (current < level)
  if advance then { r with vestingLevel := some level } else r

/-- An Arbad: a leader and up to nine members, or a married couple. -/
structure ArbadRecord (AccountId : Type) where
  leader : AccountId
  members : BoundedVec AccountId 9
  nationId : ℕ
  marriageCredentialHash : Option Bytes32
  deriving DecidableEq

/-- A Zun of ten Arbads. -/
structure ZunRecord (AccountId : Type) where
  leader : AccountId
  arbads : BoundedVec ℕ 10
  nationId : ℕ
  deriving DecidableEq

/-- A Myangad of ten Zuns, of a branch. -/
structure MyangadRecord (AccountId : Type) where
  leader : AccountId
  zuns : BoundedVec ℕ 10
  branch : BranchOfPower
  nationId : ℕ
  deriving DecidableEq

/-- A Tumed of ten Myangads of a branch. -/
structure TumedRecord (AccountId : Type) where
  leader : AccountId
  myangads : BoundedVec ℕ 10
  branch : BranchOfPower
  nationId : ℕ
  deriving DecidableEq

/-- The Khural of a nation. -/
structure KhuralRecord (AccountId : Type) where
  leader : AccountId
  tumeds : BoundedVec ℕ 100
  nationId : ℕ
  deriving DecidableEq

/-- A confederation of Khurals. -/
structure ConfederationRecord (AccountId : Type) where
  leader : AccountId
  khurals : BoundedVec ℕ 86
  deriving DecidableEq

/-! ### Storage -/

/-- The constants of the module, and what the end of a citizen does to the ledger through the
other modules. -/
structure Config (AccountId L : Type) where
  medicalAuthority : AccountId
  marriageFee : ℕ
  civilFeeTreasury : AccountId
  arbadCooldownPeriod : ℕ
  maxRegistrationsPerBlock : ℕ
  constitutionHash : Option Bytes32
  onDeceased : AccountId → L → L
  onExiled : AccountId → L → L

/-- What a call is dispatched with: its origin and the current block. -/
structure Context (AccountId : Type) where
  origin : Origin AccountId
  now : ℕ

/-- The storage of the module, and the ledger it shares. -/
structure State (AccountId L : Type) where
  ledger : L
  citizens : StorageMap AccountId CitizenRecord
  nextCitizenId : ℕ
  usedDocumentHashes : StorageMap Bytes32 Bool
  usedEmailHashes : StorageMap Bytes32 Bool
  arbads : StorageMap ℕ (ArbadRecord AccountId)
  nextArbadId : ℕ
  arbadByLeader : StorageMap AccountId ℕ
  zuns : StorageMap ℕ (ZunRecord AccountId)
  nextZunId : ℕ
  zunByLeader : StorageMap AccountId ℕ
  myangads : StorageMap ℕ (MyangadRecord AccountId)
  nextMyangadId : ℕ
  myangadByLeader : StorageMap AccountId ℕ
  tumeds : StorageMap ℕ (TumedRecord AccountId)
  nextTumedId : ℕ
  tumedByLeader : StorageMap AccountId ℕ
  khurals : StorageMap ℕ (KhuralRecord AccountId)
  nextKhuralId : ℕ
  khuralByLeader : StorageMap AccountId ℕ
  confederations : StorageMap ℕ (ConfederationRecord AccountId)
  nextConfederationId : ℕ
  confederationByLeader : StorageMap AccountId ℕ
  parentalLinks : StorageMap AccountId (AccountId × Option AccountId)
  usedBirthHashes : StorageMap Bytes32 Bool
  deathRecords : StorageMap AccountId Bytes32
  guardianOf : StorageMap AccountId AccountId
  lastArbadLeave : StorageMap AccountId ℕ
  oracleCallsThisBlock : ℕ × ℕ
  nicknameOf : StorageMap AccountId (BoundedVec UInt8 24)
  accountByNickname : StorageMap (BoundedVec UInt8 24) AccountId
  marriages : StorageMap AccountId AccountId

variable {AccountId L : Type}

/-- The storage before any call. -/
def genesis (ledger : L) : State AccountId L where
  ledger := ledger
  citizens := ∅
  nextCitizenId := 0
  usedDocumentHashes := ∅
  usedEmailHashes := ∅
  arbads := ∅
  nextArbadId := 0
  arbadByLeader := ∅
  zuns := ∅
  nextZunId := 0
  zunByLeader := ∅
  myangads := ∅
  nextMyangadId := 0
  myangadByLeader := ∅
  tumeds := ∅
  nextTumedId := 0
  tumedByLeader := ∅
  khurals := ∅
  nextKhuralId := 0
  khuralByLeader := ∅
  confederations := ∅
  nextConfederationId := 0
  confederationByLeader := ∅
  parentalLinks := ∅
  usedBirthHashes := ∅
  deathRecords := ∅
  guardianOf := ∅
  lastArbadLeave := ∅
  oracleCallsThisBlock := (0, 0)
  nicknameOf := ∅
  accountByNickname := ∅
  marriages := ∅

/-- A nation of the confederation. -/
def IsNation (nationId : ℕ) : Prop := 1 ≤ nationId ∧ nationId ≤ 79

instance (nationId : ℕ) : Decidable (IsNation nationId) := inferInstanceAs (Decidable (_ ∧ _))

/-- A region by its code. -/
def IsRegion (regionId : ℕ) : Prop := 1 ≤ regionId ∧ regionId ≤ 83

instance (regionId : ℕ) : Decidable (IsRegion regionId) := inferInstanceAs (Decidable (_ ∧ _))

/-- A byte of a nickname: a letter, a digit, a dash or an underscore. -/
def IsNicknameByte (byte : UInt8) : Prop :=
  48 ≤ byte ∧ byte ≤ 57 ∨ 65 ≤ byte ∧ byte ≤ 90 ∨ 97 ≤ byte ∧ byte ≤ 122 ∨ byte = 95 ∨ byte = 45

instance (byte : UInt8) : Decidable (IsNicknameByte byte) := inferInstanceAs (Decidable (_ ∨ _))

/-- A list of units without repetition, each checked before it is added. -/
def gather (check : ℕ → Result Unit) : List ℕ → List ℕ → Result (List ℕ)
  | all, [] => .ok all
  | all, id :: ids => do
    ensure (id ∉ all) (.module .duplicateMember)
    check id
    gather check (all ++ [id]) ids

/-- Fail unless the constitution that is accepted is the one in force. -/
def ensureConstitution (cfg : Config AccountId L) (accepted : Bytes32) : Result Unit :=
  match cfg.constitutionHash with
  | some canonical => ensure (accepted = canonical) (.module .constitutionHashMismatch)
  | none => .ok ()

/-- Count a call of the medical authority in this block. -/
def checkAndIncrementOracleRate (cfg : Config AccountId L) (now : ℕ) (s : State AccountId L) :
    Result (State AccountId L) := do
  let (storedBlock, count) := s.oracleCallsThisBlock
  if storedBlock = now then
    ensure (count < cfg.maxRegistrationsPerBlock) (.module .oracleRateLimitExceeded)
    return { s with oracleCallsThisBlock := (storedBlock, saturatingAdd u32Max count 1) }
  else
    return { s with oracleCallsThisBlock := (now, 1) }

variable [DecidableEq AccountId]

/-- The record of a registered citizen. -/
def citizen (s : State AccountId L) (who : AccountId) : Result CitizenRecord :=
  required (s.citizens.get who) (.module .notRegistered)

/-! ### Registration -/

/-- Register a citizen, as root. -/
def registerCitizen (ctx : Context AccountId) (target : AccountId) (nationId : ℕ)
    (role : CitizenRole) (isIndigenous : Bool) (regionId birthRegionId : Option ℕ)
    (passportType : PassportType) (documentHash birthPageHash emailHash : Bytes32)
    (s : State AccountId L) : Result (State AccountId L) := do
  ensureRoot ctx.origin
  ensure (s.citizens.containsKey target = false) (.module .alreadyRegistered)
  ensure (IsNation nationId) (.module .invalidNationId)
  ensure (∀ rid ∈ regionId, IsRegion rid) (.module .invalidNationId)
  ensure (∀ brid ∈ birthRegionId, IsRegion brid) (.module .invalidNationId)
  ensure (s.usedDocumentHashes.getD documentHash false = false) (.module .documentAlreadyUsed)
  ensure (s.usedEmailHashes.getD emailHash false = false) (.module .emailAlreadyUsed)
  let citizenId := saturatingAdd u64Max s.nextCitizenId 1
  return { s with
    nextCitizenId := citizenId
    usedDocumentHashes := s.usedDocumentHashes.insert documentHash true
    usedEmailHashes := s.usedEmailHashes.insert emailHash true
    citizens := s.citizens.insert target
      { citizenId := citizenId
        nationId := nationId
        naturalizedPeopleId := if isIndigenous then none else some nationId
        role := role
        status := .active
        verification := .unverified
        vestingLevel := none
        branch := none
        termEnd := none
        khuralTermsServed := 0
        isIndigenous := isIndigenous
        citizenshipStatus := if isIndigenous then .indigenous else .foreigner
        regionId := regionId
        birthRegionId := birthRegionId
        passportType := passportType
        documentHash := documentHash
        birthPageHash := birthPageHash
        emailHash := emailHash } }

/-- Vouch for a citizen, as one who is verified. -/
def verifyCitizen (ctx : Context AccountId) (newCitizen : AccountId) (s : State AccountId L) :
    Result (State AccountId L) := do
  let verifier ← ensureSigned ctx.origin
  let verifierRec ← citizen s verifier
  ensure (verifierRec.status = .active) (.module .citizenInactive)
  ensure (verifierRec.verification = .verified) (.module .verifierNotVerified)
  let newRec ← citizen s newCitizen
  ensure (newRec.status = .active) (.module .citizenInactive)
  ensure (newRec.verification = .unverified) (.module .alreadyVerified)
  return { s with
    citizens := s.citizens.insert newCitizen
      { newRec with
        verification := .verified
        vestingLevel := some .verified } }

/-- Verify the first citizen, as root. -/
def bootstrapVerifyCreator (ctx : Context AccountId) (creator : AccountId)
    (s : State AccountId L) : Result (State AccountId L) := do
  ensureRoot ctx.origin
  let r ← citizen s creator
  ensure (r.verification = .unverified) (.module .alreadyVerified)
  return { s with
    citizens := s.citizens.insert creator
      { r with
        verification := .verified
        vestingLevel := some .verified } }

/-- Set the rank of a citizen, as root. -/
def updateRole (ctx : Context AccountId) (target : AccountId) (newRole : CitizenRole)
    (s : State AccountId L) : Result (State AccountId L) := do
  ensureRoot ctx.origin
  let r ← citizen s target
  return { s with citizens := s.citizens.insert target { r with role := newRole } }

/-- Freeze a citizen, as root. -/
def freezeCitizen (ctx : Context AccountId) (target : AccountId) (s : State AccountId L) :
    Result (State AccountId L) := do
  ensureRoot ctx.origin
  let r ← citizen s target
  ensure (r.status = .active) (.module .citizenAlreadyFrozen)
  return { s with citizens := s.citizens.insert target { r with status := .frozen } }

/-- Give a frozen citizen back, as root. -/
def unfreezeCitizen (ctx : Context AccountId) (target : AccountId) (s : State AccountId L) :
    Result (State AccountId L) := do
  ensureRoot ctx.origin
  let r ← citizen s target
  ensure (r.status ≠ .deceased) (.module .cannotUnfreezeDeceased)
  ensure (r.status = .frozen) (.module .citizenNotFrozen)
  return { s with citizens := s.citizens.insert target { r with status := .active } }

/-- Fail unless root or the medical authority registers a birth; count its calls. -/
def ensureBirthOrigin (cfg : Config AccountId L) (ctx : Context AccountId)
    (s : State AccountId L) : Result (State AccountId L) :=
  if ctx.origin = .root then
    .ok s
  else do
    let caller ← ensureSigned ctx.origin
    ensure (caller = cfg.medicalAuthority) (.module .notMedicalAuthority)
    checkAndIncrementOracleRate cfg ctx.now s

/-- Register a newborn as a minor. -/
def registerBirth (cfg : Config AccountId L) (ctx : Context AccountId) (child parent1 : AccountId)
    (parent2 : Option AccountId) (childHash : Bytes32) (birthRegionId : ℕ)
    (s : State AccountId L) : Result (State AccountId L) := do
  let s ← ensureBirthOrigin cfg ctx s
  ensure (IsRegion birthRegionId) (.module .invalidNationId)
  ensure (s.usedBirthHashes.getD childHash false = false) (.module .birthHashAlreadyUsed)
  ensure (s.citizens.containsKey child = false) (.module .alreadyRegistered)
  let parentRec ← required (s.citizens.get parent1) (.module .invalidParent)
  ensure (parentRec.status ≠ .deceased) (.module .alreadyDeceased)
  let childId := s.nextCitizenId
  return { s with
    citizens := s.citizens.insert child
      { citizenId := childId
        nationId := parentRec.nationId
        naturalizedPeopleId := none
        role := .regular
        status := .minor
        verification := .unverified
        vestingLevel := none
        branch := none
        termEnd := none
        khuralTermsServed := 0
        isIndigenous := false
        citizenshipStatus := .foreigner
        regionId := some birthRegionId
        birthRegionId := some birthRegionId
        passportType := .internal
        documentHash := childHash
        birthPageHash := Vector.replicate 32 0
        emailHash := Vector.replicate 32 0 }
    nextCitizenId := saturatingAdd u64Max childId 1
    parentalLinks := s.parentalLinks.insert child (parent1, parent2)
    usedBirthHashes := s.usedBirthHashes.insert childHash true }

/-- Fail unless root or the medical authority registers a death. -/
def ensureDeathOrigin (cfg : Config AccountId L) (ctx : Context AccountId) : Result Unit :=
  if ctx.origin = .root then
    .ok ()
  else do
    let caller ← ensureSigned ctx.origin
    ensure (caller = cfg.medicalAuthority) (.module .notMedicalAuthority)

/-- The ledger with all of a free balance reserved, as far as it can be. -/
def reserveAll [Currency AccountId L] [ReservableCurrency AccountId L] (ledger : L)
    (who : AccountId) : L :=
  let freeBalance := freeBalance ledger who
  if 0 < freeBalance then
    match ReservableCurrency.reserve ledger who freeBalance with
    | .ok ledger => ledger
    | .error _ => ledger
  else ledger

/-- Register the death of a citizen. -/
def registerDeath [Currency AccountId L] [ReservableCurrency AccountId L]
    (cfg : Config AccountId L) (ctx : Context AccountId) (target : AccountId)
    (deathCredentialHash : Bytes32) (s : State AccountId L) : Result (State AccountId L) := do
  ensureDeathOrigin cfg ctx
  let r ← citizen s target
  ensure (r.status ≠ .deceased) (.module .alreadyDeceased)
  return { s with
    citizens := s.citizens.insert target
      { r with
        status := .deceased
        role := .regular
        termEnd := none
        branch := none }
    deathRecords := s.deathRecords.insert target deathCredentialHash
    ledger := cfg.onDeceased target (reserveAll s.ledger target) }

/-- Name the guardian of a minor, as root or the medical authority. -/
def assignGuardian (cfg : Config AccountId L) (ctx : Context AccountId)
    (minorTarget newGuardian : AccountId) (s : State AccountId L) :
    Result (State AccountId L) := do
  ensure (ctx.origin = .signed cfg.medicalAuthority ∨ ctx.origin = .root)
    (.module .notMedicalAuthority)
  let minorRec ← citizen s minorTarget
  ensure (minorRec.status = .minor) (.module .targetNotMinor)
  let guardianRec ← citizen s newGuardian
  ensure (guardianRec.status = .active) (.module .guardianNotActive)
  return { s with guardianOf := s.guardianOf.insert minorTarget newGuardian }

/-! ### The tiers -/

/-- Fail unless all are regular citizens of a nation, different from each other and from the
caller, who have not left an Arbad recently. -/
def ensureMembers (cfg : Config AccountId L) (now : ℕ) (caller : AccountId) (nationId : ℕ)
    (s : State AccountId L) : List AccountId → List AccountId → Result Unit
  | _, [] => .ok ()
  | seen, m :: members => do
    ensure (m ≠ caller) (.module .duplicateMember)
    ensure (m ∉ seen) (.module .duplicateMember)
    let mr ← citizen s m
    ensure (mr.status = .active) (.module .citizenInactive)
    ensure (mr.role = .regular) (.module .invalidRank)
    ensure (mr.nationId = nationId) (.module .nationMismatch)
    ensure (∀ lastLeave ∈ s.lastArbadLeave.get m,
      saturatingAdd u32Max lastLeave cfg.arbadCooldownPeriod ≤ now) (.module .arbadCooldownActive)
    ensureMembers cfg now caller nationId s (seen ++ [m]) members

/-- A citizen in office until the end of a term. -/
def CitizenRecord.inOffice (role : CitizenRole) (now term : ℕ) (r : CitizenRecord) :
    CitizenRecord :=
  { r with
    role := role
    termEnd := some (saturatingAdd u32Max now term) }

/-- The storage with a new Arbad. -/
def insertArbad (arbad : ArbadRecord AccountId) (s : State AccountId L) : State AccountId L :=
  let id := s.nextArbadId
  { s with
    arbads := s.arbads.insert id arbad
    arbadByLeader := s.arbadByLeader.insert arbad.leader id
    nextArbadId := saturatingAdd u32Max id 1 }

/-- Form an Arbad with other citizens. -/
def formArbad (cfg : Config AccountId L) (ctx : Context AccountId) (members : List AccountId)
    (s : State AccountId L) : Result (State AccountId L) := do
  let caller ← ensureSigned ctx.origin
  let r ← citizen s caller
  ensure (r.status = .active) (.module .citizenInactive)
  ensure (r.role = .regular) (.module .invalidRank)
  ensure (r.verification = .verified) (.module .verifierNotVerified)
  let nationId := r.nationId
  ensure (members ≠ [] ∧ members.length ≤ 9) (.module .notEnoughMembers)
  ensureMembers cfg ctx.now caller nationId s [] members
  let led := s.citizens.modify caller fun r =>
    (r.inOffice .arbadLeader ctx.now twoYearTerm).advanceVesting .arbadMember
  let citizens := members.foldl (fun citizens m =>
    citizens.modify m (CitizenRecord.advanceVesting .arbadMember)) led
  let bounded ← required (BoundedVec.tryFrom 9 members) (.module .notEnoughMembers)
  return insertArbad
    { leader := caller
      members := bounded
      nationId := nationId
      marriageCredentialHash := none }
    { s with citizens := citizens }

/-- Form the Arbad of a married couple, of which one is the head. -/
def formFamilyArbad (ctx : Context AccountId) (spouse head : AccountId)
    (marriageCredentialHash : Option Bytes32) (s : State AccountId L) :
    Result (State AccountId L) := do
  let caller ← ensureSigned ctx.origin
  ensure (caller ≠ spouse) (.module .duplicateMember)
  ensure (head = caller ∨ head = spouse) (.module .invalidRank)
  let callerRec ← citizen s caller
  ensure (callerRec.status = .active) (.module .citizenInactive)
  ensure (callerRec.role = .regular) (.module .invalidRank)
  ensure (callerRec.verification = .verified) (.module .verifierNotVerified)
  let nationId := callerRec.nationId
  let spouseRec ← citizen s spouse
  ensure (spouseRec.status = .active) (.module .citizenInactive)
  ensure (spouseRec.role = .regular) (.module .invalidRank)
  ensure (spouseRec.nationId = nationId) (.module .nationMismatch)
  let leader := if head = caller then caller else spouse
  let nonLeader := if head = caller then spouse else caller
  let led := s.citizens.modify leader fun r =>
    (r.inOffice .arbadLeader ctx.now twoYearTerm).advanceVesting .arbadMember
  let citizens := led.modify nonLeader (CitizenRecord.advanceVesting .arbadMember)
  let bounded ← required (BoundedVec.tryFrom 9 [nonLeader]) (.module .notEnoughMembers)
  return insertArbad
    { leader := leader
      members := bounded
      nationId := nationId
      marriageCredentialHash := marriageCredentialHash }
    { s with citizens := citizens }

/-- Form a Zun of the caller's Arbad and nine others. -/
def formZun (ctx : Context AccountId) (otherArbadIds : List ℕ) (s : State AccountId L) :
    Result (State AccountId L) := do
  let caller ← ensureSigned ctx.origin
  let r ← citizen s caller
  ensure (r.status = .active) (.module .citizenInactive)
  ensure (r.role = .arbadLeader) (.module .invalidRank)
  let myId ← required (s.arbadByLeader.get caller) (.module .arbadNotFound)
  let myArbad ← required (s.arbads.get myId) (.module .arbadNotFound)
  let nationId := myArbad.nationId
  ensure (otherArbadIds.length = 9) (.module .notEnoughMembers)
  let all ← gather (fun id => do
    let a ← required (s.arbads.get id) (.module .arbadNotFound)
    ensure (a.nationId = nationId) (.module .nationMismatch)) [myId] otherArbadIds
  let bounded ← required (BoundedVec.tryFrom 10 all) (.module .notEnoughMembers)
  let id := s.nextZunId
  return { s with
    citizens := s.citizens.modify caller fun r =>
      (r.inOffice .zunLeader ctx.now twoYearTerm).advanceVesting .zunMember
    zuns := s.zuns.insert id
      { leader := caller
        arbads := bounded
        nationId := nationId }
    zunByLeader := s.zunByLeader.insert caller id
    nextZunId := saturatingAdd u32Max id 1 }

/-- Form a Myangad of a branch of the caller's Zun and nine others. -/
def formMyangad (ctx : Context AccountId) (branch : BranchOfPower) (otherZunIds : List ℕ)
    (s : State AccountId L) : Result (State AccountId L) := do
  let caller ← ensureSigned ctx.origin
  let r ← citizen s caller
  ensure (r.status = .active) (.module .citizenInactive)
  ensure (r.role = .zunLeader) (.module .invalidRank)
  let myId ← required (s.zunByLeader.get caller) (.module .zunNotFound)
  let myZun ← required (s.zuns.get myId) (.module .zunNotFound)
  let nationId := myZun.nationId
  ensure (otherZunIds.length = 9) (.module .notEnoughMembers)
  let all ← gather (fun id => do
    let z ← required (s.zuns.get id) (.module .zunNotFound)
    ensure (z.nationId = nationId) (.module .nationMismatch)) [myId] otherZunIds
  let bounded ← required (BoundedVec.tryFrom 10 all) (.module .notEnoughMembers)
  let id := s.nextMyangadId
  return { s with
    citizens := s.citizens.modify caller fun r =>
      { r.inOffice .myangadLeader ctx.now twoYearTerm with branch := some branch }
    myangads := s.myangads.insert id
      { leader := caller
        zuns := bounded
        branch := branch
        nationId := nationId }
    myangadByLeader := s.myangadByLeader.insert caller id
    nextMyangadId := saturatingAdd u32Max id 1 }

/-- Form a Tumed of the caller's Myangad and nine others of its branch. -/
def formTumed (ctx : Context AccountId) (otherMyangadIds : List ℕ) (s : State AccountId L) :
    Result (State AccountId L) := do
  let caller ← ensureSigned ctx.origin
  let r ← citizen s caller
  ensure (r.status = .active) (.module .citizenInactive)
  ensure (r.role = .myangadLeader) (.module .invalidRank)
  let myId ← required (s.myangadByLeader.get caller) (.module .myangadNotFound)
  let myMyangad ← required (s.myangads.get myId) (.module .myangadNotFound)
  let nationId := myMyangad.nationId
  let inheritedBranch := myMyangad.branch
  ensure (otherMyangadIds.length = 9) (.module .notEnoughMembers)
  let all ← gather (fun id => do
    let m ← required (s.myangads.get id) (.module .myangadNotFound)
    ensure (m.nationId = nationId) (.module .nationMismatch)
    ensure (m.branch = inheritedBranch) (.module .branchMismatch)) [myId] otherMyangadIds
  let bounded ← required (BoundedVec.tryFrom 10 all) (.module .notEnoughMembers)
  let id := s.nextTumedId
  return { s with
    citizens := s.citizens.modify caller fun r =>
      { r.inOffice .tumedLeader ctx.now twoYearTerm with branch := some inheritedBranch }
    tumeds := s.tumeds.insert id
      { leader := caller
        myangads := bounded
        branch := inheritedBranch
        nationId := nationId }
    tumedByLeader := s.tumedByLeader.insert caller id
    nextTumedId := saturatingAdd u32Max id 1 }

/-- Form the Khural of a nation of legislative Tumeds. -/
def formKhural (ctx : Context AccountId) (tumedIds : List ℕ) (s : State AccountId L) :
    Result (State AccountId L) := do
  let caller ← ensureSigned ctx.origin
  let r ← citizen s caller
  ensure (r.status = .active) (.module .citizenInactive)
  ensure (r.role = .tumedLeader) (.module .invalidRank)
  ensure (tumedIds ≠ []) (.module .notEnoughMembers)
  let first ← required (tumedIds.head?.bind s.tumeds.get) (.module .tumedNotFound)
  let nationId := first.nationId
  let _ ← gather (fun id => do
    let tumed ← required (s.tumeds.get id) (.module .tumedNotFound)
    ensure (tumed.branch = .legislative) (.module .hierarchyLimitExceeded)
    ensure (tumed.nationId = nationId) (.module .nationMismatch)) [] tumedIds
  ensure (r.khuralTermsServed < 2) (.module .termLimitExceeded)
  let bounded ← required (BoundedVec.tryFrom 100 tumedIds) (.module .notEnoughMembers)
  let id := s.nextKhuralId
  return { s with
    citizens := s.citizens.insert caller
      { r.inOffice .khuralDelegate ctx.now fourYearTerm with
        khuralTermsServed := saturatingAdd 255 r.khuralTermsServed 1 }
    khurals := s.khurals.insert id
      { leader := caller
        tumeds := bounded
        nationId := nationId }
    khuralByLeader := s.khuralByLeader.insert caller id
    nextKhuralId := saturatingAdd u32Max id 1 }

/-- Form a confederation of Khurals. -/
def formConfederation (ctx : Context AccountId) (khuralIds : List ℕ) (s : State AccountId L) :
    Result (State AccountId L) := do
  let caller ← ensureSigned ctx.origin
  let r ← citizen s caller
  ensure (r.status = .active) (.module .citizenInactive)
  ensure (r.role = .khuralDelegate) (.module .invalidRank)
  ensure (khuralIds ≠ []) (.module .notEnoughMembers)
  let _ ← gather (fun id =>
    ensure (s.khurals.containsKey id = true) (.module .khuralNotFound)) [] khuralIds
  ensure (r.khuralTermsServed < 2) (.module .termLimitExceeded)
  let bounded ← required (BoundedVec.tryFrom 86 khuralIds) (.module .notEnoughMembers)
  let id := s.nextConfederationId
  return { s with
    citizens := s.citizens.insert caller
      { r.inOffice .confederationDelegate ctx.now fourYearTerm with
        khuralTermsServed := saturatingAdd 255 r.khuralTermsServed 1 }
    confederations := s.confederations.insert id
      { leader := caller
        khurals := bounded }
    confederationByLeader := s.confederationByLeader.insert caller id
    nextConfederationId := saturatingAdd u32Max id 1 }

/-- Leave an Arbad as a member. -/
def leaveArbad (ctx : Context AccountId) (arbadId : ℕ) (s : State AccountId L) :
    Result (State AccountId L) := do
  let caller ← ensureSigned ctx.origin
  let callerRec ← citizen s caller
  ensure (callerRec.status = .active) (.module .citizenInactive)
  let arbad ← required (s.arbads.get arbadId) (.module .arbadNotFound)
  ensure (arbad.leader ≠ caller) (.module .invalidRank)
  let position ← required (arbad.members.val.idxOf? caller) (.module .notArbadMember)
  return { s with
    arbads := s.arbads.insert arbadId { arbad with members := arbad.members.swapRemove position }
    lastArbadLeave := s.lastArbadLeave.insert caller ctx.now }

/-! ### Citizenship, marriages and nicknames -/

/-- Make a citizen an indigenous one, as root. -/
def claimRepatriation (cfg : Config AccountId L) (ctx : Context AccountId) (who : AccountId)
    (acceptedConstitutionHash : Bytes32) (s : State AccountId L) : Result (State AccountId L) := do
  ensureRoot ctx.origin
  ensureConstitution cfg acceptedConstitutionHash
  let r ← citizen s who
  ensure (r.status = .active) (.module .citizenInactive)
  return { s with
    citizens := s.citizens.insert who
      { r with
        citizenshipStatus := .indigenous
        isIndigenous := true } }

/-- Claim citizenship by accepting the constitution. -/
def claimBirthright (cfg : Config AccountId L) (ctx : Context AccountId)
    (acceptedConstitutionHash : Bytes32) (s : State AccountId L) : Result (State AccountId L) := do
  let caller ← ensureSigned ctx.origin
  ensureConstitution cfg acceptedConstitutionHash
  let r ← citizen s caller
  ensure (r.status = .active) (.module .citizenInactive)
  ensure (r.citizenshipStatus = .foreigner) (.module .alreadyCitizen)
  return { s with
    citizens := s.citizens.insert caller { r with citizenshipStatus := .naturalized } }

/-- Marry another citizen; both pay the fee. -/
def registerMarriage [Currency AccountId L] (cfg : Config AccountId L) (ctx : Context AccountId)
    (partnerB : AccountId) (s : State AccountId L) : Result (State AccountId L) := do
  let partnerA ← ensureSigned ctx.origin
  ensure (partnerA ≠ partnerB) (.module .duplicateMember)
  let recA ← citizen s partnerA
  ensure (recA.status = .active) (.module .cannotMarryFrozenCitizen)
  let recB ← required (s.citizens.get partnerB) (.module .notEligibleForMarriage)
  ensure (recB.status = .active) (.module .cannotMarryFrozenCitizen)
  ensure (s.marriages.containsKey partnerA = false) (.module .alreadyMarried)
  ensure (s.marriages.containsKey partnerB = false) (.module .alreadyMarried)
  let ledger ← liftCurrency
    (Currency.transfer s.ledger partnerA cfg.civilFeeTreasury cfg.marriageFee .keepAlive)
  let ledger ← liftCurrency
    (Currency.transfer ledger partnerB cfg.civilFeeTreasury cfg.marriageFee .keepAlive)
  return { s with
    ledger := ledger
    marriages := (s.marriages.insert partnerA partnerB).insert partnerB partnerA }

/-- Divorce. -/
def registerDivorce (ctx : Context AccountId) (s : State AccountId L) :
    Result (State AccountId L) := do
  let caller ← ensureSigned ctx.origin
  let spouse ← required (s.marriages.get caller) (.module .notMarried)
  ensure (s.citizens.containsKey caller = true) (.module .notRegistered)
  return { s with marriages := (s.marriages.remove caller).remove spouse }

/-- Take a nickname. -/
def registerNickname (ctx : Context AccountId) (name : BoundedVec UInt8 24)
    (s : State AccountId L) : Result (State AccountId L) := do
  let caller ← ensureSigned ctx.origin
  let r ← citizen s caller
  ensure (r.status = .active) (.module .citizenInactive)
  ensure (s.nicknameOf.containsKey caller = false) (.module .nicknameAlreadySet)
  ensure (3 ≤ name.val.length) (.module .nicknameInvalid)
  ensure (name.val.all (fun byte => decide (IsNicknameByte byte)) = true) (.module .nicknameInvalid)
  ensure (s.accountByNickname.containsKey name = false) (.module .nicknameTaken)
  return { s with
    nicknameOf := s.nicknameOf.insert caller name
    accountByNickname := s.accountByNickname.insert name caller }

/-- Give a nickname up. -/
def clearNickname (ctx : Context AccountId) (s : State AccountId L) :
    Result (State AccountId L) := do
  let caller ← ensureSigned ctx.origin
  let name ← required (s.nicknameOf.get caller) (.module .nicknameNotSet)
  return { s with
    nicknameOf := s.nicknameOf.remove caller
    accountByNickname := s.accountByNickname.remove name }

/-! ### What other modules do to citizens -/

/-- The record of a citizen, for another module. -/
def bridged (s : State AccountId L) (who : AccountId) : Result CitizenRecord :=
  required (s.citizens.get who) (.module (.other "IdentityBridge: not registered"))

/-- Freeze a citizen. -/
def doFreezeCitizen (who : AccountId) (s : State AccountId L) : Result (State AccountId L) := do
  let r ← bridged s who
  return { s with citizens := s.citizens.insert who { r with status := .frozen } }

/-- Make a citizen active, unless deceased. -/
def doUnfreezeCitizen (who : AccountId) (s : State AccountId L) : Result (State AccountId L) := do
  let r ← bridged s who
  ensure (r.status ≠ .deceased)
    (.module (.other "IdentityBridge: cannot unfreeze a deceased citizen"))
  return { s with citizens := s.citizens.insert who { r with status := .active } }

/-- Take a citizen's rank and mandate. -/
def doDemoteToRegular (who : AccountId) (s : State AccountId L) : Result (State AccountId L) := do
  let r ← bridged s who
  return { s with
    citizens := s.citizens.insert who
      { r with
        role := .regular
        termEnd := none } }

/-- Exile a citizen who is alive and not exiled yet. -/
def doExile (cfg : Config AccountId L) (who : AccountId) (s : State AccountId L) :
    Result (State AccountId L) := do
  let r ← bridged s who
  ensure (r.status ≠ .exiled ∧ r.status ≠ .deceased)
    (.module (.other "IdentityBridge: citizen already in terminal state"))
  return { s with
    citizens := s.citizens.insert who
      { r with
        status := .exiled
        role := .regular
        termEnd := none }
    ledger := cfg.onExiled who s.ledger }

/-! ### Dispatch -/

/-- The dispatchables with their arguments. -/
inductive Call (AccountId : Type)
  | registerCitizen (target : AccountId) (nationId : ℕ) (role : CitizenRole) (isIndigenous : Bool)
    (regionId birthRegionId : Option ℕ) (passportType : PassportType)
    (documentHash birthPageHash emailHash : Bytes32)
  | verifyCitizen (newCitizen : AccountId)
  | bootstrapVerifyCreator (creator : AccountId)
  | updateRole (target : AccountId) (newRole : CitizenRole)
  | freezeCitizen (target : AccountId)
  | unfreezeCitizen (target : AccountId)
  | formArbad (members : List AccountId)
  | formFamilyArbad (spouse head : AccountId) (marriageCredentialHash : Option Bytes32)
  | registerBirth (child parent1 : AccountId) (parent2 : Option AccountId) (childHash : Bytes32)
    (birthRegionId : ℕ)
  | registerDeath (target : AccountId) (deathCredentialHash : Bytes32)
  | formZun (otherArbadIds : List ℕ)
  | formMyangad (branch : BranchOfPower) (otherZunIds : List ℕ)
  | formTumed (otherMyangadIds : List ℕ)
  | formKhural (tumedIds : List ℕ)
  | formConfederation (khuralIds : List ℕ)
  | assignGuardian (minorTarget newGuardian : AccountId)
  | leaveArbad (arbadId : ℕ)
  | claimRepatriation (who : AccountId) (acceptedConstitutionHash : Bytes32)
  | claimBirthright (acceptedConstitutionHash : Bytes32)
  | registerMarriage (partnerB : AccountId)
  | registerDivorce
  | registerNickname (name : BoundedVec UInt8 24)
  | clearNickname
  deriving DecidableEq

/-- Dispatch a call. -/
def dispatch [Currency AccountId L] [ReservableCurrency AccountId L] (cfg : Config AccountId L)
    (ctx : Context AccountId) : Call AccountId → State AccountId L → Result (State AccountId L)
  | .registerCitizen target nationId role isIndigenous regionId birthRegionId passportType
      documentHash birthPageHash emailHash =>
    registerCitizen ctx target nationId role isIndigenous regionId birthRegionId passportType
      documentHash birthPageHash emailHash
  | .verifyCitizen newCitizen => verifyCitizen ctx newCitizen
  | .bootstrapVerifyCreator creator => bootstrapVerifyCreator ctx creator
  | .updateRole target newRole => updateRole ctx target newRole
  | .freezeCitizen target => freezeCitizen ctx target
  | .unfreezeCitizen target => unfreezeCitizen ctx target
  | .formArbad members => formArbad cfg ctx members
  | .formFamilyArbad spouse head marriageCredentialHash =>
    formFamilyArbad ctx spouse head marriageCredentialHash
  | .registerBirth child parent1 parent2 childHash birthRegionId =>
    registerBirth cfg ctx child parent1 parent2 childHash birthRegionId
  | .registerDeath target deathCredentialHash => registerDeath cfg ctx target deathCredentialHash
  | .formZun otherArbadIds => formZun ctx otherArbadIds
  | .formMyangad branch otherZunIds => formMyangad ctx branch otherZunIds
  | .formTumed otherMyangadIds => formTumed ctx otherMyangadIds
  | .formKhural tumedIds => formKhural ctx tumedIds
  | .formConfederation khuralIds => formConfederation ctx khuralIds
  | .assignGuardian minorTarget newGuardian => assignGuardian cfg ctx minorTarget newGuardian
  | .leaveArbad arbadId => leaveArbad ctx arbadId
  | .claimRepatriation who acceptedConstitutionHash =>
    claimRepatriation cfg ctx who acceptedConstitutionHash
  | .claimBirthright acceptedConstitutionHash => claimBirthright cfg ctx acceptedConstitutionHash
  | .registerMarriage partnerB => registerMarriage cfg ctx partnerB
  | .registerDivorce => registerDivorce ctx
  | .registerNickname name => registerNickname ctx name
  | .clearNickname => clearNickname ctx

end Identity
