import Altan.Constitution.Model
import Altan.Foundation.Fungible
import Altan.Identity.Status

/-!
# The courts

Anybody opens a case against a registered citizen, who is frozen and given a timer of 7200 blocks.
The judges issue a verdict, which resolves the timer: who is acquitted is released, and a guilty
verdict is executed by anybody. The sentence is a penalty and a release or, for hate crimes, all of
the balance, exile and an entry in the registry of shame. An informant receives a fifth.

## Main definitions

* `CourtCase`, `CaseStatus`, `CrimeCategory`: what is recorded of a case
* `State`: the storage, with the constitution and the citizens behind their bridges
* `openCase`, `issueVerdict`, `executeVerdict`, `declareUsurper`: the dispatchables
* `defendantHasVerdict`: what the constitution asks of the courts
* `onInitialize`: the start of a block
-/

open Bounded Dispatch Ledger

namespace JudicialCourts

/-- The errors of the module, and those it passes on from the constitution. -/
inductive Error
  | caseNotFound
  | caseNotGuilty
  | caseAlreadyClosed
  | caseNotOpen
  | defendantNotRegistered
  | penaltyOverflow
  | treasuryTransferFailed
  | whistleblowerTransferFailed
  | insufficientBalance
  | alreadyInRegistryOfShame
  | constitution (e : Constitution.Error)
  deriving DecidableEq, Repr

/-- The outcome of a function of the module. -/
abbrev Result (α : Type) := Except (DispatchError Error) α

/-- How long a defendant may be held before a verdict. -/
def habeasCorpusDeadlineBlocks : ℕ := 7200

/-- The stages of a case. -/
inductive CaseStatus
  | open
  | deliberating
  | guilty
  | acquitted
  | executed
  deriving DecidableEq, Repr

/-- The kinds of crimes. -/
inductive CrimeCategory
  | economic
  | usurpation
  | hateCrimeAndFascism
  deriving DecidableEq, Repr

/-- A case. -/
structure CourtCase (AccountId : Type) where
  plaintiff : AccountId
  defendant : AccountId
  whistleblower : Option AccountId
  evidenceHash : Bytes32
  verdictHash : Option Bytes32
  penaltyAmount : ℕ
  status : CaseStatus
  crimeCategory : Option CrimeCategory
  deriving DecidableEq

/-- An entry in the registry of shame. -/
structure ShameRecord where
  caseId : ℕ
  evidenceHash : Bytes32
  executedAtBlock : ℕ
  deriving DecidableEq

/-- The constants of the module, and the origins its privileged calls ask for. -/
structure Config (AccountId L : Type) where
  treasury : AccountId
  judgesCollectiveOrigin : Origin AccountId → Bool
  usurpationOrigin : Origin AccountId → Bool
  identity : Identity.Config AccountId L

/-- What a call is dispatched with: its origin and the current block. -/
structure Context (AccountId : Type) where
  origin : Origin AccountId
  now : ℕ

/-- The storage of the module, and what it reaches through its bridges. -/
structure State (AccountId L : Type) where
  courtCases : StorageMap ℕ (CourtCase AccountId)
  nextCaseId : ℕ
  martialLawActive : Bool
  registryOfShame : StorageMap AccountId ShameRecord
  constitution : Constitution.State AccountId
  identity : Identity.State AccountId L

variable {AccountId L : Type}

/-- The storage before any call. -/
def genesis (identity : Identity.State AccountId L) : State AccountId L where
  courtCases := ∅
  nextCaseId := 0
  martialLawActive := false
  registryOfShame := ∅
  constitution := Constitution.genesis
  identity := identity

/-- Fail unless the origin is one of those asked for. -/
def ensureOrigin (allowed : Origin AccountId → Bool) (o : Origin AccountId) : Result Unit :=
  ensure (allowed o = true) .badOrigin

variable [DecidableEq AccountId]

/-! ### Cases -/

/-- Set the timer of a citizen, through the bridge to the constitution. -/
def registerLockup (now : ℕ) (citizen : AccountId) (maxLockupBlock : ℕ) (caseHash : Bytes32)
    (s : Constitution.State AccountId) : Result (Constitution.State AccountId) :=
  (Constitution.registerLockup ⟨.root, now⟩ citizen maxLockupBlock caseHash s).mapError
    (DispatchError.map .constitution)

/-- Resolve the timer of a citizen, if there is one, through the bridge to the constitution. -/
def resolveHabeasCorpus (now : ℕ) (citizen : AccountId) (s : Constitution.State AccountId) :
    Constitution.State AccountId :=
  attempt (Constitution.resolveHabeasCorpus ⟨.root, now⟩ citizen) s

/-- Open a case against a registered citizen. -/
def openCase (ctx : Context AccountId) (defendant : AccountId) (evidenceHash : Bytes32)
    (whistleblower : Option AccountId) (s : State AccountId L) : Result (State AccountId L) := do
  let plaintiff ← ensureSigned ctx.origin
  ensure (s.identity.citizens.containsKey defendant = true) (.module .defendantNotRegistered)
  let identity := attempt (Identity.doFreezeCitizen defendant) s.identity
  let deadline := saturatingAdd u32Max ctx.now habeasCorpusDeadlineBlocks
  let constitution ← registerLockup ctx.now defendant deadline evidenceHash s.constitution
  let caseId := s.nextCaseId
  return { s with
    identity := identity
    constitution := constitution
    courtCases := s.courtCases.insert caseId
      { plaintiff := plaintiff
        defendant := defendant
        whistleblower := whistleblower
        evidenceHash := evidenceHash
        verdictHash := none
        penaltyAmount := 0
        status := .open
        crimeCategory := none }
    nextCaseId := saturatingAdd u32Max caseId 1 }

/-- Issue the verdict in an open case, as the judges. -/
def issueVerdict (cfg : Config AccountId L) (ctx : Context AccountId) (caseId : ℕ)
    (isGuilty : Bool) (verdictHash : Bytes32) (penaltyAmount : ℕ) (crimeCategory : CrimeCategory)
    (s : State AccountId L) : Result (State AccountId L) := do
  ensureOrigin cfg.judgesCollectiveOrigin ctx.origin
  let case ← required (s.courtCases.get caseId) (.module .caseNotFound)
  ensure (case.status = .open) (.module .caseNotOpen)
  let constitution := resolveHabeasCorpus ctx.now case.defendant s.constitution
  let decided := { case with
    verdictHash := some verdictHash
    penaltyAmount := penaltyAmount
    crimeCategory := some crimeCategory }
  if isGuilty then
    return { s with
      constitution := constitution
      courtCases := s.courtCases.insert caseId { decided with status := .guilty } }
  else
    return { s with
      constitution := constitution
      courtCases := s.courtCases.insert caseId { decided with status := .acquitted }
      identity := attempt (Identity.doUnfreezeCitizen case.defendant) s.identity }

/-! ### Sentences -/

/-- The share of an amount that goes to the informant. -/
def whistleblowerReward (case : CourtCase AccountId) (amount : ℕ) : ℕ :=
  if case.whistleblower.isSome then perbill 200000000 amount else 0

section Sentences

variable [Currency AccountId L] [Fungible AccountId L]

/-- Pay the informant from the treasury. -/
def payWhistleblower (cfg : Config AccountId L) (case : CourtCase AccountId) (reward : ℕ)
    (ledger : L) : Result L :=
  match case.whistleblower with
  | some whistleblower =>
    if 0 < reward then
      (Fungible.transfer ledger cfg.treasury whistleblower reward .preserve).mapError
        fun _ => .module .whistleblowerTransferFailed
    else .ok ledger
  | none => .ok ledger

/-- Take an amount from the defendant for the treasury, and pay the informant's share. -/
def confiscate (cfg : Config AccountId L) (case : CourtCase AccountId) (amount : ℕ)
    (preservation : Preservation) (ledger : L) : Result L :=
  if 0 < amount then do
    let ledger ←
      (Fungible.transfer ledger case.defendant cfg.treasury amount preservation).mapError
        fun _ => .module .insufficientBalance
    payWhistleblower cfg case (whistleblowerReward case amount) ledger
  else .ok ledger

/-- The sentence for a hate crime: all of the balance, exile, and the registry of shame. -/
def executeGuillotine (cfg : Config AccountId L) (ctx : Context AccountId) (caseId : ℕ)
    (case : CourtCase AccountId) (s : State AccountId L) : Result (State AccountId L) := do
  let fullBalance := freeBalance s.identity.ledger case.defendant
  let ledger ← confiscate cfg case fullBalance .expendable s.identity.ledger
  let identity :=
    attempt (Identity.doExile cfg.identity case.defendant) { s.identity with ledger := ledger }
  ensure (s.registryOfShame.containsKey case.defendant = false)
    (.module .alreadyInRegistryOfShame)
  return { s with
    identity := identity
    registryOfShame := s.registryOfShame.insert case.defendant
      { caseId := caseId
        evidenceHash := case.evidenceHash
        executedAtBlock := ctx.now } }

/-- The sentence for another crime: the penalty, and the release of the defendant. -/
def executeStandard (cfg : Config AccountId L) (case : CourtCase AccountId)
    (s : State AccountId L) : Result (State AccountId L) := do
  let isOfficial :=
    ((s.identity.citizens.get case.defendant).map fun r => r.branch.isSome).getD false
  let preservation := if isOfficial then Preservation.expendable else .preserve
  let ledger ← confiscate cfg case case.penaltyAmount preservation s.identity.ledger
  return { s with
    identity :=
      attempt (Identity.doUnfreezeCitizen case.defendant) { s.identity with ledger := ledger } }

/-- Execute a guilty verdict. -/
def executeVerdict (cfg : Config AccountId L) (ctx : Context AccountId) (caseId : ℕ)
    (s : State AccountId L) : Result (State AccountId L) := do
  let _ ← ensureSigned ctx.origin
  let case ← required (s.courtCases.get caseId) (.module .caseNotFound)
  ensure (case.status = .guilty) (.module .caseNotGuilty)
  let s ← match case.crimeCategory.getD .economic with
    | .hateCrimeAndFascism => executeGuillotine cfg ctx caseId case s
    | .economic => executeStandard cfg case s
    | .usurpation => executeStandard cfg case s
  return { s with
    courtCases := s.courtCases.modify caseId fun c => { c with status := .executed } }

/-- The ledger with all of a balance moved to the treasury, if it can be. -/
def seizeAll (cfg : Config AccountId L) (target : AccountId) (ledger : L) : L :=
  let balance := freeBalance ledger target
  if 0 < balance then
    attempt (Fungible.transfer · target cfg.treasury balance .expendable) ledger
  else ledger

/-- Declare a citizen a usurper. -/
def declareUsurper (cfg : Config AccountId L) (ctx : Context AccountId) (target : AccountId)
    (s : State AccountId L) : Result (State AccountId L) := do
  ensureOrigin cfg.usurpationOrigin ctx.origin
  let seized := { s.identity with ledger := seizeAll cfg target s.identity.ledger }
  let frozen := attempt (Identity.doFreezeCitizen target) seized
  return { s with
    martialLawActive := true
    identity := attempt (Identity.doDemoteToRegular target) frozen }

/-! ### Dispatch -/

/-- The dispatchables with their arguments. -/
inductive Call (AccountId : Type)
  | openCase (defendant : AccountId) (evidenceHash : Bytes32) (whistleblower : Option AccountId)
  | issueVerdict (caseId : ℕ) (isGuilty : Bool) (verdictHash : Bytes32) (penaltyAmount : ℕ)
    (crimeCategory : CrimeCategory)
  | executeVerdict (caseId : ℕ)
  | declareUsurper (target : AccountId)
  deriving DecidableEq

/-- Dispatch a call. -/
def dispatch (cfg : Config AccountId L) (ctx : Context AccountId) :
    Call AccountId → State AccountId L → Result (State AccountId L)
  | .openCase defendant evidenceHash whistleblower =>
    openCase ctx defendant evidenceHash whistleblower
  | .issueVerdict caseId isGuilty verdictHash penaltyAmount crimeCategory =>
    issueVerdict cfg ctx caseId isGuilty verdictHash penaltyAmount crimeCategory
  | .executeVerdict caseId => executeVerdict cfg ctx caseId
  | .declareUsurper target => declareUsurper cfg ctx target

end Sentences

/-! ### What the constitution asks of the courts -/

/-- A case of a person in which there is a verdict. -/
def IsDecidedCaseOf (who : AccountId) (case : CourtCase AccountId) : Prop :=
  case.defendant = who ∧ case.status ≠ .open

instance (who : AccountId) : DecidablePred (IsDecidedCaseOf who) := fun _ =>
  inferInstanceAs (Decidable (_ ∧ _))

/-- Whether there is a verdict in any case of a person. -/
def defendantHasVerdict (s : State AccountId L) (who : AccountId) : Bool :=
  (List.range s.nextCaseId).any fun caseId =>
    (s.courtCases.get caseId).any fun case => decide (IsDecidedCaseOf who case)

/-- The start of block `n`: the constitution releases whom the courts have not judged in time. -/
def onInitialize (n : ℕ) (s : State AccountId L) : State AccountId L :=
  let released := Constitution.onInitialize n (defendantHasVerdict s)
    (fun identity who => attempt (Identity.doUnfreezeCitizen who) identity)
    s.constitution s.identity
  { s with
    constitution := released.1
    identity := released.2 }

end JudicialCourts
