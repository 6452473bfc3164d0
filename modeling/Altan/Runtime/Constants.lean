import Altan.AccessNft.Model
import Altan.AchievementNft.Model
import Altan.AltanVault.Model
import Altan.AnnualProfitTax.Model
import Altan.BankOfSiberia.Model
import Altan.CentralBank.Spec
import Altan.CitizenVoice.Model
import Altan.DecimalDao.Model
import Altan.Elections.Model
import Altan.Forums.Model
import Altan.Guilds.Spec
import Altan.Identity.Spec
import Altan.JudicialCourts.Spec
import Altan.KhuralGovernance.Spec
import Altan.Licensing.Spec
import Altan.MigrationCenter.Model
import Altan.Mixer.Model
import Altan.Organizations.Spec
import Altan.RecoveryNft.Model
import Altan.Runtime.Accounts
import Altan.Runtime.Estates
import Altan.ShieldedVaults.Model
import Altan.SteppeOffline.Model

/-!
# The constants of the runtime

What the runtime gives its modules, module by module, and the small worlds in which their calls are
evaluated. In these worlds accounts are numbers, but where the accounts themselves matter.
-/

open Dispatch TransitionSystem

/-! ### The mixer

The constants the runtime gives the mixer, in a small world to evaluate calls in: accounts are
numbers, the pool is 1 and the accounts of the fee are 2 to 5. -/

namespace Runtime

/-- The mixer, with numbers as accounts. -/
def mixer : Mixer.Config ℕ where
  poolAccount := 1
  mixerDenomination := 10 * CentralBank.unit
  mixerFeePermill := 500
  baseFeePermill := 300
  maxMixerFee := 1000 * CentralBank.unit
  khuralFoundationAccount := 2
  inomadAgAccount := 3
  creatorAccount := 4
  validatorsPoolAccount := 5

/-- The storage at genesis in a world where the accounts of the fee and the citizens 7 and 8 have a
thousand units each, and the pool a given endowment. -/
def mixerGenesis (endowment : ℕ) : Mixer.State ℕ (NativeLedger ℕ) :=
  Mixer.genesis (Balances.ofFree
    ((1, endowment) :: [2, 3, 4, 5, 7, 8].map fun account => (account, 1000 * CentralBank.unit)))

/-- A call dispatched with an origin, where root passes as the relayer, the bank board and the
Khural. -/
def mixerContext (origin : Origin ℕ) : Mixer.Context ℕ where
  origin := origin
  blockNumber := 1
  relayerOrigin
    | .root => some 0
    | _ => none
  bankBoardOrigin
    | .root => some 0
    | _ => none
  khuralOrigin
    | .root => true
    | _ => false

/-! ### The shielded vaults

The module on the ledger of the runtime, in a small world to evaluate calls in: accounts are
numbers, the first few of them state accounts. -/

/-- The shielded vaults, with numbers as accounts: the state accounts are those below 7, the
confederation treasury among them is 3. -/
def shieldedVaults : ShieldedVaults.Config ℕ where
  isStateAccount who := decide (who < 7)
  confederationTreasury := 3

/-- The storage at genesis in a world where the treasuries 3 and 4 and the citizens 7 and 8 have a
thousand units each. -/
def vaultsGenesis : ShieldedVaults.State (NativeLedger ℕ) :=
  ShieldedVaults.genesis (Balances.ofFree
    ([3, 4, 7, 8].map fun account => (account, 1000 * CentralBank.unit)))

/-- A call signed by an account, every organization being in the region with the treasury 4. -/
def vaultsContext (who : ℕ) : ShieldedVaults.Context ℕ where
  origin := .signed who
  blockNumber := 1
  regionalTreasuryFor _ := some 4

/-! ### The savings vaults

The address of a vault is cut after 32 bytes: four are the same for all modules, eight are those of
the module and the number, and so twenty are left for the owner. -/

/-- The savings vaults. -/
def altanVault : AltanVault.Config AccountId32 where
  palletId := #v[97, 47, 118, 97, 117, 108, 116, 33]
  maxVaultsPerOwner := 64
  maxVaultsPerOwner_le := by decide
  intoSubAccountTruncating palletId sub := truncating (ascii "modl" ++ palletId.toList ++ sub.bytes)

/-- The module is known by its name. -/
example : altanVault.palletId.toList = ascii "a/vault!" := by decide

/-- An account of twenty letters and twelve digits. -/
def lettered (letters digits : String) : AccountId32 := truncating (ascii letters ++ ascii digits)

/-- A saver. -/
def saver : AccountId32 := lettered "abcdefghijklmnopqrst" "111111111111"

/-- Another account that agrees with that of the saver in the first twenty bytes. -/
def twin : AccountId32 := lettered "abcdefghijklmnopqrst" "222222222222"

/-- The storage of the vaults. -/
abbrev VaultState : Type := AltanVault.State AccountId32 (NativeLedger AccountId32)

/-- The storage before any call, where the saver and the twin have a thousand units each. -/
def vaultGenesis : VaultState :=
  AltanVault.genesis (Balances.ofFree
    ([saver, twin].map fun account => (account, 1000 * CentralBank.unit)))

/-- A call signed by an account. -/
def vaultCall (who : AccountId32) (call : AltanVault.Call AccountId32) :
    AltanVault.Input AccountId32 :=
  ⟨.signed who, 1, call⟩

/-! ### The organizations

The constants the runtime gives the organizations; the citizens are frozen by the module of the
identities, and taxes are unshielded by that of the shielded vaults. In a small world accounts are
numbers, and members are visited in the order of theirs. -/

/-- The shielded vaults on another ledger. -/
def onLedger {L L' : Type} (s : ShieldedVaults.State L) (ledger : L') : ShieldedVaults.State L' :=
  ⟨s.shieldedCommitments, s.spentNullifiers, s.orgVaultBalance, s.totalShielded, ledger⟩

/-- The organizations, with given accounts of hashes, treasuries and order of visits. -/
def organization {AccountId L : Type} [DecidableEq AccountId] [Currency AccountId L]
    (decode : List UInt8 → AccountId) (order : IterationOrder AccountId)
    (regionTreasury confederationTreasury : AccountId) :
    Organizations.Config AccountId L (Identity.State AccountId Unit)
      (ShieldedVaults.State Unit) where
  taxPeriodBlocks := 5256000
  penaltyAccrualPeriodBlocks := 151200
  basePenaltyAmount := 100 * CentralBank.unit
  auditorRewardAmount := 10 * CentralBank.unit
  regionTreasuryAccount := regionTreasury
  confederationTreasuryAccount := confederationTreasury
  minTaxAmount := 20 * CentralBank.unit
  maxOrgsPerBlock := 20
  maxDirectorsPerOrg := 20
  orgActivationDeposit := 10 * CentralBank.unit
  decode := decode
  order := order
  freezeCitizen who identity := (Identity.doFreezeCitizen who identity).mapError fun _ => ()
  unshieldForTax now nullifier commitment amount recipient pool := do
    let vaults ← (ShieldedVaults.unshieldForTax ⟨.none, now, fun _ => none⟩ nullifier commitment
      amount recipient (onLedger pool.1 pool.2)).mapError fun _ => ()
    return (onLedger vaults (), vaults.ledger)

/-- The organizations in the small world, where the treasuries are 3 and 4. -/
def orgs : Organizations.Config ℕ (NativeLedger ℕ) (Identity.State ℕ Unit)
    (ShieldedVaults.State Unit) :=
  organization Blake2b.fromLittleEndian .ascending 3 4

/-- The storage of the organizations in the small world. -/
abbrev OrgState : Type :=
  Organizations.State ℕ (NativeLedger ℕ) (Identity.State ℕ Unit) (ShieldedVaults.State Unit)

/-- The world before any call, where the treasury and the accounts 7 and 8 have a thousand units
each. -/
def orgGenesis : OrgState :=
  Organizations.genesis
    (Balances.ofFree ([3, 7, 8].map fun account => (account, 1000 * CentralBank.unit)))
    (Identity.genesis ()) (ShieldedVaults.genesis ())

/-- A call of an account in a block. -/
def orgCall (who now : ℕ) (c : Organizations.Call ℕ) : Organizations.Input ℕ :=
  .call ⟨.signed who, now, 0⟩ c

/-! ### Offline payments

The register is that of the citizens, and whoever is struck from it is frozen there. In a small
world accounts are numbers, and an account signs by putting its number before what it signs. -/

/-- Freeze a citizen, whatever the standing. -/
def identitySlasher {AccountId : Type} [DecidableEq AccountId] (who : AccountId)
    (citizens : StorageMap AccountId Identity.CitizenRecord) :
    Except Unit (StorageMap AccountId Identity.CitizenRecord) := do
  let record ← required (citizens.get who) ()
  return citizens.insert who { record with status := .frozen }

/-- Offline payments, for a given verification of signatures. -/
def steppeOffline {AccountId : Type} [DecidableEq AccountId]
    (verify : BankOfSiberia.MultiSignature → List UInt8 → AccountId → Bool) :
    SteppeOffline.Config AccountId BankOfSiberia.MultiSignature
      (StorageMap AccountId Identity.CitizenRecord) where
  verify := verify
  slashCitizen := identitySlasher

/-- What an account signs by putting its number before it. -/
def signatureOf (who : ℕ) (message : List UInt8) : BankOfSiberia.MultiSignature :=
  .sr25519 (UInt8.ofNat who :: message)

/-- Offline payments in the small world. -/
def steppe : SteppeOffline.Config ℕ BankOfSiberia.MultiSignature
    (StorageMap ℕ Identity.CitizenRecord) :=
  steppeOffline fun signature message who => signature = signatureOf who message

/-- The storage of offline payments in the small world. -/
abbrev SteppeState : Type :=
  SteppeOffline.State ℕ (StorageMap ℕ Identity.CitizenRecord) (EscrowLedger ℕ)

/-- The world before any call, where the account 1 has 1000 units and the accounts 2 and 3 have one
each. -/
def steppeGenesis : SteppeState :=
  SteppeOffline.genesis ∅ (ProvidedBalances.ofFree
    [(1, 1000 * CentralBank.unit), (2, CentralBank.unit), (3, CentralBank.unit)])

/-- The account 1 puts 100 units into its pocket. -/
def locking : SteppeOffline.Input ℕ BankOfSiberia.MultiSignature :=
  (.signed 1, .lockFunds (100 * CentralBank.unit))

/-- The world with that pocket. -/
def offTheGrid : SteppeState := run (SteppeOffline.step steppe) [locking] steppeGenesis

/-- A promise of the account 1 to pay so many units. -/
def promised (units nonce : ℕ) : SteppeOffline.IouPayload := ⟨units * CentralBank.unit, nonce⟩

/-! ### The elections

The constants the runtime gives the elections, in a small world to evaluate calls in: accounts are
numbers, and every account is an indigenous citizen. -/

/-- The elections. -/
def elections : Elections.Config where
  maxCandidates := 1024
  maxBranchCandidates := 100
  minArbadSize := 10
  minZunLeaders := 10
  minMyangadLeaders := 10

/-- A call dispatched with an origin. -/
def electionContext (origin : Origin ℕ) : Elections.Context ℕ where
  origin := origin
  isIndigenous _ := true

/-! ### The Khural

The constants the runtime gives the Khural, in a small world: the treasury of the first nation is
account one, and everybody leads an Arbad of that nation. -/

section KhuralGovernance

open Identity

/-- The Khural: an expert bill costs ten units, a vote lasts seven days, and three approve. -/
def khural : KhuralGovernance.Config ℕ where
  expertBillDeposit := 10 * CentralBank.unit
  votingPeriod := 100800
  minQuorum := 3
  nationTreasuries := ⟨[1], by decide⟩
  iterationOrder := .ascending

/-- A leader of an Arbad of the first nation. -/
def arbadLeader (who : ℕ) : CitizenRecord where
  citizenId := who
  nationId := 1
  naturalizedPeopleId := none
  role := .arbadLeader
  status := .active
  verification := .verified
  vestingLevel := none
  branch := none
  termEnd := none
  khuralTermsServed := 0
  isIndigenous := true
  citizenshipStatus := .indigenous
  regionId := none
  birthRegionId := none
  passportType := .internal
  documentHash := .ofByte 0
  birthPageHash := .ofByte 0
  emailHash := .ofByte 0

/-- A call where everybody leads an Arbad, and everybody is in the academy. -/
def amongLeaders {L : Type} (who : ℕ) (call : KhuralGovernance.Call ℕ) :
    KhuralGovernance.Input ℕ L :=
  .call (.signed who) (fun a => some (arbadLeader a)) (fun _ => true) call

end KhuralGovernance

/-! ### Licensing

The constants the runtime gives licensing, and a small world: everybody is a delegate of the first
nation, and account one is a ministry. -/

section Licensing

open Identity

/-- Licensing: root manages the ministries, a vote lasts seven days, three approve, and an
application costs ten units. -/
def licensing : Licensing.Config ℕ where
  isExecutive
    | .root => true
    | _ => false
  licenseVotingPeriod := 100800
  minLicenseQuorum := 3
  applicationDeposit := 10 * CentralBank.unit

/-- Licensing where a vote lasts one block, as many approve as are given, and applications are
free. -/
def briefLicensing (minLicenseQuorum : ℕ) : Licensing.Config ℕ :=
  { licensing with
    licenseVotingPeriod := 1
    minLicenseQuorum := minLicenseQuorum
    applicationDeposit := 0 }

/-- A delegate of the first nation. -/
def khuralDelegate (who : ℕ) : CitizenRecord := { arbadLeader who with role := .khuralDelegate }

/-- An input of licensing in the runtime. -/
abbrev LicensingInput : Type := Licensing.Input ℕ (EscrowLedger ℕ)

/-- A call where everybody is a delegate. -/
def amongDelegates (origin : Origin ℕ) (call : Licensing.Call ℕ) : LicensingInput :=
  .call origin (fun a => some (khuralDelegate a)) call

/-- Account one becomes a ministry. -/
def ministryAuthorized : LicensingInput :=
  amongDelegates .root (.authorizeMinistry 1 ⟨[], Nat.zero_le _⟩ none)

/-- The storage before any call, in the first block, where nobody has anything. -/
def licensingGenesis : Licensing.World ℕ (EscrowLedger ℕ) :=
  .genesis (ProvidedBalances.ofFree []) 0 (Nat.zero_le _)

end Licensing

/-! ### The courts

The constants the runtime gives the courts, in the small world of the citizens: the treasury of the
courts is account one. -/

/-- The courts: root stands for the judges, and for who declares usurpers. -/
def courts : JudicialCourts.Config ℕ (NativeLedger ℕ) where
  treasury := 1
  judgesCollectiveOrigin origin := decide (origin = .root)
  usurpationOrigin origin := decide (origin = .root)
  identity := citizens

/-- One citizen is registered, with account three. -/
def oneCitizen : Identity.State ℕ (NativeLedger ℕ) :=
  attempt (Identity.dispatch citizens ⟨.root, 1⟩ (registration 3 (.ofByte 1)))
    (Identity.genesis default)

/-- A case opened by an account. -/
def suit (plaintiff defendant : ℕ) : JudicialCourts.Input ℕ :=
  .call (.signed plaintiff) (.openCase defendant (.ofByte 0) none)

/-- A verdict of the judges, with no penalty. -/
def verdict (caseId : ℕ) (isGuilty : Bool) : JudicialCourts.Input ℕ :=
  .call .root (.issueVerdict caseId isGuilty (.ofByte 0) 0 .economic)

/-! ### The guilds

The constants the runtime gives the guilds, and a small world. The treasury of a petitioned guild
is account one. -/

/-- The guilds: a union has fifty at most. -/
def guilds : Guilds.Config ℕ where
  maxUnionMembers := 50
  maxUnionMembers_le := by decide
  treasuryAccount := fun _ => 1
  iterationOrder := .ascending

/-- An input of the guilds in the runtime. -/
abbrev GuildsInput : Type := Guilds.Input guilds (EscrowLedger ℕ)

/-- The storage of the guilds in the runtime. -/
abbrev GuildsState : Type := Guilds.Federation ℕ (EscrowLedger ℕ)

/-- A call of an account. -/
def guildsCall (who : ℕ) (d : Guilds.Dispatchable guilds) : GuildsInput := .call (.signed who) d

/-- The storage before any call, where nobody has anything. -/
def guildsGenesis : GuildsState := .genesis (ProvidedBalances.ofFree [])

/-- An account founds a guild. -/
def founding (who : ℕ) : GuildsInput := guildsCall who (.market (.createGuild [] [] none 0))

/-- An account forms a union. -/
def forming (who : ℕ) (ids : BoundedVec ℕ 50) : GuildsInput :=
  guildsCall who (.formGuildUnion [] ids)

/-- An account forms a union of one guild. -/
def formingOf (who guildId : ℕ) : GuildsInput :=
  forming who ⟨[guildId], Nat.succ_le_succ (Nat.zero_le 49)⟩

/-- An account takes a union to the next level, which absorbs none. -/
def rising (who unionId : ℕ) : GuildsInput :=
  guildsCall who (.elevateUnion unionId ⟨[], Nat.zero_le _⟩)

end Runtime

/-! ### The citizen voice

The constants the runtime gives the citizen voice, and its wiring to the citizens. -/

namespace CitizenVoice

variable {AccountId L : Type} [DecidableEq AccountId] [Currency AccountId L]
  [EscrowCurrency AccountId L]

/-- The citizen voice on an estate: a deposit of one unit, and a reward of a fifth. -/
def wired (cfg : Estates.Config AccountId L) (stateTreasury : AccountId) :
    Config AccountId (Estates.Estate AccountId L) where
  stateTreasury := stateTreasury
  ticketDeposit := CentralBank.unit
  whistleblowerRewardPercent := 20
  identity := cfg.identity

end CitizenVoice

namespace Runtime

/-- The citizen voice of the runtime, where the treasury is the account 2. -/
def citizenVoice : CitizenVoice.Config ℕ (Estates.Estate ℕ (EscrowLedger ℕ)) :=
  CitizenVoice.wired estates 2

/-! ### The organisations

The constants the runtime gives the organisations, and a small world. The account of a treasury is
cut after 32 bytes: four are the same for all modules, eight are those of the module, and so twenty
are left for the identifier of the organisation. -/

/-- The account of a module for an identifier of 32 bytes. -/
def subAccountTruncating (palletId : Vector UInt8 8) (sub : Bytes32) : AccountId32 :=
  truncating (ascii "modl" ++ palletId.toList ++ sub.toList)

/-- **Which identifiers have one account**: those that agree in the first twenty bytes. -/
theorem subAccountTruncating_eq_iff {palletId : Vector UInt8 8} {sub sub' : Bytes32} :
    subAccountTruncating palletId sub = subAccountTruncating palletId sub' ↔
      sub.toList.take 20 = sub'.toList.take 20 := by
  have hlength : (ascii "modl" ++ palletId.toList).length = 12 := by
    rw [List.length_append, Vector.length_toList]
    rfl
  unfold subAccountTruncating
  rw [← AccountId32.bytes_inj, bytes_truncating_append hlength (Vector.length_toList),
    bytes_truncating_append hlength (Vector.length_toList), List.append_cancel_left_eq]

/-- The organisations: a council has a hundred members at most. -/
def decimalDao : DecimalDao.Config AccountId32 where
  palletId := #v[105, 110, 109, 47, 100, 100, 97, 111]
  maxCouncilMembers := 100
  maxCouncilMembers_le := by decide
  intoSubAccountTruncating := subAccountTruncating

/-- The module is known by its name. -/
example : decimalDao.palletId.toList = ascii "inm/ddao" := by decide

/-- The storage of the organisations. -/
abbrev DaoState : Type := DecimalDao.State decimalDao (NativeLedger AccountId32)

/-- An input of the organisations. -/
abbrev DaoInput : Type := DecimalDao.Input AccountId32 (NativeLedger AccountId32)

/-- An account of which the first byte is given. -/
def memberAccount (byte : UInt8) : AccountId32 := truncating [byte]

/-- The storage before any call, where the treasuries of some organisations have a thousand units
each. -/
def daoGenesis (orgIds : List Bytes32) : DaoState :=
  DecimalDao.genesis (Balances.ofFree (orgIds.map fun orgId =>
    (DecimalDao.treasuryAccount decimalDao orgId, 1000 * CentralBank.unit)))

/-- A call of the relayer. -/
def daoCall (c : DecimalDao.Call AccountId32) : DaoInput := .call .root c

/-! ### The migration center

How the runtime encodes accounts, for the signatures of officers. -/

/-- The migration center: an account is its thirty-two bytes. -/
def migrationCenter (sr25519Verify : Vector UInt8 64 → List UInt8 → Bytes32 → Bool) :
    MigrationCenter.Config ℕ where
  encode := Scale.littleEndian 32
  sr25519Verify := sr25519Verify

/-- A verifier that accepts one signature, which is of one message by one account. -/
def acceptsOnly (sigBytes : Vector UInt8 64) (officer : ℕ) (applicationIdHash : Bytes32)
    (block : UInt32) (sig : Vector UInt8 64) (message : List UInt8) (key : Bytes32) : Bool :=
  decide (sig = sigBytes ∧ message = MigrationCenter.claimMessage applicationIdHash block ∧
    key = Bytes32.ofNat officer)

/-! ### The recovery tokens

The constants the runtime gives the recovery tokens. -/

/-- The recovery tokens: every account issues them, to ten holders at most, and the veto window is
of seventy-two hours in blocks of six seconds. -/
def recoveryNft : RecoveryNft.Config ℕ where
  isIssuer
    | .signed _ => true
    | _ => false
  vetoWindowBlocks := 43200
  maxGroupSize := 10

/-! ### The access keys

The constants the runtime gives the access keys. -/

/-- The access keys: every account issues them, a hundred to one holder at most and ten thousand for
one entity. -/
def accessNft : AccessNft.Config ℕ where
  issuerOrigin origin := (ensureSigned (E := Unit) origin).toOption
  maxKeysPerHolder := 100
  maxHoldersPerEntity := 10000

/-! ### The forums

The constants the runtime gives the forums. -/

/-- The forums: identifiers of a hundred and twenty-eight bytes at most. -/
def forums : Forums.Config where
  maxForumIdLen := 128
  maxRepliesPerMessage := 1024

/-- An active citizen calls the forums in the first block. -/
def forumsCall (who : ℕ) (c : Forums.Call forums) : Forums.Input forums ℕ :=
  (⟨.signed who, 0, fun _ => some .active⟩, c)

/-! ### The achievement tokens

The constants the runtime gives the achievement tokens. -/

/-- The achievement tokens: every account issues them, up to five hundred for a holder, and the
treasury is the account 2. -/
def achievementNft : AchievementNft.Config ℕ where
  issuer
    | .signed who => some who
    | _ => none
  confederationTreasury := 2
  maxAchievementsPerHolder := 500

/-! ### The annual profit tax

The constants the runtime gives the annual profit tax. -/

/-- The annual profit tax: ten percent, and five for a large family. -/
def profitTax : AnnualProfitTax.Config where
  standardTaxRatePermill := 100
  largeFamilyTaxRatePermill := 50

/-- The storage of the tax where the citizen 1 and the treasuries 2 and 3 have ten units each. -/
def profitTaxGenesis : AnnualProfitTax.State ℕ (NativeLedger ℕ) :=
  AnnualProfitTax.genesis (some 2) (some 3)
    (Balances.ofFree ([1, 2, 3].map fun account => (account, 10 * CentralBank.unit)))

end Runtime
