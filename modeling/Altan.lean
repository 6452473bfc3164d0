import Altan.Foundation.Arithmetic
import Altan.Foundation.StorageMap
import Altan.Foundation.TransitionSystem
import Altan.Foundation.Accounting
import Altan.Foundation.Register
import Altan.Foundation.Headcount
import Altan.Foundation.Lifecycle
import Altan.Foundation.Links
import Altan.Foundation.Dispatch
import Altan.Foundation.BoundedVec
import Altan.Foundation.Roster
import Altan.Foundation.Scale
import Altan.Foundation.Blake2b
import Altan.Foundation.Currency
import Altan.Foundation.Balances
import Altan.Foundation.Escrow
import Altan.Foundation.Component
import Altan.Foundation.ProvidedBalances
import Altan.Foundation.Fungible
import Altan.Foundation.Payments
import Altan.Foundation.Outlay
import Altan.Foundation.CreditBook
import Altan.Foundation.Deposits
import Altan.Foundation.Marks
import Altan.Foundation.Iteration
import Altan.Foundation.Fibre
import Altan.Foundation.Text
import Altan.Foundation.Past
import Altan.Foundation.Catalogue
import Altan.Foundation.Ancestry
import Altan.Foundation.Assent
import Altan.Foundation.Registry
import Altan.Foundation.Ramp
import Altan.Foundation.FixedPoint
import Altan.Foundation.Instalments
import Altan.CentralBank.Model
import Altan.CentralBank.Spec
import Altan.CentralBank.CreditPool
import Altan.CentralBank.Issuance
import Altan.CentralBank.Epochs
import Altan.CentralBank.BaseRate
import Altan.BankOfSiberia.Model
import Altan.BankOfSiberia.Spec
import Altan.BankOfSiberia.Wholesale
import Altan.BankOfSiberia.Loans
import Altan.BankOfSiberia.LoanLifecycle
import Altan.BankOfSiberia.CollateralLock
import Altan.BankOfSiberia.Treasury
import Altan.BankOfSiberia.Solvency
import Altan.BankOfSiberia.Signatures
import Altan.BankOfSiberia.EpochAudit
import Altan.BankOfSiberia.Payouts
import Altan.BankOfSiberia.SubAccounts
import Altan.BankOfSiberia.Chain
import Altan.BankOfSiberia.Interest
import Altan.BankOfSiberia.Repayments
import Altan.OrgRoles.Model
import Altan.Runtime.Model
import Altan.Runtime.Authority
import Altan.Runtime.Accounts
import Altan.Runtime.Genesis
import Altan.ShieldedVaults.Model
import Altan.ShieldedVaults.Supply
import Altan.ShieldedVaults.Finality
import Altan.ShieldedVaults.OrgVaults
import Altan.ShieldedVaults.Ownership
import Altan.Mixer.Model
import Altan.Mixer.Leaves
import Altan.Mixer.Solvency
import Altan.Mixer.DepositFees
import Altan.BankOperator.Model
import Altan.BankOperator.Spec
import Altan.BankOperator.Emission
import Altan.BankOperator.Reserve
import Altan.BankOperator.Collateral
import Altan.BankOperator.Custody
import Altan.BankOperator.History
import Altan.BankOperator.InterestSchedule
import Altan.Elections.Model
import Altan.Elections.Spec
import Altan.Elections.Ballots
import Altan.Elections.Zones
import Altan.Elections.Hierarchy
import Altan.Elections.Councils
import Altan.Identity.Model
import Altan.Identity.Status
import Altan.Identity.Spec
import Altan.Identity.Registry
import Altan.Identity.Vesting
import Altan.Identity.Cooldown
import Altan.Identity.Leaders
import Altan.Identity.Terms
import Altan.Identity.Forest
import Altan.Identity.GlassCeiling
import Altan.Constitution.Model
import Altan.JudicialCourts.Model
import Altan.JudicialCourts.Spec
import Altan.JudicialCourts.Docket
import Altan.JudicialCourts.Holds
import Altan.JudicialCourts.HabeasCorpus
import Altan.JudicialCourts.Sentencing
import Altan.BlackBook.Model
import Altan.Runtime.Justice
import Altan.Guilds.Model
import Altan.Inheritance.Model
import Altan.Inheritance.Execution
import Altan.Runtime.Estates
import Altan.Runtime.Constants
import Altan.Runtime.Settlement
import Altan.Runtime.DeadDebt
import Altan.Identity.Marriages
import Altan.Identity.Consent
import Altan.Identity.Citizenship
import Altan.Inheritance.Fees
import Altan.Inheritance.Heirs
import Altan.BlackBook.Bounties
import Altan.KhuralGovernance.Model
import Altan.KhuralGovernance.Spec
import Altan.KhuralGovernance.Proposals
import Altan.KhuralGovernance.Bills
import Altan.KhuralGovernance.Decisions
import Altan.Guilds.Federation
import Altan.Guilds.Spec
import Altan.Guilds.Quests
import Altan.Guilds.Membership
import Altan.Guilds.Tally
import Altan.Guilds.Rounds
import Altan.Guilds.Grandmasters
import Altan.Guilds.Academy
import Altan.Guilds.Councils
import Altan.SteppeOffline.Model
import Altan.SteppeOffline.Settlement
import Altan.SteppeOffline.Bearer
import Altan.AltanVault.Model
import Altan.AltanVault.Isolation
import Altan.AltanVault.Counters
import Altan.LandRegistry.Model
import Altan.LandRegistry.NonAlienation
import Altan.Runtime.StateAccounts
import Altan.Organizations.Model
import Altan.Organizations.Spec
import Altan.Organizations.Rewards
import Altan.Identity.Ending
import Altan.Chancery.Model
import Altan.Chancery.Protocol
import Altan.Runtime.Contracts
import Altan.RecoveryNft.Model
import Altan.RecoveryNft.Recovery
import Altan.Licensing.Model
import Altan.Licensing.Spec
import Altan.Licensing.Protocol
import Altan.Licensing.Revocation
import Altan.CitizenVoice.Model
import Altan.CitizenVoice.Escrow
import Altan.CitizenVoice.Stings
import Altan.Organizations.Activation
import Altan.Organizations.Freezes
import Altan.Organizations.Filing
import Altan.RecoveryNft.Provenance
import Altan.DecimalDao.Model
import Altan.DecimalDao.Proposals
import Altan.DecimalDao.Treasuries
import Altan.MigrationCenter.Model
import Altan.MigrationCenter.Anchors
import Altan.MigrationCenter.Officers
import Altan.ForeignAffairs.Model
import Altan.ForeignAffairs.Accreditation
import Altan.AccessNft.Model
import Altan.AccessNft.Keys
import Altan.Forums.Model
import Altan.Forums.Forest
import Altan.AchievementNft.Model
import Altan.AchievementNft.Backing
import Altan.CentralBank.RoundTrip
import Altan.CentralBank.RateCurve
import Altan.CentralBank.Migrations
import Altan.AltanTax.Model
import Altan.AltanTax.ExclusiveFee
import Altan.Foundation.Gregorian
import Altan.Foundation.Emptying
import Altan.Organizations.FilingWindow
import Altan.Organizations.Scanner
import Altan.AnnualProfitTax.Model
import Altan.AnnualProfitTax.Payments
import Altan.AnnualProfitTax.Calendar
import Altan.JudicialCourts.Guillotine
import Altan.JudicialCourts.Acquittal
import Altan.SteppeOffline.Armageddon
import Altan.BankOfSiberia.Backfill
import Altan.Licensing.Lookup
import Altan.Runtime.Spending
import Altan.Identity.Kinship
import Altan.Chronicles.Model
import Altan.Runtime.TransactionFees
import Altan.Elections.Mandates
import Altan.Runtime.Oversight
import Altan.Runtime.Sovereigns
