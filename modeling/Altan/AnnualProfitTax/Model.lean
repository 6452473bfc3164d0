import Altan.Foundation.Arithmetic
import Altan.Foundation.Currency
import Altan.Foundation.Dispatch
import Altan.Foundation.StorageMap

/-!
# The annual profit tax

Once a year an account declares its profit and pays the tax on it. After the middle of April a
penalty is due, and some more for every day that passes. Two treasuries share what is paid. Times
are in seconds, and the years have three hundred and sixty-five days from an anchor on.

## Main definitions

* `yearStartSecs`, `isOnTime`, `currentYear`, `daysLate`: the calendar
* `computePeni`, `computeShtraf`: the penalties
* `Config`, `State`: what the runtime gives the module, and the storage with the ledger
* `assess`: the tax on a profit
* `declareAnnualProfit`, `setRegionalTreasury`, `setConfederationTreasury`: the dispatchables
* `Input`, `step`: a call at a time, or what happens to the ledger elsewhere
-/

open Bounded Dispatch

namespace AnnualProfitTax

/-! ### The calendar -/

/-- The seconds in a year of three hundred and sixty-five days. -/
def secondsPerYear : ℕ := 31536000

/-- The seconds in the filing window, from the first of January to the fifteenth of April. -/
def filingWindowSeconds : ℕ := 105 * 86400

/-- The seconds from the first of January to the first late day. -/
def lateStartOffsetSecs : ℕ := 106 * 86400

/-- The most days that count as late. -/
def maxDaysLate : ℕ := 259

/-- What five percent a year are divided by for a day. -/
def peniDivisor : ℕ := 36500

/-- The five percent. -/
def peniNumerator : ℕ := 5

/-- The year of the anchor. -/
def anchorYear : ℕ := 2026

/-- The time that stands for the start of the year of the anchor. -/
def anchorTimestamp : ℕ := 1735689600

/-- When a year starts. -/
def yearStartSecs (year : ℕ) : ℕ :=
  if anchorYear ≤ year then anchorTimestamp + (year - anchorYear) * secondsPerYear
  else anchorTimestamp - (anchorYear - year) * secondsPerYear

/-- Whether a time is in the filing window of a year. -/
def isOnTime (now taxYear : ℕ) : Bool :=
  let start := yearStartSecs taxYear
  let windowEnd := start + filingWindowSeconds
  decide (start ≤ now) && decide (now ≤ windowEnd)

/-- The year of a time, a number of thirty-two bits. -/
def currentYear (now : ℕ) : ℕ :=
  let elapsed := if anchorTimestamp ≤ now then (now - anchorTimestamp) / secondsPerYear else 0
  (anchorYear + elapsed) % 2 ^ 32

/-- The days that a payment for a year is late at a time. -/
def daysLate (now taxYear : ℕ) : ℕ :=
  let yearStart := yearStartSecs taxYear
  let lateStart := yearStart + lateStartOffsetSecs
  if now < lateStart then 0
  else
    let secondsLate := now - lateStart
    let days := secondsLate / 86400 + 1
    min days maxDaysLate

/-! ### The penalties -/

/-- The penalty for every day, nothing for none. -/
def computePeni (baseTax daysLate : ℕ) : Option ℕ :=
  if daysLate = 0 then some 0
  else do
    let v ← checkedMul u128Max baseTax peniNumerator
    let v ← checkedMul u128Max v daysLate
    checkedDiv v peniDivisor

/-- The penalty of five percent. -/
def computeShtraf (baseTax : ℕ) : Option ℕ := do
  let v ← checkedMul u128Max baseTax 5
  checkedDiv v 100

/-! ### The storage -/

/-- The errors of the module. -/
inductive Error
  | treasuriesNotInitialized
  | alreadyDeclared
  | zeroProfitDeclared
  | mathOverflow
  | futureYearNotAllowed
  | yearBeforeGenesis
  | filingDeadlineExpired
  deriving DecidableEq, Repr

/-- The outcome of a function of the module. -/
abbrev Result (α : Type) := Except (DispatchError Error) α

/-- A declaration and what was paid. -/
structure ProfitRecord where
  declaredProfit : ℕ
  baseTax : ℕ
  shtraf : ℕ
  peni : ℕ
  totalPaid : ℕ
  regionalShare : ℕ
  confederationShare : ℕ
  paidAt : ℕ
  daysLate : ℕ
  largeFamilyRate : Bool
  deriving DecidableEq, Repr

/-- What the runtime gives the module: the rates, in thousandths. -/
structure Config where
  standardTaxRatePermill : ℕ
  largeFamilyTaxRatePermill : ℕ

/-- The storage of the module, and the ledger. -/
structure State (AccountId L : Type) where
  profitDeclarations : StorageMap (AccountId × ℕ) ProfitRecord
  regionalTreasury : Option AccountId
  confederationTreasury : Option AccountId
  ledger : L

variable {AccountId L : Type}

/-- The storage at genesis, on a ledger. -/
def genesis [DecidableEq AccountId] (regionalTreasury confederationTreasury : Option AccountId)
    (ledger : L) : State AccountId L where
  profitDeclarations := ∅
  regionalTreasury := regionalTreasury
  confederationTreasury := confederationTreasury
  ledger := ledger

/-- The rate on a profit. -/
def Config.rate (cfg : Config) (isLargeFamily : Bool) : ℕ :=
  if isLargeFamily then cfg.largeFamilyTaxRatePermill else cfg.standardTaxRatePermill

/-! ### The dispatchables -/

/-- The tax on a profit that is declared at a time, with the penalties and the shares. -/
def assess (cfg : Config) (now taxYear declaredProfit : ℕ) (isLargeFamily : Bool) :
    Result ProfitRecord := do
  let ratePermill := cfg.rate isLargeFamily
  let baseTax ← required
    ((checkedMul u128Max declaredProfit ratePermill).bind fun v => checkedDiv v 1000)
    (.module .mathOverflow)
  let daysLateCount := daysLate now taxYear
  let onTime := daysLateCount = 0
  let shtraf ← required (if ¬ onTime then computeShtraf baseTax else some 0)
    (.module .mathOverflow)
  let peni ← required (computePeni baseTax daysLateCount) (.module .mathOverflow)
  let totalPaid ← required
    ((checkedAdd u128Max baseTax shtraf).bind fun v => checkedAdd u128Max v peni)
    (.module .mathOverflow)
  let regionalShare ← required
    ((checkedMul u128Max totalPaid 70).bind fun v => checkedDiv v 100) (.module .mathOverflow)
  let confederationShare ← required (checkedSub totalPaid regionalShare) (.module .mathOverflow)
  return {
    declaredProfit := declaredProfit
    baseTax := baseTax
    shtraf := shtraf
    peni := peni
    totalPaid := totalPaid
    regionalShare := regionalShare
    confederationShare := confederationShare
    paidAt := now
    daysLate := daysLateCount
    largeFamilyRate := isLargeFamily }

/-- The checks of a declaration on the calendar: the year is not in the future, it is one there is a
tax for, and it is not over. -/
def ensureFilingYear (now taxYear : ℕ) : Result Unit := do
  ensure (taxYear ≤ currentYear now) (.module .futureYearNotAllowed)
  ensure (2026 ≤ taxYear) (.module .yearBeforeGenesis)
  let yearEnd := yearStartSecs taxYear + secondsPerYear
  ensure (now < yearEnd) (.module .filingDeadlineExpired)

variable [DecidableEq AccountId]

/-- Declare the profit of a year and pay the tax on it. -/
def declareAnnualProfit [Currency AccountId L] (cfg : Config) (origin : Origin AccountId)
    (now taxYear declaredProfit : ℕ) (isLargeFamily : Bool) (s : State AccountId L) :
    Result (State AccountId L) := do
  let org ← ensureSigned origin
  let regionalAccount ← required s.regionalTreasury (.module .treasuriesNotInitialized)
  let confedAccount ← required s.confederationTreasury (.module .treasuriesNotInitialized)
  ensure (0 < declaredProfit) (.module .zeroProfitDeclared)
  ensureFilingYear now taxYear
  ensure (s.profitDeclarations.get (org, taxYear) = none) (.module .alreadyDeclared)
  let record ← assess cfg now taxYear declaredProfit isLargeFamily
  let ledger ← liftCurrency
    (Currency.transfer s.ledger org regionalAccount record.regionalShare .keepAlive)
  let ledger ← liftCurrency
    (Currency.transfer ledger org confedAccount record.confederationShare .keepAlive)
  return { s with
    profitDeclarations := s.profitDeclarations.insert (org, taxYear) record
    ledger := ledger }

omit [DecidableEq AccountId] in
/-- Set the regional treasury. -/
def setRegionalTreasury (origin : Origin AccountId) (newAccount : AccountId)
    (s : State AccountId L) : Result (State AccountId L) := do
  ensureRoot origin
  return { s with regionalTreasury := some newAccount }

omit [DecidableEq AccountId] in
/-- Set the confederation treasury. -/
def setConfederationTreasury (origin : Origin AccountId) (newAccount : AccountId)
    (s : State AccountId L) : Result (State AccountId L) := do
  ensureRoot origin
  return { s with confederationTreasury := some newAccount }

/-! ### Dispatch -/

/-- The dispatchables with their arguments. -/
inductive Call (AccountId : Type)
  | declareAnnualProfit (taxYear declaredProfit : ℕ) (isLargeFamily : Bool)
  | setRegionalTreasury (newAccount : AccountId)
  | setConfederationTreasury (newAccount : AccountId)
  deriving DecidableEq

variable [Currency AccountId L]

/-- Dispatch a call at a time. -/
def dispatch (cfg : Config) (origin : Origin AccountId) (now : ℕ) :
    Call AccountId → State AccountId L → Result (State AccountId L)
  | .declareAnnualProfit taxYear declaredProfit isLargeFamily =>
    declareAnnualProfit cfg origin now taxYear declaredProfit isLargeFamily
  | .setRegionalTreasury newAccount => setRegionalTreasury origin newAccount
  | .setConfederationTreasury newAccount => setConfederationTreasury origin newAccount

/-- A call with its origin and the time, or what happens to the ledger elsewhere. -/
inductive Input (AccountId L : Type)
  | call (origin : Origin AccountId) (now : ℕ) (c : Call AccountId)
  | elsewhere (ledger : L)

/-- One input as a step of the state machine. -/
def step (cfg : Config) : Input AccountId L → State AccountId L → Result (State AccountId L)
  | .call origin now c, s => dispatch cfg origin now c s
  | .elsewhere ledger, s => .ok { s with ledger := ledger }

end AnnualProfitTax
