import Altan.AnnualProfitTax.Model
import Altan.Foundation.Lifecycle
import Altan.Runtime.Constants

/-!
# What is paid

The tax on a profit is a share of it, and late a penalty of five percent of the tax and five percent
a year of it by the day. It grows with the profit and with the days, a large family pays no more
than anybody else, and two treasuries get seven tenths and the rest. Nobody pays twice for a year.

## Main definitions

* `baseTaxOf`, `shtrafOf`, `peniOf`, `totalOf`: the tax and the penalties
* `bill`: the record of a declaration
* `Paid`: the effect of a declaration on the balances
* `Input.declares`: the account and the year an input declares the profit of

## Main results

* `assess_eq_ok`: the profits there is a tax on
* `declareAnnualProfit_eq_ok`: what a declaration has checked and paid
* `totalOf_mono`: the tax is monotone
* `step_marked`: what is declared has not been declared before
* `profit_tax`: the shares, the order of the totals, and that nobody pays twice
-/

open Bounded Dispatch Ledger TransitionSystem

namespace AnnualProfitTax

/-! ### The tax -/

/-- The tax before the penalties. -/
def baseTaxOf (cfg : Config) (profit : ℕ) (isLargeFamily : Bool) : ℕ :=
  profit * cfg.rate isLargeFamily / 1000

/-- The penalty of five percent, from the first late day on. -/
def shtrafOf (base days : ℕ) : ℕ := if days = 0 then 0 else base * 5 / 100

/-- The penalty for the days. -/
def peniOf (base days : ℕ) : ℕ := base * 5 * days / 36500

/-- The tax with the penalties. -/
def totalOf (base days : ℕ) : ℕ := base + shtrafOf base days + peniOf base days

section Tax

variable {base base' days days' total v : ℕ}

theorem computeShtraf_eq_some : computeShtraf base = some v ↔
    base * 5 ≤ u128Max ∧ v = base * 5 / 100 := by
  unfold computeShtraf
  simp only [Option.bind_eq_bind, Option.bind_eq_some_iff, checkedMul_eq_some, checkedDiv_eq_some]
  constructor
  · rintro ⟨_, ⟨hfits, rfl⟩, -, rfl⟩
    exact ⟨hfits, rfl⟩
  · rintro ⟨hfits, rfl⟩
    exact ⟨_, ⟨hfits, rfl⟩, by decide, rfl⟩

/-- From the first late day on there is a penalty of five percent. -/
theorem late_eq_some : (if ¬ days = 0 then computeShtraf base else some 0) = some v ↔
    (days ≠ 0 → base * 5 ≤ u128Max) ∧ v = shtrafOf base days := by
  unfold shtrafOf
  by_cases hzero : days = 0
  · rw [if_neg (not_not.mpr hzero), if_pos hzero, Option.some.injEq, eq_comm]
    exact (and_iff_right fun hne => absurd hzero hne).symm
  · rw [if_pos hzero, if_neg hzero, computeShtraf_eq_some]
    exact and_congr_left fun _ => ⟨fun h _ => h, fun h => h hzero⟩

theorem computePeni_eq_some : computePeni base days = some v ↔
    (days ≠ 0 → base * 5 * days ≤ u128Max) ∧ v = peniOf base days := by
  unfold computePeni peniOf
  split
  · next hzero =>
    rw [hzero, Nat.mul_zero, Nat.zero_div, Option.some.injEq, eq_comm]
    exact (and_iff_right fun hne => absurd rfl hne).symm
  · next hlate =>
    simp only [Option.bind_eq_bind, Option.bind_eq_some_iff, checkedMul_eq_some,
      checkedDiv_eq_some, peniNumerator, peniDivisor]
    constructor
    · rintro ⟨_, ⟨-, rfl⟩, _, ⟨hfits, rfl⟩, -, rfl⟩
      exact ⟨fun _ => hfits, rfl⟩
    · rintro ⟨hfits, rfl⟩
      have hfive : base * 5 ≤ base * 5 * days :=
        Nat.le_mul_of_pos_right _ (Nat.pos_of_ne_zero hlate)
      exact ⟨_, ⟨hfive.trans (hfits hlate), rfl⟩, _, ⟨hfits hlate, rfl⟩, by decide, rfl⟩

theorem shtrafOf_mono (hbase : base ≤ base') (hdays : days ≤ days') :
    shtrafOf base days ≤ shtrafOf base' days' := by
  unfold shtrafOf
  split
  · exact Nat.zero_le _
  · rw [if_neg (by omega)]
    exact Nat.div_le_div_right (Nat.mul_le_mul_right 5 hbase)

theorem peniOf_mono (hbase : base ≤ base') (hdays : days ≤ days') :
    peniOf base days ≤ peniOf base' days' :=
  Nat.div_le_div_right (Nat.mul_le_mul (Nat.mul_le_mul_right 5 hbase) hdays)

/-- **The tax grows** with what it is on, and with the days. -/
theorem totalOf_mono (hbase : base ≤ base') (hdays : days ≤ days') :
    totalOf base days ≤ totalOf base' days' :=
  Nat.add_le_add (Nat.add_le_add hbase (shtrafOf_mono hbase hdays)) (peniOf_mono hbase hdays)

/-- **When there is a penalty**: on twenty and more, from the first late day on. -/
theorem penalty_iff (hlarge : 20 ≤ base) :
    shtrafOf base days ≠ 0 ∨ peniOf base days ≠ 0 ↔ days ≠ 0 := by
  unfold shtrafOf peniOf
  by_cases hzero : days = 0
  · simp [hzero]
  · rw [if_neg hzero]
    exact iff_of_true (Or.inl (by omega)) hzero

end Tax

/-- The record of a declaration. -/
def bill (cfg : Config) (now taxYear profit : ℕ) (isLargeFamily : Bool) : ProfitRecord :=
  let base := baseTaxOf cfg profit isLargeFamily
  let days := daysLate now taxYear
  { declaredProfit := profit
    baseTax := base
    shtraf := shtrafOf base days
    peni := peniOf base days
    totalPaid := totalOf base days
    regionalShare := totalOf base days * 70 / 100
    confederationShare := totalOf base days - totalOf base days * 70 / 100
    paidAt := now
    daysLate := days
    largeFamilyRate := isLargeFamily }

section Assessment

variable {cfg : Config} {now taxYear profit : ℕ} {isLargeFamily : Bool} {record : ProfitRecord}

/-- **There is a tax** on every profit for which nothing overflows on the way. -/
theorem assess_eq_ok : assess cfg now taxYear profit isLargeFamily = .ok record ↔
    profit * cfg.rate isLargeFamily ≤ u128Max ∧
      baseTaxOf cfg profit isLargeFamily * 5 * daysLate now taxYear ≤ u128Max ∧
      totalOf (baseTaxOf cfg profit isLargeFamily) (daysLate now taxYear) * 70 ≤ u128Max ∧
      record = bill cfg now taxYear profit isLargeFamily := by
  unfold assess
  simp only [required_bind_eq_ok, Option.bind_eq_some_iff, checkedMul_eq_some, checkedDiv_eq_some,
    checkedAdd_eq_some, checkedSub_eq_some, late_eq_some, computePeni_eq_some, pure_eq_ok]
  unfold bill
  constructor
  · rintro ⟨_, ⟨_, ⟨hbase, rfl⟩, -, rfl⟩, _, ⟨-, rfl⟩, _, ⟨hpeni, rfl⟩, _,
      ⟨_, ⟨-, rfl⟩, -, rfl⟩, _, ⟨_, ⟨htotal, rfl⟩, -, rfl⟩, _, ⟨-, rfl⟩, rfl⟩
    refine ⟨hbase, ?_, htotal, rfl⟩
    by_cases hzero : daysLate now taxYear = 0
    · rw [hzero]
      exact Nat.zero_le _
    · exact hpeni hzero
  · rintro ⟨hbase, hpeni, htotal, rfl⟩
    generalize hbaseTax : baseTaxOf cfg profit isLargeFamily = base at hpeni htotal
    generalize daysLate now taxYear = days at hpeni htotal
    have hsum : base + shtrafOf base days + peniOf base days ≤ totalOf base days * 70 :=
      Nat.le_mul_of_pos_right _ (by decide)
    exact ⟨base, ⟨_, ⟨hbase, rfl⟩, by decide, hbaseTax.symm⟩, _,
      ⟨fun hlate => (Nat.le_mul_of_pos_right _ (Nat.pos_of_ne_zero hlate)).trans hpeni, rfl⟩, _,
      ⟨fun _ => hpeni, rfl⟩, _, ⟨_, ⟨by omega, rfl⟩, by omega, rfl⟩, _,
      ⟨_, ⟨htotal, rfl⟩, by decide, rfl⟩, _, ⟨by omega, rfl⟩, rfl⟩

end Assessment

/-! ### The payment -/

section Payment

variable {AccountId L : Type} [DecidableEq AccountId] {l l' : L} {org regional confed : AccountId}

/-- The effect of a declaration on the balances: who declares pays the total, and the treasuries get
their shares. -/
structure Paid [Currency AccountId L] (l l' : L) (org regional confed : AccountId)
    (record : ProfitRecord) : Prop where
  free : ∀ c, freeBalance l' c + (if c = org then record.totalPaid else 0) =
    freeBalance l c + (if c = regional then record.regionalShare else 0) +
      (if c = confed then record.confederationShare else 0)
  reserved : ∀ c, reservedBalance l' c = reservedBalance l c
  issuance : totalIssuance l' = totalIssuance l

variable [Currency AccountId L] {record : ProfitRecord} {cfg : Config} {origin : Origin AccountId}
  {now taxYear profit : ℕ} {isLargeFamily : Bool} {s s' : State AccountId L}

theorem paid_of_transfers {l₁ : L}
    (hshares : record.regionalShare + record.confederationShare = record.totalPaid)
    (h₁ : Currency.transfer l org regional record.regionalShare .keepAlive = .ok l₁)
    (h₂ : Currency.transfer l₁ org confed record.confederationShare .keepAlive = .ok l') :
    Paid l l' org regional confed record where
  free c := by
    have hfirst := Currency.transfer_keepAlive_free h₁ c
    have hsecond := Currency.transfer_keepAlive_free h₂ c
    by_cases hc : c = org
    · rw [if_pos hc] at hfirst hsecond ⊢
      omega
    · rw [if_neg hc] at hfirst hsecond ⊢
      omega
  reserved c := (Currency.transfer_reserved h₂ c).trans (Currency.transfer_reserved h₁ c)
  issuance := (Currency.transfer_keepAlive_issuance h₂).trans
    (Currency.transfer_keepAlive_issuance h₁)

/-- **What a declaration has checked and paid.** -/
theorem declareAnnualProfit_eq_ok :
    declareAnnualProfit cfg origin now taxYear profit isLargeFamily s = .ok s' ↔
      ∃ org regional confed record, origin = .signed org ∧ s.regionalTreasury = some regional ∧
        s.confederationTreasury = some confed ∧ 0 < profit ∧
        ensureFilingYear now taxYear = .ok () ∧ s.profitDeclarations.get (org, taxYear) = none ∧
        assess cfg now taxYear profit isLargeFamily = .ok record ∧ ∃ l₁ l₂,
          Currency.transfer s.ledger org regional record.regionalShare .keepAlive = .ok l₁ ∧
          Currency.transfer l₁ org confed record.confederationShare .keepAlive = .ok l₂ ∧
          s' = { s with
            profitDeclarations := s.profitDeclarations.insert (org, taxYear) record
            ledger := l₂ } := by
  unfold declareAnnualProfit
  simp only [ensureSigned_bind_eq_ok, required_bind_eq_ok, ensure_bind_eq_ok,
    bind_eq_ok (x := ensureFilingYear _ _), bind_eq_ok (x := assess _ _ _ _ _),
    liftCurrency_bind_eq_ok, pure_eq_ok]
  constructor
  · rintro ⟨org, horg, regional, hregional, confed, hconfed, hprofit, ⟨⟩, hyear, hnew, record,
      hrecord, l₁, h₁, l₂, h₂, rfl⟩
    exact ⟨org, regional, confed, record, horg, hregional, hconfed, hprofit, hyear, hnew, hrecord,
      l₁, l₂, h₁, h₂, rfl⟩
  · rintro ⟨org, regional, confed, record, horg, hregional, hconfed, hprofit, hyear, hnew, hrecord,
      l₁, l₂, h₁, h₂, rfl⟩
    exact ⟨org, horg, regional, hregional, confed, hconfed, hprofit, (), hyear, hnew, record,
      hrecord, l₁, h₁, l₂, h₂, rfl⟩

/-- The account and the year an input declares the profit of. -/
def Input.declares : Input AccountId L → Option (AccountId × ℕ)
  | .call (.signed org) _ (.declareAnnualProfit taxYear _ _) => some (org, taxYear)
  | _ => none

/-- **What is declared has not been declared before**, and is from then on. -/
theorem step_marked (i : Input AccountId L) (s s' : State AccountId L)
    (h : step cfg i s = .ok s') :
    Marked s.profitDeclarations s'.profitDeclarations i.declares := by
  cases i with
  | elsewhere ledger =>
    obtain rfl := Except.ok.inj h
    rfl
  | call origin now c =>
    cases c with
    | declareAnnualProfit taxYear profit isLargeFamily =>
      obtain ⟨org, regional, confed, record, rfl, -, -, -, -, hnew, -, l₁, l₂, -, -, rfl⟩ :=
        declareAnnualProfit_eq_ok.mp h
      exact ⟨hnew, record, rfl⟩
    | setRegionalTreasury newAccount | setConfederationTreasury newAccount =>
      obtain ⟨rfl, hs⟩ := ensureRoot_bind_eq_ok.mp h
      obtain rfl := Except.ok.inj hs
      rfl

end Payment

/-! ### The claims of the tax -/

section Arithmetic

variable {AccountId L : Type} [DecidableEq AccountId] [Currency AccountId L]

/-- A large family has a smaller tax on the same profit. -/
theorem baseTaxOf_largeFamily_le (profit : ℕ) :
    baseTaxOf Runtime.profitTax profit true ≤ baseTaxOf Runtime.profitTax profit false :=
  Nat.div_le_div_right (Nat.mul_le_mul_left profit (by decide))

theorem baseTaxOf_mono {cfg : Config} {profit profit' : ℕ} (h : profit ≤ profit')
    (isLargeFamily : Bool) :
    baseTaxOf cfg profit isLargeFamily ≤ baseTaxOf cfg profit' isLargeFamily :=
  Nat.div_le_div_right (Nat.mul_le_mul_right _ h)

/-- **The arithmetic of the tax.** Whoever declares a profit pays the total of the record, the
regional treasury gets seven tenths of it rounded down and the confederation treasury the rest, and
nothing else moves. The total does not fall when the profit or the days rise, a large family pays no
more than anybody else for the same profit at the same time, and over a run every account declares
every year at most once. -/
theorem profit_tax :
    (∀ (origin : Origin AccountId) now taxYear profit isLargeFamily (s s' : State AccountId L),
      declareAnnualProfit Runtime.profitTax origin now taxYear profit isLargeFamily s = .ok s' →
        ∃ org regional confed record, origin = .signed org ∧ s.regionalTreasury = some regional ∧
          s.confederationTreasury = some confed ∧
          assess Runtime.profitTax now taxYear profit isLargeFamily = .ok record ∧
          s'.profitDeclarations = s.profitDeclarations.insert (org, taxYear) record ∧
          record.regionalShare + record.confederationShare = record.totalPaid ∧
          record.regionalShare = 7 * record.totalPaid / 10 ∧
          Paid s.ledger s'.ledger org regional confed record) ∧
    (∀ now now' taxYear taxYear' profit profit' isLargeFamily record record',
      assess Runtime.profitTax now taxYear profit isLargeFamily = .ok record →
      assess Runtime.profitTax now' taxYear' profit' isLargeFamily = .ok record' →
      profit ≤ profit' → daysLate now taxYear ≤ daysLate now' taxYear' →
        record.totalPaid ≤ record'.totalPaid) ∧
    (∀ now taxYear profit family standard,
      assess Runtime.profitTax now taxYear profit true = .ok family →
      assess Runtime.profitTax now taxYear profit false = .ok standard →
        family.totalPaid ≤ standard.totalPaid) ∧
    ∀ (is : List (Input AccountId L)) s org taxYear,
      accepted (step Runtime.profitTax) (fun i => i.declares = some (org, taxYear)) is s ≤ 1 := by
  refine ⟨?_, ?_, ?_, ?_⟩
  · intro origin now taxYear profit isLargeFamily s s' h
    obtain ⟨org, regional, confed, record, horg, hregional, hconfed, -, -, -, hrecord, l₁, l₂,
      h₁, h₂, rfl⟩ := declareAnnualProfit_eq_ok.mp h
    obtain ⟨-, -, -, hbill⟩ := assess_eq_ok.mp hrecord
    -- the confederation gets what the floor of seven tenths leaves
    have hregionalShare : record.regionalShare = 7 * record.totalPaid / 10 := by
      rw [hbill]
      simp only [bill]
      omega
    have hshares : record.regionalShare + record.confederationShare = record.totalPaid := by
      rw [hbill]
      simp only [bill]
      omega
    exact ⟨org, regional, confed, record, horg, hregional, hconfed, hrecord, rfl, hshares,
      hregionalShare, paid_of_transfers hshares h₁ h₂⟩
  · intro now now' taxYear taxYear' profit profit' isLargeFamily record record' h h' hprofit hdays
    -- both records are bills, whose totals are monotone
    obtain ⟨-, -, -, rfl⟩ := assess_eq_ok.mp h
    obtain ⟨-, -, -, rfl⟩ := assess_eq_ok.mp h'
    exact totalOf_mono (baseTaxOf_mono hprofit isLargeFamily) hdays
  · intro now taxYear profit family standard hfamily hstandard
    obtain ⟨-, -, -, rfl⟩ := assess_eq_ok.mp hfamily
    obtain ⟨-, -, -, rfl⟩ := assess_eq_ok.mp hstandard
    exact totalOf_mono (baseTaxOf_largeFamily_le profit) (Nat.le_refl _)
  · intro is s org taxYear
    exact Marked.accepted_le_one step_marked is s (org, taxYear)

end Arithmetic

/-- The citizen 1 declares a profit of ten units for the first year, ten days late. -/
theorem profit_tax_ten_units : ∃ record s', declareAnnualProfit Runtime.profitTax (.signed 1)
      (yearStartSecs 2026 + 116 * 86400) 2026 (10 * CentralBank.unit) false
        Runtime.profitTaxGenesis = .ok s' ∧
    Paid Runtime.profitTaxGenesis.ledger s'.ledger 1 2 3 record := by
  obtain ⟨hpaid, -⟩ := @profit_tax ℕ (Runtime.NativeLedger ℕ) _ _
  obtain ⟨s', h⟩ := exists_ok (x := declareAnnualProfit Runtime.profitTax (.signed 1)
    (yearStartSecs 2026 + 116 * 86400) 2026 (10 * CentralBank.unit) false
      Runtime.profitTaxGenesis) (by decide +kernel)
  obtain ⟨org, regional, confed, record, horg, hregional, hconfed, -, -, -, -, hp⟩ :=
    hpaid _ _ _ _ _ _ _ h
  obtain rfl : 1 = org := Origin.signed.inj horg
  obtain rfl : 2 = regional := Option.some.inj hregional
  obtain rfl : 3 = confed := Option.some.inj hconfed
  exact ⟨record, s', h, hp⟩

end AnnualProfitTax
