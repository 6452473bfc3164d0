import Altan.Runtime.Genesis
import Altan.ShieldedVaults.Model

/-!
# The accounts of the state

The shielded vaults are closed to the accounts of the state, which a guard names by fixed bytes. The
treasuries that the chain uses are other accounts: at genesis those of the central bank and of the
Bank of Siberia are hashes of signatories, and the distribution makes pure proxies. So the guard
lets the accounts of genesis through, in every state, and their funds enter the pool like those of
anybody.

## Main definitions

* `isStateAccount`: the guard
* `StateMoney.World`, `StateMoney.step`: the banking branch with the shielded vaults on one ledger
* `StateMoney.IsTreasury`: the accounts the chain uses as treasuries

## Main results

* `shieldFunds_accepted_iff`: whose funds may be shielded
* `treasuries_unguarded`: in no run does the guard know all treasuries
* `genesis_free_centralBank`: the central bank can pay at genesis
* `treasury_shielded`: so it shields a unit
-/

open Bounded Dispatch TransitionSystem

namespace Runtime

/-! ### The guard -/

/-- An account of a region: its number, a letter, and zeros. -/
def regionalAccount (region : ℕ) (letter : UInt8) : AccountId32 :=
  truncating [UInt8.ofNat (region / 256), UInt8.ofNat region, letter]

/-- The account of the citizens of a region, as the guard has it. -/
def regionalCitizenFund (region : ℕ) : AccountId32 := regionalAccount region 82

/-- The account of the government of a region, as the guard has it. -/
def regionalGovTreasury (region : ℕ) : AccountId32 := regionalAccount region 83

/-- The guard: whether an account is one of the state. -/
def isStateAccount (who : AccountId32) : Bool :=
  decide (who = labelled "BANK_OF_SIBERIA_MASTER") ||
    decide (who = labelled "CONFEDERATION_BUDGET") ||
    decide (who = labelled "FEDERAL_SWEEP_ACCOUNT") ||
    (List.range 84).any fun region =>
      decide (who = regionalCitizenFund region) || decide (who = regionalGovTreasury region)

/-- The shielded vaults of the runtime. -/
def stateVaults : ShieldedVaults.Config AccountId32 where
  isStateAccount := isStateAccount
  confederationTreasury := labelled "CONFEDERATION_BUDGET"

/-- The accounts that genesis gives to the central bank and to the Bank of Siberia. -/
def genesisTreasuries : List AccountId32 := [centralBankAccount, bankOfSiberiaMainReserveAccount]

/-- The accounts the guard knows begin with a letter of their name, or with a zero. -/
theorem head_of_isStateAccount {who : AccountId32} (h : isStateAccount who = true) :
    who.bytes.head? ∈ [some 66, some 67, some 70, some 0] := by
  have hregion : ∀ region < 84, ∀ letter,
      (regionalAccount region letter).bytes.head? = some 0 := by
    intro region hlt letter
    show some (UInt8.ofNat (region / 256)) = some 0
    rw [Nat.div_eq_of_lt (by omega)]
    rfl
  simp only [isStateAccount, Bool.or_eq_true, decide_eq_true_eq, List.any_eq_true,
    List.mem_range] at h
  rcases h with ((rfl | rfl) | rfl) | ⟨region, hlt, rfl | rfl⟩
  · decide +kernel
  · decide +kernel
  · decide +kernel
  · simp [regionalCitizenFund, hregion region hlt]
  · simp [regionalGovTreasury, hregion region hlt]

/-- The account of the central bank by its first byte. -/
theorem head_centralBankAccount : centralBankAccount.bytes.head? = some 182 := by decide +kernel

/-- The account of the Bank of Siberia by its first byte. -/
theorem head_bankOfSiberiaMainReserveAccount :
    bankOfSiberiaMainReserveAccount.bytes.head? = some 171 := by
  decide +kernel

/-- **The guard knows none of the treasuries of genesis.** -/
theorem isStateAccount_genesisTreasuries :
    ∀ a ∈ genesisTreasuries, isStateAccount a = false := by
  intro a ha
  have hhead : a.bytes.head? = some 182 ∨ a.bytes.head? = some 171 := by
    rcases List.mem_pair.mp ha with rfl | rfl
    · exact Or.inl head_centralBankAccount
    · exact Or.inr head_bankOfSiberiaMainReserveAccount
  by_contra hguard
  have hmem := head_of_isStateAccount (Bool.not_eq_false _ ▸ hguard)
  rcases hhead with h | h
  · rw [h] at hmem
    exact absurd hmem (by decide)
  · rw [h] at hmem
    exact absurd hmem (by decide)

end Runtime

namespace StateMoney

open Runtime

/-! ### The vaults beside the banks -/

variable {L : Type}

/-- The storage of the banking branch, and that of the shielded vaults on the same ledger. -/
structure World (L : Type) where
  banks : Runtime.State AccountId32 L
  vaults : ShieldedVaults.State Unit

/-- The shielded vaults with the ledger. -/
def World.pool (w : World L) : ShieldedVaults.State L := { w.vaults with ledger := w.banks.ledger }

/-- The banking branch on another ledger. -/
def onLedger (s : Runtime.State AccountId32 L) (ledger : L) : Runtime.State AccountId32 L :=
  { s with bankOfSiberia := { s.bankOfSiberia with
      centralBank := { s.bankOfSiberia.centralBank with ledger := ledger } } }

/-- The world after the shielded vaults have changed. -/
def World.withPool (w : World L) (pool : ShieldedVaults.State L) : World L where
  banks := onLedger w.banks pool.ledger
  vaults := { pool with ledger := () }

/-- The storage at genesis. -/
def World.genesis (cfg : BankOfSiberia.Config AccountId32) :
    World (NativeLedger AccountId32) where
  banks := genesisState cfg
  vaults := ShieldedVaults.genesis ()

/-- What is submitted: an extrinsic of the banking branch, or a call of the shielded vaults. -/
inductive Input
  | banks (x : Extrinsic AccountId32)
  | vaults (x : ShieldedVaults.Extrinsic AccountId32)

/-- The errors of the banking branch and of the shielded vaults. -/
inductive Error
  | banks (e : Runtime.Error)
  | vaults (e : ShieldedVaults.Error)
  deriving DecidableEq, Repr

variable [Currency AccountId32 L] [CentralBank.ProxyModule AccountId32 L]
  [LockableCurrency AccountId32 L] {cfg : BankOfSiberia.Config AccountId32} {w : World L}

/-- One input as a step of the state machine. -/
def step (cfg : BankOfSiberia.Config AccountId32) :
    Input → World L → Except (DispatchError Error) (World L)
  | .banks x, w => do
    let banks ← (Runtime.step cfg x w.banks).mapError (DispatchError.map .banks)
    return { w with banks := banks }
  | .vaults x, w => do
    let pool ← (ShieldedVaults.step stateVaults x w.pool).mapError (DispatchError.map .vaults)
    return w.withPool pool

/-- The accounts that the chain uses as treasuries: the two of genesis, and those that the
distribution has made for the confederation and the regions. -/
def IsTreasury (w : World L) (a : AccountId32) : Prop :=
  a ∈ genesisTreasuries ∨ w.banks.bankOfSiberia.centralBank.confederationTreasury = some a ∨
    ∃ region, w.banks.bankOfSiberia.centralBank.regionalTreasuries.get region = some a ∨
      w.banks.bankOfSiberia.centralBank.pensionFunds.get region = some a

/-- A call of an account that shields funds. -/
def shielding (who : AccountId32) (amount : ℕ) (commitment : Bytes32) (orgId : Option ℕ) : Input :=
  .vaults (⟨.signed who, 0, fun _ => none⟩, .shieldFunds amount commitment orgId)

/-- **Whose funds may be shielded**: those of any account the guard does not know, if it can pay
them. -/
theorem shieldFunds_accepted_iff {who : AccountId32} {amount : ℕ} {commitment : Bytes32}
    {orgId : Option ℕ} :
    (∃ w', step cfg (shielding who amount commitment orgId) w = .ok w') ↔
      isStateAccount who = false ∧ w.pool.isActive commitment = false ∧
        ∃ l, Currency.withdraw w.banks.ledger who amount .keepAlive = .ok l := by
  constructor
  · rintro ⟨w', hw⟩
    obtain ⟨pool, hpool, -⟩ := mapError_bind_eq_ok.mp hw
    obtain ⟨caller, horigin, hguard, hactive, l, hl, -⟩ := ShieldedVaults.shieldFunds_eq_ok.mp hpool
    rw [← Origin.signed.inj horigin] at hguard hl
    exact ⟨hguard, hactive, l, hl⟩
  · rintro ⟨hguard, hactive, l, hl⟩
    exact ⟨_, mapError_bind_eq_ok.mpr ⟨_, ShieldedVaults.shieldFunds_eq_ok.mpr
      ⟨who, rfl, hguard, hactive, l, hl, rfl⟩, rfl⟩⟩

/-- **State money does not stay public.** After no run does the guard know all treasuries: it knows
neither that of the central bank nor that of the Bank of Siberia, and these shield whatever they
can pay, under any commitment that is not active. -/
theorem treasuries_unguarded (xs : List Input) (w : World L) :
    let w' := run (step cfg) xs w
    (¬ ∀ a, IsTreasury w' a → isStateAccount a = true) ∧
      ∀ a ∈ genesisTreasuries, ∀ amount commitment orgId,
        (∃ w'', step cfg (shielding a amount commitment orgId) w' = .ok w'') ↔
          w'.pool.isActive commitment = false ∧
            ∃ l, Currency.withdraw w'.banks.ledger a amount .keepAlive = .ok l := by
  intro w'
  constructor
  · intro h
    have hmem : centralBankAccount ∈ genesisTreasuries := List.mem_cons_self
    have hguard := h centralBankAccount (Or.inl hmem)
    rw [isStateAccount_genesisTreasuries _ hmem] at hguard
    cases hguard
  · intro a ha amount commitment orgId
    rw [shieldFunds_accepted_iff]
    exact and_iff_right (isStateAccount_genesisTreasuries a ha)

/-! ### The central bank at genesis -/

/-- The first byte of the account of an address, if it is valid. -/
def addressHead (address : String) : Option UInt8 := do
  let number ← base58Number address
  (((Scale.littleEndian 35 number).reverse.take 33).drop 1).head?

/-- The account of an address by its first byte, without the checksum. -/
theorem head_expectSs58 (address : String) : (expectSs58 address).bytes.head? = some 0 ∨
    (expectSs58 address).bytes.head? = addressHead address := by
  unfold expectSs58 fromSs58check addressHead
  cases base58Number address with
  | none => exact Or.inl rfl
  | some number =>
    dsimp only [Option.bind_eq_bind, Option.bind_some]
    split_ifs
    · exact Or.inr rfl
    · exact Or.inl rfl
    · exact Or.inl rfl

/-- The addresses of the institutions and of the first users begin with another byte. -/
theorem head_addresses : ∀ address ∈ [creatorAddress, agTreasuryAddress, khuralFoundationAddress,
    siberianFoundationAddress, aliceAddress], (expectSs58 address).bytes.head? ≠ some 182 := by
  have hhead : ∀ address ∈ [creatorAddress, agTreasuryAddress, khuralFoundationAddress,
      siberianFoundationAddress, aliceAddress], addressHead address ≠ some 182 := by
    decide +kernel
  intro address haddress h
  rcases head_expectSs58 address with hzero | hvalid
  · rw [hzero] at h
    exact absurd h (by decide)
  · exact hhead address haddress (hvalid.symm.trans h)

/-- The accounts of modules begin with another byte. -/
theorem head_allSovereignNationAccounts :
    ∀ p ∈ allSovereignNationAccounts, p.1.bytes.head? ≠ some 182 := by
  have hhead : ∀ palletId sub,
      (intoSubAccountTruncating palletId sub).bytes.head? ≠ some 182 := by
    intro palletId sub
    show some 109 ≠ some 182
    decide
  intro p hp
  unfold allSovereignNationAccounts at hp
  rcases List.mem_append.mp hp with hp | hp
  · rcases List.mem_append.mp hp with hp | hp
    · obtain ⟨id, _, hid⟩ := List.mem_flatMap.mp hp
      simp only [List.mem_cons, List.not_mem_nil, or_false] at hid
      rcases hid with rfl | rfl
      · exact hhead _ _
      · exact hhead _ _
    · obtain ⟨id, _, rfl⟩ := List.mem_map.mp hp
      exact hhead _ _
  · obtain ⟨countryCode, _, hslot⟩ := List.mem_flatMap.mp hp
    obtain ⟨slot, _, rfl⟩ := List.mem_map.mp hslot
    exact hhead _ _

theorem buildState_ledger (cfg : BankOfSiberia.Config AccountId32)
    (balances : List (AccountId32 × ℕ)) :
    (buildState cfg balances).ledger = Balances.ofFree balances := rfl

/-- At genesis nothing is locked. -/
theorem genesis_frozen (cfg : BankOfSiberia.Config AccountId32) (a : AccountId32) :
    (genesisState cfg).ledger.frozen a = 0 := by
  apply Balances.frozen_eq_zero
  unfold genesisState
  rw [buildState_ledger]
  exact fun id => Balances.ofFree_lockAmount genesisBalances id a

/-- At genesis the central bank has the whole supply. -/
theorem genesis_free_centralBank (cfg : BankOfSiberia.Config AccountId32) :
    Ledger.freeBalance (genesisState cfg).ledger centralBankAccount = totalSupply := by
  unfold genesisState
  rw [buildState_freeBalance]
  -- the two entries before its own, and those after
  let before := [(confederationTreasuryAccount, existentialDeposit),
    (labelled "FEDERAL_SWEEP_ACCOUNT", CentralBank.unit)]
  let institutions := [(bankOfSiberiaMainReserveAccount, existentialDeposit),
    (expectSs58 agTreasuryAddress, existentialDeposit),
    (expectSs58 khuralFoundationAddress, existentialDeposit),
    (labelled "VALIDATOR_POOL_ACCT", existentialDeposit),
    (expectSs58 siberianFoundationAddress, CentralBank.unit)]
  let users := [(expectSs58 aliceAddress, 1000 * CentralBank.unit),
    (creatorSudoAccount, citizenSeed)]
  have hsplit : genesisBalances = before ++ (centralBankAccount, totalSupply) ::
      (institutions ++ allSovereignNationAccounts ++ users) := by
    simp only [genesisBalances, before, institutions, users, List.cons_append, List.nil_append]
  have hothers : ∀ p ∈ institutions ++ users, p.1.bytes.head? ≠ some 182 := by
    simp only [institutions, users, List.cons_append, List.nil_append, List.forall_mem_cons]
    refine ⟨head_bankOfSiberiaMainReserveAccount ▸ by decide, head_addresses _ (by decide),
      head_addresses _ (by decide),
      by decide +kernel, head_addresses _ (by decide), head_addresses _ (by decide),
      head_addresses _ (by decide), by simp⟩
  have hdeposit : existentialDeposit ≤ totalSupply := by decide
  have hfits : (before.map Prod.snd).sum + totalSupply ≤ u128Max := by
    simp only [before, List.map_cons, List.map_nil, List.sum_cons, List.sum_nil]
    decide
  rw [hsplit, Balances.ofFree_last hdeposit hfits]
  · rintro p hp hself
    rw [← head_centralBankAccount, ← hself] at hothers
    have hsovereign := head_allSovereignNationAccounts p
    rw [← head_centralBankAccount, ← hself] at hsovereign
    rcases List.mem_append.mp hp with hp | huser
    · rcases List.mem_append.mp hp with hinstitution | hmodule
      · exact hothers p (List.mem_append_left _ hinstitution) rfl
      · exact hsovereign hmodule rfl
    · exact hothers p (List.mem_append_right _ huser) rfl

/-- Who has the whole supply, without locks, can pay a unit. -/
theorem withdraw_unit {l : NativeLedger AccountId32} {a : AccountId32}
    (hfree : Ledger.freeBalance l a = totalSupply) (hfrozen : l.frozen a = 0) :
    ∃ l', Currency.withdraw l a CentralBank.unit .keepAlive = .ok l' := by
  have hkeep : CentralBank.unit + existentialDeposit ≤ totalSupply := by decide
  have hsupply : (l.account a).free = totalSupply := hfree
  apply Balances.withdraw_isOk
  · rwa [hsupply]
  · rw [hsupply, hfrozen]
    exact (Nat.le_add_right _ _).trans hkeep

/-- At genesis the central bank shields a unit. -/
theorem treasury_shielded : ¬ ∀ xs a, IsTreasury
    (run (step altanUnsigned) xs (World.genesis altanUnsigned)) a → isStateAccount a = true ∧
      ∀ amount commitment orgId w', step altanUnsigned (shielding a amount commitment orgId)
        (run (step altanUnsigned) xs (World.genesis altanUnsigned)) ≠ .ok w' := by
  intro h
  have hmem : centralBankAccount ∈ genesisTreasuries := List.mem_cons_self
  have hpaid := withdraw_unit (genesis_free_centralBank altanUnsigned)
    (genesis_frozen altanUnsigned centralBankAccount)
  have hactive : (World.genesis altanUnsigned).pool.isActive (.ofByte 1) = false :=
    StorageMap.getD_empty _ _
  have haccepted : ∃ w', step altanUnsigned
      (shielding centralBankAccount CentralBank.unit (.ofByte 1) none)
      (World.genesis altanUnsigned) = .ok w' :=
    shieldFunds_accepted_iff.mpr ⟨isStateAccount_genesisTreasuries _ hmem, hactive, hpaid⟩
  obtain ⟨w', hw'⟩ := haccepted
  exact (h [] centralBankAccount (Or.inl hmem)).2 _ _ _ w' hw'

end StateMoney
