import Altan.Runtime.Constants

/-!
# The counters of the vaults

Beside the module, what arrives at every address is counted, and what every vault pays out. The
number of vaults of an owner is always counted right and never exceeds its bound. The counters of a
vault follow what is counted beside them as long as reports stay within what has arrived, a vault
is opened at an address that has kept what arrived, and a withdrawal is the only way out of its
address and leaves no dust.

## Main definitions

* `Movements`, `record`: what has arrived and what has been paid out
* `Audited`: the counters agree with it
* `Faithful`: what a call must be for the counters to go on agreeing

## Main results

* `audited_iff`: the runs in which the counters agree
* `inbound_spoofed`: a stranger reports what has not arrived
-/

open Bounded Dispatch Ledger TransitionSystem Runtime

namespace AltanVault

/-- What has arrived at every address, and what every vault has paid out. -/
structure Movements (AccountId : Type) where
  arrived : AccountId → ℕ
  paid : AccountId × UInt16 → ℕ

variable {AccountId L : Type} [DecidableEq AccountId]

/-- Nothing has moved. -/
def Movements.none : Movements AccountId := ⟨fun _ => 0, fun _ => 0⟩

/-- What has arrived after a payment. -/
def Movements.arrive (h : Movements AccountId) (p : Payment AccountId) : AccountId → ℕ :=
  Function.update h.arrived p.payee (h.arrived p.payee + p.moved)

/-- What has moved after an accepted call. -/
def record (cfg : Config AccountId) (_ : State AccountId L) (x : Input AccountId)
    (h : Movements AccountId) : Movements AccountId :=
  match x.origin with
  | .signed signer =>
    match x.call.payment cfg signer, x.call with
    | some p, .withdrawToOwner index _ =>
      ⟨h.arrive p, Function.update h.paid (signer, index) (h.paid (signer, index) + p.moved)⟩
    | some p, _ => { h with arrived := h.arrive p }
    | none, _ => h
  | _ => h

theorem Movements.arrive_apply (h : Movements AccountId) (p : Payment AccountId) (a : AccountId) :
    h.arrive p a = h.arrived a + if a = p.payee then p.moved else 0 := by
  unfold arrive
  by_cases ha : a = p.payee
  · rw [ha, Function.update_self, if_pos rfl]
  · rw [Function.update_of_ne ha, if_neg ha, Nat.add_zero]

/-- The numbers under which an account has vaults. -/
def State.vaultsOf (s : State AccountId L) (owner : AccountId) : Finset (AccountId × UInt16) :=
  s.vaults.keys.filter fun k => k.1 = owner

variable [Currency AccountId L] {cfg : Config AccountId} {x : Input AccountId}
  {s s' : State AccountId L} {h : Movements AccountId}
  {t t' : State AccountId L × Movements AccountId} {owner caller : AccountId} {index : UInt16}
  {amount : ℕ} {v : VaultInfo AccountId} {l l' : L} {p : Payment AccountId}

/-- The counters of a vault: no more is reported than has arrived, what is paid out is counted, and
the address holds the rest. -/
structure Real (cfg : Config AccountId) (l : L) (h : Movements AccountId) (owner : AccountId)
    (index : UInt16) (v : VaultInfo AccountId) : Prop where
  deposited : v.totalDeposited ≤ h.arrived (vaultAccount cfg owner index)
  withdrawn : v.totalWithdrawn = h.paid (owner, index)
  balance : freeBalance l (vaultAccount cfg owner index) + v.totalWithdrawn =
    h.arrived (vaultAccount cfg owner index)

/-- The counters of all vaults. -/
def AllReal (cfg : Config AccountId) (t : State AccountId L × Movements AccountId) : Prop :=
  ∀ owner index v, t.1.vaults.get (owner, index) = some v → Real cfg t.1.ledger t.2 owner index v

/-- The vaults are counted, no owner has too many, and what is not opened has paid out nothing. -/
structure Counted (cfg : Config AccountId) (t : State AccountId L × Movements AccountId) :
    Prop where
  count : ∀ owner, t.1.count owner = (t.1.vaultsOf owner).card
  capped : ∀ owner, t.1.count owner ≤ cfg.maxVaultsPerOwner
  unopened : ∀ k, t.1.vaults.get k = none → t.2.paid k = 0

/-- The counters are right: those of the vaults, and the numbers of vaults. -/
structure Audited (cfg : Config AccountId) (t : State AccountId L × Movements AccountId) :
    Prop where
  real : AllReal cfg t
  count : ∀ owner, t.1.count owner = (t.1.vaultsOf owner).card
  capped : ∀ owner, t.1.count owner ≤ cfg.maxVaultsPerOwner

/-- A vault is opened where what has arrived still is; what is reported has arrived; a withdrawal is
counted in full and, if it moves anything, leaves no dust and is made from the address of one vault
only; and no transfer is made from the address of a vault, for which nobody has a key. -/
def Faithful (cfg : Config AccountId) (t : State AccountId L × Movements AccountId)
    (x : Input AccountId) : Prop :=
  match x.origin, x.call with
  | .signed owner, .createVault index =>
    freeBalance t.1.ledger (vaultAccount cfg owner index) =
      t.2.arrived (vaultAccount cfg owner index)
  | .signed _, .recordInbound owner index amount =>
    ∀ v, t.1.vaults.get (owner, index) = some v →
      saturatingAdd u128Max v.totalDeposited amount ≤ t.2.arrived (vaultAccount cfg owner index)
  | .signed caller, .withdrawToOwner index amount =>
    let address := vaultAccount cfg caller index
    let moved := if address = caller then 0 else amount
    (∀ v, t.1.vaults.get (caller, index) = some v →
      saturatingAdd u128Max v.totalWithdrawn amount = v.totalWithdrawn + moved) ∧
      (moved ≠ 0 → remainder t.1.ledger address amount = freeBalance t.1.ledger address - amount ∧
        ∀ owner j, t.1.Open owner j → vaultAccount cfg owner j = address →
          (owner, j) = (caller, index))
  | .signed source, .transfer dest amount _ =>
    (if source = dest then 0 else amount) ≠ 0 →
      ∀ owner index, t.1.Open owner index → vaultAccount cfg owner index ≠ source
  | _, _ => True

/-! ### What is counted beside a payment -/

/-- An address that nothing is taken from holds more by what arrives. -/
theorem Payment.Made.free_of_ne (hmade : p.Made l l') {a : AccountId}
    (ha : p.moved = 0 ∨ a ≠ p.payer) :
    freeBalance l' a = freeBalance l a + if a = p.payee then p.moved else 0 := by
  rcases hmade.cases with ⟨hzero, rfl⟩ | ⟨hmoved, hv, -, ht⟩
  · rw [hzero, ite_self, Nat.add_zero]
  · have hne : a ≠ p.payer := ha.resolve_left (hmoved ▸ hv)
    by_cases hpayee : a = p.payee
    · rw [if_pos hpayee, hpayee, ht.dest, hmoved]
    · rw [if_neg hpayee, ht.others a hne hpayee, Nat.add_zero]

/-- What a vault has counted stays right through a payment that is not made from its address. -/
theorem Real.payment (hreal : Real cfg l h owner index v) (hmade : p.Made l l')
    (hne : p.moved = 0 ∨ vaultAccount cfg owner index ≠ p.payer)
    {h' : Movements AccountId} (harrived : h'.arrived = h.arrive p)
    (hpaid : h'.paid (owner, index) = h.paid (owner, index)) :
    Real cfg l' h' owner index v := by
  have hle := hreal.deposited
  have hbalance := hreal.balance
  constructor
  · rw [harrived, Movements.arrive_apply]
    omega
  · rw [hpaid]
    exact hreal.withdrawn
  · rw [harrived, Movements.arrive_apply, hmade.free_of_ne hne]
    omega

/-- What a vault has counted is wrong after a payment from its address that it does not count. -/
theorem Real.not_payment (hreal : Real cfg l h owner index v) (hmade : p.Made l l')
    (hmoved : p.moved ≠ 0) (hpayer : vaultAccount cfg owner index = p.payer)
    {h' : Movements AccountId} (harrived : h'.arrived = h.arrive p) :
    ¬ Real cfg l' h' owner index v := by
  intro hreal'
  rcases hmade.cases with ⟨hzero, -⟩ | ⟨-, hv, hne, ht⟩
  · exact hmoved hzero
  have hbefore := hreal.balance
  have hafter := hreal'.balance
  rw [harrived, Movements.arrive_apply, hpayer, if_neg hne] at hafter
  rw [hpayer] at hbefore
  have hsource := ht.source
  have hfunded := ht.funded
  have hle := remainder_le l p.payer p.amount
  omega

/-! ### The vaults after one call -/

/-- The counters after a new vault: its address must hold what has arrived. -/
theorem allReal_create_iff (hreal : AllReal cfg (s, h)) (hnew : s.vaults.get (owner, index) = none)
    (hpaid : h.paid (owner, index) = 0) {now : ℕ} {counts : StorageMap AccountId ℕ} :
    AllReal cfg ({ s with
      vaults := s.vaults.insert (owner, index) ⟨owner, index, now, 0, 0⟩
      vaultCount := counts }, h) ↔
      freeBalance s.ledger (vaultAccount cfg owner index) =
        h.arrived (vaultAccount cfg owner index) := by
  constructor
  · intro hall
    exact (hall owner index _ StorageMap.get_insert_self).balance
  · intro hkept o i v hv
    rcases StorageMap.get_insert_cases hv with ⟨hk, rfl⟩ | ⟨-, hold⟩
    · obtain ⟨rfl, rfl⟩ := Prod.mk.inj hk
      exact ⟨Nat.zero_le _, hpaid.symm, hkept⟩
    · exact hreal o i v hold

/-- The counters after a report: it must not exceed what has arrived. -/
theorem allReal_record_iff (hreal : AllReal cfg (s, h))
    (hget : s.vaults.get (owner, index) = some v) :
    AllReal cfg ({ s with
      vaults := s.vaults.insert (owner, index)
        { v with totalDeposited := saturatingAdd u128Max v.totalDeposited amount } }, h) ↔
      saturatingAdd u128Max v.totalDeposited amount ≤
        h.arrived (vaultAccount cfg owner index) := by
  constructor
  · intro hall
    exact (hall owner index _ StorageMap.get_insert_self).deposited
  · intro hle o i w hw
    rcases StorageMap.get_insert_cases hw with ⟨hk, rfl⟩ | ⟨-, hold⟩
    · obtain ⟨rfl, rfl⟩ := Prod.mk.inj hk
      have hkept := hreal o i v hget
      exact ⟨hle, hkept.withdrawn, hkept.balance⟩
    · exact hreal o i w hold

/-- The counters after a transfer: it must not be made from the address of a vault. -/
theorem allReal_transfer_iff (hreal : AllReal cfg (s, h)) (hmade : p.Made s.ledger l) :
    AllReal cfg ({ s with ledger := l }, { h with arrived := h.arrive p }) ↔
      (p.moved ≠ 0 → ∀ owner index, s.Open owner index →
        vaultAccount cfg owner index ≠ p.payer) := by
  constructor
  · rintro hall hmoved o i ⟨v, hv⟩ hpayer
    exact (hreal o i v hv).not_payment hmade hmoved hpayer rfl (hall o i v hv)
  · intro hnone o i v hv
    refine (hreal o i v hv).payment hmade ?_ rfl rfl
    by_cases hmoved : p.moved = 0
    · exact Or.inl hmoved
    · exact Or.inr (hnone hmoved o i ⟨v, hv⟩)

/-- The counters after a withdrawal: it must be counted in full, leave no dust, and be made from the
address of no other vault. -/
theorem allReal_withdraw_iff (hreal : AllReal cfg (s, h))
    (hget : s.vaults.get (caller, index) = some v)
    (hpayer : p.payer = vaultAccount cfg caller index) (hmade : p.Made s.ledger l) :
    AllReal cfg
      ({ s with
          vaults := s.vaults.insert (caller, index)
            { v with totalWithdrawn := saturatingAdd u128Max v.totalWithdrawn p.amount }
          ledger := l },
        ⟨h.arrive p, Function.update h.paid (caller, index) (h.paid (caller, index) + p.moved)⟩) ↔
      saturatingAdd u128Max v.totalWithdrawn p.amount = v.totalWithdrawn + p.moved ∧
        (p.moved ≠ 0 →
          remainder s.ledger p.payer p.amount = freeBalance s.ledger p.payer - p.amount ∧
            ∀ owner j, s.Open owner j → vaultAccount cfg owner j = p.payer →
              (owner, j) = (caller, index)) := by
  have hown : Real cfg s.ledger h caller index v := hreal caller index v hget
  -- the vault itself counts right when it counts what is moved and what is left is no dust
  have hself : Real cfg l
      ⟨h.arrive p, Function.update h.paid (caller, index) (h.paid (caller, index) + p.moved)⟩
      caller index
      { v with totalWithdrawn := saturatingAdd u128Max v.totalWithdrawn p.amount } ↔
        saturatingAdd u128Max v.totalWithdrawn p.amount = v.totalWithdrawn + p.moved ∧
          (p.moved ≠ 0 →
            remainder s.ledger p.payer p.amount = freeBalance s.ledger p.payer - p.amount) := by
    have hwithdrawn := hown.withdrawn
    have hbalance := hown.balance
    have hdeposited := hown.deposited
    rw [← hpayer] at hbalance hdeposited
    constructor
    · rintro ⟨-, hcounted, hafter⟩
      dsimp only at hcounted
      rw [Function.update_self] at hcounted
      refine ⟨by omega, fun hmoved => ?_⟩
      rcases hmade.cases with ⟨hzero, -⟩ | ⟨hm, -, hne, ht⟩
      · exact absurd hzero hmoved
      simp only [← hpayer, Movements.arrive_apply, if_neg hne, ht.source] at hafter
      have hfunded := ht.funded
      omega
    · rintro ⟨hcounted, hdust⟩
      constructor
      · simp only [← hpayer, Movements.arrive_apply]
        omega
      · simp only [Function.update_self]
        omega
      · simp only [← hpayer, Movements.arrive_apply]
        rcases hmade.cases with ⟨hzero, rfl⟩ | ⟨hm, hv, hne, ht⟩
        · rw [hzero, ite_self]
          omega
        · have hleft := hdust (hm ▸ hv)
          have hfunded := ht.funded
          rw [if_neg hne, ht.source]
          omega
  constructor
  · intro hall
    obtain ⟨hcounted, hdust⟩ := hself.mp (hall caller index _ StorageMap.get_insert_self)
    refine ⟨hcounted, fun hmoved => ⟨hdust hmoved, ?_⟩⟩
    rintro o j ⟨w, hw⟩ haddress
    by_contra hne
    refine (hreal o j w hw).not_payment hmade hmoved haddress rfl (hall o j w ?_)
    exact (StorageMap.get_insert_of_ne hne).trans hw
  · rintro ⟨hcounted, hmoves⟩ o j w hw
    rcases StorageMap.get_insert_cases hw with ⟨hk, rfl⟩ | ⟨hk, hold⟩
    · obtain ⟨rfl, rfl⟩ := Prod.mk.inj hk
      exact hself.mpr ⟨hcounted, fun hmoved => (hmoves hmoved).1⟩
    · refine (hreal o j w hold).payment hmade ?_ rfl (Function.update_of_ne hk _ _)
      by_cases hmoved : p.moved = 0
      · exact Or.inl hmoved
      · exact Or.inr fun haddress => hk ((hmoves hmoved).2 o j ⟨w, hold⟩ haddress)

omit [Currency AccountId L] in
/-- Writing the entry of a vault that is open changes no number of vaults. -/
theorem Counted.write (hcounted : Counted cfg (s, h))
    (hget : s.vaults.get (owner, index) = some v) (w : VaultInfo AccountId) {l : L}
    {h' : Movements AccountId} (hpaid : ∀ k, k ≠ (owner, index) → h'.paid k = h.paid k) :
    Counted cfg ({ s with vaults := s.vaults.insert (owner, index) w, ledger := l }, h') where
  count o := by
    unfold State.vaultsOf
    rw [StorageMap.keys_insert_of_get hget]
    exact hcounted.count o
  capped := hcounted.capped
  unopened k hk := by
    obtain ⟨hne, hnone⟩ := StorageMap.get_insert_eq_none.mp hk
    rw [hpaid k hne]
    exact hcounted.unopened k hnone

omit [Currency AccountId L] in
/-- A new vault is one more. -/
theorem Counted.create (hcounted : Counted cfg (s, h))
    (hroom : s.count owner < cfg.maxVaultsPerOwner)
    (hnew : s.vaults.get (owner, index) = none) (w : VaultInfo AccountId) :
    Counted cfg ({ s with
      vaults := s.vaults.insert (owner, index) w
      vaultCount := s.vaultCount.insert owner (saturatingAdd u16Max (s.count owner) 1) }, h) := by
  have hnext : saturatingAdd u16Max (s.count owner) 1 = s.count owner + 1 :=
    saturatingAdd_one_of_lt (hroom.trans_le cfg.maxVaultsPerOwner_le)
  have hcount : ∀ o, State.count { s with
      vaults := s.vaults.insert (owner, index) w
      vaultCount := s.vaultCount.insert owner (saturatingAdd u16Max (s.count owner) 1) } o =
        if o = owner then s.count owner + 1 else s.count o := by
    intro o
    rw [← hnext]
    exact StorageMap.getD_insert
  refine ⟨fun o => ?_, fun o => ?_, fun k hk => ?_⟩
  · rw [hcount]
    unfold State.vaultsOf
    rw [StorageMap.keys_insert, Finset.filter_insert]
    by_cases ho : owner = o
    · subst ho
      rw [if_pos rfl, if_pos rfl, Finset.card_insert_of_notMem]
      · exact congrArg Nat.succ (hcounted.count owner)
      · intro hmem
        exact StorageMap.notMem_keys.mpr hnew (Finset.mem_filter.mp hmem).1
    · rw [if_neg (Ne.symm ho), if_neg ho]
      exact hcounted.count o
  · rw [hcount]
    split
    · exact hroom
    · exact hcounted.capped o
  · exact hcounted.unopened k (StorageMap.get_insert_eq_none.mp hk).2

/-- The vaults are counted in every run. -/
theorem counted_step (hcounted : Counted cfg t)
    (hstep : recording (record cfg) (step cfg) x t = .ok t') : Counted cfg t' := by
  obtain ⟨s, h⟩ := t
  obtain ⟨s', h'⟩ := t'
  obtain ⟨⟨origin, now, call⟩, hs, rfl⟩ : ∃ y : Input AccountId, step cfg y s = .ok s' ∧
      h' = record cfg s y h := ⟨x, recording_eq_ok.mp hstep⟩
  cases call with
  | createVault index =>
    obtain ⟨owner, rfl, hroom, hnew, rfl⟩ := createVault_eq_ok.mp hs
    exact hcounted.create hroom hnew _
  | withdrawToOwner index amount =>
    obtain ⟨caller, rfl, v, hv, -, -, l, -, rfl⟩ := withdrawToOwner_eq_ok.mp hs
    exact hcounted.write hv _ fun k hk => Function.update_of_ne hk _ _
  | recordInbound owner index amount =>
    obtain ⟨who, rfl, v, hv, rfl⟩ := recordInbound_eq_ok.mp hs
    exact hcounted.write hv _ fun _ _ => rfl
  | transfer dest amount er =>
    obtain ⟨source, rfl, l, -, rfl⟩ := transfer_eq_ok.mp hs
    exact ⟨hcounted.count, hcounted.capped, hcounted.unopened⟩

/-- **The counters stay right exactly through faithful calls.** -/
theorem allReal_step_iff (hcounted : Counted cfg t) (hreal : AllReal cfg t)
    (hstep : recording (record cfg) (step cfg) x t = .ok t') :
    AllReal cfg t' ↔ Faithful cfg t x := by
  obtain ⟨s, h⟩ := t
  obtain ⟨s', h'⟩ := t'
  obtain ⟨hs, hrecord⟩ := recording_eq_ok.mp hstep
  obtain rfl : h' = record cfg s x h := hrecord
  obtain ⟨origin, now, call⟩ := x
  cases call with
  | createVault index =>
    obtain ⟨owner, rfl, -, hnew, rfl⟩ := createVault_eq_ok.mp hs
    exact allReal_create_iff hreal hnew (hcounted.unopened _ hnew)
  | withdrawToOwner index amount =>
    obtain ⟨caller, rfl, v, hv, -, -, l, hmade, rfl⟩ := withdrawToOwner_eq_ok.mp hs
    refine (allReal_withdraw_iff (p := ⟨vaultAccount cfg caller index, caller, amount, .allowDeath⟩)
      hreal hv rfl hmade).trans (and_congr_left fun _ => ?_)
    exact (StorageMap.forall_get_iff (p := fun v => saturatingAdd u128Max v.totalWithdrawn amount =
      v.totalWithdrawn + if vaultAccount cfg caller index = caller then 0 else amount) hv).symm
  | recordInbound owner index amount =>
    obtain ⟨who, rfl, v, hv, rfl⟩ := recordInbound_eq_ok.mp hs
    exact (allReal_record_iff hreal hv).trans (StorageMap.forall_get_iff
      (p := fun v => saturatingAdd u128Max v.totalDeposited amount ≤
        h.arrived (vaultAccount cfg owner index)) hv).symm
  | transfer dest amount er =>
    obtain ⟨source, rfl, l, hmade, rfl⟩ := transfer_eq_ok.mp hs
    exact allReal_transfer_iff (p := ⟨source, dest, amount, er⟩) hreal hmade

/-! ### Runs -/

/-- **The counters are right in exactly the runs of faithful calls.** -/
theorem audited_iff {xs : List (Input AccountId)} {l : L} :
    Throughout (recording (record cfg) (step cfg)) (Audited cfg) xs
        ((genesis l : State AccountId L), Movements.none) ↔
      Along (recording (record cfg) (step cfg)) (Faithful cfg) xs (genesis l, Movements.none) := by
  have hcounted : Counted cfg ((genesis l : State AccountId L), Movements.none) :=
    ⟨fun _ => rfl, fun _ => Nat.zero_le _, fun _ _ => rfl⟩
  refine throughout_iff_along (J := Counted cfg) (fun _ _ _ => counted_step) ?_ hcounted
    ⟨fun owner index v hv => ?_, hcounted.count, hcounted.capped⟩
  · intro x t t' hc haudited hstep
    rw [← allReal_step_iff hc haudited.real hstep]
    have hc' := counted_step hc hstep
    exact ⟨Audited.real, fun hreal => ⟨hreal, hc'.count, hc'.capped⟩⟩
  · rw [show (genesis l : State AccountId L).vaults.get (owner, index) = none from
      StorageMap.get_empty _] at hv
    cases hv

/-- Into a vault of the saver nothing has come, and the twin reports a thousand units. -/
theorem inbound_spoofed : ¬ ∀ xs, Throughout (recording (record altanVault) (step altanVault))
    (Audited altanVault) xs (vaultGenesis, Movements.none) := by
  intro h
  have hlast := (h [vaultCall saver (.createVault 0),
    vaultCall twin (.recordInbound saver 0 (1000 * CentralBank.unit))]).last.real saver 0
  obtain ⟨v, hv, hreported⟩ : ∃ v : VaultInfo AccountId32,
      (run (recording (record altanVault) (step altanVault)) [vaultCall saver (.createVault 0),
        vaultCall twin (.recordInbound saver 0 (1000 * CentralBank.unit))]
        (vaultGenesis, Movements.none)).1.vaults.get (saver, 0) = some v ∧
          v.totalDeposited = 1000 * CentralBank.unit :=
    ⟨⟨saver, 0, 1, 1000 * CentralBank.unit, 0⟩, by decide +kernel, rfl⟩
  have hdeposited := (hlast v hv).deposited
  rw [hreported] at hdeposited
  revert hdeposited
  decide +kernel

end AltanVault
