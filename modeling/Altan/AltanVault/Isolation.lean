import Altan.Runtime.Constants

/-!
# Whose vault an account can empty

Of the address of a vault the owner accounts for twenty bytes. So two owners have the same address
under the same number exactly when they agree in the first twenty bytes, and then what arrives for
one of them is paid out to whichever withdraws first. Otherwise nobody but the owner takes anything
from a vault.

## Main definitions

* `Spares`: a call takes from no vault of anybody but its signer
* `Harmless`: what a call must not be in order to spare the vaults of others

## Main results

* `vaultAccount_eq_iff`: which vaults have one address
* `spares_iff`: the calls that spare the vaults of others
* `isolated_iff`: the runs that take from no vault but by its owner
* `vault_emptied`: a run in which one account empties the vault of another
-/

open Bounded Dispatch Ledger TransitionSystem Runtime

namespace AltanVault

section Spares

variable {AccountId L : Type} [DecidableEq AccountId] [Currency AccountId L]
  {cfg : Config AccountId} {x : Input AccountId} {s s' : State AccountId L}

/-- If the call is accepted, it takes from no vault of anybody but its signer. -/
def Spares (cfg : Config AccountId) (s : State AccountId L) (x : Input AccountId) : Prop :=
  ∀ s', step cfg x s = .ok s' → ∀ owner index, s.Open owner index → x.origin ≠ .signed owner →
    freeBalance s.ledger (vaultAccount cfg owner index) ≤
      freeBalance s'.ledger (vaultAccount cfg owner index)

/-- A call spares the vaults of others when its payment, if it moves anything, is not made from the
address of one of them. -/
theorem spares_iff (h : step cfg x s = .ok s') : Spares cfg s x ↔
    ∀ signer p, x.origin = .signed signer → x.call.payment cfg signer = some p → p.moved ≠ 0 →
      ∀ owner index, s.Open owner index → vaultAccount cfg owner index = p.payer →
        owner = signer := by
  obtain ⟨signer, horigin, hledger⟩ := step_payment h
  have hsigner : ∀ a, x.origin = .signed a ↔ a = signer := by
    intro a
    rw [horigin, Origin.signed.injEq, eq_comm]
  unfold Spares
  rcases hledger with ⟨hnone, hsame⟩ | ⟨p, hp, hmade⟩
  · refine iff_of_true (fun t ht owner index _ _ => ?_) fun a p ha hp => ?_
    · rw [← Except.ok.inj (h.symm.trans ht), hsame]
    · rw [(hsigner a).mp ha, hnone] at hp
      cases hp
  constructor
  · intro hspares a q ha hq hmoved owner index hopen haddress
    obtain rfl := (hsigner a).mp ha
    obtain rfl : p = q := Option.some.inj (hp.symm.trans hq)
    by_contra hne
    have hle := hspares s' h owner index hopen fun ho => hne ((hsigner owner).mp ho)
    rcases (hmade.free_le_iff _).mp hle with hzero | hpayer
    · exact hmoved hzero
    · exact hpayer haddress
  · intro hharmless t ht owner index hopen hother
    rw [← Except.ok.inj (h.symm.trans ht)]
    apply (hmade.free_le_iff _).mpr
    by_contra hn
    obtain ⟨hmoved, haddress⟩ := not_or.mp hn
    have howner := hharmless signer p horigin hp hmoved owner index hopen (not_not.mp haddress)
    exact hother ((hsigner owner).mpr howner)

end Spares

/-! ### The addresses of the runtime -/

/-- The address of a vault: four bytes, the eight of the module and the number, and the first twenty
of the owner. -/
theorem bytes_vaultAccount (owner : AccountId32) (index : UInt16) :
    (vaultAccount altanVault owner index).bytes = ascii "modl" ++
      (vaultPalletId altanVault.palletId index).toList ++ owner.bytes.take 20 := by
  have hlength :
      (ascii "modl" ++ (vaultPalletId altanVault.palletId index).toList).length = 12 := by
    rw [List.length_append, Vector.length_toList]
    rfl
  exact bytes_truncating_append hlength owner.length_eq

/-- The two bytes of a number determine it. -/
theorem toBeBytes_injective {i j : UInt16} (hfst : (toBeBytes i).1 = (toBeBytes j).1)
    (hsnd : (toBeBytes i).2 = (toBeBytes j).2) : i = j := by
  have hhigh := congrArg UInt8.toNat hfst
  have hlow := congrArg UInt8.toNat hsnd
  have hi := i.toNat_lt
  have hj := j.toNat_lt
  simp [toBeBytes, Nat.shiftRight_eq_div_pow] at hhigh hlow
  apply UInt16.toNat_inj.mp
  omega

/-- Different numbers give different bytes of the module. -/
theorem vaultPalletId_injective {palletId : PalletId} {i j : UInt16}
    (h : vaultPalletId palletId i = vaultPalletId palletId j) : i = j := by
  have hhigh : palletId[6] ^^^ (toBeBytes i).1 = palletId[6] ^^^ (toBeBytes j).1 := by
    have hget := congrArg (fun v : PalletId => v[6]) h
    simpa [vaultPalletId] using hget
  have hlow : palletId[7] ^^^ (toBeBytes i).2 = palletId[7] ^^^ (toBeBytes j).2 := by
    have hget := congrArg (fun v : PalletId => v[7]) h
    simpa [vaultPalletId] using hget
  exact toBeBytes_injective ((UInt8.xor_right_inj _).mp hhigh) ((UInt8.xor_right_inj _).mp hlow)

/-- **Which vaults have one address**: those of owners that agree in the first twenty bytes, under
one number. -/
theorem vaultAccount_eq_iff {owner owner' : AccountId32} {index index' : UInt16} :
    vaultAccount altanVault owner index = vaultAccount altanVault owner' index' ↔
      owner.bytes.take 20 = owner'.bytes.take 20 ∧ index = index' := by
  constructor
  · intro h
    have hbytes := congrArg AccountId32.bytes h
    rw [bytes_vaultAccount, bytes_vaultAccount] at hbytes
    have hlength : (ascii "modl" ++ (vaultPalletId altanVault.palletId index).toList).length =
        (ascii "modl" ++ (vaultPalletId altanVault.palletId index').toList).length := by
      simp
    obtain ⟨hagree, howner⟩ := List.append_inj hbytes hlength
    refine ⟨howner, @vaultPalletId_injective altanVault.palletId index index' ?_⟩
    exact Vector.toList_inj.mp (List.append_cancel_left hagree)
  · rintro ⟨howner, rfl⟩
    have hbytes : (vaultAccount altanVault owner index).bytes =
        (vaultAccount altanVault owner' index).bytes := by
      rw [bytes_vaultAccount, bytes_vaultAccount, howner]
    exact AccountId32.bytes_inj.mp hbytes

/-! ### Runs -/

variable {L : Type} [Currency AccountId32 L] {s : State AccountId32 L} {x : Input AccountId32}
  {xs : List (Input AccountId32)}

/-- A withdrawal moves nothing, or nobody else who agrees with the signer in the first twenty bytes
has a vault under its number. A transfer moves nothing, or the signer is not the address of a vault
of somebody else, for which nobody has a key. -/
def Harmless (s : State AccountId32 L) (x : Input AccountId32) : Prop :=
  match x.origin, x.call with
  | .signed caller, .withdrawToOwner index amount =>
    amount = 0 ∨ vaultAccount altanVault caller index = caller ∨
      ∀ owner, s.Open owner index → owner.bytes.take 20 = caller.bytes.take 20 → owner = caller
  | .signed source, .transfer dest amount _ =>
    amount = 0 ∨ source = dest ∨
      ∀ owner index, s.Open owner index → vaultAccount altanVault owner index = source →
        owner = source
  | _, _ => True

/-- A payment moves something, unless it is of nothing or to its payer. -/
theorem Payment.moved_ne_zero {p : Payment AccountId32} :
    p.moved ≠ 0 ↔ ¬ (p.amount = 0 ∨ p.payer = p.payee) := by
  unfold Payment.moved
  by_cases h : p.payer = p.payee
  · simp [h]
  · simp [h]

/-- The calls that spare the vaults of others are the harmless ones. -/
theorem spares_iff_harmless {s' : State AccountId32 L} (h : step altanVault x s = .ok s') :
    Spares altanVault s x ↔ Harmless s x := by
  obtain ⟨signer, horigin, -⟩ := step_payment h
  rw [spares_iff h]
  obtain ⟨origin, now, call⟩ := x
  obtain rfl : origin = .signed signer := horigin
  -- only one payment is asked about, if any
  have hpayment : ∀ q : Payment AccountId32, call.payment altanVault signer = some q →
      ((∀ a p, Origin.signed signer = .signed a → call.payment altanVault a = some p → p.moved ≠ 0 →
        ∀ owner index, s.Open owner index → vaultAccount altanVault owner index = p.payer →
          owner = a) ↔ q.amount = 0 ∨ q.payer = q.payee ∨ ∀ owner index, s.Open owner index →
            vaultAccount altanVault owner index = q.payer → owner = signer) := by
    intro q hq
    rw [← or_assoc, or_iff_not_imp_left, ← Payment.moved_ne_zero]
    constructor
    · intro hall
      exact hall signer q rfl hq
    · intro hone a p ha hp
      obtain rfl := Origin.signed.inj ha
      obtain rfl := Option.some.inj (hq.symm.trans hp)
      exact hone
  cases call with
  | createVault index => exact iff_of_true (fun _ _ _ hp => by cases hp) trivial
  | recordInbound owner index amount => exact iff_of_true (fun _ _ _ hp => by cases hp) trivial
  | withdrawToOwner index amount =>
    rw [hpayment _ rfl]
    refine or_congr_right (or_congr_right ⟨fun hall owner hopen hagree => ?_,
      fun hall owner j hopen haddress => ?_⟩)
    · exact hall owner index hopen (vaultAccount_eq_iff.mpr ⟨hagree, rfl⟩)
    · obtain ⟨hagree, rfl⟩ := vaultAccount_eq_iff.mp haddress
      exact hall owner hopen hagree
  | transfer dest amount er => exact hpayment _ rfl

/-- **Isolation of the vaults.** Two vaults have one address just when their owners agree in the
first twenty bytes and their numbers are the same; and the runs in which no call takes from a vault
of anybody but its signer are those of harmless calls. -/
theorem isolated_iff :
    (∀ owner index owner' index',
      vaultAccount altanVault owner index = vaultAccount altanVault owner' index' ↔
        owner.bytes.take 20 = owner'.bytes.take 20 ∧ index = index') ∧
    (Along (step altanVault) (Spares altanVault) xs s ↔ Along (step altanVault) Harmless xs s) := by
  refine ⟨fun _ _ _ _ => vaultAccount_eq_iff, ?_⟩
  exact along_congr_of_step fun _ _ _ h => spares_iff_harmless h

/-- The saver puts a hundred units into a vault, and the twin takes them out. -/
theorem vault_emptied : ¬ ∀ xs, Along (step altanVault) (Spares altanVault) xs vaultGenesis := by
  intro h
  let saving : List (Input AccountId32) :=
    [vaultCall saver (.createVault 0),
      vaultCall saver (.transfer (vaultAccount altanVault saver 0) (100 * CentralBank.unit)
        .keepAlive),
      vaultCall twin (.createVault 0)]
  obtain ⟨s', hs'⟩ := exists_ok (by decide +kernel : Except.isOk (step altanVault
    (vaultCall twin (.withdrawToOwner 0 (100 * CentralBank.unit)))
    (run (step altanVault) saving vaultGenesis)) = true)
  obtain ⟨-, -, -, hlast, -⟩ :=
    h (saving ++ [vaultCall twin (.withdrawToOwner 0 (100 * CentralBank.unit))])
  rcases (spares_iff_harmless hs').mp (hlast s' hs') with hzero | hself | hnobody
  · exact absurd hzero (by decide)
  · exact absurd hself (by decide +kernel)
  · have hopen := StorageMap.containsKey_iff.mp (by decide +kernel :
      (run (step altanVault) saving vaultGenesis).vaults.containsKey (saver, 0) = true)
    exact absurd (hnobody saver hopen (by decide)) (by decide)

end AltanVault
