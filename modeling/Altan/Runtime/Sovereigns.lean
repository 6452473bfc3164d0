import Mathlib.Data.Sym.Sym2
import Altan.Identity.Marriages
import Altan.Runtime.StateAccounts

/-!
# The accounts of nations, states and families

The nations, the groups and the foreign states have accounts without keys: the name of a module and
a number of four bytes. The number of a council is that of its nation with one more bit, and the
number of a mission is that of its country before that of its slot. A couple has the hash of its two
accounts in order.

## Main definitions

* `Sovereign`, `Sovereign.account`: who has an account of a module, and which
* `deriveFamilyAccount`, `familySeed`: the account of a couple, and what it hashes

## Main results

* `sovereign_accounts`: which of them share an account
* `families_apart`: in every run each couple hashes something else
-/

open Dispatch TransitionSystem

namespace Runtime

/-! ### Derivations -/

/-- The account of the treasury of an indigenous nation. -/
def indigenousTreasury (nationId : UInt16) : AccountId32 :=
  intoSubAccountTruncating "alt/ind!" nationId.toNat

/-- The account of the council of an indigenous nation: the high bit marks it. -/
def indigenousCouncil (nationId : UInt16) : AccountId32 :=
  intoSubAccountTruncating "alt/ind!" (0x8000 ||| nationId.toNat)

/-- The account of the treasury of a naturalized group. -/
def naturalizedTreasury (groupId : UInt16) : AccountId32 :=
  intoSubAccountTruncating "alt/nat!" groupId.toNat

/-- An account of a foreign state. -/
def diplomaticAccount (countryCode : UInt16) (slot : UInt8) : AccountId32 :=
  intoSubAccountTruncating "alt/dip!" (countryCode.toNat <<< 8 ||| slot.toNat)

/-- Who has an account of a module. -/
inductive Sovereign
  | treasury (nationId : UInt16)
  | council (nationId : UInt16)
  | group (groupId : UInt16)
  | mission (countryCode : UInt16) (slot : UInt8)
  deriving DecidableEq

namespace Sovereign

/-- The account. -/
def account : Sovereign → AccountId32
  | treasury nationId => indigenousTreasury nationId
  | council nationId => indigenousCouncil nationId
  | group groupId => naturalizedTreasury groupId
  | mission countryCode slot => diplomaticAccount countryCode slot

/-- The name of the module. -/
def palletId : Sovereign → String
  | treasury _ | council _ => "alt/ind!"
  | group _ => "alt/nat!"
  | mission _ _ => "alt/dip!"

/-- The number of the account. -/
def key : Sovereign → ℕ
  | treasury nationId => nationId.toNat
  | council nationId => 0x8000 ||| nationId.toNat
  | group groupId => groupId.toNat
  | mission countryCode slot => countryCode.toNat <<< 8 ||| slot.toNat

/-- Of the numbers of nations fifteen bits are used: a treasury with one more is a council. -/
def canonical : Sovereign → Sovereign
  | treasury nationId =>
    if nationId.toNat < 0x8000 then treasury nationId
    else council (UInt16.ofNat (nationId.toNat % 0x8000))
  | council nationId => council (UInt16.ofNat (nationId.toNat % 0x8000))
  | group groupId => group groupId
  | mission countryCode slot => mission countryCode slot

/-- The number of a nation, if it is one, has fifteen bits. -/
def Proper : Sovereign → Prop
  | treasury nationId | council nationId => nationId.toNat < 0x8000
  | _ => True

/-- The high bit is added, if it is not there. -/
theorem or_highBit {n : ℕ} (hn : n < 2 ^ 16) : 0x8000 ||| n = 0x8000 + n % 0x8000 := by
  have hadd : ∀ m < 2 ^ 15, 0x8000 ||| m = 0x8000 + m := fun m hm =>
    (Nat.shiftLeft_add_eq_or_of_lt hm 1).symm
  by_cases hlt : n < 0x8000
  · rw [hadd n hlt, Nat.mod_eq_of_lt hlt]
  · obtain ⟨m, rfl⟩ := Nat.exists_eq_add_of_le (Nat.not_lt.mp hlt)
    have hm : m < 2 ^ 15 := by omega
    rw [← hadd m hm, ← Nat.or_assoc, Nat.or_self, hadd m hm]
    omega

/-- The code of the country comes before the slot. -/
theorem key_mission (countryCode : UInt16) (slot : UInt8) :
    (mission countryCode slot).key = 256 * countryCode.toNat + slot.toNat := by
  change countryCode.toNat <<< 8 ||| slot.toNat = _
  rw [← Nat.shiftLeft_add_eq_or_of_lt slot.toNat_lt, Nat.shiftLeft_eq]
  omega

theorem key_council (nationId : UInt16) :
    (council nationId).key = 0x8000 + nationId.toNat % 0x8000 :=
  or_highBit nationId.toNat_lt

theorem key_lt (a : Sovereign) : a.key < 256 ^ 4 := by
  cases a with
  | treasury nationId => exact nationId.toNat_lt.trans (by decide)
  | council nationId =>
    rw [key_council]
    omega
  | group groupId => exact groupId.toNat_lt.trans (by decide)
  | mission countryCode slot =>
    have hcode := countryCode.toNat_lt
    have hslot := slot.toNat_lt
    rw [key_mission]
    omega

theorem toNat_ofNat_mod (n : ℕ) : (UInt16.ofNat (n % 0x8000)).toNat = n % 0x8000 :=
  UInt16.toNat_ofNat_of_lt' ((Nat.mod_lt n (by decide)).trans (by decide))

theorem canonical_treasury (nationId : UInt16) :
    (treasury nationId).canonical = if nationId.toNat < 0x8000 then treasury nationId
      else council (UInt16.ofNat (nationId.toNat % 0x8000)) := rfl

theorem proper_canonical (a : Sovereign) : a.canonical.Proper := by
  have hcouncil : ∀ n : ℕ, (council (UInt16.ofNat (n % 0x8000))).Proper := by
    intro n
    show (UInt16.ofNat (n % 0x8000)).toNat < 0x8000
    rw [toNat_ofNat_mod]
    exact Nat.mod_lt n (by decide)
  cases a with
  | treasury nationId =>
    rw [canonical_treasury]
    split
    · next hlt => exact hlt
    · exact hcouncil _
  | council nationId => exact hcouncil _
  | group groupId => trivial
  | mission countryCode slot => trivial

theorem canonical_of_proper {a : Sovereign} (h : a.Proper) : a.canonical = a := by
  cases a with
  | treasury nationId => exact if_pos h
  | council nationId =>
    show council (UInt16.ofNat (nationId.toNat % 0x8000)) = council nationId
    rw [Nat.mod_eq_of_lt h, UInt16.ofNat_toNat]
  | group groupId => rfl
  | mission countryCode slot => rfl

theorem palletId_canonical (a : Sovereign) : a.canonical.palletId = a.palletId := by
  cases a with
  | treasury nationId =>
    rw [canonical_treasury]
    split <;> rfl
  | _ => rfl

theorem key_canonical (a : Sovereign) : a.canonical.key = a.key := by
  cases a with
  | treasury nationId =>
    rw [canonical_treasury]
    split
    · rfl
    · next hge =>
      have hlt := nationId.toNat_lt
      rw [key_council, toNat_ofNat_mod]
      show _ = nationId.toNat
      omega
  | council nationId =>
    show (council _).key = _
    rw [key_council, key_council, toNat_ofNat_mod, Nat.mod_mod]
  | group groupId => rfl
  | mission countryCode slot => rfl

/-- Where the numbers of nations have fifteen bits, the name of the module and the number make up
who has the account. -/
theorem eq_of_proper {a b : Sovereign} (ha : a.Proper) (hb : b.Proper)
    (hpallet : ascii a.palletId = ascii b.palletId) (hkey : a.key = b.key) : a = b := by
  have hind_nat : ascii "alt/ind!" ≠ ascii "alt/nat!" := by decide
  have hind_dip : ascii "alt/ind!" ≠ ascii "alt/dip!" := by decide
  have hnat_dip : ascii "alt/nat!" ≠ ascii "alt/dip!" := by decide
  cases a with
  | treasury m =>
    cases b with
    | treasury n => exact congrArg treasury (UInt16.toNat_inj.mp hkey)
    | council n =>
      rw [key_council] at hkey
      change m.toNat < 0x8000 at ha
      change m.toNat = _ at hkey
      omega
    | group n => exact absurd hpallet hind_nat
    | mission c t => exact absurd hpallet hind_dip
  | council m =>
    cases b with
    | treasury n =>
      rw [key_council] at hkey
      change n.toNat < 0x8000 at hb
      change _ = n.toNat at hkey
      omega
    | council n =>
      rw [key_council, key_council] at hkey
      change m.toNat < 0x8000 at ha
      change n.toNat < 0x8000 at hb
      exact congrArg council (UInt16.toNat_inj.mp (by omega))
    | group n => exact absurd hpallet hind_nat
    | mission c t => exact absurd hpallet hind_dip
  | group m =>
    cases b with
    | treasury n | council n => exact absurd hpallet hind_nat.symm
    | group n => exact congrArg group (UInt16.toNat_inj.mp hkey)
    | mission c t => exact absurd hpallet hnat_dip
  | mission c s =>
    cases b with
    | treasury n | council n => exact absurd hpallet hind_dip.symm
    | group n => exact absurd hpallet hnat_dip.symm
    | mission d t =>
      have hs := s.toNat_lt
      have ht := t.toNat_lt
      rw [key_mission, key_mission] at hkey
      have hcode : c = d := UInt16.toNat_inj.mp (by omega)
      have hslot : s = t := UInt8.toNat_inj.mp (by omega)
      rw [hcode, hslot]

theorem length_palletId (a : Sovereign) : (ascii a.palletId).length = 8 := by
  have hlength : ∀ p ∈ ["alt/ind!", "alt/nat!", "alt/dip!"], (ascii p).length = 8 := by decide
  cases a with
  | treasury | council => exact hlength "alt/ind!" (by simp)
  | group => exact hlength "alt/nat!" (by simp)
  | mission => exact hlength "alt/dip!" (by simp)

theorem account_eq (a : Sovereign) : a.account = intoSubAccountTruncating a.palletId a.key := by
  cases a <;> rfl

end Sovereign

/-- The account of a module with a number is its name and the number, if they fit. -/
theorem intoSubAccountTruncating_inj {p q : String} (hp : (ascii p).length = 8)
    (hq : (ascii q).length = 8) {m n : ℕ} (hm : m < 256 ^ 4) (hn : n < 256 ^ 4) :
    intoSubAccountTruncating p m = intoSubAccountTruncating q n ↔ ascii p = ascii q ∧ m = n := by
  have hlength : ∀ {r : String} (k : ℕ), (ascii r).length = 8 →
      (ascii "modl" ++ ascii r ++ Scale.littleEndian 4 k).length = 16 := by
    intro r k hr
    rw [List.length_append, List.length_append, hr, Scale.length_littleEndian]
    rfl
  have hbytes : ∀ {r : String} (k : ℕ), (ascii r).length = 8 →
      (intoSubAccountTruncating r k).bytes =
        ascii "modl" ++ ascii r ++ Scale.littleEndian 4 k ++ List.replicate 16 0 := by
    intro r k hr
    unfold intoSubAccountTruncating truncating
    dsimp only
    rw [List.take_of_length_le (by rw [hlength k hr]; omega), hlength k hr]
  rw [← AccountId32.bytes_inj, hbytes m hp, hbytes n hq]
  constructor
  · intro h
    have hkeyed := List.append_inj_left h (by rw [hlength m hp, hlength n hq])
    obtain ⟨hnamed, hnumber⟩ := List.append_inj' hkeyed (by simp)
    exact ⟨List.append_cancel_left hnamed, Scale.littleEndian_injective hm hn hnumber⟩
  · rintro ⟨hname, rfl⟩
    rw [hname]

/-- **Which accounts are shared.** Two of the nations, councils, groups and missions have one
account just if they are the same but for the high bit of the number of a nation, and where the
numbers of nations have fifteen bits no two of them do. -/
theorem sovereign_accounts (a b : Sovereign) :
    (a.account = b.account ↔ a.canonical = b.canonical) ∧ (a.Proper → a.canonical = a) := by
  refine ⟨?_, Sovereign.canonical_of_proper⟩
  rw [a.account_eq, b.account_eq, intoSubAccountTruncating_inj a.length_palletId b.length_palletId
    a.key_lt b.key_lt]
  constructor
  · rintro ⟨hpallet, hkey⟩
    apply Sovereign.eq_of_proper a.proper_canonical b.proper_canonical
    · rw [a.palletId_canonical, b.palletId_canonical, hpallet]
    · rw [a.key_canonical, b.key_canonical, hkey]
  · intro h
    rw [← a.palletId_canonical, ← b.palletId_canonical, ← a.key_canonical, ← b.key_canonical, h]
    exact ⟨rfl, rfl⟩

/-! ### Families -/

/-- What the account of a couple hashes: the two accounts in order. -/
def familySeed (a b : AccountId32) : List UInt8 :=
  let sorted := if b.bytes < a.bytes then (b, a) else (a, b)
  ascii "family/" ++ sorted.1.bytes ++ sorted.2.bytes

/-- The account of a couple. -/
def deriveFamilyAccount (a b : AccountId32) : AccountId32 := blake2_256 (familySeed a b)

theorem familySeed_of_lt {a b : AccountId32} (h : b.bytes < a.bytes) :
    familySeed a b = ascii "family/" ++ b.bytes ++ a.bytes := by
  unfold familySeed
  rw [if_pos h]

theorem familySeed_of_le {a b : AccountId32} (h : a.bytes ≤ b.bytes) :
    familySeed a b = ascii "family/" ++ a.bytes ++ b.bytes := by
  unfold familySeed
  rw [if_neg (List.not_lt.mpr h)]

/-- It does not matter who of the two comes first. -/
theorem familySeed_comm (a b : AccountId32) : familySeed a b = familySeed b a := by
  by_cases hlt : a.bytes < b.bytes
  · rw [familySeed_of_lt hlt, familySeed_of_le (List.le_of_lt hlt)]
  have hle := List.not_lt.mp hlt
  by_cases hgt : b.bytes < a.bytes
  · rw [familySeed_of_lt hgt, familySeed_of_le (List.le_of_lt hgt)]
  · rw [AccountId32.bytes_inj.mp (List.le_antisymm (List.not_lt.mp hgt) hle)]

theorem appended_inj {a b c d : AccountId32}
    (h : ascii "family/" ++ a.bytes ++ b.bytes = ascii "family/" ++ c.bytes ++ d.bytes) :
    a = c ∧ b = d := by
  rw [List.append_assoc, List.append_assoc] at h
  obtain ⟨hfirst, hsecond⟩ :=
    List.append_inj (List.append_cancel_left h) (a.length_eq.trans c.length_eq.symm)
  exact ⟨AccountId32.bytes_inj.mp hfirst, AccountId32.bytes_inj.mp hsecond⟩

/-- Just the same two accounts make up the same. -/
theorem familySeed_inj {a b c d : AccountId32} :
    familySeed a b = familySeed c d ↔ s(a, b) = s(c, d) := by
  constructor
  · -- either pair may be put in order
    intro h
    wlog hab : a.bytes ≤ b.bytes generalizing a b
    · rw [Sym2.eq_swap]
      exact this (familySeed_comm b a ▸ h) ((List.le_total _ _).resolve_left hab)
    wlog hcd : c.bytes ≤ d.bytes generalizing c d
    · rw [@Sym2.eq_swap _ c d]
      exact this (h.trans (familySeed_comm c d)) ((List.le_total _ _).resolve_left hcd)
    rw [familySeed_of_le hab, familySeed_of_le hcd] at h
    obtain ⟨rfl, rfl⟩ := appended_inj h
    rfl
  · intro h
    rcases Sym2.eq_iff.mp h with ⟨rfl, rfl⟩ | ⟨rfl, rfl⟩
    · rfl
    · exact familySeed_comm a b

variable {L : Type} [Currency AccountId32 L] [ReservableCurrency AccountId32 L]

/-- Both of a couple derive one account, and no other couple hashes the same. -/
def FamiliesApart (w : Identity.World AccountId32 L) : Prop :=
  ∀ a b c d, w.marriages.get a = some b → w.marriages.get c = some d →
    deriveFamilyAccount a b = deriveFamilyAccount b a ∧
      (familySeed a b = familySeed c d ↔ c = a ∨ c = b)

omit [Currency AccountId32 L] [ReservableCurrency AccountId32 L] in
theorem familiesApart_of_matching {w : Identity.World AccountId32 L}
    (h : Identity.Matching w.marriages) : FamiliesApart w := by
  intro a b c d hab hcd
  refine ⟨congrArg blake2_256 (familySeed_comm a b), ?_⟩
  rw [familySeed_inj, Sym2.eq_iff]
  constructor
  · rintro (⟨hac, -⟩ | ⟨-, hbc⟩)
    · exact Or.inl hac.symm
    · exact Or.inr hbc.symm
  · rintro (rfl | rfl)
    · exact Or.inl ⟨rfl, Option.some.inj (hab.symm.trans hcd)⟩
    · exact Or.inr ⟨Option.some.inj ((h.symm hab).symm.trans hcd), rfl⟩

/-- **In every run no two couples hash the same.** The two of a couple derive one account, whoever
of them is named first, and whoever else is married hashes something else. -/
theorem families_apart (cfg : Identity.Config AccountId32 L) (ledger : L) (now : ℕ)
    (xs : List (Identity.Input AccountId32)) :
    Throughout (Identity.step cfg) FamiliesApart xs (Identity.World.genesis ledger now) := by
  have hwed : Throughout (Identity.step cfg) Identity.Wed xs
      (Identity.World.genesis ledger now) :=
    throughout_of_along (fun x w w' hw _ h => hw.step h) (Identity.wed_genesis ledger now)
      (along_true xs _)
  exact hwed.imp fun w hw => familiesApart_of_matching hw.matching

end Runtime
