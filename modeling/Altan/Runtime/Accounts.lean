import Altan.Foundation.Blake2b
import Mathlib.Data.List.Sort

/-!
# Accounts of the runtime

An account is 32 bytes: a public key, written with a checksum in base 58, or the hash of what
the account is derived from, or the name of a module with zeros.

## Main definitions

* `AccountId32`: accounts
* `fromSs58check`: the account of an address
* `intoAccountTruncating`, `intoSubAccountTruncating`: the accounts of a module
* `derive7Of10Multisig`, `deriveCbSovereignAccount`: the two derivations of the account of the
  central bank

## Main results

* `sovereignAccount_ne_centralBankAccount`: they give two different accounts
-/

namespace Runtime

/-- An account. -/
structure AccountId32 where
  bytes : List UInt8
  length_eq : bytes.length = 32
  deriving DecidableEq

/-- The hash of the runtime. -/
def blake2_256 (bytes : List UInt8) : AccountId32 where
  bytes := Blake2b.hash 32 bytes
  length_eq := Blake2b.length_hash (by decide) bytes

/-- The first 32 bytes, padded with zeros. -/
def truncating (bytes : List UInt8) : AccountId32 where
  bytes := bytes.take 32 ++ List.replicate (32 - bytes.length) 0
  length_eq := by
    rw [List.length_append, List.length_take, List.length_replicate]
    omega

theorem AccountId32.bytes_inj {a b : AccountId32} : a.bytes = b.bytes ↔ a = b := by
  constructor
  · intro h
    cases a
    cases b
    cases h
    rfl
  · rintro rfl
    rfl

/-- Of 32 bytes behind twelve, the first twenty are left. -/
theorem bytes_truncating_append {before after : List UInt8} (hbefore : before.length = 12)
    (hafter : after.length = 32) :
    (truncating (before ++ after)).bytes = before ++ after.take 20 := by
  show List.take 32 (before ++ after) ++ List.replicate (32 - (before ++ after).length) 0 = _
  rw [List.length_append, hbefore, hafter, List.take_append, hbefore, List.take_of_length_le]
  · simp
  · omega

/-- The bytes of a text of one-byte characters. -/
def ascii (text : String) : List UInt8 := text.toList.map fun c => UInt8.ofNat c.toNat

/-! ### Addresses -/

/-- The digits in base 58. -/
def base58Alphabet : List Char :=
  "123456789ABCDEFGHJKLMNPQRSTUVWXYZabcdefghijkmnopqrstuvwxyz".toList

/-- The number a text stands for in base 58. -/
def base58Number (text : String) : Option ℕ :=
  text.toList.foldlM (fun n c => (base58Alphabet.idxOf? c).map (58 * n + ·)) 0

/-- The account of an address: a byte of prefix below 64, the 32 bytes of the account, and two
bytes of a hash of both. -/
def fromSs58check (address : String) : Option AccountId32 := do
  let number ← base58Number address
  -- a byte of prefix, the account and the checksum, the first digit leading
  let data := (Scale.littleEndian 35 number).reverse
  let body := data.take 33
  if h : (body.drop 1).length = 32 then
    if 256 ^ 34 ≤ number ∧ number < 64 * 256 ^ 34 ∧
        (Blake2b.hash 64 (ascii "SS58PRE" ++ body)).take 2 = data.drop 33 then
      some ⟨body.drop 1, h⟩
    else none
  else none

/-! ### Derived accounts -/

/-- The account of a module. -/
def intoAccountTruncating (palletId : String) : AccountId32 :=
  truncating (ascii "modl" ++ ascii palletId)

/-- The account of a module with a number. -/
def intoSubAccountTruncating (palletId : String) (sub : ℕ) : AccountId32 :=
  truncating (ascii "modl" ++ ascii palletId ++ Scale.littleEndian 4 sub)

/-- The account of a pure proxy: the hash of its creator, the place of its creation, the type of
proxy, which is the first one, and its index. -/
def pureAccount (who : AccountId32) (blockNumber extrinsicIndex index : ℕ) : AccountId32 :=
  blake2_256 (ascii "modlpy/proxy____" ++ who.bytes ++ Scale.littleEndian 4 blockNumber ++
    Scale.littleEndian 4 extrinsicIndex ++ [0] ++ Scale.littleEndian 2 index)

/-- The signatory with a number: the name of the entity, an underscore and the number. -/
def signatory (entityName : List UInt8) (i : ℕ) : AccountId32 where
  bytes := entityName.take 30 ++ List.replicate (30 - entityName.length) 0 ++ [95, UInt8.ofNat i]
  length_eq := by
    rw [List.length_append, List.length_append, List.length_take, List.length_replicate]
    show min 30 _ + _ + 2 = 32
    omega

/-- The ten signatories of an entity, in order. -/
def signatories (entityName : String) : List AccountId32 :=
  ((List.range' 1 10).map (signatory (ascii entityName))).insertionSort
    fun a b => a.bytes ≤ b.bytes

/-- The account of seven of the ten signatories, as the genesis state derives it: the prefix is a
fixed array. -/
def derive7Of10Multisig (entityName : String) : AccountId32 :=
  blake2_256 (ascii "modlpy/utilisig" ++
    Scale.encodeVec AccountId32.bytes (signatories entityName) ++ Scale.littleEndian 2 7)

/-- The account of the central bank, as the configuration of its module derives it: the prefix is
a byte slice. -/
def deriveCbSovereignAccount : AccountId32 :=
  blake2_256 (Scale.encodeSlice (ascii "modlpy/utilisig") ++
    Scale.encodeVec AccountId32.bytes (signatories "CENTRAL_BANK") ++ Scale.littleEndian 2 7)

/-- The account of the central bank in the genesis state. -/
def centralBankAccount : AccountId32 := derive7Of10Multisig "CENTRAL_BANK"

/-- **The two accounts of the central bank differ.** The length of the slice precedes its bytes. -/
theorem sovereignAccount_ne_centralBankAccount :
    deriveCbSovereignAccount ≠ centralBankAccount := by
  decide +kernel

end Runtime
