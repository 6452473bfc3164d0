import Mathlib.Algebra.Group.Nat.Defs
import Mathlib.Tactic.Common
import Mathlib.Tactic.Ring

/-!
# The SCALE encoding

Unsigned integers are encoded little-endian in their width. A fixed array of bytes is encoded as
its bytes; a byte slice and a vector are preceded by their length in compact form. A tuple is
encoded as its components one after the other.

## Main definitions

* `littleEndian w n`: the `w` bytes of `n`
* `compact n`: the compact form of a length
* `encodeSlice`, `encodeVec`: byte slices and vectors
* `Bytes32`: an array of 32 bytes

## Main results

* `littleEndian_injective`: integers within a width have different encodings
-/

/-- An array of 32 bytes. -/
abbrev Bytes32 : Type := Vector UInt8 32

/-- The array that repeats one byte. -/
def Bytes32.ofByte (byte : UInt8) : Bytes32 := Vector.replicate 32 byte

namespace Scale

/-- The `w` bytes of `n`, the least significant one first. -/
def littleEndian : ℕ → ℕ → List UInt8
  | 0, _ => []
  | w + 1, n => UInt8.ofNat n :: littleEndian w (n / 256)

/-- The compact form of a length below `2 ^ 30`: two bits give the number of bytes. -/
def compact (n : ℕ) : List UInt8 :=
  if n < 2 ^ 6 then littleEndian 1 (4 * n)
  else if n < 2 ^ 14 then littleEndian 2 (4 * n + 1)
  else littleEndian 4 (4 * n + 2)

/-- A byte slice: its length and its bytes. -/
def encodeSlice (bytes : List UInt8) : List UInt8 := compact bytes.length ++ bytes

/-- A vector: its length and its entries. -/
def encodeVec {α : Type} (encode : α → List UInt8) (xs : List α) : List UInt8 :=
  compact xs.length ++ xs.flatMap encode

@[simp] theorem length_littleEndian (w n : ℕ) : (littleEndian w n).length = w := by
  induction w generalizing n with
  | zero => rfl
  | succ w ih => exact congrArg Nat.succ (ih (n / 256))

/-- **Integers within a width have different encodings.** -/
theorem littleEndian_injective {w m n : ℕ} (hm : m < 256 ^ w) (hn : n < 256 ^ w)
    (h : littleEndian w m = littleEndian w n) : m = n := by
  induction w generalizing m n with
  | zero => rw [Nat.lt_one_iff.mp hm, Nat.lt_one_iff.mp hn]
  | succ w ih =>
    obtain ⟨hhead, htail⟩ := List.cons.inj h
    have hbyte : m % 256 = n % 256 := congrArg UInt8.toNat hhead
    -- the first bytes agree, and the induction gives the rest
    rw [pow_succ'] at hm hn
    have hrest : m / 256 = n / 256 :=
      ih (Nat.div_lt_of_lt_mul hm) (Nat.div_lt_of_lt_mul hn) htail
    rw [← Nat.div_add_mod m 256, ← Nat.div_add_mod n 256, hbyte, hrest]

end Scale

/-- The array of the bytes of a number. -/
def Bytes32.ofNat (n : ℕ) : Bytes32 where
  toArray := (Scale.littleEndian 32 n).toArray
  size_toArray := Scale.length_littleEndian 32 n

/-- Numbers within the width have different arrays. -/
theorem Bytes32.ofNat_injective {m n : ℕ} (hm : m < 256 ^ 32) (hn : n < 256 ^ 32)
    (h : Bytes32.ofNat m = Bytes32.ofNat n) : m = n := by
  apply Scale.littleEndian_injective hm hn
  have harray := congrArg Vector.toArray h
  exact congrArg Array.toList harray
