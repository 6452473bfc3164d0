import Mathlib.Data.List.GetD
import Mathlib.Data.List.Nodup
import Mathlib.Tactic.Common

/-!
# Texts as bytes

A text of Latin characters has one byte for each. Bytes are written in hexadecimal with two lower
case digits each, and numbers in decimal without leading zeros; both are read back.

## Main definitions

* `latin text`: the bytes of a text
* `hexadecimal bytes`, `decimal n`: bytes and numbers as texts

## Main results

* `hexadecimal_injective`, `decimal_injective`: different values have different texts
-/

namespace Text

/-- The bytes of a text, one for each character. -/
def latin (text : List Char) : List UInt8 := text.map fun c => UInt8.ofNat c.toNat

/-- The sixteen digits. -/
def digits : List UInt8 := latin ['0', '1', '2', '3', '4', '5', '6', '7', '8', '9', 'a', 'b', 'c',
  'd', 'e', 'f']

/-- The digit of a number below sixteen. -/
def digit (half : UInt8) : UInt8 := digits.getD half.toNat 0

/-- Bytes in hexadecimal, the high half of each first. -/
def hexadecimal (bytes : List UInt8) : List UInt8 :=
  bytes.flatMap fun (b : UInt8) => [digit (b >>> 4), digit (b &&& 0xf)]

/-- A number in decimal. -/
def decimal (n : ℕ) : List UInt8 := latin (Nat.toDigits 10 n)

variable {bytes bytes' : List UInt8} {b b' : UInt8} {m n : ℕ}

/-! ### Hexadecimal -/

/-- Different halves have different digits. -/
theorem digit_injective (hb : b.toNat < 16) (hb' : b'.toNat < 16) (h : digit b = digit b') :
    b = b' := by
  have hnodup : digits.Nodup := by decide
  have hlength : digits.length = 16 := rfl
  unfold digit at h
  rw [List.getD_eq_getElem digits 0 (hlength ▸ hb), List.getD_eq_getElem digits 0 (hlength ▸ hb'),
    hnodup.getElem_inj_iff] at h
  exact UInt8.toNat.inj h

theorem toNat_high (b : UInt8) : (b >>> 4).toNat = b.toNat / 16 := by
  rw [UInt8.toNat_shiftRight]
  exact Nat.shiftRight_eq_div_pow b.toNat 4

theorem toNat_low (b : UInt8) : (b &&& 0xf).toNat = b.toNat % 16 := by
  rw [UInt8.toNat_and]
  exact Nat.and_two_pow_sub_one_eq_mod b.toNat 4

/-- A byte is determined by its halves. -/
theorem eq_of_halves (hhigh : b >>> 4 = b' >>> 4) (hlow : b &&& 0xf = b' &&& 0xf) : b = b' := by
  have hdiv := congrArg UInt8.toNat hhigh
  have hmod := congrArg UInt8.toNat hlow
  rw [toNat_high, toNat_high] at hdiv
  rw [toNat_low, toNat_low] at hmod
  apply UInt8.toNat.inj
  rw [← Nat.div_add_mod b.toNat 16, ← Nat.div_add_mod b'.toNat 16, hdiv, hmod]

@[simp] theorem length_hexadecimal (bytes : List UInt8) :
    (hexadecimal bytes).length = 2 * bytes.length := by
  induction bytes with
  | nil => rfl
  | cons b bytes ih =>
    rw [hexadecimal, List.flatMap_cons, List.length_append, ← hexadecimal, ih]
    simp only [List.length_cons, List.length_nil]
    omega

/-- **Different bytes are written differently.** -/
theorem hexadecimal_injective (h : hexadecimal bytes = hexadecimal bytes') : bytes = bytes' := by
  induction bytes generalizing bytes' with
  | nil =>
    cases bytes' with
    | nil => rfl
    | cons b' bytes' => cases h
  | cons b bytes ih =>
    cases bytes' with
    | nil => cases h
    | cons b' bytes' =>
      obtain ⟨hhigh, h⟩ := List.cons.inj h
      obtain ⟨hlow, h⟩ := List.cons.inj h
      -- the two digits give the byte, and the induction the rest
      have hhalf : ∀ b : UInt8, (b >>> 4).toNat < 16 ∧ (b &&& 0xf).toNat < 16 := by
        intro b
        rw [toNat_high, toNat_low]
        have hlt : b.toNat < 256 := b.toNat_lt
        omega
      have hbyte : b = b' := eq_of_halves (digit_injective (hhalf b).1 (hhalf b').1 hhigh)
        (digit_injective (hhalf b).2 (hhalf b').2 hlow)
      rw [hbyte, ih h]

/-! ### Decimal -/

/-- Texts of characters within a byte have different bytes. -/
theorem latin_injective {text text' : List Char} (htext : ∀ c ∈ text, c.toNat < 256)
    (htext' : ∀ c ∈ text', c.toNat < 256) (h : latin text = latin text') : text = text' := by
  -- the characters are read back from the bytes
  have hread : ∀ text : List Char, (∀ c ∈ text, c.toNat < 256) →
      (latin text).map (fun b => Char.ofNat b.toNat) = text := by
    intro text htext
    rw [latin, List.map_map]
    refine (List.map_congr_left fun c hc => ?_).trans (List.map_id text)
    have hbyte : (UInt8.ofNat c.toNat).toNat = c.toNat := UInt8.toNat_ofNat_of_lt' (htext c hc)
    simp only [Function.comp_apply, hbyte, Char.ofNat_toNat, id_eq]
  rw [← hread text htext, ← hread text' htext', h]

theorem toNat_lt_of_mem_toDigits {c : Char} (h : c ∈ Nat.toDigits 10 n) : c.toNat < 256 := by
  have hdigit := Nat.isDigit_of_mem_toDigits (Nat.succ_pos 9) Nat.le.refl h
  simp only [Char.isDigit, Bool.and_eq_true, decide_eq_true_eq] at hdigit
  have hle : c.toNat ≤ 57 := hdigit.2
  omega

/-- **Different numbers are written differently.** -/
theorem decimal_injective (h : decimal m = decimal n) : m = n := by
  have htext := latin_injective (fun _ => toNat_lt_of_mem_toDigits)
    (fun _ => toNat_lt_of_mem_toDigits) h
  rw [← Nat.ofDigitChars_ten_toDigits (n := m), htext, Nat.ofDigitChars_ten_toDigits]

end Text
