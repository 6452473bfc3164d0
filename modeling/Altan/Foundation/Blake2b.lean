import Altan.Foundation.Scale

/-!
# The BLAKE2b hash

The unkeyed hash of a list of bytes: blocks of 128 bytes are compressed one after the other into
a state of eight 64-bit words, and the digest is its first bytes.

## Main definitions

* `mix`, `round`, `compress`: the steps of the compression
* `hash nn bytes`: the digest of `nn` bytes

## Main results

* `length_hash`: a digest has the length asked for
-/

namespace Blake2b

/-- The number of values of a word. -/
def wordSize : ℕ := 2 ^ 64

/-- The initial values. -/
def iv : List ℕ :=
  [0x6a09e667f3bcc908, 0xbb67ae8584caa73b, 0x3c6ef372fe94f82b, 0xa54ff53a5f1d36f1,
    0x510e527fade682d1, 0x9b05688c2b3e6c1f, 0x1f83d9abfb41bd6b, 0x5be0cd19137e2179]

/-- The schedules of the message words in the twelve rounds. -/
def sigma : List (List ℕ) :=
  [[0, 1, 2, 3, 4, 5, 6, 7, 8, 9, 10, 11, 12, 13, 14, 15],
    [14, 10, 4, 8, 9, 15, 13, 6, 1, 12, 0, 2, 11, 7, 5, 3],
    [11, 8, 12, 0, 5, 2, 15, 13, 10, 14, 3, 6, 7, 1, 9, 4],
    [7, 9, 3, 1, 13, 12, 11, 14, 2, 6, 5, 10, 4, 0, 15, 8],
    [9, 0, 5, 7, 2, 4, 10, 15, 14, 1, 11, 12, 6, 8, 3, 13],
    [2, 12, 6, 10, 0, 11, 8, 3, 4, 13, 7, 5, 15, 14, 1, 9],
    [12, 5, 1, 15, 14, 13, 4, 10, 0, 7, 6, 3, 9, 2, 8, 11],
    [13, 11, 7, 14, 12, 1, 3, 9, 5, 0, 15, 4, 8, 6, 2, 10],
    [6, 15, 14, 9, 11, 3, 0, 8, 12, 2, 13, 7, 1, 4, 10, 5],
    [10, 2, 8, 4, 7, 6, 1, 5, 15, 11, 9, 14, 3, 12, 13, 0],
    [0, 1, 2, 3, 4, 5, 6, 7, 8, 9, 10, 11, 12, 13, 14, 15],
    [14, 10, 4, 8, 9, 15, 13, 6, 1, 12, 0, 2, 11, 7, 5, 3]]

/-- A word rotated to the right. -/
def rotateRight (x n : ℕ) : ℕ := (x >>> n) ||| ((x <<< (64 - n)) % wordSize)

/-- Mix two message words into four words of the working state. -/
def mix (v : List ℕ) (a b c d x y : ℕ) : List ℕ :=
  let va := (v.getD a 0 + v.getD b 0 + x) % wordSize
  let vd := rotateRight (v.getD d 0 ^^^ va) 32
  let vc := (v.getD c 0 + vd) % wordSize
  let vb := rotateRight (v.getD b 0 ^^^ vc) 24
  let va := (va + vb + y) % wordSize
  let vd := rotateRight (vd ^^^ va) 16
  let vc := (vc + vd) % wordSize
  let vb := rotateRight (vb ^^^ vc) 63
  (((v.set a va).set b vb).set c vc).set d vd

/-- One round: the four columns of the working state, then its four diagonals. -/
def round (m v schedule : List ℕ) : List ℕ :=
  let w i := m.getD (schedule.getD i 0) 0
  -- the columns
  let v := mix v 0 4 8 12 (w 0) (w 1)
  let v := mix v 1 5 9 13 (w 2) (w 3)
  let v := mix v 2 6 10 14 (w 4) (w 5)
  let v := mix v 3 7 11 15 (w 6) (w 7)
  -- the diagonals
  let v := mix v 0 5 10 15 (w 8) (w 9)
  let v := mix v 1 6 11 12 (w 10) (w 11)
  let v := mix v 2 7 8 13 (w 12) (w 13)
  mix v 3 4 9 14 (w 14) (w 15)

/-- The working state of a compression: the state, and the initial values marked with the number
of bytes so far and with the end of the message. -/
def workingState (h : List ℕ) (count : ℕ) (last : Bool) : List ℕ :=
  h ++ ((iv.set 4 (iv.getD 4 0 ^^^ count % wordSize)).set 5
    (iv.getD 5 0 ^^^ count / wordSize)).set 6
      (if last then iv.getD 6 0 ^^^ (wordSize - 1) else iv.getD 6 0)

/-- The state with both halves of the working state. -/
def finish (h v : List ℕ) : List ℕ :=
  List.zipWith (· ^^^ ·) (List.zipWith (· ^^^ ·) h (v.take 8)) (v.drop 8)

/-- Compress a block into the state. -/
def compress (h m : List ℕ) (count : ℕ) (last : Bool) : List ℕ :=
  finish h (sigma.foldl (round m) (workingState h count last))

/-- A little-endian word. -/
def fromLittleEndian : List UInt8 → ℕ
  | [] => 0
  | byte :: bytes => byte.toNat + 256 * fromLittleEndian bytes

/-- The first `n` words of a block, padded with zeros. -/
def words : ℕ → List UInt8 → List ℕ
  | 0, _ => []
  | n + 1, bytes => fromLittleEndian (bytes.take 8) :: words n (bytes.drop 8)

/-- Compress `n + 1` blocks, the last of which may be short. -/
def compressBlocks : ℕ → ℕ → List ℕ → List UInt8 → List ℕ
  | 0, count, h, bytes => compress h (words 16 bytes) (count + bytes.length) true
  | n + 1, count, h, bytes =>
    compressBlocks n (count + 128) (compress h (words 16 bytes) (count + 128) false)
      (bytes.drop 128)

/-- The digest of `nn` bytes. -/
def hash (nn : ℕ) (bytes : List UInt8) : List UInt8 :=
  -- no key, one level of sequential hashing, and the length of the digest
  let h := iv.set 0 (iv.getD 0 0 ^^^ 0x01010000 ^^^ nn)
  let h := compressBlocks ((bytes.length - 1) / 128) 0 h bytes
  (h.flatMap (Scale.littleEndian 8)).take nn

/-! ### The length of a digest -/

@[simp] theorem length_mix (v : List ℕ) (a b c d x y : ℕ) :
    (mix v a b c d x y).length = v.length := by
  unfold mix
  simp only [List.length_set]

@[simp] theorem length_round (m v schedule : List ℕ) : (round m v schedule).length = v.length := by
  unfold round
  simp only [length_mix]

theorem length_rounds (m : List ℕ) (schedules : List (List ℕ)) (v : List ℕ) :
    (schedules.foldl (round m) v).length = v.length := by
  induction schedules generalizing v with
  | nil => rfl
  | cons schedule schedules ih => rw [List.foldl_cons, ih, length_round]

theorem length_workingState {h : List ℕ} (hh : h.length = 8) (count : ℕ) (last : Bool) :
    (workingState h count last).length = 16 := by
  unfold workingState
  rw [List.length_append, List.length_set, List.length_set, List.length_set, hh]
  rfl

theorem length_finish {h v : List ℕ} (hh : h.length = 8) (hv : v.length = 16) :
    (finish h v).length = 8 := by
  unfold finish
  rw [List.length_zipWith, List.length_zipWith, List.length_take, List.length_drop, hh, hv]
  rfl

theorem length_compress {h : List ℕ} (hh : h.length = 8) (m : List ℕ) (count : ℕ) (last : Bool) :
    (compress h m count last).length = 8 :=
  length_finish hh ((length_rounds m sigma _).trans (length_workingState hh count last))

theorem length_compressBlocks {h : List ℕ} (hh : h.length = 8) (n count : ℕ)
    (bytes : List UInt8) : (compressBlocks n count h bytes).length = 8 := by
  induction n generalizing count h bytes with
  | zero => exact length_compress hh _ _ _
  | succ n ih => exact ih (length_compress hh _ _ _) _ _

theorem length_digest (h : List ℕ) :
    (h.flatMap (Scale.littleEndian 8)).length = 8 * h.length := by
  induction h with
  | nil => rfl
  | cons w h ih =>
    rw [List.flatMap_cons, List.length_append, Scale.length_littleEndian, ih, List.length_cons]
    omega

/-- **A digest has the length asked for**, up to 64 bytes. -/
theorem length_hash {nn : ℕ} (hnn : nn ≤ 64) (bytes : List UInt8) :
    (hash nn bytes).length = nn := by
  have hinitial : (iv.set 0 (iv.getD 0 0 ^^^ 0x01010000 ^^^ nn)).length = 8 := List.length_set
  unfold hash
  rw [List.length_take, length_digest, length_compressBlocks hinitial]
  exact Nat.min_eq_left hnn

/-- The digest of the letters `abc`. -/
example : hash 32 [97, 98, 99] =
    [0xbd, 0xdd, 0x81, 0x3c, 0x63, 0x42, 0x39, 0x72, 0x31, 0x71, 0xef, 0x3f, 0xee, 0x98, 0x57,
      0x9b, 0x94, 0x96, 0x4e, 0x3b, 0xb1, 0xcb, 0x3e, 0x42, 0x72, 0x62, 0xc8, 0xc0, 0x68, 0xd5,
      0x23, 0x19] := by decide +kernel

end Blake2b
