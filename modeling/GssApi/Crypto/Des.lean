import GssApi.Crypto.Cipher
/-! The Data Encryption Standard (FIPS 46-3) and its triple form.

DES enciphers a 64-bit block in sixteen Feistel rounds between an initial permutation and its
inverse. Each round expands the right half to 48 bits, mixes in a 48-bit subkey, substitutes
through the eight S-boxes and permutes the result. The subkeys come from the 56 key bits
chosen by the first key permutation, rotated left once or twice per round and reduced by the
second key permutation. Deciphering runs the rounds with the subkeys in reverse order. The
parity bits of the key bytes are ignored.

Triple DES enciphers with the first key, deciphers with the second and enciphers with the
third key of a 24-byte key. -/
namespace GssApi.Des

/-- Permute the bits of a `width`-bit word: output bit `i` (counting from the most significant,
from 1) is input bit `table[i]`. -/
def permute (table : Array Nat) (width : Nat) (x : UInt64) : UInt64 :=
  table.foldl (fun acc p => (acc <<< 1) ||| ((x >>> (width - p).toUInt64) &&& 1)) 0

def initialPermutation : Array Nat := #[
  58, 50, 42, 34, 26, 18, 10, 2, 60, 52, 44, 36, 28, 20, 12, 4,
  62, 54, 46, 38, 30, 22, 14, 6, 64, 56, 48, 40, 32, 24, 16, 8,
  57, 49, 41, 33, 25, 17, 9, 1, 59, 51, 43, 35, 27, 19, 11, 3,
  61, 53, 45, 37, 29, 21, 13, 5, 63, 55, 47, 39, 31, 23, 15, 7]

def finalPermutation : Array Nat := #[
  40, 8, 48, 16, 56, 24, 64, 32, 39, 7, 47, 15, 55, 23, 63, 31,
  38, 6, 46, 14, 54, 22, 62, 30, 37, 5, 45, 13, 53, 21, 61, 29,
  36, 4, 44, 12, 52, 20, 60, 28, 35, 3, 43, 11, 51, 19, 59, 27,
  34, 2, 42, 10, 50, 18, 58, 26, 33, 1, 41, 9, 49, 17, 57, 25]

def expansion : Array Nat := #[
  32, 1, 2, 3, 4, 5, 4, 5, 6, 7, 8, 9, 8, 9, 10, 11,
  12, 13, 12, 13, 14, 15, 16, 17, 16, 17, 18, 19, 20, 21, 20, 21,
  22, 23, 24, 25, 24, 25, 26, 27, 28, 29, 28, 29, 30, 31, 32, 1]

def roundPermutation : Array Nat := #[
  16, 7, 20, 21, 29, 12, 28, 17, 1, 15, 23, 26, 5, 18, 31, 10,
  2, 8, 24, 14, 32, 27, 3, 9, 19, 13, 30, 6, 22, 11, 4, 25]

def keyChoice1 : Array Nat := #[
  57, 49, 41, 33, 25, 17, 9, 1, 58, 50, 42, 34, 26, 18,
  10, 2, 59, 51, 43, 35, 27, 19, 11, 3, 60, 52, 44, 36,
  63, 55, 47, 39, 31, 23, 15, 7, 62, 54, 46, 38, 30, 22,
  14, 6, 61, 53, 45, 37, 29, 21, 13, 5, 28, 20, 12, 4]

def keyChoice2 : Array Nat := #[
  14, 17, 11, 24, 1, 5, 3, 28, 15, 6, 21, 10,
  23, 19, 12, 4, 26, 8, 16, 7, 27, 20, 13, 2,
  41, 52, 31, 37, 47, 55, 30, 40, 51, 45, 33, 48,
  44, 49, 39, 56, 34, 53, 46, 42, 50, 36, 29, 32]

/-- How far each round rotates the two key halves. -/
def rotations : List Nat := [1, 1, 2, 2, 2, 2, 2, 2, 1, 2, 2, 2, 2, 2, 2, 1]

/-- The eight S-boxes, each as four rows of sixteen entries. -/
def sBoxes : Array UInt64 := #[
  14, 4, 13, 1, 2, 15, 11, 8, 3, 10, 6, 12, 5, 9, 0, 7,
  0, 15, 7, 4, 14, 2, 13, 1, 10, 6, 12, 11, 9, 5, 3, 8,
  4, 1, 14, 8, 13, 6, 2, 11, 15, 12, 9, 7, 3, 10, 5, 0,
  15, 12, 8, 2, 4, 9, 1, 7, 5, 11, 3, 14, 10, 0, 6, 13,
  15, 1, 8, 14, 6, 11, 3, 4, 9, 7, 2, 13, 12, 0, 5, 10,
  3, 13, 4, 7, 15, 2, 8, 14, 12, 0, 1, 10, 6, 9, 11, 5,
  0, 14, 7, 11, 10, 4, 13, 1, 5, 8, 12, 6, 9, 3, 2, 15,
  13, 8, 10, 1, 3, 15, 4, 2, 11, 6, 7, 12, 0, 5, 14, 9,
  10, 0, 9, 14, 6, 3, 15, 5, 1, 13, 12, 7, 11, 4, 2, 8,
  13, 7, 0, 9, 3, 4, 6, 10, 2, 8, 5, 14, 12, 11, 15, 1,
  13, 6, 4, 9, 8, 15, 3, 0, 11, 1, 2, 12, 5, 10, 14, 7,
  1, 10, 13, 0, 6, 9, 8, 7, 4, 15, 14, 3, 11, 5, 2, 12,
  7, 13, 14, 3, 0, 6, 9, 10, 1, 2, 8, 5, 11, 12, 4, 15,
  13, 8, 11, 5, 6, 15, 0, 3, 4, 7, 2, 12, 1, 10, 14, 9,
  10, 6, 9, 0, 12, 11, 7, 13, 15, 1, 3, 14, 5, 2, 8, 4,
  3, 15, 0, 6, 10, 1, 13, 8, 9, 4, 5, 11, 12, 7, 2, 14,
  2, 12, 4, 1, 7, 10, 11, 6, 8, 5, 3, 15, 13, 0, 14, 9,
  14, 11, 2, 12, 4, 7, 13, 1, 5, 0, 15, 10, 3, 9, 8, 6,
  4, 2, 1, 11, 10, 13, 7, 8, 15, 9, 12, 5, 6, 3, 0, 14,
  11, 8, 12, 7, 1, 14, 2, 13, 6, 15, 0, 9, 10, 4, 5, 3,
  12, 1, 10, 15, 9, 2, 6, 8, 0, 13, 3, 4, 14, 7, 5, 11,
  10, 15, 4, 2, 7, 12, 9, 5, 6, 1, 13, 14, 0, 11, 3, 8,
  9, 14, 15, 5, 2, 8, 12, 3, 7, 0, 4, 10, 1, 13, 11, 6,
  4, 3, 2, 12, 9, 5, 15, 10, 11, 14, 1, 7, 6, 0, 8, 13,
  4, 11, 2, 14, 15, 0, 8, 13, 3, 12, 9, 7, 5, 10, 6, 1,
  13, 0, 11, 7, 4, 9, 1, 10, 14, 3, 5, 12, 2, 15, 8, 6,
  1, 4, 11, 13, 12, 3, 7, 14, 10, 15, 6, 8, 0, 5, 9, 2,
  6, 11, 13, 8, 1, 4, 10, 7, 9, 5, 0, 15, 14, 2, 3, 12,
  13, 2, 8, 4, 6, 15, 11, 1, 10, 9, 3, 14, 5, 0, 12, 7,
  1, 15, 13, 8, 10, 3, 7, 4, 12, 5, 6, 11, 0, 14, 9, 2,
  7, 11, 4, 1, 9, 12, 14, 2, 0, 6, 10, 13, 15, 3, 5, 8,
  2, 1, 14, 7, 4, 10, 8, 13, 15, 12, 9, 0, 3, 5, 6, 11]

/-- Substitute the eight 6-bit groups of a 48-bit word through the S-boxes. The outer two
bits of a group choose the row and the inner four the column. -/
def substitute (x : UInt64) : UInt64 :=
  (List.range 8).foldl (fun acc i =>
    let six := (x >>> (42 - 6 * i).toUInt64) &&& 0x3F
    let row := ((six >>> 5) <<< 1) ||| (six &&& 1)
    let col := (six >>> 1) &&& 0xF
    (acc <<< 4) ||| sBoxes.getD (i * 64 + row.toNat * 16 + col.toNat) 0) 0

/-- The round function on a 32-bit half and a 48-bit subkey. -/
def feistel (half subkey : UInt64) : UInt64 :=
  permute roundPermutation 32 (substitute (permute expansion 32 half ^^^ subkey))

/-- Rotate a 28-bit key half left. -/
def rotate28 (x : UInt64) (n : Nat) : UInt64 :=
  ((x <<< n.toUInt64) ||| (x >>> (28 - n).toUInt64)) &&& 0xFFFFFFF

/-- The sixteen round subkeys of a 64-bit key, in enciphering order. -/
def subkeys (key : UInt64) : List UInt64 :=
  let cd := permute keyChoice1 64 key
  let step := fun (state : UInt64 × UInt64 × List UInt64) (n : Nat) =>
    let (c, d, ks) := state
    let c := rotate28 c n
    let d := rotate28 d n
    (c, d, permute keyChoice2 56 ((c <<< 28) ||| d) :: ks)
  (rotations.foldl step (cd >>> 28, cd &&& 0xFFFFFFF, [])).2.2.reverse

/-- Run the Feistel rounds with the given subkeys between the two block permutations. -/
def crypt (keys : List UInt64) (block : UInt64) : UInt64 :=
  let ip := permute initialPermutation 64 block
  let (l, r) := keys.foldl (fun (l, r) k => (r, l ^^^ feistel r k)) (ip >>> 32, ip &&& 0xFFFFFFFF)
  permute finalPermutation 64 ((r <<< 32) ||| l)

/-- DES under the key given by the first eight bytes. -/
def permutation (key : Bytes) : Permutation :=
  let ks := subkeys (Block.ofBytes key)
  let rev := ks.reverse
  { forward := crypt ks, backward := crypt rev }

/-- Triple DES in encrypt-decrypt-encrypt order under a 24-byte key. -/
def triplePermutation (key : Bytes) : Permutation :=
  let k1 := permutation (key.take 8)
  let k2 := permutation ((key.drop 8).take 8)
  let k3 := permutation ((key.drop 16).take 8)
  { forward := fun b => k3.forward (k2.backward (k1.forward b))
    backward := fun b => k1.backward (k2.forward (k3.backward b)) }

/-- Single DES as a block cipher. -/
def single : BlockCipher := ⟨permutation⟩

/-- Triple DES as a block cipher. -/
def triple : BlockCipher := ⟨triplePermutation⟩

end GssApi.Des
