import GssApi.Bytes
/-! Block ciphers and cipher block chaining.

A block cipher is used here only through its keyed permutations of 64-bit blocks, so the
mechanism is written against the structure `BlockCipher` and any cipher can stand in for
DES. `BlockCipher.Lawful` says that decryption undoes encryption under every key; results
about sealing and unsealing hold for every lawful cipher.

Cipher block chaining encrypts each block after mixing in the previous ciphertext block,
starting from an initial vector; there is no padding, so the data must be whole blocks.
Blocks are read from bytes most significant byte first. -/
namespace GssApi

/-- The encryption of 64-bit blocks under one key, and its inverse. -/
structure Permutation where
  forward : UInt64 → UInt64
  backward : UInt64 → UInt64

/-- A block cipher with 64-bit blocks, keyed by raw key bytes. -/
structure BlockCipher where
  keyed : Bytes → Permutation

/-- Decryption undoes encryption under every key. -/
def BlockCipher.Lawful (c : BlockCipher) : Prop :=
  ∀ key block, (c.keyed key).backward ((c.keyed key).forward block) = block

namespace Block

/-- The size of a block in bytes. -/
def size : Nat := 8

/-- The block whose big-endian bytes are the first eight of `bs`. -/
def ofBytes (bs : Bytes) : UInt64 := UInt64.ofNat (Bytes.beToNat (bs.take 8))

/-- The eight big-endian bytes of a block. -/
def toBytes (b : UInt64) : Bytes := Bytes.u64be b

/-- The first `n` blocks of the data. -/
def take : Nat → Bytes → List UInt64
  | 0, _ => []
  | n + 1, bs => ofBytes bs :: take n (bs.drop 8)

/-- Cut the data into whole 8-byte blocks; a short tail is dropped. -/
def split (bs : Bytes) : List UInt64 := take (bs.length / 8) bs

/-- The bytes of a list of blocks. -/
def join (bs : List UInt64) : Bytes := bs.flatMap toBytes

end Block

namespace Permutation

/-- Chain blocks forward: each plaintext block is mixed with the previous ciphertext block. -/
def chainForward (p : Permutation) : UInt64 → List UInt64 → List UInt64
  | _, [] => []
  | iv, b :: bs =>
    let c := p.forward (b ^^^ iv)
    c :: chainForward p c bs

/-- Undo `chainForward`: decrypt each block and mix in the previous ciphertext block. -/
def chainBackward (p : Permutation) : UInt64 → List UInt64 → List UInt64
  | _, [] => []
  | iv, c :: cs => (p.backward c ^^^ iv) :: chainBackward p c cs

/-- Cipher block chaining encryption of whole blocks of data. -/
def cbcEncrypt (p : Permutation) (iv data : Bytes) : Bytes :=
  Block.join (p.chainForward (Block.ofBytes iv) (Block.split data))

/-- Cipher block chaining decryption of whole blocks of data. -/
def cbcDecrypt (p : Permutation) (iv data : Bytes) : Bytes :=
  Block.join (p.chainBackward (Block.ofBytes iv) (Block.split data))

end Permutation

end GssApi
