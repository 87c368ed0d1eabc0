import GssApi.Crypto.Cipher
import GssApi.Crypto.Des
import GssApi.Crypto.Digest
import GssApi.Crypto.Key
import GssApi.Crypto.NFold
/-! The cryptographic operations on session keys.

A `CipherSuite` supplies the block cipher of each cipher family. On top of it, this module
gives cipher block chaining under a session key and the two keyed checksums:

* RSA-MD5-DES: the MD5 digest of the data, encrypted under the DES key with a zero vector;
  the last block is the checksum.
* HMAC-SHA1-DES3-KD: HMAC-SHA1 of the data under a key derived from the triple-DES key and
  the constant "usage as a big-endian word, then 0x99". Derivation n-folds the constant to
  one block, encrypts it repeatedly under the key with a zero vector, and expands the first
  21 bytes of the blocks into a triple-DES key.

Checks come in a fixed order: the data must be whole blocks, then the key type must have a
cipher, then key and vector must have the cipher's lengths. -/
namespace GssApi

/-- The block cipher of each cipher family. -/
structure CipherSuite where
  single : BlockCipher
  triple : BlockCipher

namespace CipherSuite

/-- DES and triple DES. -/
def standard : CipherSuite := ⟨Des.single, Des.triple⟩

/-- Both ciphers of the suite are lawful. -/
def Lawful (cs : CipherSuite) : Prop := cs.single.Lawful ∧ cs.triple.Lawful

/-- The cipher of a family. -/
def cipher (cs : CipherSuite) : CipherFamily → BlockCipher
  | .des => cs.single
  | .tripleDes => cs.triple

/-- The key length of a family's cipher. -/
def keyLength : CipherFamily → Nat
  | .des => 8
  | .tripleDes => 24

/-- The keyed permutation for a session key and vector, after the checks of this module. -/
def keyed (cs : CipherSuite) (key : SessionKey) (iv data : Bytes) :
    Except CryptoError Permutation :=
  if data.length % Block.size ≠ 0 then .error (.blockLength data.length Block.size)
  else match key.encType.family? with
    | none => .error (.unsupportedKeyType key.encType.number)
    | some f =>
      if key.bytes.length ≠ keyLength f ∨ iv.length ≠ Block.size then
        .error (.invalidKey "key or IV has the wrong length")
      else .ok ((cs.cipher f).keyed key.bytes)

/-- Cipher block chaining encryption under a session key. -/
def encrypt (cs : CipherSuite) (key : SessionKey) (iv data : Bytes) : Except CryptoError Bytes :=
  (cs.keyed key iv data).map fun p => p.cbcEncrypt iv data

/-- Cipher block chaining decryption under a session key. -/
def decrypt (cs : CipherSuite) (key : SessionKey) (iv data : Bytes) : Except CryptoError Bytes :=
  (cs.keyed key iv data).map fun p => p.cbcDecrypt iv data

/-- The all-zero initial vector. -/
def zeroVector : Bytes := List.replicate Block.size 0

/-- The triple-DES key derived from a key and a constant. -/
def derive (cs : CipherSuite) (key : SessionKey) (constant : Bytes) :
    Except CryptoError SessionKey := do
  let b0 := nfold constant Block.size
  let b1 ← cs.encrypt key zeroVector b0
  let b2 ← cs.encrypt key zeroVector b1
  let b3 ← cs.encrypt key zeroVector b2
  SessionKey.new .des3CbcSha1Kd (des3KeyBytes ((b1 ++ b2 ++ b3).take 21))

/-- The key's cipher family, required to be the one the checksum kind needs. -/
def checksumFamily (key : SessionKey) (kind : ChecksumKind) : Except CryptoError Unit :=
  match key.encType.family? with
  | none => .error (.unsupportedKeyType key.encType.number)
  | some f =>
    if f = kind.family then .ok () else .error (.checksumUnavailable kind key.encType.number)

/-- The keyed checksum of data under a key for a key usage. -/
def checksum (cs : CipherSuite) (key : SessionKey) (kind : ChecksumKind) (usage : UInt32)
    (data : Bytes) : Except CryptoError Bytes := do
  checksumFamily key kind
  match kind with
  | .rsaMd5Des =>
    let sealed ← cs.encrypt key zeroVector (Digest.md5 data)
    pure (sealed.drop (sealed.length - Block.size))
  | .hmacSha1Des3Kd =>
    let kc ← cs.derive key (Bytes.u32be usage ++ [0x99])
    pure (Digest.hmacSha1 kc.bytes data)

end CipherSuite

end GssApi
