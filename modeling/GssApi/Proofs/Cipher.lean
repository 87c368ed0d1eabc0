import GssApi.Crypto.Suite
import GssApi.Proofs.Framing

/-! Cipher block chaining under a lawful block cipher is undone by decryption, and the keyed
checksums have the lengths their kinds promise.

Blocks are read from and written to eight big-endian bytes, so cutting whole blocks of data
and joining them again gives the data back. Chaining forward and then backward from the same
vector gives the blocks back when the permutation is undone by its inverse. On top of this,
`CipherSuite.decrypt_of_encrypt` says that whatever a suite of lawful ciphers encrypted under a
key and a vector, it decrypts under the same key and vector to the plaintext. The checksum
lengths rest on the digests: MD5 writes four words and SHA-1 five. -/
namespace GssApi

namespace Block

@[simp] theorem length_toBytes (b : UInt64) : (toBytes b).length = size := Bytes.length_u64be b

theorem ofBytes_toBytes_append (b : UInt64) (rest : Bytes) : ofBytes (toBytes b ++ rest) = b := by
  have eight : (toBytes b).length = 8 := length_toBytes b
  rw [ofBytes, List.take_left' eight, toBytes, Bytes.beToNat_u64be, UInt64.ofNat_toNat]

theorem join_cons (b : UInt64) (bs : List UInt64) : join (b :: bs) = toBytes b ++ join bs := rfl

@[simp] theorem length_join (bs : List UInt64) : (join bs).length = size * bs.length := by
  induction bs with
  | nil => rfl
  | cons b bs ih =>
    rw [join_cons, List.length_append, ih, length_toBytes, List.length_cons, Nat.mul_succ,
      Nat.add_comm]

theorem take_join_append (bs : List UInt64) (rest : Bytes) : take bs.length (join bs ++ rest) = bs := by
  induction bs with
  | nil => rfl
  | cons b bs ih =>
    have dropped : (join (b :: bs) ++ rest).drop 8 = join bs ++ rest := by
      simp only [join, List.flatMap_cons, List.append_assoc]
      exact List.drop_left' (length_toBytes b)
    simp only [List.length_cons, take, dropped, ih]
    simp only [join, List.flatMap_cons, List.append_assoc, ofBytes_toBytes_append]

/-- Joined blocks cut back into the same blocks. -/
theorem split_join (bs : List UInt64) : split (join bs) = bs := by
  have whole := take_join_append bs []
  simp only [List.append_nil] at whole
  simpa [split, size] using whole

theorem toBytes_ofBytes {bs : Bytes} (eight : bs.length = size) : toBytes (ofBytes bs) = bs := by
  have below := Bytes.beToNat_lt bs
  simp only [size] at eight
  rw [eight] at below
  have value : (UInt64.ofNat (Bytes.beToNat bs)).toNat = Bytes.beToNat bs := by
    simp only [UInt64.toNat_ofNat']
    exact Nat.mod_eq_of_lt below
  rw [ofBytes, List.take_of_length_le (by omega), toBytes, Bytes.u64be, value, ← eight]
  exact Bytes.beOfNat_beToNat bs

theorem take_succ (n : Nat) (data : Bytes) :
    take (n + 1) data = ofBytes (data.take size) :: take n (data.drop size) := by
  simp [take, ofBytes, size, List.take_take]

@[simp] theorem length_take (n : Nat) (data : Bytes) : (take n data).length = n := by
  induction n generalizing data with
  | zero => rfl
  | succ n ih => simp [take, ih]

/-- Whole blocks of data, cut and joined again, are the data. -/
theorem join_split {data : Bytes} (whole : data.length % size = 0) : join (split data) = data := by
  -- the data is cut block by block, so the induction is on the number of blocks
  have cut : ∀ n (data : Bytes), data.length = size * n → join (take n data) = data := by
    intro n
    induction n with
    | zero =>
      intro data empty
      simp only [Nat.mul_zero, List.length_eq_zero_iff] at empty
      simp [empty, take, join]
    | succ n ih =>
      intro data sized
      have first : toBytes (ofBytes (data.take size)) = data.take size :=
        toBytes_ofBytes (by simp [size] at *; omega)
      rw [take_succ, join_cons, first, ih _ (by simp [size] at *; omega), List.take_append_drop]
  exact cut _ data (by simp only [size] at whole ⊢; omega)

end Block

namespace Permutation

variable (p : Permutation)

/-- Decryption undoes encryption on every block. -/
def Inverse : Prop := ∀ block, p.backward (p.forward block) = block

@[simp] theorem length_chainForward (iv : UInt64) (bs : List UInt64) :
    (p.chainForward iv bs).length = bs.length := by
  induction bs generalizing iv with
  | nil => rfl
  | cons b bs ih => simp [chainForward, ih]

@[simp] theorem length_chainBackward (iv : UInt64) (bs : List UInt64) :
    (p.chainBackward iv bs).length = bs.length := by
  induction bs generalizing iv with
  | nil => rfl
  | cons b bs ih => simp [chainBackward, ih]

theorem chainBackward_chainForward {p : Permutation} (inverse : p.Inverse) (iv : UInt64)
    (bs : List UInt64) : p.chainBackward iv (p.chainForward iv bs) = bs := by
  induction bs generalizing iv with
  | nil => rfl
  | cons b bs ih =>
    simp only [chainForward, chainBackward, ih]
    rw [inverse (b ^^^ iv), UInt64.xor_assoc, UInt64.xor_self, UInt64.xor_zero]

@[simp] theorem length_cbcEncrypt (iv data : Bytes) :
    (p.cbcEncrypt iv data).length = Block.size * (data.length / Block.size) := by
  simp [cbcEncrypt, Block.split, Block.size]

@[simp] theorem length_cbcDecrypt (iv data : Bytes) :
    (p.cbcDecrypt iv data).length = Block.size * (data.length / Block.size) := by
  simp [cbcDecrypt, Block.split, Block.size]

/-- Chained encryption of whole blocks is undone by chained decryption from the same vector. -/
theorem cbcDecrypt_cbcEncrypt {p : Permutation} (inverse : p.Inverse) (iv : Bytes) {data : Bytes}
    (whole : data.length % Block.size = 0) : p.cbcDecrypt iv (p.cbcEncrypt iv data) = data := by
  rw [cbcDecrypt, cbcEncrypt, Block.split_join, chainBackward_chainForward inverse,
    Block.join_split whole]

end Permutation

namespace CipherSuite

/-- What `keyed` checks before it hands out a permutation. -/
theorem keyed_eq_ok {cs : CipherSuite} {key : SessionKey} {iv data : Bytes} {p : Permutation}
    (keyed : cs.keyed key iv data = .ok p) :
    data.length % Block.size = 0 ∧ ∃ f, key.encType.family? = some f ∧
      key.bytes.length = keyLength f ∧ iv.length = Block.size ∧ p = (cs.cipher f).keyed key.bytes := by
  unfold CipherSuite.keyed at keyed
  split at keyed
  · cases keyed
  · split at keyed
    · cases keyed
    · rename_i f family
      split at keyed
      · cases keyed
      · cases keyed
        exact ⟨by omega, f, family, by omega, by omega, rfl⟩

/-- The checks of `keyed` look at the data only through its length. -/
theorem keyed_congr {cs : CipherSuite} {key : SessionKey} {iv data data' : Bytes}
    (sameLength : data'.length = data.length) : cs.keyed key iv data' = cs.keyed key iv data := by
  simp [keyed, sameLength]

theorem inverse_of_lawful {cs : CipherSuite} (lawful : cs.Lawful) (f : CipherFamily) (key : Bytes) :
    ((cs.cipher f).keyed key).Inverse := by
  intro block
  cases f with
  | des => exact lawful.1 key block
  | tripleDes => exact lawful.2 key block

theorem length_of_encrypt {cs : CipherSuite} {key : SessionKey} {iv data sealed : Bytes}
    (encrypted : cs.encrypt key iv data = .ok sealed) : sealed.length = data.length := by
  cases keyed : cs.keyed key iv data with
  | error e => simp [encrypt, keyed, Except.map] at encrypted
  | ok p =>
    simp only [encrypt, keyed, Except.map, Except.ok.injEq] at encrypted
    have whole := (keyed_eq_ok keyed).1
    rw [← encrypted, Permutation.length_cbcEncrypt]
    simp only [Block.size] at whole ⊢
    omega

/-- Decryption gives back as many bytes as it is given. -/
theorem length_of_decrypt {cs : CipherSuite} {key : SessionKey} {iv data body : Bytes}
    (decrypted : cs.decrypt key iv data = .ok body) : body.length = data.length := by
  cases keyed : cs.keyed key iv data with
  | error e => simp [decrypt, keyed, Except.map] at decrypted
  | ok p =>
    simp only [decrypt, keyed, Except.map, Except.ok.injEq] at decrypted
    have whole := (keyed_eq_ok keyed).1
    rw [← decrypted, Permutation.length_cbcDecrypt]
    simp only [Block.size] at whole ⊢
    omega

/-- Under lawful ciphers, what was encrypted under a key and a vector decrypts under them to the
plaintext. -/
theorem decrypt_of_encrypt {cs : CipherSuite} (lawful : cs.Lawful) {key : SessionKey}
    {iv data sealed : Bytes} (encrypted : cs.encrypt key iv data = .ok sealed) :
    cs.decrypt key iv sealed = .ok data := by
  have sameLength := length_of_encrypt encrypted
  cases keyed : cs.keyed key iv data with
  | error e => simp [encrypt, keyed, Except.map] at encrypted
  | ok p =>
    simp only [encrypt, keyed, Except.map, Except.ok.injEq] at encrypted
    obtain ⟨whole, f, -, -, -, rfl⟩ := keyed_eq_ok keyed
    rw [decrypt, keyed_congr sameLength, keyed, ← encrypted]
    simp only [Except.map]
    rw [Permutation.cbcDecrypt_cbcEncrypt (inverse_of_lawful lawful f key.bytes) iv whole]

end CipherSuite

namespace Digest

theorem length_md5 (msg : Bytes) : (md5 msg).length = 16 := by
  simp [md5]

theorem length_sha1 (msg : Bytes) : (sha1 msg).length = 20 := by
  simp [sha1]

theorem length_hmacSha1 (key msg : Bytes) : (hmacSha1 key msg).length = 20 := length_sha1 _

end Digest

/-- Checksums of every kind take at most 20 bytes. -/
theorem ChecksumKind.outputLength_le (kind : ChecksumKind) : kind.outputLength ≤ 20 := by
  cases kind <;> decide

namespace CipherSuite

/-- Every keyed checksum has the length of its kind: eight bytes for RSA-MD5-DES, twenty for
HMAC-SHA1. -/
theorem length_of_checksum {cs : CipherSuite} {key : SessionKey} {kind : ChecksumKind}
    {usage : UInt32} {data cksum : Bytes} (summed : cs.checksum key kind usage data = .ok cksum) :
    cksum.length = kind.outputLength := by
  unfold checksum at summed
  cases family : checksumFamily key kind with
  | error e => simp [family, bind, Except.bind] at summed
  | ok u =>
    simp only [family, bind, Except.bind] at summed
    cases kind with
    | rsaMd5Des =>
      cases encrypted : cs.encrypt key zeroVector (Digest.md5 data) with
      | error e => simp [encrypted] at summed
      | ok sealed =>
        simp only [encrypted, pure, Except.pure, Except.ok.injEq] at summed
        have sealedLength := length_of_encrypt encrypted
        rw [Digest.length_md5] at sealedLength
        simp [← summed, sealedLength, ChecksumKind.outputLength, Block.size]
    | hmacSha1Des3Kd =>
      cases derived : cs.derive key (Bytes.u32be usage ++ [0x99]) with
      | error e => simp [derived] at summed
      | ok kc =>
        simp only [derived, pure, Except.pure, Except.ok.injEq] at summed
        simp [← summed, Digest.length_hmacSha1, ChecksumKind.outputLength]

end CipherSuite

end GssApi
