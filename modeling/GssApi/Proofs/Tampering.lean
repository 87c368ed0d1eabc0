import GssApi.Proofs.HonestTokens
import GssApi.Proofs.Unframing
import Mathlib.Data.FinEnum
import Mathlib.Data.Fintype.Card

/-! Per-message tokens with one byte changed.

A receiver that would accept a wrap or integrity token (established, with the sender's key,
facing the sender and expecting its sequence number) refuses the token once any byte of it
changes outside a wrap token's confounder and padded message. The answer depends on where the
byte lies: a changed wrapper is a defective token; a changed header is a bad signature, or a
failure with the minor status for a bad signing type when the signing algorithm becomes one
the mechanism does not know; a changed sequence block or checksum is a bad signature. A
changed confounder or padded message is accepted only when the padding stays self-consistent
and the checksum of the changed bytes is the token's own.

The sequence block is where the cipher matters: it is decrypted with the first checksum block
as vector, and under a lawful cipher decryption of a single block is injective, so a changed
block opens to another sequence number or another direction marker. -/
namespace GssApi

namespace Bytes

theorem foldl_or_eq_zero (acc : UInt8) (l : Bytes) :
    l.foldl (· ||| ·) acc = 0 ↔ acc = 0 ∧ ∀ x ∈ l, x = 0 := by
  induction l generalizing acc with
  | nil => simp
  | cons x l ih => simp [ih, and_assoc]

/-- The constant-time comparison answers exactly whether the byte strings are equal. -/
theorem sameBytes_eq_true {a b : Bytes} : sameBytes a b = true ↔ a = b := by
  refine ⟨fun same => ?_, fun equal => equal ▸ sameBytes_self a⟩
  simp only [sameBytes, Bool.and_eq_true, beq_iff_eq, foldl_or_eq_zero, true_and] at same
  obtain ⟨sameLength, zero⟩ := same
  apply List.ext_getElem sameLength
  intro i inA inB
  have bound : i < (List.zipWith (· ^^^ ·) a b).length := by simp; omega
  have differs : (List.zipWith (· ^^^ ·) a b)[i] = 0 := zero _ (List.getElem_mem bound)
  rw [List.getElem_zipWith] at differs
  rw [← UInt8.xor_right_inj a[i], UInt8.xor_self, differs]

end Bytes

namespace Permutation

variable {p : Permutation}

/-- A lawful cipher's decryption of a block is injective: encryption is injective on the
finite type of blocks, hence a bijection, and decryption is its inverse. -/
theorem backward_injective (inverse : p.Inverse) : Function.Injective p.backward :=
  Finite.injective_iff_surjective.mpr (Function.LeftInverse.surjective inverse)

/-- Cipher block chaining decryption of a single block. -/
theorem cbcDecrypt_block (iv : Bytes) {data : Bytes} (eight : data.length = Block.size) :
    p.cbcDecrypt iv data = Block.toBytes (p.backward (Block.ofBytes data) ^^^ Block.ofBytes iv) := by
  have one : Block.split data = [Block.ofBytes data] := by
    simp [Block.split, eight, Block.size, Block.take]
  simp [cbcDecrypt, one, chainBackward, Block.join]

theorem toBytes_injective : Function.Injective Block.toBytes := by
  intro a b same
  have numbers := congrArg Bytes.beToNat same
  simp only [Block.toBytes, Bytes.beToNat_u64be] at numbers
  exact UInt64.toNat_inj.mp numbers

/-- Under a lawful cipher, two different blocks decrypt under one vector to different bytes. -/
theorem cbcDecrypt_block_injective (inverse : p.Inverse) (iv : Bytes) {data data' : Bytes}
    (eight : data.length = Block.size) (eight' : data'.length = Block.size)
    (same : p.cbcDecrypt iv data = p.cbcDecrypt iv data') : data = data' := by
  rw [cbcDecrypt_block iv eight, cbcDecrypt_block iv eight'] at same
  have blocks := backward_injective inverse (UInt64.xor_left_inj _ |>.mp (toBytes_injective same))
  rw [← Block.toBytes_ofBytes eight, ← Block.toBytes_ofBytes eight', blocks]

end Permutation

namespace CipherSuite

variable {cs : CipherSuite} {key : SessionKey}

/-- The checks of `keyed` look at the vector and the data only through their lengths. -/
theorem keyed_congr_lengths {iv iv' data data' : Bytes} (sameVector : iv'.length = iv.length)
    (sameLength : data'.length = data.length) : cs.keyed key iv' data' = cs.keyed key iv data := by
  simp [keyed, sameVector, sameLength]

/-- Decryption that succeeds on some vector and data succeeds on any of the same lengths. -/
theorem decrypt_ok_of_lengths {iv iv' data data' block : Bytes}
    (decrypted : cs.decrypt key iv data = .ok block) (sameVector : iv'.length = iv.length)
    (sameLength : data'.length = data.length) : ∃ block', cs.decrypt key iv' data' = .ok block' := by
  obtain ⟨p, keyedOk, -⟩ := Except.map_eq_ok.1 decrypted
  exact ⟨p.cbcDecrypt iv' data', by
    rw [decrypt, keyed_congr_lengths sameVector sameLength, keyedOk]; rfl⟩

/-- Under lawful ciphers, different single blocks decrypt under one key and vector to
different bytes. -/
theorem decrypt_block_injective (lawful : cs.Lawful) {iv data data' block : Bytes}
    (eight : data.length = Block.size) (eight' : data'.length = Block.size)
    (decrypted : cs.decrypt key iv data = .ok block) (decrypted' : cs.decrypt key iv data' = .ok block) :
    data = data' := by
  obtain ⟨p, keyedOk, opened⟩ := Except.map_eq_ok.1 decrypted
  obtain ⟨p', keyedOk', opened'⟩ := Except.map_eq_ok.1 decrypted'
  rw [keyed_congr (eight'.trans eight.symm), keyedOk, Except.ok.injEq] at keyedOk'
  subst keyedOk'
  obtain ⟨-, f, -, -, -, rfl⟩ := keyed_eq_ok keyedOk
  exact Permutation.cbcDecrypt_block_injective (inverse_of_lawful lawful f key.bytes) iv eight eight'
    (opened.trans opened'.symm)

end CipherSuite

namespace MessageHeader

/-- How a header is read from its eight bytes: the two tag bytes, then three little-endian
words, the last of which must be the filler. -/
theorem parse_fields (a b : UInt8) {sgnBytes sealBytes fillBytes : Bytes} (rest : Bytes)
    (expected : TokenTag) (sgnWidth : sgnBytes.length = 2) (sealWidth : sealBytes.length = 2)
    (fillWidth : fillBytes.length = 2) :
    parse (a :: b :: (sgnBytes ++ sealBytes ++ fillBytes ++ rest)) expected =
      if [a, b] = expected.bytes then
        if UInt16.ofNat (Bytes.leToNat fillBytes) = filler then
          .ok ⟨expected, UInt16.ofNat (Bytes.leToNat sgnBytes), UInt16.ofNat (Bytes.leToNat sealBytes)⟩
        else .error (.badField .filler (UInt16.ofNat (Bytes.leToNat fillBytes)))
      else .error (.badInnerTag a b) := by
  obtain ⟨s₀, s₁, rfl⟩ := List.length_eq_two.mp sgnWidth
  obtain ⟨l₀, l₁, rfl⟩ := List.length_eq_two.mp sealWidth
  obtain ⟨f₀, f₁, rfl⟩ := List.length_eq_two.mp fillWidth
  have enough : need (a :: b :: s₀ :: s₁ :: l₀ :: l₁ :: f₀ :: f₁ :: rest) encodedLength = .ok () := by
    rw [need, if_neg (by simp only [List.length_cons, encodedLength]; omega)]
  by_cases tagged : [a, b] = expected.bytes
  · by_cases filled : UInt16.ofNat (Bytes.leToNat [f₀, f₁]) = filler
    · simp [parse, enough, Codec.stripTag, tagged, filled, bind, Except.bind, pure, Except.pure]
    · simp [parse, enough, Codec.stripTag, tagged, filled, bind, Except.bind, throw, throwThe,
        MonadExceptOf.throw]
  · simp [parse, enough, Codec.stripTag, tagged, bind, Except.bind]

/-- The encoding of a header, with the tag bytes apart. -/
theorem encode_eq (h : MessageHeader) : ∃ a b, h.tag.bytes = [a, b] ∧
    h.encode = a :: b :: (Bytes.u16le h.sgnAlg ++ Bytes.u16le h.sealAlg ++ Bytes.u16le filler) := by
  obtain ⟨a, b, tagged⟩ := List.length_eq_two.mp (TokenTag.length_bytes h.tag)
  exact ⟨a, b, tagged, by simp [encode, tagged]⟩

variable (h : MessageHeader) (rest : Bytes) {v : UInt8} (nonzero : v ≠ 0)
include nonzero

/-- A header with a changed tag byte is refused for its tag. -/
theorem parse_modify_tag {j : Nat} (tagByte : j < 2) :
    ∃ a b, parse (h.encode.modify j (· ^^^ v) ++ rest) h.tag = .error (.badInnerTag a b) := by
  obtain ⟨a, b, tagged, encoded⟩ := encode_eq h
  have changed : [a, b].modify j (· ^^^ v) ≠ [a, b] :=
    Bytes.modify_xor_ne (by simpa using tagByte) nonzero
  rw [encoded]
  rcases (by omega : j = 0 ∨ j = 1) with rfl | rfl
  · refine ⟨a ^^^ v, b, ?_⟩
    rw [List.modify_zero_cons, List.cons_append, List.cons_append,
      parse_fields _ _ _ _ (by simp) (by simp) (by simp), if_neg (by rw [tagged]; simpa using changed)]
  · refine ⟨a, b ^^^ v, ?_⟩
    rw [List.modify_succ_cons, List.modify_zero_cons, List.cons_append, List.cons_append,
      parse_fields _ _ _ _ (by simp) (by simp) (by simp), if_neg (by rw [tagged]; simpa using changed)]

/-- A header with a changed filler byte is refused for its filler. -/
theorem parse_modify_filler {k : Nat} (fillByte : k < 2) :
    ∃ fill, parse (h.encode.modify (6 + k) (· ^^^ v) ++ rest) h.tag = .error (.badField .filler fill) := by
  obtain ⟨a, b, tagged, encoded⟩ := encode_eq h
  have changed := @Bytes.modify_xor_ne (Bytes.u16le filler) k v (by simpa using fillByte) nonzero
  have position : 6 + k = (Bytes.u16le h.sgnAlg ++ Bytes.u16le h.sealAlg).length + k + 1 + 1 := by
    simp; omega
  rw [encoded, position, List.modify_succ_cons, List.modify_succ_cons, Bytes.modify_append_right,
    List.cons_append, List.cons_append, parse_fields _ _ _ _ (by simp) (by simp) (by simp),
    if_pos (tagged.symm), if_neg]
  · exact ⟨_, rfl⟩
  · rw [← ofNat_leToNat_u16le filler]
    exact Bytes.ofNat_leToNat_ne_of_two (by simp) (by simp) changed

/-- A header with a changed signing-algorithm byte reads as the same header with another
signing algorithm, the one the two changed bytes give. -/
theorem parse_modify_sgnAlg {k : Nat} (sgnByte : k < 2) :
    let changed := h.encode.modify (2 + k) (· ^^^ v) ++ rest
    let sgn := UInt16.ofNat (Bytes.leToNat ((changed.drop 2).take 2))
    parse changed h.tag = .ok { h with sgnAlg := sgn } ∧ sgn ≠ h.sgnAlg := by
  intro changed sgn
  obtain ⟨a, b, tagged, encoded⟩ := encode_eq h
  have written : (Bytes.u16le h.sgnAlg).modify k (· ^^^ v) ≠ Bytes.u16le h.sgnAlg :=
    Bytes.modify_xor_ne (by simpa using sgnByte) nonzero
  have width : ((Bytes.u16le h.sgnAlg).modify k (· ^^^ v)).length = 2 := by simp
  have split : changed = a :: b :: ((Bytes.u16le h.sgnAlg).modify k (· ^^^ v) ++
      Bytes.u16le h.sealAlg ++ Bytes.u16le filler ++ rest) := by
    simp only [changed, encoded, show 2 + k = k + 1 + 1 by omega, List.modify_succ_cons,
      List.cons_append, List.append_assoc]
    rw [Bytes.modify_append_left _ _ (by simpa using sgnByte)]
    simp only [List.append_assoc]
  have field : (changed.drop 2).take 2 = (Bytes.u16le h.sgnAlg).modify k (· ^^^ v) := by
    rw [split, List.drop_succ_cons, List.drop_succ_cons, List.drop_zero, List.append_assoc,
      List.append_assoc, List.take_left' width]
  have read : sgn = UInt16.ofNat (Bytes.leToNat ((Bytes.u16le h.sgnAlg).modify k (· ^^^ v))) := by
    simp only [sgn, field]
  refine ⟨?_, ?_⟩
  · rw [read, split, parse_fields _ _ _ _ width (by simp) (by simp), if_pos tagged.symm,
      ofNat_leToNat_u16le, if_pos rfl, ofNat_leToNat_u16le]
  · rw [read]
    intro same
    apply Bytes.ofNat_leToNat_ne_of_two width (Bytes.length_u16le _) written
    rw [same, ofNat_leToNat_u16le]

/-- A header with a changed sealing-algorithm byte reads as the same header with another
sealing algorithm. -/
theorem parse_modify_sealAlg {k : Nat} (sealByte : k < 2) :
    ∃ sealAlg, sealAlg ≠ h.sealAlg ∧
      parse (h.encode.modify (4 + k) (· ^^^ v) ++ rest) h.tag = .ok { h with sealAlg } := by
  obtain ⟨a, b, tagged, encoded⟩ := encode_eq h
  have written : (Bytes.u16le h.sealAlg).modify k (· ^^^ v) ≠ Bytes.u16le h.sealAlg :=
    Bytes.modify_xor_ne (by simpa using sealByte) nonzero
  have width : ((Bytes.u16le h.sealAlg).modify k (· ^^^ v)).length = 2 := by simp
  have position : 4 + k = (Bytes.u16le h.sgnAlg).length + k + 1 + 1 := by simp; omega
  refine ⟨UInt16.ofNat (Bytes.leToNat ((Bytes.u16le h.sealAlg).modify k (· ^^^ v))), ?_, ?_⟩
  · intro same
    apply Bytes.ofNat_leToNat_ne_of_two width (Bytes.length_u16le _) written
    rw [same, ofNat_leToNat_u16le]
  · rw [encoded, position, List.modify_succ_cons, List.modify_succ_cons,
      Bytes.modify_append_left _ _ (by simp; omega), Bytes.modify_append_right, List.cons_append,
      List.cons_append, parse_fields _ _ _ _ (by simp) width (by simp), if_pos tagged.symm,
      ofNat_leToNat_u16le, if_pos rfl, ofNat_leToNat_u16le]

end MessageHeader

namespace Krb5

/-- The signing algorithms the mechanism knows. -/
def KnownSigning (sgn : UInt16) : Prop := sgn = sgnDesMacMd5 ∨ sgn = sgnHmacSha1Des3Kd

instance : DecidablePred KnownSigning := fun sgn =>
  inferInstanceAs (Decidable (sgn = sgnDesMacMd5 ∨ sgn = sgnHmacSha1Des3Kd))

namespace Profile

/-- A header naming a sealing algorithm is a bad signature. -/
theorem check_of_sealAlg (p : Profile) {h : MessageHeader} (sealed : h.sealAlg ≠ MessageHeader.sealNone) :
    ∃ s, p.check h = .error (.badMic s 0) := by
  rw [check, if_pos sealed]
  exact ⟨_, rfl⟩

/-- A header without sealing that names another signing algorithm than the profile's: a bad
signature when the mechanism knows the algorithm, a failure with a bad signing type when it
does not. -/
theorem check_of_sgnAlg (p : Profile) {h : MessageHeader} (unsealed : h.sealAlg = MessageHeader.sealNone)
    (other : h.sgnAlg ≠ p.sgnAlg) :
    (KnownSigning h.sgnAlg → ∃ s, p.check h = .error (.badMic s Minor.badSignType)) ∧
      (¬ KnownSigning h.sgnAlg → ∃ s, p.check h = .error (.failure s Minor.badSignType)) := by
  simp only [KnownSigning]
  constructor
  · intro known
    rw [check, if_neg (not_not.mpr unsealed), if_pos known, if_neg other]
    exact ⟨_, rfl⟩
  · intro unknown
    rw [check, if_neg (not_not.mpr unsealed), if_neg unknown]
    exact ⟨_, rfl⟩

end Profile

/-- The header checks of a receiver refuse an inner token with the error `e`: reading its
header fails with a fault that `headerError` turns into `e`, or the header it reads does not
pass the profile. -/
def HeaderRefused (inner : Bytes) (tag : TokenTag) (p : Profile) (e : GssError) : Prop :=
  (∃ fault, MessageHeader.parse inner tag = .error fault ∧ headerError fault = e) ∨
    ∃ header, MessageHeader.parse inner tag = .ok header ∧ p.check header = .error e

/-- A header a profile writes, with one byte changed, does not pass the header checks. The
refusal is a bad signature, except when the change makes the signing algorithm one the
mechanism does not know: that is a failure with a bad signing type. -/
theorem headerRefused_modify (p : Profile) (tag : TokenTag) (rest : Bytes) {j : Nat} (inside : j < MessageHeader.encodedLength) {v : UInt8}
    (nonzero : v ≠ 0) :
    let inner := (p.header tag).encode.modify j (· ^^^ v) ++ rest
    let unknown := (j = 2 ∨ j = 3) ∧ ¬ KnownSigning (UInt16.ofNat (Bytes.leToNat ((inner.drop 2).take 2)))
    ∃ e, HeaderRefused inner tag p e ∧ (unknown → ∃ s, e = .failure s Minor.badSignType) ∧
      (¬ unknown → ∃ s k, e = .badMic s k) := by
  intro inner unknown
  simp only [MessageHeader.encodedLength] at inside
  have position : j < 2 ∨ (∃ k, j = 2 + k ∧ k < 2) ∨ (∃ k, j = 4 + k ∧ k < 2) ∨
      ∃ k, j = 6 + k ∧ k < 2 := by
    by_cases low : j < 2
    · exact .inl low
    by_cases sgnField : j < 4
    · exact .inr (.inl ⟨j - 2, by omega, by omega⟩)
    by_cases sealField : j < 6
    · exact .inr (.inr (.inl ⟨j - 4, by omega, by omega⟩))
    · exact .inr (.inr (.inr ⟨j - 6, by omega, by omega⟩))
  rcases position with tagByte | ⟨k, rfl, sgnByte⟩ | ⟨k, rfl, sealByte⟩ | ⟨k, rfl, fillByte⟩
  · -- the tag
    obtain ⟨a, b, parsed⟩ := MessageHeader.parse_modify_tag (p.header tag) rest nonzero tagByte
    exact ⟨_, .inl ⟨_, parsed, rfl⟩, fun u => absurd u.1 (by omega), fun _ => ⟨_, _, rfl⟩⟩
  · -- the signing algorithm: the profile's check tells known from unknown algorithms
    obtain ⟨parsed, other⟩ := MessageHeader.parse_modify_sgnAlg (p.header tag) rest nonzero sgnByte
    have verdict := Profile.check_of_sgnAlg p (h := { p.header tag with
      sgnAlg := UInt16.ofNat (Bytes.leToNat ((inner.drop 2).take 2)) }) rfl other
    by_cases known : KnownSigning (UInt16.ofNat (Bytes.leToNat ((inner.drop 2).take 2)))
    · obtain ⟨s, checked⟩ := verdict.1 known
      exact ⟨_, .inr ⟨_, parsed, checked⟩, fun u => absurd known u.2, fun _ => ⟨_, _, rfl⟩⟩
    · obtain ⟨s, checked⟩ := verdict.2 known
      exact ⟨_, .inr ⟨_, parsed, checked⟩, fun _ => ⟨_, rfl⟩,
        fun notUnknown => absurd ⟨by omega, known⟩ notUnknown⟩
  · -- the sealing algorithm
    obtain ⟨sealAlg, other, parsed⟩ := MessageHeader.parse_modify_sealAlg (p.header tag) rest nonzero sealByte
    obtain ⟨s, checked⟩ := Profile.check_of_sealAlg p (h := { p.header tag with sealAlg }) other
    exact ⟨_, .inr ⟨_, parsed, checked⟩, fun u => absurd u.1 (by omega), fun _ => ⟨_, _, rfl⟩⟩
  · -- the filler
    obtain ⟨fill, parsed⟩ := MessageHeader.parse_modify_filler (p.header tag) rest nonzero fillByte
    exact ⟨_, .inl ⟨_, parsed, rfl⟩, fun u => absurd u.1 (by omega), fun _ => ⟨_, _, rfl⟩⟩


namespace Mechanism

variable {m : Mechanism}

/-- What opening a sequence block answers once its decryption succeeds: a bad signature, or,
when the block carries the peer's marker, the number in its first four bytes. -/
theorem openSequence_eq_of_decrypt {ctx : Context} {cksum encSeq block : Bytes}
    (decrypted : m.suite.decrypt ctx.key (cksum.take Block.size) encSeq = .ok block) :
    (∃ s k, m.openSequence ctx cksum encSeq = .error (.badMic s k)) ∨
      (block.drop 4 = ctx.role.peer.marker ∧
        m.openSequence ctx cksum encSeq = .ok (UInt32.ofNat (Bytes.leToNat (block.take 4)))) := by
  simp only [openSequence, decrypted, Except.mapError, bind, Except.bind]
  by_cases short : block.length ≠ sequenceBlockLength
  · exact .inl (by simp [short, badLength, throw, throwThe, MonadExceptOf.throw])
  by_cases marked : block.drop 4 ≠ ctx.role.peer.marker
  · exact .inl (by simp [short, marked, throw, throwThe, MonadExceptOf.throw])
  · exact .inr ⟨not_not.mp marked, by simp [short, marked, pure, Except.pure]⟩

variable {sender receiver : Context}

/-- A sealed sequence block with one byte changed opens, for a receiver with the sender's key
facing the sender, to a bad signature or to another sequence number than the sender's. -/
theorem openSequence_modify_block (lawful : m.suite.Lawful) {cksum encSeq : Bytes}
    (sealed : m.sealSequence sender cksum = .ok encSeq) (sameKey : receiver.key = sender.key)
    (facing : receiver.role.peer = sender.role) {k : Nat} (inside : k < sequenceBlockLength)
    {v : UInt8} (nonzero : v ≠ 0) :
    (∃ s n, m.openSequence receiver cksum (encSeq.modify k (· ^^^ v)) = .error (.badMic s n)) ∨
      ∃ seq, m.openSequence receiver cksum (encSeq.modify k (· ^^^ v)) = .ok seq ∧ seq ≠ sender.sendSeq := by
  have sealedLength := length_of_sealSequence sealed
  have decrypted := CipherSuite.decrypt_of_encrypt lawful (sealSequence_eq_ok sealed)
  rw [← sameKey] at decrypted
  obtain ⟨block, decrypted'⟩ := CipherSuite.decrypt_ok_of_lengths decrypted rfl (List.length_modify _ _ _)
  have changed : encSeq.modify k (· ^^^ v) ≠ encSeq :=
    Bytes.modify_xor_ne (by rw [sealedLength]; exact inside) nonzero
  rcases openSequence_eq_of_decrypt decrypted' with refused | ⟨marked, opened⟩
  · exact .inl refused
  · refine .inr ⟨_, opened, fun same => changed ?_⟩
    -- the same number and marker would make the same block, which only the same bytes decrypt to
    have eight : block.length = 8 := by
      have := congrArg List.length marked
      simp only [List.length_drop, Role.length_marker] at this
      omega
    have number : block.take 4 = Bytes.u32le sender.sendSeq := by
      by_contra other
      exact Bytes.ofNat_leToNat_ne_of_four (by simp; omega) (Bytes.length_u32le _) other
        (same.trans (by rw [Bytes.leToNat_u32le, UInt32.ofNat_toNat]))
    have whole : block = Bytes.u32le sender.sendSeq ++ sender.role.marker := by
      rw [← List.take_append_drop 4 block, number, marked, facing]
    rw [whole] at decrypted'
    exact CipherSuite.decrypt_block_injective lawful (by rw [List.length_modify, sealedLength]; rfl)
      (by rw [sealedLength]; rfl) decrypted' decrypted

/-- With one byte of the checksum changed, opening the sequence block still decrypts: it
answers a bad signature or some sequence number. -/
theorem openSequence_modify_cksum (lawful : m.suite.Lawful) {cksum encSeq : Bytes}
    (sealed : m.sealSequence sender cksum = .ok encSeq) (sameKey : receiver.key = sender.key)
    (k : Nat) (v : UInt8) :
    (∃ s n, m.openSequence receiver (cksum.modify k (· ^^^ v)) encSeq = .error (.badMic s n)) ∨
      ∃ seq, m.openSequence receiver (cksum.modify k (· ^^^ v)) encSeq = .ok seq := by
  have decrypted := CipherSuite.decrypt_of_encrypt lawful (sealSequence_eq_ok sealed)
  rw [← sameKey] at decrypted
  obtain ⟨block, decrypted'⟩ : ∃ block, m.suite.decrypt receiver.key
      ((cksum.modify k (· ^^^ v)).take Block.size) encSeq = .ok block :=
    CipherSuite.decrypt_ok_of_lengths decrypted (by simp) rfl
  rcases openSequence_eq_of_decrypt decrypted' with refused | ⟨-, opened⟩
  · exact .inl refused
  · exact .inr ⟨_, opened⟩

/-- A checksum other than the one the receiver recomputes is a bad signature. -/
theorem verifyChecksum_of_ne {ctx : Context} {p : Profile} {signed expected cksum : Bytes}
    (signedOk : m.sign ctx p signed = .ok expected) (differs : expected ≠ cksum) :
    m.verifyChecksum ctx p signed cksum = .error (.badMic "checksum mismatch" 0) := by
  have refused : Bytes.sameBytes expected cksum = false := by
    rw [Bool.eq_false_iff, ne_eq, Bytes.sameBytes_eq_true]
    exact differs
  simp [verifyChecksum, signedOk, refused, bind, Except.bind, throw, throwThe, MonadExceptOf.throw]

/-- A checksum with one byte changed does not verify: it is not the checksum of the signed
bytes. -/
theorem verifyChecksum_modify {p : Profile} {signed cksum : Bytes}
    (signedOk : m.sign sender p signed = .ok cksum) (sameKey : receiver.key = sender.key) {k : Nat}
    (inside : k < cksum.length) {v : UInt8} (nonzero : v ≠ 0) :
    ∃ s, m.verifyChecksum receiver p signed (cksum.modify k (· ^^^ v)) = .error (.badMic s 0) := by
  have recomputed : m.sign receiver p signed = .ok cksum := by rw [sign_congr sameKey, signedOk]
  exact ⟨_, verifyChecksum_of_ne recomputed fun same => Bytes.modify_xor_ne inside nonzero same.symm⟩

end Mechanism

/-- The padding of a wrapped message is self-consistent: its last byte `n` is between 1 and 8
and no more than the message's length, and each of the last `n` bytes holds `n`. -/
def PaddingConsistent (padded : Bytes) : Prop :=
  0 < (padded.getLastD 0).toNat ∧ (padded.getLastD 0).toNat ≤ Block.size ∧
    (padded.getLastD 0).toNat ≤ padded.length ∧
    ∀ b ∈ padded.drop (padded.length - (padded.getLastD 0).toNat), b.toNat = (padded.getLastD 0).toNat

instance : DecidablePred PaddingConsistent := fun padded =>
  inferInstanceAs (Decidable (0 < (padded.getLastD 0).toNat ∧ (padded.getLastD 0).toNat ≤ Block.size ∧
    (padded.getLastD 0).toNat ≤ padded.length ∧
    ∀ b ∈ padded.drop (padded.length - (padded.getLastD 0).toNat), b.toNat = (padded.getLastD 0).toNat))

/-- The receiver's two padding checks pass exactly on self-consistent padding. -/
theorem paddingChecks_pass {padded : Bytes} (consistent : PaddingConsistent padded) :
    ¬ ((padded.getLastD 0).toNat = 0 ∨ (padded.getLastD 0).toNat > Block.size ∨
        (padded.getLastD 0).toNat > padded.length) ∧
      (padded.drop (padded.length - (padded.getLastD 0).toNat)).any
        (·.toNat ≠ (padded.getLastD 0).toNat) = false := by
  obtain ⟨positive, few, within, filled⟩ := consistent
  refine ⟨by omega, List.any_eq_false.mpr fun b member => ?_⟩
  simpa using filled b member

theorem paddingChecks_fail {padded : Bytes} (inconsistent : ¬ PaddingConsistent padded) :
    ((padded.getLastD 0).toNat = 0 ∨ (padded.getLastD 0).toNat > Block.size ∨
        (padded.getLastD 0).toNat > padded.length) ∨
      (padded.drop (padded.length - (padded.getLastD 0).toNat)).any
        (·.toNat ≠ (padded.getLastD 0).toNat) = true := by
  by_contra passing
  simp only [not_or, Bool.not_eq_true, List.any_eq_false] at passing
  obtain ⟨⟨positive, few, within⟩, filled⟩ := passing
  exact inconsistent ⟨by omega, by omega, by omega, fun b member => by simpa using filled b member⟩

namespace Mechanism

/-- A checksum that verifies is the checksum of the signed bytes. -/
theorem sign_of_verifyChecksum {m : Mechanism} {ctx : Context} {p : Profile} {signed cksum : Bytes}
    (verified : m.verifyChecksum ctx p signed cksum = .ok ()) : m.sign ctx p signed = .ok cksum := by
  unfold verifyChecksum at verified
  obtain ⟨expected, signedOk, verified⟩ := Except.bind_eq_ok.1 verified
  split at verified
  · cases verified
  · rename_i same
    have equal : expected = cksum := Bytes.sameBytes_eq_true.mp (by simpa using same)
    rw [signedOk, equal]

/-- A padded message has self-consistent padding. -/
theorem paddingConsistent_pad (message : Bytes) : PaddingConsistent (pad message) := by
  obtain ⟨n, positive, few, -, padded⟩ := pad_eq message
  obtain ⟨lastByte, -, padOk, -⟩ := unpad message positive few
  rw [padded]
  refine ⟨?_, ?_, ?_, ?_⟩ <;> rw [lastByte]
  · exact positive
  · exact few
  · simp
  · intro b member
    simpa using List.any_eq_false.mp padOk b member

/-- The last checks of both receivers (opening the sequence block, verifying the checksum and
checking the sequence number) refuse with a bad signature when the block opens to a bad
signature, the checksum does not verify, or the block opens to another number than the
expected one. -/
theorem sealedChecks_refuse {α : Type} {ctx : Context} {opened : Except GssError UInt32}
    {verified : Except GssError Unit} (x : α)
    (refused : (∃ s k, opened = .error (.badMic s k)) ∨ ∃ seq, opened = .ok seq ∧
      ((∃ s k, verified = .error (.badMic s k)) ∨ (verified = .ok () ∧ seq ≠ ctx.recvSeq))) :
    ∃ s k, (do
      let seq ← opened
      verified
      checkSequence ctx seq
      pure x : Except GssError α) = .error (.badMic s k) := by
  rcases refused with ⟨s, k, rfl⟩ | ⟨seq, rfl, ⟨s, k, rfl⟩ | ⟨rfl, other⟩⟩
  · exact ⟨s, k, rfl⟩
  · exact ⟨s, k, rfl⟩
  · simp [checkSequence, other, bind, Except.bind]

variable {m : Mechanism} {ctx : Context} {token : Bytes}

section Receive

variable (established : ctx.phase = .established)
include established

private theorem isEstablished_of_phase : ctx.isEstablished = true := by
  simp [Context.isEstablished, established]

theorem unwrapMessage_of_unframed_error {e : CodecError}
    (unframed : Codec.decapsulateFor token Oid.krb5 = .error e) :
    m.unwrapMessage ctx token = .error (.defectiveToken e) := by
  simp [unwrapMessage, isEstablished_of_phase established, unframed, Except.mapError, bind,
    Except.bind]

theorem verifyMicMessage_of_unframed_error {message : Bytes} {e : CodecError}
    (unframed : Codec.decapsulateFor token Oid.krb5 = .error e) :
    m.verifyMicMessage ctx message token = .error (.defectiveToken e) := by
  simp [verifyMicMessage, isEstablished_of_phase established, unframed, Except.mapError, bind,
    Except.bind]

theorem unwrapMessage_of_headerRefused {inner : Bytes} {p : Profile} {e : GssError}
    (unframed : Codec.decapsulateFor token Oid.krb5 = .ok inner) (made : Profile.forKey ctx.key = .ok p)
    (refused : HeaderRefused inner .wrap p e) : m.unwrapMessage ctx token = .error e := by
  rcases refused with ⟨fault, parsed, rfl⟩ | ⟨header, parsed, checked⟩
  · simp [unwrapMessage, isEstablished_of_phase established, unframed, Except.mapError, bind,
      Except.bind, parsed]
  · simp [unwrapMessage, isEstablished_of_phase established, unframed, Except.mapError, bind,
      Except.bind, parsed, made, checked]

theorem verifyMicMessage_of_headerRefused {message inner : Bytes} {p : Profile} {e : GssError}
    (unframed : Codec.decapsulateFor token Oid.krb5 = .ok inner) (made : Profile.forKey ctx.key = .ok p)
    (refused : HeaderRefused inner .mic p e) : m.verifyMicMessage ctx message token = .error e := by
  rcases refused with ⟨fault, parsed, rfl⟩ | ⟨header, parsed, checked⟩
  · simp [verifyMicMessage, isEstablished_of_phase established, unframed, Except.mapError, bind,
      Except.bind, parsed]
  · simp [verifyMicMessage, isEstablished_of_phase established, unframed, Except.mapError, bind,
      Except.bind, parsed, made, checked]

section Sealed

variable {header encSeq cksum : Bytes} {p : Profile} (made : Profile.forKey ctx.key = .ok p)
  (seqLength : encSeq.length = sequenceBlockLength) (cksumLength : cksum.length = p.kind.outputLength)
include made seqLength cksumLength

/-- Once the frame, the header and the lengths of a wrap token pass and its padding is
self-consistent, unwrapping opens the sequence block, verifies the checksum of the header and
the body, and checks the sequence number. -/
theorem unwrapMessage_of_padded {body : Bytes}
    (unframed : Codec.decapsulateFor token Oid.krb5 = .ok ((p.header .wrap).encode ++ encSeq ++ cksum ++ body))
    (long : wrapConfounderLength + Block.size ≤ body.length) (whole : body.length % Block.size = 0)
    (padded : PaddingConsistent (body.drop wrapConfounderLength)) :
    let padded := body.drop wrapConfounderLength
    m.unwrapMessage ctx token = (do
      let seq ← m.openSequence ctx cksum encSeq
      m.verifyChecksum ctx p ((p.header .wrap).encode ++ body) cksum
      checkSequence ctx seq
      pure (padded.take (padded.length - (padded.getLastD 0).toNat),
        { ctx with recvSeq := ctx.recvSeq + 1 })) := by
  intro padded
  have parsed : MessageHeader.parse ((p.header .wrap).encode ++ (encSeq ++ cksum ++ body)) .wrap =
      .ok (p.header .wrap) :=
    MessageHeader.parse_encode_append _ _
  have split := splitToken_append p (p.header .wrap).encode body (MessageHeader.length_encode _)
    seqLength cksumLength
  have bodyLength : ¬ (body.length < wrapConfounderLength + Block.size ∨
      body.length % Block.size ≠ 0) := by omega
  have signed : (p.header .wrap).encode ++ body.take wrapConfounderLength ++
      body.drop wrapConfounderLength = (p.header .wrap).encode ++ body := by
    rw [List.append_assoc, List.take_append_drop]
  obtain ⟨lengthOk, fillOk⟩ := paddingChecks_pass ‹PaddingConsistent _›
  simp only [List.append_assoc] at unframed parsed split
  simp only [unwrapMessage, isEstablished_of_phase established, Bool.not_true, Bool.false_eq_true,
    if_false, bind, Except.bind, unframed, Except.mapError, parsed, made, Profile.check_header made,
    split, bodyLength, lengthOk, fillOk, signed]
  rfl

/-- Once the frame, the header and the lengths of a wrap token pass but its padding is not
self-consistent, unwrapping opens the sequence block and then refuses the padding as a bad
signature. -/
theorem unwrapMessage_of_unpadded {body : Bytes}
    (unframed : Codec.decapsulateFor token Oid.krb5 = .ok ((p.header .wrap).encode ++ encSeq ++ cksum ++ body))
    (long : wrapConfounderLength + Block.size ≤ body.length) (whole : body.length % Block.size = 0)
    (unpadded : ¬ PaddingConsistent (body.drop wrapConfounderLength)) :
    ∃ s, m.unwrapMessage ctx token = (m.openSequence ctx cksum encSeq >>= fun _ => .error (.badMic s 0)) := by
  have parsed : MessageHeader.parse ((p.header .wrap).encode ++ (encSeq ++ cksum ++ body)) .wrap =
      .ok (p.header .wrap) :=
    MessageHeader.parse_encode_append _ _
  have split := splitToken_append p (p.header .wrap).encode body (MessageHeader.length_encode _)
    seqLength cksumLength
  have bodyLength : ¬ (body.length < wrapConfounderLength + Block.size ∨
      body.length % Block.size ≠ 0) := by omega
  simp only [List.append_assoc] at unframed parsed split
  simp only [unwrapMessage, isEstablished_of_phase established, Bool.not_true, Bool.false_eq_true,
    if_false, bind, Except.bind, unframed, Except.mapError, parsed, made, Profile.check_header made,
    split, bodyLength]
  by_cases lengthBad : ((body.drop wrapConfounderLength).getLastD 0).toNat = 0 ∨
      ((body.drop wrapConfounderLength).getLastD 0).toNat > Block.size ∨
      ((body.drop wrapConfounderLength).getLastD 0).toNat > (body.drop wrapConfounderLength).length
  · refine ⟨"bad pad length " ++ toString ((body.drop wrapConfounderLength).getLastD 0).toNat, ?_⟩
    simp only [lengthBad, if_true]
    cases m.openSequence ctx cksum encSeq <;> rfl
  · have fillBad := (paddingChecks_fail unpadded).resolve_left lengthBad
    refine ⟨"inconsistent padding", ?_⟩
    simp only [lengthBad, if_false, fillBad, if_true]
    cases m.openSequence ctx cksum encSeq <;> rfl

/-- Once the frame, the header and the lengths of an integrity token pass, verifying it opens
the sequence block, verifies the checksum of the header and the message, and checks the
sequence number. -/
theorem verifyMicMessage_of_header {message : Bytes}
    (unframed : Codec.decapsulateFor token Oid.krb5 = .ok ((p.header .mic).encode ++ encSeq ++ cksum)) :
    m.verifyMicMessage ctx message token = (do
      let seq ← m.openSequence ctx cksum encSeq
      m.verifyChecksum ctx p ((p.header .mic).encode ++ message) cksum
      checkSequence ctx seq
      pure { ctx with recvSeq := ctx.recvSeq + 1 }) := by
  have parsed : MessageHeader.parse ((p.header .mic).encode ++ (encSeq ++ cksum)) .mic =
      .ok (p.header .mic) :=
    MessageHeader.parse_encode_append _ _
  have split := splitToken_append p (p.header .mic).encode [] (MessageHeader.length_encode _)
    seqLength cksumLength
  simp only [List.append_assoc, List.append_nil] at unframed split
  simp only [verifyMicMessage, isEstablished_of_phase established, Bool.not_true, Bool.false_eq_true,
    if_false, bind, Except.bind, unframed, Except.mapError, parsed, made, Profile.check_header made,
    split, List.isEmpty_nil]

end Sealed

end Receive

end Mechanism

/-- The signing algorithm a per-message token's header holds, for a wrapper of `w` bytes: the
little-endian word two bytes into the inner token. -/
def signingField (token : Bytes) (w : Nat) : UInt16 :=
  UInt16.ofNat (Bytes.leToNat ((token.drop (w + 2)).take 2))

/-- How a receiver answers a token in which one byte has changed, by where the byte lies. The
token is a wrapper of `w` bytes and an inner token: the 8-byte header, whose bytes 2 and 3 hold
the signing algorithm, the 8-byte sequence block, the `c`-byte checksum, then anything else.
`answer i v` is the receiver's answer to the token with byte `i` changed by the mask `v`. -/
structure RefusesChanges {α : Type} (token : Bytes) (w c : Nat)
    (answer : Nat → UInt8 → Except GssError α) : Prop where
  /-- A changed byte of the wrapper makes a defective token. -/
  wrapper : ∀ {i v}, v ≠ 0 → i < w → ∃ e, answer i v = .error (.defectiveToken e)
  /-- A changed header byte is a bad signature, unless it makes the signing algorithm one the
  mechanism does not know. -/
  header : ∀ {i v}, v ≠ 0 → w ≤ i → i < w + 8 →
    ((i = w + 2 ∨ i = w + 3) → KnownSigning (signingField (token.modify i (· ^^^ v)) w)) →
    ∃ s k, answer i v = .error (.badMic s k)
  /-- A signing algorithm changed to one the mechanism does not know is a failure with a bad
  signing type. -/
  signing : ∀ {i v}, v ≠ 0 → (i = w + 2 ∨ i = w + 3) →
    ¬ KnownSigning (signingField (token.modify i (· ^^^ v)) w) →
    ∃ s, answer i v = .error (.failure s Minor.badSignType)
  /-- A changed byte of the sequence block is a bad signature. -/
  sequence : ∀ {i v}, v ≠ 0 → w + 8 ≤ i → i < w + 16 → ∃ s k, answer i v = .error (.badMic s k)
  /-- A changed byte of the checksum is a bad signature. -/
  checksum : ∀ {i v}, v ≠ 0 → w + 16 ≤ i → i < w + 16 + c → ∃ s k, answer i v = .error (.badMic s k)

namespace Mechanism

variable {m : Mechanism} {sender receiver : Context}

/-- A receiver refuses changes to a token made of a profile's header, a sealed sequence block,
a checksum and any rest, when its stages answer as both receivers' do: a token that does not
unframe is defective, a refused header is refused, and a token whose header passes is answered
by the last checks on its sequence block and checksum. -/
theorem refusesChanges_of_stages {α : Type} (lawful : m.suite.Lawful) {p : Profile} {tag : TokenTag}
    {encSeq cksum rest signed token : Bytes} {receive : Bytes → Except GssError α} {x : α}
    (signedOk : m.sign sender p signed = .ok cksum)
    (sealed : m.sealSequence sender cksum = .ok encSeq) (sameKey : receiver.key = sender.key)
    (facing : receiver.role.peer = sender.role) (expected : receiver.recvSeq = sender.sendSeq)
    (framed : Codec.encapsulate Oid.krb5 ((p.header tag).encode ++ encSeq ++ cksum ++ rest) = .ok token)
    (unframedError : ∀ {t e}, Codec.decapsulateFor t Oid.krb5 = .error e →
      receive t = .error (.defectiveToken e))
    (headerRefused : ∀ {t inner e}, Codec.decapsulateFor t Oid.krb5 = .ok inner →
      HeaderRefused inner tag p e → receive t = .error e)
    (sealedStage : ∀ {t encSeq' cksum'},
      Codec.decapsulateFor t Oid.krb5 = .ok ((p.header tag).encode ++ encSeq' ++ cksum' ++ rest) →
      encSeq'.length = sequenceBlockLength → cksum'.length = p.kind.outputLength →
      receive t = (do
        let seq ← m.openSequence receiver cksum' encSeq'
        m.verifyChecksum receiver p signed cksum'
        checkSequence receiver seq
        pure x)) :
    RefusesChanges token (token.length - ((p.header tag).encode ++ encSeq ++ cksum ++ rest).length)
      p.kind.outputLength (fun i v => receive (token.modify i (· ^^^ v))) := by
  set inner := (p.header tag).encode ++ encSeq ++ cksum ++ rest
  set w := token.length - inner.length
  have headerLength : (p.header tag).encode.length = 8 := MessageHeader.length_encode _
  have seqLength : encSeq.length = 8 := length_of_sealSequence sealed
  have cksumLength : cksum.length = p.kind.outputLength := length_of_sign signedOk
  -- a changed byte past the wrapper is the same byte of the inner token changed
  have changedInner : ∀ j (f : UInt8 → UInt8),
      Codec.decapsulateFor (token.modify (w + j) f) Oid.krb5 = .ok (inner.modify j f) :=
    Codec.decapsulateFor_modify_inner framed
  have header : ∀ {j v}, v ≠ 0 → j < 8 → ∃ e, receive (token.modify (w + j) (· ^^^ v)) = .error e ∧
      ((j = 2 ∨ j = 3) ∧ ¬ KnownSigning (signingField (token.modify (w + j) (· ^^^ v)) w) →
        ∃ s, e = .failure s Minor.badSignType) ∧
      (¬ ((j = 2 ∨ j = 3) ∧ ¬ KnownSigning (signingField (token.modify (w + j) (· ^^^ v)) w)) →
        ∃ s k, e = .badMic s k) := by
    intro j v nonzero inside
    have split : inner.modify j (· ^^^ v) =
        (p.header tag).encode.modify j (· ^^^ v) ++ (encSeq ++ cksum ++ rest) := by
      simp only [inner, List.append_assoc]
      exact Bytes.modify_append_left _ _ (show j < (p.header tag).encode.length by omega)
    have field : signingField (token.modify (w + j) (· ^^^ v)) w =
        UInt16.ofNat (Bytes.leToNat ((((p.header tag).encode.modify j (· ^^^ v) ++
          (encSeq ++ cksum ++ rest)).drop 2).take 2)) := by
      rw [signingField, ← List.drop_drop, Codec.drop_modify_of_encapsulate framed, split]
    obtain ⟨e, refused, unknown, known⟩ := headerRefused_modify p tag (encSeq ++ cksum ++ rest)
      (by simpa [MessageHeader.encodedLength] using inside) nonzero
    refine ⟨e, headerRefused (split ▸ changedInner j _) refused, ?_, ?_⟩ <;> rw [field] <;> assumption
  refine ⟨fun nonzero inWrapper => ?_, fun {i v} nonzero after inside signing => ?_,
    fun {i v} nonzero field unknown => ?_, fun {i v} nonzero after inside => ?_,
    fun {i v} nonzero after inside => ?_⟩
  · -- the wrapper
    obtain ⟨e, refused⟩ := Codec.decapsulateFor_modify_wrapper framed nonzero inWrapper
    exact ⟨e, unframedError refused⟩
  · -- the header, with the signing algorithm still known where it changed
    obtain ⟨j, rfl⟩ : ∃ j, i = w + j := ⟨i - w, by omega⟩
    obtain ⟨e, answer, -, known⟩ := header (j := j) nonzero (by omega)
    obtain ⟨s, k, rfl⟩ := known fun both => both.2 (signing (by have field := both.1; omega))
    exact ⟨s, k, answer⟩
  · -- the signing algorithm, changed to an unknown one
    obtain ⟨j, rfl, signingByte⟩ : ∃ j, i = w + j ∧ (j = 2 ∨ j = 3) := by
      rcases field with at2 | at3
      exacts [⟨2, at2, .inl rfl⟩, ⟨3, at3, .inr rfl⟩]
    obtain ⟨e, answer, unknownAnswer, -⟩ := header (j := j) nonzero (by omega)
    obtain ⟨s, rfl⟩ := unknownAnswer ⟨signingByte, unknown⟩
    exact ⟨s, answer⟩
  · -- the sequence block: it opens to a bad signature or to another sequence number
    obtain ⟨k, rfl⟩ : ∃ k, i = w + (8 + k) := ⟨i - w - 8, by omega⟩
    have split : inner.modify (8 + k) (· ^^^ v) =
        (p.header tag).encode ++ encSeq.modify k (· ^^^ v) ++ cksum ++ rest := by
      simp only [inner, List.append_assoc]
      rw [Bytes.modify_append_of_le _ _ (show (p.header tag).encode.length ≤ 8 + k by omega),
        headerLength, Nat.add_sub_cancel_left,
        Bytes.modify_append_left _ _ (show k < encSeq.length by omega)]
    rw [sealedStage (split ▸ changedInner (8 + k) _) (by rw [List.length_modify, seqLength]; rfl)
      cksumLength]
    apply sealedChecks_refuse
    rcases openSequence_modify_block lawful sealed sameKey facing
      (show k < sequenceBlockLength by simp only [sequenceBlockLength]; omega) nonzero with refused | ⟨seq, opened, other⟩
    · exact .inl refused
    · exact .inr ⟨seq, opened, .inr ⟨verifyChecksum_of_sign signedOk sameKey, expected ▸ other⟩⟩
  · -- the checksum: whatever the block opens to, the checksum no longer verifies
    obtain ⟨k, rfl⟩ : ∃ k, i = w + (16 + k) := ⟨i - w - 16, by omega⟩
    have split : inner.modify (16 + k) (· ^^^ v) =
        (p.header tag).encode ++ encSeq ++ cksum.modify k (· ^^^ v) ++ rest := by
      simp only [inner, List.append_assoc]
      rw [Bytes.modify_append_of_le _ _ (show (p.header tag).encode.length ≤ 16 + k by omega),
        headerLength, Bytes.modify_append_of_le _ _ (show encSeq.length ≤ 16 + k - 8 by omega),
        seqLength, Bytes.modify_append_left _ _ (show 16 + k - 8 - 8 < cksum.length by omega)]
      simp only [show 16 + k - 8 - 8 = k by omega]
    rw [sealedStage (split ▸ changedInner (16 + k) _) seqLength (by simpa using cksumLength)]
    apply sealedChecks_refuse
    obtain ⟨s, mismatch⟩ := verifyChecksum_modify signedOk sameKey (show k < cksum.length by omega)
      nonzero
    rcases openSequence_modify_cksum lawful sealed sameKey k v with refused | ⟨seq, opened⟩
    · exact .inl refused
    · exact .inr ⟨seq, opened, .inl ⟨s, 0, mismatch⟩⟩

/-- Under a lawful cipher, a receiver that would accept a wrap token (established, with the
sender's key, facing the sender and expecting its sequence number) refuses the token with any
byte of its wrapper, header, sequence block or checksum changed. With a byte of the confounder
or the padded message changed it accepts only a self-consistent padding whose checksum, after
the header, is the token's own. -/
theorem unwrapMessage_refuses_changes (lawful : m.suite.Lawful) {sender' : Context}
    {message token : Bytes} {r : RandomSource}
    (sent : ((m.wrapMessage sender message).run.run r).1 = .ok (token, sender'))
    (sameKey : receiver.key = sender.key) (facing : receiver.role.peer = sender.role)
    (established : receiver.phase = .established) (expected : receiver.recvSeq = sender.sendSeq) :
    ∃ inner p, Codec.decapsulateFor token Oid.krb5 = .ok inner ∧ Profile.forKey sender.key = .ok p ∧
      RefusesChanges token (token.length - inner.length) p.kind.outputLength
        (fun i v => m.unwrapMessage receiver (token.modify i (· ^^^ v))) ∧
      ∀ {i v out}, v ≠ 0 → token.length - inner.length + 16 + p.kind.outputLength ≤ i →
        m.unwrapMessage receiver (token.modify i (· ^^^ v)) = .ok out →
        let body := (inner.modify (i - (token.length - inner.length)) (· ^^^ v)).drop
          (16 + p.kind.outputLength)
        PaddingConsistent (body.drop 8) ∧
          m.sign receiver p (inner.take 8 ++ body) = .ok ((inner.drop 16).take p.kind.outputLength) := by
  obtain ⟨p, confounder, cksum, encSeq, made, confounderLength, signed, sealed, framed, -⟩ :=
    wrapMessage_eq_ok sent
  set body := confounder ++ pad message
  have framed' : Codec.encapsulate Oid.krb5 ((p.header .wrap).encode ++ encSeq ++ cksum ++ body) =
      .ok token := by
    simpa only [body, List.append_assoc] using encapsulate_of_frame framed
  have signed' : m.sign sender p ((p.header .wrap).encode ++ body) = .ok cksum := by
    simpa only [body, List.append_assoc] using signed
  have made' : Profile.forKey receiver.key = .ok p := sameKey ▸ made
  have seqLength := length_of_sealSequence sealed
  have cksumLength := length_of_sign signed
  -- the honest body: a confounder and a padded message, whole blocks
  obtain ⟨n, positive, few, whole, padded⟩ := pad_eq message
  have bodyLength : body.length = wrapConfounderLength + message.length + n := by
    simp [body, confounderLength, padded, Nat.add_assoc]
  have consistent : PaddingConsistent (body.drop wrapConfounderLength) := by
    rw [List.drop_left' confounderLength]
    exact paddingConsistent_pad message
  have long : wrapConfounderLength + Block.size ≤ body.length := by
    simp only [bodyLength, wrapConfounderLength, Block.size] at few whole ⊢; omega
  have whole' : body.length % Block.size = 0 := by
    simp only [bodyLength, wrapConfounderLength, Block.size] at whole ⊢; omega
  refine ⟨_, p, Codec.decapsulateFor_of_encapsulate framed', made,
    refusesChanges_of_stages lawful signed' sealed sameKey facing expected framed'
      (unwrapMessage_of_unframed_error established)
      (fun unframed refused => unwrapMessage_of_headerRefused established unframed made' refused)
      (fun unframed seqLength' cksumLength' => unwrapMessage_of_padded established made' seqLength'
        cksumLength' unframed long whole' consistent), ?_⟩
  -- a changed byte of the body: the changed token passes its header checks and must pass the rest
  intro i v out nonzero after accepted
  set inner := (p.header .wrap).encode ++ encSeq ++ cksum ++ body
  set w := token.length - inner.length
  have headerLength : (p.header .wrap).encode.length = 8 := MessageHeader.length_encode _
  have prefixLength : ((p.header .wrap).encode ++ encSeq ++ cksum).length = 16 + p.kind.outputLength := by
    rw [List.length_append, List.length_append, headerLength, seqLength, cksumLength]; rfl
  obtain ⟨k, rfl⟩ : ∃ k, i = w + (16 + p.kind.outputLength + k) :=
    ⟨i - w - 16 - p.kind.outputLength, by omega⟩
  have split : inner.modify (16 + p.kind.outputLength + k) (· ^^^ v) =
      (p.header .wrap).encode ++ encSeq ++ cksum ++ body.modify k (· ^^^ v) := by
    rw [Bytes.modify_append_of_le _ _ (show ((p.header .wrap).encode ++ encSeq ++ cksum).length ≤
      16 + p.kind.outputLength + k by omega), prefixLength, Nat.add_sub_cancel_left]
  have unframed := Codec.decapsulateFor_modify_inner framed' (16 + p.kind.outputLength + k) (· ^^^ v)
  rw [split] at unframed
  have long' : wrapConfounderLength + Block.size ≤ (body.modify k (· ^^^ v)).length := by
    rw [List.length_modify]; exact long
  have whole'' : (body.modify k (· ^^^ v)).length % Block.size = 0 := by
    rw [List.length_modify]; exact whole'
  have bodyAt : (inner.modify (w + (16 + p.kind.outputLength + k) - w) (· ^^^ v)).drop
      (16 + p.kind.outputLength) = body.modify k (· ^^^ v) := by
    rw [Nat.add_sub_cancel_left, split, List.drop_left' prefixLength]
  have headerAt : inner.take 8 = (p.header .wrap).encode := by
    simp only [inner, List.append_assoc]
    exact List.take_left' headerLength
  have cksumAt : (inner.drop 16).take p.kind.outputLength = cksum := by
    have front : ((p.header .wrap).encode ++ encSeq).length = 16 := by
      rw [List.length_append, headerLength, seqLength]; rfl
    simp only [inner, List.append_assoc]
    rw [← List.append_assoc, List.drop_left' front, List.take_left' cksumLength]
  dsimp only
  rw [bodyAt, headerAt, cksumAt]
  by_cases consistent' : PaddingConsistent ((body.modify k (· ^^^ v)).drop wrapConfounderLength)
  · rw [unwrapMessage_of_padded established made' seqLength cksumLength unframed long' whole''
      consistent'] at accepted
    obtain ⟨seq, -, accepted⟩ := Except.bind_eq_ok.1 accepted
    obtain ⟨_, verified, -⟩ := Except.bind_eq_ok.1 accepted
    exact ⟨consistent', sign_of_verifyChecksum verified⟩
  · obtain ⟨s, refused⟩ := unwrapMessage_of_unpadded established made' seqLength cksumLength unframed
      long' whole'' consistent'
    rw [refused] at accepted
    obtain ⟨_, -, accepted⟩ := Except.bind_eq_ok.1 accepted
    cases accepted

/-- Under a lawful cipher, a receiver that would accept an integrity token (established, with
the sender's key, facing the sender and expecting its sequence number) refuses the token with
any byte changed: the inner token is just the header, the sequence block and the checksum. -/
theorem verifyMicMessage_refuses_changes (lawful : m.suite.Lawful) {sender' : Context}
    {message token : Bytes} (sent : m.micMessage sender message = .ok (token, sender'))
    (sameKey : receiver.key = sender.key) (facing : receiver.role.peer = sender.role)
    (established : receiver.phase = .established) (expected : receiver.recvSeq = sender.sendSeq) :
    ∃ inner p, Codec.decapsulateFor token Oid.krb5 = .ok inner ∧ Profile.forKey sender.key = .ok p ∧
      inner.length = 16 + p.kind.outputLength ∧
      RefusesChanges token (token.length - inner.length) p.kind.outputLength
        (fun i v => m.verifyMicMessage receiver message (token.modify i (· ^^^ v))) := by
  obtain ⟨p, cksum, encSeq, made, signed, sealed, framed, -⟩ := micMessage_eq_ok sent
  have framed' : Codec.encapsulate Oid.krb5 ((p.header .mic).encode ++ encSeq ++ cksum ++ []) =
      .ok token := by
    simpa only [List.append_nil] using encapsulate_of_frame framed
  have made' : Profile.forKey receiver.key = .ok p := sameKey ▸ made
  have innerLength : ((p.header .mic).encode ++ encSeq ++ cksum ++ []).length =
      16 + p.kind.outputLength := by
    rw [List.append_nil, List.length_append, List.length_append, MessageHeader.length_encode,
      length_of_sealSequence sealed, length_of_sign signed]
    rfl
  refine ⟨_, p, Codec.decapsulateFor_of_encapsulate framed', made, innerLength,
    refusesChanges_of_stages (x := { receiver with recvSeq := receiver.recvSeq + 1 }) lawful
      signed sealed sameKey facing expected framed' (verifyMicMessage_of_unframed_error established)
      (fun unframed refused => verifyMicMessage_of_headerRefused established unframed made' refused)
      (fun unframed seqLength cksumLength => ?_)⟩
  rw [List.append_nil] at unframed
  exact verifyMicMessage_of_header established made' seqLength cksumLength unframed

end Mechanism

/-- A receiver refuses the changed tokens of a sender. Of every wrap token the sender makes, it
refuses each change to the wrapper, header, sequence block or checksum as `RefusesChanges`
says, and accepts a change to the confounder or the padded message only when the padding stays
self-consistent and the checksum of the header and the changed body is the token's own. Of
every integrity token, whose inner token is the header, the sequence block and the checksum, it
refuses every change as `RefusesChanges` says. -/
structure RefusesChangedTokens (m : Mechanism) (sender receiver : Context) : Prop where
  wrapTokens : ∀ {message token : Bytes} {sender' : Context} {r : RandomSource},
    ((m.wrapMessage sender message).run.run r).1 = .ok (token, sender') →
    ∃ inner p, Codec.decapsulateFor token Oid.krb5 = .ok inner ∧ Profile.forKey sender.key = .ok p ∧
      RefusesChanges token (token.length - inner.length) p.kind.outputLength
        (fun i v => m.unwrapMessage receiver (token.modify i (· ^^^ v))) ∧
      ∀ {i v out}, v ≠ 0 → token.length - inner.length + 16 + p.kind.outputLength ≤ i →
        m.unwrapMessage receiver (token.modify i (· ^^^ v)) = .ok out →
        let body := (inner.modify (i - (token.length - inner.length)) (· ^^^ v)).drop
          (16 + p.kind.outputLength)
        PaddingConsistent (body.drop 8) ∧
          m.sign receiver p (inner.take 8 ++ body) = .ok ((inner.drop 16).take p.kind.outputLength)
  micTokens : ∀ {message token : Bytes} {sender' : Context},
    m.micMessage sender message = .ok (token, sender') →
    ∃ inner p, Codec.decapsulateFor token Oid.krb5 = .ok inner ∧ Profile.forKey sender.key = .ok p ∧
      inner.length = 16 + p.kind.outputLength ∧
      RefusesChanges token (token.length - inner.length) p.kind.outputLength
        (fun i v => m.verifyMicMessage receiver message (token.modify i (· ^^^ v)))

namespace Mechanism

variable {m : Mechanism} {sender receiver : Context}

/-- Tamper detection: under a lawful cipher, a receiver that would accept a sender's tokens
(established, with the sender's key, facing the sender and expecting the sender's sequence
number) refuses the sender's wrap and integrity tokens once a byte of them changes. -/
theorem changed_tokens_are_refused (lawful : m.suite.Lawful) (sameKey : receiver.key = sender.key)
    (facing : receiver.role.peer = sender.role) (established : receiver.phase = .established)
    (expected : receiver.recvSeq = sender.sendSeq) : RefusesChangedTokens m sender receiver :=
  ⟨fun sent => unwrapMessage_refuses_changes lawful sent sameKey facing established expected,
    fun sent => verifyMicMessage_refuses_changes lawful sent sameKey facing established expected⟩

/-- The hypotheses hold together: over the identity cipher, which is lawful, an established
acceptor on an initiator's DES key, expecting the initiator's next sequence number, refuses
the initiator's changed tokens. -/
theorem changed_tokens_are_refused_by_a_waiting_acceptor :
    let m : Mechanism := { suite := ⟨⟨fun _ => ⟨id, id⟩⟩, ⟨fun _ => ⟨id, id⟩⟩⟩ }
    let key : SessionKey := ⟨.desCbcMd5, List.replicate 8 7⟩
    let sender : Context := { (default : Context) with role := .initiator, key, sendSeq := 42 }
    let receiver : Context := { sender with role := .acceptor, phase := .established, recvSeq := 42 }
    m.suite.Lawful ∧ receiver.key = sender.key ∧ receiver.role.peer = sender.role ∧
      receiver.phase = .established ∧ receiver.recvSeq = sender.sendSeq ∧
      RefusesChangedTokens m sender receiver := by
  intro m key sender receiver
  have lawful : m.suite.Lawful := ⟨fun _ _ => rfl, fun _ _ => rfl⟩
  exact ⟨lawful, rfl, rfl, rfl, rfl, changed_tokens_are_refused lawful rfl rfl rfl rfl⟩

end Mechanism

end Krb5

end GssApi
