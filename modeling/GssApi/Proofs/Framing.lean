import GssApi.Codec.Frame
import GssApi.Codec.Header
import Mathlib.Data.List.Induction
import Mathlib.Algebra.Group.Nat.Defs

/-! Reading back what the token writers write. Fixed-width integers read back as the value
they were written from; a DER length reads back as the length it encodes with the number of
octets it took; a framed token unframes to its mechanism and inner token; a per-message
header parses to the header it encodes. Every statement is about a written value followed by
arbitrary further bytes, so that a caller can peel a token from the front. -/
namespace GssApi

namespace Bytes

@[simp] theorem length_beOfNat (n v : Nat) : (beOfNat n v).length = n := by
  induction n generalizing v with
  | zero => rfl
  | succ n ih => rw [beOfNat, List.length_append, ih]; rfl

@[simp] theorem length_leOfNat (n v : Nat) : (leOfNat n v).length = n := by
  induction n generalizing v with
  | zero => rfl
  | succ n ih => rw [leOfNat, List.length_cons, ih]

@[simp] theorem length_u16le (v : UInt16) : (u16le v).length = 2 := length_leOfNat 2 _
@[simp] theorem length_u32le (v : UInt32) : (u32le v).length = 4 := length_leOfNat 4 _
@[simp] theorem length_u32be (v : UInt32) : (u32be v).length = 4 := length_beOfNat 4 _
@[simp] theorem length_u64be (v : UInt64) : (u64be v).length = 8 := length_beOfNat 8 _

theorem toNat_ofNat_byte {d : Nat} (byte : d < 256) : (UInt8.ofNat d).toNat = d := by
  rw [UInt8.toNat_ofNat']
  exact Nat.mod_eq_of_lt byte

/-- Little-endian bytes read back as the value modulo the width. -/
theorem leToNat_leOfNat (n v : Nat) : leToNat (leOfNat n v) = v % 256 ^ n := by
  induction n generalizing v with
  | zero => simp [leOfNat, leToNat, Nat.mod_one]
  | succ n ih =>
    have byte : (UInt8.ofNat v).toNat = v % 256 := by simp
    simp only [leOfNat, leToNat, List.foldr_cons] at *
    rw [ih, byte, Nat.pow_succ, Nat.mul_comm _ 256, Nat.mod_mul]

/-- Big-endian bytes read back as the value modulo the width. -/
theorem beToNat_beOfNat (n v : Nat) : beToNat (beOfNat n v) = v % 256 ^ n := by
  induction n generalizing v with
  | zero => simp [beOfNat, beToNat, Nat.mod_one]
  | succ n ih =>
    have byte : (UInt8.ofNat v).toNat = v % 256 := by simp
    simp only [beOfNat, beToNat, List.foldl_append, List.foldl_cons, List.foldl_nil] at *
    rw [ih, byte, Nat.pow_succ', Nat.mod_mul]
    omega

theorem beToNat_lt (bs : Bytes) : beToNat bs < 256 ^ bs.length := by
  have step : ∀ (acc : Nat) (bs : Bytes),
      bs.foldl (fun acc b => acc * 256 + b.toNat) acc < (acc + 1) * 256 ^ bs.length := by
    intro acc bs
    induction bs generalizing acc with
    | nil => simp
    | cons b bs ih =>
      have byte := b.toNat_lt
      calc _ < (acc * 256 + b.toNat + 1) * 256 ^ bs.length := ih _
        _ ≤ (acc + 1) * 256 * 256 ^ bs.length := by
          apply Nat.mul_le_mul_right; omega
        _ = (acc + 1) * 256 ^ (b :: bs).length := by
          rw [List.length_cons, Nat.pow_succ', Nat.mul_assoc]
  simpa [beToNat] using step 0 bs

/-- Reading bytes big-endian and writing the value back at the same width gives the bytes. -/
theorem beOfNat_beToNat (bs : Bytes) : beOfNat bs.length (beToNat bs) = bs := by
  induction bs using List.reverseRecOn with
  | nil => rfl
  | append_singleton bs b ih =>
    have value : beToNat (bs ++ [b]) = beToNat bs * 256 + b.toNat := by
      simp [beToNat, List.foldl_append]
    rw [List.length_append, List.length_singleton, beOfNat, value]
    have div : (beToNat bs * 256 + b.toNat) / 256 = beToNat bs := by
      have := b.toNat_lt; omega
    rw [div, ih]
    simp

theorem leToNat_u16le (v : UInt16) : leToNat (u16le v) = v.toNat := by
  rw [u16le, leToNat_leOfNat]
  exact Nat.mod_eq_of_lt v.toNat_lt

theorem leToNat_u32le (v : UInt32) : leToNat (u32le v) = v.toNat := by
  rw [u32le, leToNat_leOfNat]
  exact Nat.mod_eq_of_lt v.toNat_lt

theorem beToNat_u32be (v : UInt32) : beToNat (u32be v) = v.toNat := by
  rw [u32be, beToNat_beOfNat]
  exact Nat.mod_eq_of_lt v.toNat_lt

theorem beToNat_u64be (v : UInt64) : beToNat (u64be v) = v.toNat := by
  rw [u64be, beToNat_beOfNat]
  exact Nat.mod_eq_of_lt v.toNat_lt

/-- The difference of a byte string with itself accumulates to zero. -/
theorem sameBytes_self (a : Bytes) : sameBytes a a = true := by
  have zero : ∀ (acc : UInt8) (l : Bytes),
      (List.zipWith (· ^^^ ·) l l).foldl (· ||| ·) acc = acc := by
    intro acc l
    induction l generalizing acc with
    | nil => rfl
    | cons b l ih =>
      rw [List.zipWith_cons_cons, List.foldl_cons, UInt8.xor_self, UInt8.or_zero]
      exact ih acc
  simp only [sameBytes, zero, beq_self_eq_true, Bool.and_self]

end Bytes

namespace Codec

theorem lt_pow_significantBytes (n : Nat) : n < 256 ^ significantBytes n := by
  induction n using Nat.strongRecOn with
  | ind n ih =>
    rw [significantBytes]
    split
    · omega
    · have below := ih (n / 256) (by omega)
      rw [Nat.pow_succ]
      omega

theorem significantBytes_pos {n : Nat} (positive : 0 < n) : 0 < significantBytes n := by
  rw [significantBytes]
  split <;> omega

/-- What `writeLength` writes: one byte below 128, else the octet count and the octets. -/
theorem writeLength_eq_ok {n : Nat} {bs : Bytes} (written : writeLength n = .ok bs) :
    (n < 0x80 ∧ bs = [UInt8.ofNat n]) ∨
      (0x80 ≤ n ∧ 0 < significantBytes n ∧ significantBytes n ≤ maxLengthOctets ∧
        bs = UInt8.ofNat (0x80 + significantBytes n) :: Bytes.beOfNat (significantBytes n) n) := by
  unfold writeLength at written
  split at written
  · cases written
    exact .inl ⟨by omega, rfl⟩
  · dsimp only at written
    split at written
    · cases written
    · cases written
      exact .inr ⟨by omega, significantBytes_pos (by omega), by omega, rfl⟩

theorem length_of_writeLength {n : Nat} {bs : Bytes} (written : writeLength n = .ok bs) :
    bs.length = lengthSize n := by
  rcases writeLength_eq_ok written with ⟨short, rfl⟩ | ⟨long, -, -, rfl⟩
  · simp [lengthSize, short]
  · simp [lengthSize, Nat.not_lt.mpr long, Nat.add_comm]

/-- The long-form first octet gives back its octet count. -/
private theorem lengthOctets_of_first {k : Nat} (positive : 0 < k) (few : k ≤ maxLengthOctets) :
    ¬ UInt8.ofNat (0x80 + k) < 0x80 ∧ (UInt8.ofNat (0x80 + k) &&& 0x7F).toNat = k := by
  simp only [maxLengthOctets] at few
  match k, positive, few with
  | 1, _, _ | 2, _, _ | 3, _, _ | 4, _, _ => decide

/-- A written length reads back, with the number of octets it took, whatever follows it. -/
theorem readLength_of_writeLength {n : Nat} {bs : Bytes} (written : writeLength n = .ok bs)
    (rest : Bytes) : readLength (bs ++ rest) = .ok (n, bs.length) := by
  rcases writeLength_eq_ok written with ⟨short, rfl⟩ | ⟨long, positive, few, rfl⟩
  · have fits : UInt8.ofNat n < 0x80 := by
      rw [UInt8.lt_iff_toNat_lt, UInt8.toNat_ofNat]; simp; omega
    simp only [List.singleton_append, readLength, fits, if_true, List.length_singleton]
    simp [Nat.mod_eq_of_lt (show n < 256 by omega)]
  · obtain ⟨long_form, octets⟩ := lengthOctets_of_first positive few
    have value : Bytes.beToNat ((Bytes.beOfNat (significantBytes n) n ++ rest).take
        (significantBytes n)) = n := by
      rw [List.take_left' (Bytes.length_beOfNat _ _), Bytes.beToNat_beOfNat]
      exact Nat.mod_eq_of_lt (lt_pow_significantBytes n)
    simp only [List.cons_append, readLength]
    rw [if_neg long_form]
    simp only [octets, maxLengthOctets] at few ⊢
    rw [if_neg (by omega), if_neg (by simp), value]
    simp [Nat.add_comm]

end Codec

namespace TokenTag

@[simp] theorem length_bytes (tag : TokenTag) : tag.bytes.length = 2 := by
  cases tag <;> rfl

end TokenTag

namespace Codec

/-- A tagged inner token loses exactly its tag. -/
theorem stripTag_bytes_append (tag : TokenTag) (rest : Bytes) :
    stripTag (tag.bytes ++ rest) tag = .ok rest := by
  cases tag <;> rfl

/-- The content of a framed token: the identifier tag, its length, its bytes, the inner token. -/
theorem encapsulate_eq_ok {mech : Oid} {inner token : Bytes} (framed : encapsulate mech inner = .ok token) :
    ∃ outer oidLength, writeLength (contentLength mech inner) = .ok outer ∧
      writeLength mech.bytes.length = .ok oidLength ∧
      token = wrapperTag :: outer ++ oidTag :: oidLength ++ mech.bytes ++ inner := by
  unfold encapsulate at framed
  cases outerWritten : writeLength (contentLength mech inner) with
  | error e => simp [outerWritten, bind, Except.bind] at framed
  | ok outer =>
    cases oidWritten : writeLength mech.bytes.length with
    | error e => simp [outerWritten, oidWritten, bind, Except.bind] at framed
    | ok oidLength =>
      simp only [outerWritten, oidWritten, bind, Except.bind, pure, Except.pure,
        Except.ok.injEq] at framed
      exact ⟨outer, oidLength, rfl, rfl, framed.symm⟩

private theorem ofBytes_bytes (mech : Oid) : Oid.ofBytes? mech.bytes = some mech := by
  simp [Oid.ofBytes?, mech.nonempty]

/-- A framed token unframes to the mechanism and the inner token it was framed from. -/
theorem decapsulate_of_encapsulate {mech : Oid} {inner token : Bytes}
    (framed : encapsulate mech inner = .ok token) : decapsulate token = .ok ⟨mech, inner⟩ := by
  obtain ⟨outer, oidLength, outerWritten, oidWritten, rfl⟩ := encapsulate_eq_ok framed
  have outerRead := readLength_of_writeLength outerWritten (oidTag :: oidLength ++ mech.bytes ++ inner)
  have oidRead := readLength_of_writeLength oidWritten (mech.bytes ++ inner)
  have content : (oidTag :: oidLength ++ mech.bytes ++ inner).length = contentLength mech inner := by
    simp [contentLength, length_of_writeLength oidWritten]
    omega
  have nonempty : mech.bytes.length ≠ 0 := by
    simpa [List.length_eq_zero_iff] using mech.nonempty
  have ofBytes : Oid.ofBytes? ((mech.bytes ++ inner).take mech.bytes.length) = some mech := by
    rw [List.take_left]
    exact ofBytes_bytes mech
  simp only [List.append_assoc, List.cons_append, oidTag] at outerRead content ⊢
  simp only [decapsulate, wrapperTag, ne_eq, not_true_eq_false, if_false, bind, Except.bind,
    outerRead, List.drop_left, content, oidRead, nonempty, need, List.length_append, oidTag,
    ofBytes]
  rw [if_neg (by omega)]
  rfl

theorem significantBytes_le {n k : Nat} (below : n < 256 ^ k) : significantBytes n ≤ k := by
  induction k generalizing n with
  | zero =>
    have zero : n = 0 := by simpa using below
    simp [significantBytes, zero]
  | succ k ih =>
    rw [significantBytes]
    split
    · omega
    · have rest := ih (n := n / 256) (by rw [Nat.pow_succ] at below; omega)
      omega

/-- Every length below `2 ^ 32` can be written. -/
theorem writeLength_ok {n : Nat} (few : n < 2 ^ 32) : ∃ bs, writeLength n = .ok bs := by
  have octets := significantBytes_le (k := maxLengthOctets) (by simp only [maxLengthOctets]; omega)
  unfold writeLength
  split
  · exact ⟨_, rfl⟩
  · exact ⟨_, by rw [if_neg (by omega)]⟩

/-- A token whose content is shorter than `2 ^ 32` bytes can be framed. -/
theorem encapsulate_ok {mech : Oid} {inner : Bytes} (few : contentLength mech inner < 2 ^ 32) :
    ∃ token, encapsulate mech inner = .ok token := by
  obtain ⟨outer, outerWritten⟩ := writeLength_ok few
  obtain ⟨oidLength, oidWritten⟩ := writeLength_ok (n := mech.bytes.length)
    (by simp only [contentLength] at few; omega)
  exact ⟨wrapperTag :: outer ++ oidTag :: oidLength ++ mech.bytes ++ inner,
    by simp [encapsulate, outerWritten, oidWritten, bind, Except.bind, pure, Except.pure]⟩

/-- A token framed under a mechanism unframes, for that mechanism, to its inner token. -/
theorem decapsulateFor_of_encapsulate {mech : Oid} {inner token : Bytes}
    (framed : encapsulate mech inner = .ok token) : decapsulateFor token mech = .ok inner := by
  simp [decapsulateFor, decapsulate_of_encapsulate framed, bind, Except.bind, pure, Except.pure]

end Codec

namespace MessageHeader

@[simp] theorem length_encode (h : MessageHeader) : h.encode.length = encodedLength := by
  simp [encode, encodedLength]

theorem ofNat_leToNat_u16le (v : UInt16) : UInt16.ofNat (Bytes.leToNat (Bytes.u16le v)) = v := by
  rw [Bytes.leToNat_u16le, UInt16.ofNat_toNat]

/-- A header parses back from its encoding, whatever follows it. -/
theorem parse_encode_append (h : MessageHeader) (rest : Bytes) :
    parse (h.encode ++ rest) h.tag = .ok h := by
  have long : ¬ (h.encode ++ rest).length < encodedLength := by
    simp [encodedLength]
  have stripped : Codec.stripTag (h.encode ++ rest) h.tag =
      .ok (Bytes.u16le h.sgnAlg ++ Bytes.u16le h.sealAlg ++ Bytes.u16le filler ++ rest) := by
    simp only [encode, List.append_assoc]
    exact Codec.stripTag_bytes_append h.tag _
  simp only [parse, need, long, if_false, stripped, bind, Except.bind, List.append_assoc,
    List.take_left' (Bytes.length_u16le _), List.drop_left' (Bytes.length_u16le _),
    ofNat_leToNat_u16le, ne_eq, if_false, pure, Except.pure]
  rfl

end MessageHeader

end GssApi
