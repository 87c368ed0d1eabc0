import GssApi.Proofs.WrapperCodec
import Mathlib.Data.Nat.Size

/-! Definite lengths as a codec of their own.

The writer and the reader share the limit of four length octets. Every length below `2 ^ 32`
is written in `lengthSize n` bytes, at most five, and reads back from the front of any input
that starts with it; every larger length is refused. The reader accepts more than the writer
writes (leading zero octets, a long form for a short value). Still, whatever it reads took at
most five bytes of its input and is below `2 ^ 32`, and the writer reproduces the bytes read
exactly when they are in minimal form.

The number of significant bytes is computed by repeated division by 256. It is the least
number of bytes whose range holds the value, which is the bit length of the value rounded up to
whole bytes. -/
namespace GssApi.Codec

/-- The number of significant bytes of `n` is the least `k` with `n < 256 ^ k`. -/
theorem significantBytes_le_iff {n k : Nat} : significantBytes n ≤ k ↔ n < 256 ^ k :=
  ⟨fun few => Nat.lt_of_lt_of_le (lt_pow_significantBytes n) (Nat.pow_le_pow_right (by omega) few),
    significantBytes_le⟩

/-- The number of significant bytes is the bit length rounded up to whole bytes. -/
theorem significantBytes_eq_size (n : Nat) : significantBytes n = (Nat.size n + 7) / 8 := by
  apply Nat.le_antisymm
  · rw [significantBytes_le_iff]
    calc n < 2 ^ Nat.size n := Nat.lt_size_self n
      _ ≤ 2 ^ (8 * ((Nat.size n + 7) / 8)) := Nat.pow_le_pow_right (by omega) (by omega)
      _ = 256 ^ ((Nat.size n + 7) / 8) := by rw [Nat.pow_mul]
  · have bits : Nat.size n ≤ 8 * significantBytes n := by
      rw [Nat.size_le, Nat.pow_mul]
      exact lt_pow_significantBytes n
    omega

/-- A long-form length takes one byte more than the least number of bytes that hold it. -/
theorem lengthSize_le_iff {n k : Nat} (long : 0x80 ≤ n) : lengthSize n ≤ 1 + k ↔ n < 256 ^ k := by
  rw [lengthSize, if_neg (by omega), ← significantBytes_le_iff]
  omega

theorem lengthSize_le_five {n : Nat} (few : n < 2 ^ 32) : lengthSize n ≤ 5 := by
  by_cases short : n < 0x80
  · rw [lengthSize, if_pos short]
    omega
  · exact (lengthSize_le_iff (k := 4) (by omega)).2 (by omega)

/-- A length read from the front of an input took at most five of its bytes and is below
`2 ^ 32`. -/
theorem readLength_bounds {d : Bytes} {n k : Nat} (read : readLength d = .ok (n, k)) :
    k ≤ d.length ∧ k ≤ 5 ∧ n < 2 ^ 32 := by
  refine ⟨Guarded.used_le_of_readLength read, ?_⟩
  cases d with
  | nil => cases read
  | cons first rest =>
    rcases readLength_cons_eq_ok read with ⟨short, rfl, rfl⟩ | ⟨-, -, few, -, rfl, rfl⟩
    · omega
    · -- the value octets are at most four, so their number stays below `256 ^ 4`
      simp only [maxLengthOctets] at few
      have below := Bytes.beToNat_lt (rest.take (first.toNat % 128))
      have width : 256 ^ (rest.take (first.toNat % 128)).length ≤ 256 ^ 4 :=
        Nat.pow_le_pow_right (by omega) (by simp only [List.length_take]; omega)
      omega

theorem used_pos_of_readLength {d : Bytes} {n k : Nat} (read : readLength d = .ok (n, k)) : 0 < k := by
  cases d with
  | nil => cases read
  | cons first rest =>
    rcases readLength_cons_eq_ok read with ⟨-, -, rfl⟩ | ⟨-, -, -, -, -, rfl⟩ <;> omega

/-- For a field the reader has read whole, minimal form is the short form, or a long form
whose first value octet is not zero and whose value needs the long form. -/
theorem isMinimalLength_iff {field rest : Bytes} {n : Nat}
    (read : readLength (field ++ rest) = .ok (n, field.length)) :
    IsMinimalLength field ↔ field.length = 1 ∨ (field[1]? ≠ some 0 ∧ 0x80 ≤ n) := by
  rcases field with _ | ⟨c, _ | ⟨v, more⟩⟩
  · exact absurd (used_pos_of_readLength read) (by simp)
  · -- one byte read whole is a short form
    rcases readLength_cons_eq_ok read with ⟨short, -, -⟩ | ⟨-, counted, -, -, -, used⟩
    · exact iff_of_true (UInt8.lt_iff_toNat_lt.mpr short) (.inl rfl)
    · simp only [List.length_singleton] at used
      omega
  · obtain ⟨-, -, -, value⟩ := readLength_long_field read
    have bounds := Bytes.beToNat_cons_bounds v more
    rw [← value] at bounds
    have notShort : (c :: v :: more).length ≠ 1 := by simp
    rw [or_iff_right notShort, show (c :: v :: more)[1]? = some v from rfl]
    simp only [ne_eq, Option.some.injEq]
    rcases more with _ | ⟨w, more⟩
    · -- a single value octet is the value itself
      simp only [List.length_nil, Nat.pow_zero, Nat.mul_one] at bounds
      change 0x80 ≤ v ↔ _
      rw [UInt8.le_iff_toNat_le, ← UInt8.toNat_inj]
      simp only [UInt8.reduceToNat]
      omega
    · -- with two value octets or more, a non-zero first one puts the value at `256` or above
      change v ≠ 0 ↔ _
      have big : 256 ≤ 256 ^ (w :: more).length := Nat.le_self_pow (by simp) 256
      constructor
      · intro nonzero
        have positive : 0 < v.toNat := Nat.pos_of_ne_zero fun zero => nonzero (UInt8.toNat_inj.mp zero)
        refine ⟨nonzero, ?_⟩
        calc 0x80 ≤ 256 ^ (w :: more).length := by omega
          _ ≤ v.toNat * 256 ^ (w :: more).length := Nat.le_mul_of_pos_left _ positive
          _ ≤ n := bounds.1
      · exact And.left

/-- The writer reproduces the bytes a read took exactly when they are in minimal form: the
short form, or a long form whose first value octet is not zero, for a length of at least
128. -/
theorem writeLength_eq_take_iff {d : Bytes} {n k : Nat} (read : readLength d = .ok (n, k)) :
    writeLength n = .ok (d.take k) ↔ k = 1 ∨ (d[1]? ≠ some 0 ∧ 0x80 ≤ n) := by
  have within := Guarded.used_le_of_readLength read
  have whole : readLength (d.take k ++ d.drop k) = .ok (n, (d.take k).length) := by
    rw [List.take_append_drop, List.length_take_of_le within]
    exact read
  rw [writeLength_eq_ok_iff_minimal whole, isMinimalLength_iff whole, List.length_take_of_le within]
  by_cases short : k = 1
  · simp [short]
  · -- a long form took at least two bytes, so its first value octet is among them
    have second : (d.take k)[1]? = d[1]? := by
      rw [List.getElem?_take, if_pos (by have := used_pos_of_readLength read; omega)]
    rw [second]

/-- Definite lengths are a codec whose writer and reader share the limit of four length octets.
Every length below `2 ^ 32` is written in `lengthSize n` bytes, at most five, and reads back with
that size from the front of any input that starts with it. The size is one byte below 128 and
otherwise one byte more than the significant bytes of the length: its bit length rounded up to
whole bytes, the least number of bytes whose range holds it. Every larger length is refused.
Conversely, whatever the reader reads took at most five of the input's bytes and is below
`2 ^ 32`, and the writer reproduces the bytes read exactly when they are the short form, or a
long form whose first value octet is not zero, for a length of at least 128. -/
theorem definite_lengths_round_trip :
    (∀ n, n < 2 ^ 32 → ∃ bs, writeLength n = .ok bs ∧ bs.length = lengthSize n ∧
      lengthSize n ≤ 5 ∧ ∀ rest, readLength (bs ++ rest) = .ok (n, lengthSize n)) ∧
    (∀ n, lengthSize n = if n < 0x80 then 1 else 1 + (Nat.size n + 7) / 8) ∧
    (∀ n k, 0x80 ≤ n → (lengthSize n ≤ 1 + k ↔ n < 256 ^ k)) ∧
    (∀ n, 2 ^ 32 ≤ n → writeLength n = .error .badLength) ∧
    (∀ d n k, readLength d = .ok (n, k) → k ≤ d.length ∧ k ≤ 5 ∧ n < 2 ^ 32 ∧
      (writeLength n = .ok (d.take k) ↔ k = 1 ∨ (d[1]? ≠ some 0 ∧ 0x80 ≤ n))) := by
  refine ⟨fun n few => ?_, fun n => by rw [lengthSize, significantBytes_eq_size],
    fun _ _ long => lengthSize_le_iff long, fun _ many => writeLength_of_le many,
    fun _ _ _ read => ?_⟩
  · obtain ⟨bs, written⟩ := writeLength_ok few
    have size := length_of_writeLength written
    refine ⟨bs, written, size, lengthSize_le_five few, fun rest => ?_⟩
    rw [← size]
    exact readLength_of_writeLength written rest
  · obtain ⟨within, five, below⟩ := readLength_bounds read
    exact ⟨within, five, below, writeLength_eq_take_iff read⟩

end GssApi.Codec
