import GssApi.Krb5.Exchange.Field
import GssApi.Proofs.Framing
import GssApi.Proofs.Utf8
import GssApi.Proofs.Effects

/-! Fields of exchange messages read back.

A writer puts a value at the front of a message and a reader takes it from there, whatever
follows. Each lemma here says what a reader answers on a message that starts with what its
writer wrote, in the form `r.run (written ++ rest) = .ok (value, rest)` with the appends
associated to the right, as `simp` leaves them, so that a message's reader is run field by
field on the message its writer built; the last field of a message has its own lemma. Byte fields and text need their
length to fit the 16-bit prefix; text needs nothing more, since every string's bytes are
UTF-8. -/
namespace GssApi.Exchange

/-- A field fits exactly when its length does, and is then its length and its bytes. -/
theorem putField_eq_ok {data written : Bytes} :
    putField data = .ok written ↔
      data.length ≤ maxField ∧ written = Bytes.beOfNat 2 data.length ++ data := by
  unfold putField
  split
  · simp only [reduceCtorEq, false_iff, not_and]
    intro fits
    omega
  · simp only [Except.ok.injEq]
    constructor
    · rintro rfl
      exact ⟨by omega, rfl⟩
    · rintro ⟨-, rfl⟩
      rfl

theorem putText_eq_ok {s : String} {written : Bytes} :
    putText s = .ok written ↔
      (Bytes.ofString s).length ≤ maxField ∧
        written = Bytes.beOfNat 2 (Bytes.ofString s).length ++ Bytes.ofString s :=
  putField_eq_ok

namespace Reader

variable (rest : Bytes)

theorem take_run {n : Nat} {bs : Bytes} (sized : bs.length = n) :
    (take n).run (bs ++ rest) = .ok (bs, rest) := by
  have enough : ¬ (bs ++ rest).length < n := by simp only [List.length_append]; omega
  simp only [StateT.run, take, enough, if_false, List.take_left' sized, List.drop_left' sized]

theorem u8_run (b : UInt8) : u8.run (b :: rest) = .ok (b, rest) := by
  show u8.run ([b] ++ rest) = _
  simp only [u8, StateT.run_bind, take_run rest List.length_singleton]
  rfl

theorem u32_run (v : UInt32) : u32.run (Bytes.u32be v ++ rest) = .ok (v, rest) := by
  simp only [u32, StateT.run_bind, take_run rest (Bytes.length_u32be v)]
  simp [Bytes.beToNat_u32be]

theorem i32_run (x : Int32) : i32.run (Bytes.u32be x.toUInt32 ++ rest) = .ok (x, rest) := by
  simp only [i32, StateT.run_bind, take_run rest (Bytes.length_u32be _)]
  have value : Int32.ofNat (Bytes.beToNat (Bytes.u32be x.toUInt32)) = x := by
    rw [Bytes.beToNat_u32be, ← UInt32.toNat_toBitVec, Int32.ofNat_bitVecToNat]
    rfl
  simp [value]

theorem u64_run (v : UInt64) : u64.run (Bytes.u64be v ++ rest) = .ok (v, rest) := by
  simp only [u64, StateT.run_bind, take_run rest (Bytes.length_u64be v)]
  simp [Bytes.beToNat_u64be]

/-- A byte field reads back from what `putField` wrote. -/
theorem field_run {data : Bytes} (fits : data.length ≤ maxField) :
    field.run (Bytes.beOfNat 2 data.length ++ (data ++ rest)) = .ok (data, rest) := by
  have value : Bytes.beToNat (Bytes.beOfNat 2 data.length) = data.length := by
    rw [Bytes.beToNat_beOfNat, Nat.mod_eq_of_lt (by simp only [maxField] at fits; omega)]
  simp only [field, StateT.run_bind, take_run _ (Bytes.length_beOfNat 2 _)]
  simp [value, take_run rest rfl]

/-- Text reads back from what `putText` wrote. -/
theorem text_run {s : String} (fits : (Bytes.ofString s).length ≤ maxField) :
    text.run (Bytes.beOfNat 2 (Bytes.ofString s).length ++ (Bytes.ofString s ++ rest)) =
      .ok (s, rest) := by
  simp only [text, StateT.run_bind, field_run rest fits]
  simp [Text.decodeUtf8_ofString]
  rfl

/-! The last field of a message is followed by nothing. -/

theorem u32_run_last (v : UInt32) : u32.run (Bytes.u32be v) = .ok (v, []) := by
  simpa using u32_run [] v

theorem u64_run_last (v : UInt64) : u64.run (Bytes.u64be v) = .ok (v, []) := by
  simpa using u64_run [] v

theorem field_run_last {data : Bytes} (fits : data.length ≤ maxField) :
    field.run (Bytes.beOfNat 2 data.length ++ data) = .ok (data, []) := by
  simpa using field_run [] fits

theorem finish_run : finish.run [] = .ok ((), []) := rfl

end Reader

end GssApi.Exchange
