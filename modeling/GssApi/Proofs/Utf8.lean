import GssApi.Text.Utf8
import Mathlib.Tactic.SplitIfs

/-! UTF-8 text reads back.

The bytes of a string are the UTF-8 encodings of its characters, one after another, and the
reader takes each encoding back to its character: a character below 0x80 is its own byte, and
a longer one has a lead byte that gives its width and continuation bytes that the reader's
range checks accept, because the encoder only writes scalar values (no surrogates, nothing past
0x10FFFF) in their shortest form. `decodeUtf8_ofString` says that the text of every string's
bytes is the string. -/
namespace GssApi

theorem ByteArray.toList_loop (bs : ByteArray) (i : Nat) (r : List UInt8) :
    ByteArray.toList.loop bs i r = r.reverse ++ bs.data.toList.drop i := by
  fun_induction ByteArray.toList.loop bs i r with
  | case1 i r below ih =>
    have inside : i < bs.data.size := below
    have next : bs.data.toList.drop i = bs.get! i :: bs.data.toList.drop (i + 1) := by
      rw [List.drop_eq_getElem_cons (by simpa using inside)]
      simp [ByteArray.get!, getElem!_def, Array.getElem?_eq_getElem inside]
    rw [ih, next, List.reverse_cons, List.append_assoc, List.singleton_append]
  | case2 i r beyond =>
    have past : bs.data.toList.length ≤ i := by simpa using Nat.le_of_not_lt beyond
    rw [List.drop_of_length_le past, List.append_nil]

theorem ByteArray.toList_eq (bs : ByteArray) : bs.toList = bs.data.toList := by
  simp [ByteArray.toList, ByteArray.toList_loop]

/-- The bytes of a string are its characters' encodings, in order. -/
theorem Bytes.ofString_eq (s : String) : Bytes.ofString s = s.toList.flatMap String.utf8EncodeChar := by
  rw [Bytes.ofString, String.toUTF8_eq_toByteArray, ← String.utf8Encode_toList, List.utf8Encode,
    ByteArray.toList_eq, List.toList_data_toByteArray]

namespace Text

theorem sequenceWidth_eq (lead : UInt8) : sequenceWidth lead =
    if lead.toNat < 0x80 then 1 else if lead.toNat < 0xC2 then 0 else if lead.toNat < 0xE0 then 2
    else if lead.toNat < 0xF0 then 3 else if lead.toNat < 0xF5 then 4 else 0 := by
  simp only [sequenceWidth, UInt8.lt_iff_toNat_lt]
  rfl

theorem secondFits_eq (lead b : UInt8) : secondFits lead b =
    if lead.toNat = 0xE0 then decide (0xA0 ≤ b.toNat ∧ b.toNat ≤ 0xBF)
    else if lead.toNat = 0xED then decide (0x80 ≤ b.toNat ∧ b.toNat ≤ 0x9F)
    else if lead.toNat = 0xF0 then decide (0x90 ≤ b.toNat ∧ b.toNat ≤ 0xBF)
    else if lead.toNat = 0xF4 then decide (0x80 ≤ b.toNat ∧ b.toNat ≤ 0x8F)
    else decide (0x80 ≤ b.toNat ∧ b.toNat ≤ 0xBF) := by
  unfold secondFits
  split <;> simp_all [isContinuation, UInt8.le_iff_toNat_le, ← UInt8.toNat_inj]

/-- A lead byte of width `w + 2`, a second byte that may follow it and `w` continuation bytes
read as the character their payload bits make. -/
theorem readCharacter_multi {lead second : UInt8} {more rest : Bytes} {w : Nat}
    (width : sequenceWidth lead = w + 2) (fits : secondFits lead second = true)
    (followers : more.length = w) (continuing : ∀ b ∈ more, isContinuation b = true) :
    readCharacter lead (second :: (more ++ rest)) =
      .ok (Char.ofNat ((second :: more).foldl (fun acc b => acc * 64 + b.toNat % 64)
        (lead.toNat % Nat.pow 2 (7 - (w + 2)))), w + 1) := by
  have taken : (more ++ rest).take w = more := List.take_left' followers
  have none : more.findIdx? (fun b => !isContinuation b) = none := by
    simpa [List.findIdx?_eq_none_iff] using continuing
  simp only [readCharacter, width, fits, Bool.not_true, Bool.false_eq_true,
    if_false, Nat.add_sub_cancel, taken, none, followers, Nat.lt_irrefl]
  simp

/-- Values from 0x80 to 0x7FF take a lead byte from 0xC2 to 0xDF: never an overlong form. -/
theorem readCharacter_two {v : Nat} (low : 0x80 ≤ v) (high : v < 0x800) (rest : Bytes) :
    readCharacter (UInt8.ofNat (v / 64 % 32 + 0xC0)) (UInt8.ofNat (v % 64 + 0x80) :: rest) =
      .ok (Char.ofNat v, 1) := by
  have lead := UInt8.toNat_ofNat_of_lt' (show v / 64 % 32 + 0xC0 < 256 by omega)
  have second := UInt8.toNat_ofNat_of_lt' (show v % 64 + 0x80 < 256 by omega)
  have width : sequenceWidth (UInt8.ofNat (v / 64 % 32 + 0xC0)) = 0 + 2 := by
    rw [sequenceWidth_eq, lead]
    split_ifs <;> omega
  have fits : secondFits (UInt8.ofNat (v / 64 % 32 + 0xC0)) (UInt8.ofNat (v % 64 + 0x80)) = true := by
    rw [secondFits_eq, lead, second]
    split_ifs <;> simp <;> omega
  have read := @readCharacter_multi _ _ [] rest 0 width fits rfl (by simp)
  rw [List.nil_append] at read
  rw [read]
  simp only [List.foldl_cons, List.foldl_nil, lead, second, Nat.pow_eq]
  congr 3
  omega

/-- Values from 0x800 to 0xFFFF take a lead byte from 0xE0 to 0xEF; after 0xE0 the value is
not overlong and after 0xED it is not a surrogate, so the second byte passes its check. -/
theorem readCharacter_three {v : Nat} (low : 0x800 ≤ v) (high : v < 0x10000)
    (scalar : v < 0xD800 ∨ 0xDFFF < v) (rest : Bytes) :
    readCharacter (UInt8.ofNat (v / 4096 % 16 + 0xE0))
      (UInt8.ofNat (v / 64 % 64 + 0x80) :: UInt8.ofNat (v % 64 + 0x80) :: rest) =
      .ok (Char.ofNat v, 2) := by
  have lead := UInt8.toNat_ofNat_of_lt' (show v / 4096 % 16 + 0xE0 < 256 by omega)
  have second := UInt8.toNat_ofNat_of_lt' (show v / 64 % 64 + 0x80 < 256 by omega)
  have third := UInt8.toNat_ofNat_of_lt' (show v % 64 + 0x80 < 256 by omega)
  have width : sequenceWidth (UInt8.ofNat (v / 4096 % 16 + 0xE0)) = 1 + 2 := by
    rw [sequenceWidth_eq, lead]
    split_ifs <;> omega
  have fits : secondFits (UInt8.ofNat (v / 4096 % 16 + 0xE0)) (UInt8.ofNat (v / 64 % 64 + 0x80)) = true := by
    rw [secondFits_eq, lead, second]
    split_ifs <;> simp <;> omega
  have read := @readCharacter_multi _ _ [UInt8.ofNat (v % 64 + 0x80)] rest 1 width fits rfl
    (by simp [isContinuation, UInt8.le_iff_toNat_le]; omega)
  rw [List.singleton_append] at read
  rw [read]
  simp only [List.foldl_cons, List.foldl_nil, lead, second, third, Nat.pow_eq]
  congr 3
  omega

/-- Values from 0x10000 to 0x10FFFF take a lead byte from 0xF0 to 0xF4, with the second byte
in the range its lead allows. -/
theorem readCharacter_four {v : Nat} (low : 0x10000 ≤ v) (high : v < 0x110000) (rest : Bytes) :
    readCharacter (UInt8.ofNat (v / 262144 % 8 + 0xF0))
      (UInt8.ofNat (v / 4096 % 64 + 0x80) :: UInt8.ofNat (v / 64 % 64 + 0x80) ::
        UInt8.ofNat (v % 64 + 0x80) :: rest) =
      .ok (Char.ofNat v, 3) := by
  have lead := UInt8.toNat_ofNat_of_lt' (show v / 262144 % 8 + 0xF0 < 256 by omega)
  have second := UInt8.toNat_ofNat_of_lt' (show v / 4096 % 64 + 0x80 < 256 by omega)
  have third := UInt8.toNat_ofNat_of_lt' (show v / 64 % 64 + 0x80 < 256 by omega)
  have fourth := UInt8.toNat_ofNat_of_lt' (show v % 64 + 0x80 < 256 by omega)
  have width : sequenceWidth (UInt8.ofNat (v / 262144 % 8 + 0xF0)) = 2 + 2 := by
    rw [sequenceWidth_eq, lead]
    split_ifs <;> omega
  have fits : secondFits (UInt8.ofNat (v / 262144 % 8 + 0xF0)) (UInt8.ofNat (v / 4096 % 64 + 0x80)) = true := by
    rw [secondFits_eq, lead, second]
    split_ifs <;> simp <;> omega
  have read := @readCharacter_multi _ _ [UInt8.ofNat (v / 64 % 64 + 0x80), UInt8.ofNat (v % 64 + 0x80)]
    rest 2 width fits rfl (by simp [isContinuation, UInt8.le_iff_toNat_le]; omega)
  simp only [List.cons_append, List.nil_append] at read
  rw [read]
  simp only [List.foldl_cons, List.foldl_nil, lead, second, third, fourth, Nat.pow_eq]
  congr 3
  omega

/-- A character's encoding reads back as that character, with the number of bytes after the
lead byte, whatever follows it. -/
theorem readCharacter_utf8EncodeChar (c : Char) (rest : Bytes) :
    ∃ lead tail, String.utf8EncodeChar c = lead :: tail ∧
      readCharacter lead (tail ++ rest) = .ok (c, tail.length) := by
  have scalar : c.val.toNat < 0xD800 ∨ 0xDFFF < c.val.toNat ∧ c.val.toNat < 0x110000 := c.valid
  have back : Char.ofNat c.val.toNat = c := Char.ofNat_toNat c
  -- the encoder splits on the width of the scalar value; each width has its own reading
  unfold String.utf8EncodeChar
  dsimp only
  split_ifs with one two three
  · refine ⟨_, [], rfl, ?_⟩
    have lead := UInt8.toNat_ofNat_of_lt' (show c.val.toNat < 256 by omega)
    have width : sequenceWidth (UInt8.ofNat c.val.toNat) = 1 := by
      rw [sequenceWidth_eq, lead, if_pos (by omega)]
    simp only [readCharacter, width, if_true, lead, back, List.length_nil]
  · refine ⟨_, [_], rfl, ?_⟩
    rw [List.singleton_append, readCharacter_two (by omega) (by omega), back]
    rfl
  · refine ⟨_, [_, _], rfl, ?_⟩
    simp only [List.cons_append, List.nil_append]
    rw [readCharacter_three (by omega) (by omega) (by omega), back]
    rfl
  · refine ⟨_, [_, _, _], rfl, ?_⟩
    simp only [List.cons_append, List.nil_append]
    rw [readCharacter_four (by omega) (by omega), back]
    rfl

/-- Encoded characters read back one by one, after whatever was read before them. -/
theorem decodeFrom_flatMap (chars : List Char) (offset : Nat) (acc : List Char) :
    decodeFrom offset acc (chars.flatMap String.utf8EncodeChar) =
      .ok (String.ofList (acc.reverse ++ chars)) := by
  induction chars generalizing offset acc with
  | nil => simp [decodeFrom]
  | cons c chars ih =>
    obtain ⟨lead, tail, encoded, read⟩ := readCharacter_utf8EncodeChar c
      (chars.flatMap String.utf8EncodeChar)
    rw [List.flatMap_cons, encoded, List.cons_append, decodeFrom, read]
    simp [ih]

/-- The text of a string's bytes is the string. -/
theorem decodeUtf8_ofString (s : String) : decodeUtf8 (Bytes.ofString s) = .ok s := by
  rw [decodeUtf8, Bytes.ofString_eq, decodeFrom_flatMap]
  simp

end Text

end GssApi
