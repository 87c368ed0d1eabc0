import GssApi.Proofs.Framing
import GssApi.Proofs.Effects

/-! What unframing makes of a token with one byte changed.

A byte is changed by an exclusive or with a nonzero mask; a single flipped bit is the mask
with one bit set. The main statement, `decapsulateFor_modify_wrapper`, is that a token framed
under the ticket mechanism no longer unframes for that mechanism once any byte of its wrapper
changes: the application tag, a length octet of the outer length, the identifier tag, the
identifier's length or one of its bytes. The outer length is the delicate part. A changed
short-form length, or a changed count octet of a long form, may turn into a count octet that
reads some of the following bytes as the length; those bytes start with the identifier tag or
are the length's own octets, and the number they make never equals what is left. -/
namespace GssApi

namespace Bytes

theorem xor_ne_self {b v : UInt8} (nonzero : v ≠ 0) : b ^^^ v ≠ b := by
  intro same
  apply nonzero
  rw [← UInt8.xor_right_inj b, UInt8.xor_zero]
  exact same

/-- Changing a byte inside a byte string with a nonzero mask changes the string. -/
theorem modify_xor_ne {bs : Bytes} {i : Nat} {v : UInt8} (inside : i < bs.length) (nonzero : v ≠ 0) :
    bs.modify i (· ^^^ v) ≠ bs := by
  intro same
  have atIndex := List.getElem_of_eq same (by simpa using inside)
  rw [List.getElem_modify_eq] at atIndex
  exact xor_ne_self nonzero atIndex

theorem modify_append_left {xs : Bytes} (ys : Bytes) {i : Nat} (f : UInt8 → UInt8)
    (inside : i < xs.length) : (xs ++ ys).modify i f = xs.modify i f ++ ys := by
  induction xs generalizing i with
  | nil => simp at inside
  | cons x xs ih =>
    cases i with
    | zero => rfl
    | succ i => simp [ih (by simpa using inside)]

theorem modify_append_right (xs ys : Bytes) (i : Nat) (f : UInt8 → UInt8) :
    (xs ++ ys).modify (xs.length + i) f = xs ++ ys.modify i f := by
  induction xs with
  | nil => simp
  | cons x xs ih => simp [Nat.succ_add, ih]

theorem modify_append_of_le {xs : Bytes} (ys : Bytes) {i : Nat} (f : UInt8 → UInt8)
    (after : xs.length ≤ i) : (xs ++ ys).modify i f = xs ++ ys.modify (i - xs.length) f := by
  obtain ⟨k, rfl⟩ : ∃ k, i = xs.length + k := ⟨i - xs.length, by omega⟩
  rw [modify_append_right, Nat.add_sub_cancel_left]

theorem beToNat_append (xs ys : Bytes) :
    beToNat (xs ++ ys) = beToNat xs * 256 ^ ys.length + beToNat ys := by
  induction ys using List.reverseRecOn with
  | nil => simp [beToNat]
  | append_singleton ys b ih =>
    rw [← List.append_assoc]
    simp only [beToNat, List.foldl_append, List.foldl_cons, List.foldl_nil, List.length_append,
      List.length_singleton] at ih ⊢
    rw [ih, Nat.pow_succ, Nat.add_mul, Nat.mul_assoc, Nat.add_assoc]

/-- A big-endian number lies in the range its leading byte opens. -/
theorem beToNat_cons_bounds (b : UInt8) (rest : Bytes) :
    b.toNat * 256 ^ rest.length ≤ beToNat (b :: rest) ∧
      beToNat (b :: rest) < (b.toNat + 1) * 256 ^ rest.length := by
  have value := beToNat_append [b] rest
  have below := beToNat_lt rest
  simp only [List.singleton_append] at value
  have single : beToNat [b] = b.toNat := by simp [beToNat]
  rw [value, single, Nat.add_mul, Nat.one_mul]
  omega

theorem beToNat_injective {xs ys : Bytes} (sameLength : xs.length = ys.length)
    (same : beToNat xs = beToNat ys) : xs = ys := by
  rw [← beOfNat_beToNat xs, ← beOfNat_beToNat ys, sameLength, same]

theorem leToNat_lt (bs : Bytes) : leToNat bs < 256 ^ bs.length := by
  induction bs with
  | nil => simp [leToNat]
  | cons b bs ih =>
    have byte := b.toNat_lt
    simp only [leToNat, List.foldr_cons, List.length_cons, Nat.pow_succ] at ih ⊢
    omega

/-- Reading bytes little-endian and writing the value back at the same width gives the
bytes. -/
theorem leOfNat_leToNat (bs : Bytes) : leOfNat bs.length (leToNat bs) = bs := by
  induction bs with
  | nil => rfl
  | cons b bs ih =>
    have byte := b.toNat_lt
    have value : leToNat (b :: bs) = b.toNat + 256 * leToNat bs := rfl
    have low : UInt8.ofNat (b.toNat + 256 * leToNat bs) = b := by
      apply UInt8.toNat_inj.mp
      rw [UInt8.toNat_ofNat']
      omega
    have high : (b.toNat + 256 * leToNat bs) / 256 = leToNat bs := by omega
    rw [List.length_cons, leOfNat, value, low, high, ih]

theorem leToNat_injective {xs ys : Bytes} (sameLength : xs.length = ys.length)
    (same : leToNat xs = leToNat ys) : xs = ys := by
  rw [← leOfNat_leToNat xs, ← leOfNat_leToNat ys, sameLength, same]

/-- Two different pairs of bytes are two different little-endian 16-bit words. -/
theorem ofNat_leToNat_ne_of_two {xs ys : Bytes} (two : xs.length = 2) (two' : ys.length = 2)
    (changed : xs ≠ ys) : UInt16.ofNat (leToNat xs) ≠ UInt16.ofNat (leToNat ys) := by
  intro same
  have below : leToNat xs < UInt16.size := by simpa [two] using leToNat_lt xs
  have below' : leToNat ys < UInt16.size := by simpa [two'] using leToNat_lt ys
  have numbers : leToNat xs = leToNat ys := by
    rw [← UInt16.toNat_ofNat_of_lt' below, ← UInt16.toNat_ofNat_of_lt' below', same]
  exact changed (leToNat_injective (two.trans two'.symm) numbers)

/-- Two different runs of four bytes are two different little-endian 32-bit words. -/
theorem ofNat_leToNat_ne_of_four {xs ys : Bytes} (four : xs.length = 4) (four' : ys.length = 4)
    (changed : xs ≠ ys) : UInt32.ofNat (leToNat xs) ≠ UInt32.ofNat (leToNat ys) := by
  intro same
  have below : leToNat xs < UInt32.size := by simpa [four] using leToNat_lt xs
  have below' : leToNat ys < UInt32.size := by simpa [four'] using leToNat_lt ys
  have numbers : leToNat xs = leToNat ys := by
    rw [← UInt32.toNat_ofNat_of_lt' below, ← UInt32.toNat_ofNat_of_lt' below', same]
  exact changed (leToNat_injective (four.trans four'.symm) numbers)

end Bytes

namespace Codec

theorem toNat_and_low (x : UInt8) : (x &&& 0x7F).toNat = x.toNat % 128 := by
  rw [UInt8.toNat_and]
  exact Nat.and_two_pow_sub_one_eq_mod x.toNat 7

theorem toNat_countOctet {s : Nat} (few : s ≤ maxLengthOctets) :
    (UInt8.ofNat (0x80 + s)).toNat = 0x80 + s := by
  simp only [maxLengthOctets] at few
  rw [UInt8.toNat_ofNat']
  omega

/-- What a length read from a first octet and the bytes after it can be: the octet itself
below 128, else the big-endian number of the next one to four bytes that its low bits
count. -/
theorem readLength_cons_eq_ok {b : UInt8} {rest : Bytes} {d used : Nat}
    (read : readLength (b :: rest) = .ok (d, used)) :
    (b.toNat < 0x80 ∧ d = b.toNat ∧ used = 1) ∨
      (0x80 ≤ b.toNat ∧ 0 < b.toNat % 128 ∧ b.toNat % 128 ≤ maxLengthOctets ∧
        b.toNat % 128 ≤ rest.length ∧ d = Bytes.beToNat (rest.take (b.toNat % 128)) ∧
        used = 1 + b.toNat % 128) := by
  simp only [readLength] at read
  split at read
  · rename_i short
    cases read
    exact .inl ⟨UInt8.lt_iff_toNat_lt.mp short, rfl, rfl⟩
  · rename_i long
    have high : 0x80 ≤ b.toNat := by
      have := UInt8.lt_iff_toNat_lt.not.mp long
      simp only [UInt8.reduceToNat] at this
      omega
    rw [toNat_and_low] at read
    split at read
    · cases read
    · split at read
      · cases read
      · cases read
        exact .inr ⟨high, by omega, by omega, by omega, rfl, rfl⟩

section ChangedLength

variable {n : Nat} {content : Bytes} {v : UInt8} (nonzero : v ≠ 0) (used : Nat)
include nonzero

/-- A changed short-form length, followed by the identifier tag, never reads as the length of
what follows it. -/
theorem readLength_short_changed (short : n < 0x80) {afterIdTag : Bytes}
    (sized : afterIdTag.length + 1 = n) (long : 7 ≤ afterIdTag.length) :
    let afterTag := (UInt8.ofNat n ^^^ v) :: oidTag :: afterIdTag
    readLength afterTag ≠ .ok ((afterTag.drop used).length, used) := by
  intro afterTag read
  have written : (UInt8.ofNat n).toNat = n :=
    UInt8.toNat_ofNat_of_lt' (by simp only [UInt8.size]; omega)
  have remaining : ∀ k, (afterTag.drop k).length = n + 1 - k := by
    intro k; simp [afterTag]; omega
  rcases readLength_cons_eq_ok read with ⟨-, value, rfl⟩ | ⟨-, positive, few, -, value, rfl⟩
  · -- a short form again: it must be the same octet
    rw [remaining] at value
    exact Bytes.xor_ne_self (b := UInt8.ofNat n) nonzero (UInt8.toNat_inj.mp (by omega))
  · -- a long form reads the identifier tag as the leading length octet
    simp only [maxLengthOctets] at few
    obtain ⟨k', count⟩ : ∃ k', (UInt8.ofNat n ^^^ v).toNat % 128 = k' + 1 :=
      ⟨_, (Nat.succ_pred_eq_of_pos positive).symm⟩
    rw [count, remaining, List.take_succ_cons] at value
    have bounds := Bytes.beToNat_cons_bounds oidTag (afterIdTag.take k')
    have taken : (afterIdTag.take k').length = k' := by simp; omega
    have tag : oidTag.toNat = 6 := rfl
    rw [taken, tag] at bounds
    rcases Nat.eq_zero_or_pos k' with rfl | more
    · simp only [Nat.pow_zero] at bounds; omega
    · have big : 256 ≤ 256 ^ k' := Nat.le_self_pow (by omega) 256
      omega

/-- A changed count octet of a long-form length never reads as the length of what
follows it. -/
theorem readLength_count_changed {s : Nat} (long : 0x80 ≤ n) (few : s ≤ maxLengthOctets)
    (fits : n < 256 ^ s) (sized : content.length = n) :
    let afterTag := (UInt8.ofNat (0x80 + s) ^^^ v) :: (Bytes.beOfNat s n ++ content)
    readLength afterTag ≠ .ok ((afterTag.drop used).length, used) := by
  intro afterTag read
  have counted := toNat_countOctet few
  have number : Bytes.beToNat (Bytes.beOfNat s n) = n := by
    rw [Bytes.beToNat_beOfNat]; exact Nat.mod_eq_of_lt fits
  have remaining : ∀ k, (afterTag.drop k).length = 1 + s + n - k := by
    intro k; simp [afterTag, sized]; omega
  simp only [maxLengthOctets] at few
  rcases readLength_cons_eq_ok read with ⟨short, value, rfl⟩ | ⟨high, positive, -, within, value, rfl⟩
  · -- a short form cannot name all that follows it
    rw [remaining] at value
    omega
  · rw [remaining] at value
    have other : (UInt8.ofNat (0x80 + s) ^^^ v).toNat % 128 ≠ s := by
      intro same
      apply Bytes.xor_ne_self (b := UInt8.ofNat (0x80 + s)) nonzero
      apply UInt8.toNat_inj.mp
      have := (UInt8.ofNat (0x80 + s) ^^^ v).toNat_lt
      omega
    generalize (UInt8.ofNat (0x80 + s) ^^^ v).toNat % 128 = k at value other within
    simp only [List.length_append, Bytes.length_beOfNat] at within
    rcases Nat.lt_or_gt_of_ne other with fewer | more
    · -- the count reads the first octets of the value: at most a 256th of it
      have front : (Bytes.beOfNat s n ++ content).take k = (Bytes.beOfNat s n).take k :=
        List.take_append_of_le_length (by simp; omega)
      have whole := Bytes.beToNat_append ((Bytes.beOfNat s n).take k) ((Bytes.beOfNat s n).drop k)
      rw [List.take_append_drop, number, List.length_drop, Bytes.length_beOfNat] at whole
      have big : 256 ≤ 256 ^ (s - k) := Nat.le_self_pow (by omega) 256
      have scaled : Bytes.beToNat ((Bytes.beOfNat s n).take k) * 256 ≤ n :=
        calc _ ≤ Bytes.beToNat ((Bytes.beOfNat s n).take k) * 256 ^ (s - k) :=
              Nat.mul_le_mul_left _ big
          _ ≤ n := by omega
      rw [front] at value
      omega
    · -- the count runs past the value into the content: at least 256 times the value
      have taken : (content.take (k - s)).length = k - s := by simp; omega
      rw [List.take_append, List.take_of_length_le (by simp; omega), Bytes.length_beOfNat,
        Bytes.beToNat_append, number, taken] at value
      have big : 256 ≤ 256 ^ (k - s) := Nat.le_self_pow (by omega) 256
      have scaled : n * 256 ≤ n * 256 ^ (k - s) := Nat.mul_le_mul_left _ big
      omega

/-- A changed value octet of a long-form length never reads as the length of what
follows it. -/
theorem readLength_value_changed {s : Nat} (few : s ≤ maxLengthOctets)
    (fits : n < 256 ^ s) (sized : content.length = n) {j : Nat} (inside : j < s) :
    let afterTag := UInt8.ofNat (0x80 + s) :: ((Bytes.beOfNat s n).modify j (· ^^^ v) ++ content)
    readLength afterTag ≠ .ok ((afterTag.drop used).length, used) := by
  intro afterTag read
  have counted := toNat_countOctet few
  simp only [maxLengthOctets] at few counted
  have width : ((Bytes.beOfNat s n).modify j (· ^^^ v)).length = s := by simp
  have remaining : (afterTag.drop (1 + s)).length = n := by simp [afterTag, sized]; omega
  rcases readLength_cons_eq_ok read with ⟨short, -, -⟩ | ⟨-, -, -, -, value, rfl⟩
  · omega
  · have count : (UInt8.ofNat (0x80 + s)).toNat % 128 = s := by omega
    rw [count, List.take_left' width, remaining] at value
    apply @Bytes.modify_xor_ne (Bytes.beOfNat s n) j v (by simpa using inside) nonzero
    apply Bytes.beToNat_injective (by simp)
    rw [← value, Bytes.beToNat_beOfNat, Nat.mod_eq_of_lt fits]


/-- A written length with one octet changed, followed by the identifier tag and at least seven
more bytes, never reads as the length of what follows it. -/
theorem readLength_modify_writeLength {outer afterIdTag : Bytes} (written : writeLength n = .ok outer)
    (sized : afterIdTag.length + 1 = n) (long : 7 ≤ afterIdTag.length) {j : Nat}
    (inside : j < outer.length) :
    let afterTag := outer.modify j (· ^^^ v) ++ oidTag :: afterIdTag
    readLength afterTag ≠ .ok ((afterTag.drop used).length, used) := by
  intro afterTag
  rcases writeLength_eq_ok written with ⟨short, rfl⟩ | ⟨big, -, few, rfl⟩
  · obtain rfl : j = 0 := by simpa using inside
    exact readLength_short_changed nonzero used short sized long
  · have fits := lt_pow_significantBytes n
    cases j with
    | zero => exact readLength_count_changed nonzero used big few fits (by simpa using sized)
    | succ j =>
      have inside' : j < significantBytes n := by simpa using inside
      exact readLength_value_changed nonzero used few fits (by simpa using sized) inside'

end ChangedLength

/-- What a token that unframes is made of: the application tag, an outer length that reads as
the length of all that follows it, the identifier tag, a length that reads as the identifier's,
the identifier and the inner token. -/
theorem decapsulate_eq_ok {token : Bytes} {u : Unframed} (unframed : decapsulate token = .ok u) :
    ∃ afterTag used, token = wrapperTag :: afterTag ∧
      readLength afterTag = .ok ((afterTag.drop used).length, used) ∧
      ∃ afterIdTag idUsed, afterTag.drop used = oidTag :: afterIdTag ∧
        readLength afterIdTag = .ok (u.mech.bytes.length, idUsed) ∧
        afterIdTag.drop idUsed = u.mech.bytes ++ u.inner := by
  unfold decapsulate at unframed
  split at unframed
  · cases unframed
  rename_i tag afterTag
  split at unframed
  · cases unframed
  rename_i tagged
  dsimp only at unframed
  obtain ⟨⟨declared, used⟩, outerRead, unframed⟩ := Except.bind_eq_ok.1 unframed
  dsimp only at unframed
  split at unframed
  · cases unframed
  rename_i matched
  split at unframed
  · cases unframed
  rename_i idTag afterIdTag content
  split at unframed
  · cases unframed
  rename_i idTagged
  obtain ⟨⟨oidLength, idUsed⟩, oidRead, unframed⟩ := Except.bind_eq_ok.1 unframed
  dsimp only at unframed
  split at unframed
  · cases unframed
  obtain ⟨_, enough, unframed⟩ := Except.bind_eq_ok.1 unframed
  split at unframed
  · rename_i mech named
    simp only [pure, Except.pure, Except.ok.injEq] at unframed
    subst unframed
    have long : oidLength ≤ (afterIdTag.drop idUsed).length := by
      simpa [need] using enough
    have bytes : mech.bytes = (afterIdTag.drop idUsed).take oidLength := by
      unfold Oid.ofBytes? at named
      split at named
      · cases named
      · cases named; rfl
    refine ⟨afterTag, used, by rw [not_not.mp tagged], ?_, afterIdTag, idUsed, ?_, ?_, ?_⟩
    · rw [outerRead, ← not_not.mp matched]
    · rw [content, not_not.mp idTagged]
    · rw [oidRead, bytes, List.length_take_of_le long]
    · rw [bytes, List.take_append_drop]
  · cases unframed

/-- The identifier's length and bytes, with one byte changed, never read as the ticket
mechanism's identifier. -/
theorem identifier_changed {inner rest : Bytes} {j : Nat} (inside : j < 1 + Oid.krb5.bytes.length)
    {v : UInt8} (nonzero : v ≠ 0) {idUsed : Nat} :
    let afterIdTag := (UInt8.ofNat 9 :: (Oid.krb5.bytes ++ inner)).modify j (· ^^^ v)
    ¬ (readLength afterIdTag = .ok (Oid.krb5.bytes.length, idUsed) ∧
      afterIdTag.drop idUsed = Oid.krb5.bytes ++ rest) := by
  intro afterIdTag ⟨read, identifier⟩
  have nine : Oid.krb5.bytes.length = 9 := rfl
  cases j with
  | zero =>
    -- the changed length octet must read as nine
    rcases readLength_cons_eq_ok read with ⟨-, value, -⟩ | ⟨-, positive, -, -, value, -⟩
    · exact Bytes.xor_ne_self (b := UInt8.ofNat 9) nonzero (UInt8.toNat_inj.mp (by
        rw [nine] at value; rw [← value]; rfl))
    · obtain ⟨k', count⟩ : ∃ k', (UInt8.ofNat 9 ^^^ v).toNat % 128 = k' + 1 :=
        ⟨_, (Nat.succ_pred_eq_of_pos positive).symm⟩
      have front : Oid.krb5.bytes ++ inner = 0x2a :: (Oid.krb5.bytes.tail ++ inner) := rfl
      rw [count, nine, front, List.take_succ_cons] at value
      have bounds := (Bytes.beToNat_cons_bounds 0x2a ((Oid.krb5.bytes.tail ++ inner).take k')).1
      have power : 0 < 256 ^ (List.take k' (Oid.krb5.bytes.tail ++ inner)).length :=
        Nat.pow_pos (by decide)
      rw [← value] at bounds
      simp only [UInt8.reduceToNat] at bounds
      omega
  | succ j =>
    -- the length still reads as nine, so the identifier read is the changed one
    have short : readLength afterIdTag = .ok (9, 1) := by
      simp only [afterIdTag, List.modify_succ_cons]
      rfl
    rw [short] at read
    cases read
    rw [nine] at inside
    simp only [afterIdTag, List.modify_succ_cons, List.drop_succ_cons, List.drop_zero,
      Bytes.modify_append_left _ _ (show j < Oid.krb5.bytes.length by rw [nine]; omega)] at identifier
    exact Bytes.modify_xor_ne (show j < Oid.krb5.bytes.length by rw [nine]; omega) nonzero
      (List.append_inj identifier (by simp)).1

/-- A token framed under the ticket mechanism no longer unframes for it once a byte of its
wrapper changes: the application tag, an octet of the outer length, the identifier tag, the
identifier's length or a byte of the identifier. -/
theorem decapsulateFor_modify_wrapper {inner token : Bytes}
    (framed : encapsulate Oid.krb5 inner = .ok token) {i : Nat} {v : UInt8} (nonzero : v ≠ 0)
    (inWrapper : i < token.length - inner.length) :
    ∃ e, decapsulateFor (token.modify i (· ^^^ v)) Oid.krb5 = .error e := by
  cases unframed : decapsulateFor (token.modify i (· ^^^ v)) Oid.krb5 with
  | error e => exact ⟨e, rfl⟩
  | ok inner' =>
    exfalso
    obtain ⟨u, decoded, named⟩ := Except.bind_eq_ok.1 unframed
    have sameMech : u.mech.bytes = Oid.krb5.bytes := by
      by_contra other
      simp only [other, ne_eq, not_false_eq_true, if_true] at named
      cases named
    obtain ⟨afterTag, used, shape, outerRead, afterIdTag, idUsed, content, oidRead, rest⟩ :=
      decapsulate_eq_ok decoded
    rw [sameMech] at oidRead rest
    obtain ⟨outer, oidLength, outerWritten, oidWritten, rfl⟩ := encapsulate_eq_ok framed
    obtain rfl : oidLength = [UInt8.ofNat 9] := by
      rcases writeLength_eq_ok oidWritten with ⟨-, written⟩ | ⟨big, -⟩
      · exact written
      · simp [Oid.krb5] at big
    have nine : Oid.krb5.bytes.length = 9 := rfl
    have sized : (UInt8.ofNat 9 :: (Oid.krb5.bytes ++ inner)).length + 1 =
        contentLength Oid.krb5 inner := by
      have small : lengthSize 9 = 1 := rfl
      simp only [contentLength, nine, small, List.length_cons, List.length_append]
      omega
    simp only [List.cons_append, List.append_assoc, List.nil_append, List.length_cons,
      List.length_append, nine] at shape inWrapper
    cases i with
    | zero =>
      -- the application tag
      simp only [List.modify_zero_cons, List.cons.injEq] at shape
      exact Bytes.xor_ne_self nonzero shape.1
    | succ i =>
      simp only [List.modify_succ_cons, List.cons.injEq] at shape
      obtain ⟨-, rfl⟩ := shape
      by_cases inOuter : i < outer.length
      · -- an octet of the outer length
        rw [Bytes.modify_append_left _ _ inOuter] at outerRead
        refine readLength_modify_writeLength nonzero used outerWritten sized ?_ inOuter outerRead
        simp only [List.length_cons, List.length_append, nine]
        omega
      · obtain ⟨j, rfl⟩ : ∃ j, i = outer.length + j := ⟨i - outer.length, by omega⟩
        rw [Bytes.modify_append_right] at outerRead content
        rw [readLength_of_writeLength outerWritten] at outerRead
        obtain rfl : outer.length = used := (Prod.mk.inj (Except.ok.inj outerRead)).2
        rw [List.drop_left] at content
        cases j with
        | zero =>
          -- the identifier tag
          simp only [List.modify_zero_cons, List.cons.injEq] at content
          exact Bytes.xor_ne_self nonzero content.1
        | succ j =>
          simp only [List.modify_succ_cons, List.cons.injEq] at content
          obtain ⟨-, rfl⟩ := content
          exact identifier_changed (by rw [nine]; omega) nonzero ⟨oidRead, rest⟩

/-- A framed token is a wrapper followed by the inner token, and the wrapper frames every inner
token of the same length. -/
theorem encapsulate_eq_append {mech : Oid} {inner token : Bytes}
    (framed : encapsulate mech inner = .ok token) :
    ∃ wrapper, token = wrapper ++ inner ∧
      ∀ inner', inner'.length = inner.length → encapsulate mech inner' = .ok (wrapper ++ inner') := by
  obtain ⟨outer, oidLength, outerWritten, oidWritten, rfl⟩ := encapsulate_eq_ok framed
  refine ⟨wrapperTag :: outer ++ oidTag :: oidLength ++ mech.bytes, rfl, fun inner' sameLength => ?_⟩
  have sameContent : contentLength mech inner' = contentLength mech inner := by
    simp [contentLength, sameLength]
  simp [encapsulate, sameContent, outerWritten, oidWritten, bind, Except.bind, pure, Except.pure]

/-- Changing a byte of the inner token changes the same byte of the framed token: the frame
depends on the inner token only through its length. -/
theorem encapsulate_modify {mech : Oid} {inner token : Bytes} (framed : encapsulate mech inner = .ok token)
    (j : Nat) (f : UInt8 → UInt8) :
    encapsulate mech (inner.modify j f) = .ok (token.modify (token.length - inner.length + j) f) := by
  obtain ⟨wrapper, rfl, frames⟩ := encapsulate_eq_append framed
  rw [List.length_append, Nat.add_sub_cancel, Bytes.modify_append_right]
  exact frames _ (List.length_modify _ _ _)

/-- Past its wrapper, a framed token with a byte of its inner token changed is the changed
inner token. -/
theorem drop_modify_of_encapsulate {mech : Oid} {inner token : Bytes}
    (framed : encapsulate mech inner = .ok token) (j : Nat) (f : UInt8 → UInt8) :
    (token.modify (token.length - inner.length + j) f).drop (token.length - inner.length) =
      inner.modify j f := by
  obtain ⟨wrapper, rfl, -⟩ := encapsulate_eq_append framed
  rw [List.length_append, Nat.add_sub_cancel, Bytes.modify_append_right, List.drop_left]

/-- A framed token with a byte of its inner token changed unframes to the changed inner token. -/
theorem decapsulateFor_modify_inner {mech : Oid} {inner token : Bytes}
    (framed : encapsulate mech inner = .ok token) (j : Nat) (f : UInt8 → UInt8) :
    decapsulateFor (token.modify (token.length - inner.length + j) f) mech = .ok (inner.modify j f) :=
  decapsulateFor_of_encapsulate (encapsulate_modify framed j f)

end Codec

end GssApi
