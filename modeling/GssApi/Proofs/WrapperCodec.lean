import GssApi.Proofs.CodecBounds

/-! The outer wrapper as a codec.

Framing and unframing undo each other. Every identifier and every inner token whose content
fits a four-octet length frame to a token that unframes to them again, and unframing for an
expected identifier gives the inner token back exactly when the expected identifier has the
framed one's bytes. Beyond that size framing fails with a malformed length.

Unframing accepts more than framing writes: the length reader takes up to four value octets,
leading zeros included, and a long form for a short value. A token that unframes is the
framing of what it carries exactly when both of its length fields are in the minimal form of
the distinguished encoding rules (`IsMinimalLength`). Main statement: `wrapper_round_trips`. -/
namespace GssApi.Codec

/-- A length field in the minimal form of the distinguished encoding rules, for a field the
length reader has read whole: the short form below 128; otherwise value octets with no leading
zero octet, and a single value octet only for a value of at least 128. -/
def IsMinimalLength : Bytes → Prop
  | [b] => b < 0x80
  | [_, v] => 0x80 ≤ v
  | _ :: v :: _ :: _ => v ≠ 0
  | [] => False

instance : DecidablePred IsMinimalLength
  | [b] => inferInstanceAs (Decidable (b < 0x80))
  | [_, v] => inferInstanceAs (Decidable (0x80 ≤ v))
  | _ :: v :: _ :: _ => inferInstanceAs (Decidable (v ≠ 0))
  | [] => inferInstanceAs (Decidable False)

/-! ### Minimal length fields are the written ones -/

/-- A length needs `k + 1` octets exactly when it lies between `256 ^ k` and `256 ^ (k + 1)`. -/
theorem significantBytes_eq {n k : Nat} (low : 256 ^ k ≤ n) (high : n < 256 ^ (k + 1)) :
    significantBytes n = k + 1 := by
  have atMost := significantBytes_le high
  have atLeast : k < significantBytes n := by
    by_contra few
    have below := lt_pow_significantBytes n
    have smaller : 256 ^ significantBytes n ≤ 256 ^ k := Nat.pow_le_pow_right (by omega) (by omega)
    omega
  omega

/-- Every length the writer writes is in minimal form. -/
theorem isMinimalLength_of_writeLength {n : Nat} {field : Bytes} (written : writeLength n = .ok field) :
    IsMinimalLength field := by
  rcases writeLength_eq_ok written with ⟨short, rfl⟩ | ⟨long, positive, -, rfl⟩
  · show UInt8.ofNat n < 0x80
    rw [UInt8.lt_iff_toNat_lt, UInt8.toNat_ofNat_of_lt' (by simp only [UInt8.size]; omega)]
    exact short
  · -- the value octets read back as `n`: a leading zero would make fewer octets enough
    have value := Bytes.beToNat_beOfNat (significantBytes n) n
    rw [Nat.mod_eq_of_lt (lt_pow_significantBytes n)] at value
    have width := Bytes.length_beOfNat (significantBytes n) n
    rcases octets : Bytes.beOfNat (significantBytes n) n with _ | ⟨v, more⟩
    · rw [octets] at width
      simp only [List.length_nil] at width
      omega
    rw [octets] at value width
    have bounds := Bytes.beToNat_cons_bounds v more
    rw [value] at bounds
    rcases more with _ | ⟨w, rest⟩
    · show 0x80 ≤ v
      rw [UInt8.le_iff_toNat_le]
      simp only [List.length_nil, Nat.pow_zero, Nat.mul_one] at bounds
      simp only [UInt8.reduceToNat]
      omega
    · show v ≠ 0
      intro zero
      rw [zero] at bounds
      have fewer := significantBytes_le (n := n) (k := (w :: rest).length) (by simpa using bounds.2)
      simp only [List.length_cons] at width fewer
      omega

/-- A long-form field that the reader has read whole is a count octet for its value octets,
at most four of them, and the length read is their big-endian number. -/
theorem readLength_long_field {c v : UInt8} {more rest : Bytes} {n : Nat}
    (read : readLength ((c :: v :: more) ++ rest) = .ok (n, (c :: v :: more).length)) :
    0x80 ≤ c.toNat ∧ c.toNat % 128 = more.length + 1 ∧ more.length + 1 ≤ maxLengthOctets ∧
      n = Bytes.beToNat (v :: more) := by
  rcases readLength_cons_eq_ok read with ⟨-, -, used⟩ | ⟨high, -, few, -, value, used⟩
  · simp at used
  simp only [List.length_cons] at used
  have count : c.toNat % 128 = more.length + 1 := by omega
  have taken : ((v :: more) ++ rest).take (c.toNat % 128) = v :: more := by
    rw [count]
    exact List.take_left' (by simp)
  change n = Bytes.beToNat (((v :: more) ++ rest).take (c.toNat % 128)) at value
  rw [taken] at value
  exact ⟨high, count, count ▸ few, value⟩

/-- A minimal length field that the reader has read whole is the field the writer writes for
the length read. -/
theorem writeLength_of_isMinimalLength {field rest : Bytes} {n : Nat}
    (read : readLength (field ++ rest) = .ok (n, field.length)) (minimal : IsMinimalLength field) :
    writeLength n = .ok field := by
  rcases field with _ | ⟨c, _ | ⟨v, more⟩⟩
  · exact minimal.elim
  · -- the short form: one octet below 128
    have short : c < 0x80 := minimal
    rcases readLength_cons_eq_ok read with ⟨-, value, -⟩ | ⟨high, -⟩
    · have below : n < 0x80 := by
        rw [value]
        exact UInt8.lt_iff_toNat_lt.mp short
      rw [writeLength, if_pos below, value, UInt8.ofNat_toNat]
    · exact absurd (UInt8.lt_iff_toNat_lt.mp short) (by simp only [UInt8.reduceToNat]; omega)
  · -- the long form: a count octet, then the value octets
    obtain ⟨high, count, few, value⟩ := readLength_long_field read
    have bounds := Bytes.beToNat_cons_bounds v more
    rw [← value] at bounds
    -- the value needs exactly as many octets as the field has
    have lead : 1 ≤ v.toNat ∧ (more = [] → 0x80 ≤ n) := by
      rcases more with _ | ⟨w, rest'⟩
      · have big : 0x80 ≤ v.toNat := UInt8.le_iff_toNat_le.mp minimal
        simp only [List.length_nil, Nat.pow_zero, Nat.mul_one] at bounds
        exact ⟨by omega, fun _ => by omega⟩
      · have nonzero : v ≠ 0 := minimal
        exact ⟨Nat.pos_of_ne_zero fun zero => nonzero (UInt8.toNat_inj.mp (by rw [zero]; rfl)), nofun⟩
    have needed : significantBytes n = more.length + 1 := by
      apply significantBytes_eq
      · calc 256 ^ more.length ≤ v.toNat * 256 ^ more.length := Nat.le_mul_of_pos_left _ lead.1
          _ ≤ n := bounds.1
      · calc n < (v.toNat + 1) * 256 ^ more.length := bounds.2
          _ ≤ 256 * 256 ^ more.length := Nat.mul_le_mul_right _ (by have := v.toNat_lt; omega)
          _ = 256 ^ (more.length + 1) := by rw [Nat.pow_succ, Nat.mul_comm]
    have long : ¬ n < 0x80 := by
      rcases more with _ | ⟨w, rest'⟩
      · have := lead.2 rfl
        omega
      · have big : 256 ≤ 256 ^ (w :: rest').length := Nat.le_self_pow (by simp) 256
        have := Nat.le_trans (Nat.le_mul_of_pos_left _ lead.1) bounds.1
        omega
    have countOctet : UInt8.ofNat (0x80 + significantBytes n) = c := by
      apply UInt8.toNat_inj.mp
      rw [UInt8.toNat_ofNat', needed]
      have := c.toNat_lt
      omega
    have octets : Bytes.beOfNat (significantBytes n) n = v :: more := by
      rw [needed, value]
      exact Bytes.beOfNat_beToNat (v :: more)
    simp only [maxLengthOctets] at few
    rw [writeLength, if_neg long, if_neg (by simp only [maxLengthOctets]; omega), countOctet, octets]

/-- A length field read whole is the written one exactly when it is minimal. -/
theorem writeLength_eq_ok_iff_minimal {field rest : Bytes} {n : Nat}
    (read : readLength (field ++ rest) = .ok (n, field.length)) :
    writeLength n = .ok field ↔ IsMinimalLength field :=
  ⟨isMinimalLength_of_writeLength, writeLength_of_isMinimalLength read⟩

/-- A length of `2 ^ 32` or more takes more than four octets and cannot be written. -/
theorem writeLength_of_le {n : Nat} (many : 2 ^ 32 ≤ n) : writeLength n = .error .badLength := by
  have octets : maxLengthOctets < significantBytes n := by
    by_contra few
    have below := lt_pow_significantBytes n
    have smaller : 256 ^ significantBytes n ≤ 256 ^ 4 :=
      Nat.pow_le_pow_right (by omega) (by simp only [maxLengthOctets] at few; omega)
    omega
  rw [writeLength, if_neg (by omega), if_pos octets]

/-! ### Framing and unframing -/

/-- Content that does not fit a four-octet length cannot be framed. -/
theorem encapsulate_of_le {mech : Oid} {inner : Bytes} (many : 2 ^ 32 ≤ contentLength mech inner) :
    encapsulate mech inner = .error .badLength := by
  simp [encapsulate, writeLength_of_le many, bind, Except.bind]

/-- Unframing a framed token for an expected identifier gives the inner token back when the
identifiers have the same bytes, and names both identifiers otherwise. -/
theorem decapsulateFor_encapsulate {mech expected : Oid} {inner token : Bytes}
    (framed : encapsulate mech inner = .ok token) :
    decapsulateFor token expected =
      if expected.bytes = mech.bytes then .ok inner else .error (.mechMismatch expected mech) := by
  by_cases same : expected.bytes = mech.bytes
  · simp [decapsulateFor, decapsulate_of_encapsulate framed, same, bind, Except.bind, pure,
      Except.pure]
  · have differ : mech.bytes ≠ expected.bytes := fun h => same h.symm
    simp [decapsulateFor, decapsulate_of_encapsulate framed, same, differ, bind, Except.bind,
      throw, throwThe, MonadExceptOf.throw]

/-- The two length fields of a token that unframes, as the reader reads them: the outer field
counts the rest of the token, the identifier's field counts the identifier. -/
theorem decapsulate_eq_ok_fields {token : Bytes} {u : Unframed} (unframed : decapsulate token = .ok u) :
    ∃ outer oidLength, token = wrapperTag :: outer ++ oidTag :: oidLength ++ u.mech.bytes ++ u.inner ∧
      readLength (outer ++ oidTag :: oidLength ++ u.mech.bytes ++ u.inner) =
        .ok ((oidTag :: oidLength ++ u.mech.bytes ++ u.inner).length, outer.length) ∧
      readLength (oidLength ++ u.mech.bytes ++ u.inner) = .ok (u.mech.bytes.length, oidLength.length) := by
  obtain ⟨afterTag, used, rfl, outerRead, afterIdTag, idUsed, content, oidRead, rest⟩ :=
    decapsulate_eq_ok unframed
  have outerLength : (afterTag.take used).length = used :=
    List.length_take_of_le (Guarded.used_le_of_readLength outerRead)
  have oidLengthLength : (afterIdTag.take idUsed).length = idUsed :=
    List.length_take_of_le (Guarded.used_le_of_readLength oidRead)
  -- each field is what its read took from the front
  have afterIdTagEq : afterIdTag = afterIdTag.take idUsed ++ (u.mech.bytes ++ u.inner) := by
    rw [← rest, List.take_append_drop]
  have afterTagEq : afterTag = afterTag.take used ++ oidTag :: (afterIdTag.take idUsed ++
      (u.mech.bytes ++ u.inner)) := by
    rw [← afterIdTagEq, ← content, List.take_append_drop]
  refine ⟨afterTag.take used, afterIdTag.take idUsed, ?_, ?_, ?_⟩
  · simp only [List.append_assoc, List.cons_append]
    rw [← afterTagEq]
  · simp only [List.append_assoc, List.cons_append]
    rw [← afterTagEq, outerRead, outerLength, content, ← afterIdTagEq]
  · simp only [List.append_assoc]
    rw [← afterIdTagEq, oidRead, oidLengthLength]

/-- A token that unframes is the framing of its identifier and inner token exactly when both of
its length fields are in minimal form. -/
theorem encapsulate_eq_iff_minimal {token : Bytes} {u : Unframed} (unframed : decapsulate token = .ok u) :
    ∃ outer oidLength, token = wrapperTag :: outer ++ oidTag :: oidLength ++ u.mech.bytes ++ u.inner ∧
      readLength (outer ++ oidTag :: oidLength ++ u.mech.bytes ++ u.inner) =
        .ok ((oidTag :: oidLength ++ u.mech.bytes ++ u.inner).length, outer.length) ∧
      readLength (oidLength ++ u.mech.bytes ++ u.inner) = .ok (u.mech.bytes.length, oidLength.length) ∧
      (encapsulate u.mech u.inner = .ok token ↔ IsMinimalLength outer ∧ IsMinimalLength oidLength) := by
  obtain ⟨outer, oidLength, rfl, outerRead, oidRead⟩ := decapsulate_eq_ok_fields unframed
  refine ⟨outer, oidLength, rfl, outerRead, oidRead, ⟨fun framed => ?_, fun ⟨outerMinimal, oidMinimal⟩ => ?_⟩⟩
  · -- the written fields are the ones the reader took, and written fields are minimal
    obtain ⟨outer', oidLength', outerWritten, oidWritten, same⟩ := encapsulate_eq_ok framed
    have outerRead' := readLength_of_writeLength outerWritten
      (oidTag :: oidLength' ++ u.mech.bytes ++ u.inner)
    simp only [List.append_assoc, List.cons_append, List.cons.injEq, true_and] at same outerRead outerRead'
    rw [← same, outerRead] at outerRead'
    have outerSame : outer' = outer := by
      have lengths : outer'.length = outer.length := (Prod.mk.inj (Except.ok.inj outerRead')).2.symm
      have fronts := congrArg (List.take outer.length) same
      rw [List.take_left' rfl, List.take_left' lengths] at fronts
      exact fronts.symm
    subst outerSame
    obtain ⟨-, rest⟩ := List.cons.inj (List.append_cancel_left same)
    have oidRead' := readLength_of_writeLength oidWritten (u.mech.bytes ++ u.inner)
    rw [List.append_assoc] at oidRead
    rw [← rest, oidRead] at oidRead'
    have oidSame : oidLength' = oidLength := by
      have lengths : oidLength'.length = oidLength.length := (Prod.mk.inj (Except.ok.inj oidRead')).2.symm
      have fronts := congrArg (List.take oidLength.length) rest
      rw [List.take_left' rfl, List.take_left' lengths] at fronts
      exact fronts.symm
    subst oidSame
    exact ⟨isMinimalLength_of_writeLength outerWritten, isMinimalLength_of_writeLength oidWritten⟩
  · -- minimal fields are the written ones, and the outer one counts the content
    simp only [List.append_assoc, List.cons_append] at outerRead oidRead
    have oidWritten := writeLength_of_isMinimalLength oidRead oidMinimal
    have content : contentLength u.mech u.inner =
        (oidTag :: (oidLength ++ (u.mech.bytes ++ u.inner))).length := by
      simp [contentLength, length_of_writeLength oidWritten]
      omega
    have outerWritten := writeLength_of_isMinimalLength outerRead outerMinimal
    rw [← content] at outerWritten
    simp [encapsulate, outerWritten, oidWritten, bind, Except.bind, pure, Except.pure]

/-- Unframing names a mechanism exactly when it succeeds, and then the one it read. -/
theorem detectMech_eq_some_iff {token : Bytes} {mech : Oid} :
    detectMech token = some mech ↔ ∃ inner, decapsulate token = .ok ⟨mech, inner⟩ := by
  unfold detectMech
  rcases decapsulate token with e | ⟨mech', inner⟩
  · simp
  · simp [eq_comm]

/-- The outer wrapper is a codec. Framing succeeds below a content length of `2 ^ 32`, and
unframing gives back the identifier and the inner token, and the inner token for exactly the
identifier framed; at `2 ^ 32` and beyond framing fails with a malformed length. A tagged token
is framed as the tag followed by the body. Conversely, a token that unframes carries a non-empty
identifier and is the framing of what it carries exactly when its two length fields, as the
reader reads them, are minimal; and the mechanism of a token is detected exactly when it
unframes. -/
theorem wrapper_round_trips :
    (∀ (mech : Oid) (inner : Bytes), contentLength mech inner < 2 ^ 32 →
      ∃ token, encapsulate mech inner = .ok token ∧ decapsulate token = .ok ⟨mech, inner⟩ ∧
        ∀ expected : Oid, decapsulateFor token expected =
          if expected.bytes = mech.bytes then .ok inner else .error (.mechMismatch expected mech)) ∧
    (∀ (mech : Oid) (tag : TokenTag) (body : Bytes),
      encapsulateTagged mech tag body = encapsulate mech (tag.bytes ++ body)) ∧
    (∀ (mech : Oid) (inner : Bytes), 2 ^ 32 ≤ contentLength mech inner →
      encapsulate mech inner = .error .badLength) ∧
    (∀ (token : Bytes) (u : Unframed), decapsulate token = .ok u →
      u.mech.bytes ≠ [] ∧
      ∃ outer oidLength, token = wrapperTag :: outer ++ oidTag :: oidLength ++ u.mech.bytes ++ u.inner ∧
        readLength (outer ++ oidTag :: oidLength ++ u.mech.bytes ++ u.inner) =
          .ok ((oidTag :: oidLength ++ u.mech.bytes ++ u.inner).length, outer.length) ∧
        readLength (oidLength ++ u.mech.bytes ++ u.inner) = .ok (u.mech.bytes.length, oidLength.length) ∧
        (encapsulate u.mech u.inner = .ok token ↔ IsMinimalLength outer ∧ IsMinimalLength oidLength)) ∧
    (∀ (token : Bytes) (mech : Oid),
      detectMech token = some mech ↔ ∃ inner, decapsulate token = .ok ⟨mech, inner⟩) := by
  refine ⟨fun mech inner few => ?_, fun _ _ _ => rfl, fun _ _ many => encapsulate_of_le many,
    fun _ u unframed => ⟨u.mech.nonempty, encapsulate_eq_iff_minimal unframed⟩,
    fun _ _ => detectMech_eq_some_iff⟩
  obtain ⟨token, framed⟩ := encapsulate_ok few
  exact ⟨token, framed, decapsulate_of_encapsulate framed, fun _ => decapsulateFor_encapsulate framed⟩

/-- A token whose outer length uses a long form for a short value unframes, but it is not the
framing of what it carries. -/
example : decapsulate [0x60, 0x81, 0x03, 0x06, 0x01, 0x2a] = .ok ⟨⟨[0x2a], by decide⟩, []⟩ ∧
    ¬ IsMinimalLength [0x81, 0x03] := by decide

end GssApi.Codec
