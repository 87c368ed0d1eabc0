import GssApi.Proofs.Unframing
import GssApi.Codec.Checksum

/-! Slices that stay in range, in the token codec.

A decoder reads its input through slices, indexes and splits, and each of them stops the
program when it reaches past the end of its buffer. `Guarded ε α` is a computation that fails
with an `ε` or stops on such an access (`none`). Each decoder of the codec is read here as a
guarded computation that makes the same length checks and the same accesses, in the same
order, as the decoder does on its buffers; the statements of this module say that it never
stops and answers what the decoder answers, for every input: `Guarded.readLength_eq`,
`Guarded.decapsulate_eq`, `Guarded.decapsulateFor_eq`, `Guarded.stripTag_eq`,
`Guarded.parseHeader_eq` and `Guarded.decodeChecksum_eq`. -/

namespace GssApi

/-- A computation that fails with an `ε`, or stops on an access out of range (`none`). -/
abbrev Guarded (ε : Type) := ExceptT ε Option

namespace Guarded

variable {ε ε' α β : Type}

/-- Stop on an access out of range. -/
def outOfRange : Guarded ε α := ExceptT.lift none

/-- An answer computed without accesses to a buffer. -/
def ofExcept (x : Except ε α) : Guarded ε α := ExceptT.mk (some x)

/-- The byte at index `i`. -/
def byteAt (bs : Bytes) (i : Nat) : Guarded ε UInt8 :=
  if h : i < bs.length then pure bs[i] else outOfRange

/-- The bytes from index `a` on. -/
def sliceFrom (bs : Bytes) (a : Nat) : Guarded ε Bytes :=
  if a ≤ bs.length then pure (bs.drop a) else outOfRange

/-- The bytes before index `b`. -/
def sliceTo (bs : Bytes) (b : Nat) : Guarded ε Bytes :=
  if b ≤ bs.length then pure (bs.take b) else outOfRange

/-- The bytes from index `a` up to index `b`. -/
def slice (bs : Bytes) (a b : Nat) : Guarded ε Bytes :=
  if a ≤ b ∧ b ≤ bs.length then pure ((bs.take b).drop a) else outOfRange

/-- The first `k` bytes and the rest. A cursor that reads a fixed-width word, or copies out a
few bytes, splits its buffer the same way. -/
def splitAt (bs : Bytes) (k : Nat) : Guarded ε (Bytes × Bytes) :=
  if k ≤ bs.length then pure (bs.take k, bs.drop k) else outOfRange

/-- The first `k` bytes copied into an array of `k` bytes, and the rest. -/
def copyOut (bs : Bytes) (k : Nat) : Guarded ε ({out : Bytes // out.length = k} × Bytes) :=
  if h : k ≤ bs.length then pure (⟨bs.take k, by simp [h]⟩, bs.drop k) else outOfRange

/-- The difference of two lengths, which stops where it would go below zero. -/
def sub (a b : Nat) : Guarded ε Nat :=
  if b ≤ a then pure (a - b) else outOfRange

/-- Go on when `ok` holds, and fail with `e` otherwise. -/
def require (ok : Prop) [Decidable ok] (e : ε) : Guarded ε Unit :=
  if ok then pure () else throw e

/-- Report failures as another kind of error. -/
def mapError (f : ε → ε') (x : Guarded ε α) : Guarded ε' α := ExceptT.adapt f x

example : (sliceFrom [1, 2] 3 : Guarded Unit Bytes).run = none := rfl

example : (splitAt [1, 2, 3] 2 : Guarded Unit (Bytes × Bytes)).run = some (.ok ([1, 2], [3])) := rfl

@[simp] theorem run_ofExcept (x : Except ε α) : (ofExcept x).run = some x := rfl

@[simp] theorem ofExcept_ok (a : α) : ofExcept (.ok a : Except ε α) = pure a := rfl

@[simp] theorem ofExcept_pure (a : α) : ofExcept (pure a : Except ε α) = pure a := rfl

@[simp] theorem ofExcept_error (e : ε) : ofExcept (.error e : Except ε α) = throw e := rfl

theorem ofExcept_bind (x : Except ε α) (f : α → Except ε β) :
    ofExcept (x >>= f) = ofExcept x >>= fun a => ofExcept (f a) := by
  cases x <;> rfl

theorem mapError_ofExcept (f : ε → ε') (x : Except ε α) :
    mapError f (ofExcept x) = ofExcept (x.mapError f) := by
  cases x <;> rfl

theorem byteAt_of_lt {bs : Bytes} {i : Nat} (inside : i < bs.length) :
    (byteAt bs i : Guarded ε UInt8) = pure bs[i] := dif_pos inside

theorem sliceFrom_of_le {bs : Bytes} {a : Nat} (inside : a ≤ bs.length) :
    (sliceFrom bs a : Guarded ε Bytes) = pure (bs.drop a) := if_pos inside

theorem sliceTo_of_le {bs : Bytes} {b : Nat} (inside : b ≤ bs.length) :
    (sliceTo bs b : Guarded ε Bytes) = pure (bs.take b) := if_pos inside

theorem slice_of_le {bs : Bytes} {a b : Nat} (ordered : a ≤ b) (inside : b ≤ bs.length) :
    (slice bs a b : Guarded ε Bytes) = pure ((bs.take b).drop a) := if_pos ⟨ordered, inside⟩

theorem splitAt_of_le {bs : Bytes} {k : Nat} (inside : k ≤ bs.length) :
    (splitAt bs k : Guarded ε (Bytes × Bytes)) = pure (bs.take k, bs.drop k) := if_pos inside

theorem copyOut_of_le {bs : Bytes} {k : Nat} (inside : k ≤ bs.length) :
    (copyOut bs k : Guarded ε ({out : Bytes // out.length = k} × Bytes)) =
      pure (⟨bs.take k, List.length_take_of_le inside⟩, bs.drop k) := dif_pos inside

theorem sub_of_le {a b : Nat} (le : b ≤ a) : (sub a b : Guarded ε Nat) = pure (a - b) := if_pos le

theorem require_pos {ok : Prop} [Decidable ok] (holds : ok) (e : ε) : require ok e = pure () :=
  if_pos holds

theorem require_neg {ok : Prop} [Decidable ok] (fails : ¬ ok) (e : ε) : require ok e = throw e :=
  if_neg fails

/-! A buffer with a first byte: the checks and accesses at its front. -/

section Front

variable (b : UInt8) (rest : Bytes)

@[simp] theorem need_cons_one : need (b :: rest) 1 = .ok () := if_neg (by simp)

@[simp] theorem byteAt_cons_zero : (byteAt (b :: rest) 0 : Guarded ε UInt8) = pure b := rfl

@[simp] theorem sliceFrom_cons_one : (sliceFrom (b :: rest) 1 : Guarded ε Bytes) = pure rest :=
  sliceFrom_of_le (by simp)

theorem sliceFrom_cons_add {k : Nat} (inside : k ≤ rest.length) :
    (sliceFrom (b :: rest) (1 + k) : Guarded ε Bytes) = pure (rest.drop k) := by
  rw [sliceFrom_of_le (by simp; omega), Nat.add_comm, List.drop_succ_cons]

end Front

/-- Read a definite length from the front of `data`: the length and the bytes it took. -/
def readLength (data : Bytes) : Guarded CodecError (Nat × Nat) := do
  ofExcept (need data 1)
  let first ← byteAt data 0
  if first < 0x80 then pure (first.toNat, 1)
  else
    let n := (first &&& 0x7F).toNat
    if n = 0 ∨ n > Codec.maxLengthOctets then throw .badLength
    ofExcept (need data (1 + n))
    let octets ← slice data 1 (1 + n)
    pure (Bytes.beToNat octets, 1 + n)

@[simp] theorem except_throw_eq (e : ε) : (throw e : Except ε α) = .error e := rfl

@[simp] theorem throw_bind (e : ε) (f : α → Guarded ε β) :
    (throw e : Guarded ε α) >>= f = throw e := rfl

theorem readLength_eq (data : Bytes) : readLength data = ofExcept (Codec.readLength data) := by
  cases data with
  | nil => rfl
  | cons first rest =>
    simp only [readLength, Codec.readLength, need_cons_one, ofExcept_ok, pure_bind, byteAt_cons_zero]
    set k := (first &&& 127).toNat
    split
    · rfl
    · split
      · rfl
      · -- the long form: the count octet is checked against what follows it before the slice
        by_cases short : rest.length < k
        · rw [need, List.length_cons, if_pos (show rest.length + 1 < 1 + k by omega), if_pos short]
          rfl
        · have inside : 1 + k ≤ (first :: rest).length := by rw [List.length_cons]; omega
          rw [need, List.length_cons, if_neg (show ¬ rest.length + 1 < 1 + k by omega), if_neg short,
            ofExcept_ok, ofExcept_ok, pure_bind, slice_of_le (Nat.le_add_right 1 k) inside,
            pure_bind, Nat.add_comm 1 k, List.take_succ_cons, List.drop_succ_cons, List.drop_zero]

/-- A length read takes no more bytes than there are. -/
theorem used_le_of_readLength {data : Bytes} {declared used : Nat}
    (read : Codec.readLength data = .ok (declared, used)) : used ≤ data.length := by
  cases data with
  | nil => cases read
  | cons first rest =>
    rcases Codec.readLength_cons_eq_ok read with ⟨-, -, rfl⟩ | ⟨-, -, -, fits, -, rfl⟩
    all_goals simp only [List.length_cons]; omega

/-- Take a token out of its wrapper. -/
def decapsulate (token : Bytes) : Guarded CodecError Unframed := do
  ofExcept (need token 1)
  let tag ← byteAt token 0
  require (tag = Codec.wrapperTag) (.badTag tag)
  let (declared, used) ← readLength (← sliceFrom token 1)
  let content ← sliceFrom token (1 + used)
  require (declared = content.length) (.lengthMismatch declared content.length)
  ofExcept (need content 1)
  let idTag ← byteAt content 0
  require (idTag = Codec.oidTag) (.badOidTag idTag)
  let (oidLength, idUsed) ← readLength (← sliceFrom content 1)
  require (oidLength ≠ 0) .emptyOid
  let rest ← sliceFrom content (1 + idUsed)
  ofExcept (need rest oidLength)
  let mech ← sliceTo rest oidLength
  let inner ← sliceFrom rest oidLength
  match Oid.ofBytes? mech with
  | some oid => pure ⟨oid, inner⟩
  | none => throw .emptyOid

theorem decapsulate_eq (token : Bytes) : decapsulate token = ofExcept (Codec.decapsulate token) := by
  cases token with
  | nil => rfl
  | cons tag afterTag =>
    simp only [decapsulate, Codec.decapsulate, need_cons_one, ofExcept_ok, pure_bind, byteAt_cons_zero,
      sliceFrom_cons_one, readLength_eq]
    by_cases tagged : tag = Codec.wrapperTag
    swap
    · simp [require, tagged]
    subst tagged
    simp only [require, if_true, ne_eq, not_true_eq_false, if_false, pure_bind]
    -- the outer length: the content starts after the bytes it took, which are there
    cases read : Codec.readLength afterTag with
    | error e => rfl
    | ok lengths =>
      obtain ⟨declared, used⟩ := lengths
      simp only [ofExcept_ok, pure_bind, Except.ok_bind,
        sliceFrom_cons_add _ _ (used_le_of_readLength read)]
      generalize afterTag.drop used = content
      by_cases matched : declared = content.length
      swap
      · simp [matched]
      simp only [matched, if_true, not_true_eq_false, if_false, pure_bind]
      cases content with
      | nil => rfl
      | cons idTag afterIdTag =>
        simp only [need_cons_one, ofExcept_ok, pure_bind, byteAt_cons_zero, sliceFrom_cons_one]
        by_cases idTagged : idTag = Codec.oidTag
        swap
        · simp [idTagged]
        subst idTagged
        simp only [if_true, not_true_eq_false, if_false, pure_bind]
        -- the identifier's length, and the identifier after it
        cases idRead : Codec.readLength afterIdTag with
        | error e => rfl
        | ok lengths =>
          obtain ⟨oidLength, idUsed⟩ := lengths
          simp only [ofExcept_ok, pure_bind, Except.ok_bind,
            sliceFrom_cons_add _ _ (used_le_of_readLength idRead)]
          by_cases empty : oidLength = 0
          · simp [empty]
          simp only [empty, not_false_eq_true, if_true, if_false, pure_bind]
          generalize afterIdTag.drop idUsed = rest
          by_cases short : rest.length < oidLength
          · simp [need, short]
          simp only [need, short, if_false, ofExcept_ok, pure_bind, Except.ok_bind,
            sliceTo_of_le (Nat.le_of_not_lt short), sliceFrom_of_le (Nat.le_of_not_lt short)]
          cases Oid.ofBytes? (rest.take oidLength) <;> rfl

/-- Take a token out of its wrapper, requiring it to name the expected mechanism. -/
def decapsulateFor (token : Bytes) (expected : Oid) : Guarded CodecError Bytes := do
  let u ← decapsulate token
  require (u.mech.bytes = expected.bytes) (.mechMismatch expected u.mech)
  pure u.inner

theorem decapsulateFor_eq (token : Bytes) (expected : Oid) :
    decapsulateFor token expected = ofExcept (Codec.decapsulateFor token expected) := by
  rw [decapsulateFor, decapsulate_eq, Codec.decapsulateFor]
  cases Codec.decapsulate token with
  | error e => rfl
  | ok u => by_cases same : u.mech.bytes = expected.bytes <;> simp [require, same]

/-- Remove the expected two-byte tag from the front of an inner token. -/
def stripTag (inner : Bytes) (expected : TokenTag) : Guarded CodecError Bytes := do
  ofExcept (need inner 2)
  let a ← byteAt inner 0
  let b ← byteAt inner 1
  require ([a, b] = expected.bytes) (.badInnerTag a b)
  sliceFrom inner 2

theorem stripTag_eq (inner : Bytes) (expected : TokenTag) :
    stripTag inner expected = ofExcept (Codec.stripTag inner expected) := by
  match inner with
  | [] => rfl
  | [_] => rfl
  | a :: b :: rest =>
    have twoBytes : need (a :: b :: rest) 2 = .ok () := if_neg (by simp)
    simp only [stripTag, Codec.stripTag, twoBytes, ofExcept_ok, pure_bind, byteAt_cons_zero,
      byteAt_of_lt (show 1 < (a :: b :: rest).length by simp), List.getElem_cons_succ,
      List.getElem_cons_zero, sliceFrom_of_le (show 2 ≤ (a :: b :: rest).length by simp)]
    by_cases tagged : [a, b] = expected.bytes <;> simp [require, tagged]

/-- What a successful tag strip leaves: all but the first two bytes. -/
theorem length_of_stripTag {inner rest : Bytes} {expected : TokenTag}
    (stripped : Codec.stripTag inner expected = .ok rest) : rest.length + 2 = inner.length := by
  match inner, stripped with
  | a :: b :: rest', stripped =>
    simp only [Codec.stripTag] at stripped
    split at stripped
    · cases stripped
      simp
    · cases stripped

/-- Read a per-message header of the expected kind from the front of `data`. The three words
after the tag are read through a cursor. -/
def parseHeader (data : Bytes) (expected : TokenTag) : Guarded CodecError MessageHeader := do
  ofExcept (need data MessageHeader.encodedLength)
  let cursor ← stripTag data expected
  let (sgnBytes, cursor) ← splitAt cursor 2
  let (sealBytes, cursor) ← splitAt cursor 2
  let (fillBytes, _) ← splitAt cursor 2
  let fill := UInt16.ofNat (Bytes.leToNat fillBytes)
  require (fill = MessageHeader.filler) (.badField .filler fill)
  pure { tag := expected, sgnAlg := UInt16.ofNat (Bytes.leToNat sgnBytes),
         sealAlg := UInt16.ofNat (Bytes.leToNat sealBytes) }

theorem parseHeader_eq (data : Bytes) (expected : TokenTag) :
    parseHeader data expected = ofExcept (MessageHeader.parse data expected) := by
  by_cases short : data.length < MessageHeader.encodedLength
  · simp [parseHeader, MessageHeader.parse, need, short]
  simp only [parseHeader, MessageHeader.parse, need, short, if_false, ofExcept_ok, pure_bind,
    Except.ok_bind, stripTag_eq]
  cases stripped : Codec.stripTag data expected with
  | error e => rfl
  | ok rest =>
    -- the header has eight bytes, so the six after the tag hold the three words
    have six : 6 ≤ rest.length := by
      have := length_of_stripTag stripped
      simp only [MessageHeader.encodedLength] at short
      omega
    simp only [ofExcept_ok, pure_bind, Except.ok_bind, splitAt_of_le (show 2 ≤ rest.length by omega),
      splitAt_of_le (show 2 ≤ (rest.drop 2).length by simp; omega), List.drop_drop,
      splitAt_of_le (show 2 ≤ (rest.drop (2 + 2)).length by simp; omega)]
    by_cases filled : UInt16.ofNat (Bytes.leToNat ((rest.drop 4).take 2)) = MessageHeader.filler <;>
      simp [require, filled]

/-- Read the authenticator checksum field from the front of `data`: its length word, the
binding hash copied into a 16-byte array, and the flags. -/
def decodeChecksum (data : Bytes) : Guarded CodecError BindingChecksum := do
  ofExcept (need data BindingChecksum.encodedLength)
  let (lengthBytes, cursor) ← splitAt data 4
  let lengthWord := Bytes.leToNat lengthBytes
  require (lengthWord = 16) (.badField .bindingLength (UInt16.ofNat lengthWord))
  let (bindings, cursor) ← copyOut cursor 16
  let (flagBytes, _) ← splitAt cursor 4
  pure { bindings := bindings.1, flags := UInt32.ofNat (Bytes.leToNat flagBytes),
         bindings_length := bindings.2 }

theorem decodeChecksum_eq (data : Bytes) :
    decodeChecksum data = ofExcept (BindingChecksum.decode data) := by
  by_cases short : data.length < BindingChecksum.encodedLength
  · simp [decodeChecksum, BindingChecksum.decode, need, short]
  have long : 24 ≤ data.length := by simpa [BindingChecksum.encodedLength] using short
  simp only [decodeChecksum, BindingChecksum.decode, need, short, if_false, ofExcept_ok,
    pure_bind, splitAt_of_le (show 4 ≤ data.length by omega)]
  by_cases sized : Bytes.leToNat (data.take 4) = 16
  swap
  · simp [require, sized]
  simp only [require, sized, if_true, ne_eq, not_true_eq_false, if_false, pure_bind,
    copyOut_of_le (show 16 ≤ (data.drop 4).length by simp; omega), List.drop_drop,
    splitAt_of_le (show 4 ≤ (data.drop (4 + 16)).length by simp; omega)]
  rfl

end Guarded

end GssApi
