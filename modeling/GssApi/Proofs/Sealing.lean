import GssApi.Krb5.Exchange.Seal
import GssApi.Proofs.Cipher
import GssApi.Proofs.Effects
import GssApi.Proofs.Fields

/-! Sealed parts open to their plaintext.

A key of a known type with that type's length (`SessionKey.Supported`) is one the ciphers and
checksums accept: encryption of whole blocks and every keyed checksum succeed under it, and so
does sealing, from any random source that does not fail. What was sealed opens again under the
same key and usage to its plaintext when the cipher is lawful: decryption gives back the body,
the checksum recomputed over it is the one that was sent, and the body's length word cuts the
plaintext from between the confounder and the padding. -/
namespace GssApi

/-- A key of a known type with that type's length, as `SessionKey.new` makes keys of known
types. -/
def SessionKey.Supported (key : SessionKey) : Prop :=
  ∃ f, key.encType.family? = some f ∧ key.bytes.length = CipherSuite.keyLength f

namespace NFold

theorem size_addAll (input : Array Nat) (inLen outLen count : Nat) (out : Array Nat) (carry : Nat) :
    (addAll input inLen outLen count out carry).1.size = out.size := by
  induction count generalizing out carry with
  | zero => rfl
  | succ count ih => simp [addAll, ih]

theorem length_addCarry (out : List Nat) (carry : Nat) : (addCarry out carry).length = out.length := by
  -- the fold conses one byte for each byte it reads
  have folded : ∀ {step : List Nat × Nat → Nat → List Nat × Nat},
      (∀ state b, (step state b).1.length = state.1.length + 1) →
      ∀ (bytes : List Nat) (state : List Nat × Nat),
        (bytes.foldl step state).1.length = state.1.length + bytes.length := by
    intro step grows bytes
    induction bytes with
    | nil => simp
    | cons b bytes ih =>
      intro state
      rw [List.foldl_cons, ih, grows, List.length_cons]
      omega
  rw [addCarry, folded, List.length_reverse, List.length_nil, Nat.zero_add]
  intro state b
  cases state
  rfl

end NFold

@[simp] theorem length_nfold (input : Bytes) (n : Nat) : (nfold input n).length = n := by
  unfold nfold
  dsimp only
  split
  · simp
  · simp only [List.length_map]
    split <;> simp [NFold.length_addCarry, NFold.size_addAll]

@[simp] theorem length_expandSeven (chunk : Bytes) : (expandSeven chunk).length = chunk.length + 1 := by
  simp [expandSeven]

theorem length_des3KeyBytes {seed : Bytes} (sized : seed.length = 21) :
    (des3KeyBytes seed).length = 24 := by
  simp [des3KeyBytes, sized]

namespace CipherSuite

variable {cs : CipherSuite} {key : SessionKey}

/-- Whole blocks encrypt under a supported key and an eight-byte vector. -/
theorem encrypt_ok (supported : key.Supported) {iv data : Bytes} (vector : iv.length = Block.size)
    (whole : data.length % Block.size = 0) : ∃ sealed, cs.encrypt key iv data = .ok sealed := by
  obtain ⟨f, family, sized⟩ := supported
  have checks : ¬ (key.bytes.length ≠ keyLength f ∨ iv.length ≠ Block.size) := by
    simp [sized, vector]
  exact ⟨((cs.cipher f).keyed key.bytes).cbcEncrypt iv data,
    by simp [encrypt, keyed, whole, family, checks, Except.map]⟩

theorem length_zeroVector : zeroVector.length = Block.size := List.length_replicate ..

/-- A supported key derives a triple-DES key for every constant. -/
theorem derive_ok (supported : key.Supported) (constant : Bytes) : ∃ derived, cs.derive key constant = .ok derived := by
  -- three chained encryptions of one block give the 21 bytes the derived key is made of
  have block : ∀ b : Bytes, b.length = Block.size → ∃ e, cs.encrypt key zeroVector b = .ok e ∧
      e.length = Block.size := by
    intro b sized
    obtain ⟨e, encrypted⟩ := @encrypt_ok cs key supported zeroVector b length_zeroVector
      (by simp [sized, Block.size])
    exact ⟨e, encrypted, (length_of_encrypt encrypted).trans sized⟩
  obtain ⟨b1, first, firstLength⟩ := block _ (length_nfold constant Block.size)
  obtain ⟨b2, second, secondLength⟩ := block b1 firstLength
  obtain ⟨b3, third, thirdLength⟩ := block b2 secondLength
  have seedLength : ((b1 ++ b2 ++ b3).take 21).length = 21 := by
    simp [firstLength, secondLength, thirdLength, Block.size]
  refine ⟨⟨.des3CbcSha1Kd, des3KeyBytes ((b1 ++ b2 ++ b3).take 21)⟩, ?_⟩
  simp only [derive, first, second, third, Except.ok_bind, SessionKey.new, EncType.keyLength?,
    EncType.family?, Option.map_some, length_des3KeyBytes seedLength]
  rfl

/-- A supported key makes its own kind of checksum of any data, for any usage. -/
theorem checksum_ok (supported : key.Supported) {kind : ChecksumKind}
    (own : key.checksumKind? = some kind) (usage : UInt32) (data : Bytes) :
    ∃ mac, cs.checksum key kind usage data = .ok mac := by
  obtain ⟨f, family, sized⟩ := supported
  have matching : kind.family = f := by
    cases f <;> simp [SessionKey.checksumKind?, EncType.checksumKind?, family] at own <;>
      subst own <;> rfl
  have familyOk : checksumFamily key kind = .ok () := by
    simp [checksumFamily, family, matching]
  cases kind with
  | rsaMd5Des =>
    obtain ⟨sealed, encrypted⟩ := @encrypt_ok cs key ⟨f, family, sized⟩ zeroVector
      (Digest.md5 data) length_zeroVector (by simp [Digest.length_md5, Block.size])
    exact ⟨sealed.drop (sealed.length - Block.size), by simp [checksum, familyOk, encrypted]⟩
  | hmacSha1Des3Kd =>
    obtain ⟨derived, derivedOk⟩ := @derive_ok cs key ⟨f, family, sized⟩ (Bytes.u32be usage ++ [0x99])
    exact ⟨Digest.hmacSha1 derived.bytes data, by simp [checksum, familyOk, derivedOk]⟩

end CipherSuite

namespace Exchange

variable {cs : CipherSuite} {key : SessionKey} {usage : UInt32}

theorem checksumFor_ok (supported : key.Supported) :
    ∃ kind, key.checksumKind? = some kind ∧ checksumFor key = .ok kind := by
  obtain ⟨f, family, -⟩ := supported
  have own : key.checksumKind? = some (match f with | .des => .rsaMd5Des | .tripleDes => .hmacSha1Des3Kd) := by
    cases f <;> simp [SessionKey.checksumKind?, EncType.checksumKind?, family]
  exact ⟨_, own, by simp [checksumFor, own]⟩

theorem checksumKind_of_checksumFor {kind : ChecksumKind} (made : checksumFor key = .ok kind) :
    key.checksumKind? = some kind := by
  unfold checksumFor at made
  split at made
  · cases made
    assumption
  · cases made

theorem length_sealBody (confounder plain : Bytes) :
    (sealBody confounder plain).length =
      confounder.length + 4 + plain.length +
        (Block.size - (confounder.length + 4 + plain.length) % Block.size) % Block.size := by
  simp [sealBody, padding, Nat.add_assoc]

theorem sealBody_whole (confounder plain : Bytes) :
    (sealBody confounder plain).length % Block.size = 0 := by
  rw [length_sealBody]
  simp only [Block.size]
  omega

/-- The length of a sealed part of `n` plaintext bytes, under a key whose checksums are of
`kind`: the confounder, the length word and the plaintext, padded to whole blocks, and the
checksum. -/
def sealedLength (kind : ChecksumKind) (n : Nat) : Nat :=
  let body := confounderLength + 4 + n
  body + (Block.size - body % Block.size) % Block.size + kind.outputLength

/-- Sealing adds at most 39 bytes to a plaintext: the confounder and the length word, less than
a block of padding and a checksum of at most 20 bytes. -/
theorem sealedLength_le (kind : ChecksumKind) (n : Nat) : sealedLength kind n ≤ n + 39 := by
  have checksum := kind.outputLength_le
  simp only [sealedLength, confounderLength, Block.size]
  omega

/-- A sealed part is the encrypted body followed by the body's checksum. -/
theorem sealWith_eq_ok {kind : ChecksumKind} {confounder plain blob : Bytes} :
    sealWith cs key kind usage confounder plain = .ok blob ↔
      ∃ mac sealed, cs.checksum key kind usage (sealBody confounder plain) = .ok mac ∧
        cs.encrypt key CipherSuite.zeroVector (sealBody confounder plain) = .ok sealed ∧
        blob = sealed ++ mac := by
  unfold sealWith
  dsimp only
  cases summed : cs.checksum key kind usage (sealBody confounder plain) with
  | error e => simp [Except.mapError]
  | ok mac =>
    cases encrypted : cs.encrypt key CipherSuite.zeroVector (sealBody confounder plain) with
    | error e => simp [Except.mapError]
    | ok sealed =>
      simp only [Except.mapError, Except.ok_bind, pure, Except.pure, Except.ok.injEq,
        exists_and_left, exists_eq_left']
      exact eq_comm

/-- The pieces of a part as sealing puts them together: the key's checksum kind and a
confounder of eight bytes. -/
theorem sealPart_eq_ok {plain blob : Bytes} {r : RandomSource}
    (sealed : ((sealPart cs key usage plain).run.run r).1 = .ok blob) :
    ∃ kind confounder, checksumFor key = .ok kind ∧ confounder.length = confounderLength ∧
      sealWith cs key kind usage confounder plain = .ok blob := by
  unfold sealPart at sealed
  obtain ⟨kind, made, sealed⟩ := Rand.ofExcept_bind_eq_ok sealed
  -- the confounder was drawn, so the source granted the draw
  obtain ⟨-, sealed⟩ := drawBytes_bind_eq_ok sealed
  exact ⟨kind, _, Except.mapError_eq_ok.1 made, length_take_random _ _, sealed⟩

theorem length_of_sealPart {plain blob : Bytes} {r : RandomSource}
    (sealed : ((sealPart cs key usage plain).run.run r).1 = .ok blob) :
    ∃ kind, key.checksumKind? = some kind ∧ blob.length = sealedLength kind plain.length := by
  obtain ⟨kind, confounder, made, confounderSize, sealedWith⟩ := sealPart_eq_ok sealed
  obtain ⟨mac, enc, summed, encrypted, rfl⟩ := sealWith_eq_ok.1 sealedWith
  refine ⟨kind, checksumKind_of_checksumFor made, ?_⟩
  rw [List.length_append, CipherSuite.length_of_encrypt encrypted, CipherSuite.length_of_checksum summed,
    length_sealBody, confounderSize, sealedLength]

/-- Under a supported key, sealing from a source that does not fail succeeds and takes the
confounder's bytes from the source. -/
theorem sealPart_run (supported : key.Supported) (plain : Bytes) {r : RandomSource}
    (steady : r.failing = false) :
    ∃ blob, (sealPart cs key usage plain).run.run r =
      (.ok blob, (r.take confounderLength).2.spend) := by
  obtain ⟨kind, own, made⟩ := checksumFor_ok supported
  obtain ⟨mac, summed⟩ := @CipherSuite.checksum_ok cs key supported kind own usage
    (sealBody (r.take confounderLength).1 plain)
  obtain ⟨enc, encrypted⟩ := @CipherSuite.encrypt_ok cs key supported CipherSuite.zeroVector
    (sealBody (r.take confounderLength).1 plain) CipherSuite.length_zeroVector (sealBody_whole _ _)
  refine ⟨enc ++ mac, ?_⟩
  simp only [sealPart, made, Rand.run_bind, Rand.run_ofExcept, Rand.run_mapError,
    drawBytes_run_of_steady steady, Except.mapError]
  rw [sealWith_eq_ok.2 ⟨mac, enc, summed, encrypted, rfl⟩]

/-- Under a supported key, sealing from a source whose draws have run out fails with the
source's fault at the confounder's draw and leaves the source as it was. -/
theorem sealPart_of_refused (supported : key.Supported) (plain : Bytes) {r : RandomSource}
    (refused : r.failAfter = some 0) :
    (sealPart cs key usage plain).run.run r = (.error (.crypto (.rng "injected failure")), r) := by
  obtain ⟨kind, -, made⟩ := checksumFor_ok supported
  simp only [sealPart, made, Rand.run_bind, Rand.run_ofExcept, Rand.run_mapError, drawBytes_run,
    refused, Except.mapError, ↓reduceIte]

/-- Under a lawful cipher, a sealed part opens under the same key and usage to its plaintext. -/
theorem unsealPart_of_sealPart (lawful : cs.Lawful) {plain blob : Bytes} {r : RandomSource}
    (sealed : ((sealPart cs key usage plain).run.run r).1 = .ok blob) (few : plain.length < 2 ^ 32) :
    unsealPart cs key usage blob = .ok plain := by
  obtain ⟨kind, confounder, made, confounderSize, sealedWith⟩ := sealPart_eq_ok sealed
  obtain ⟨mac, enc, summed, encrypted, rfl⟩ := sealWith_eq_ok.1 sealedWith
  have encLength := CipherSuite.length_of_encrypt encrypted
  have macLength := CipherSuite.length_of_checksum summed
  have bodyLength := length_sealBody confounder plain
  have whole := sealBody_whole confounder plain
  have long : ¬ (enc ++ mac).length < kind.outputLength + 2 * Block.size := by
    simp only [List.length_append, encLength, macLength, bodyLength, confounderSize,
      confounderLength, Block.size] at whole ⊢
    omega
  have cut : (enc ++ mac).length - kind.outputLength = enc.length := by
    simp [macLength]
  have aligned : ¬ enc.length % Block.size ≠ 0 := by
    rw [encLength]
    exact not_not.2 whole
  have decrypted := CipherSuite.decrypt_of_encrypt lawful encrypted
  -- the body after the confounder is the length word, the plaintext and the padding
  have afterConfounder : (sealBody confounder plain).drop confounderLength =
      Bytes.u32be (UInt32.ofNat plain.length) ++ (plain ++ padding (confounder.length + 4 +
        plain.length)) := by
    simp [sealBody, List.drop_left' confounderSize, List.append_assoc, Nat.add_assoc]
  have lengthWord : (UInt32.ofNat plain.length).toNat = plain.length := UInt32.toNat_ofNat_of_lt' few
  simp only [unsealPart, made, Except.mapError, Except.ok_bind, long, if_false, cut,
    List.take_left' rfl, List.drop_left' rfl, aligned, decrypted, summed, Bytes.sameBytes_self,
    Bool.not_true, Bool.false_eq_true, afterConfounder, Reader.read, StateT.run_bind,
    Reader.u32_run, lengthWord]
  simp [Reader.take_run _ rfl, Except.map]

end Exchange

end GssApi
