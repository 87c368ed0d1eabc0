import GssApi.Proofs.Tampering

/-! Checksum comparisons accept only the recomputed checksum.

Every integrity check of the ticket mechanism recomputes a checksum and compares it with the
one a token or a sealed part carries, through `Bytes.sameBytes`. That comparison looks at every
byte of equally long strings, and it answers exactly whether the strings are equal: a carried
checksum that is shorter or longer than the recomputed one, or differs in any byte, is refused.
So a per-message token that unwraps or verifies carries the checksum of its header and its body
(or the message), and a sealed part opens exactly when its trailing checksum is the checksum of
its decrypted body. -/
namespace GssApi

namespace Krb5

/-- A split token is the header, the sequence block, a checksum of the profile's length and
whatever follows, in that order. -/
theorem splitToken_eq_ok {inner : Bytes} {p : Profile} {parts : Received}
    (split : splitToken inner p = .ok parts) :
    16 + p.kind.outputLength ≤ inner.length ∧ parts.header = inner.take 8 ∧
      parts.cksum = (inner.drop 16).take p.kind.outputLength ∧
      parts.rest = inner.drop (16 + p.kind.outputLength) := by
  unfold splitToken at split
  dsimp only at split
  split at split
  · cases split
  · rename_i long
    cases split
    simp only [MessageHeader.encodedLength, sequenceBlockLength, List.drop_drop, and_true] at long ⊢
    omega

namespace Mechanism

variable {m : Mechanism} {ctx : Context}

/-- The per-message comparison passes exactly on the checksum the receiver recomputes. -/
theorem verifyChecksum_eq_ok_iff {p : Profile} {signed cksum : Bytes} :
    m.verifyChecksum ctx p signed cksum = .ok () ↔ m.sign ctx p signed = .ok cksum :=
  ⟨sign_of_verifyChecksum, fun signedOk => verifyChecksum_of_sign signedOk rfl⟩

/-- A token that unwraps carries, after its header and sequence block, the checksum of its
header and its body (confounder and padded message). -/
theorem sign_of_unwrapMessage {ctx' : Context} {token message : Bytes}
    (received : m.unwrapMessage ctx token = .ok (message, ctx')) :
    ∃ p inner, Codec.decapsulateFor token Oid.krb5 = .ok inner ∧ Profile.forKey ctx.key = .ok p ∧
      16 + p.kind.outputLength ≤ inner.length ∧
      m.sign ctx p (inner.take 8 ++ inner.drop (16 + p.kind.outputLength)) =
        .ok ((inner.drop 16).take p.kind.outputLength) := by
  obtain ⟨-, -, inner, p, parts, unframed, made, split, verified⟩ := unwrapMessage_steps received
  obtain ⟨long, header, cksum, rest⟩ := splitToken_eq_ok split
  have signed := sign_of_verifyChecksum verified
  rw [header, cksum, rest] at signed
  exact ⟨p, inner, unframed, made, long, signed⟩

/-- A token that verifies a message is its header, its sequence block and the checksum of its
header and the message, and nothing more. -/
theorem sign_of_verifyMicMessage {ctx' : Context} {message token : Bytes}
    (received : m.verifyMicMessage ctx message token = .ok ctx') :
    ∃ p inner, Codec.decapsulateFor token Oid.krb5 = .ok inner ∧ Profile.forKey ctx.key = .ok p ∧
      inner.length = 16 + p.kind.outputLength ∧
      m.sign ctx p (inner.take 8 ++ message) = .ok (inner.drop 16) := by
  obtain ⟨-, -, inner, p, parts, unframed, made, split, empty, verified⟩ :=
    verifyMicMessage_steps received
  obtain ⟨long, header, cksum, rest⟩ := splitToken_eq_ok split
  -- nothing follows the checksum, so the checksum runs to the end of the inner token
  have exact : inner.length = 16 + p.kind.outputLength := by
    rw [rest, List.drop_eq_nil_iff] at empty
    omega
  have whole : (inner.drop 16).take p.kind.outputLength = inner.drop 16 :=
    List.take_of_length_le (by simp only [List.length_drop]; omega)
  have signed := sign_of_verifyChecksum verified
  rw [header, cksum, whole] at signed
  exact ⟨p, inner, unframed, made, exact, signed⟩

end Mechanism

end Krb5

namespace Exchange

variable {cs : CipherSuite} {key : SessionKey} {usage : UInt32}

/-- A sealed part opens exactly when it has room for its checksum and two blocks, its
ciphertext is whole blocks and decrypts, its trailing checksum is the checksum of the decrypted
body, and the body after the confounder holds the plaintext with its length word. -/
theorem unsealPart_eq_ok_iff {sealed plain : Bytes} :
    unsealPart cs key usage sealed = .ok plain ↔
      ∃ kind body, checksumFor key = .ok kind ∧
        kind.outputLength + 2 * Block.size ≤ sealed.length ∧
        (sealed.length - kind.outputLength) % Block.size = 0 ∧
        cs.decrypt key CipherSuite.zeroVector (sealed.take (sealed.length - kind.outputLength)) =
          .ok body ∧
        cs.checksum key kind usage body = .ok (sealed.drop (sealed.length - kind.outputLength)) ∧
        (do Reader.take (← Reader.u32).toNat).read (body.drop confounderLength) = .ok plain := by
  constructor
  · intro opened
    unfold unsealPart at opened
    obtain ⟨kind, made, opened⟩ := Except.bind_eq_ok.1 opened
    dsimp only at opened
    split at opened
    · cases opened
    rename_i room
    split at opened
    · cases opened
    rename_i aligned
    obtain ⟨body, decrypted, opened⟩ := Except.bind_eq_ok.1 opened
    obtain ⟨expected, summed, opened⟩ := Except.bind_eq_ok.1 opened
    split at opened
    · cases opened
    rename_i same
    -- the comparison passed, so the carried checksum is the recomputed one
    have equal : expected = sealed.drop (sealed.length - kind.outputLength) :=
      Bytes.sameBytes_eq_true.mp (by simpa using same)
    refine ⟨kind, body, Except.mapError_eq_ok.1 made, by omega, ?_,
      Except.mapError_eq_ok.1 decrypted, equal ▸ Except.mapError_eq_ok.1 summed, opened⟩
    simpa [List.length_take] using aligned
  · rintro ⟨kind, body, made, room, aligned, decrypted, summed, read⟩
    have cut : (sealed.take (sealed.length - kind.outputLength)).length =
        sealed.length - kind.outputLength := List.length_take_of_le (Nat.sub_le _ _)
    simp only [unsealPart, made, Except.mapError, Except.ok_bind, show
      ¬ sealed.length < kind.outputLength + 2 * Block.size by omega, if_false, cut, aligned,
      ne_eq, not_true_eq_false, decrypted, summed, Bytes.sameBytes_self, Bool.not_true,
      Bool.false_eq_true]
    exact read

end Exchange

/-- Every checksum comparison accepts only the checksum it recomputes. The comparison
`sameBytes` answers true exactly on byte strings of equal length that agree at every position.
The per-message check passes exactly on the recomputed checksum and refuses any other as a bad
signature. So a token that unwraps carries the checksum of its header and its body, and a token
that verifies a message carries the checksum of its header and the message. A sealed part of
the authentication exchange opens exactly when, besides its length, alignment and plaintext
checks, its trailing checksum is the checksum of its decrypted body. -/
theorem checksum_checks_accept_only_the_recomputed :
    (∀ a b : Bytes, Bytes.sameBytes a b = true ↔
      a.length = b.length ∧ ∀ i (inA : i < a.length) (inB : i < b.length), a[i] = b[i]) ∧
    (∀ (m : Krb5.Mechanism) (ctx : Krb5.Context) (p : Krb5.Profile) (signed cksum : Bytes),
      (m.verifyChecksum ctx p signed cksum = .ok () ↔ m.sign ctx p signed = .ok cksum) ∧
      ∀ expected, m.sign ctx p signed = .ok expected → expected ≠ cksum →
        m.verifyChecksum ctx p signed cksum = .error (.badMic "checksum mismatch" 0)) ∧
    (∀ (m : Krb5.Mechanism) (ctx ctx' : Krb5.Context) (token message : Bytes),
      m.unwrapMessage ctx token = .ok (message, ctx') →
      ∃ p inner, Codec.decapsulateFor token Oid.krb5 = .ok inner ∧
        Krb5.Profile.forKey ctx.key = .ok p ∧ 16 + p.kind.outputLength ≤ inner.length ∧
        m.sign ctx p (inner.take 8 ++ inner.drop (16 + p.kind.outputLength)) =
          .ok ((inner.drop 16).take p.kind.outputLength)) ∧
    (∀ (m : Krb5.Mechanism) (ctx ctx' : Krb5.Context) (message token : Bytes),
      m.verifyMicMessage ctx message token = .ok ctx' →
      ∃ p inner, Codec.decapsulateFor token Oid.krb5 = .ok inner ∧
        Krb5.Profile.forKey ctx.key = .ok p ∧ inner.length = 16 + p.kind.outputLength ∧
        m.sign ctx p (inner.take 8 ++ message) = .ok (inner.drop 16)) ∧
    (∀ (cs : CipherSuite) (key : SessionKey) (usage : UInt32) (sealed plain : Bytes),
      Exchange.unsealPart cs key usage sealed = .ok plain ↔
        ∃ kind body, Exchange.checksumFor key = .ok kind ∧
          kind.outputLength + 2 * Block.size ≤ sealed.length ∧
          (sealed.length - kind.outputLength) % Block.size = 0 ∧
          cs.decrypt key CipherSuite.zeroVector (sealed.take (sealed.length - kind.outputLength)) =
            .ok body ∧
          cs.checksum key kind usage body = .ok (sealed.drop (sealed.length - kind.outputLength)) ∧
          (do Exchange.Reader.take (← Exchange.Reader.u32).toNat).read
            (body.drop Exchange.confounderLength) = .ok plain) :=
  ⟨fun _ _ => Bytes.sameBytes_eq_true.trans List.ext_getElem_iff,
    fun _ _ _ _ _ => ⟨Krb5.Mechanism.verifyChecksum_eq_ok_iff, fun _ => Krb5.Mechanism.verifyChecksum_of_ne⟩,
    fun _ _ _ _ _ => Krb5.Mechanism.sign_of_unwrapMessage,
    fun _ _ _ _ _ => Krb5.Mechanism.sign_of_verifyMicMessage,
    fun _ _ _ _ _ => Exchange.unsealPart_eq_ok_iff⟩

end GssApi
