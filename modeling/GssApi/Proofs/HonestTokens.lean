import GssApi.Krb5.PerMessage
import GssApi.Proofs.Cipher
import GssApi.Proofs.Effects

/-! What a receiver answers to the tokens its peer sends.

A wrap or integrity token of a sender is taken apart by the receiver in exactly the pieces the
sender put together: the frame, the header the sender's profile writes, the sequence block and
the checksum. Under a lawful cipher the receiver opens the sequence block to the sender's
sequence number and the direction marker of the sender's role, and recomputes the same
checksum. A receiver with the sender's key, facing the sender and established therefore
accepts an honest token exactly when the sender's sequence number is the one it expects
(`unwrapMessage_of_wrapMessage`, `verifyMicMessage_of_micMessage`), and then hands back the
message and counts one more token received. -/
namespace GssApi.Krb5

/-- The header a profile writes on the tokens of a kind. -/
def Profile.header (p : Profile) (tag : TokenTag) : MessageHeader := ⟨tag, p.sgnAlg, MessageHeader.sealNone⟩

namespace Profile

/-- A profile made for a key signs with one of the two known algorithms, for the checksum kind
of the key. -/
theorem forKey_eq_ok {key : SessionKey} {p : Profile} (made : forKey key = .ok p) :
    key.checksumKind? = some p.kind ∧ (p.sgnAlg = sgnDesMacMd5 ∨ p.sgnAlg = sgnHmacSha1Des3Kd) := by
  unfold forKey at made
  split at made <;> cases made
  · exact ⟨‹_›, .inl rfl⟩
  · exact ⟨‹_›, .inr rfl⟩

/-- A profile accepts the header it writes itself. -/
theorem check_header {key : SessionKey} {p : Profile} (made : forKey key = .ok p) (tag : TokenTag) :
    p.check (p.header tag) = .ok () := by
  have known := (forKey_eq_ok made).2
  simp [check, header, known]

end Profile

@[simp] theorem Role.length_marker (role : Role) : role.marker.length = 4 := by
  cases role <;> rfl

namespace Mechanism

variable {m : Mechanism}

/-- The message padded to whole blocks: the pad is one to eight bytes holding its length. -/
theorem pad_eq (message : Bytes) : ∃ n, 0 < n ∧ n ≤ Block.size ∧ (message.length + n) % Block.size = 0 ∧
    pad message = message ++ List.replicate n (UInt8.ofNat n) := by
  refine ⟨Block.size - message.length % Block.size, ?_, ?_, ?_, rfl⟩ <;>
    simp only [Block.size] <;> omega

/-- Signing reads the context only through its key. -/
theorem sign_congr {ctx ctx' : Context} (sameKey : ctx'.key = ctx.key) (p : Profile) (signed : Bytes) :
    m.sign ctx' p signed = m.sign ctx p signed := by
  simp [sign, sameKey]

theorem length_of_sign {ctx : Context} {p : Profile} {signed cksum : Bytes}
    (signedOk : m.sign ctx p signed = .ok cksum) : cksum.length = p.kind.outputLength := by
  cases summed : m.suite.checksum ctx.key p.kind usageSign signed with
  | error e => simp [sign, summed, Except.mapError] at signedOk
  | ok c =>
    simp only [sign, summed, Except.mapError, Except.ok.injEq] at signedOk
    exact signedOk ▸ CipherSuite.length_of_checksum summed

/-- Sealing a sequence block encrypts the sequence number and the sender's marker under the
first checksum block. -/
theorem sealSequence_eq_ok {ctx : Context} {cksum encSeq : Bytes}
    (sealed : m.sealSequence ctx cksum = .ok encSeq) :
    m.suite.encrypt ctx.key (cksum.take Block.size) (Bytes.u32le ctx.sendSeq ++ ctx.role.marker) =
      .ok encSeq := by
  unfold sealSequence at sealed
  cases encrypted : m.suite.encrypt ctx.key (cksum.take Block.size)
      (Bytes.u32le ctx.sendSeq ++ ctx.role.marker) with
  | error e => simp [encrypted, Except.mapError] at sealed
  | ok c => simpa [encrypted, Except.mapError] using sealed

theorem length_of_sealSequence {ctx : Context} {cksum encSeq : Bytes}
    (sealed : m.sealSequence ctx cksum = .ok encSeq) : encSeq.length = sequenceBlockLength := by
  rw [CipherSuite.length_of_encrypt (sealSequence_eq_ok sealed)]
  simp [sequenceBlockLength]

/-- Under a lawful cipher, a receiver with the sender's key that faces the sender opens a sealed
sequence block to the sender's sequence number. -/
theorem openSequence_of_sealSequence (lawful : m.suite.Lawful) {sender receiver : Context}
    {cksum encSeq : Bytes} (sealed : m.sealSequence sender cksum = .ok encSeq)
    (sameKey : receiver.key = sender.key) (facing : receiver.role.peer = sender.role) :
    m.openSequence receiver cksum encSeq = .ok sender.sendSeq := by
  have opened := CipherSuite.decrypt_of_encrypt lawful (sealSequence_eq_ok sealed)
  have marker : (Bytes.u32le sender.sendSeq ++ sender.role.marker).drop 4 = receiver.role.peer.marker := by
    rw [facing]
    exact List.drop_left' (Bytes.length_u32le _)
  have number : UInt32.ofNat (Bytes.leToNat (Bytes.u32le sender.sendSeq)) = sender.sendSeq := by
    rw [Bytes.leToNat_u32le, UInt32.ofNat_toNat]
  simp [openSequence, sameKey, opened, Except.mapError, bind, Except.bind, marker, number,
    sequenceBlockLength, pure, Except.pure]

/-- A checksum made with the sender's key verifies under the receiver's, when the keys agree. -/
theorem verifyChecksum_of_sign {sender receiver : Context} {p : Profile} {signed cksum : Bytes}
    (signedOk : m.sign sender p signed = .ok cksum) (sameKey : receiver.key = sender.key) :
    m.verifyChecksum receiver p signed cksum = .ok () := by
  simp [verifyChecksum, sign_congr sameKey, signedOk, bind, Except.bind, Bytes.sameBytes_self,
    pure, Except.pure]

/-- The pieces of a wrap token, as the sender puts them together. -/
theorem wrapMessage_eq_ok {ctx ctx' : Context} {message token : Bytes} {r : RandomSource}
    (sent : ((m.wrapMessage ctx message).run.run r).1 = .ok (token, ctx')) :
    ∃ p confounder cksum encSeq, Profile.forKey ctx.key = .ok p ∧
      confounder.length = wrapConfounderLength ∧
      m.sign ctx p ((p.header .wrap).encode ++ confounder ++ pad message) = .ok cksum ∧
      m.sealSequence ctx cksum = .ok encSeq ∧
      frame ((p.header .wrap).encode ++ encSeq ++ cksum ++ confounder ++ pad message) = .ok token ∧
      ctx' = { ctx with sendSeq := ctx.sendSeq + 1 } := by
  unfold wrapMessage at sent
  obtain ⟨p, made, sent⟩ := Rand.ofExcept_bind_eq_ok sent
  -- the token was made, so the source granted the confounder's draw
  obtain ⟨-, sent⟩ := drawBytes_bind_eq_ok sent
  rw [Rand.run_ofExcept] at sent
  obtain ⟨cksum, signed, sent⟩ := Except.bind_eq_ok.1 sent
  obtain ⟨encSeq, sealed, sent⟩ := Except.bind_eq_ok.1 sent
  obtain ⟨token', framed, finished⟩ := Except.map_eq_ok.1 sent
  cases finished
  exact ⟨p, _, cksum, encSeq, made, length_take_random _ _, by simpa [Profile.header] using signed,
    sealed, by simpa [Profile.header] using framed, rfl⟩

/-- The pieces of an integrity token, as the sender puts them together. -/
theorem micMessage_eq_ok {ctx ctx' : Context} {message token : Bytes}
    (sent : m.micMessage ctx message = .ok (token, ctx')) :
    ∃ p cksum encSeq, Profile.forKey ctx.key = .ok p ∧
      m.sign ctx p ((p.header .mic).encode ++ message) = .ok cksum ∧
      m.sealSequence ctx cksum = .ok encSeq ∧
      frame ((p.header .mic).encode ++ encSeq ++ cksum) = .ok token ∧
      ctx' = { ctx with sendSeq := ctx.sendSeq + 1 } := by
  unfold micMessage at sent
  obtain ⟨p, made, sent⟩ := Except.bind_eq_ok.1 sent
  obtain ⟨cksum, signed, sent⟩ := Except.bind_eq_ok.1 sent
  obtain ⟨encSeq, sealed, sent⟩ := Except.bind_eq_ok.1 sent
  obtain ⟨token', framed, finished⟩ := Except.bind_eq_ok.1 sent
  cases finished
  exact ⟨p, cksum, encSeq, made, signed, sealed, framed, rfl⟩

theorem encapsulate_of_frame {inner token : Bytes} (framed : frame inner = .ok token) :
    Codec.encapsulate Oid.krb5 inner = .ok token := by
  simpa [frame] using framed

/-- A received token splits at the lengths of the header, the sequence block and the checksum. -/
theorem splitToken_append (p : Profile) (header : Bytes) {encSeq cksum : Bytes} (rest : Bytes)
    (headerLength : header.length = MessageHeader.encodedLength)
    (seqLength : encSeq.length = sequenceBlockLength) (cksumLength : cksum.length = p.kind.outputLength) :
    splitToken (header ++ encSeq ++ cksum ++ rest) p = .ok ⟨header, encSeq, cksum, rest⟩ := by
  have long : ¬ (header ++ (encSeq ++ (cksum ++ rest))).length <
      MessageHeader.encodedLength + sequenceBlockLength + p.kind.outputLength := by
    simp only [List.length_append]; omega
  simp only [splitToken, List.append_assoc, long, if_false, List.take_left' headerLength,
    List.drop_left' headerLength, List.take_left' seqLength, List.drop_left' seqLength,
    List.take_left' cksumLength, List.drop_left' cksumLength]

/-- The answer to a sequence number: accepted when it is the expected one, else a bad signature
that says how it relates to the expected one. -/
theorem checkSequence_eq (ctx : Context) (seq : UInt32) :
    checkSequence ctx seq = if seq = ctx.recvSeq then .ok ()
      else .error (.badMic (sequenceClass ctx.recvSeq seq ++ " token") 0) := by
  by_cases same : seq = ctx.recvSeq <;> simp [checkSequence, same]

/-- The checks on a wrap token's padding pass on a padded message and give the message back. -/
theorem unpad (message : Bytes) {n : Nat} (positive : 0 < n) (few : n ≤ Block.size) :
    let padded := message ++ List.replicate n (UInt8.ofNat n)
    (padded.getLastD 0).toNat = n ∧ padded.length - n = message.length ∧
      (padded.drop (padded.length - n)).any (·.toNat ≠ n) = false ∧
      padded.take (padded.length - n) = message := by
  simp only [Block.size] at few
  obtain ⟨k, rfl⟩ : ∃ k, n = k + 1 := ⟨n - 1, by omega⟩
  simp [List.getLastD_eq_getLast?, List.getLast?_append, List.replicate_succ', List.drop_left',
    List.any_replicate]
  omega

variable {sender receiver : Context}

/-- A receiver with the sender's key, facing the sender and established, takes an honest wrap
token apart up to the sequence check: it accepts the token exactly when the sender's sequence
number is the one it expects, then hands back the message and expects the next number. -/
theorem unwrapMessage_of_wrapMessage (lawful : m.suite.Lawful) {sender' : Context}
    {message token : Bytes} {r : RandomSource}
    (sent : ((m.wrapMessage sender message).run.run r).1 = .ok (token, sender'))
    (sameKey : receiver.key = sender.key) (facing : receiver.role.peer = sender.role)
    (established : receiver.phase = .established) :
    m.unwrapMessage receiver token =
      if sender.sendSeq = receiver.recvSeq then
        .ok (message, { receiver with recvSeq := receiver.recvSeq + 1 })
      else .error (.badMic (sequenceClass receiver.recvSeq sender.sendSeq ++ " token") 0) := by
  obtain ⟨p, confounder, cksum, encSeq, made, confounderLength, signed, sealed, framed, -⟩ :=
    wrapMessage_eq_ok sent
  obtain ⟨n, positive, few, whole, padded⟩ := pad_eq message
  obtain ⟨lastByte, dataLength, padOk, data⟩ := unpad message positive few
  rw [padded] at signed framed
  have unframed := Codec.decapsulateFor_of_encapsulate (encapsulate_of_frame framed)
  have parsed : MessageHeader.parse ((p.header .wrap).encode ++
      (encSeq ++ cksum ++ confounder ++ (message ++ List.replicate n (UInt8.ofNat n)))) .wrap =
      .ok (p.header .wrap) :=
    MessageHeader.parse_encode_append _ _
  have split := splitToken_append p (p.header .wrap).encode
    (confounder ++ (message ++ List.replicate n (UInt8.ofNat n)))
    (MessageHeader.length_encode _) (length_of_sealSequence sealed) (length_of_sign signed)
  have opened := openSequence_of_sealSequence lawful sealed sameKey facing
  have verified := verifyChecksum_of_sign signed sameKey
  have bodyLength : ¬ ((confounder ++ (message ++ List.replicate n (UInt8.ofNat n))).length <
      wrapConfounderLength + Block.size ∨
      (confounder ++ (message ++ List.replicate n (UInt8.ofNat n))).length % Block.size ≠ 0) := by
    simp only [List.length_append, List.length_replicate, wrapConfounderLength, Block.size] at *
    omega
  have padLength : ¬ (n = 0 ∨ n > Block.size ∨ n > (message ++ List.replicate n (UInt8.ofNat n)).length) := by
    simp only [List.length_append, List.length_replicate]; omega
  have ready : receiver.isEstablished = true := by simp [Context.isEstablished, established]
  simp only [List.append_assoc] at unframed parsed split
  simp only [unwrapMessage, ready, Bool.not_true, Bool.false_eq_true, if_false, bind, Except.bind, unframed, Except.mapError, parsed, sameKey, made,
    Profile.check_header made, split, bodyLength, List.take_left' confounderLength,
    List.drop_left' confounderLength, opened, lastByte, padLength, padOk, verified, checkSequence_eq,
    pure, Except.pure, data]
  by_cases same : sender.sendSeq = receiver.recvSeq <;> simp [same]

/-- A receiver with the sender's key, facing the sender and established, accepts an honest
integrity token of a message exactly when the sender's sequence number is the one it expects,
and then expects the next number. -/
theorem verifyMicMessage_of_micMessage (lawful : m.suite.Lawful) {sender' : Context}
    {message token : Bytes} (sent : m.micMessage sender message = .ok (token, sender'))
    (sameKey : receiver.key = sender.key) (facing : receiver.role.peer = sender.role)
    (established : receiver.phase = .established) :
    m.verifyMicMessage receiver message token =
      if sender.sendSeq = receiver.recvSeq then
        .ok { receiver with recvSeq := receiver.recvSeq + 1 }
      else .error (.badMic (sequenceClass receiver.recvSeq sender.sendSeq ++ " token") 0) := by
  obtain ⟨p, cksum, encSeq, made, signed, sealed, framed, -⟩ := micMessage_eq_ok sent
  have unframed := Codec.decapsulateFor_of_encapsulate (encapsulate_of_frame framed)
  have parsed : MessageHeader.parse ((p.header .mic).encode ++ (encSeq ++ cksum)) .mic =
      .ok (p.header .mic) :=
    MessageHeader.parse_encode_append _ _
  have split := splitToken_append p (p.header .mic).encode []
    (MessageHeader.length_encode _) (length_of_sealSequence sealed) (length_of_sign signed)
  have opened := openSequence_of_sealSequence lawful sealed sameKey facing
  have verified := verifyChecksum_of_sign signed sameKey
  have ready : receiver.isEstablished = true := by simp [Context.isEstablished, established]
  simp only [List.append_assoc, List.append_nil] at unframed split
  simp only [verifyMicMessage, ready, Bool.not_true, Bool.false_eq_true, if_false, bind, Except.bind,
    unframed, Except.mapError, parsed, sameKey, made, Profile.check_header made, split,
    List.isEmpty_nil, Bool.not_true, opened, verified, checkSequence_eq, pure, Except.pure]
  by_cases same : sender.sendSeq = receiver.recvSeq <;> simp [same]

/-- What a successful unwrap went through: an established context, a token that unframes to
an inner token that the key's profile splits, and a checksum over the header and the body (the
confounder and the padded message) that verifies. The context then moves on by one. -/
theorem unwrapMessage_steps {ctx ctx' : Context} {token message : Bytes}
    (received : m.unwrapMessage ctx token = .ok (message, ctx')) :
    ctx.phase = .established ∧ ctx' = { ctx with recvSeq := ctx.recvSeq + 1 } ∧
      ∃ inner p parts, Codec.decapsulateFor token Oid.krb5 = .ok inner ∧
        Profile.forKey ctx.key = .ok p ∧ splitToken inner p = .ok parts ∧
        m.verifyChecksum ctx p (parts.header ++ parts.rest) parts.cksum = .ok () := by
  unfold unwrapMessage at received
  dsimp only at received
  split at received
  · cases received
  rename_i ready
  obtain ⟨inner, unframed, received⟩ := Except.bind_eq_ok.1 received
  obtain ⟨header, -, received⟩ := Except.bind_eq_ok.1 received
  obtain ⟨p, made, received⟩ := Except.bind_eq_ok.1 received
  obtain ⟨-, -, received⟩ := Except.bind_eq_ok.1 received
  obtain ⟨parts, split, received⟩ := Except.bind_eq_ok.1 received
  split at received
  · cases received
  obtain ⟨seq, -, received⟩ := Except.bind_eq_ok.1 received
  split at received
  · cases received
  split at received
  · cases received
  obtain ⟨_, verified, received⟩ := Except.bind_eq_ok.1 received
  obtain ⟨-, -, received⟩ := Except.bind_eq_ok.1 received
  cases received
  -- the confounder and the padded message are the body cut in two
  rw [List.append_assoc, List.take_append_drop] at verified
  exact ⟨by simpa [Context.isEstablished] using ready, rfl,
    inner, p, parts, Except.mapError_eq_ok.1 unframed, made, split, verified⟩

/-- A successful unwrap needs an established context and changes nothing but the next sequence
number expected, which moves on by one. -/
theorem unwrapMessage_eq_ok {ctx ctx' : Context} {token message : Bytes}
    (received : m.unwrapMessage ctx token = .ok (message, ctx')) :
    ctx.phase = .established ∧ ctx' = { ctx with recvSeq := ctx.recvSeq + 1 } := by
  obtain ⟨established, moved, -⟩ := unwrapMessage_steps received
  exact ⟨established, moved⟩

/-- What a successful integrity check went through: an established context, a token that
unframes to an inner token that the key's profile splits with nothing after the checksum, and
a checksum over the header and the message that verifies. The context then moves on by one. -/
theorem verifyMicMessage_steps {ctx ctx' : Context} {message token : Bytes}
    (received : m.verifyMicMessage ctx message token = .ok ctx') :
    ctx.phase = .established ∧ ctx' = { ctx with recvSeq := ctx.recvSeq + 1 } ∧
      ∃ inner p parts, Codec.decapsulateFor token Oid.krb5 = .ok inner ∧
        Profile.forKey ctx.key = .ok p ∧ splitToken inner p = .ok parts ∧ parts.rest = [] ∧
        m.verifyChecksum ctx p (parts.header ++ message) parts.cksum = .ok () := by
  unfold verifyMicMessage at received
  dsimp only at received
  split at received
  · cases received
  rename_i ready
  obtain ⟨inner, unframed, received⟩ := Except.bind_eq_ok.1 received
  obtain ⟨header, -, received⟩ := Except.bind_eq_ok.1 received
  obtain ⟨p, made, received⟩ := Except.bind_eq_ok.1 received
  obtain ⟨-, -, received⟩ := Except.bind_eq_ok.1 received
  obtain ⟨parts, split, received⟩ := Except.bind_eq_ok.1 received
  split at received
  · cases received
  rename_i nothingMore
  obtain ⟨seq, -, received⟩ := Except.bind_eq_ok.1 received
  obtain ⟨_, verified, received⟩ := Except.bind_eq_ok.1 received
  obtain ⟨-, -, received⟩ := Except.bind_eq_ok.1 received
  cases received
  exact ⟨by simpa [Context.isEstablished] using ready, rfl, inner, p, parts,
    Except.mapError_eq_ok.1 unframed, made, split, by simpa using nothingMore, verified⟩

/-- A successful integrity check needs an established context and changes nothing but the next
sequence number expected, which moves on by one. -/
theorem verifyMicMessage_eq_ok {ctx ctx' : Context} {message token : Bytes}
    (received : m.verifyMicMessage ctx message token = .ok ctx') :
    ctx.phase = .established ∧ ctx' = { ctx with recvSeq := ctx.recvSeq + 1 } := by
  obtain ⟨established, moved, -⟩ := verifyMicMessage_steps received
  exact ⟨established, moved⟩

end Mechanism

end GssApi.Krb5
