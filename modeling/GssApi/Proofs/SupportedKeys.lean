import GssApi.Proofs.Lifetimes
import GssApi.Proofs.ReceiveBounds
import GssApi.Proofs.WrapperCodec

/-! Every context of the ticket mechanism holds a key the ciphers accept.

A context is made only by a first step that sealed or unsealed a part under the session key it
keeps, and sealing and unsealing succeed only under a supported key: a single-DES key of eight
bytes or a triple-DES key of twenty-four. No later call changes the key. So every context a
run of the mechanism reaches (`Mechanism.Reaches`) holds such a key (`supported_of_reaches`),
and the failures that only an unsupported key causes are out of reach of the per-message calls:

* the key has a signing profile, so every keyed checksum and every sequence block under it
  is made;
* wrapping fails only when the random source refuses its draw, or when the framed token's
  content would take `2 ^ 32` bytes or more (`wrapContentLength`);
* making an integrity token always succeeds;
* unwrapping and verifying never fail with a fault of the cryptographic layer.

Main statement: `per_message_key_faults_unreachable`. -/
namespace GssApi

/-- The supported keys are exactly the single-DES keys of eight bytes and the triple-DES keys of
twenty-four. -/
theorem SessionKey.supported_iff (key : SessionKey) :
    key.Supported ↔
      (key.encType = .desCbcCrc ∨ key.encType = .desCbcMd4 ∨ key.encType = .desCbcMd5) ∧
          key.bytes.length = 8 ∨
        key.encType = .des3CbcSha1Kd ∧ key.bytes.length = 24 := by
  rcases key with ⟨e, bytes⟩
  cases e <;> simp [SessionKey.Supported, EncType.family?, CipherSuite.keyLength]

namespace CipherSuite

variable {cs : CipherSuite} {key : SessionKey} {iv data : Bytes}

/-- Only a supported key is given a keyed permutation. -/
theorem supported_of_keyed {p : Permutation} (keyedOk : cs.keyed key iv data = .ok p) :
    key.Supported := by
  obtain ⟨-, f, family, sized, -⟩ := keyed_eq_ok keyedOk
  exact ⟨f, family, sized⟩

theorem supported_of_encrypt {sealed : Bytes} (encrypted : cs.encrypt key iv data = .ok sealed) :
    key.Supported := by
  cases keyedOk : cs.keyed key iv data with
  | error e => simp [encrypt, keyedOk, Except.map] at encrypted
  | ok p => exact supported_of_keyed keyedOk

theorem supported_of_decrypt {body : Bytes} (decrypted : cs.decrypt key iv data = .ok body) :
    key.Supported := by
  cases keyedOk : cs.keyed key iv data with
  | error e => simp [decrypt, keyedOk, Except.map] at decrypted
  | ok p => exact supported_of_keyed keyedOk

/-- Whole blocks decrypt under a supported key and an eight-byte vector. -/
theorem decrypt_ok (supported : key.Supported) (vector : iv.length = Block.size)
    (whole : data.length % Block.size = 0) : ∃ body, cs.decrypt key iv data = .ok body := by
  obtain ⟨f, family, sized⟩ := supported
  have checks : ¬ (key.bytes.length ≠ keyLength f ∨ iv.length ≠ Block.size) := by
    simp [sized, vector]
  exact ⟨((cs.cipher f).keyed key.bytes).cbcDecrypt iv data,
    by simp [decrypt, keyed, whole, family, checks, Except.map]⟩

end CipherSuite

namespace Exchange

variable {cs : CipherSuite} {key : SessionKey} {usage : UInt32}

/-- A part is sealed only under a supported key. -/
theorem supported_of_sealPart {plain blob : Bytes} {r : RandomSource}
    (sealed : ((sealPart cs key usage plain).run.run r).1 = .ok blob) : key.Supported := by
  obtain ⟨kind, confounder, -, -, sealedWith⟩ := sealPart_eq_ok sealed
  obtain ⟨-, enc, -, encrypted, -⟩ := sealWith_eq_ok.1 sealedWith
  exact CipherSuite.supported_of_encrypt encrypted

/-- A part is unsealed only under a supported key. -/
theorem supported_of_unsealPart {sealed plain : Bytes}
    (opened : unsealPart cs key usage sealed = .ok plain) : key.Supported := by
  unfold unsealPart at opened
  obtain ⟨kind, -, opened⟩ := Except.bind_eq_ok.1 opened
  dsimp only at opened
  -- the two length checks throw; past them the body is decrypted under the key
  split at opened
  · cases opened
  split at opened
  · cases opened
  obtain ⟨body, decrypted, -⟩ := Except.bind_eq_ok.1 opened
  exact CipherSuite.supported_of_decrypt (Except.mapError_eq_ok.1 decrypted)

/-- A request is read only when its authenticator opened under the ticket's session key, so
that key is supported. -/
theorem supported_of_readRequest {serviceKey : SessionKey} {body : Bytes} {request : Request}
    (read : readRequest cs serviceKey body = .ok request) : request.ticket.sessionKey.Supported := by
  unfold readRequest at read
  obtain ⟨⟨options, blob, sealed⟩, -, read⟩ := Except.bind_eq_ok.1 read
  obtain ⟨ticket, -, read⟩ := Except.bind_eq_ok.1 read
  obtain ⟨plain, opened, read⟩ := Except.bind_eq_ok.1 read
  obtain ⟨authenticator, -, read⟩ := Except.bind_eq_ok.1 read
  cases read
  exact supported_of_unsealPart opened

end Exchange

namespace Krb5.Mechanism

variable {m : Mechanism} {ctx : Context}

/-- An initiator's context holds the key its request was sealed under, so a supported one. -/
theorem supported_of_initiate {env : Environment} {req : InitRequest} {r : RandomSource}
    {out : StepOutput} (ran : ((m.initiate env req).run.run r).1 = .ok (ctx, out)) :
    ctx.key.Supported := by
  obtain ⟨-, ticket, -, -, -, -, ⟨_, _, _, built, -⟩, key, -⟩ := initiate_answer ran
  obtain ⟨_, _, -, sealed, -⟩ := Exchange.buildRequest_eq_ok built
  rw [key]
  exact Exchange.supported_of_sealPart sealed

/-- An acceptor's context holds the key the authenticator opened under, so a supported one. -/
theorem supported_of_acceptRequest {env : Environment} {req : AcceptRequest} {r : RandomSource}
    {out : StepOutput} (ran : ((m.acceptRequest env req).run.run r).1 = .ok (ctx, out)) :
    ctx.key.Supported := by
  obtain ⟨acceptor, request, -, checked, rfl, -⟩ := acceptRequest_answer ran
  obtain ⟨-, -, ⟨_, -, read⟩, -⟩ := checkRequest_eq_ok checked
  exact Exchange.supported_of_readRequest read

end Krb5.Mechanism

/-! ### Reachable states -/

namespace Mechanism

/-- The states a mechanism reaches from the unbound state by successful calls. -/
inductive Reaches (mech : Mechanism) : MechState → Prop
  | unbound : Reaches mech .unbound
  | moves {c : FacadeCall} {st st' : MechState} : Reaches mech st → mech.Moves c st st' →
      Reaches mech st'

/-- From the unbound state, the ticket mechanism makes a context only by the first step of an
initiator or of an acceptor. -/
theorem moves_unbound_krb5 {m : Krb5.Mechanism} {c : FacadeCall} {ctx : Krb5.Context}
    (moves : (Mechanism.krb5 m).Moves c .unbound (.krb5 ctx)) :
    (∃ env req r out, ((m.initiate env req).run.run r).1 = .ok (ctx, out)) ∨
      ∃ env req r out, ((m.acceptRequest env req).run.run r).1 = .ok (ctx, out) := by
  cases moves with
  | init ran =>
    obtain ⟨ctx', same, initiated⟩ := Krb5.Mechanism.init_unbound_eq_ok ran
    cases same
    exact .inl ⟨_, _, _, _, initiated⟩
  | accept ran =>
    obtain ⟨ctx', same, accepted⟩ := Krb5.Mechanism.accept_unbound_eq_ok ran
    cases same
    exact .inr ⟨_, _, _, _, accepted⟩
  -- the per-message calls need a context to start from
  | wrap ran =>
    obtain ⟨_, _, _, unbound, -⟩ := Krb5.Mechanism.wrap_eq_ok ran
    cases unbound
  | unwrap ran =>
    obtain ⟨_, _, _, unbound, -⟩ := Krb5.Mechanism.unwrap_eq_ok ran
    cases unbound
  | getMic ran =>
    obtain ⟨_, _, unbound, -⟩ := Krb5.Mechanism.getMic_eq_ok ran
    cases unbound
  | verifyMic ran =>
    obtain ⟨_, _, unbound, -⟩ := Krb5.Mechanism.verifyMic_eq_ok ran
    cases unbound

/-- Every call of the ticket mechanism keeps its contexts on supported keys: a new context
takes the key of the request sent or accepted, and a call on a context keeps its key. -/
theorem supported_of_moves {m : Krb5.Mechanism} {c : FacadeCall} {st st' : MechState}
    (moves : (Mechanism.krb5 m).Moves c st st')
    (held : ∀ ctx, st = .krb5 ctx → ctx.key.Supported) :
    ∀ ctx', st' = .krb5 ctx' → ctx'.key.Supported := by
  rintro ctx' rfl
  rcases moves_krb5 moves with ⟨rfl, -⟩ | ⟨ctx, _, rfl, same, evolves⟩
  · rcases moves_unbound_krb5 moves with ⟨_, _, _, _, initiated⟩ | ⟨_, _, _, _, accepted⟩
    · exact Krb5.Mechanism.supported_of_initiate initiated
    · exact Krb5.Mechanism.supported_of_acceptRequest accepted
  · cases same
    rw [evolves.keeps.2.1]
    exact held ctx rfl

/-- Every context the ticket mechanism reaches holds a supported key. -/
theorem supported_of_reaches {m : Krb5.Mechanism} {st : MechState}
    (reached : (Mechanism.krb5 m).Reaches st) : ∀ ctx, st = .krb5 ctx → ctx.key.Supported := by
  induction reached with
  | unbound => exact fun _ unbound => by cases unbound
  | moves _ moves held => exact supported_of_moves moves held

end Mechanism

/-! ### Results that are no fault of the cryptographic layer -/

/-- A result that is no fault of the cryptographic layer: a success, or a failure of another
kind. -/
def NoCryptoFault {α : Type} (x : Except GssError α) : Prop := ∀ fault, x ≠ .error (.crypto fault)

namespace NoCryptoFault

variable {α β : Type}

theorem ok (a : α) : NoCryptoFault (.ok a : Except GssError α) := fun _ same => by cases same

theorem error {e : GssError} (other : ∀ fault, e ≠ .crypto fault) :
    NoCryptoFault (.error e : Except GssError α) :=
  fun fault same => other fault (Except.error.inj same)

theorem bind {x : Except GssError α} {f : α → Except GssError β} (first : NoCryptoFault x)
    (rest : ∀ a, x = .ok a → NoCryptoFault (f a)) : NoCryptoFault (x >>= f) := by
  intro fault failed
  cases x with
  | error e => exact first fault (congrArg Except.error (Except.error.inj failed))
  | ok a => exact rest a rfl fault failed

theorem throw_bind {e : GssError} (other : ∀ fault, e ≠ .crypto fault) (f : α → Except GssError β) :
    NoCryptoFault (throw e >>= f) :=
  error other

theorem mapError {ε : Type} {f : ε → GssError} (other : ∀ e fault, f e ≠ .crypto fault)
    (x : Except ε α) : NoCryptoFault (x.mapError f) := by
  cases x with
  | error e => exact error (other e)
  | ok a => exact ok a

end NoCryptoFault

namespace Krb5

open NoCryptoFault

theorem headerError_ne_crypto (e : CodecError) (fault : CryptoError) : headerError e ≠ .crypto fault := by
  unfold headerError
  split <;> exact fun same => GssError.noConfusion same

theorem Profile.noCryptoFault_forKey (key : SessionKey) : NoCryptoFault (Profile.forKey key) := by
  unfold Profile.forKey
  split
  · exact .ok _
  · exact .ok _
  · exact .error fun _ same => GssError.noConfusion same

theorem Profile.noCryptoFault_check (p : Profile) (h : MessageHeader) : NoCryptoFault (p.check h) := by
  unfold Profile.check
  split
  · exact .error fun _ same => GssError.noConfusion same
  split
  · split
    · exact .ok ()
    · exact .error fun _ same => GssError.noConfusion same
  · exact .error fun _ same => GssError.noConfusion same

/-- A supported key has a signing profile. -/
theorem Profile.forKey_ok {key : SessionKey} (supported : key.Supported) :
    ∃ p, Profile.forKey key = .ok p := by
  obtain ⟨f, family, -⟩ := supported
  cases f <;> simp [forKey, SessionKey.checksumKind?, EncType.checksumKind?, family]

theorem noCryptoFault_splitToken (inner : Bytes) (p : Profile) : NoCryptoFault (splitToken inner p) := by
  unfold splitToken
  dsimp only
  split
  · exact .error fun _ same => GssError.noConfusion same
  · exact .ok _

/-- The sequence block of a split token is one block long. -/
theorem length_encSeq_of_splitToken {inner : Bytes} {p : Profile} {parts : Received}
    (split : splitToken inner p = .ok parts) : parts.encSeq.length = sequenceBlockLength := by
  simp only [splitToken] at split
  split at split
  · cases split
  · rename_i long
    cases split
    simp only [List.length_take, List.length_drop, MessageHeader.encodedLength,
      sequenceBlockLength] at long ⊢
    omega

/-- The front of receiving a per-message token, up to the split, makes no cryptographic fault;
what follows it sees the key's profile, a sequence block of one block and a checksum of the
profile's length. -/
theorem receiveFront {γ : Type} (ctx : Context) (token : Bytes) (tag : TokenTag)
    (k : Profile → Received → Except GssError γ)
    (after : ∀ profile parts, Profile.forKey ctx.key = .ok profile →
      parts.encSeq.length = sequenceBlockLength → parts.cksum.length = profile.kind.outputLength →
      NoCryptoFault (k profile parts)) :
    NoCryptoFault (do
      let inner ← (Codec.decapsulateFor token Oid.krb5).mapError .defectiveToken
      let header ← (MessageHeader.parse inner tag).mapError headerError
      let profile ← Profile.forKey ctx.key
      profile.check header
      let parts ← splitToken inner profile
      k profile parts) := by
  refine bind (mapError (fun _ _ same => GssError.noConfusion same) _) fun inner _ => ?_
  refine bind (mapError headerError_ne_crypto _) fun header _ => ?_
  refine bind (Profile.noCryptoFault_forKey ctx.key) fun profile made => ?_
  refine bind (profile.noCryptoFault_check header) fun _ _ => ?_
  refine bind (noCryptoFault_splitToken inner profile) fun parts split => ?_
  exact after profile parts made (length_encSeq_of_splitToken split)
    (Guarded.length_cksum_of_splitToken split)

namespace Mechanism

variable {m : Mechanism} {ctx : Context}

/-- A supported key signs any bytes with its own profile. -/
theorem sign_ok (supported : ctx.key.Supported) {p : Profile} (made : Profile.forKey ctx.key = .ok p)
    (signed : Bytes) : ∃ cksum, m.sign ctx p signed = .ok cksum := by
  obtain ⟨cksum, summed⟩ := @CipherSuite.checksum_ok m.suite ctx.key supported p.kind
    (Profile.forKey_eq_ok made).1 usageSign signed
  exact ⟨cksum, by rw [sign, summed]; rfl⟩

/-- A supported key seals the next sequence block under any checksum that holds a block. -/
theorem sealSequence_ok (supported : ctx.key.Supported) {cksum : Bytes} (long : Block.size ≤ cksum.length) :
    ∃ encSeq, m.sealSequence ctx cksum = .ok encSeq := by
  obtain ⟨encSeq, encrypted⟩ := @CipherSuite.encrypt_ok m.suite ctx.key supported (cksum.take Block.size)
    (Bytes.u32le ctx.sendSeq ++ ctx.role.marker) (by simp [long]) (by simp [Bytes.length_u32le, Block.size])
  exact ⟨encSeq, by rw [sealSequence, encrypted]; rfl⟩

theorem noCryptoFault_openSequence (supported : ctx.key.Supported) {cksum encSeq : Bytes}
    (long : Block.size ≤ cksum.length) (sized : encSeq.length = sequenceBlockLength) :
    NoCryptoFault (m.openSequence ctx cksum encSeq) := by
  obtain ⟨block, decrypted⟩ := @CipherSuite.decrypt_ok m.suite ctx.key (cksum.take Block.size) encSeq
    supported (by simp [long]) (by simp [sized, sequenceBlockLength, Block.size])
  unfold openSequence
  refine bind (by rw [decrypted]; exact .ok block) fun block _ => ?_
  dsimp only
  split
  · exact throw_bind (fun _ same => GssError.noConfusion same) _
  split
  · exact throw_bind (fun _ same => GssError.noConfusion same) _
  · exact .ok _

theorem noCryptoFault_verifyChecksum (supported : ctx.key.Supported) {p : Profile}
    (made : Profile.forKey ctx.key = .ok p) (signed cksum : Bytes) :
    NoCryptoFault (m.verifyChecksum ctx p signed cksum) := by
  obtain ⟨expected, signedOk⟩ := sign_ok supported made signed
  unfold verifyChecksum
  refine bind (by rw [signedOk]; exact .ok expected) fun expected _ => ?_
  split
  · exact .error fun _ same => GssError.noConfusion same
  · exact .ok ()

theorem noCryptoFault_checkSequence (ctx : Context) (seq : UInt32) :
    NoCryptoFault (checkSequence ctx seq) := by
  unfold checkSequence
  split
  · exact .error fun _ same => GssError.noConfusion same
  · exact .ok ()

/-- Under a supported key, unwrapping fails only with faults of the token or the context. -/
theorem noCryptoFault_unwrapMessage (supported : ctx.key.Supported) (token : Bytes) :
    NoCryptoFault (m.unwrapMessage ctx token) := by
  unfold unwrapMessage
  dsimp only
  split
  · exact throw_bind (fun _ same => GssError.noConfusion same) _
  refine receiveFront ctx token .wrap _ fun profile parts made encSeqLength cksumLength => ?_
  have long : Block.size ≤ parts.cksum.length :=
    cksumLength ▸ Guarded.block_le_outputLength profile.kind
  -- the body's length, then the sequence block, the pad length and the padding
  split
  · exact throw_bind (fun _ same => GssError.noConfusion same) _
  refine bind (noCryptoFault_openSequence supported long encSeqLength) fun seq _ => ?_
  split
  · exact throw_bind (fun _ same => GssError.noConfusion same) _
  split
  · exact throw_bind (fun _ same => GssError.noConfusion same) _
  refine bind (noCryptoFault_verifyChecksum supported made _ _) fun _ _ => ?_
  refine bind (noCryptoFault_checkSequence ctx seq) fun _ _ => ?_
  exact .ok _

/-- Under a supported key, verifying fails only with faults of the token or the context. -/
theorem noCryptoFault_verifyMicMessage (supported : ctx.key.Supported) (message token : Bytes) :
    NoCryptoFault (m.verifyMicMessage ctx message token) := by
  unfold verifyMicMessage
  dsimp only
  split
  · exact throw_bind (fun _ same => GssError.noConfusion same) _
  refine receiveFront ctx token .mic _ fun profile parts made encSeqLength cksumLength => ?_
  have long : Block.size ≤ parts.cksum.length :=
    cksumLength ▸ Guarded.block_le_outputLength profile.kind
  split
  · exact throw_bind (fun _ same => GssError.noConfusion same) _
  refine bind (noCryptoFault_openSequence supported long encSeqLength) fun seq _ => ?_
  refine bind (noCryptoFault_verifyChecksum supported made _ _) fun _ _ => ?_
  refine bind (noCryptoFault_checkSequence ctx seq) fun _ _ => ?_
  exact .ok _

/-! ### Sending -/

/-- The content length of the framed wrap token of an `n`-byte message, under a key whose
checksums are of `kind`: the mechanism identifier with its tag and length, the header, the
sequence block, the checksum, the confounder, and the message padded with one to eight bytes to
whole blocks. -/
def wrapContentLength (kind : ChecksumKind) (n : Nat) : Nat :=
  Codec.contentLength Oid.krb5 [] + MessageHeader.encodedLength + sequenceBlockLength +
    kind.outputLength + wrapConfounderLength + (n + (Block.size - n % Block.size))

/-- The content of a wrap token is at most 63 bytes longer than its message: the identifier, the
header, the sequence block and the confounder, a checksum of at most 20 bytes and at most one
block of padding. -/
theorem wrapContentLength_le (kind : ChecksumKind) (n : Nat) :
    wrapContentLength kind n ≤ n + 63 := by
  have checksum := kind.outputLength_le
  have identifier : Codec.contentLength Oid.krb5 [] = 11 := rfl
  simp only [wrapContentLength, identifier, MessageHeader.encodedLength, sequenceBlockLength,
    wrapConfounderLength, Block.size]
  omega

theorem frame_ok {inner : Bytes} (few : Codec.contentLength Oid.krb5 inner < 2 ^ 32) :
    ∃ token, frame inner = .ok token := by
  obtain ⟨token, framed⟩ := Codec.encapsulate_ok few
  exact ⟨token, by rw [frame, framed]; rfl⟩

/-- A token whose content takes `2 ^ 32` bytes or more cannot be framed. -/
theorem frame_of_le {inner : Bytes} (many : 2 ^ 32 ≤ Codec.contentLength Oid.krb5 inner) :
    frame inner =
      .error (.failure ("cannot frame token: " ++ CodecError.badLength.message) Minor.wrongSize) := by
  rw [frame, Codec.encapsulate_of_le many]
  rfl

theorem contentLength_wrap {kind : ChecksumKind} {header encSeq cksum confounder : Bytes}
    (message : Bytes) (headerLength : header.length = MessageHeader.encodedLength)
    (seqLength : encSeq.length = sequenceBlockLength) (cksumLength : cksum.length = kind.outputLength)
    (confounderSize : confounder.length = wrapConfounderLength) :
    Codec.contentLength Oid.krb5 (header ++ encSeq ++ cksum ++ confounder ++ pad message) =
      wrapContentLength kind message.length := by
  simp only [Codec.contentLength, wrapContentLength, pad, List.length_append, List.length_replicate,
    headerLength, seqLength, cksumLength, confounderSize, List.length_nil]
  omega

/-- Wrapping from a random source whose draws have run out fails with the source's fault. -/
theorem wrapMessage_of_refused {p : Profile} (made : Profile.forKey ctx.key = .ok p) (message : Bytes)
    {r : RandomSource} (refused : r.failAfter = some 0) :
    ((m.wrapMessage ctx message).run.run r).1 = .error (.crypto (.rng "injected failure")) := by
  simp only [wrapMessage, made, refused, Rand.run_bind, Rand.run_ofExcept, Rand.run_mapError,
    drawBytes_run, Except.mapError, ↓reduceIte]

/-- Under a supported key, wrapping from a source that grants the confounder's draw signs and
seals, and what is left is framing the token. -/
theorem wrapMessage_of_granted (supported : ctx.key.Supported) {p : Profile}
    (made : Profile.forKey ctx.key = .ok p) (message : Bytes) {r : RandomSource}
    (granted : r.failAfter ≠ some 0) :
    ∃ cksum encSeq, cksum.length = p.kind.outputLength ∧ encSeq.length = sequenceBlockLength ∧
      ((m.wrapMessage ctx message).run.run r).1 = (do
        let token ← frame ((MessageHeader.mk .wrap p.sgnAlg MessageHeader.sealNone).encode ++ encSeq ++
          cksum ++ (r.take wrapConfounderLength).1 ++ pad message)
        pure (token, { ctx with sendSeq := ctx.sendSeq + 1 })) := by
  obtain ⟨cksum, signed⟩ := sign_ok (m := m) supported made
    ((MessageHeader.mk .wrap p.sgnAlg MessageHeader.sealNone).encode ++
      (r.take wrapConfounderLength).1 ++ pad message)
  have cksumLength := length_of_sign signed
  obtain ⟨encSeq, sealed⟩ := sealSequence_ok (m := m) supported
    (cksumLength ▸ Guarded.block_le_outputLength p.kind)
  refine ⟨cksum, encSeq, cksumLength, length_of_sealSequence sealed, ?_⟩
  simp only [wrapMessage, made, granted, Rand.run_bind, Rand.run_ofExcept, Rand.run_mapError,
    drawBytes_run, Except.mapError, ↓reduceIte, signed, sealed, Except.ok_bind]

theorem wrapMessage_of_le (supported : ctx.key.Supported) {p : Profile}
    (made : Profile.forKey ctx.key = .ok p) (message : Bytes) {r : RandomSource}
    (granted : r.failAfter ≠ some 0) (many : 2 ^ 32 ≤ wrapContentLength p.kind message.length) :
    ((m.wrapMessage ctx message).run.run r).1 =
      .error (.failure ("cannot frame token: " ++ CodecError.badLength.message) Minor.wrongSize) := by
  obtain ⟨cksum, encSeq, cksumLength, seqLength, ran⟩ :=
    wrapMessage_of_granted (m := m) supported made message granted
  have content := contentLength_wrap message
    (MessageHeader.length_encode (MessageHeader.mk .wrap p.sgnAlg MessageHeader.sealNone)) seqLength
    cksumLength (length_take_random wrapConfounderLength r)
  rw [ran, frame_of_le (many.trans_eq content.symm)]
  rfl

theorem wrapMessage_ok (supported : ctx.key.Supported) {p : Profile}
    (made : Profile.forKey ctx.key = .ok p) (message : Bytes) {r : RandomSource}
    (granted : r.failAfter ≠ some 0) (few : wrapContentLength p.kind message.length < 2 ^ 32) :
    ∃ token, ((m.wrapMessage ctx message).run.run r).1 =
      .ok (token, { ctx with sendSeq := ctx.sendSeq + 1 }) := by
  obtain ⟨cksum, encSeq, cksumLength, seqLength, ran⟩ :=
    wrapMessage_of_granted (m := m) supported made message granted
  have content := contentLength_wrap message
    (MessageHeader.length_encode (MessageHeader.mk .wrap p.sgnAlg MessageHeader.sealNone)) seqLength
    cksumLength (length_take_random wrapConfounderLength r)
  obtain ⟨token, framed⟩ := frame_ok (content.trans_lt few)
  exact ⟨token, by rw [ran, framed]; rfl⟩

/-- Under a supported key an integrity token is always made: it holds no more than 47 bytes
of content, whatever the message. -/
theorem micMessage_ok (supported : ctx.key.Supported) (message : Bytes) :
    ∃ token, m.micMessage ctx message = .ok (token, { ctx with sendSeq := ctx.sendSeq + 1 }) := by
  obtain ⟨p, made⟩ := Profile.forKey_ok supported
  obtain ⟨cksum, signed⟩ := sign_ok (m := m) supported made
    ((MessageHeader.mk .mic p.sgnAlg MessageHeader.sealNone).encode ++ message)
  have cksumLength := length_of_sign signed
  obtain ⟨encSeq, sealed⟩ := sealSequence_ok (m := m) supported
    (cksumLength ▸ Guarded.block_le_outputLength p.kind)
  have short := p.kind.outputLength_le
  have few : Codec.contentLength Oid.krb5
      ((MessageHeader.mk .mic p.sgnAlg MessageHeader.sealNone).encode ++ encSeq ++ cksum) < 2 ^ 32 := by
    have oidSize : Codec.lengthSize Oid.krb5.bytes.length = 1 := rfl
    have oidLength : Oid.krb5.bytes.length = 9 := rfl
    simp only [Codec.contentLength, oidSize, List.length_append, MessageHeader.length_encode,
      length_of_sealSequence sealed, cksumLength, MessageHeader.encodedLength, sequenceBlockLength]
    omega
  obtain ⟨token, framed⟩ := frame_ok few
  refine ⟨token, ?_⟩
  simp only [micMessage, made, signed, sealed, framed, Except.ok_bind]
  rfl

/-! ### Every reachable context -/

/-- What the key of a context guarantees of the per-message calls of the ticket mechanism `m`
on it. -/
structure KeyFaultsUnreachable (m : Mechanism) (ctx : Context) : Prop where
  /-- The key is a single-DES key of eight bytes or a triple-DES key of twenty-four. -/
  keyType : (ctx.key.encType = .desCbcCrc ∨ ctx.key.encType = .desCbcMd4 ∨
      ctx.key.encType = .desCbcMd5) ∧ ctx.key.bytes.length = 8 ∨
    ctx.key.encType = .des3CbcSha1Kd ∧ ctx.key.bytes.length = 24
  /-- The key has a signing profile. -/
  profile : ∃ p, Profile.forKey ctx.key = .ok p
  /-- Wrapping from a random source whose draws have run out fails with the source's fault. -/
  wrapRandom : ∀ message (r : RandomSource), r.failAfter = some 0 →
    ((m.wrapMessage ctx message).run.run r).1 = .error (.crypto (.rng "injected failure"))
  /-- Otherwise wrapping fails when the framed token's content would take `2 ^ 32` bytes or
  more, because the token cannot be framed, -/
  wrapTooLong : ∀ p message (r : RandomSource), Profile.forKey ctx.key = .ok p → r.failAfter ≠ some 0 →
    2 ^ 32 ≤ wrapContentLength p.kind message.length →
    ((m.wrapMessage ctx message).run.run r).1 =
      .error (.failure ("cannot frame token: " ++ CodecError.badLength.message) Minor.wrongSize)
  /-- and succeeds below that, counting one message out. -/
  wrapSucceeds : ∀ p message (r : RandomSource), Profile.forKey ctx.key = .ok p → r.failAfter ≠ some 0 →
    wrapContentLength p.kind message.length < 2 ^ 32 →
    ∃ token, ((m.wrapMessage ctx message).run.run r).1 =
      .ok (token, { ctx with sendSeq := ctx.sendSeq + 1 })
  /-- Making an integrity token always succeeds, counting one message out. -/
  micSucceeds : ∀ message, ∃ token,
    m.micMessage ctx message = .ok (token, { ctx with sendSeq := ctx.sendSeq + 1 })
  /-- Unwrapping never fails with a fault of the cryptographic layer. -/
  unwrapNoCryptoFault : ∀ token fault, m.unwrapMessage ctx token ≠ .error (.crypto fault)
  /-- Verifying never fails with a fault of the cryptographic layer. -/
  verifyMicNoCryptoFault : ∀ message token fault,
    m.verifyMicMessage ctx message token ≠ .error (.crypto fault)

/-- On every context a run of the ticket mechanism reaches, whatever its cipher suite, the key
is a single-DES key of eight bytes or a triple-DES key of twenty-four, and the per-message calls
never meet the faults of another key: the signing profile is found, wrapping fails only when the
random source refuses its draw or on a token whose content would take `2 ^ 32` bytes or more, an
integrity
token is always made, and unwrapping and verifying never fail in the cryptographic layer. -/
theorem per_message_key_faults_unreachable (m : Mechanism) (ctx : Context)
    (reached : (GssApi.Mechanism.krb5 m).Reaches (.krb5 ctx)) : m.KeyFaultsUnreachable ctx := by
  have supported := GssApi.Mechanism.supported_of_reaches reached ctx rfl
  obtain ⟨p, made⟩ := Profile.forKey_ok supported
  exact {
    keyType := (SessionKey.supported_iff ctx.key).1 supported
    profile := ⟨p, made⟩
    wrapRandom := fun message _ refused => wrapMessage_of_refused made message refused
    wrapTooLong := fun _ message _ made' granted many =>
      wrapMessage_of_le supported made' message granted many
    wrapSucceeds := fun _ message _ made' granted few =>
      wrapMessage_ok supported made' message granted few
    micSucceeds := micMessage_ok supported
    unwrapNoCryptoFault := noCryptoFault_unwrapMessage supported
    verifyMicNoCryptoFault := noCryptoFault_verifyMicMessage supported }

/-- The context of an initiator that sent a request on a single-DES ticket is reached, and the
per-message calls on it meet no key fault. -/
theorem per_message_key_faults_unreachable_for_alice :
    let m : Mechanism := {}
    let t : ServiceTicket := ⟨"alice", "host/server", ⟨.desCbcMd5, List.replicate 8 1⟩, 100, []⟩
    let req : InitRequest := { credential := some (Credential.ofTicket t),
                               target := Name.principal "host/server" }
    ∃ ctx first r', (m.initiate default req).run.run {} = (.ok (ctx, first), r') ∧
      (GssApi.Mechanism.krb5 m).Reaches (.krb5 ctx) ∧ m.KeyFaultsUnreachable ctx := by
  intro m t req
  have clientLength : (Bytes.ofString "alice").length = 5 := by
    rw [Bytes.ofString_eq]
    decide
  have fits : Exchange.RequestFits t := by
    refine ⟨by simp only [t, clientLength, Exchange.maxField]; omega, by decide, ?_⟩
    intro k own
    cases Option.some.inj own
    simp only [t, Exchange.authenticatorLength, clientLength]
    decide
  have sameServer : samePrincipal "host/server" "host/server" = true := by simp [samePrincipal]
  obtain ⟨ctx, first, r', -, -, ran, -⟩ := @initiate_run m default req (Credential.ofTicket t) t
    "host/server" {} rfl (canonicalize_principal _) rfl rfl sameServer (by decide) ⟨.des, rfl, rfl⟩
    fits rfl
  have moved : (GssApi.Mechanism.krb5 m).Moves (.init req) .unbound (.krb5 ctx) :=
    @GssApi.Mechanism.Moves.init (.krb5 m) default req .unbound (.krb5 ctx) first {}
      (by simp only [GssApi.Mechanism.krb5, Krb5.Mechanism.init, Rand.run_bind, ran, Rand.run_pure])
  have reached : (GssApi.Mechanism.krb5 m).Reaches (.krb5 ctx) := .moves .unbound moved
  exact ⟨ctx, first, r', ran, reached, per_message_key_faults_unreachable m ctx reached⟩

end Mechanism

end Krb5

end GssApi
