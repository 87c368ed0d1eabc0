import GssApi.Proofs.ExchangeBounds
import GssApi.Krb5.PerMessage

/-! Slices that stay in range when a context receives a token.

Receiving a per-message token splits the inner token into header, sequence block, checksum and
body once it is known to be long enough for the first three; the sequence block is opened with
the first block of the checksum as vector, and a wrap token's pad length is read from the last
byte of a body known to hold the confounder and a block. Establishing a context reads its token
through the codec and exchange decoders of the other modules and makes no access of its own.
The main statement, `receive_path_stays_in_bounds`, gathers these: for every token and every
context, each decoder and each receiving step, read as a guarded computation, never stops on an
access out of range and answers what the mechanism answers. -/

namespace GssApi.Guarded

open Krb5

/-- Split a received inner token into header, sequence block, checksum and the rest, once it is
long enough for the first three. -/
def splitToken (inner : Bytes) (p : Profile) : Guarded GssError Received := do
  let fixed := MessageHeader.encodedLength + sequenceBlockLength + p.kind.outputLength
  require (fixed ≤ inner.length) (badLength "token")
  let (header, tail) ← splitAt inner MessageHeader.encodedLength
  let (encSeq, tail) ← splitAt tail sequenceBlockLength
  let (cksum, rest) ← splitAt tail p.kind.outputLength
  pure ⟨header, encSeq, cksum, rest⟩

theorem splitToken_eq (inner : Bytes) (p : Profile) :
    splitToken inner p = ofExcept (Krb5.splitToken inner p) := by
  by_cases short : inner.length < MessageHeader.encodedLength + sequenceBlockLength + p.kind.outputLength
  · simp [splitToken, Krb5.splitToken, require_neg (Nat.not_le.mpr short), short]
  have long : MessageHeader.encodedLength + sequenceBlockLength + p.kind.outputLength ≤ inner.length :=
    Nat.le_of_not_lt short
  simp only [MessageHeader.encodedLength, sequenceBlockLength] at long
  simp only [splitToken, Krb5.splitToken, require, short, Nat.le_of_not_lt short, if_true, if_false,
    pure_bind, ofExcept_ok, splitAt_of_le (show MessageHeader.encodedLength ≤ inner.length by
      simp only [MessageHeader.encodedLength]; omega),
    splitAt_of_le (show sequenceBlockLength ≤ (inner.drop MessageHeader.encodedLength).length by
      simp only [List.length_drop, MessageHeader.encodedLength, sequenceBlockLength]; omega),
    splitAt_of_le (show p.kind.outputLength ≤
        ((inner.drop MessageHeader.encodedLength).drop sequenceBlockLength).length by
      simp only [List.length_drop, MessageHeader.encodedLength, sequenceBlockLength]; omega)]

/-- The sequence number of a received block, decrypted with the first block of the checksum as
vector. The block must have eight bytes, of which the last four are the peer's marker and the
first four the number, least significant first. -/
def openSequence (m : Krb5.Mechanism) (ctx : Context) (cksum encSeq : Bytes) : Guarded GssError UInt32 := do
  let iv ← sliceTo cksum Block.size
  let block ← ofExcept ((m.suite.decrypt ctx.key iv encSeq).mapError .crypto)
  require (block.length = sequenceBlockLength) (badLength "sequence block")
  require ((← sliceFrom block 4) = ctx.role.peer.marker) (.badMic "wrong direction marker" 0)
  let b0 ← byteAt block 0
  let b1 ← byteAt block 1
  let b2 ← byteAt block 2
  let b3 ← byteAt block 3
  pure (UInt32.ofNat (Bytes.leToNat [b0, b1, b2, b3]))

/-- Opening a block stays in range when the checksum holds a whole block, as the checksum of a
split token does. -/
theorem openSequence_eq (m : Krb5.Mechanism) (ctx : Context) {cksum : Bytes}
    (wide : Block.size ≤ cksum.length) (encSeq : Bytes) :
    openSequence m ctx cksum encSeq = ofExcept (m.openSequence ctx cksum encSeq) := by
  simp only [openSequence, Krb5.Mechanism.openSequence, sliceTo_of_le wide, pure_bind]
  cases m.suite.decrypt ctx.key (cksum.take Block.size) encSeq with
  | error e => rfl
  | ok block =>
    simp only [Except.mapError, ofExcept_ok, pure_bind, Except.ok_bind]
    by_cases eight : block.length = sequenceBlockLength
    swap
    · simp [require, eight]
    -- an eight-byte block: the marker and the four bytes of the number are in range
    obtain ⟨b0, b1, b2, b3, rest, rfl⟩ : ∃ b0 b1 b2 b3 rest, block = b0 :: b1 :: b2 :: b3 :: rest := by
      rcases block with _ | ⟨b0, _ | ⟨b1, _ | ⟨b2, _ | ⟨b3, rest⟩⟩⟩⟩ <;>
        simp [sequenceBlockLength] at eight ⊢
    have long : 4 ≤ (b0 :: b1 :: b2 :: b3 :: rest).length := by simp
    simp only [require, eight, if_true, ne_eq, not_true_eq_false, if_false, pure_bind,
      sliceFrom_of_le long, byteAt_cons_zero, byteAt_of_lt (Nat.lt_of_lt_of_le (by decide : 1 < 4) long),
      byteAt_of_lt (Nat.lt_of_lt_of_le (by decide : 2 < 4) long),
      byteAt_of_lt (Nat.lt_of_lt_of_le (by decide : 3 < 4) long)]
    by_cases marked : rest = ctx.role.peer.marker <;> simp [marked]

/-- Every checksum kind's checksum holds a whole block. -/
theorem block_le_outputLength (kind : ChecksumKind) : Block.size ≤ kind.outputLength := by
  cases kind <;> decide

/-- The checksum of a split token has the profile's checksum length. -/
theorem length_cksum_of_splitToken {inner : Bytes} {p : Profile} {parts : Received}
    (split : Krb5.splitToken inner p = .ok parts) : parts.cksum.length = p.kind.outputLength := by
  simp only [Krb5.splitToken] at split
  split at split
  · cases split
  · rename_i long
    cases split
    simp only [List.length_take, List.length_drop, MessageHeader.encodedLength,
      sequenceBlockLength] at long ⊢
    omega

/-- The front of receiving a per-message token: unframe it, read its header, check the header
against the key's profile and split the token. It makes only the decoders' accesses, and what
follows it sees a checksum that holds a block, so it agrees with the mechanism when what follows
does for every such split. -/
theorem receiveFront_eq {γ : Type} (ctx : Context) (token : Bytes) (tag : TokenTag)
    (k : Profile → Received → Guarded GssError γ) (k' : Profile → Received → Except GssError γ)
    (after : ∀ profile parts, Block.size ≤ parts.cksum.length →
      k profile parts = ofExcept (k' profile parts)) :
    (do
      let inner ← (decapsulateFor token Oid.krb5).mapError .defectiveToken
      let header ← (parseHeader inner tag).mapError headerError
      let profile ← ofExcept (Profile.forKey ctx.key)
      ofExcept (profile.check header)
      let parts ← splitToken inner profile
      k profile parts) =
    ofExcept (do
      let inner ← (Codec.decapsulateFor token Oid.krb5).mapError .defectiveToken
      let header ← (MessageHeader.parse inner tag).mapError headerError
      let profile ← Profile.forKey ctx.key
      profile.check header
      let parts ← Krb5.splitToken inner profile
      k' profile parts) := by
  simp only [decapsulateFor_eq, parseHeader_eq, splitToken_eq, mapError_ofExcept, ofExcept_bind]
  refine bind_congr fun inner => bind_congr fun header => bind_congr fun profile => bind_congr fun _ => ?_
  cases split : Krb5.splitToken inner profile with
  | error e => rfl
  | ok parts =>
    exact after profile parts
      ((length_cksum_of_splitToken split).symm ▸ block_le_outputLength profile.kind)

/-- The last byte of a buffer that has one. -/
theorem getElem_pred_length {bs : Bytes} (nonempty : 0 < bs.length) :
    bs[bs.length - 1] = bs.getLastD 0 := by
  rw [List.getLastD_eq_getLast?, List.getLast?_eq_getElem?, List.getElem?_eq_getElem (by omega)]
  rfl

/-- Unwrap a token. The body is split into confounder and padded message once it is known to
hold the confounder and a block, so the padded message has a last byte, which is the pad
length; the pad is split off once it is known to fit. -/
def unwrapMessage (m : Krb5.Mechanism) (ctx : Context) (token : Bytes) :
    Guarded GssError (Bytes × Context) := do
  require ctx.isEstablished incomplete
  let inner ← (decapsulateFor token Oid.krb5).mapError .defectiveToken
  let header ← (parseHeader inner .wrap).mapError headerError
  let profile ← ofExcept (Profile.forKey ctx.key)
  ofExcept (profile.check header)
  let parts ← splitToken inner profile
  let body := parts.rest
  require (¬ (body.length < wrapConfounderLength + Block.size ∨ body.length % Block.size ≠ 0))
    (badLength "wrapped payload")
  let (confounder, padded) ← splitAt body wrapConfounderLength
  let seq ← openSequence m ctx parts.cksum parts.encSeq
  let padLength := (← byteAt padded (← sub padded.length 1)).toNat
  require (¬ (padLength = 0 ∨ padLength > Block.size ∨ padLength > padded.length))
    (.badMic ("bad pad length " ++ toString padLength) 0)
  let (data, pad) ← splitAt padded (← sub padded.length padLength)
  require (pad.any (·.toNat ≠ padLength) = false) (.badMic "inconsistent padding" 0)
  ofExcept (m.verifyChecksum ctx profile (parts.header ++ confounder ++ padded) parts.cksum)
  ofExcept (Krb5.Mechanism.checkSequence ctx seq)
  pure (data, { ctx with recvSeq := ctx.recvSeq + 1 })

theorem unwrapMessage_eq (m : Krb5.Mechanism) (ctx : Context) (token : Bytes) :
    unwrapMessage m ctx token = ofExcept (m.unwrapMessage ctx token) := by
  by_cases established : ctx.isEstablished = true
  swap
  · simp [unwrapMessage, Krb5.Mechanism.unwrapMessage, require, established]
  simp only [unwrapMessage, Krb5.Mechanism.unwrapMessage, require, established, if_true, Bool.not_true,
    Bool.false_eq_true, if_false, pure_bind]
  refine receiveFront_eq ctx token .wrap _ _ fun profile parts wide => ?_
  -- the body holds the confounder and a block, so the padded message has a last byte
  by_cases long :
      parts.rest.length < wrapConfounderLength + Block.size ∨ parts.rest.length % Block.size ≠ 0
  · simp [long]
  have paddedLength : Block.size ≤ (parts.rest.drop wrapConfounderLength).length := by
    simp only [List.length_drop, wrapConfounderLength, Block.size] at long ⊢; omega
  have holds : wrapConfounderLength ≤ parts.rest.length := by
    simp only [wrapConfounderLength, Block.size] at long ⊢; omega
  rw [if_pos long, if_neg long, pure_bind, splitAt_of_le holds, pure_bind, openSequence_eq m ctx wide,
    ofExcept_bind]
  refine bind_congr fun seq => ?_
  dsimp only
  generalize parts.rest.drop wrapConfounderLength = padded at paddedLength ⊢
  have nonempty : 0 < padded.length := by simp only [Block.size] at paddedLength; omega
  rw [sub_of_le nonempty, pure_bind, byteAt_of_lt (show padded.length - 1 < padded.length by omega),
    pure_bind, getElem_pred_length nonempty]
  set padLength := (padded.getLastD 0).toNat
  by_cases badPad : padLength = 0 ∨ padLength > Block.size ∨ padLength > padded.length
  · simp [badPad]
  have fits : padLength ≤ padded.length := by omega
  rw [if_pos badPad, if_neg badPad, pure_bind, sub_of_le fits, pure_bind,
    splitAt_of_le (Nat.sub_le padded.length padLength), pure_bind]
  dsimp only
  by_cases inconsistent : (padded.drop (padded.length - padLength)).any (·.toNat ≠ padLength) = true
  · rw [if_neg (by rw [inconsistent]; decide), if_pos inconsistent]
    rfl
  rw [Bool.not_eq_true] at inconsistent
  rw [if_pos inconsistent, if_neg (by rw [inconsistent]; decide), pure_bind, ofExcept_bind, ofExcept_bind,
    ofExcept_pure]

/-- Verify the integrity token of a message. -/
def verifyMicMessage (m : Krb5.Mechanism) (ctx : Context) (message token : Bytes) :
    Guarded GssError Context := do
  require ctx.isEstablished incomplete
  let inner ← (decapsulateFor token Oid.krb5).mapError .defectiveToken
  let header ← (parseHeader inner .mic).mapError headerError
  let profile ← ofExcept (Profile.forKey ctx.key)
  ofExcept (profile.check header)
  let parts ← splitToken inner profile
  require parts.rest.isEmpty (badLength "MIC token")
  let seq ← openSequence m ctx parts.cksum parts.encSeq
  ofExcept (m.verifyChecksum ctx profile (parts.header ++ message) parts.cksum)
  ofExcept (Krb5.Mechanism.checkSequence ctx seq)
  pure { ctx with recvSeq := ctx.recvSeq + 1 }

theorem verifyMicMessage_eq (m : Krb5.Mechanism) (ctx : Context) (message token : Bytes) :
    verifyMicMessage m ctx message token = ofExcept (m.verifyMicMessage ctx message token) := by
  by_cases established : ctx.isEstablished = true
  swap
  · simp [verifyMicMessage, Krb5.Mechanism.verifyMicMessage, require, established]
  simp only [verifyMicMessage, Krb5.Mechanism.verifyMicMessage, require, established, if_true, Bool.not_true,
    Bool.false_eq_true, if_false, pure_bind]
  refine receiveFront_eq ctx token .mic _ _ fun profile parts wide => ?_
  by_cases empty : parts.rest.isEmpty = true
  swap
  · simp [empty]
  simp only [empty, if_true, Bool.not_true, Bool.false_eq_true, if_false, pure_bind,
    openSequence_eq m ctx wide, ofExcept_bind, ofExcept_pure]

/-- Check the acceptor's reply to an initiator waiting for one. -/
def continueInitiate (m : Krb5.Mechanism) (env : Environment) (ctx : Context) (req : InitRequest) :
    Guarded GssError (Context × StepOutput) := do
  require (ctx.phase ≠ .established)
    (.failure "initiator context is already established" Minor.contextEstablished)
  let some token := req.inputToken | throw (.defectiveToken (.truncated 1 0))
  let inner ← (decapsulateFor token Oid.krb5).mapError .defectiveToken
  let body ← (stripTag inner .apRep).mapError .defectiveToken
  let reply ← (readReply m.suite ctx.key body).mapError ApError.toGss
  require (reply.ctime = ctx.ctime)
    (.failure "reply does not echo the authenticator timestamp" Minor.validateFailed)
  let ctx := { ctx with recvSeq := reply.seq, phase := .established }
  pure (ctx, ⟨Status.complete, [], ctx.flags, ctx.remaining env.now, none⟩)

theorem continueInitiate_eq (m : Krb5.Mechanism) (env : Environment) (ctx : Context) (req : InitRequest) :
    continueInitiate m env ctx req = ofExcept (m.continueInitiate env ctx req) := by
  by_cases established : ctx.phase = .established
  · simp [continueInitiate, Krb5.Mechanism.continueInitiate, require, established]
  cases given : req.inputToken with
  | none => simp [continueInitiate, Krb5.Mechanism.continueInitiate, require, established, given]
  | some token =>
    simp only [continueInitiate, Krb5.Mechanism.continueInitiate, require_pos established, given, established,
      if_false, pure_bind, decapsulateFor_eq, stripTag_eq, readReply_eq, mapError_ofExcept, ofExcept_bind]
    refine bind_congr fun inner => bind_congr fun body => bind_congr fun reply => ?_
    by_cases echoed : reply.ctime = ctx.ctime <;> simp [require, echoed]

/-- Open and check an authentication request with the acceptor's key. The checks after the
request is read make no access. -/
def checkRequest (m : Krb5.Mechanism) (env : Environment) (req : AcceptRequest) :
    Guarded GssError (AcceptorKey × Exchange.Request) := do
  let acceptor ← ofExcept (acceptorKey req.credential)
  require (req.bindings.isSome = false) .badBindings
  let inner ← (decapsulateFor req.inputToken Oid.krb5).mapError .defectiveToken
  let body ← (stripTag inner .apReq).mapError .defectiveToken
  let request ← (readRequest m.suite acceptor.key body).mapError ApError.toGss
  let ticket := request.ticket
  let auth := request.authenticator
  require (samePrincipal ticket.server acceptor.principal = true)
    (.failure ("ticket is for " ++ ticket.server ++ ", not " ++ acceptor.principal) Minor.keytabNoMatch)
  require (auth.client = ticket.client)
    (.failure "authenticator client does not match ticket" Minor.validateFailed)
  require (¬ ticket.endtime ≤ env.now) .contextExpired
  require (¬ distance env.now auth.ctime > m.config.clockSkew)
    (.failure "clock skew too great" Minor.validateFailed)
  require (auth.checksum.hasBindings = false) .badBindings
  pure (acceptor, request)

theorem checkRequest_eq (m : Krb5.Mechanism) (env : Environment) (req : AcceptRequest) :
    checkRequest m env req = ofExcept (m.checkRequest env req) := by
  simp only [checkRequest, Krb5.Mechanism.checkRequest, ofExcept_bind]
  refine bind_congr fun acceptor => ?_
  by_cases bound : req.bindings.isSome = true
  · simp [require, bound]
  simp only [require, bound, Bool.false_eq_true, if_false, if_true, pure_bind, decapsulateFor_eq, stripTag_eq,
    readRequest_eq, mapError_ofExcept, ofExcept_bind]
  refine bind_congr fun inner => bind_congr fun body => bind_congr fun request => ?_
  -- the remaining checks read no bytes: each fails on both sides or passes on both
  by_cases forAcceptor : samePrincipal request.ticket.server acceptor.principal = true
  swap
  · simp [forAcceptor]
  by_cases sameClient : request.authenticator.client = request.ticket.client
  swap
  · simp [forAcceptor, sameClient]
  by_cases expired : request.ticket.endtime ≤ env.now
  · simp [forAcceptor, sameClient, expired]
  by_cases skewed : distance env.now request.authenticator.ctime > m.config.clockSkew
  · simp [forAcceptor, sameClient, expired, skewed]
  by_cases unbound : request.authenticator.checksum.hasBindings = true <;>
    simp [forAcceptor, sameClient, expired, skewed, unbound]

/-- Computations that draw random bytes and may also stop on an access out of range. -/
abbrev GuardedRand (ε : Type) := ExceptT ε (StateT RandomSource Option)

namespace GuardedRand

variable {ε α β : Type}

/-- A computation that makes no access. -/
def ofRand (x : Rand ε α) : GuardedRand ε α := ExceptT.mk fun r => some (x.run.run r)

/-- A guarded computation that draws nothing. -/
def ofGuarded (x : Guarded ε α) : GuardedRand ε α := ExceptT.mk fun r => x.run.map (·, r)

theorem ofGuarded_ofExcept (x : Except ε α) : ofGuarded (ofExcept x) = ofRand (Rand.ofExcept x) := rfl

theorem ofRand_bind (x : Rand ε α) (f : α → Rand ε β) :
    ofRand (x >>= f) = ofRand x >>= fun a => ofRand (f a) := by
  apply ExceptT.ext
  funext r
  simp only [ofRand, ExceptT.run, StateT.run, bind, ExceptT.bind, ExceptT.mk, StateT.bind,
    ExceptT.bindCont]
  rcases x r with ⟨_ | _, _⟩ <;> rfl

end GuardedRand

/-- The acceptor step: accept a request and reply when a reply is asked for. Answering a checked
request makes no access. -/
def acceptRequest (m : Krb5.Mechanism) (env : Environment) (req : AcceptRequest) :
    GuardedRand GssError (Context × StepOutput) := do
  let (acceptor, request) ← GuardedRand.ofGuarded (checkRequest m env req)
  GuardedRand.ofRand do
    let ticket := request.ticket
    let auth := request.authenticator
    let flags := granted auth.checksum.flags
    let (flags, sendSeq, token) ← if request.mutualRequired then do
        let seq ← m.initialSequence
        let body ← (Exchange.buildReply m.suite ticket.sessionKey ⟨auth.ctime, seq⟩).mapError
          ApError.toGss
        let token ← Rand.ofExcept
          ((Codec.encapsulateTagged Oid.krb5 .apRep body).mapError .defectiveToken)
        pure (flags ||| ContextFlags.mutualAuth, seq, token)
      else pure (flags &&& ~~~ContextFlags.mutualAuth, auth.seq, [])
    let ctx : Context := ⟨.acceptor, .established, ticket.sessionKey, ticket.endtime, sendSeq,
      auth.seq, flags, Name.principal ticket.client, Name.principal acceptor.principal, auth.ctime⟩
    pure (ctx, ⟨Status.complete, token, flags, ctx.remaining env.now, some ctx.source⟩)

theorem acceptRequest_eq (m : Krb5.Mechanism) (env : Environment) (req : AcceptRequest) :
    acceptRequest m env req = GuardedRand.ofRand (m.acceptRequest env req) := by
  rw [acceptRequest, checkRequest_eq, GuardedRand.ofGuarded_ofExcept, Krb5.Mechanism.acceptRequest,
    GuardedRand.ofRand_bind]

end GssApi.Guarded

namespace GssApi.Krb5.Mechanism

/-- The receive path of a mechanism stays in range: read as guarded computations, the decoders
that read tokens and the steps that receive them never stop on an access out of range, and
answer what the mechanism answers, for every input and every context. -/
structure ReceivePathInBounds (m : Mechanism) : Prop where
  lengths : ∀ data, Guarded.readLength data = Guarded.ofExcept (Codec.readLength data)
  unframing : ∀ token, Guarded.decapsulate token = Guarded.ofExcept (Codec.decapsulate token)
  unframingFor : ∀ token expected,
    Guarded.decapsulateFor token expected = Guarded.ofExcept (Codec.decapsulateFor token expected)
  tags : ∀ inner expected,
    Guarded.stripTag inner expected = Guarded.ofExcept (Codec.stripTag inner expected)
  headers : ∀ data expected,
    Guarded.parseHeader data expected = Guarded.ofExcept (MessageHeader.parse data expected)
  checksums : ∀ data, Guarded.decodeChecksum data = Guarded.ofExcept (BindingChecksum.decode data)
  sealedParts : ∀ key usage sealed,
    Guarded.unsealPart m.suite key usage sealed =
      Guarded.ofExcept (Exchange.unsealPart m.suite key usage sealed)
  requests : ∀ serviceKey body,
    Guarded.readRequest m.suite serviceKey body =
      Guarded.ofExcept (Exchange.readRequest m.suite serviceKey body)
  replies : ∀ key body,
    Guarded.readReply m.suite key body = Guarded.ofExcept (Exchange.readReply m.suite key body)
  accepting : ∀ env req,
    Guarded.acceptRequest m env req = Guarded.GuardedRand.ofRand (m.acceptRequest env req)
  continuing : ∀ env ctx req,
    Guarded.continueInitiate m env ctx req = Guarded.ofExcept (m.continueInitiate env ctx req)
  unwrapping : ∀ ctx token,
    Guarded.unwrapMessage m ctx token = Guarded.ofExcept (m.unwrapMessage ctx token)
  verifying : ∀ ctx message token,
    Guarded.verifyMicMessage m ctx message token = Guarded.ofExcept (m.verifyMicMessage ctx message token)

/-- Every mechanism's receive path stays in range, whatever its cipher suite: decryption gives
back as many bytes as it is given, and every checksum holds a block. -/
theorem receive_path_stays_in_bounds (m : Mechanism) : m.ReceivePathInBounds :=
  ⟨Guarded.readLength_eq, Guarded.decapsulate_eq, Guarded.decapsulateFor_eq, Guarded.stripTag_eq,
    Guarded.parseHeader_eq, Guarded.decodeChecksum_eq, Guarded.unsealPart_eq m.suite,
    Guarded.readRequest_eq m.suite, Guarded.readReply_eq m.suite, Guarded.acceptRequest_eq m,
    Guarded.continueInitiate_eq m, Guarded.unwrapMessage_eq m, Guarded.verifyMicMessage_eq m⟩

end GssApi.Krb5.Mechanism
