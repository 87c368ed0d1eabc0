import GssApi.Krb5.Establish
import GssApi.Codec.Header
/-! Per-message tokens of the ticket mechanism.

Both kinds of token start with the 8-byte message header, then the encrypted sequence block
and the checksum; a wrap token goes on with a random 8-byte confounder and the message
padded with 1 to 8 bytes, each holding the pad length. The checksum is the session key's
keyed checksum, for key usage 23, of the header followed by the message (for wrap tokens:
the header, the confounder and the padded message). The sequence block is the sender's
sequence number, little-endian, and its direction marker (`00000000` from the initiator,
`FFFFFFFF` from the acceptor), encrypted with the first checksum block as initial vector.

Receiving checks, in order: the header, the key's signing profile against the header, the
lengths, the direction marker, the padding (wrap tokens), the checksum, and last that the
sequence number is the one expected. Sending can start before the handshake is finished;
receiving needs an established context. -/
namespace GssApi.Krb5

def sgnDesMacMd5 : UInt16 := 0x0000
def sgnHmacSha1Des3Kd : UInt16 := 0x0004

/-- The key usage of per-message checksums. -/
def usageSign : UInt32 := 23

/-- The length of the sequence block and of the wrap confounder. -/
def sequenceBlockLength : Nat := 8
def wrapConfounderLength : Nat := 8

/-- The direction marker a side puts in its sequence blocks. -/
def Role.marker : Role → Bytes
  | .initiator => [0x00, 0x00, 0x00, 0x00]
  | .acceptor => [0xFF, 0xFF, 0xFF, 0xFF]

/-- The other side. -/
def Role.peer : Role → Role
  | .initiator => .acceptor
  | .acceptor => .initiator

/-- The signing algorithm and checksum kind a session key signs with. -/
structure Profile where
  sgnAlg : UInt16
  kind : ChecksumKind

namespace Profile

def forKey (key : SessionKey) : Except GssError Profile :=
  match key.checksumKind? with
  | some .rsaMd5Des => .ok ⟨sgnDesMacMd5, .rsaMd5Des⟩
  | some .hmacSha1Des3Kd => .ok ⟨sgnHmacSha1Des3Kd, .hmacSha1Des3Kd⟩
  | none => .error (.failure ("no per-message profile for key type " ++
      toString key.encType.number.toInt) Minor.badSignType)

/-- Check a received header against the profile. -/
def check (p : Profile) (h : MessageHeader) : Except GssError Unit :=
  if h.sealAlg ≠ MessageHeader.sealNone then
    .error (.badMic ("unsupported sealing algorithm 0x" ++ hexPadded 4 h.sealAlg.toNat) 0)
  else if h.sgnAlg = sgnDesMacMd5 ∨ h.sgnAlg = sgnHmacSha1Des3Kd then
    if h.sgnAlg = p.sgnAlg then .ok ()
    else .error (.badMic ("signing algorithm " ++ toString h.sgnAlg.toNat ++
      " does not match the session key") Minor.badSignType)
  else .error (.failure ("unknown signing algorithm 0x" ++ hexPadded 4 h.sgnAlg.toNat)
    Minor.badSignType)

end Profile

/-- A header that cannot be read: a short one is a defective token, any other fault a bad
signature. -/
def headerError : CodecError → GssError
  | .truncated needed available => .defectiveToken (.truncated needed available)
  | e => .badMic e.message 0

/-- The failure for parts of inconsistent length. -/
def badLength (what : String) : GssError :=
  .badMic (what ++ " has an inconsistent length") Minor.badLength

/-- Frame an inner token under the mechanism's identifier. -/
def frame (inner : Bytes) : Except GssError Bytes :=
  (Codec.encapsulate Oid.krb5 inner).mapError fun e =>
    .failure ("cannot frame token: " ++ e.message) Minor.wrongSize

/-- How a sequence number other than the expected one is described: one behind is a
duplicate, less than half the number space behind is old, anything else is out of order. -/
def sequenceClass (expected found : UInt32) : String :=
  let behind := expected - found
  if behind = 1 then "duplicate"
  else if behind < 0xFFFFFFFF / 2 then "old"
  else "out-of-order"

/-- The parts of a received per-message token. -/
structure Received where
  header : Bytes
  encSeq : Bytes
  cksum : Bytes
  rest : Bytes

/-- Split a received inner token into header, sequence block, checksum and the rest. -/
def splitToken (inner : Bytes) (p : Profile) : Except GssError Received :=
  let cksumLength := p.kind.outputLength
  if inner.length < MessageHeader.encodedLength + sequenceBlockLength + cksumLength then
    .error (badLength "token")
  else
    let tail := inner.drop MessageHeader.encodedLength
    let rest := tail.drop sequenceBlockLength
    .ok ⟨inner.take MessageHeader.encodedLength, tail.take sequenceBlockLength,
      rest.take cksumLength, rest.drop cksumLength⟩

namespace Mechanism

/-- The encrypted sequence block a context sends next. -/
def sealSequence (m : Mechanism) (ctx : Context) (cksum : Bytes) : Except GssError Bytes :=
  (m.suite.encrypt ctx.key (cksum.take Block.size) (Bytes.u32le ctx.sendSeq ++ ctx.role.marker)).mapError
    .crypto

/-- The sequence number of a received block, which must carry the peer's marker. -/
def openSequence (m : Mechanism) (ctx : Context) (cksum encSeq : Bytes) :
    Except GssError UInt32 := do
  let block ← (m.suite.decrypt ctx.key (cksum.take Block.size) encSeq).mapError .crypto
  if block.length ≠ sequenceBlockLength then throw (badLength "sequence block")
  if block.drop 4 ≠ ctx.role.peer.marker then throw (.badMic "wrong direction marker" 0)
  pure (UInt32.ofNat (Bytes.leToNat (block.take 4)))

/-- Require the expected sequence number. -/
def checkSequence (ctx : Context) (seq : UInt32) : Except GssError Unit :=
  if seq ≠ ctx.recvSeq then .error (.badMic (sequenceClass ctx.recvSeq seq ++ " token") 0)
  else .ok ()

/-- The keyed checksum of signed bytes. -/
def sign (m : Mechanism) (ctx : Context) (p : Profile) (signed : Bytes) : Except GssError Bytes :=
  (m.suite.checksum ctx.key p.kind usageSign signed).mapError .crypto

/-- Require that a received checksum is the checksum of the signed bytes. -/
def verifyChecksum (m : Mechanism) (ctx : Context) (p : Profile) (signed cksum : Bytes) :
    Except GssError Unit := do
  let expected ← m.sign ctx p signed
  if !Bytes.sameBytes expected cksum then throw (.badMic "checksum mismatch" 0)

/-- The message padded with 1 to 8 bytes that each hold the pad length. -/
def pad (message : Bytes) : Bytes :=
  let padLength := Block.size - message.length % Block.size
  message ++ List.replicate padLength (UInt8.ofNat padLength)

/-- Wrap a message; the context's send sequence number advances. -/
def wrapMessage (m : Mechanism) (ctx : Context) (message : Bytes) :
    Rand GssError (Bytes × Context) := do
  let profile ← Rand.ofExcept (Profile.forKey ctx.key)
  let header := (MessageHeader.mk .wrap profile.sgnAlg MessageHeader.sealNone).encode
  let confounder ← (drawBytes wrapConfounderLength).mapError GssError.crypto
  let padded := pad message
  Rand.ofExcept do
    let cksum ← m.sign ctx profile (header ++ confounder ++ padded)
    let encSeq ← m.sealSequence ctx cksum
    let token ← frame (header ++ encSeq ++ cksum ++ confounder ++ padded)
    pure (token, { ctx with sendSeq := ctx.sendSeq + 1 })

/-- Unwrap a token; the context's receive sequence number advances. -/
def unwrapMessage (m : Mechanism) (ctx : Context) (token : Bytes) :
    Except GssError (Bytes × Context) := do
  if !ctx.isEstablished then throw incomplete
  let inner ← (Codec.decapsulateFor token Oid.krb5).mapError .defectiveToken
  let header ← (MessageHeader.parse inner .wrap).mapError headerError
  let profile ← Profile.forKey ctx.key
  profile.check header
  let parts ← splitToken inner profile
  let body := parts.rest
  if body.length < wrapConfounderLength + Block.size ∨ body.length % Block.size ≠ 0 then
    throw (badLength "wrapped payload")
  let confounder := body.take wrapConfounderLength
  let padded := body.drop wrapConfounderLength
  let seq ← m.openSequence ctx parts.cksum parts.encSeq
  let padLength := (padded.getLastD 0).toNat
  if padLength = 0 ∨ padLength > Block.size ∨ padLength > padded.length then
    throw (.badMic ("bad pad length " ++ toString padLength) 0)
  let dataLength := padded.length - padLength
  if (padded.drop dataLength).any (·.toNat ≠ padLength) then
    throw (.badMic "inconsistent padding" 0)
  m.verifyChecksum ctx profile (parts.header ++ confounder ++ padded) parts.cksum
  checkSequence ctx seq
  pure (padded.take dataLength, { ctx with recvSeq := ctx.recvSeq + 1 })

/-- The integrity token of a message; the context's send sequence number advances. -/
def micMessage (m : Mechanism) (ctx : Context) (message : Bytes) :
    Except GssError (Bytes × Context) := do
  let profile ← Profile.forKey ctx.key
  let header := (MessageHeader.mk .mic profile.sgnAlg MessageHeader.sealNone).encode
  let cksum ← m.sign ctx profile (header ++ message)
  let encSeq ← m.sealSequence ctx cksum
  let token ← frame (header ++ encSeq ++ cksum)
  pure (token, { ctx with sendSeq := ctx.sendSeq + 1 })

/-- Verify the integrity token of a message; the context's receive sequence number
advances. -/
def verifyMicMessage (m : Mechanism) (ctx : Context) (message token : Bytes) :
    Except GssError Context := do
  if !ctx.isEstablished then throw incomplete
  let inner ← (Codec.decapsulateFor token Oid.krb5).mapError .defectiveToken
  let header ← (MessageHeader.parse inner .mic).mapError headerError
  let profile ← Profile.forKey ctx.key
  profile.check header
  let parts ← splitToken inner profile
  if !parts.rest.isEmpty then throw (badLength "MIC token")
  let seq ← m.openSequence ctx parts.cksum parts.encSeq
  m.verifyChecksum ctx profile (parts.header ++ message) parts.cksum
  checkSequence ctx seq
  pure { ctx with recvSeq := ctx.recvSeq + 1 }

end Mechanism

end GssApi.Krb5
