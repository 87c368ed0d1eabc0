import GssApi.Krb5.Exchange.Seal
import GssApi.Krb5.Ticket
import GssApi.Codec.Checksum
/-! The messages of the sealed authentication exchange.

* A sealed ticket holds the client and server names, the session key's type and bytes, the
  authentication time and the expiry time, sealed under the server's key.
* An authentication request is the version byte 5, an options byte whose bit 0 asks for
  mutual authentication, the ticket blob and the authenticator sealed under the session
  key. The authenticator holds the client name, the client's time, the initial sequence
  number, the checksum type 0x8003 and the binding checksum field.
* A reply is the version byte and, sealed under the session key, the client's time echoed
  back and the acceptor's initial sequence number.

Reading checks the version first, then every field in order, and requires that nothing
follows the last field. -/
namespace GssApi.Exchange

/-- The protocol version byte of requests and replies. -/
def version : UInt8 := 5

/-- The option bit that asks for mutual authentication. -/
def optMutual : UInt8 := 0x01

/-- Refuse a version byte other than 5. -/
def checkVersion (v : UInt8) : Except CodecError Unit :=
  if v = version then .ok () else .error (.badField .protocolVersion v.toUInt16)

/-- What a sealed ticket tells the server. -/
structure TicketContents where
  client : String
  server : String
  sessionKey : SessionKey
  authtime : UInt64
  endtime : UInt64
  deriving DecidableEq

/-- What the initiator authenticates in a request. -/
structure Authenticator where
  client : String
  ctime : UInt64
  seq : UInt32
  checksum : BindingChecksum
  deriving DecidableEq

/-- An authentication request as the acceptor reads it. -/
structure Request where
  ticket : TicketContents
  authenticator : Authenticator
  mutualRequired : Bool
  deriving DecidableEq

/-- A mutual-authentication reply. -/
structure Reply where
  ctime : UInt64
  seq : UInt32
  deriving DecidableEq

/-- The plaintext of a sealed ticket. -/
def ticketPlain (t : TicketContents) : Except CodecError Bytes := do
  let client ← putText t.client
  let server ← putText t.server
  let key ← putField t.sessionKey.bytes
  pure (client ++ server ++ Bytes.u32be t.sessionKey.encType.number.toUInt32 ++ key
    ++ Bytes.u64be t.authtime ++ Bytes.u64be t.endtime)

/-- Seal ticket contents under the server's key. -/
def sealTicket (cs : CipherSuite) (serviceKey : SessionKey) (t : TicketContents) :
    Rand ApError Bytes := do
  let plain ← Rand.ofExcept ((ticketPlain t).mapError .codec)
  sealPart cs serviceKey usageTicket plain

/-- Read the plaintext of a sealed ticket. -/
def ticketReader : Reader TicketContents := do
  let client ← Reader.text
  let server ← Reader.text
  let e := EncType.ofNumber (← Reader.i32)
  let keyBytes ← Reader.field
  let sessionKey ← match SessionKey.new e keyBytes with
    | .ok k => pure k
    | .error err => throw (.crypto err)
  let authtime ← Reader.u64
  let endtime ← Reader.u64
  Reader.finish
  pure { client, server, sessionKey, authtime, endtime }

/-- Open a sealed ticket with the server's key. -/
def openTicket (cs : CipherSuite) (serviceKey : SessionKey) (sealed : Bytes) :
    Except ApError TicketContents := do
  ticketReader.read (← unsealPart cs serviceKey usageTicket sealed)

/-- The plaintext of an authenticator. -/
def authenticatorPlain (a : Authenticator) : Except CodecError Bytes := do
  let client ← putText a.client
  let checksum ← putField a.checksum.encode
  pure (client ++ Bytes.u64be a.ctime ++ Bytes.u32be a.seq
    ++ Bytes.u32be authenticatorChecksumType.toUInt32 ++ checksum)

/-- The request body around a ticket blob and a sealed authenticator. -/
def requestBody (blob sealed : Bytes) (mutualAuth : Bool) : Except CodecError Bytes := do
  let blob ← putField blob
  let sealed ← putField sealed
  pure ([version, if mutualAuth then optMutual else 0] ++ blob ++ sealed)

/-- Build an authentication request from a ticket and an authenticator. -/
def buildRequest (cs : CipherSuite) (ticket : ServiceTicket) (a : Authenticator) (mutualAuth : Bool) :
    Rand ApError Bytes := do
  let plain ← Rand.ofExcept ((authenticatorPlain a).mapError .codec)
  let sealed ← sealPart cs ticket.sessionKey usageAuthenticator plain
  Rand.ofExcept ((requestBody ticket.blob sealed mutualAuth).mapError .codec)

/-- Read the outer fields of a request: options, ticket blob, sealed authenticator. -/
def requestReader : Reader (UInt8 × Bytes × Bytes) := do
  match checkVersion (← Reader.u8) with
  | .ok () => pure ()
  | .error e => throw (.codec e)
  let options ← Reader.u8
  let blob ← Reader.field
  let sealed ← Reader.field
  Reader.finish
  pure (options, blob, sealed)

/-- Read the plaintext of an authenticator. -/
def authenticatorReader : Reader Authenticator := do
  let client ← Reader.text
  let ctime ← Reader.u64
  let seq ← Reader.u32
  let kind ← Reader.i32
  if kind ≠ authenticatorChecksumType then throw (.checksumType kind)
  let checksum ← match BindingChecksum.decode (← Reader.field) with
    | .ok c => pure c
    | .error e => throw (.codec e)
  Reader.finish
  pure { client, ctime, seq, checksum }

/-- Read a request with the server's key: open the ticket, then the authenticator under the
ticket's session key. -/
def readRequest (cs : CipherSuite) (serviceKey : SessionKey) (body : Bytes) :
    Except ApError Request := do
  let (options, blob, sealed) ← requestReader.read body
  let ticket ← openTicket cs serviceKey blob
  let plain ← unsealPart cs ticket.sessionKey usageAuthenticator sealed
  let authenticator ← authenticatorReader.read plain
  pure { ticket, authenticator, mutualRequired := options &&& optMutual ≠ 0 }

/-- Build a reply under the session key. -/
def buildReply (cs : CipherSuite) (key : SessionKey) (r : Reply) : Rand ApError Bytes := do
  let sealed ← sealPart cs key usageReply (Bytes.u64be r.ctime ++ Bytes.u32be r.seq)
  pure (version :: sealed)

/-- Read the plaintext of a reply. -/
def replyReader : Reader Reply := do
  let ctime ← Reader.u64
  let seq ← Reader.u32
  Reader.finish
  pure { ctime, seq }

/-- Read a reply under the session key. -/
def readReply (cs : CipherSuite) (key : SessionKey) (body : Bytes) : Except ApError Reply :=
  match body with
  | [] => .error (.codec (.truncated 1 0))
  | v :: rest => do
    (checkVersion v).mapError .codec
    replyReader.read (← unsealPart cs key usageReply rest)

end GssApi.Exchange
