import GssApi.Krb5.Exchange.Message
import GssApi.Proofs.Sealing

/-! The messages of the authentication exchange read back.

Each message's reader takes back what its builder wrote: a sealed ticket opens under the
service key to its contents, an authentication request reads under the service key to the
ticket, the authenticator and the request for a reply that built it, and a reply reads under
the session key to the time and sequence number it carries. The readers check the version,
every field and that nothing follows the last one; each check passes on a built message, and
the opened parts are the sealed ones because the cipher is lawful. A ticket's session key has
to be of a known type with that type's length, since the reader rebuilds it from its type
number and bytes. -/
namespace GssApi

theorem EncType.ofNumber_number {e : EncType} {f : CipherFamily} (family : e.family? = some f) :
    EncType.ofNumber e.number = e := by
  cases e with
  | other n => cases family
  | _ => rfl

/-- A supported key is the key `SessionKey.new` makes of its type and bytes. -/
theorem SessionKey.new_of_supported {key : SessionKey} (supported : key.Supported) :
    SessionKey.new key.encType key.bytes = .ok key := by
  obtain ⟨f, family, sized⟩ := supported
  cases f <;> simp [SessionKey.new, EncType.keyLength?, family, sized, CipherSuite.keyLength]

/-- The checksum field reads back to the checksum that wrote it. -/
theorem BindingChecksum.decode_encode (c : BindingChecksum) :
    BindingChecksum.decode c.encode = .ok c := by
  rcases c with ⟨bindings, flags, sized⟩
  have long : ¬ (Bytes.u32le 16 ++ bindings ++ Bytes.u32le flags).length < encodedLength := by
    simp [sized, encodedLength]
  have lengthWord : Bytes.leToNat ((Bytes.u32le 16 ++ bindings ++ Bytes.u32le flags).take 4) = 16 := by
    rw [List.append_assoc, List.take_left' (Bytes.length_u32le 16), Bytes.leToNat_u32le]
    rfl
  have hash : ((Bytes.u32le 16 ++ bindings ++ Bytes.u32le flags).drop 4).take 16 = bindings := by
    rw [List.append_assoc, List.drop_left' (Bytes.length_u32le 16), List.take_left' sized]
  have flagsWord : UInt32.ofNat (Bytes.leToNat (((Bytes.u32le 16 ++ bindings ++
      Bytes.u32le flags).drop 20).take 4)) = flags := by
    rw [List.drop_left' (by simp [sized]), List.take_of_length_le (by simp), Bytes.leToNat_u32le,
      UInt32.ofNat_toNat]
  simp only [decode, encode, long, lengthWord, hash, flagsWord]
  rfl

namespace Exchange

/-- A ticket's plaintext is its two names, its key's type number and bytes and its two times,
when the names and the key bytes fit their fields. -/
theorem ticketPlain_eq_ok {t : TicketContents} {plain : Bytes} (made : ticketPlain t = .ok plain) :
    (Bytes.ofString t.client).length ≤ maxField ∧ (Bytes.ofString t.server).length ≤ maxField ∧
      t.sessionKey.bytes.length ≤ maxField ∧
      plain = Bytes.beOfNat 2 (Bytes.ofString t.client).length ++ Bytes.ofString t.client ++
        (Bytes.beOfNat 2 (Bytes.ofString t.server).length ++ Bytes.ofString t.server) ++
        Bytes.u32be t.sessionKey.encType.number.toUInt32 ++
        (Bytes.beOfNat 2 t.sessionKey.bytes.length ++ t.sessionKey.bytes) ++
        Bytes.u64be t.authtime ++ Bytes.u64be t.endtime := by
  unfold ticketPlain at made
  obtain ⟨client, clientOk, made⟩ := Except.bind_eq_ok.1 made
  obtain ⟨server, serverOk, made⟩ := Except.bind_eq_ok.1 made
  obtain ⟨key, keyOk, made⟩ := Except.bind_eq_ok.1 made
  obtain ⟨clientFits, rfl⟩ := putText_eq_ok.1 clientOk
  obtain ⟨serverFits, rfl⟩ := putText_eq_ok.1 serverOk
  obtain ⟨keyFits, rfl⟩ := putField_eq_ok.1 keyOk
  simp only [pure, Except.pure, Except.ok.injEq] at made
  exact ⟨clientFits, serverFits, keyFits, made.symm⟩

theorem ticketPlain_ok {t : TicketContents} (clientFits : (Bytes.ofString t.client).length ≤ maxField)
    (serverFits : (Bytes.ofString t.server).length ≤ maxField)
    (keyFits : t.sessionKey.bytes.length ≤ maxField) : ∃ plain, ticketPlain t = .ok plain := by
  simp only [ticketPlain, putText, (putField_eq_ok.2 ⟨clientFits, rfl⟩ : putField _ = _),
    (putField_eq_ok.2 ⟨serverFits, rfl⟩ : putField _ = _),
    (putField_eq_ok.2 ⟨keyFits, rfl⟩ : putField _ = _), Except.ok_bind]
  exact ⟨_, rfl⟩

/-- A ticket's plaintext reads back to the ticket when its key is supported. -/
theorem ticketReader_read {t : TicketContents} {plain : Bytes} (made : ticketPlain t = .ok plain)
    (supported : t.sessionKey.Supported) : ticketReader.read plain = .ok t := by
  obtain ⟨clientFits, serverFits, keyFits, rfl⟩ := ticketPlain_eq_ok made
  obtain ⟨f, family, sized⟩ := supported
  simp only [Reader.read, ticketReader, StateT.run_bind, List.append_assoc, Except.ok_bind,
    Reader.text_run _ clientFits, Reader.text_run _ serverFits, Reader.i32_run,
    Reader.field_run _ keyFits, EncType.ofNumber_number family,
    SessionKey.new_of_supported ⟨f, family, sized⟩, StateT.run_pure, pure_bind, Reader.u64_run,
    Reader.u64_run_last, Reader.finish_run]
  rfl

theorem length_ticketPlain {t : TicketContents} {plain : Bytes} (made : ticketPlain t = .ok plain) :
    plain.length < 2 ^ 32 := by
  obtain ⟨clientFits, serverFits, keyFits, rfl⟩ := ticketPlain_eq_ok made
  simp only [List.length_append, Bytes.length_beOfNat, Bytes.length_u32be, Bytes.length_u64be]
  simp only [maxField] at clientFits serverFits keyFits
  omega

variable {cs : CipherSuite}

/-- Under a lawful cipher, a sealed ticket opens under the service key to its contents. -/
theorem openTicket_of_sealTicket (lawful : cs.Lawful) {serviceKey : SessionKey}
    {t : TicketContents} {blob : Bytes} {r : RandomSource}
    (sealed : ((sealTicket cs serviceKey t).run.run r).1 = .ok blob)
    (supported : t.sessionKey.Supported) : openTicket cs serviceKey blob = .ok t := by
  unfold sealTicket at sealed
  cases made : ticketPlain t with
  | error e =>
    obtain ⟨_, refused, -⟩ := Rand.ofExcept_bind_eq_ok sealed
    rw [made] at refused
    cases refused
  | ok plain =>
    simp only [made, Rand.run_bind, Rand.run_ofExcept, Except.mapError] at sealed
    rw [openTicket, unsealPart_of_sealPart lawful sealed (length_ticketPlain made), Except.ok_bind]
    exact ticketReader_read made supported

/-- A ticket whose plaintext is made seals under any supported key from a source that does not
fail, into a blob as long as sealing that plaintext makes it. -/
theorem sealTicket_run {serviceKey : SessionKey} {t : TicketContents} {plain : Bytes}
    {r : RandomSource} (made : ticketPlain t = .ok plain) (supported : serviceKey.Supported)
    (steady : r.failing = false) :
    ∃ blob kind, (sealTicket cs serviceKey t).run.run r = (.ok blob, (r.take confounderLength).2.spend) ∧
      serviceKey.checksumKind? = some kind ∧ blob.length = sealedLength kind plain.length := by
  obtain ⟨blob, sealing⟩ := @sealPart_run cs serviceKey usageTicket supported plain r steady
  obtain ⟨kind, own, sized⟩ := length_of_sealPart
    (by rw [sealing] : ((sealPart cs serviceKey usageTicket plain).run.run r).1 = .ok blob)
  refine ⟨blob, kind, ?_, own, sized⟩
  simp only [sealTicket, Rand.run_bind, Rand.run_ofExcept, made, Except.mapError, sealing]

/-- The length of an authenticator's plaintext for a client: the name with its prefix, the
time, the sequence number, the checksum type and the checksum field with its prefix. -/
def authenticatorLength (client : String) : Nat :=
  2 + (Bytes.ofString client).length + 8 + 4 + 4 + 2 + BindingChecksum.encodedLength

@[simp] theorem length_encode_checksum (c : BindingChecksum) :
    c.encode.length = BindingChecksum.encodedLength := by
  simp [BindingChecksum.encode, c.bindings_length, BindingChecksum.encodedLength]

/-- An authenticator's plaintext is its client's name, its time, its sequence number, the
checksum type and the checksum field, when the name fits its field. -/
theorem authenticatorPlain_eq_ok {a : Authenticator} {plain : Bytes}
    (made : authenticatorPlain a = .ok plain) :
    (Bytes.ofString a.client).length ≤ maxField ∧
      plain = Bytes.beOfNat 2 (Bytes.ofString a.client).length ++ Bytes.ofString a.client ++
        Bytes.u64be a.ctime ++ Bytes.u32be a.seq ++ Bytes.u32be authenticatorChecksumType.toUInt32 ++
        (Bytes.beOfNat 2 a.checksum.encode.length ++ a.checksum.encode) := by
  unfold authenticatorPlain at made
  obtain ⟨client, clientOk, made⟩ := Except.bind_eq_ok.1 made
  obtain ⟨checksum, checksumOk, made⟩ := Except.bind_eq_ok.1 made
  obtain ⟨clientFits, rfl⟩ := putText_eq_ok.1 clientOk
  obtain ⟨-, rfl⟩ := putField_eq_ok.1 checksumOk
  simp only [pure, Except.pure, Except.ok.injEq] at made
  exact ⟨clientFits, made.symm⟩

/-- An authenticator's plaintext can be written exactly when its client's name fits. -/
theorem authenticatorPlain_ok {a : Authenticator} (fits : (Bytes.ofString a.client).length ≤ maxField) :
    ∃ plain, authenticatorPlain a = .ok plain := by
  have checksumFits : a.checksum.encode.length ≤ maxField := by
    simp [BindingChecksum.encodedLength, maxField]
  simp only [authenticatorPlain, putText, (putField_eq_ok.2 ⟨fits, rfl⟩ : putField _ = _),
    (putField_eq_ok.2 ⟨checksumFits, rfl⟩ : putField _ = _), Except.ok_bind]
  exact ⟨_, rfl⟩

theorem length_authenticatorPlain {a : Authenticator} {plain : Bytes}
    (made : authenticatorPlain a = .ok plain) : plain.length = authenticatorLength a.client := by
  obtain ⟨-, rfl⟩ := authenticatorPlain_eq_ok made
  simp only [List.length_append, Bytes.length_beOfNat, Bytes.length_u64be, Bytes.length_u32be,
    length_encode_checksum, authenticatorLength]
  omega

/-- An authenticator's plaintext reads back to the authenticator. -/
theorem authenticatorReader_read {a : Authenticator} {plain : Bytes}
    (made : authenticatorPlain a = .ok plain) : authenticatorReader.read plain = .ok a := by
  obtain ⟨clientFits, rfl⟩ := authenticatorPlain_eq_ok made
  have checksumFits : a.checksum.encode.length ≤ maxField := by
    simp [BindingChecksum.encodedLength, maxField]
  simp only [Reader.read, authenticatorReader, StateT.run_bind, List.append_assoc, Except.ok_bind,
    Reader.text_run _ clientFits, Reader.u64_run, Reader.u32_run, Reader.i32_run, ne_eq,
    not_true_eq_false, if_false, Reader.field_run_last checksumFits, BindingChecksum.decode_encode,
    StateT.run_pure, pure_bind, Reader.finish_run]
  rfl

/-- The option byte of a request that asks for a reply, or not. -/
def options (mutualAuth : Bool) : UInt8 := if mutualAuth then optMutual else 0

theorem mutual_options (mutualAuth : Bool) : (options mutualAuth &&& optMutual ≠ 0) = mutualAuth := by
  cases mutualAuth <;> decide

/-- A request body is the version, the option byte and the two fields, when both fit. -/
theorem requestBody_eq_ok {blob sealed body : Bytes} {mutualAuth : Bool}
    (made : requestBody blob sealed mutualAuth = .ok body) :
    blob.length ≤ maxField ∧ sealed.length ≤ maxField ∧
      body = version :: options mutualAuth :: (Bytes.beOfNat 2 blob.length ++ blob ++
        (Bytes.beOfNat 2 sealed.length ++ sealed)) := by
  unfold requestBody at made
  obtain ⟨blobField, blobOk, made⟩ := Except.bind_eq_ok.1 made
  obtain ⟨sealedField, sealedOk, made⟩ := Except.bind_eq_ok.1 made
  obtain ⟨blobFits, rfl⟩ := putField_eq_ok.1 blobOk
  obtain ⟨sealedFits, rfl⟩ := putField_eq_ok.1 sealedOk
  simp only [pure, Except.pure, Except.ok.injEq] at made
  exact ⟨blobFits, sealedFits, by rw [← made]; rfl⟩

theorem requestReader_read {blob sealed body : Bytes} {mutualAuth : Bool}
    (made : requestBody blob sealed mutualAuth = .ok body) :
    requestReader.read body = .ok (options mutualAuth, blob, sealed) := by
  obtain ⟨blobFits, sealedFits, rfl⟩ := requestBody_eq_ok made
  have versionOk : checkVersion version = .ok () := rfl
  simp only [Reader.read, requestReader, StateT.run_bind, List.append_assoc, Except.ok_bind,
    Reader.u8_run, versionOk, Reader.field_run _ blobFits, Reader.field_run_last sealedFits,
    StateT.run_pure, Reader.finish_run]
  rfl

/-- The pieces of a request as its builder puts them together. -/
theorem buildRequest_eq_ok {ticket : ServiceTicket} {a : Authenticator} {mutualAuth : Bool}
    {body : Bytes} {r : RandomSource}
    (built : ((buildRequest cs ticket a mutualAuth).run.run r).1 = .ok body) :
    ∃ plain sealed, authenticatorPlain a = .ok plain ∧
      ((sealPart cs ticket.sessionKey usageAuthenticator plain).run.run r).1 = .ok sealed ∧
      requestBody ticket.blob sealed mutualAuth = .ok body := by
  unfold buildRequest at built
  cases made : authenticatorPlain a with
  | error e =>
    obtain ⟨_, refused, -⟩ := Rand.ofExcept_bind_eq_ok built
    rw [made] at refused
    cases refused
  | ok plain =>
    simp only [made, Rand.run_bind, Rand.run_ofExcept, Except.mapError] at built
    cases sealing : (sealPart cs ticket.sessionKey usageAuthenticator plain).run.run r with
    | mk outcome r' =>
      cases outcome with
      | error e => simp [sealing] at built
      | ok sealed =>
        simp only [sealing] at built
        cases bodyOk : requestBody ticket.blob sealed mutualAuth with
        | error e => simp [bodyOk] at built
        | ok body' =>
          simp only [bodyOk, Except.ok.injEq] at built
          subst built
          exact ⟨plain, sealed, rfl, by simp [sealing], bodyOk⟩

/-- Under a lawful cipher, a request reads under the service key to the contents of the ticket
it carries, its authenticator and whether it asks for a reply, when the ticket was sealed under
that key for the session key the request is built with. -/
theorem readRequest_of_buildRequest (lawful : cs.Lawful) {serviceKey : SessionKey}
    {ticket : ServiceTicket} {contents : TicketContents} {a : Authenticator} {mutualAuth : Bool}
    {body : Bytes} {r r₀ : RandomSource}
    (built : ((buildRequest cs ticket a mutualAuth).run.run r).1 = .ok body)
    (issued : ((sealTicket cs serviceKey contents).run.run r₀).1 = .ok ticket.blob)
    (sameKey : contents.sessionKey = ticket.sessionKey) (supported : contents.sessionKey.Supported) :
    readRequest cs serviceKey body = .ok ⟨contents, a, mutualAuth⟩ := by
  obtain ⟨plain, sealed, made, sealedOk, bodyOk⟩ := buildRequest_eq_ok built
  have opened := openTicket_of_sealTicket lawful issued supported
  have short : plain.length < 2 ^ 32 := by
    rw [length_authenticatorPlain made, authenticatorLength]
    obtain ⟨fits, -⟩ := authenticatorPlain_eq_ok made
    simp only [maxField, BindingChecksum.encodedLength] at fits ⊢
    omega
  have unsealed := unsealPart_of_sealPart lawful sealedOk short
  rw [← sameKey] at unsealed
  simp only [readRequest, requestReader_read bodyOk, Except.ok_bind, opened, unsealed,
    authenticatorReader_read made, mutual_options, Bool.decide_eq_true]
  rfl

/-- The pieces of a reply as its builder puts them together. -/
theorem buildReply_eq_ok {key : SessionKey} {reply : Reply} {body : Bytes} {r : RandomSource}
    (built : ((buildReply cs key reply).run.run r).1 = .ok body) :
    ∃ sealed, ((sealPart cs key usageReply (Bytes.u64be reply.ctime ++ Bytes.u32be reply.seq)).run.run
      r).1 = .ok sealed ∧ body = version :: sealed := by
  unfold buildReply at built
  rw [Rand.run_bind] at built
  cases sealing : (sealPart cs key usageReply (Bytes.u64be reply.ctime ++ Bytes.u32be reply.seq)).run.run r with
  | mk outcome r' =>
    cases outcome with
    | error e => simp [sealing] at built
    | ok sealed =>
      simp only [sealing, Rand.run_pure, Except.ok.injEq] at built
      exact ⟨sealed, rfl, built.symm⟩

/-- Under a lawful cipher, a reply reads under the session key to the reply that built it. -/
theorem readReply_of_buildReply (lawful : cs.Lawful) {key : SessionKey} {reply : Reply}
    {body : Bytes} {r : RandomSource} (built : ((buildReply cs key reply).run.run r).1 = .ok body) :
    readReply cs key body = .ok reply := by
  obtain ⟨sealed, sealedOk, rfl⟩ := buildReply_eq_ok built
  have unsealed := unsealPart_of_sealPart lawful sealedOk (by simp)
  have versionOk : checkVersion version = .ok () := rfl
  simp only [readReply, versionOk, Except.mapError, Except.ok_bind, unsealed, Reader.read,
    replyReader, StateT.run_bind, Reader.u64_run, Reader.u32_run_last, StateT.run_pure,
    Reader.finish_run]
  rfl

/-! ### Building succeeds -/

/-- Every length-prefixed field of a request for a ticket fits its 16-bit prefix: the client's
name in the authenticator, the ticket blob and the sealed authenticator. -/
def RequestFits (t : ServiceTicket) : Prop :=
  (Bytes.ofString t.client).length ≤ maxField ∧ t.blob.length ≤ maxField ∧
    ∀ kind, t.sessionKey.checksumKind? = some kind →
      sealedLength kind (authenticatorLength t.client) ≤ maxField

/-- Every length-prefixed field of a request fits its 16-bit prefix, for an authenticator naming
`client`, a ticket blob and a session key: the client's name, the blob and the authenticator
sealed under the session key. The 24-byte checksum field always fits. -/
def RequestFields (sessionKey : SessionKey) (blob : Bytes) (client : String) : Prop :=
  (Bytes.ofString client).length ≤ maxField ∧ blob.length ≤ maxField ∧
    ∀ kind, sessionKey.checksumKind? = some kind →
      sealedLength kind (authenticatorLength client) ≤ maxField

/-- A request with a supported session key whose fields fit is built from any source that does
not fail, and leaves a source that does not fail. -/
theorem buildRequest_run_of_fields {ticket : ServiceTicket} {a : Authenticator} (mutualAuth : Bool)
    {r : RandomSource} (supported : ticket.sessionKey.Supported)
    (fits : RequestFields ticket.sessionKey ticket.blob a.client) (steady : r.failing = false) :
    ∃ body, (buildRequest cs ticket a mutualAuth).run.run r =
      (.ok body, (r.take confounderLength).2.spend) ∧
      body.length ≤ 2 + (2 + maxField) + (2 + maxField) := by
  obtain ⟨clientFits, blobFits, sealedFits⟩ := fits
  obtain ⟨plain, made⟩ := authenticatorPlain_ok (a := a) clientFits
  obtain ⟨sealed, sealing⟩ := @sealPart_run cs ticket.sessionKey usageAuthenticator supported plain r
    steady
  obtain ⟨kind, own, sealedSize⟩ := length_of_sealPart (by rw [sealing] : ((sealPart cs
    ticket.sessionKey usageAuthenticator plain).run.run r).1 = .ok sealed)
  have sealedField : sealed.length ≤ maxField := by
    rw [sealedSize, length_authenticatorPlain made]
    exact sealedFits kind own
  have bodyOk : requestBody ticket.blob sealed mutualAuth = .ok (version :: options mutualAuth ::
      (Bytes.beOfNat 2 ticket.blob.length ++ ticket.blob ++ (Bytes.beOfNat 2 sealed.length ++ sealed))) := by
    simp [requestBody, putField_eq_ok.2 ⟨blobFits, rfl⟩, putField_eq_ok.2 ⟨sealedField, rfl⟩, options]
  refine ⟨version :: options mutualAuth :: (Bytes.beOfNat 2 ticket.blob.length ++ ticket.blob ++
    (Bytes.beOfNat 2 sealed.length ++ sealed)), ?_, ?_⟩
  · simp only [buildRequest, made, Rand.run_bind, Rand.run_ofExcept, Except.mapError, sealing,
      bodyOk]
  · simp only [List.length_cons, List.length_append, Bytes.length_beOfNat]
    omega

/-- A request for a ticket with a supported session key whose fields fit is built from any
source that does not fail, and leaves a source that does not fail. -/
theorem buildRequest_run {ticket : ServiceTicket} {a : Authenticator} (mutualAuth : Bool)
    {r : RandomSource} (supported : ticket.sessionKey.Supported) (fits : RequestFits ticket)
    (sameClient : a.client = ticket.client) (steady : r.failing = false) :
    ∃ body, (buildRequest cs ticket a mutualAuth).run.run r =
      (.ok body, (r.take confounderLength).2.spend) ∧
      body.length ≤ 2 + (2 + maxField) + (2 + maxField) := by
  have fields : RequestFields ticket.sessionKey ticket.blob a.client := by
    rw [sameClient]
    exact fits
  exact buildRequest_run_of_fields mutualAuth supported fields steady

/-- A ticket for a client and a server of at most a thousand bytes each, with a supported
session key, is sealed under any supported service key from a source that does not fail, and
every field of a request for it fits its prefix. -/
theorem sealTicket_fits {serviceKey : SessionKey} {contents : TicketContents} {r : RandomSource}
    (clientShort : (Bytes.ofString contents.client).length ≤ 1000)
    (serverShort : (Bytes.ofString contents.server).length ≤ 1000)
    (supported : contents.sessionKey.Supported) (serviceSupported : serviceKey.Supported)
    (steady : r.failing = false) :
    ∃ blob, ((sealTicket cs serviceKey contents).run.run r).1 = .ok blob ∧
      RequestFits ⟨contents.client, contents.server, contents.sessionKey, contents.endtime, blob⟩ := by
  have keyShort : contents.sessionKey.bytes.length ≤ 24 := by
    obtain ⟨f, -, sized⟩ := supported
    cases f <;> simp only [sized, CipherSuite.keyLength] <;> omega
  obtain ⟨plain, made⟩ := ticketPlain_ok (t := contents) (by unfold maxField; omega)
    (by unfold maxField; omega) (by unfold maxField; omega)
  have plainShort : plain.length ≤ 2050 := by
    obtain ⟨-, -, -, rfl⟩ := ticketPlain_eq_ok made
    simp only [List.length_append, Bytes.length_beOfNat, Bytes.length_u32be, Bytes.length_u64be]
    omega
  obtain ⟨blob, kind, sealing, -, sized⟩ := sealTicket_run made serviceSupported steady
  refine ⟨blob, by rw [sealing], ?_, ?_, ?_⟩
  · show (Bytes.ofString contents.client).length ≤ maxField
    unfold maxField
    omega
  · show blob.length ≤ maxField
    have sealedShort := sealedLength_le kind plain.length
    rw [sized]
    unfold maxField
    omega
  · intro kind' _
    have sealedShort := sealedLength_le kind' (authenticatorLength contents.client)
    show sealedLength kind' (authenticatorLength contents.client) ≤ maxField
    simp only [authenticatorLength, BindingChecksum.encodedLength] at sealedShort ⊢
    unfold maxField
    omega

/-- A reply under a supported key is built from any source that does not fail, and leaves a
source that does not fail. -/
theorem buildReply_run {key : SessionKey} (reply : Reply) {r : RandomSource}
    (supported : key.Supported) (steady : r.failing = false) :
    ∃ body, (buildReply cs key reply).run.run r = (.ok body, (r.take confounderLength).2.spend) ∧
      body.length < 2 ^ 16 := by
  obtain ⟨sealed, sealing⟩ := @sealPart_run cs key usageReply supported
    (Bytes.u64be reply.ctime ++ Bytes.u32be reply.seq) r steady
  obtain ⟨kind, -, sealedSize⟩ := length_of_sealPart (by rw [sealing] : ((sealPart cs key usageReply
    (Bytes.u64be reply.ctime ++ Bytes.u32be reply.seq)).run.run r).1 = .ok sealed)
  refine ⟨version :: sealed, ?_, ?_⟩
  · simp only [buildReply, Rand.run_bind, sealing, Rand.run_pure]
  · have sealedShort := sealedLength_le kind (Bytes.u64be reply.ctime ++ Bytes.u32be reply.seq).length
    simp only [List.length_cons, sealedSize, List.length_append, Bytes.length_u64be,
      Bytes.length_u32be] at sealedShort ⊢
    omega

/-- A reply under a supported key fails with the source's fault when the source's draws have
run out, and leaves the source as it was. -/
theorem buildReply_of_refused {key : SessionKey} (reply : Reply) {r : RandomSource}
    (supported : key.Supported) (refused : r.failAfter = some 0) :
    (buildReply cs key reply).run.run r = (.error (.crypto (.rng "injected failure")), r) := by
  simp only [buildReply, Rand.run_bind, sealPart_of_refused supported _ refused]

/-! ### Fields that do not fit -/

/-- A field longer than a 16-bit prefix can describe is refused as a bad length. -/
theorem putField_eq_error {data : Bytes} (tooLong : ¬ data.length ≤ maxField) :
    putField data = .error .badLength := by
  simp only [putField, if_pos (Nat.lt_of_not_le tooLong)]

/-- Every length-prefixed field of a ticket's plaintext fits its 16-bit prefix: the client's
and the server's names and the session key's bytes. -/
def TicketFits (t : TicketContents) : Prop :=
  (Bytes.ofString t.client).length ≤ maxField ∧ (Bytes.ofString t.server).length ≤ maxField ∧
    t.sessionKey.bytes.length ≤ maxField

/-- A ticket with a field that does not fit has no plaintext: the first such field is refused
as a bad length. -/
theorem ticketPlain_eq_error {t : TicketContents} (tooLong : ¬ TicketFits t) :
    ticketPlain t = .error .badLength := by
  by_cases clientFits : (Bytes.ofString t.client).length ≤ maxField
  · by_cases serverFits : (Bytes.ofString t.server).length ≤ maxField
    · have keyLong : ¬ t.sessionKey.bytes.length ≤ maxField := fun keyFits =>
        tooLong ⟨clientFits, serverFits, keyFits⟩
      simp [ticketPlain, putText, putField_eq_ok.2 ⟨clientFits, rfl⟩,
        putField_eq_ok.2 ⟨serverFits, rfl⟩, putField_eq_error keyLong]
    · simp [ticketPlain, putText, putField_eq_ok.2 ⟨clientFits, rfl⟩, putField_eq_error serverFits]
  · simp [ticketPlain, putText, putField_eq_error clientFits]

/-- Sealing a ticket with a field that does not fit fails with a bad length before anything is
drawn. -/
theorem sealTicket_run_error {serviceKey : SessionKey} {t : TicketContents} (r : RandomSource)
    (tooLong : ¬ TicketFits t) :
    (sealTicket cs serviceKey t).run.run r = (.error (.codec .badLength), r) := by
  simp only [sealTicket, Rand.run_bind, Rand.run_ofExcept, ticketPlain_eq_error tooLong,
    Except.mapError]

/-- Building a request whose fields do not fit fails with a bad length: the client's name is
refused while the authenticator is written, the blob or the sealed authenticator while the body
is. -/
theorem buildRequest_run_error {ticket : ServiceTicket} {a : Authenticator} (mutualAuth : Bool)
    {r : RandomSource} (supported : ticket.sessionKey.Supported) (steady : r.failing = false)
    (tooLong : ¬ RequestFields ticket.sessionKey ticket.blob a.client) :
    ((buildRequest cs ticket a mutualAuth).run.run r).1 = .error (.codec .badLength) := by
  by_cases clientFits : (Bytes.ofString a.client).length ≤ maxField
  · obtain ⟨plain, made⟩ := authenticatorPlain_ok (a := a) clientFits
    obtain ⟨sealed, sealing⟩ := @sealPart_run cs ticket.sessionKey usageAuthenticator supported
      plain r steady
    obtain ⟨kind, own, sealedSize⟩ := length_of_sealPart (by rw [sealing] : ((sealPart cs
      ticket.sessionKey usageAuthenticator plain).run.run r).1 = .ok sealed)
    -- the body is refused at the first of the two fields that does not fit
    have refused : requestBody ticket.blob sealed mutualAuth = .error .badLength := by
      by_cases blobFits : ticket.blob.length ≤ maxField
      · have sealedLong : ¬ sealed.length ≤ maxField := by
          rw [sealedSize, length_authenticatorPlain made]
          intro sealedFits
          refine tooLong ⟨clientFits, blobFits, fun kind' own' => ?_⟩
          rw [own, Option.some.injEq] at own'
          exact own' ▸ sealedFits
        simp [requestBody, putField_eq_ok.2 ⟨blobFits, rfl⟩, putField_eq_error sealedLong]
      · simp [requestBody, putField_eq_error blobFits]
    simp only [buildRequest, made, Rand.run_bind, Rand.run_ofExcept, Except.mapError, sealing,
      refused]
  · have refused : authenticatorPlain a = .error .badLength := by
      simp [authenticatorPlain, putText, putField_eq_error clientFits]
    simp only [buildRequest, refused, Rand.run_bind, Rand.run_ofExcept, Except.mapError]

/-! ### Round trips -/

/-- What the exchange messages promise for ticket contents `c` sealed under `serviceKey`, an
authenticator `a`, the mutual-authentication bit and a reply under the ticket's session key,
with the random sources the ticket, the request and the reply are built from. -/
structure RoundTrips (cs : CipherSuite) (serviceKey : SessionKey) (c : TicketContents)
    (a : Authenticator) (mutualAuth : Bool) (reply : Reply) (r₀ r r₁ : RandomSource) : Prop where
  /-- Contents with a field that does not fit are refused as a bad length. -/
  ticketRefused : ¬ TicketFits c → ((sealTicket cs serviceKey c).run.run r₀).1 = .error (.codec .badLength)
  /-- Contents whose fields fit are sealed into a blob. A request carrying that blob, for a
  ticket on the same session key, is built exactly when its own fields fit, and otherwise
  refused as a bad length; once built, it reads back under the service key to the contents,
  the authenticator and the mutual-authentication bit. -/
  ticketSealed : TicketFits c → ∃ blob, ((sealTicket cs serviceKey c).run.run r₀).1 = .ok blob ∧
    ∀ t : ServiceTicket, t.sessionKey = c.sessionKey → t.blob = blob →
      (RequestFields t.sessionKey blob a.client →
        ∃ body, ((buildRequest cs t a mutualAuth).run.run r).1 = .ok body ∧
          readRequest cs serviceKey body = .ok ⟨c, a, mutualAuth⟩) ∧
      (¬ RequestFields t.sessionKey blob a.client →
        ((buildRequest cs t a mutualAuth).run.run r).1 = .error (.codec .badLength))
  /-- A reply is built under the session key and reads back under it to itself. -/
  replyReadsBack : ∃ body, ((buildReply cs c.sessionKey reply).run.run r₁).1 = .ok body ∧
    readReply cs c.sessionKey body = .ok reply

/-- Under a lawful cipher, with a supported service key and ticket contents on a supported
session key, the exchange messages read back to what built them, whatever the authenticator,
the mutual-authentication bit, the reply and the bytes drawn from sources that do not fail. -/
theorem exchange_messages_round_trip (lawful : cs.Lawful) {serviceKey : SessionKey}
    {c : TicketContents} (serviceSupported : serviceKey.Supported)
    (sessionSupported : c.sessionKey.Supported) (a : Authenticator) (mutualAuth : Bool)
    (reply : Reply) {r₀ r r₁ : RandomSource} (steady₀ : r₀.failing = false)
    (steady : r.failing = false) (steady₁ : r₁.failing = false) :
    RoundTrips cs serviceKey c a mutualAuth reply r₀ r r₁ := by
  refine ⟨fun tooLong => by rw [sealTicket_run_error r₀ tooLong], fun fits => ?_, ?_⟩
  · obtain ⟨plain, made⟩ := ticketPlain_ok fits.1 fits.2.1 fits.2.2
    obtain ⟨blob, -, sealing, -, -⟩ := @sealTicket_run cs serviceKey c plain r₀ made
      serviceSupported steady₀
    have issued : ((sealTicket cs serviceKey c).run.run r₀).1 = .ok blob := by rw [sealing]
    refine ⟨blob, issued, fun t sameKey sameBlob => ⟨fun fields => ?_, fun tooLong => ?_⟩⟩
    · have supported : t.sessionKey.Supported := sameKey ▸ sessionSupported
      obtain ⟨body, built, -⟩ := @buildRequest_run_of_fields cs t a mutualAuth r supported
        (sameBlob ▸ fields) steady
      have builtOk : ((buildRequest cs t a mutualAuth).run.run r).1 = .ok body := by rw [built]
      exact ⟨body, builtOk,
        readRequest_of_buildRequest lawful builtOk (sameBlob ▸ issued) sameKey.symm sessionSupported⟩
    · exact buildRequest_run_error mutualAuth (sameKey ▸ sessionSupported) steady (sameBlob ▸ tooLong)
  · obtain ⟨body, built, -⟩ := @buildReply_run cs c.sessionKey reply r₁ sessionSupported steady₁
    have builtOk : ((buildReply cs c.sessionKey reply).run.run r₁).1 = .ok body := by rw [built]
    exact ⟨body, builtOk, readReply_of_buildReply lawful builtOk⟩

/-- Over the identity cipher, which is lawful, contents for a client on a single-DES session key
sealed under a single-DES service key round-trip with any authenticator and reply. -/
theorem exchange_messages_round_trip_for_alice :
    RoundTrips ⟨⟨fun _ => ⟨id, id⟩⟩, ⟨fun _ => ⟨id, id⟩⟩⟩ ⟨.desCbcMd5, List.replicate 8 7⟩
      ⟨"alice", "host/server", ⟨.desCbcMd5, List.replicate 8 1⟩, 1000, 2000⟩
      ⟨"alice", 1500, 42, { flags := 2 }⟩ true ⟨1500, 7⟩ {} {} {} :=
  exchange_messages_round_trip ⟨fun _ _ => rfl, fun _ _ => rfl⟩ ⟨.des, rfl, rfl⟩ ⟨.des, rfl, rfl⟩
    _ true _ rfl rfl rfl

end Exchange

end GssApi
