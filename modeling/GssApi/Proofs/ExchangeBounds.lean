import GssApi.Proofs.CodecBounds
import GssApi.Proofs.Cipher
import GssApi.Krb5.Exchange.Message

/-! Slices that stay in range, in the messages of the authentication exchange.

The fields of an exchange message are read through a cursor. Each read first checks that
enough bytes remain, then splits them off; a sealed part is split into ciphertext and checksum
once its length is known to hold both, and its plaintext is read past the confounder of a body
that decryption returned at full length. `Guarded.Reader` is the cursor whose splits stop on a
shortfall. The statements of this module say that the guarded readings of unsealing and of
reading requests and replies never stop and answer what the exchange answers, for every
message: `Guarded.unsealPart_eq`, `Guarded.readRequest_eq` and `Guarded.readReply_eq`. -/

namespace GssApi.Guarded

/-- Reading fields from the front of a message through a cursor whose splits stop on a
shortfall. -/
abbrev Reader := StateT Bytes (Guarded ApError)

namespace Reader

variable {α β : Type}

/-- A reader that makes no access of its own. -/
def ofReader (r : Exchange.Reader α) : Reader α := fun bs => ofExcept (r bs)

/-- A word of `width` bytes decoded by `decode`: the reader checks that the bytes remain, then
the cursor splits them off. Reading a byte, a 32- or 64-bit word, a length prefix or a field's
bytes are all of this form. -/
def word (width : Nat) (decode : Bytes → α) : Reader α := fun bs => do
  ofExcept ((need bs width).mapError .codec)
  let (head, tail) ← splitAt bs width
  pure (decode head, tail)

/-- The next `n` bytes. -/
def take (n : Nat) : Reader Bytes := word n id

def u8 : Reader UInt8 := word 1 (·.headD 0)

def u32 : Reader UInt32 := word 4 fun b => UInt32.ofNat (Bytes.beToNat b)

def i32 : Reader Int32 := word 4 fun b => Int32.ofNat (Bytes.beToNat b)

def u64 : Reader UInt64 := word 8 fun b => UInt64.ofNat (Bytes.beToNat b)

/-- A byte field: its 16-bit length prefix, then that many bytes. -/
def field : Reader Bytes := do
  let n ← word 2 Bytes.beToNat
  take n

/-- A text field; its bytes must be UTF-8. -/
def text : Reader String := do
  match Text.decodeUtf8 (← field) with
  | .ok s => pure s
  | .error fault => throw (.principal fault)

/-- Require that the whole message has been read; this makes no access. -/
def finish : Reader Unit := ofReader Exchange.Reader.finish

/-- The value a reader reads from the front of a message. -/
def read (r : Reader α) (bs : Bytes) : Guarded ApError α := Prod.fst <$> r bs

@[simp] theorem ofReader_pure (a : α) : ofReader (pure a : Exchange.Reader α) = pure a := rfl

@[simp] theorem ofReader_throw (e : ApError) : ofReader (throw e : Exchange.Reader α) = throw e := rfl

@[simp] theorem throw_bind (e : ApError) (f : α → Reader β) : (throw e : Reader α) >>= f = throw e := rfl

@[simp] theorem model_throw_bind (e : ApError) (f : α → Exchange.Reader β) :
    (throw e : Exchange.Reader α) >>= f = throw e := rfl

@[simp] theorem lift_pure (a : α) : (StateT.lift (pure a : Guarded ApError α) : Reader α) = pure a := rfl

@[simp] theorem lift_throw (e : ApError) :
    (StateT.lift (throw e : Guarded ApError α) : Reader α) = throw e := rfl

theorem ofReader_bind (r : Exchange.Reader α) (f : α → Exchange.Reader β) :
    ofReader (r >>= f) = ofReader r >>= fun a => ofReader (f a) := by
  funext bs
  change ofExcept (r bs >>= fun p => f p.1 p.2) = ofExcept (r bs) >>= fun p => ofExcept (f p.1 p.2)
  cases r bs <;> rfl

theorem ofReader_map (f : α → β) (r : Exchange.Reader α) : ofReader (f <$> r) = f <$> ofReader r := by
  funext bs
  change ofExcept ((fun p => (f p.1, p.2)) <$> r bs) = (fun p => (f p.1, p.2)) <$> ofExcept (r bs)
  cases r bs <;> rfl

theorem read_ofReader (r : Exchange.Reader α) (bs : Bytes) :
    read (ofReader r) bs = ofExcept (r.read bs) := by
  simp only [read, ofReader, Exchange.Reader.read, StateT.run]
  cases r bs <;> rfl

/-- A word read checks for the bytes before the cursor splits them off. -/
theorem word_eq (width : Nat) (decode : Bytes → α) :
    word width decode = ofReader (do pure (decode (← Exchange.Reader.take width))) := by
  funext bs
  change _ = ofExcept (Exchange.Reader.take width bs >>= fun p => pure (decode p.1, p.2))
  by_cases short : bs.length < width
  · simp only [word, Exchange.Reader.take, need, short, if_true, Except.mapError, ofExcept_error,
      Guarded.throw_bind]
    rfl
  · simp only [word, Exchange.Reader.take, need, short, if_false, Except.mapError, ofExcept_ok,
      pure_bind, splitAt_of_le (Nat.le_of_not_lt short)]
    rfl

theorem take_eq (n : Nat) : take n = ofReader (Exchange.Reader.take n) := by
  rw [take, word_eq]
  simp only [id, bind_pure]

theorem u8_eq : u8 = ofReader Exchange.Reader.u8 := word_eq 1 _

theorem u32_eq : u32 = ofReader Exchange.Reader.u32 := word_eq 4 _

theorem i32_eq : i32 = ofReader Exchange.Reader.i32 := word_eq 4 _

theorem u64_eq : u64 = ofReader Exchange.Reader.u64 := word_eq 8 _

theorem field_eq : field = ofReader Exchange.Reader.field := by
  simp only [field, Exchange.Reader.field, word_eq, take_eq, ofReader_bind, ofReader_pure, bind_assoc,
    pure_bind]

theorem text_eq : text = ofReader Exchange.Reader.text := by
  simp only [text, Exchange.Reader.text, field_eq, ofReader_bind]
  congr
  funext bytes
  cases Text.decodeUtf8 bytes <;> rfl

end Reader

open Reader in
/-- Read the plaintext of a sealed ticket. Making the session key from its type and bytes makes
no access. -/
def ticketReader : Reader Exchange.TicketContents := do
  let client ← text
  let server ← text
  let e := EncType.ofNumber (← i32)
  let keyBytes ← field
  let sessionKey ← ofReader (match SessionKey.new e keyBytes with
    | .ok k => pure k
    | .error err => throw (.crypto err))
  let authtime ← u64
  let endtime ← u64
  finish
  pure { client, server, sessionKey, authtime, endtime }

open Reader in
theorem ticketReader_eq : ticketReader = ofReader Exchange.ticketReader := by
  simp only [ticketReader, Exchange.ticketReader, text_eq, i32_eq, field_eq, u64_eq, finish,
    ofReader_bind]
  refine bind_congr fun client => bind_congr fun server => bind_congr fun n => bind_congr fun keyBytes => ?_
  cases SessionKey.new (EncType.ofNumber n) keyBytes <;> simp [ofReader_bind, ofReader_map]

open Reader in
/-- Read the outer fields of a request: the version, the options, the ticket blob and the
sealed authenticator. Checking the version makes no access. -/
def requestReader : Reader (UInt8 × Bytes × Bytes) := do
  let v ← u8
  ofReader (match Exchange.checkVersion v with
    | .ok () => pure ()
    | .error e => throw (.codec e))
  let options ← u8
  let blob ← field
  let sealed ← field
  finish
  pure (options, blob, sealed)

open Reader in
theorem requestReader_eq : requestReader = ofReader Exchange.requestReader := by
  simp only [requestReader, Exchange.requestReader, u8_eq, field_eq, finish, ofReader_bind]
  refine bind_congr fun v => ?_
  cases Exchange.checkVersion v <;> simp [ofReader_bind, ofReader_map]

open Reader in
/-- Read the plaintext of an authenticator. Its checksum field is decoded by the guarded
decoder, whose failures are codec errors. -/
def authenticatorReader : Reader Exchange.Authenticator := do
  let client ← text
  let ctime ← u64
  let seq ← u32
  let kind ← i32
  if kind ≠ authenticatorChecksumType then throw (.checksumType kind)
  let checksum ← StateT.lift ((decodeChecksum (← field)).mapError .codec)
  finish
  pure { client, ctime, seq, checksum }

open Reader in
theorem authenticatorReader_eq : authenticatorReader = ofReader Exchange.authenticatorReader := by
  simp only [authenticatorReader, Exchange.authenticatorReader, text_eq, u64_eq, u32_eq, i32_eq,
    field_eq, finish, ofReader_bind]
  refine bind_congr fun client => bind_congr fun ctime => bind_congr fun seq => bind_congr fun kind => ?_
  by_cases checked : kind = authenticatorChecksumType
  swap
  · simp [checked]
  simp only [checked, ne_eq, not_true_eq_false, if_false, pure_bind, ofReader_bind]
  refine bind_congr fun bytes => ?_
  rw [decodeChecksum_eq, mapError_ofExcept]
  cases BindingChecksum.decode bytes <;> simp [Except.mapError, ofReader_map]

open Reader in
/-- Read the plaintext of a reply. -/
def replyReader : Reader Exchange.Reply := do
  let ctime ← u64
  let seq ← u32
  finish
  pure { ctime, seq }

open Reader in
theorem replyReader_eq : replyReader = ofReader Exchange.replyReader := by
  simp only [replyReader, Exchange.replyReader, u64_eq, u32_eq, finish, ofReader_bind, ofReader_pure]

open Reader in
/-- Recover the plaintext of a sealed part. The checksum is split off the end once the part is
known to hold it and two blocks; the plaintext is read past the confounder of the decrypted
body. -/
def unsealPart (cs : CipherSuite) (key : SessionKey) (usage : UInt32) (sealed : Bytes) :
    Guarded ApError Bytes := do
  let kind ← ofExcept ((Exchange.checksumFor key).mapError .crypto)
  let macLength := kind.outputLength
  ofExcept ((need sealed (macLength + 2 * Block.size)).mapError .codec)
  let (ciphertext, mac) ← splitAt sealed (← sub sealed.length macLength)
  require (ciphertext.length % Block.size = 0) .integrity
  let body ← ofExcept ((cs.decrypt key CipherSuite.zeroVector ciphertext).mapError .crypto)
  let expected ← ofExcept ((cs.checksum key kind usage body).mapError .crypto)
  require (Bytes.sameBytes expected mac = true) .integrity
  read (do take (← u32).toNat) (← sliceFrom body Exchange.confounderLength)

open Reader in
theorem unsealPart_eq (cs : CipherSuite) (key : SessionKey) (usage : UInt32) (sealed : Bytes) :
    unsealPart cs key usage sealed = ofExcept (Exchange.unsealPart cs key usage sealed) := by
  simp only [unsealPart, Exchange.unsealPart]
  cases Exchange.checksumFor key with
  | error e => rfl
  | ok kind =>
    by_cases short : sealed.length < kind.outputLength + 2 * Block.size
    · simp [need, short, Except.mapError]
    -- the part holds the checksum and two blocks, so the split before the checksum is in range
    have room : kind.outputLength ≤ sealed.length := by omega
    simp only [Except.mapError, ofExcept_ok, pure_bind, Except.ok_bind, need, short, if_false,
      sub_of_le room, splitAt_of_le (Nat.sub_le sealed.length kind.outputLength)]
    have cipherLength : (sealed.take (sealed.length - kind.outputLength)).length ≥ 2 * Block.size := by
      simp only [List.length_take]; omega
    generalize sealed.take (sealed.length - kind.outputLength) = ciphertext at cipherLength ⊢
    generalize sealed.drop (sealed.length - kind.outputLength) = mac
    by_cases whole : ciphertext.length % Block.size = 0
    swap
    · simp [require, whole]
    simp only [require, whole, if_true, ne_eq, not_true_eq_false, if_false, pure_bind]
    cases decrypted : cs.decrypt key CipherSuite.zeroVector ciphertext with
    | error e => rfl
    | ok body =>
      -- decryption keeps the length, so the body holds the confounder
      have bodyLength := CipherSuite.length_of_decrypt decrypted
      simp only [ofExcept_ok, pure_bind, Except.ok_bind]
      cases summed : cs.checksum key kind usage body with
      | error e => rfl
      | ok expected =>
        simp only [ofExcept_ok, pure_bind, Except.ok_bind]
        by_cases same : Bytes.sameBytes expected mac = true
        swap
        · simp [same]
        have plain : (do take (← u32).toNat : Reader Bytes) =
            ofReader (do Exchange.Reader.take (← Exchange.Reader.u32).toNat) := by
          simp only [take_eq, u32_eq, ofReader_bind]
        simp only [same, if_true, Bool.not_true, Bool.false_eq_true, if_false, pure_bind,
          sliceFrom_of_le (show Exchange.confounderLength ≤ body.length by
            simp only [Exchange.confounderLength, Block.size] at bodyLength cipherLength ⊢; omega),
          plain, read_ofReader]

open Reader in
/-- Open a sealed ticket with the server's key. -/
def openTicket (cs : CipherSuite) (serviceKey : SessionKey) (sealed : Bytes) :
    Guarded ApError Exchange.TicketContents := do
  read ticketReader (← unsealPart cs serviceKey Exchange.usageTicket sealed)

open Reader in
theorem openTicket_eq (cs : CipherSuite) (serviceKey : SessionKey) (sealed : Bytes) :
    openTicket cs serviceKey sealed = ofExcept (Exchange.openTicket cs serviceKey sealed) := by
  simp only [openTicket, Exchange.openTicket, unsealPart_eq, ticketReader_eq, ofExcept_bind,
    read_ofReader]

open Reader in
/-- Read a request with the server's key: its outer fields, then the ticket, then the
authenticator under the ticket's session key. -/
def readRequest (cs : CipherSuite) (serviceKey : SessionKey) (body : Bytes) :
    Guarded ApError Exchange.Request := do
  let (options, blob, sealed) ← read requestReader body
  let ticket ← openTicket cs serviceKey blob
  let plain ← unsealPart cs ticket.sessionKey Exchange.usageAuthenticator sealed
  let authenticator ← read authenticatorReader plain
  pure { ticket, authenticator, mutualRequired := options &&& Exchange.optMutual ≠ 0 }

open Reader in
theorem readRequest_eq (cs : CipherSuite) (serviceKey : SessionKey) (body : Bytes) :
    readRequest cs serviceKey body = ofExcept (Exchange.readRequest cs serviceKey body) := by
  simp only [readRequest, Exchange.readRequest, requestReader_eq, read_ofReader, openTicket_eq,
    unsealPart_eq, authenticatorReader_eq, ofExcept_bind, ofExcept_pure]

open Reader in
/-- Read a reply under the session key: the version byte, then the sealed part after it. -/
def readReply (cs : CipherSuite) (key : SessionKey) (body : Bytes) : Guarded ApError Exchange.Reply := do
  ofExcept ((need body 1).mapError .codec)
  ofExcept ((Exchange.checkVersion (← byteAt body 0)).mapError .codec)
  let plain ← unsealPart cs key Exchange.usageReply (← sliceFrom body 1)
  read replyReader plain

open Reader in
theorem readReply_eq (cs : CipherSuite) (key : SessionKey) (body : Bytes) :
    readReply cs key body = ofExcept (Exchange.readReply cs key body) := by
  cases body with
  | nil => rfl
  | cons v rest =>
    simp only [readReply, Exchange.readReply, need_cons_one, byteAt_cons_zero, sliceFrom_cons_one,
      unsealPart_eq, replyReader_eq, read_ofReader, ofExcept_bind, Except.mapError, ofExcept_ok, pure_bind]

end GssApi.Guarded
