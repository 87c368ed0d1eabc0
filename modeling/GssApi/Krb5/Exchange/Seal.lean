import GssApi.Krb5.Exchange.Field
import GssApi.Crypto.Suite
import GssApi.Crypto.Random
/-! Sealed parts of the authentication exchange.

A sealed part hides a plaintext under a key and binds it to a key usage. The body is an
8-byte random confounder, the plaintext length as a big-endian word, the plaintext and zero
padding to whole cipher blocks. The body is encrypted with a zero initial vector and followed
by the key's checksum of the body for the usage.

Unsealing checks, in order: that the key has a checksum kind, that there is room for the
checksum and two blocks, that the ciphertext is whole blocks, and that the checksum of the
decrypted body matches; then it reads the length word and that many bytes. Padding and bytes
after the plaintext are not examined. -/
namespace GssApi.Exchange

/-- The length of the random confounder that starts a sealed body. -/
def confounderLength : Nat := 8

/-- Key usage of a sealed ticket. -/
def usageTicket : UInt32 := 2
/-- Key usage of a sealed authenticator. -/
def usageAuthenticator : UInt32 := 11
/-- Key usage of a sealed reply. -/
def usageReply : UInt32 := 12

/-- The checksum kind of a key, which only keys of a known type have. -/
def checksumFor (key : SessionKey) : Except CryptoError ChecksumKind :=
  match key.checksumKind? with
  | some k => .ok k
  | none => .error (.unsupportedKeyType key.encType.number)

/-- Zero bytes that fill the last block of a body of the given length. -/
def padding (len : Nat) : Bytes := List.replicate ((Block.size - len % Block.size) % Block.size) 0

/-- The body that is encrypted: confounder, plaintext length, plaintext, padding. -/
def sealBody (confounder plain : Bytes) : Bytes :=
  let body := confounder ++ Bytes.u32be (UInt32.ofNat plain.length) ++ plain
  body ++ padding body.length

/-- Seal a plaintext with a given confounder. -/
def sealWith (cs : CipherSuite) (key : SessionKey) (kind : ChecksumKind) (usage : UInt32)
    (confounder plain : Bytes) : Except ApError Bytes := do
  let body := sealBody confounder plain
  let mac ← (cs.checksum key kind usage body).mapError .crypto
  let sealed ← (cs.encrypt key CipherSuite.zeroVector body).mapError .crypto
  pure (sealed ++ mac)

/-- Seal a plaintext under a key for a usage, drawing a fresh confounder. -/
def sealPart (cs : CipherSuite) (key : SessionKey) (usage : UInt32) (plain : Bytes) :
    Rand ApError Bytes := do
  let kind ← Rand.ofExcept ((checksumFor key).mapError .crypto)
  let confounder ← (drawBytes confounderLength).mapError .crypto
  Rand.ofExcept (sealWith cs key kind usage confounder plain)

/-- Recover the plaintext of a sealed part. -/
def unsealPart (cs : CipherSuite) (key : SessionKey) (usage : UInt32) (sealed : Bytes) :
    Except ApError Bytes := do
  let kind ← (checksumFor key).mapError .crypto
  let macLength := kind.outputLength
  if sealed.length < macLength + 2 * Block.size then
    throw (.codec (.truncated (macLength + 2 * Block.size) sealed.length))
  let ciphertext := sealed.take (sealed.length - macLength)
  let mac := sealed.drop (sealed.length - macLength)
  if ciphertext.length % Block.size ≠ 0 then throw .integrity
  let body ← (cs.decrypt key CipherSuite.zeroVector ciphertext).mapError .crypto
  let expected ← (cs.checksum key kind usage body).mapError .crypto
  if !Bytes.sameBytes expected mac then throw .integrity
  (do Reader.take (← Reader.u32).toNat).read (body.drop confounderLength)

end GssApi.Exchange
