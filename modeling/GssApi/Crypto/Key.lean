import GssApi.Crypto.Error
import GssApi.Bytes
/-! Session keys and their construction from random bytes.

A session key is a key type and the key bytes; a key of a known type has exactly that type's
length. DES key bytes carry odd parity in their low bit. A DES key is made from 8 random
bytes by fixing each byte's parity; a triple-DES key is made from 21 random bytes, 7 per
DES key, by the RFC 3961 expansion: the low bits of the 7 bytes move into an eighth byte,
and then every byte's parity is fixed. -/
namespace GssApi

/-- A key of a given type. -/
structure SessionKey where
  encType : EncType
  bytes : Bytes
  deriving DecidableEq, Inhabited

namespace SessionKey

/-- A key of the given type, refused when a known type gets the wrong number of bytes. -/
def new (e : EncType) (bs : Bytes) : Except CryptoError SessionKey :=
  match e.keyLength? with
  | some n =>
    if bs.length = n then .ok ⟨e, bs⟩
    else .error (.invalidKey (e.label ++ " key must be " ++ toString n ++ " bytes, got "
      ++ toString bs.length))
  | none => .ok ⟨e, bs⟩

/-- A description that shows the type and length but never the key bytes. -/
def describe (k : SessionKey) : String :=
  "SessionKey(" ++ k.encType.label ++ ", [REDACTED, " ++ toString k.bytes.length ++ " bytes])"

/-- The checksum kind the key makes. -/
def checksumKind? (k : SessionKey) : Option ChecksumKind := k.encType.checksumKind?

end SessionKey

/-- The number of one bits in a byte. -/
def popCount (b : UInt8) : Nat := (List.range 8).countP fun i => (b >>> i.toUInt8) &&& 1 = 1

/-- Replace the low bit of a byte so that the byte has an odd number of one bits. -/
def fixParity (b : UInt8) : UInt8 :=
  let high := b &&& 0xFE
  if popCount high % 2 = 1 then high else high ||| 1

/-- Every byte has an odd number of one bits. -/
def oddParity (bs : Bytes) : Bool := bs.all fun b => popCount b % 2 = 1

/-- Eight key bytes from seven: the seven bytes, then a byte holding their low bits, the low
bit of byte `i` at bit `i + 1`; every byte's parity is then fixed. -/
def expandSeven (chunk : Bytes) : Bytes :=
  let last := (chunk.zipIdx.foldl (fun acc (b, i) => acc ||| ((b &&& 1) <<< (i + 1).toUInt8)) 0)
  (chunk ++ [last]).map fixParity

/-- The triple-DES key bytes of a 21-byte seed: each 7-byte third expanded to 8 bytes. -/
def des3KeyBytes (seed : Bytes) : Bytes :=
  expandSeven (seed.take 7) ++ expandSeven ((seed.drop 7).take 7) ++ expandSeven (seed.drop 14)

/-- The number of random bytes a key of the type is made from. -/
def seedLength (e : EncType) : Except CryptoError Nat :=
  match e.seedLength? with
  | some n => .ok n
  | none => .error (.unsupportedKeyType e.number)

/-- The key of the given type made from random bytes of the type's seed length. -/
def randomToKey (e : EncType) (seed : Bytes) : Except CryptoError SessionKey := do
  let n ← seedLength e
  if seed.length ≠ n then
    throw (.invalidKey (toString n ++ " seed bytes required, got " ++ toString seed.length))
  let bytes := match e.family? with
    | some .tripleDes => des3KeyBytes seed
    | _ => seed.map fixParity
  SessionKey.new e bytes

end GssApi
