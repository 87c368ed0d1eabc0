import GssApi.Codec.TokenTag
/-! The header of per-message tokens.

Integrity and wrap tokens start with an 8-byte header: the token tag, the signing algorithm
and the sealing algorithm as little-endian 16-bit words, and the filler `FF FF`. Reading
needs all eight bytes before it looks at any of them. -/
namespace GssApi

/-- The header of an integrity or wrap token. -/
structure MessageHeader where
  tag : TokenTag
  sgnAlg : UInt16
  sealAlg : UInt16 := 0xFFFF
  deriving DecidableEq

namespace MessageHeader

/-- The sealing algorithm value meaning "no encryption". -/
def sealNone : UInt16 := 0xFFFF
/-- The value of the filler field. -/
def filler : UInt16 := 0xFFFF
/-- The length of an encoded header. -/
def encodedLength : Nat := 8

def encode (h : MessageHeader) : Bytes :=
  h.tag.bytes ++ Bytes.u16le h.sgnAlg ++ Bytes.u16le h.sealAlg ++ Bytes.u16le filler

/-- Read a header of the expected kind from the front of `data`. -/
def parse (data : Bytes) (expected : TokenTag) : Except CodecError MessageHeader := do
  need data encodedLength
  let rest ← Codec.stripTag data expected
  let sgnAlg := UInt16.ofNat (Bytes.leToNat (rest.take 2))
  let sealAlg := UInt16.ofNat (Bytes.leToNat ((rest.drop 2).take 2))
  let fill := UInt16.ofNat (Bytes.leToNat ((rest.drop 4).take 2))
  if fill ≠ filler then throw (.badField .filler fill)
  pure { tag := expected, sgnAlg, sealAlg }

end MessageHeader

end GssApi
