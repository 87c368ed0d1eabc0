import GssApi.Codec.Error
/-! Definite lengths of the distinguished encoding rules.

A length below 128 is one byte. A larger length is a byte `0x80 | k` followed by the `k`
significant bytes of the length, most significant first. Tokens allow at most four length
octets, so writing a length of 2^32 or more fails. Reading accepts any first length octet,
including a non-minimal encoding with leading zero octets. -/
namespace GssApi.Codec

/-- The number of bytes needed to write `n` in base 256; zero needs none. -/
def significantBytes (n : Nat) : Nat :=
  if n = 0 then 0 else significantBytes (n / 256) + 1
decreasing_by omega

/-- The most length octets a token allows. -/
def maxLengthOctets : Nat := 4

/-- The size of the encoding of a length, whether or not it can be written. -/
def lengthSize (n : Nat) : Nat :=
  if n < 0x80 then 1 else 1 + significantBytes n

/-- The encoding of a length, or `badLength` when it needs more than four octets. -/
def writeLength (n : Nat) : Except CodecError Bytes :=
  if n < 0x80 then .ok [UInt8.ofNat n]
  else
    let k := significantBytes n
    if k > maxLengthOctets then .error .badLength
    else .ok (UInt8.ofNat (0x80 + k) :: Bytes.beOfNat k n)

/-- Read a length from the front of `bs`: the length and the number of bytes it took. -/
def readLength (bs : Bytes) : Except CodecError (Nat × Nat) :=
  match bs with
  | [] => .error (.truncated 1 0)
  | first :: rest =>
    if first < 0x80 then .ok (first.toNat, 1)
    else
      let k := (first &&& 0x7F).toNat
      if k = 0 ∨ k > maxLengthOctets then .error .badLength
      else if rest.length < k then .error (.truncated (1 + k) bs.length)
      else .ok (Bytes.beToNat (rest.take k), 1 + k)

end GssApi.Codec
