import GssApi.Bytes
/-! Message digests of the MD4 family: MD5 (RFC 1321) and SHA-1 (FIPS 180-4).

Both pad the message with a one bit, zeros up to 56 bytes modulo 64 and the bit length in
eight bytes, then compress it in 64-byte blocks into a state of 32-bit words. MD5 reads and
writes words little-endian, SHA-1 big-endian. -/
namespace GssApi.Digest

/-- The first `n` 64-byte blocks of a message. -/
def takeBlocks : Nat → Bytes → List Bytes
  | 0, _ => []
  | n + 1, bs => bs.take 64 :: takeBlocks n (bs.drop 64)

/-- Cut a padded message into its 64-byte blocks. -/
def blocks64 (bs : Bytes) : List Bytes := takeBlocks (bs.length / 64) bs

/-- Pad a message: the byte 0x80, zeros to 56 modulo 64, and the bit length in the given
eight-byte form. -/
def pad (lengthBytes : Nat → Bytes) (bs : Bytes) : Bytes :=
  let zeros := (119 - bs.length % 64) % 64
  bs ++ [0x80] ++ List.replicate zeros 0 ++ lengthBytes (bs.length * 8)

/-- The 32-bit words of a block, four bytes each, in the given byte order. -/
def words (ofFour : Bytes → Nat) (block : Bytes) : Array UInt32 :=
  ((List.range 16).map fun i => UInt32.ofNat (ofFour ((block.drop (4 * i)).take 4))).toArray

def rotl (x : UInt32) (n : UInt32) : UInt32 := (x <<< n) ||| (x >>> (32 - n))

/-- Per-step additive constants of MD5. -/
def md5Constants : Array UInt32 := #[
  0xd76aa478, 0xe8c7b756, 0x242070db, 0xc1bdceee, 0xf57c0faf, 0x4787c62a, 0xa8304613, 0xfd469501,
  0x698098d8, 0x8b44f7af, 0xffff5bb1, 0x895cd7be, 0x6b901122, 0xfd987193, 0xa679438e, 0x49b40821,
  0xf61e2562, 0xc040b340, 0x265e5a51, 0xe9b6c7aa, 0xd62f105d, 0x02441453, 0xd8a1e681, 0xe7d3fbc8,
  0x21e1cde6, 0xc33707d6, 0xf4d50d87, 0x455a14ed, 0xa9e3e905, 0xfcefa3f8, 0x676f02d9, 0x8d2a4c8a,
  0xfffa3942, 0x8771f681, 0x6d9d6122, 0xfde5380c, 0xa4beea44, 0x4bdecfa9, 0xf6bb4b60, 0xbebfbc70,
  0x289b7ec6, 0xeaa127fa, 0xd4ef3085, 0x04881d05, 0xd9d4d039, 0xe6db99e5, 0x1fa27cf8, 0xc4ac5665,
  0xf4292244, 0x432aff97, 0xab9423a7, 0xfc93a039, 0x655b59c3, 0x8f0ccc92, 0xffeff47d, 0x85845dd1,
  0x6fa87e4f, 0xfe2ce6e0, 0xa3014314, 0x4e0811a1, 0xf7537e82, 0xbd3af235, 0x2ad7d2bb, 0xeb86d391]

/-- Per-step rotation amounts of MD5. -/
def md5Shifts : Array UInt32 := #[
  7, 12, 17, 22, 7, 12, 17, 22, 7, 12, 17, 22, 7, 12, 17, 22,
  5, 9, 14, 20, 5, 9, 14, 20, 5, 9, 14, 20, 5, 9, 14, 20,
  4, 11, 16, 23, 4, 11, 16, 23, 4, 11, 16, 23, 4, 11, 16, 23,
  6, 10, 15, 21, 6, 10, 15, 21, 6, 10, 15, 21, 6, 10, 15, 21]

/-- One MD5 step `i` on the working state `(a, b, c, d)`. -/
def md5Step (m : Array UInt32) (s : UInt32 × UInt32 × UInt32 × UInt32) (i : Nat) :
    UInt32 × UInt32 × UInt32 × UInt32 :=
  let (a, b, c, d) := s
  let (f, g) :=
    if i < 16 then ((b &&& c) ||| (~~~b &&& d), i)
    else if i < 32 then ((d &&& b) ||| (~~~d &&& c), (5 * i + 1) % 16)
    else if i < 48 then (b ^^^ c ^^^ d, (3 * i + 5) % 16)
    else (c ^^^ (b ||| ~~~d), (7 * i) % 16)
  let f := f + a + md5Constants.getD i 0 + m.getD g 0
  (d, b + rotl f (md5Shifts.getD i 0), b, c)

/-- Compress one block into the MD5 state. -/
def md5Block (s : UInt32 × UInt32 × UInt32 × UInt32) (block : Bytes) :
    UInt32 × UInt32 × UInt32 × UInt32 :=
  let m := words Bytes.leToNat block
  let (a, b, c, d) := (List.range 64).foldl (md5Step m) s
  let (a0, b0, c0, d0) := s
  (a0 + a, b0 + b, c0 + c, d0 + d)

/-- The 16-byte MD5 digest. -/
def md5 (msg : Bytes) : Bytes :=
  let (a, b, c, d) := (blocks64 (pad (Bytes.leOfNat 8) msg)).foldl md5Block
    (0x67452301, 0xefcdab89, 0x98badcfe, 0x10325476)
  Bytes.u32le a ++ Bytes.u32le b ++ Bytes.u32le c ++ Bytes.u32le d

/-- The 80-word SHA-1 message schedule of a block. -/
def sha1Schedule (block : Bytes) : Array UInt32 :=
  (List.range 64).foldl (fun w i =>
    w.push (rotl (w.getD (i + 13) 0 ^^^ w.getD (i + 8) 0 ^^^ w.getD (i + 2) 0 ^^^ w.getD i 0) 1))
    (words Bytes.beToNat block)

/-- One SHA-1 round `i` on the working state `(a, b, c, d, e)`. -/
def sha1Step (w : Array UInt32) (s : UInt32 × UInt32 × UInt32 × UInt32 × UInt32) (i : Nat) :
    UInt32 × UInt32 × UInt32 × UInt32 × UInt32 :=
  let (a, b, c, d, e) := s
  let (f, k) :=
    if i < 20 then ((b &&& c) ||| (~~~b &&& d), (0x5A827999 : UInt32))
    else if i < 40 then (b ^^^ c ^^^ d, 0x6ED9EBA1)
    else if i < 60 then ((b &&& c) ||| (b &&& d) ||| (c &&& d), 0x8F1BBCDC)
    else (b ^^^ c ^^^ d, 0xCA62C1D6)
  (rotl a 5 + f + e + k + w.getD i 0, a, rotl b 30, c, d)

/-- Compress one block into the SHA-1 state. -/
def sha1Block (s : UInt32 × UInt32 × UInt32 × UInt32 × UInt32) (block : Bytes) :
    UInt32 × UInt32 × UInt32 × UInt32 × UInt32 :=
  let w := sha1Schedule block
  let (a, b, c, d, e) := (List.range 80).foldl (sha1Step w) s
  let (a0, b0, c0, d0, e0) := s
  (a0 + a, b0 + b, c0 + c, d0 + d, e0 + e)

/-- The 20-byte SHA-1 digest. -/
def sha1 (msg : Bytes) : Bytes :=
  let (a, b, c, d, e) := (blocks64 (pad (Bytes.beOfNat 8) msg)).foldl sha1Block
    (0x67452301, 0xEFCDAB89, 0x98BADCFE, 0x10325476, 0xC3D2E1F0)
  Bytes.u32be a ++ Bytes.u32be b ++ Bytes.u32be c ++ Bytes.u32be d ++ Bytes.u32be e

/-- HMAC (RFC 2104) over SHA-1: keys longer than a block are hashed first, then padded with
zeros to 64 bytes and mixed with the inner and outer pads. -/
def hmacSha1 (key msg : Bytes) : Bytes :=
  let k := if key.length > 64 then sha1 key else key
  let k := k ++ List.replicate (64 - k.length) 0
  let inner := sha1 (k.map (· ^^^ 0x36) ++ msg)
  sha1 (k.map (· ^^^ 0x5c) ++ inner)

end GssApi.Digest
