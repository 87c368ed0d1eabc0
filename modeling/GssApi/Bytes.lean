/-! Byte strings and their textual and numeric forms.

Tokens, keys and checksums are byte strings, kept as `List UInt8` so that codecs can be
stated and proved by recursion on the list. This module holds the lowercase hexadecimal
text used in every answer, the reader for hexadecimal input, and the fixed-width
big- and little-endian integer encodings used by the token formats. -/
namespace GssApi

/-- A byte string: a token, a key, a checksum or a message. -/
abbrev Bytes := List UInt8

/-- The lowercase hexadecimal digit for a value below 16. -/
def hexDigit (n : Nat) : Char :=
  if n < 10 then Char.ofNat (48 + n) else Char.ofNat (87 + n)

/-- The value of one hexadecimal digit, in either case. -/
def hexValue? (c : Char) : Option Nat :=
  if '0' ≤ c ∧ c ≤ '9' then some (c.toNat - 48)
  else if 'a' ≤ c ∧ c ≤ 'f' then some (c.toNat - 87)
  else if 'A' ≤ c ∧ c ≤ 'F' then some (c.toNat - 55)
  else none

/-- The digits of `n` in base 16, most significant first, with no leading zeros
except for zero itself. -/
def hexDigitsOf (n : Nat) : List Char :=
  if n < 16 then [hexDigit n] else hexDigitsOf (n / 16) ++ [hexDigit (n % 16)]
decreasing_by omega

/-- Lowercase hexadecimal text of a number, without prefix or padding. -/
def hexText (n : Nat) : String := String.ofList (hexDigitsOf n)

/-- Lowercase hexadecimal text of a number, padded with zeros to at least `width` digits. -/
def hexPadded (width n : Nat) : String :=
  let digits := hexDigitsOf n
  String.ofList (List.replicate (width - digits.length) '0' ++ digits)

namespace Bytes

/-- Two lowercase hexadecimal digits per byte, most significant digit first. -/
def toHex (bs : Bytes) : String :=
  bs.foldl (fun acc b => (acc.push (hexDigit (b.toNat / 16))).push (hexDigit (b.toNat % 16))) ""

/-- Pair up hexadecimal digits into bytes; an odd digit count or a non-digit fails. -/
def ofHexDigits : List Char → Option Bytes
  | [] => some []
  | [_] => none
  | hi :: lo :: rest => do
    let h ← hexValue? hi
    let l ← hexValue? lo
    let tail ← ofHexDigits rest
    pure (UInt8.ofNat (h * 16 + l) :: tail)

/-- Whether a character has the Unicode White_Space property: the tab, line feed, line
tabulation, form feed and carriage return controls, the space, the next line control, the
no-break space, the Ogham space mark, the spaces U+2000 to U+200A, the line and paragraph
separators, the narrow no-break space, the medium mathematical space and the ideographic
space. -/
def isWhiteSpace (c : Char) : Bool :=
  let n := c.toNat
  (0x09 ≤ n && n ≤ 0x0D) || n = 0x20 || n = 0x85 || n = 0xA0 || n = 0x1680 ||
    (0x2000 ≤ n && n ≤ 0x200A) || n = 0x2028 || n = 0x2029 || n = 0x202F || n = 0x205F ||
    n = 0x3000

/-- Read hexadecimal text, ignoring whitespace anywhere in it. -/
def ofHex? (s : String) : Option Bytes :=
  ofHexDigits (s.toList.filter (fun c => !isWhiteSpace c))

/-- The UTF-8 encoding of a string. -/
def ofString (s : String) : Bytes := s.toUTF8.toList

/-- Big-endian bytes of the low `n` bytes of a number. -/
def beOfNat : Nat → Nat → Bytes
  | 0, _ => []
  | n + 1, v => beOfNat n (v / 256) ++ [UInt8.ofNat v]

/-- Little-endian bytes of the low `n` bytes of a number. -/
def leOfNat : Nat → Nat → Bytes
  | 0, _ => []
  | n + 1, v => UInt8.ofNat v :: leOfNat n (v / 256)

/-- The number whose big-endian bytes these are. -/
def beToNat (bs : Bytes) : Nat := bs.foldl (fun acc b => acc * 256 + b.toNat) 0

/-- The number whose little-endian bytes these are. -/
def leToNat (bs : Bytes) : Nat := bs.foldr (fun b acc => b.toNat + 256 * acc) 0

def u16be (v : UInt16) : Bytes := beOfNat 2 v.toNat
def u16le (v : UInt16) : Bytes := leOfNat 2 v.toNat
def u32be (v : UInt32) : Bytes := beOfNat 4 v.toNat
def u32le (v : UInt32) : Bytes := leOfNat 4 v.toNat
def u64be (v : UInt64) : Bytes := beOfNat 8 v.toNat

/-- Bytewise exclusive or, as long as the shorter operand. -/
def xor (a b : Bytes) : Bytes := List.zipWith (· ^^^ ·) a b

/-- Comparison of two byte strings that looks at every byte of equally long inputs:
equal lengths and an all-zero accumulated difference. -/
def sameBytes (a b : Bytes) : Bool :=
  a.length == b.length && (List.zipWith (· ^^^ ·) a b).foldl (· ||| ·) 0 == 0

end Bytes

end GssApi
