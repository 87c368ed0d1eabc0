import GssApi.Bytes
/-! Base64 text of bytes.

Every three bytes become four characters of the standard alphabet; a final one or two bytes
become two or three characters followed by `=` padding to four. -/
namespace GssApi.Text

/-- The standard alphabet. -/
def base64Alphabet : List Char :=
  "ABCDEFGHIJKLMNOPQRSTUVWXYZabcdefghijklmnopqrstuvwxyz0123456789+/".toList

/-- The character of a six-bit value. -/
def base64Char (n : Nat) : Char := base64Alphabet.getD (n % 64) 'A'

/-- The characters of up to three bytes, padded to four. -/
def base64Group (a b c : Nat) (count : Nat) : List Char :=
  let n := a * 65536 + b * 256 + c
  let chars := [n / 262144, n / 4096 % 64, n / 64 % 64, n % 64].map base64Char
  chars.take (count + 1) ++ List.replicate (3 - count) '='

def base64Chars : Bytes → List Char
  | a :: b :: c :: rest => base64Group a.toNat b.toNat c.toNat 3 ++ base64Chars rest
  | [a, b] => base64Group a.toNat b.toNat 0 2
  | [a] => base64Group a.toNat 0 0 1
  | [] => []

/-- The base64 text of bytes. -/
def base64 (bs : Bytes) : String := String.ofList (base64Chars bs)

end GssApi.Text
