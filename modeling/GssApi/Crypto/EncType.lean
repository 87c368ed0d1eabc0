/-! Key types and checksum kinds.

A key type (an encryption type number of the ticket protocol) fixes the block cipher, the
key length and the keyed checksum used with a key. The single-DES types 1, 2 and 3 use DES
with 8-byte keys and the RSA-MD5-DES checksum; type 16 uses triple DES with 24-byte keys and
HMAC-SHA1 under a derived key. Every other number is known by its number only. -/
namespace GssApi

/-- An encryption type of the ticket protocol. -/
inductive EncType where
  | desCbcCrc
  | desCbcMd4
  | desCbcMd5
  | des3CbcSha1Kd
  | other (n : Int32)
  deriving DecidableEq, Repr, Inhabited

/-- The block cipher behind a key type. -/
inductive CipherFamily where
  /-- Single DES, 8-byte keys. -/
  | des
  /-- Triple DES in encrypt-decrypt-encrypt order, 24-byte keys. -/
  | tripleDes
  deriving DecidableEq, Repr

/-- The keyed checksums a session key can make. -/
inductive ChecksumKind where
  /-- MD5 of the data, encrypted under the DES key with a zero vector; the last block. -/
  | rsaMd5Des
  /-- HMAC-SHA1 under a key derived from the triple-DES key and the key usage. -/
  | hmacSha1Des3Kd
  deriving DecidableEq, Repr

namespace EncType

def number : EncType → Int32
  | desCbcCrc => 1
  | desCbcMd4 => 2
  | desCbcMd5 => 3
  | des3CbcSha1Kd => 16
  | other n => n

def ofNumber (n : Int32) : EncType :=
  if n = 1 then desCbcCrc
  else if n = 2 then desCbcMd4
  else if n = 3 then desCbcMd5
  else if n = 16 then des3CbcSha1Kd
  else other n

/-- The name of the type, as key descriptions print it. -/
def label : EncType → String
  | desCbcCrc => "DesCbcCrc"
  | desCbcMd4 => "DesCbcMd4"
  | desCbcMd5 => "DesCbcMd5"
  | des3CbcSha1Kd => "Des3CbcSha1Kd"
  | other n => "Other(" ++ toString n.toInt ++ ")"

/-- The block cipher of a known key type. -/
def family? : EncType → Option CipherFamily
  | desCbcCrc | desCbcMd4 | desCbcMd5 => some .des
  | des3CbcSha1Kd => some .tripleDes
  | other _ => none

/-- The key length of a known key type. -/
def keyLength? (e : EncType) : Option Nat :=
  e.family?.map fun
    | .des => 8
    | .tripleDes => 24

/-- The number of random bytes a key of a known type is made from. -/
def seedLength? (e : EncType) : Option Nat :=
  e.family?.map fun
    | .des => 8
    | .tripleDes => 21

/-- The keyed checksum of a known key type. -/
def checksumKind? (e : EncType) : Option ChecksumKind :=
  e.family?.map fun
    | .des => .rsaMd5Des
    | .tripleDes => .hmacSha1Des3Kd

end EncType

namespace ChecksumKind

def outputLength : ChecksumKind → Nat
  | rsaMd5Des => 8
  | hmacSha1Des3Kd => 20

def name : ChecksumKind → String
  | rsaMd5Des => "rsa-md5-des-gss"
  | hmacSha1Des3Kd => "hmac-sha1-des3-kd"

def ofName? : String → Option ChecksumKind
  | "rsa-md5-des-gss" => some rsaMd5Des
  | "hmac-sha1-des3-kd" => some hmacSha1Des3Kd
  | _ => none

/-- The cipher a checksum kind needs its key to use. -/
def family : ChecksumKind → CipherFamily
  | rsaMd5Des => .des
  | hmacSha1Des3Kd => .tripleDes

end ChecksumKind

end GssApi
