import GssApi.Crypto.EncType
/-! Faults of the cryptographic layer, with their wording. -/
namespace GssApi

/-- Why a cryptographic operation failed. -/
inductive CryptoError where
  /-- The key type has no cipher. -/
  | unsupportedKeyType (n : Int32)
  /-- The key or its seed is unusable. -/
  | invalidKey (text : String)
  /-- The data is not a whole number of cipher blocks. -/
  | blockLength (len block : Nat)
  /-- The checksum kind does not go with the key's type. -/
  | checksumUnavailable (kind : ChecksumKind) (keyType : Int32)
  /-- The cipher refused the data. -/
  | cipher (text : String)
  /-- The random source failed. -/
  | rng (text : String)
  deriving DecidableEq

namespace CryptoError

/-- The variant's name, as reports name it. -/
def kind : CryptoError → String
  | .unsupportedKeyType .. => "UnsupportedKeyType"
  | .invalidKey .. => "InvalidKey"
  | .blockLength .. => "BlockLength"
  | .checksumUnavailable .. => "ChecksumUnavailable"
  | .cipher .. => "Cipher"
  | .rng .. => "Rng"

def message : CryptoError → String
  | .unsupportedKeyType n => "Unsupported key type: " ++ toString n.toInt
  | .invalidKey s => "Invalid key: " ++ s
  | .blockLength len block =>
    "Input length " ++ toString len ++ " is not a multiple of " ++ toString block
  | .checksumUnavailable k t =>
    "Checksum " ++ k.name ++ " unavailable for key type " ++ toString t.toInt
  | .cipher s => "Cipher failure: " ++ s
  | .rng s => "Random source failure: " ++ s

end CryptoError

end GssApi
