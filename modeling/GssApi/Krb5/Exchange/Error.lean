import GssApi.Krb5.Minor
import GssApi.Text.Utf8
/-! Faults of the sealed authentication exchange.

Reading an exchange message can find malformed fields, a failed integrity check, an
authenticator checksum of the wrong type, a principal name that is not text, or a fault of
the cryptographic layer. Raised to the security service, malformed fields make a defective
token, cryptographic faults stay cryptographic, and the rest are validation failures. -/
namespace GssApi

/-- Why an exchange message could not be built or read. -/
inductive ApError where
  | codec (err : CodecError)
  | integrity
  | checksumType (value : Int32)
  | principal (fault : Text.Utf8Fault)
  | crypto (err : CryptoError)
  deriving DecidableEq

namespace ApError

/-- The variant's name, as reports name it; wrapped faults add their own variant. -/
def kind : ApError → String
  | .codec e => "Codec." ++ e.kind
  | .integrity => "Integrity"
  | .checksumType _ => "ChecksumType"
  | .principal _ => "Utf8"
  | .crypto e => "Crypto." ++ e.kind

def message : ApError → String
  | .codec e => "Malformed exchange message: " ++ e.message
  | .integrity => "Integrity check failed"
  | .checksumType n => "Unsupported authenticator checksum type 0x" ++ hexText n.toUInt32.toNat
  | .principal f => "Invalid principal name: " ++ f.message
  | .crypto e => "Crypto error: " ++ e.message

/-- The security service error an exchange fault is reported as. -/
def toGss : ApError → GssError
  | .codec e => .defectiveToken e
  | .crypto e => .crypto e
  | e => .failure e.message Minor.validateFailed

end ApError

end GssApi
