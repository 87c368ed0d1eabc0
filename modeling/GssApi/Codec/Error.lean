import GssApi.Oid
/-! Faults found while reading or writing token bytes.

Every reader in the codec reports the first fault it meets as a `CodecError`; the wording of
each fault is given once, by `CodecError.message`. -/
namespace GssApi

/-- A fixed-value field of a token whose value was wrong. -/
inductive TokenField where
  /-- The two filler bytes of a per-message header. -/
  | filler
  /-- The binding-length word of an authenticator checksum. -/
  | bindingLength
  /-- The version byte of an exchange message. -/
  | protocolVersion
  deriving DecidableEq, Repr

/-- The name of the field as it appears in messages. -/
def TokenField.name : TokenField → String
  | .filler => "filler"
  | .bindingLength => "binding length"
  | .protocolVersion => "protocol version"

/-- Why token bytes could not be read or written. -/
inductive CodecError where
  /-- Fewer bytes remain than the next field needs. -/
  | truncated (needed available : Nat)
  /-- The outer wrapper does not start with the application tag 0x60. -/
  | badTag (value : UInt8)
  /-- A length field uses more than four length octets, or a length does not fit in one. -/
  | badLength
  /-- The outer length disagrees with the bytes that follow it. -/
  | lengthMismatch (declared actual : Nat)
  /-- The mechanism identifier does not start with the tag 0x06. -/
  | badOidTag (value : UInt8)
  /-- The mechanism identifier has no content bytes. -/
  | emptyOid
  /-- The token names another mechanism than the one expected. -/
  | mechMismatch (expected found : Oid)
  /-- The two-byte inner token tag is not the expected one. -/
  | badInnerTag (first second : UInt8)
  /-- A fixed-value field holds another value. -/
  | badField (field : TokenField) (value : UInt16)
  deriving DecidableEq

namespace CodecError

/-- The variant's name, as reports name it. -/
def kind : CodecError → String
  | .truncated .. => "Truncated"
  | .badTag .. => "BadTag"
  | .badLength => "BadLength"
  | .lengthMismatch .. => "LengthMismatch"
  | .badOidTag .. => "BadOidTag"
  | .emptyOid => "EmptyOid"
  | .mechMismatch .. => "MechMismatch"
  | .badInnerTag .. => "BadInnerTag"
  | .badField .. => "BadField"

/-- What the fault says. -/
def message : CodecError → String
  | .truncated needed available =>
    "Token truncated: need " ++ toString needed ++ " bytes, have " ++ toString available
  | .badTag v => "Bad wrapper tag: 0x" ++ hexPadded 2 v.toNat
  | .badLength => "Malformed length encoding"
  | .lengthMismatch d a =>
    "Length mismatch: declared " ++ toString d ++ ", actual " ++ toString a
  | .badOidTag v => "Bad identifier tag: 0x" ++ hexPadded 2 v.toNat
  | .emptyOid => "Empty mechanism identifier"
  | .mechMismatch e f => "Mechanism mismatch: expected " ++ e.render ++ ", found " ++ f.render
  | .badInnerTag a b =>
    "Unexpected inner token tag [" ++ hexPadded 2 a.toNat ++ ", " ++ hexPadded 2 b.toNat ++ "]"
  | .badField f v => "Bad " ++ f.name ++ ": 0x" ++ hexPadded 4 v.toNat

end CodecError

/-- Succeed when `bs` has at least `n` bytes, and report the shortfall otherwise. -/
def need (bs : Bytes) (n : Nat) : Except CodecError Unit :=
  if bs.length < n then .error (.truncated n bs.length) else .ok ()

end GssApi
