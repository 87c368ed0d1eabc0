import GssApi.Codec.Error
/-! The authenticator checksum field.

An authentication request carries, inside its sealed authenticator, a 24-byte checksum
field of type 0x8003: the little-endian word 16, the 16-byte hash of the channel bindings,
and the little-endian word of requested context flags. Reading checks the length word and
ignores bytes after the 24th. -/
namespace GssApi

/-- The checksum type that marks the authenticator checksum field. -/
def authenticatorChecksumType : Int32 := 0x8003

/-- The hash of absent channel bindings, sixteen zero bytes, has the hash's length. Fields
built without bindings take this lemma as their length proof. -/
theorem BindingChecksum.length_noBindings : (List.replicate 16 (0 : UInt8)).length = 16 := rfl

/-- The flags and binding hash an initiator authenticates. -/
structure BindingChecksum where
  /-- The 16-byte hash of the channel bindings; all zero when there are none. -/
  bindings : Bytes := List.replicate 16 0
  /-- The context flags the initiator requested. -/
  flags : UInt32
  bindings_length : bindings.length = 16 := by exact BindingChecksum.length_noBindings
  deriving DecidableEq

namespace BindingChecksum

/-- The length of the encoded field. -/
def encodedLength : Nat := 24

/-- The 24-byte field: the binding length 16, the binding hash and the flags. -/
def encode (c : BindingChecksum) : Bytes :=
  Bytes.u32le 16 ++ c.bindings ++ Bytes.u32le c.flags

/-- Read the field from the front of `data`; bytes after the 24th are ignored. -/
def decode (data : Bytes) : Except CodecError BindingChecksum :=
  if h : data.length < encodedLength then .error (.truncated encodedLength data.length)
  else
    let lengthWord := Bytes.leToNat (data.take 4)
    if lengthWord ≠ 16 then .error (.badField .bindingLength (UInt16.ofNat lengthWord))
    else
      .ok { bindings := (data.drop 4).take 16
            flags := UInt32.ofNat (Bytes.leToNat ((data.drop 20).take 4))
            bindings_length := by simp [encodedLength] at h ⊢; omega }

/-- Some byte of the binding hash is not zero. -/
def hasBindings (c : BindingChecksum) : Bool := c.bindings.any (· != 0)

end BindingChecksum

end GssApi
