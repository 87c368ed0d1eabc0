import GssApi.Codec.Length
import GssApi.Codec.TokenTag
/-! The outer token wrapper.

Every initial context token is framed as: the application tag `0x60`, the DER length of the
content, then the content, which is the identifier tag `0x06`, the DER length of the
mechanism identifier, its bytes, and the mechanism's inner token. `decapsulate` checks each
part in that order and reports the first fault. -/
namespace GssApi

/-- A token taken out of its wrapper: the mechanism it names and its inner token. -/
structure Unframed where
  mech : Oid
  inner : Bytes
  deriving DecidableEq

namespace Codec

/-- The application tag that starts the wrapper. -/
def wrapperTag : UInt8 := 0x60
/-- The tag of the mechanism identifier. -/
def oidTag : UInt8 := 0x06

/-- The size of the wrapper's content for a mechanism and an inner token. -/
def contentLength (mech : Oid) (inner : Bytes) : Nat :=
  1 + lengthSize mech.bytes.length + mech.bytes.length + inner.length

/-- Frame an inner token under a mechanism identifier. -/
def encapsulate (mech : Oid) (inner : Bytes) : Except CodecError Bytes := do
  let outer ← writeLength (contentLength mech inner)
  let oidLength ← writeLength mech.bytes.length
  pure (wrapperTag :: outer ++ oidTag :: oidLength ++ mech.bytes ++ inner)

/-- Frame a body behind its inner token tag. -/
def encapsulateTagged (mech : Oid) (tag : TokenTag) (body : Bytes) : Except CodecError Bytes :=
  encapsulate mech (tag.bytes ++ body)

/-- Take a token out of its wrapper. -/
def decapsulate (token : Bytes) : Except CodecError Unframed := do
  match token with
  | [] => throw (.truncated 1 0)
  | tag :: afterTag =>
    if tag ≠ wrapperTag then throw (.badTag tag)
    let (declared, used) ← readLength afterTag
    let content := afterTag.drop used
    if declared ≠ content.length then throw (.lengthMismatch declared content.length)
    match content with
    | [] => throw (.truncated 1 0)
    | idTag :: afterIdTag =>
      if idTag ≠ oidTag then throw (.badOidTag idTag)
      let (oidLength, idUsed) ← readLength afterIdTag
      if oidLength = 0 then throw .emptyOid
      let rest := afterIdTag.drop idUsed
      need rest oidLength
      match Oid.ofBytes? (rest.take oidLength) with
      | some mech => pure ⟨mech, rest.drop oidLength⟩
      | none => throw .emptyOid

/-- Take a token out of its wrapper, requiring it to name the expected mechanism. -/
def decapsulateFor (token : Bytes) (expected : Oid) : Except CodecError Bytes := do
  let u ← decapsulate token
  if u.mech.bytes ≠ expected.bytes then throw (.mechMismatch expected u.mech)
  pure u.inner

/-- The mechanism a token names, when it is a well-framed token. -/
def detectMech (token : Bytes) : Option Oid :=
  match decapsulate token with
  | .ok u => some u.mech
  | .error _ => none

end Codec

end GssApi
