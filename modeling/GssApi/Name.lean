import GssApi.Oid
import GssApi.Text.Utf8
/-! Names of principals.

A name is an opaque byte string together with the object identifier of its name type; the
mechanism decides how to read it. Names built by the ticket mechanism carry the principal
name type. -/
namespace GssApi

/-- A name as the caller imported it: bytes and a name type. -/
structure Name where
  bytes : Bytes
  nameType : Oid
  deriving DecidableEq, Inhabited

namespace Name

/-- The name's text, when its bytes are UTF-8. -/
def text? (n : Name) : Option String := (Text.decodeUtf8 n.bytes).toOption

/-- The principal-typed name of a principal string. -/
def principal (p : String) : Name := ⟨Bytes.ofString p, Oid.ntPrincipal⟩

end Name

end GssApi
