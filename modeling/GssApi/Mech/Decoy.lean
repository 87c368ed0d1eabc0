import GssApi.Mech.Interface
import GssApi.Codec.Frame
/-! A stand-in mechanism.

The stand-in answers every call at once and never binds a context's state: establishment
steps complete with the token "decoy" framed under its identifier, no flags, no lifetime and
no peer name; wrapping returns the message itself, unwrapping the token itself, integrity
tokens are empty and always verify. Its context never expires, asking about it is
unavailable, and deleting fails when it is set to refuse teardown. -/
namespace GssApi

/-- A stand-in mechanism with its identifier. -/
structure Decoy where
  oid : Oid
  failTeardown : Bool := false
  deriving DecidableEq

namespace Decoy

/-- The answer of every establishment step. -/
def step (d : Decoy) : Except GssError StepOutput := do
  let token ← (Codec.encapsulate d.oid (Bytes.ofString "decoy")).mapError .defectiveToken
  pure ⟨Status.complete, token, 0, 0, none⟩

def delete (d : Decoy) : Except GssError (Option Bytes) :=
  if d.failTeardown then .error (.failure "teardown refused" 42) else .ok none

def contextTime : UInt32 := 0xFFFFFFFF

def inquire : Except GssError ContextInfo := .error (.unavailable "inquire")

end Decoy

end GssApi
