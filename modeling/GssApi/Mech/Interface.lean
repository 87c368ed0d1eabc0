import GssApi.Credential
import GssApi.Krb5.Context
/-! What a mechanism is asked and answers.

Establishing a context takes an initiator request (target, credential, mechanism, flags,
lifetime, channel bindings and the peer's token) or an acceptor request (the initiator's
token, credential and channel bindings). Each step answers with a status, a token for the
peer, the flags granted, the lifetime and, for acceptors, the initiator's name. A mechanism
keeps its state for one context in a `MechState`; a context that no step of its mechanism
has set up yet is unbound.

Calls see an `Environment`: the clock and the shared ticket store. -/
namespace GssApi

/-- The state a mechanism keeps for one context. -/
inductive MechState where
  | unbound
  | krb5 (ctx : Krb5.Context)
  deriving DecidableEq, Inhabited

/-- What a call may read besides the context: the time and the shared ticket store. -/
structure Environment where
  now : UInt64
  store : TicketStore
  deriving Inhabited

/-- An initiator's request. -/
structure InitRequest where
  credential : Option Credential := none
  target : Name
  mech : Option Oid := none
  flags : UInt32 := 0
  lifetime : Option UInt32 := none
  bindings : Option Bytes := none
  inputToken : Option Bytes := none

/-- An acceptor's request. -/
structure AcceptRequest where
  credential : Option Credential := none
  inputToken : Bytes
  bindings : Option Bytes := none

/-- What one establishment step of a mechanism answers. -/
structure StepOutput where
  status : Status
  outputToken : Bytes
  flags : UInt32
  lifetime : UInt32
  source : Option Name
  deriving DecidableEq, Inhabited

/-- A wrap token and whether confidentiality was applied. -/
structure WrapOutput where
  token : Bytes
  confApplied : Bool
  deriving DecidableEq

/-- An unwrapped message, whether it was confidential and its protection quality. -/
structure UnwrapOutput where
  message : Bytes
  confApplied : Bool
  qop : UInt32
  deriving DecidableEq

/-- What can be asked about a context. -/
structure ContextInfo where
  source : Option Name
  target : Option Name
  lifetime : UInt32
  mech : Oid
  flags : UInt32
  locallyInitiated : Bool
  isOpen : Bool
  deriving DecidableEq

end GssApi
