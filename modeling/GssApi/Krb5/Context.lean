import GssApi.Name
import GssApi.Context.Flags
import GssApi.Text.Quote
import GssApi.Krb5.Minor
import GssApi.Krb5.Ticket
/-! The state of a ticket-mechanism context.

A context knows which side it is on, whether the handshake is finished, the session key,
when it expires, the next sequence numbers to send and expect, the flags granted and the two
principals. Lifetimes are the seconds left before expiry, capped at the largest 32-bit
value.

Principal names are read from imported names here. A principal or user name is its text; a
host-based service name "service@host" becomes "service/host". Two principal strings name the
same principal when they are equal or when one is the other followed by "@" and a realm. -/
namespace GssApi.Krb5

/-- Which side of the handshake a context is on. -/
inductive Role where
  | initiator
  | acceptor
  deriving DecidableEq, Inhabited

/-- Whether a context still waits for the acceptor's reply. -/
inductive Phase where
  | awaitingReply
  | established
  deriving DecidableEq, Inhabited

/-- The flags the mechanism can honour: mutual authentication, replay and sequence detection
and integrity. -/
def supportedFlags : UInt32 :=
  ContextFlags.mutualAuth ||| ContextFlags.replayDetection ||| ContextFlags.sequencing |||
    ContextFlags.integrity

/-- The flags granted for a request: the supported ones asked for, and protection readiness. -/
def granted (requested : UInt32) : UInt32 := requested &&& supportedFlags ||| ContextFlags.protReady

/-- The state of an established or half-established context. -/
structure Context where
  role : Role
  phase : Phase
  key : SessionKey
  endtime : UInt64
  sendSeq : UInt32
  recvSeq : UInt32
  flags : UInt32
  source : Name
  target : Name
  /-- The initiator's time in the authenticator, which a reply must echo. -/
  ctime : UInt64
  deriving DecidableEq, Inhabited

namespace Context

def isEstablished (c : Context) : Bool := c.phase == .established

/-- The seconds left at `now`, capped at the largest 32-bit value. -/
def remaining (c : Context) (now : UInt64) : UInt32 :=
  (min (secondsUntil c.endtime now).toNat 0xFFFFFFFF).toUInt32

end Context

/-- The failure of a call that needs an established context. -/
def incomplete : GssError := .noContext "context is not established" Minor.contextIncomplete

/-- The principal string of an imported name. -/
def canonicalize (n : Name) : Except GssError String :=
  match n.text? with
  | none => .error (.badName "name is not UTF-8" 0)
  | some text =>
    if n.nameType = Oid.ntPrincipal ∨ n.nameType = Oid.ntUserName then .ok text
    else if n.nameType = Oid.ntHostbased ∨ n.nameType = Oid.ntHostbasedX then
      match Text.splitFirst text '@' with
      | some (service, host) =>
        if service.isEmpty ∨ host.isEmpty then .error (badService text)
        else .ok (service ++ "/" ++ host)
      | none => .error (badService text)
    else .error (.badNameType n.nameType)
where
  badService (text : String) : GssError :=
    .badName ("expected service@host, got " ++ Text.quote text) Minor.badServiceName

/-- Whether two principal strings name the same principal, one possibly without its realm. -/
def samePrincipal (a b : String) : Bool :=
  a == b ||
    match Text.splitFirst a '@', Text.splitFirst b '@' with
    | some (name, _), none => name == b
    | none, some (name, _) => a == name
    | _, _ => false

end GssApi.Krb5
