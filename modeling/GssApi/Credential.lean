import GssApi.Krb5.Ticket
/-! Credentials.

A credential of the ticket mechanism has an initiator half, a ticket or the shared ticket
store, and an acceptor half, a principal with its long-term key. Either half may be missing;
combining two credentials keeps, for each half, the first credential's half when it has one. -/
namespace GssApi

/-- Where an initiator finds its ticket. -/
inductive InitiatorSource where
  | ticket (t : ServiceTicket)
  /-- The shared ticket store, as it is when the ticket is looked up. -/
  | store
  deriving DecidableEq, Inhabited

/-- What an acceptor needs: its principal and its key. -/
structure AcceptorKey where
  principal : String
  key : SessionKey
  deriving DecidableEq, Inhabited

/-- What a credential may be used for. -/
inductive CredUsage where
  | initiate
  | accept
  | both
  deriving DecidableEq, Inhabited

def CredUsage.label : CredUsage → String
  | .initiate => "Initiate"
  | .accept => "Accept"
  | .both => "Both"

/-- A credential of the ticket mechanism. -/
structure Credential where
  initiator : Option InitiatorSource := none
  acceptor : Option AcceptorKey := none
  deriving DecidableEq, Inhabited

namespace Credential

/-- A credential that initiates with a ticket. -/
def ofTicket (t : ServiceTicket) : Credential := { initiator := some (.ticket t) }

/-- A credential that initiates with tickets from the shared store. -/
def ofStore : Credential := { initiator := some .store }

/-- A credential that accepts for a principal with its key. -/
def ofAcceptor (principal : String) (key : SessionKey) : Credential :=
  { acceptor := some ⟨principal, key⟩ }

/-- The mechanism of every credential. -/
def mechanism (_ : Credential) : Oid := Oid.krb5

/-- Each half from the first credential if it has it, else from the second. -/
def combine (a b : Credential) : Credential :=
  { initiator := a.initiator <|> b.initiator, acceptor := a.acceptor <|> b.acceptor }

/-- What the credential can be used for; a credential with neither half counts as an
initiator. -/
def usage (c : Credential) : CredUsage :=
  match c.initiator, c.acceptor with
  | some _, some _ => .both
  | none, some _ => .accept
  | _, none => .initiate

end Credential

end GssApi
