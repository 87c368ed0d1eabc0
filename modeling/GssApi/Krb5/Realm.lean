import GssApi.Credential
import GssApi.Krb5.Exchange.Message
/-! An in-memory realm.

A realm names principals (a principal without "@" gets "@" and the realm's name), registers
services with fresh random keys, and issues tickets for registered services to its one
client. A ticket's session key is fresh and random; it is valid from the current time for the
realm's ticket lifetime (36000 seconds unless set), saturating at the largest time. Asking for
a ticket for an unregistered service yields no ticket. -/
namespace GssApi.Krb5

/-- The default ticket lifetime of a realm. -/
def realmLifetime : UInt64 := 36000

/-- A realm: its name, its client, the key type of its keys, the lifetime of its tickets and
the keys of its services. -/
structure Realm where
  name : String
  client : String
  encType : EncType := .des3CbcSha1Kd
  lifetime : UInt64 := realmLifetime
  services : List (String × SessionKey) := []

namespace Realm

/-- A principal qualified with the realm's name unless it names a realm. -/
def qualify (r : Realm) (principal : String) : String :=
  if principal.contains '@' then principal else principal ++ "@" ++ r.name

/-- A realm whose client is "user". -/
def new (name : String) : Realm := { name, client := "user@" ++ name }

def withClient (r : Realm) (client : String) : Realm := { r with client := r.qualify client }

/-- A fresh random key of the realm's key type. -/
def randomKey (r : Realm) : Rand GssError SessionKey := do
  let n ← Rand.ofExcept ((seedLength r.encType).mapError .crypto)
  let seed ← (drawBytes n).mapError .crypto
  Rand.ofExcept ((randomToKey r.encType seed).mapError .crypto)

/-- Register a service with a fresh key, replacing any earlier key. -/
def register (r : Realm) (principal : String) : Rand GssError (AcceptorKey × Realm) := do
  let principal := r.qualify principal
  let key ← r.randomKey
  pure (⟨principal, key⟩,
    { r with services := (principal, key) :: r.services.filter (·.1 != principal) })

/-- Register a service and return its acceptor credential. -/
def addService (r : Realm) (principal : String) : Rand GssError (Credential × Realm) := do
  let (a, r) ← r.register principal
  pure (.ofAcceptor a.principal a.key, r)

/-- The key of a registered service. -/
def serviceKey (r : Realm) (principal : String) : Option SessionKey := r.services.lookup principal

/-- Issue a ticket for a registered service at `now`. -/
def issueTicket (r : Realm) (suite : CipherSuite) (now : UInt64) (server : String) :
    Rand GssError (Option ServiceTicket) := do
  let server := r.qualify server
  match r.serviceKey server with
  | none => pure none
  | some serviceKey =>
    let sessionKey ← r.randomKey
    let endtime := addSaturating now r.lifetime
    let blob ← (Exchange.sealTicket suite serviceKey
      ⟨r.client, server, sessionKey, now, endtime⟩).mapError ApError.toGss
    pure (some ⟨r.client, server, sessionKey, endtime, blob⟩)

end Realm

end GssApi.Krb5
