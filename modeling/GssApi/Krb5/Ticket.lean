import GssApi.Crypto.Key
import GssApi.Error
/-! Service tickets and where initiators find them.

A service ticket lets a client authenticate to a server: the initiator holds the client and
server names, the session key, the expiry time and the ticket blob sealed for the server. A
ticket store maps lookup names to tickets; an offline store cannot be asked. -/
namespace GssApi

/-- The initiator's copy of a ticket for one service. -/
structure ServiceTicket where
  client : String
  server : String
  sessionKey : SessionKey
  endtime : UInt64
  /-- The ticket sealed under the server's key. -/
  blob : Bytes
  deriving DecidableEq, Inhabited

/-- The seconds from `now` until a time, or zero once it has passed. -/
def secondsUntil (endtime now : UInt64) : UInt64 := if now ≤ endtime then endtime - now else 0

/-- The sum of two times, or the largest time when the sum does not fit. -/
def addSaturating (a b : UInt64) : UInt64 :=
  if a.toNat + b.toNat < UInt64.size then a + b else UInt64.ofNat (UInt64.size - 1)

/-- The distance between two times. -/
def distance (a b : UInt64) : UInt64 := if b ≤ a then a - b else b - a

/-- The seconds the ticket is still valid at `now`. -/
def ServiceTicket.remaining (t : ServiceTicket) (now : UInt64) : UInt64 := secondsUntil t.endtime now

/-- Tickets by lookup name, with a switch that takes the store offline. -/
structure TicketStore where
  entries : List (String × ServiceTicket) := []
  offline : Bool := false
  deriving DecidableEq, Inhabited

namespace TicketStore

/-- The ticket stored under a name. An offline store reports itself unavailable. -/
def find (s : TicketStore) (name : String) : Except GssError (Option ServiceTicket) :=
  if s.offline then .error (.unavailable "ticket store") else .ok (s.entries.lookup name)

/-- Store a ticket under a name, replacing any ticket stored under it. -/
def insert (s : TicketStore) (name : String) (t : ServiceTicket) : TicketStore :=
  { s with entries := (s.entries.filter (·.1 != name)) ++ [(name, t)] }

def erase (s : TicketStore) (name : String) : TicketStore :=
  { s with entries := s.entries.filter (·.1 != name) }

/-- The lookup names, in increasing order. -/
def names (s : TicketStore) : List String := (s.entries.map Prod.fst).mergeSort (· ≤ ·)

end TicketStore

end GssApi
