import GssApi.Krb5.Realm
/-! Scripts against an in-memory realm.

A realm script qualifies names, registers services, asks for tickets and moves the clock.
Each issued ticket is checked the way an acceptor would: an authentication request is built
from it and opened with the key registered for the ticket's server, which must yield the
ticket's contents. Keys come from a random source; what is reported of them is their type,
their length and whether every byte has odd parity. -/
namespace GssApi.Script

/-- One step of a realm script. -/
inductive RealmStep where
  | qualify (principal : String)
  | addService (principal : String)
  | issue (server : String)
  | clock (now : UInt64)

/-- What an acceptor learns from a request built from an issued ticket. -/
structure Opened where
  contents : Exchange.TicketContents
  /-- Whether the opened ticket holds the issued ticket's session key. -/
  sameKey : Bool

/-- An issued ticket, its remaining seconds and what opening it yields. -/
structure Issued where
  ticket : ServiceTicket
  remaining : UInt64
  opened : Option Opened

/-- What a realm step reports. -/
inductive RealmOutcome where
  | qualified (principal : String)
  | service (principal : String) (key : SessionKey) (usage : CredUsage)
  | issued (ticket : Option Issued)
  | clock (now : UInt64)

/-- A realm with its clock and random source. -/
structure RealmWorld where
  realm : Krb5.Realm
  suite : CipherSuite := CipherSuite.standard
  now : UInt64
  random : RandomSource := {}

namespace RealmWorld

/-- Run a random computation on the world's source. -/
def draw (w : RealmWorld) (x : Rand ε α) : Except ε α × RealmWorld :=
  let (result, random) := x.run.run w.random
  (result, { w with random })

/-- Open a request built from a ticket with the key registered for its server. -/
def openTicket (w : RealmWorld) (t : ServiceTicket) : Option Opened × RealmWorld :=
  match w.realm.serviceKey t.server with
  | none => (none, w)
  | some key =>
    let auth : Exchange.Authenticator := ⟨t.client, w.now, 0, { flags := 0 }⟩
    match w.draw (Exchange.buildRequest w.suite t auth false) with
    | (.error _, w) => (none, w)
    | (.ok body, w) =>
      match Exchange.readRequest w.suite key body with
      | .ok r => (some ⟨r.ticket, r.ticket.sessionKey == t.sessionKey⟩, w)
      | .error _ => (none, w)

/-- Run one step. -/
def step (w : RealmWorld) : RealmStep → Except GssError RealmOutcome × RealmWorld
  | .qualify p => (.ok (.qualified (w.realm.qualify p)), w)
  | .addService p =>
    match w.draw (w.realm.register p) with
    | (.ok (a, realm), w) =>
      (.ok (.service a.principal a.key (Credential.ofAcceptor a.principal a.key).usage),
        { w with realm })
    | (.error e, w) => (.error e, w)
  | .issue server =>
    match w.draw (w.realm.issueTicket w.suite w.now server) with
    | (.ok none, w) => (.ok (.issued none), w)
    | (.ok (some t), w) =>
      let (opened, w) := w.openTicket t
      (.ok (.issued (some ⟨t, t.remaining w.now, opened⟩)), w)
    | (.error e, w) => (.error e, w)
  | .clock now => (.ok (.clock now), { w with now })

/-- Run steps in order. -/
def run (w : RealmWorld) : List RealmStep → List (Except GssError RealmOutcome)
  | [] => []
  | s :: rest =>
    let (r, w) := w.step s
    r :: w.run rest

end RealmWorld

end GssApi.Script
