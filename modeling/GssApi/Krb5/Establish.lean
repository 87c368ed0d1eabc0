import GssApi.Mech.Interface
import GssApi.Config.Settings
import GssApi.Krb5.Exchange.Message
import GssApi.Codec.Frame
import GssApi.Krb5.Realm
/-! Establishing a ticket-mechanism context.

The initiator reads the target's principal, finds a ticket for it, and sends an
authentication request whose authenticator carries its time, its initial sequence number
and the requested flags. It asks for a reply when mutual authentication is requested; the
reply must echo its time. The context ends at the earlier of the ticket's expiry and the
requested lifetime (the configured default when none or zero is requested).

The acceptor opens the request with its key and checks, in order: that the ticket is for its
principal, that the authenticator names the ticket's client, that the ticket has not expired,
that the clocks agree within the allowed skew and that no channel bindings were sent. It
replies when the initiator asked for a reply; otherwise both directions count from the
initiator's sequence number. -/
namespace GssApi.Krb5

/-- Where an initiator without a credential gets its tickets. -/
inductive DefaultTickets where
  /-- Nowhere: such an initiator has no ticket source. -/
  | none
  /-- The shared ticket store. -/
  | shared
  /-- A realm, which issues a fresh ticket for each request. -/
  | realm (r : Realm)

/-- The ticket mechanism: its cipher suite, its settings and where initiators without a
credential get tickets. -/
structure Mechanism where
  suite : CipherSuite := CipherSuite.standard
  config : Krb5Config := {}
  tickets : DefaultTickets := .shared

/-- The failure for a missing ticket. -/
def noTicket (server : String) : GssError := .noCred ("no ticket for " ++ server) Minor.ccacheNoMatch

/-- The acceptor half of a credential. -/
def acceptorKey : Option Credential → Except GssError AcceptorKey
  | none => .error (.noCred "no acceptor credential" 0)
  | some c => match c.acceptor with
    | some k => .ok k
    | none => .error (.noCred "credential cannot accept" Minor.badUsage)

namespace Mechanism

/-- The first sequence number of a new context: zero, or four random bytes read
little-endian. -/
def initialSequence (m : Mechanism) : Rand GssError UInt32 :=
  match m.config.initialSequence with
  | .zero => pure 0
  | .random => do
    let bs ← (drawBytes 4).mapError GssError.crypto
    pure (UInt32.ofNat (Bytes.leToNat bs))

/-- The ticket an initiator uses for a server: from its credential, or from the mechanism's
default source when it has none. The ticket must be for the server. -/
def ticketFor (m : Mechanism) (env : Environment) (credential : Option Credential)
    (server : String) : Rand GssError ServiceTicket := do
  let found ← match credential with
    | some c => match c.initiator with
      | some (.ticket t) => pure (some t)
      | some .store => Rand.ofExcept (env.store.find server)
      | none => throw (.noCred "credential cannot initiate" Minor.badUsage)
    | none => match m.tickets with
      | .shared => Rand.ofExcept (env.store.find server)
      | .realm r => r.issueTicket m.suite env.now server
      | .none => throw (.noCred "no default ticket store" Minor.tgtMissing)
  match found with
  | some t => if samePrincipal t.server server then pure t else throw (noTicket server)
  | none => throw (noTicket server)

/-- The lifetime an initiator asks for: the request's, unless it is absent or zero. -/
def requestedLifetime (m : Mechanism) : Option UInt32 → UInt64
  | some secs => if secs > 0 then secs.toUInt64 else m.config.defaultLifetime
  | none => m.config.defaultLifetime

/-- The first initiator step: send an authentication request. -/
def initiate (m : Mechanism) (env : Environment) (req : InitRequest) :
    Rand GssError (Context × StepOutput) := do
  if req.bindings.isSome then throw .badBindings
  let server ← Rand.ofExcept (canonicalize req.target)
  let ticket ← m.ticketFor env req.credential server
  if ticket.endtime ≤ env.now then throw .contextExpired
  let endtime := min ticket.endtime (addSaturating env.now (m.requestedLifetime req.lifetime))
  let mutualAuth := ContextFlags.has req.flags ContextFlags.mutualAuth
  let seq ← m.initialSequence
  let authenticator : Exchange.Authenticator := ⟨ticket.client, env.now, seq, { flags := req.flags }⟩
  let body ← (Exchange.buildRequest m.suite ticket authenticator mutualAuth).mapError ApError.toGss
  let token ← Rand.ofExcept ((Codec.encapsulateTagged Oid.krb5 .apReq body).mapError .defectiveToken)
  let ctx : Context := ⟨.initiator, if mutualAuth then .awaitingReply else .established,
    ticket.sessionKey, endtime, seq, seq, granted req.flags, Name.principal ticket.client,
    Name.principal ticket.server, env.now⟩
  pure (ctx, ⟨if mutualAuth then Status.continueNeeded else Status.complete, token, ctx.flags,
    ctx.remaining env.now, none⟩)

/-- The second initiator step: check the acceptor's reply. -/
def continueInitiate (m : Mechanism) (env : Environment) (ctx : Context) (req : InitRequest) :
    Except GssError (Context × StepOutput) := do
  if ctx.phase = .established then
    throw (.failure "initiator context is already established" Minor.contextEstablished)
  let some token := req.inputToken | throw (.defectiveToken (.truncated 1 0))
  let inner ← (Codec.decapsulateFor token Oid.krb5).mapError .defectiveToken
  let body ← (Codec.stripTag inner .apRep).mapError .defectiveToken
  let reply ← (Exchange.readReply m.suite ctx.key body).mapError ApError.toGss
  if reply.ctime ≠ ctx.ctime then
    throw (.failure "reply does not echo the authenticator timestamp" Minor.validateFailed)
  let ctx := { ctx with recvSeq := reply.seq, phase := .established }
  pure (ctx, ⟨Status.complete, [], ctx.flags, ctx.remaining env.now, none⟩)

/-- Open and check an authentication request with the acceptor's key. -/
def checkRequest (m : Mechanism) (env : Environment) (req : AcceptRequest) :
    Except GssError (AcceptorKey × Exchange.Request) := do
  let acceptor ← acceptorKey req.credential
  if req.bindings.isSome then throw .badBindings
  let inner ← (Codec.decapsulateFor req.inputToken Oid.krb5).mapError .defectiveToken
  let body ← (Codec.stripTag inner .apReq).mapError .defectiveToken
  let request ← (Exchange.readRequest m.suite acceptor.key body).mapError ApError.toGss
  let ticket := request.ticket
  let auth := request.authenticator
  if !samePrincipal ticket.server acceptor.principal then
    throw (.failure ("ticket is for " ++ ticket.server ++ ", not " ++ acceptor.principal)
      Minor.keytabNoMatch)
  if auth.client ≠ ticket.client then
    throw (.failure "authenticator client does not match ticket" Minor.validateFailed)
  if ticket.endtime ≤ env.now then throw .contextExpired
  if distance env.now auth.ctime > m.config.clockSkew then
    throw (.failure "clock skew too great" Minor.validateFailed)
  if auth.checksum.hasBindings then throw .badBindings
  pure (acceptor, request)

/-- The acceptor step: accept a request and reply when a reply is asked for. -/
def acceptRequest (m : Mechanism) (env : Environment) (req : AcceptRequest) :
    Rand GssError (Context × StepOutput) := do
  let (acceptor, request) ← Rand.ofExcept (m.checkRequest env req)
  let ticket := request.ticket
  let auth := request.authenticator
  let flags := granted auth.checksum.flags
  let (flags, sendSeq, token) ← if request.mutualRequired then do
      let seq ← m.initialSequence
      let body ← (Exchange.buildReply m.suite ticket.sessionKey ⟨auth.ctime, seq⟩).mapError
        ApError.toGss
      let token ← Rand.ofExcept
        ((Codec.encapsulateTagged Oid.krb5 .apRep body).mapError .defectiveToken)
      pure (flags ||| ContextFlags.mutualAuth, seq, token)
    else pure (flags &&& ~~~ContextFlags.mutualAuth, auth.seq, [])
  let ctx : Context := ⟨.acceptor, .established, ticket.sessionKey, ticket.endtime, sendSeq,
    auth.seq, flags, Name.principal ticket.client, Name.principal acceptor.principal, auth.ctime⟩
  pure (ctx, ⟨Status.complete, token, flags, ctx.remaining env.now, some ctx.source⟩)

end Mechanism

end GssApi.Krb5
