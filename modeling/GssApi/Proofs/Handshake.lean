import GssApi.Krb5.Establish
import GssApi.Proofs.Messages
import GssApi.Proofs.Flags

/-! Two parties that hold matching credentials establish a context and agree on it.

An initiator holding a ticket sealed for the acceptor's key, with a supported session key and
a request whose fields fit, sends a request from any random source that does not fail. An
acceptor whose clock is within the allowed skew of the initiator's, before the ticket expires,
accepts it and replies exactly when mutual authentication was asked for; the initiator then
takes the reply. Both ends come out established on the ticket's session key, with the same
flags (those granted for the request, mutual authentication among them exactly when it was
asked for), each expecting the other's first sequence number, naming the same client and
carrying the same authenticator time. The proofs run each step of each party on the messages
the other built, with the round trips of the exchange messages. -/
namespace GssApi.Krb5

/-! ### The initiator's request -/

/-- A body shorter than 2^24 bytes is framed under the ticket mechanism's identifier behind
any tag. -/
theorem encapsulateTagged_ok (tag : TokenTag) {body : Bytes} (short : body.length < 2 ^ 24) :
    ∃ token, Codec.encapsulateTagged Oid.krb5 tag body = .ok token := by
  apply Codec.encapsulate_ok
  have oidSize : Codec.lengthSize Oid.krb5.bytes.length = 1 := rfl
  simp only [Codec.contentLength, oidSize, List.length_append, TokenTag.length_bytes]
  have oidLength : Oid.krb5.bytes.length = 9 := rfl
  omega

/-- The principal-typed name of a principal reads back as that principal. -/
theorem canonicalize_principal (p : String) : canonicalize (Name.principal p) = .ok p := by
  simp [canonicalize, Name.principal, Name.text?, Text.decodeUtf8_ofString, Except.toOption]

namespace Mechanism

variable {m : Mechanism}

/-- A credential holding a ticket for the server hands it out without drawing anything. -/
theorem ticketFor_held {env : Environment} {credential : Credential} {t : ServiceTicket}
    {server : String} (held : credential.initiator = some (.ticket t))
    (forServer : samePrincipal t.server server = true) (r : RandomSource) :
    (m.ticketFor env (some credential) server).run.run r = (.ok t, r) := by
  simp only [ticketFor, held, Rand.run_bind, Rand.run_pure, forServer, if_true]

/-- The first sequence number is drawn from a source that does not fail, and leaves one that
does not fail either. -/
theorem initialSequence_run {r : RandomSource} (steady : r.failing = false) :
    ∃ seq r', m.initialSequence.run.run r = (.ok seq, r') ∧ r'.failing = false := by
  unfold initialSequence
  split
  · exact ⟨0, r, rfl, steady⟩
  · refine ⟨UInt32.ofNat (Bytes.leToNat (r.take 4).1), (r.take 4).2.spend, ?_, by simp [steady]⟩
    simp only [Rand.run_bind, Rand.run_mapError, drawBytes_run_of_steady steady]
    rfl

/-- An initiator without channel bindings, holding a ticket for the target that is still valid,
with a supported session key and a request whose fields fit, sends a request from any source
that does not fail. Its token frames a request built from an authenticator with its client,
its time, its first sequence number and the requested flags. Its context is the initiator's
on the ticket's key, with the granted flags, counting both ways from that sequence number and
carrying its time. It waits for a reply exactly when mutual authentication was asked for. -/
theorem initiate_run {env : Environment} {req : InitRequest} {credential : Credential}
    {t : ServiceTicket} {server : String} {r : RandomSource} (noBindings : req.bindings = none)
    (canonical : canonicalize req.target = .ok server) (holds : req.credential = some credential)
    (held : credential.initiator = some (.ticket t)) (forServer : samePrincipal t.server server = true)
    (live : env.now < t.endtime) (supported : t.sessionKey.Supported)
    (fits : Exchange.RequestFits t) (steady : r.failing = false) :
    ∃ ctx first r' r₁ body,
      (m.initiate env req).run.run r = (.ok (ctx, first), r') ∧
      ((Exchange.buildRequest m.suite t ⟨t.client, env.now, ctx.sendSeq, { flags := req.flags }⟩
        (ContextFlags.has req.flags ContextFlags.mutualAuth)).run.run r₁).1 = .ok body ∧
      Codec.encapsulateTagged Oid.krb5 .apReq body = .ok first.outputToken ∧
      ctx.role = .initiator ∧
      ctx.phase = (if ContextFlags.has req.flags ContextFlags.mutualAuth then .awaitingReply
        else .established) ∧
      ctx.key = t.sessionKey ∧ ctx.recvSeq = ctx.sendSeq ∧ ctx.flags = granted req.flags ∧
      ctx.source = Name.principal t.client ∧ ctx.ctime = env.now ∧
      first.status = if ContextFlags.has req.flags ContextFlags.mutualAuth then .continueNeeded
        else .complete := by
  obtain ⟨seq, r₁, drawn, steady₁⟩ := m.initialSequence_run steady
  obtain ⟨body, built, short⟩ := @Exchange.buildRequest_run m.suite t
    ⟨t.client, env.now, seq, { flags := req.flags }⟩ (ContextFlags.has req.flags ContextFlags.mutualAuth)
    r₁ supported fits rfl steady₁
  obtain ⟨token, framed⟩ := encapsulateTagged_ok .apReq
    (show body.length < 2 ^ 24 by simp only [Exchange.maxField] at short; omega)
  have valid : ¬ t.endtime ≤ env.now := UInt64.not_le.2 live
  simp only [initiate, noBindings, Option.isSome_none, Bool.false_eq_true, if_false, Rand.run_bind,
    Rand.run_ofExcept, canonical, holds, ticketFor_held held forServer, valid, drawn,
    Rand.run_mapError, built, framed, Except.mapError, Rand.run_pure]
  exact ⟨_, _, _, r₁, body, rfl, by rw [built], framed, rfl, rfl, rfl, rfl, rfl, rfl, rfl, rfl⟩

/-! ### The acceptor's answer -/

/-- A request built on a ticket sealed under the acceptor's key passes every check of the
acceptor when the ticket is for its principal and names the authenticator's client, is still
valid, the clocks agree within the skew and no bindings were sent. The acceptor reads back the
ticket's contents, the authenticator and whether a reply was asked for. -/
theorem checkRequest_of_request (lawful : m.suite.Lawful) {env : Environment}
    {credential : Credential} {principal : String} {serviceKey : SessionKey}
    {contents : Exchange.TicketContents} {t : ServiceTicket} {a : Exchange.Authenticator} {mutualAuth : Bool}
    {body token : Bytes} {r r₀ : RandomSource}
    (accepts : credential.acceptor = some ⟨principal, serviceKey⟩)
    (issued : ((Exchange.sealTicket m.suite serviceKey contents).run.run r₀).1 = .ok t.blob)
    (sameKey : contents.sessionKey = t.sessionKey) (supported : contents.sessionKey.Supported)
    (built : ((Exchange.buildRequest m.suite t a mutualAuth).run.run r).1 = .ok body)
    (framed : Codec.encapsulateTagged Oid.krb5 .apReq body = .ok token)
    (forAcceptor : samePrincipal contents.server principal = true)
    (sameClient : a.client = contents.client) (live : env.now < contents.endtime)
    (skew : distance env.now a.ctime ≤ m.config.clockSkew)
    (noBindings : a.checksum.hasBindings = false) :
    m.checkRequest env ⟨some credential, token, none⟩ =
      .ok (⟨principal, serviceKey⟩, ⟨contents, a, mutualAuth⟩) := by
  have read := Exchange.readRequest_of_buildRequest lawful built issued sameKey supported
  have unframed := Codec.decapsulateFor_of_encapsulate framed
  have valid : ¬ contents.endtime ≤ env.now := UInt64.not_le.2 live
  have close : ¬ distance env.now a.ctime > m.config.clockSkew := UInt64.not_lt.2 skew
  simp only [checkRequest, acceptorKey, accepts, Option.isSome_none, Bool.false_eq_true, if_false,
    unframed, Codec.stripTag_bytes_append, read, Except.mapError, Except.ok_bind, forAcceptor,
    Bool.not_true, sameClient, ne_eq, not_true_eq_false, valid, close, noBindings]
  rfl

/-- An acceptor whose checks pass on a request with a supported session key answers from any
source that does not fail, complete, with the acceptor's context on the ticket's key, expecting
the initiator's sequence number, naming the ticket's client and carrying the authenticator's
time. When a reply was asked for, it frames a reply that echoes that time with its own first
sequence number and adds mutual authentication to the granted flags; otherwise it sends
nothing, counts from the initiator's number and drops mutual authentication. -/
theorem acceptRequest_run {env : Environment} {req : AcceptRequest} {acceptor : AcceptorKey}
    {request : Exchange.Request} {r : RandomSource}
    (checked : m.checkRequest env req = .ok (acceptor, request))
    (supported : request.ticket.sessionKey.Supported) (steady : r.failing = false) :
    ∃ ctx answer r', (m.acceptRequest env req).run.run r = (.ok (ctx, answer), r') ∧
      ctx.role = .acceptor ∧ ctx.phase = .established ∧ ctx.key = request.ticket.sessionKey ∧
      ctx.recvSeq = request.authenticator.seq ∧ ctx.source = Name.principal request.ticket.client ∧
      ctx.ctime = request.authenticator.ctime ∧ answer.status = .complete ∧
      (request.mutualRequired = true →
        ctx.flags = granted request.authenticator.checksum.flags ||| ContextFlags.mutualAuth ∧
        ∃ r₁ body,
          ((Exchange.buildReply m.suite ctx.key ⟨ctx.ctime, ctx.sendSeq⟩).run.run r₁).1 = .ok body ∧
          Codec.encapsulateTagged Oid.krb5 .apRep body = .ok answer.outputToken) ∧
      (request.mutualRequired = false →
        ctx.flags = granted request.authenticator.checksum.flags &&& ~~~ContextFlags.mutualAuth ∧
        ctx.sendSeq = request.authenticator.seq ∧ answer.outputToken = []) := by
  -- the two shapes of the handshake: a reply drawn and framed, or none
  cases asked : request.mutualRequired with
  | false =>
    simp only [acceptRequest, Rand.run_bind, Rand.run_ofExcept, checked, asked,
      Bool.false_eq_true, if_false, Rand.run_pure]
    exact ⟨_, _, _, rfl, rfl, rfl, rfl, rfl, rfl, rfl, rfl, nofun, fun _ => ⟨rfl, rfl, rfl⟩⟩
  | true =>
    obtain ⟨seq, r₁, drawn, steady₁⟩ := m.initialSequence_run steady
    obtain ⟨body, built, short⟩ := @Exchange.buildReply_run m.suite request.ticket.sessionKey
      ⟨request.authenticator.ctime, seq⟩ r₁ supported steady₁
    obtain ⟨token, framed⟩ := encapsulateTagged_ok .apRep (show body.length < 2 ^ 24 by omega)
    simp only [acceptRequest, Rand.run_bind, Rand.run_ofExcept, checked, asked, if_true, drawn,
      Rand.run_mapError, built, framed, Except.mapError, Rand.run_pure]
    exact ⟨_, _, _, rfl, rfl, rfl, rfl, rfl, rfl, rfl, rfl,
      fun _ => ⟨rfl, r₁, body, by rw [built], framed⟩, nofun⟩

/-- An acceptor asked for a reply, whose first sequence number is random, draws twice: the
number, then the reply's confounder. From a source with exactly one draw left the number is
drawn and the confounder refused, so the step fails with the source's fault and makes no
context; the source keeps the number's draw spent. -/
theorem acceptRequest_of_one_draw_left {env : Environment} {req : AcceptRequest}
    {acceptor : AcceptorKey} {request : Exchange.Request} {r : RandomSource}
    (checked : m.checkRequest env req = .ok (acceptor, request))
    (supported : request.ticket.sessionKey.Supported) (asked : request.mutualRequired = true)
    (random : m.config.initialSequence = .random) (oneLeft : r.failAfter = some 1) :
    (m.acceptRequest env req).run.run r =
      (.error (.crypto (.rng "injected failure")), (r.take 4).2.spend) := by
  -- the number's draw is granted and spends the last draw the source had left
  have drawn : m.initialSequence.run.run r =
      (.ok (UInt32.ofNat (Bytes.leToNat (r.take 4).1)), (r.take 4).2.spend) := by
    simp only [initialSequence, random, Rand.run_bind, Rand.run_mapError, drawBytes_run, oneLeft,
      reduceCtorEq, Option.some.injEq, if_false, Except.mapError, Rand.run_pure]
  have spent : ((r.take 4).2.spend).failAfter = some 0 := by
    simp [RandomSource.spend, oneLeft]
  simp only [acceptRequest, Rand.run_bind, Rand.run_ofExcept, checked, asked, if_true, drawn,
    Rand.run_mapError, Exchange.buildReply_of_refused _ supported spent, Except.mapError]
  rfl

/-! ### The initiator's continuation -/

/-- An initiator waiting for a reply takes one framed from a reply built on its key that echoes
its time: it becomes established, expects the acceptor's sequence number and sends nothing. -/
theorem continueInitiate_of_reply (lawful : m.suite.Lawful) {env : Environment} {ctx : Context}
    {req : InitRequest} {seq : UInt32} {body token : Bytes} {r : RandomSource}
    (waiting : ctx.phase = .awaitingReply)
    (built : ((Exchange.buildReply m.suite ctx.key ⟨ctx.ctime, seq⟩).run.run r).1 = .ok body)
    (framed : Codec.encapsulateTagged Oid.krb5 .apRep body = .ok token)
    (answered : req.inputToken = some token) :
    m.continueInitiate env ctx req = .ok ({ ctx with recvSeq := seq, phase := .established },
      ⟨.complete, [], ctx.flags, ctx.remaining env.now, none⟩) := by
  have read := Exchange.readReply_of_buildReply lawful built
  have unframed := Codec.decapsulateFor_of_encapsulate framed
  simp only [continueInitiate, waiting, reduceCtorEq, if_false, answered, unframed,
    Codec.stripTag_bytes_append, read, Except.mapError, Except.ok_bind, ne_eq, not_true_eq_false]
  rfl

end Mechanism

/-! ### Agreement -/

/-- Two ends of a context agree: they play opposite roles, both are established on one session
key with the same flags, client and authenticator time, and each expects the sequence number
the other sends next. -/
structure Agreed (initiator acceptor : Context) : Prop where
  initiatorRole : initiator.role = .initiator
  acceptorRole : acceptor.role = .acceptor
  initiatorEstablished : initiator.phase = .established
  acceptorEstablished : acceptor.phase = .established
  sameKey : initiator.key = acceptor.key
  sameFlags : initiator.flags = acceptor.flags
  forward : acceptor.recvSeq = initiator.sendSeq
  backward : initiator.recvSeq = acceptor.sendSeq
  sameSource : initiator.source = acceptor.source
  sameTime : initiator.ctime = acceptor.ctime

namespace Mechanism

variable {m : Mechanism}

/-- A handshake between an initiator holding a ticket sealed under the acceptor's key and that
acceptor completes, whatever the requested flags and lifetime, the initial-sequence policy and
the random bytes drawn on either side, as long as the ticket's session key is supported, the
request's fields fit, both clocks are before the ticket's expiry and within the allowed skew of
each other, and no channel bindings are given. The acceptor ends on the ticket's session key
with the granted flags. With mutual authentication asked for, the initiator first continues
and then takes the acceptor's reply; without it the acceptor sends nothing and the initiator is
done at once. Either way the two ends agree. -/
theorem handshake_agrees (lawful : m.suite.Lawful) {serviceKey : SessionKey} {t : ServiceTicket}
    {authtime : UInt64} {r₀ : RandomSource}
    (issued : ((Exchange.sealTicket m.suite serviceKey
      ⟨t.client, t.server, t.sessionKey, authtime, t.endtime⟩).run.run r₀).1 = .ok t.blob)
    (supported : t.sessionKey.Supported) (fits : Exchange.RequestFits t)
    {req : InitRequest} {credential : Credential} {server : String}
    (holds : req.credential = some credential) (held : credential.initiator = some (.ticket t))
    (noBindings : req.bindings = none) (canonical : canonicalize req.target = .ok server)
    (forServer : samePrincipal t.server server = true)
    {acceptorCredential : Credential} {principal : String}
    (accepts : acceptorCredential.acceptor = some ⟨principal, serviceKey⟩)
    (forAcceptor : samePrincipal t.server principal = true)
    {envI envA envI' : Environment} (liveI : envI.now < t.endtime) (liveA : envA.now < t.endtime)
    (skew : distance envA.now envI.now ≤ m.config.clockSkew)
    {rI rA : RandomSource} (steadyI : rI.failing = false) (steadyA : rA.failing = false) :
    ∃ initiator first rI', (m.initiate envI req).run.run rI = (.ok (initiator, first), rI') ∧
    ∃ acceptor answer rA',
      (m.acceptRequest envA ⟨some acceptorCredential, first.outputToken, none⟩).run.run rA =
        (.ok (acceptor, answer), rA') ∧
      answer.status = .complete ∧ acceptor.key = t.sessionKey ∧ acceptor.flags = granted req.flags ∧
      (ContextFlags.has req.flags ContextFlags.mutualAuth = true →
        first.status = .continueNeeded ∧
        ∃ established last,
          m.continueInitiate envI' initiator { req with inputToken := some answer.outputToken } =
            .ok (established, last) ∧
          last.status = .complete ∧ last.outputToken = [] ∧ Agreed established acceptor) ∧
      (ContextFlags.has req.flags ContextFlags.mutualAuth = false →
        first.status = .complete ∧ answer.outputToken = [] ∧ Agreed initiator acceptor) := by
  obtain ⟨initiator, first, rI', r₁, body, initiated, built, framed, role, phase, key, sameSeq,
    flags, source, ctime, status⟩ :=
    m.initiate_run noBindings canonical holds held forServer liveI supported fits steadyI
  -- the acceptor opens the ticket and the authenticator the initiator sealed
  have checked : m.checkRequest envA ⟨some acceptorCredential, first.outputToken, none⟩ =
      .ok (⟨principal, serviceKey⟩, ⟨⟨t.client, t.server, t.sessionKey, authtime, t.endtime⟩,
        ⟨t.client, envI.now, initiator.sendSeq, { flags := req.flags }⟩,
        ContextFlags.has req.flags ContextFlags.mutualAuth⟩) :=
    checkRequest_of_request lawful accepts issued rfl supported built framed forAcceptor rfl liveA
      skew rfl
  obtain ⟨acceptor, answer, rA', accepted, acceptorRole, acceptorPhase, acceptorKey, forward,
    acceptorSource, acceptorTime, answered, whenAsked, whenNot⟩ :=
    acceptRequest_run checked supported steadyA
  -- the acceptor sets or clears mutual authentication; either way it keeps the granted flags
  have acceptorFlags : acceptor.flags = granted req.flags := by
    cases asked : ContextFlags.has req.flags ContextFlags.mutualAuth
    · exact (whenNot asked).1.trans (granted_and_not_mutualAuth asked)
    · exact (whenAsked asked).1.trans (granted_or_mutualAuth asked)
  refine ⟨initiator, first, rI', initiated, acceptor, answer, rA', accepted, answered, acceptorKey,
    acceptorFlags, fun asked => ?_, fun asked => ?_⟩
  · obtain ⟨-, r₂, replyBody, replied, replyFramed⟩ := whenAsked asked
    have waiting : initiator.phase = .awaitingReply := by rw [phase, if_pos asked]
    have echoed : ((Exchange.buildReply m.suite initiator.key
        ⟨initiator.ctime, acceptor.sendSeq⟩).run.run r₂).1 = .ok replyBody := by
      rw [acceptorKey, acceptorTime] at replied
      rw [key, ctime]
      exact replied
    have input : ({ req with inputToken := some answer.outputToken } : InitRequest).inputToken =
        some answer.outputToken := rfl
    refine ⟨by rw [status, if_pos asked], _, _,
      @continueInitiate_of_reply m lawful envI' _ _ _ _ _ _ waiting echoed replyFramed input,
      rfl, rfl, ?_⟩
    exact ⟨role, acceptorRole, rfl, acceptorPhase, key.trans acceptorKey.symm,
      flags.trans acceptorFlags.symm, forward, rfl, source.trans acceptorSource.symm,
      ctime.trans acceptorTime.symm⟩
  · obtain ⟨-, acceptorSend, quiet⟩ := whenNot asked
    have notAsked : ¬ ContextFlags.has req.flags ContextFlags.mutualAuth = true := by simp [asked]
    refine ⟨by rw [status, if_neg notAsked], quiet, ?_⟩
    exact ⟨role, acceptorRole, by rw [phase, if_neg notAsked], acceptorPhase,
      key.trans acceptorKey.symm, flags.trans acceptorFlags.symm, forward,
      sameSeq.trans acceptorSend.symm, source.trans acceptorSource.symm,
      ctime.trans acceptorTime.symm⟩

/-- Over the identity cipher, which is lawful, a client holding a ticket sealed under a
service's single-DES key completes a handshake with mutual authentication. -/
theorem handshake_agrees_for_alice :
    let m : Mechanism := { suite := ⟨⟨fun _ => ⟨id, id⟩⟩, ⟨fun _ => ⟨id, id⟩⟩⟩ }
    let serviceKey : SessionKey := ⟨.desCbcMd5, List.replicate 8 7⟩
    let sessionKey : SessionKey := ⟨.desCbcMd5, List.replicate 8 1⟩
    let contents : Exchange.TicketContents := ⟨"alice", "host/server", sessionKey, 0, 100⟩
    let t : ServiceTicket := ⟨"alice", "host/server", sessionKey, 100,
      ((Exchange.sealTicket m.suite serviceKey contents).run.run {}).1.toOption.getD []⟩
    let req : InitRequest := { credential := some (Credential.ofTicket t),
                               target := Name.principal "host/server"
                               flags := ContextFlags.mutualAuth }
    let env : Environment := default
    let acceptorCredential := Credential.ofAcceptor "host/server" serviceKey
    ∃ initiator first rI', (m.initiate env req).run.run {} = (.ok (initiator, first), rI') ∧
    ∃ acceptor answer rA',
      (m.acceptRequest env ⟨some acceptorCredential, first.outputToken, none⟩).run.run {} =
        (.ok (acceptor, answer), rA') ∧
      answer.status = .complete ∧ acceptor.key = t.sessionKey ∧ acceptor.flags = granted req.flags ∧
      (ContextFlags.has req.flags ContextFlags.mutualAuth = true →
        first.status = .continueNeeded ∧
        ∃ established last,
          m.continueInitiate env initiator { req with inputToken := some answer.outputToken } =
            .ok (established, last) ∧
          last.status = .complete ∧ last.outputToken = [] ∧ Agreed established acceptor) ∧
      (ContextFlags.has req.flags ContextFlags.mutualAuth = false →
        first.status = .complete ∧ answer.outputToken = [] ∧ Agreed initiator acceptor) := by
  intro m serviceKey sessionKey contents t req env acceptorCredential
  have lawful : m.suite.Lawful := ⟨fun _ _ => rfl, fun _ _ => rfl⟩
  have supported : sessionKey.Supported := ⟨.des, rfl, rfl⟩
  -- the client holds the ticket sealed under the service key, and a request for it fits
  obtain ⟨blob, sealing, fits⟩ := @Exchange.sealTicket_fits m.suite serviceKey contents {}
    (by rw [Bytes.ofString_eq]; decide) (by rw [Bytes.ofString_eq]; decide) supported
    ⟨.des, rfl, rfl⟩ rfl
  have sameTicket :
      t = ⟨contents.client, contents.server, contents.sessionKey, contents.endtime, blob⟩ := by
    show ServiceTicket.mk _ _ _ _
      (((Exchange.sealTicket m.suite serviceKey contents).run.run {}).1.toOption.getD []) = _
    rw [sealing]
    rfl
  have issued : ((Exchange.sealTicket m.suite serviceKey
      ⟨t.client, t.server, t.sessionKey, 0, t.endtime⟩).run.run {}).1 = .ok t.blob := by
    rw [sameTicket]
    exact sealing
  rw [← sameTicket] at fits
  have sameServer : samePrincipal "host/server" "host/server" = true := by simp [samePrincipal]
  have live : env.now < t.endtime := by decide
  have skew : distance env.now env.now ≤ m.config.clockSkew := by decide
  exact handshake_agrees lawful issued supported fits rfl rfl rfl (canonicalize_principal _)
    sameServer rfl sameServer live live skew rfl rfl

end Mechanism

end GssApi.Krb5
