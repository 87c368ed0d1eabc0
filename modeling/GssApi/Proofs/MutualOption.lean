import GssApi.Proofs.SupportedKeys

/-! The acceptor's reply follows the options byte of the request.

An authentication request carries the initiator's wish for a reply twice: as bit 0 of the
options byte, which stands between the version byte and the ticket blob outside both sealed
parts, and as the mutual-authentication flag among the requested flags in the authenticator's
checksum, which is sealed under the session key. The honest initiator writes the same wish in
both places. The acceptor reads the options byte for its reply decision and for the mutual
authentication flag it grants, and the checksum flags for the rest.

So the reply decision is bound to the options byte and not to the flags the initiator
authenticated: a request token with its options byte replaced, framed as before, is accepted on
the same ticket and authenticator, and the acceptor grants mutual authentication and replies
exactly when bit 0 of the new byte is set, whatever the initiator asked for. Main statement:
`mutual_reply_follows_options_byte`; `options_byte_overrides_requested_flags` is a request
without mutual authentication that the acceptor answers as if it had asked. -/
namespace GssApi

namespace Exchange

variable {cs : CipherSuite}

/-- Reading a request body with another options byte reads the same fields after it. -/
theorem requestReader_read_options (v o o' : UInt8) (rest : Bytes) :
    requestReader.read (v :: o' :: rest) =
      (requestReader.read (v :: o :: rest)).map fun x => (o', x.2) := by
  simp only [Reader.read, requestReader, StateT.run_bind, Reader.u8_run, Except.ok_bind]
  cases checkVersion v with
  | error e => rfl
  | ok u =>
    simp only [StateT.run_bind, Reader.u8_run, Except.ok_bind]
    -- past the options byte both runs read the same fields from the same bytes
    rcases StateT.run Reader.field rest with e | ⟨blob, rest₁⟩
    · rfl
    simp only [Except.ok_bind]
    rcases StateT.run Reader.field rest₁ with e | ⟨sealed, rest₂⟩
    · rfl
    simp only [Except.ok_bind]
    rcases StateT.run Reader.finish rest₂ with e | ⟨u, rest₃⟩
    · rfl
    rfl

/-- The options byte is read outside both sealed parts: the same body with another options byte
reads to the same ticket and authenticator, and asks for a reply by the new byte. -/
theorem readRequest_options {serviceKey : SessionKey} {v o : UInt8} {rest : Bytes} {request : Request}
    (read : readRequest cs serviceKey (v :: o :: rest) = .ok request) (o' : UInt8) :
    readRequest cs serviceKey (v :: o' :: rest) =
      .ok { request with mutualRequired := o' &&& optMutual ≠ 0 } := by
  unfold readRequest at read ⊢
  obtain ⟨⟨options, blob, sealed⟩, fields, read⟩ := Except.bind_eq_ok.1 read
  obtain ⟨ticket, opened, read⟩ := Except.bind_eq_ok.1 read
  obtain ⟨plain, unsealed, read⟩ := Except.bind_eq_ok.1 read
  obtain ⟨authenticator, authenticated, read⟩ := Except.bind_eq_ok.1 read
  cases read
  rw [requestReader_read_options v o o' rest, fields]
  simp only [Except.map, Except.ok_bind, opened, unsealed, authenticated]
  rfl

/-- A request that reads has a version byte and an options byte, and asks for a reply exactly
when bit 0 of its options byte is set. -/
theorem readRequest_eq_ok_options {serviceKey : SessionKey} {body : Bytes} {request : Request}
    (read : readRequest cs serviceKey body = .ok request) :
    ∃ v o rest, body = v :: o :: rest ∧ request.mutualRequired = decide (o &&& optMutual ≠ 0) := by
  rcases body with _ | ⟨v, _ | ⟨o, rest⟩⟩
  · -- an empty body has no version byte
    have failed : requestReader.read ([] : Bytes) = .error (.codec (.truncated 1 0)) := rfl
    rw [readRequest, failed] at read
    cases read
  · -- a body of one byte has no options byte
    have failed : ∃ e, requestReader.read [v] = .error e := by
      simp only [Reader.read, requestReader, StateT.run_bind, Reader.u8_run, Except.ok_bind]
      cases checkVersion v with
      | error e => exact ⟨_, rfl⟩
      | ok u => exact ⟨_, rfl⟩
    obtain ⟨e, failed⟩ := failed
    rw [readRequest, failed] at read
    cases read
  · refine ⟨v, o, rest, rfl, ?_⟩
    have again := readRequest_options read o
    rw [read] at again
    exact congrArg Request.mutualRequired (Except.ok.inj again)

end Exchange

namespace Krb5

theorem has_or_mutualAuth (x : UInt32) :
    ContextFlags.has (x ||| ContextFlags.mutualAuth) ContextFlags.mutualAuth = true := by
  have present : ContextFlags.mutualAuth ≠ 0 := by decide
  simp [ContextFlags.has, UInt32.and_or_distrib_right, present]

theorem has_and_not_mutualAuth (x : UInt32) :
    ContextFlags.has (x &&& ~~~ContextFlags.mutualAuth) ContextFlags.mutualAuth = false := by
  simp [ContextFlags.has, UInt32.and_assoc]

namespace Mechanism

variable {m : Mechanism}

/-- A request token is its wrapper, the request tag, the version byte, the options byte and the
two fields; the same wrapper frames the request with any other options byte. -/
theorem request_token_eq {ticket : ServiceTicket} {a : Exchange.Authenticator} {mutualAuth : Bool}
    {r : RandomSource} {body token : Bytes}
    (built : ((Exchange.buildRequest m.suite ticket a mutualAuth).run.run r).1 = .ok body)
    (framed : Codec.encapsulateTagged Oid.krb5 .apReq body = .ok token) :
    ∃ wrapper fields,
      token = wrapper ++ TokenTag.apReq.bytes ++ Exchange.version :: Exchange.options mutualAuth :: fields ∧
      ∀ o, Codec.encapsulate Oid.krb5 (TokenTag.apReq.bytes ++ Exchange.version :: o :: fields) =
        .ok (wrapper ++ TokenTag.apReq.bytes ++ Exchange.version :: o :: fields) := by
  obtain ⟨_, sealed, -, -, bodyOk⟩ := Exchange.buildRequest_eq_ok built
  obtain ⟨-, -, rfl⟩ := Exchange.requestBody_eq_ok bodyOk
  obtain ⟨wrapper, rfl, frames⟩ := Codec.encapsulate_eq_append framed
  refine ⟨wrapper, _, (List.append_assoc _ _ _).symm, fun o => ?_⟩
  rw [List.append_assoc wrapper]
  exact frames _ (by simp)

/-- A successful acceptor step answers the request it checked: its context holds the ticket's
key and expects the authenticator's sequence number, it grants mutual authentication exactly
when the request asks for a reply, and it answers with a token exactly then. -/
theorem acceptRequest_follows_request {env : Environment} {req : AcceptRequest} {r : RandomSource}
    {ctx : Context} {out : StepOutput} (ran : ((m.acceptRequest env req).run.run r).1 = .ok (ctx, out)) :
    ∃ acceptor request, m.checkRequest env req = .ok (acceptor, request) ∧
      ctx.key = request.ticket.sessionKey ∧ ctx.recvSeq = request.authenticator.seq ∧
      ContextFlags.has ctx.flags ContextFlags.mutualAuth = request.mutualRequired ∧
      (out.outputToken ≠ [] ↔ request.mutualRequired = true) := by
  obtain ⟨acceptor, request, sendSeq, checked, rfl, -, -, -, -, asked, notAsked⟩ :=
    acceptRequest_answer ran
  refine ⟨acceptor, request, checked, rfl, rfl, ?_, replied_iff asked notAsked⟩
  cases request.mutualRequired with
  | true => exact has_or_mutualAuth _
  | false => exact has_and_not_mutualAuth _

/-- An acceptor step that succeeds on a token whose checks read a request answers that
request. -/
theorem acceptRequest_follows_checked {env : Environment} {req : AcceptRequest} {r : RandomSource}
    {acceptor : AcceptorKey} {request : Exchange.Request} {ctx : Context} {out : StepOutput}
    (checked : m.checkRequest env req = .ok (acceptor, request))
    (ran : ((m.acceptRequest env req).run.run r).1 = .ok (ctx, out)) :
    ctx.key = request.ticket.sessionKey ∧ ctx.recvSeq = request.authenticator.seq ∧
      ContextFlags.has ctx.flags ContextFlags.mutualAuth = request.mutualRequired ∧
      (out.outputToken ≠ [] ↔ request.mutualRequired = true) := by
  obtain ⟨acceptor', request', checked', key, recvSeq, granted, replied⟩ :=
    acceptRequest_follows_request ran
  rw [checked] at checked'
  obtain ⟨-, rfl⟩ := Prod.mk.inj (Except.ok.inj checked')
  exact ⟨key, recvSeq, granted, replied⟩

/-- The acceptor's checks pass on a token that frames the request of an accepted token with
another options byte, and read the same ticket and authenticator; only the reply asked for
follows the new byte. -/
theorem checkRequest_options {env : Environment} {req : AcceptRequest} {acceptor : AcceptorKey}
    {request : Exchange.Request} {v o : UInt8} {rest : Bytes}
    (checked : m.checkRequest env req = .ok (acceptor, request))
    (unframed : Codec.decapsulateFor req.inputToken Oid.krb5 =
      .ok (TokenTag.apReq.bytes ++ v :: o :: rest))
    {token : Bytes} {o' : UInt8}
    (unframed' : Codec.decapsulateFor token Oid.krb5 = .ok (TokenTag.apReq.bytes ++ v :: o' :: rest)) :
    m.checkRequest env { req with inputToken := token } =
      .ok (acceptor, { request with mutualRequired := o' &&& Exchange.optMutual ≠ 0 }) := by
  obtain ⟨⟨c, held, accepts⟩, noBindings, ⟨body, unframed₀, read⟩, forAcceptor, sameClient, live, close,
    unbound⟩ := checkRequest_eq_ok checked
  rw [unframed] at unframed₀
  obtain rfl : body = v :: o :: rest := (List.append_cancel_left (Except.ok.inj unframed₀)).symm
  have read' := Exchange.readRequest_options read o'
  have valid : ¬ request.ticket.endtime ≤ env.now := UInt64.not_le.2 live
  have near : ¬ distance env.now request.authenticator.ctime > m.config.clockSkew :=
    UInt64.not_lt.2 close
  simp only [checkRequest, acceptorKey, held, accepts, noBindings, Option.isSome_none,
    Bool.false_eq_true, if_false, unframed', Codec.stripTag_bytes_append, read', Except.mapError,
    Except.ok_bind, forAcceptor, Bool.not_true, sameClient, ne_eq, not_true_eq_false, valid, near,
    unbound]
  rfl

/-- The reply decision binds to the request's options byte, not to the flags the initiator
authenticated.

* A successful first initiator step sends a token that is a wrapper, the request tag, the
  version byte, an options byte whose bit 0 is set exactly when mutual authentication was
  requested, and the fields holding the ticket and the sealed authenticator, whose checksum
  carries the requested flags; the same wrapper frames the request with any other options byte.
* A successful acceptor step grants mutual authentication, and answers with a reply, exactly
  when bit 0 of the options byte of the request it accepted is set. The same request with any
  other options byte, in any token that frames it, passes the same checks on the same ticket and
  authenticator and is accepted from any source that does not fail, on the same key and
  expecting the same sequence number, granting mutual authentication and replying exactly when
  bit 0 of the new byte is set. -/
theorem mutual_reply_follows_options_byte :
    (∀ (m : Mechanism) (env : Environment) (req : InitRequest) (r : RandomSource) (ctx : Context)
        (out : StepOutput), ((m.initiate env req).run.run r).1 = .ok (ctx, out) →
      ∃ ticket seq r₂ body, ((Exchange.buildRequest m.suite ticket
          ⟨ticket.client, env.now, seq, { flags := req.flags }⟩
          (ContextFlags.has req.flags ContextFlags.mutualAuth)).run.run r₂).1 = .ok body ∧
      ∃ wrapper fields, out.outputToken = wrapper ++ TokenTag.apReq.bytes ++ Exchange.version ::
          Exchange.options (ContextFlags.has req.flags ContextFlags.mutualAuth) :: fields ∧
        ∀ o, Codec.encapsulate Oid.krb5 (TokenTag.apReq.bytes ++ Exchange.version :: o :: fields) =
          .ok (wrapper ++ TokenTag.apReq.bytes ++ Exchange.version :: o :: fields)) ∧
    (∀ (m : Mechanism) (env : Environment) (req : AcceptRequest) (r : RandomSource) (ctx : Context)
        (out : StepOutput), ((m.acceptRequest env req).run.run r).1 = .ok (ctx, out) →
      ∃ acceptor request v o rest, m.checkRequest env req = .ok (acceptor, request) ∧
        Codec.decapsulateFor req.inputToken Oid.krb5 = .ok (TokenTag.apReq.bytes ++ v :: o :: rest) ∧
        (ContextFlags.has ctx.flags ContextFlags.mutualAuth = true ↔ o &&& Exchange.optMutual ≠ 0) ∧
        (out.outputToken ≠ [] ↔ o &&& Exchange.optMutual ≠ 0) ∧
        ∀ (o' : UInt8) (token : Bytes) (r' : RandomSource),
          Codec.decapsulateFor token Oid.krb5 = .ok (TokenTag.apReq.bytes ++ v :: o' :: rest) →
          r'.failing = false →
          m.checkRequest env { req with inputToken := token } =
            .ok (acceptor, { request with mutualRequired := o' &&& Exchange.optMutual ≠ 0 }) ∧
          ∃ ctx' out' r'', (m.acceptRequest env { req with inputToken := token }).run.run r' =
              (.ok (ctx', out'), r'') ∧
            ctx'.key = ctx.key ∧ ctx'.recvSeq = ctx.recvSeq ∧
            (ContextFlags.has ctx'.flags ContextFlags.mutualAuth = true ↔
              o' &&& Exchange.optMutual ≠ 0) ∧
            (out'.outputToken ≠ [] ↔ o' &&& Exchange.optMutual ≠ 0)) := by
  refine ⟨fun m env req r ctx out ran => ?_, fun m env req r ctx out ran => ?_⟩
  · obtain ⟨-, ticket, -, -, -, -, ⟨seq, r₂, body, built, framed⟩, -⟩ := initiate_answer ran
    exact ⟨ticket, seq, r₂, body, built, request_token_eq built framed⟩
  · obtain ⟨acceptor, request, checked, key, recvSeq, granted, replied⟩ :=
      acceptRequest_follows_request ran
    obtain ⟨-, -, ⟨body, unframed, read⟩, -⟩ := checkRequest_eq_ok checked
    obtain ⟨v, o, rest, rfl, asked⟩ := Exchange.readRequest_eq_ok_options read
    refine ⟨acceptor, request, v, o, rest, checked, unframed, by rw [granted, asked, decide_eq_true_iff],
      by rw [replied, asked, decide_eq_true_iff], fun o' token r' unframed' steady => ?_⟩
    have checked' := checkRequest_options checked unframed unframed'
    have supported := Exchange.supported_of_readRequest read
    obtain ⟨ctx', out', r'', ran', -⟩ := acceptRequest_run checked' supported steady
    -- the changed token is answered from the request its checks read
    obtain ⟨key', recvSeq', granted', replied'⟩ := acceptRequest_follows_checked checked' (by rw [ran'])
    refine ⟨checked', ctx', out', r'', ran', by rw [key', key], by rw [recvSeq', recvSeq],
      by rw [granted', decide_eq_true_iff], by rw [replied', decide_eq_true_iff]⟩

/-- Over the identity cipher, which is lawful, a client sends a request without mutual
authentication; with bit 0 of its options byte set on the way, the acceptor accepts it, grants
mutual authentication and sends a reply the client never asked for. -/
theorem options_byte_overrides_requested_flags :
    let m : Mechanism := { suite := ⟨⟨fun _ => ⟨id, id⟩⟩, ⟨fun _ => ⟨id, id⟩⟩⟩ }
    let serviceKey : SessionKey := ⟨.desCbcMd5, List.replicate 8 7⟩
    let sessionKey : SessionKey := ⟨.desCbcMd5, List.replicate 8 1⟩
    let contents : Exchange.TicketContents := ⟨"alice", "host/server", sessionKey, 0, 100⟩
    let t : ServiceTicket := ⟨"alice", "host/server", sessionKey, 100,
      ((Exchange.sealTicket m.suite serviceKey contents).run.run {}).1.toOption.getD []⟩
    let req : InitRequest := { credential := some (Credential.ofTicket t),
                               target := Name.principal "host/server" }
    let acceptorCredential := Credential.ofAcceptor "host/server" serviceKey
    ∃ initiator first rI', (m.initiate default req).run.run {} = (.ok (initiator, first), rI') ∧
      ContextFlags.has req.flags ContextFlags.mutualAuth = false ∧
      ∃ wrapper fields,
        first.outputToken = wrapper ++ TokenTag.apReq.bytes ++ Exchange.version :: 0 :: fields ∧
        ∃ acceptor answer rA', (m.acceptRequest default ⟨some acceptorCredential,
            wrapper ++ TokenTag.apReq.bytes ++ Exchange.version :: 1 :: fields, none⟩).run.run {} =
          (.ok (acceptor, answer), rA') ∧
          ContextFlags.has acceptor.flags ContextFlags.mutualAuth = true ∧
          answer.outputToken ≠ [] := by
  intro m serviceKey sessionKey contents t req acceptorCredential
  have lawful : m.suite.Lawful := ⟨fun _ _ => rfl, fun _ _ => rfl⟩
  have supported : sessionKey.Supported := ⟨.des, rfl, rfl⟩
  -- the client holds the ticket sealed under the service key, and a request for it fits
  obtain ⟨blob, sealing, fits⟩ := @Exchange.sealTicket_fits m.suite serviceKey contents {}
    (by rw [Bytes.ofString_eq]; decide) (by rw [Bytes.ofString_eq]; decide) supported
    ⟨.des, rfl, rfl⟩ rfl
  have sameTicket :
      t = ⟨contents.client, contents.server, contents.sessionKey, contents.endtime, blob⟩ := by
    show ServiceTicket.mk _ _ _ _
      (((Exchange.sealTicket m.suite serviceKey contents).run.run {}).1.toOption.getD []) = _
    rw [sealing]
    rfl
  have issued : ((Exchange.sealTicket m.suite serviceKey contents).run.run {}).1 = .ok t.blob := by
    rw [sameTicket]
    exact sealing
  rw [← sameTicket] at fits
  have sameServer : samePrincipal "host/server" "host/server" = true := by simp [samePrincipal]
  -- the honest request asks for no reply, in its options byte as in its checksum
  obtain ⟨initiator, first, rI', r₁, body, initiated, built, framed, -⟩ :=
    @initiate_run m default req (Credential.ofTicket t) t "host/server" {} rfl
      (canonicalize_principal _) rfl rfl sameServer (by decide) supported fits rfl
  have notAsked : ContextFlags.has req.flags ContextFlags.mutualAuth = false := by decide
  obtain ⟨wrapper, fields, token, reframes⟩ := request_token_eq built framed
  rw [notAsked] at token
  have live : (default : Environment).now < contents.endtime := by decide
  have skew : distance (default : Environment).now (default : Environment).now ≤ m.config.clockSkew := by
    decide
  have checked := checkRequest_of_request lawful
    (rfl : acceptorCredential.acceptor = some ⟨"host/server", serviceKey⟩) issued rfl supported
    built framed sameServer rfl live skew rfl
  -- the acceptor reads the changed options byte, and nothing else changes
  have unframed : Codec.decapsulateFor first.outputToken Oid.krb5 =
      .ok (TokenTag.apReq.bytes ++ Exchange.version :: Exchange.options false :: fields) := by
    rw [token]
    exact Codec.decapsulateFor_of_encapsulate (reframes _)
  have checked' := checkRequest_options checked unframed
    (Codec.decapsulateFor_of_encapsulate (reframes 1))
  obtain ⟨acceptor, answer, rA', ran, -⟩ :=
    acceptRequest_run checked' supported (rfl : ({} : RandomSource).failing = false)
  obtain ⟨-, -, granted, replied⟩ := acceptRequest_follows_checked checked' (by rw [ran])
  exact ⟨initiator, first, rI', initiated, notAsked, wrapper, fields, token, acceptor, answer, rA', ran,
    granted, replied.2 rfl⟩

end Mechanism

end Krb5

end GssApi
