import GssApi.Proofs.ContextInvariant
import GssApi.Proofs.Handshake

/-! What an acceptor has checked when it accepts.

A first acceptor step that leaves a ticket context behind ran the ticket mechanism, installed
under the identifier that frames the token. The token framed an authentication request behind
its tag, which opened under the key of the credential's acceptor half, and every check passed
on what it opened: the ticket is for the acceptor's principal and names the authenticator's
client, it expires strictly later than now, the clocks differ by at most the allowed skew
either way (a distance computed without overflow), and neither the call nor the authenticator
carries channel bindings. The context is built from the ticket, the authenticator and the
acceptor's principal; a reply goes back, and mutual authentication is granted, exactly when one
was asked for; the lifetime reported is the time left on the ticket, capped at the largest
32-bit value.

`Mechanism.checkRequest_eq_ok` reads the checks back from a successful check,
`Mechanism.acceptRequest_accepted` adds what the step builds (`AcceptedRequest`), and
`accepted_tokens_passed_every_check` lifts both to the first call on a handle. -/
namespace GssApi

namespace Codec

/-- What loses a tag is the tag followed by what is left. -/
theorem stripTag_eq_ok {inner body : Bytes} {tag : TokenTag} (stripped : stripTag inner tag = .ok body) :
    inner = tag.bytes ++ body := by
  unfold stripTag at stripped
  split at stripped
  · rename_i a b rest
    split at stripped
    · rename_i same
      cases stripped
      rw [← same]
      rfl
    · cases stripped
  · cases stripped

/-- A token unframed for a mechanism names that mechanism. -/
theorem decapsulate_of_decapsulateFor {token inner : Bytes} {mech : Oid}
    (unframed : decapsulateFor token mech = .ok inner) :
    decapsulate token = .ok ⟨mech, inner⟩ := by
  unfold decapsulateFor at unframed
  obtain ⟨u, opened, unframed⟩ := Except.bind_eq_ok.1 unframed
  split at unframed
  · cases unframed
  · rename_i same
    cases unframed
    have named : u.mech = mech := by
      obtain ⟨⟨bytes, _⟩, _⟩ := u
      cases mech
      simp only [Decidable.not_not] at same
      simp [same]
    rw [opened, ← named]

/-- A framed token is never empty: it starts with the wrapper tag. -/
theorem ne_nil_of_encapsulate {mech : Oid} {inner token : Bytes}
    (framed : encapsulate mech inner = .ok token) : token ≠ [] := by
  obtain ⟨outer, oidLength, -, -, rfl⟩ := encapsulate_eq_ok framed
  exact List.cons_ne_nil _ _

end Codec

/-- A binding checksum carries no bindings exactly when its hash is sixteen zero bytes. -/
theorem BindingChecksum.hasBindings_eq_false {c : BindingChecksum} :
    c.hasBindings = false ↔ c.bindings = List.replicate 16 0 := by
  rw [BindingChecksum.hasBindings, List.any_eq_false, List.eq_replicate_iff]
  simp [c.bindings_length]

namespace Krb5

/-- The distance between two times is the size of their difference, computed without
overflow. -/
theorem toNat_distance (a b : UInt64) :
    (distance a b).toNat = Int.natAbs ((a.toNat : Int) - b.toNat) := by
  unfold distance
  split
  · rename_i below
    have le := UInt64.le_iff_toNat_le.1 below
    rw [UInt64.toNat_sub_of_le a b below]
    omega
  · rename_i above
    have lt := UInt64.lt_iff_toNat_lt.1 (UInt64.not_le.1 above)
    rw [UInt64.toNat_sub_of_le b a (UInt64.le_of_lt (UInt64.not_le.1 above))]
    omega

/-- Before its expiry a context reports the seconds left, capped at the largest 32-bit value. -/
theorem Context.toNat_remaining {ctx : Context} {now : UInt64} (live : now < ctx.endtime) :
    (ctx.remaining now).toNat = min (ctx.endtime.toNat - now.toNat) (2 ^ 32 - 1) := by
  have left : (secondsUntil ctx.endtime now).toNat = ctx.endtime.toNat - now.toNat := by
    rw [secondsUntil, if_pos (UInt64.le_of_lt live), UInt64.toNat_sub_of_le _ _ (UInt64.le_of_lt live)]
  have capped : min (ctx.endtime.toNat - now.toNat) 0xFFFFFFFF < UInt32.size :=
    Nat.lt_of_le_of_lt (Nat.min_le_right _ _) (by decide)
  rw [Context.remaining, left, UInt32.toNat_ofNat_of_lt' capped]
  rfl

/-- What the acceptor half of a credential gives. -/
theorem acceptorKey_eq_ok {credential : Option Credential} {acceptor : AcceptorKey}
    (held : acceptorKey credential = .ok acceptor) :
    ∃ c, credential = some c ∧ c.acceptor = some acceptor := by
  unfold acceptorKey at held
  split at held
  · cases held
  · rename_i c
    split at held
    · cases held
      exact ⟨c, rfl, ‹_›⟩
    · cases held

namespace Mechanism

/-- What an acceptor that took a request at time `now`, with the acceptor half `acceptor` of its
credential and `request` what the request opened to, has checked, and what it set up: its
context `ctx` and its answer `step`. -/
structure AcceptedRequest (m : Mechanism) (now : UInt64) (req : AcceptRequest)
    (acceptor : AcceptorKey) (request : Exchange.Request) (ctx : Context) (step : StepOutput) :
    Prop where
  /-- The credential has an acceptor half. -/
  credential : ∃ c, req.credential = some c ∧ c.acceptor = some acceptor
  noBindings : req.bindings = none
  /-- The token frames, under the ticket mechanism's identifier, a request behind its tag, and
  the request opens under the acceptor's key. -/
  opened : ∃ body, Codec.decapsulateFor req.inputToken Oid.krb5 = .ok (TokenTag.apReq.bytes ++ body) ∧
    Exchange.readRequest m.suite acceptor.key body = .ok request
  forAcceptor : samePrincipal request.ticket.server acceptor.principal = true
  sameClient : request.authenticator.client = request.ticket.client
  /-- The ticket expires strictly later than now. -/
  live : now < request.ticket.endtime
  /-- The clocks differ by at most the allowed skew, either way. -/
  withinSkew : Int.natAbs ((now.toNat : Int) - request.authenticator.ctime.toNat) ≤
    m.config.clockSkew.toNat
  /-- The authenticator's binding hash is all zero. -/
  unbound : request.authenticator.checksum.bindings = List.replicate 16 0
  role : ctx.role = .acceptor
  phase : ctx.phase = .established
  key : ctx.key = request.ticket.sessionKey
  source : ctx.source = Name.principal request.ticket.client
  target : ctx.target = Name.principal acceptor.principal
  endtime : ctx.endtime = request.ticket.endtime
  recvSeq : ctx.recvSeq = request.authenticator.seq
  /-- The flags granted for the authenticator's, with mutual authentication set exactly when a
  reply was asked for. -/
  flags : ctx.flags = if request.mutualRequired then
    granted request.authenticator.checksum.flags ||| ContextFlags.mutualAuth
    else granted request.authenticator.checksum.flags &&& ~~~ContextFlags.mutualAuth
  /-- A token goes back exactly when a reply was asked for. -/
  replied : step.outputToken ≠ [] ↔ request.mutualRequired = true
  /-- The time left on the ticket, capped at the largest 32-bit value. -/
  lifetime : step.lifetime.toNat = min (request.ticket.endtime.toNat - now.toNat) (2 ^ 32 - 1)

variable {m : Mechanism}

/-- A request that passes the acceptor's checks came with an acceptor credential and no
bindings, in a token that frames it behind its tag, and opened under the credential's key to a
ticket for the acceptor, naming the authenticator's client, not yet expired, with clocks within
the skew and an authenticator without bindings. -/
theorem checkRequest_eq_ok {env : Environment} {req : AcceptRequest} {acceptor : AcceptorKey}
    {request : Exchange.Request} (checked : m.checkRequest env req = .ok (acceptor, request)) :
    (∃ c, req.credential = some c ∧ c.acceptor = some acceptor) ∧ req.bindings = none ∧
      (∃ body, Codec.decapsulateFor req.inputToken Oid.krb5 = .ok (TokenTag.apReq.bytes ++ body) ∧
        Exchange.readRequest m.suite acceptor.key body = .ok request) ∧
      samePrincipal request.ticket.server acceptor.principal = true ∧
      request.authenticator.client = request.ticket.client ∧ env.now < request.ticket.endtime ∧
      distance env.now request.authenticator.ctime ≤ m.config.clockSkew ∧
      request.authenticator.checksum.hasBindings = false := by
  unfold checkRequest at checked
  obtain ⟨acceptor', held, checked⟩ := Except.bind_eq_ok.1 checked
  -- each guard either throws, which cannot succeed, or lets the rest run
  split at checked
  · cases checked
  rename_i noBindings
  obtain ⟨inner, unframed, checked⟩ := Except.bind_eq_ok.1 checked
  obtain ⟨body, stripped, checked⟩ := Except.bind_eq_ok.1 checked
  obtain ⟨request', read, checked⟩ := Except.bind_eq_ok.1 checked
  dsimp only at checked
  split at checked
  · cases checked
  rename_i forAcceptor
  split at checked
  · cases checked
  rename_i sameClient
  split at checked
  · cases checked
  rename_i live
  split at checked
  · cases checked
  rename_i close
  split at checked
  · cases checked
  rename_i unbound
  cases checked
  have framed := Codec.stripTag_eq_ok (Except.mapError_eq_ok.1 stripped)
  subst framed
  refine ⟨acceptorKey_eq_ok held, by simpa using noBindings,
    ⟨body, Except.mapError_eq_ok.1 unframed, Except.mapError_eq_ok.1 read⟩,
    by simpa using forAcceptor, not_not.1 sameClient, UInt64.not_le.1 live, UInt64.not_lt.1 close,
    by simpa using unbound⟩

/-- An acceptor answers with a token exactly when the request asks for a reply: a reply is a
framed token, and no reply is no token. -/
theorem replied_iff {request : Exchange.Request} {step : StepOutput}
    (asked : request.mutualRequired = true →
      ∃ body, Codec.encapsulateTagged Oid.krb5 .apRep body = .ok step.outputToken)
    (notAsked : request.mutualRequired = false → step.outputToken = []) :
    step.outputToken ≠ [] ↔ request.mutualRequired = true := by
  cases askedFor : request.mutualRequired with
  | true =>
    obtain ⟨body, framed⟩ := asked askedFor
    exact iff_of_true (Codec.ne_nil_of_encapsulate framed) rfl
  | false => exact iff_of_false (by simp [notAsked askedFor]) Bool.false_ne_true

/-- A successful acceptor step passed every check on the request it read and set up its context
and answer from the ticket and the authenticator. -/
theorem acceptRequest_accepted {env : Environment} {req : AcceptRequest} {r : RandomSource}
    {ctx : Context} {step : StepOutput}
    (ran : ((m.acceptRequest env req).run.run r).1 = .ok (ctx, step)) :
    ∃ acceptor request, m.AcceptedRequest env.now req acceptor request ctx step := by
  obtain ⟨acceptor, request, sendSeq, checked, rfl, -, -, lifetime, -, asked, notAsked⟩ :=
    acceptRequest_answer ran
  obtain ⟨credential, noBindings, opened, forAcceptor, sameClient, live, close, unbound⟩ :=
    checkRequest_eq_ok checked
  have withinSkew : Int.natAbs ((env.now.toNat : Int) - request.authenticator.ctime.toNat) ≤
      m.config.clockSkew.toNat := by
    rw [← toNat_distance]
    exact UInt64.le_iff_toNat_le.1 close
  refine ⟨acceptor, request, credential, noBindings, opened, forAcceptor, sameClient, live,
    withinSkew, BindingChecksum.hasBindings_eq_false.1 unbound, rfl, rfl, rfl, rfl, rfl, rfl, rfl,
    rfl, replied_iff asked notAsked, ?_⟩
  rw [lifetime]
  exact Context.toNat_remaining live

end Mechanism

end Krb5

namespace Registry

variable {r : Registry} {rt rt' : Runtime} {req : AcceptRequest}

/-- A first acceptor step that leaves a ticket context, over mechanisms that are ticket
mechanisms or make no ticket context, ran the ticket mechanism installed under the identifier
that frames the token, and the handle names that identifier. -/
theorem acceptSecContext_first_krb5 {out : EstablishOutput} {oid : Oid} {ctx : Krb5.Context}
    (tickets : ∀ mech ∈ r.mechs, mech.IsKrb5 ∨ mech.KeepsUnbound)
    (accepted : (r.acceptSecContext req).run.run (rt, none) =
      (.ok out, (rt', some ⟨oid, .krb5 ctx⟩))) :
    ∃ i m, r.findBound Oid.krb5 = .ok i ∧ r.mechs.get i = .krb5 m ∧ oid = Oid.krb5 ∧
      out.mech = Oid.krb5 ∧ ((m.acceptRequest rt.env req).run.run rt.random).1 = .ok (ctx, out.step) := by
  cases unframed : Codec.decapsulate req.inputToken with
  | error e =>
    rw [acceptSecContext_first_unframed r rt req unframed] at accepted
    cases accepted
  | ok u =>
    cases found : r.findBound u.mech with
    | error e =>
      rw [acceptSecContext_first_unfound r rt req unframed found] at accepted
      cases accepted
    | ok i =>
      rw [acceptSecContext_first r rt req unframed found] at accepted
      obtain ⟨-, -, answered⟩ := settle_eq accepted
      obtain ⟨⟨st, step⟩, ran, rfl, bound⟩ := answered out rfl
      obtain ⟨rfl, rfl⟩ := SecurityContext.mk.inj (Option.some.inj bound)
      -- only a ticket mechanism leaves a ticket context; any other keeps the state unbound
      rcases tickets _ (List.get_mem r.mechs i) with ⟨m, installed⟩ | keeps
      · rw [installed] at ran
        obtain ⟨ctx', same, accepted⟩ := Krb5.Mechanism.accept_unbound_eq_ok ran
        cases same
        have named : u.mech = Oid.krb5 := by
          rw [← oid_of_findBound found, installed]
          rfl
        exact ⟨i, m, named ▸ found, installed, named, named, accepted⟩
      · cases keeps _ _ (.accept ran)

/-- An acceptor whose ticket mechanism is installed under its identifier accepts, on a fresh
handle, a request that passes the mechanism's checks with a supported session key, from any
source that does not fail, and leaves the handle holding a ticket context. -/
theorem acceptSecContext_first_of_checked {i : Fin r.mechs.length} {m : Krb5.Mechanism}
    {acceptor : AcceptorKey} {request : Exchange.Request} (found : r.findBound Oid.krb5 = .ok i)
    (installed : r.mechs.get i = .krb5 m) (checked : m.checkRequest rt.env req = .ok (acceptor, request))
    (supported : request.ticket.sessionKey.Supported) (steady : rt.random.failing = false) :
    ∃ out rt' ctx, (r.acceptSecContext req).run.run (rt, none) =
      (.ok out, (rt', some ⟨Oid.krb5, .krb5 ctx⟩)) := by
  obtain ⟨-, -, ⟨body, unframed, -⟩, -⟩ := Krb5.Mechanism.checkRequest_eq_ok checked
  obtain ⟨ctx, answer, random, accepted, -⟩ := Krb5.Mechanism.acceptRequest_run checked supported steady
  have framed := Codec.decapsulate_of_decapsulateFor unframed
  rw [acceptSecContext_first r rt req framed found, installed]
  simp only [Mechanism.krb5, Krb5.Mechanism.accept, Rand.run_bind, accepted, Rand.run_pure]
  exact ⟨_, _, ctx, rfl⟩

end Registry

/-- Over mechanisms that are ticket mechanisms or make no ticket context, a first acceptor call
that leaves a ticket context on a fresh handle ran the ticket mechanism installed under its
identifier, and that mechanism accepted: the token framed a
request that opened under the key of the credential's acceptor half, every check passed on what
it opened, and the context and answer are those the ticket and the authenticator make. -/
theorem accepted_tokens_passed_every_check {r : Registry} {rt rt' : Runtime} {req : AcceptRequest}
    {out : EstablishOutput} {oid : Oid} {ctx : Krb5.Context}
    (tickets : ∀ mech ∈ r.mechs, mech.IsKrb5 ∨ mech.KeepsUnbound)
    (accepted : (r.acceptSecContext req).run.run (rt, none) =
      (.ok out, (rt', some ⟨oid, .krb5 ctx⟩))) :
    ∃ i m acceptor request, r.findBound Oid.krb5 = .ok i ∧ r.mechs.get i = .krb5 m ∧
      oid = Oid.krb5 ∧ out.mech = Oid.krb5 ∧
      m.AcceptedRequest rt.now req acceptor request ctx out.step := by
  obtain ⟨i, m, found, installed, named, answered, ran⟩ :=
    Registry.acceptSecContext_first_krb5 tickets accepted
  obtain ⟨acceptor, request, checks⟩ := Krb5.Mechanism.acceptRequest_accepted ran
  exact ⟨i, m, acceptor, request, found, installed, named, answered, checks⟩

/-- Over the identity cipher, which is lawful, a registry holding the ticket mechanism alone
accepts on a fresh handle a request for a ticket sealed under the acceptor's single-DES key,
presented within the ticket's life. -/
theorem accepted_tokens_passed_every_check_for_alice :
    let m : Krb5.Mechanism := { suite := ⟨⟨fun _ => ⟨id, id⟩⟩, ⟨fun _ => ⟨id, id⟩⟩⟩ }
    let r : Registry := ⟨[.krb5 m], ⟨0, Nat.succ_pos 0⟩⟩
    let rt : Runtime := ⟨1500, {}, {}, [0]⟩
    let credential := Credential.ofAcceptor "host/server" ⟨.desCbcMd5, List.replicate 8 7⟩
    (∀ mech ∈ r.mechs, mech.IsKrb5 ∨ mech.KeepsUnbound) ∧ ∃ token out rt' ctx, (r.acceptSecContext ⟨some credential, token, none⟩).run.run (rt, none) =
      (.ok out, (rt', some ⟨Oid.krb5, .krb5 ctx⟩)) ∧
      ∃ i m' acceptor request, r.findBound Oid.krb5 = .ok i ∧ r.mechs.get i = .krb5 m' ∧
        Oid.krb5 = Oid.krb5 ∧ out.mech = Oid.krb5 ∧
        m'.AcceptedRequest rt.now ⟨some credential, token, none⟩ acceptor request ctx out.step := by
  intro m r rt credential
  have lawful : m.suite.Lawful := ⟨fun _ _ => rfl, fun _ _ => rfl⟩
  let sessionKey : SessionKey := ⟨.desCbcMd5, List.replicate 8 1⟩
  let contents : Exchange.TicketContents := ⟨"alice", "host/server", sessionKey, 1000, 2000⟩
  have supported : sessionKey.Supported := ⟨.des, rfl, rfl⟩
  -- the ticket, sealed under the acceptor's key
  obtain ⟨blob, issued, fits⟩ := @Exchange.sealTicket_fits m.suite
    ⟨.desCbcMd5, List.replicate 8 7⟩ contents {} (by rw [Bytes.ofString_eq]; decide)
    (by rw [Bytes.ofString_eq]; decide) supported ⟨.des, rfl, rfl⟩ rfl
  -- the request, built on that ticket from an authenticator naming the ticket's client
  let t : ServiceTicket := ⟨"alice", "host/server", sessionKey, 2000, blob⟩
  let a : Exchange.Authenticator := ⟨"alice", 1500, 42, { flags := 0 }⟩
  obtain ⟨body, built, short⟩ :=
    @Exchange.buildRequest_run m.suite t a false {} supported fits rfl rfl
  have builtOk : ((Exchange.buildRequest m.suite t a false).run.run {}).1 = .ok body := by
    rw [built]
  obtain ⟨token, framed⟩ := Krb5.encapsulateTagged_ok .apReq
    (show body.length < 2 ^ 24 by simp only [Exchange.maxField] at short; omega)
  -- the acceptor's checks pass: right principal and client, live ticket, equal clocks
  have checked : m.checkRequest rt.env ⟨some credential, token, none⟩ =
      .ok (⟨"host/server", ⟨.desCbcMd5, List.replicate 8 7⟩⟩, ⟨contents, a, false⟩) :=
    Krb5.Mechanism.checkRequest_of_request lawful rfl issued rfl supported builtOk framed
      (by decide) rfl (by decide) (by decide) rfl
  obtain ⟨out, rt', ctx, accepted⟩ : ∃ out rt' ctx,
      (r.acceptSecContext ⟨some credential, token, none⟩).run.run (rt, none) =
        (.ok out, (rt', some ⟨Oid.krb5, .krb5 ctx⟩)) :=
    Registry.acceptSecContext_first_of_checked (i := ⟨0, Nat.succ_pos 0⟩) rfl rfl checked supported
      rfl
  have tickets : ∀ mech ∈ r.mechs, mech.IsKrb5 ∨ mech.KeepsUnbound := by
    intro mech member
    rw [List.mem_singleton.1 member]
    exact .inl ⟨m, rfl⟩
  exact ⟨tickets, token, out, rt', ctx, accepted, accepted_tokens_passed_every_check tickets accepted⟩

end GssApi
