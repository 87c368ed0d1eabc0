import GssApi.Proofs.Facade
import GssApi.Proofs.Flags
import GssApi.Proofs.HonestTokens

/-! Ticket contexts stay sound, and calls change them only as they may.

Every ticket context a session can reach through the context interface is sound: it carries
protection readiness and no flag beyond the supported ones and protection readiness, an
acceptor's context is established, and a context waits for a reply only on the initiator's
side and when mutual authentication is among its flags. A call on a handle holding such a
context leaves it as it was when the call fails. When the call succeeds it either releases the
handle (a deletion) or changes the context in one of a few ways (`Evolves`):

* sending counts one message out;
* receiving counts one message in;
* a reply establishes a waiting initiator and sets the number it expects next to the one the
  reply carries;
* a query changes nothing.

Role, key, expiry, flags, names and authenticator time never change.

The proofs say once what each step of the ticket mechanism leaves (`initiate_eq_ok`,
`acceptRequest_eq_ok`, `continueInitiate_eq_ok` and the per-message lemmas), lift that to
what each call can leave in a handle (`Mechanism.moves_krb5`), and carry soundness along
every run of a session with `Session.run_handles`. -/
namespace GssApi

namespace Krb5

/-- What the ticket mechanism promises of every context it holds. -/
structure Context.Sound (ctx : Context) : Prop where
  flags : FlagsOk ctx.flags
  acceptorEstablished : ctx.role = .acceptor → ctx.phase = .established
  awaitingInitiator : ctx.phase = .awaitingReply →
    ctx.role = .initiator ∧ ContextFlags.has ctx.flags ContextFlags.mutualAuth = true

/-- How one successful call may change a context held by a handle bound to the ticket
mechanism `m`. -/
inductive Evolves (m : Mechanism) : FacadeCall → Context → Context → Prop
  | wrap (confReq : Bool) (message : Bytes) (ctx : Context) :
      Evolves m (.wrap confReq message) ctx { ctx with sendSeq := ctx.sendSeq + 1 }
  | getMic (message : Bytes) (ctx : Context) :
      Evolves m (.getMic message) ctx { ctx with sendSeq := ctx.sendSeq + 1 }
  | unwrap (token : Bytes) (ctx : Context) :
      Evolves m (.unwrap token) ctx { ctx with recvSeq := ctx.recvSeq + 1 }
  | verifyMic (message token : Bytes) (ctx : Context) :
      Evolves m (.verifyMic message token) ctx { ctx with recvSeq := ctx.recvSeq + 1 }
  /-- A waiting initiator takes the acceptor's reply to its request, framed in the input
  token and echoing its time, and then expects the sequence number the reply carries. -/
  | answered (req : InitRequest) {ctx : Context} (waiting : ctx.phase = .awaitingReply)
      {token inner body : Bytes} {reply : Exchange.Reply} (input : req.inputToken = some token)
      (unframed : Codec.decapsulateFor token Oid.krb5 = .ok inner)
      (stripped : Codec.stripTag inner .apRep = .ok body)
      (read : Exchange.readReply m.suite ctx.key body = .ok reply)
      (echoed : reply.ctime = ctx.ctime) :
      Evolves m (.init req) ctx { ctx with recvSeq := reply.seq, phase := .established }
  | contextTime (ctx : Context) : Evolves m .contextTime ctx ctx
  | inquire (ctx : Context) : Evolves m .inquire ctx ctx

namespace Evolves

variable {m : Mechanism} {c : FacadeCall} {ctx ctx' : Context}

/-- No call changes a context's role, key, expiry, flags, names or authenticator time. -/
theorem keeps (evolves : Evolves m c ctx ctx') :
    ctx'.role = ctx.role ∧ ctx'.key = ctx.key ∧ ctx'.endtime = ctx.endtime ∧
      ctx'.flags = ctx.flags ∧ ctx'.source = ctx.source ∧ ctx'.target = ctx.target ∧
      ctx'.ctime = ctx.ctime := by
  cases evolves <;> exact ⟨rfl, rfl, rfl, rfl, rfl, rfl, rfl⟩

/-- A sound context stays sound: only the counters and a waiting initiator's phase change. -/
theorem sound (evolves : Evolves m c ctx ctx') (sound : ctx.Sound) : ctx'.Sound := by
  cases evolves with
  | answered req waiting =>
    exact ⟨sound.flags, fun _ => rfl, nofun⟩
  | _ => exact ⟨sound.flags, sound.acceptorEstablished, sound.awaitingInitiator⟩

/-- The phase changes only when an initiator step takes the reply a waiting initiator expects,
and then to established; so it changes at most once. -/
theorem phase_eq (evolves : Evolves m c ctx ctx') :
    ctx'.phase = ctx.phase ∨
      (∃ req, c = .init req) ∧ ctx.phase = .awaitingReply ∧ ctx'.phase = .established := by
  cases evolves with
  | answered req waiting => exact .inr ⟨⟨req, rfl⟩, waiting, rfl⟩
  | _ => exact .inl rfl

/-- The send counter moves only on a sealed or signed message, by one (wrapping at `2 ^ 32`). -/
theorem sendSeq_eq (evolves : Evolves m c ctx ctx') :
    ctx'.sendSeq = ctx.sendSeq ∨
      (∃ message, (∃ confReq, c = .wrap confReq message) ∨ c = .getMic message) ∧
        ctx'.sendSeq = ctx.sendSeq + 1 := by
  cases evolves with
  | wrap confReq message => exact .inr ⟨⟨message, .inl ⟨confReq, rfl⟩⟩, rfl⟩
  | getMic message => exact .inr ⟨⟨message, .inr rfl⟩, rfl⟩
  | _ => exact .inl rfl

/-- The receive counter moves only on an unsealed or verified message, by one (wrapping at
`2 ^ 32`), or when a waiting initiator takes its reply. -/
theorem recvSeq_eq (evolves : Evolves m c ctx ctx') :
    ctx'.recvSeq = ctx.recvSeq ∨
      (∃ token, c = .unwrap token ∨ ∃ message, c = .verifyMic message token) ∧
        ctx'.recvSeq = ctx.recvSeq + 1 ∨
      (∃ req, c = .init req) ∧ ctx.phase = .awaitingReply ∧ ctx'.phase = .established := by
  cases evolves with
  | unwrap token => exact .inr (.inl ⟨⟨token, .inl rfl⟩, rfl⟩)
  | verifyMic message token => exact .inr (.inl ⟨⟨token, .inr ⟨message, rfl⟩⟩, rfl⟩)
  | answered req waiting => exact .inr (.inr ⟨⟨req, rfl⟩, waiting, rfl⟩)
  | _ => exact .inl rfl

end Evolves

namespace Mechanism

variable {m : Mechanism}

/-! ### What each establishment step leaves -/

/-- A request sent by an initiator leaves an initiator's context with the granted flags,
waiting for a reply exactly when mutual authentication was asked for. -/
theorem initiate_eq_ok {env : Environment} {req : InitRequest} {r : RandomSource} {ctx : Context}
    {out : StepOutput} (ran : ((m.initiate env req).run.run r).1 = .ok (ctx, out)) :
    ctx.role = .initiator ∧
      ctx.phase = (if ContextFlags.has req.flags ContextFlags.mutualAuth then .awaitingReply
        else .established) ∧ ctx.flags = granted req.flags := by
  unfold initiate at ran
  dsimp only at ran
  -- each guard either throws, which cannot succeed, or lets the rest run
  split at ran
  · obtain ⟨_, _, thrown, -⟩ := Rand.bind_eq_ok ran
    cases thrown
  obtain ⟨server, r₁, -, ran⟩ := Rand.bind_eq_ok ran
  obtain ⟨ticket, r₂, -, ran⟩ := Rand.bind_eq_ok ran
  split at ran
  · obtain ⟨_, _, thrown, -⟩ := Rand.bind_eq_ok ran
    cases thrown
  obtain ⟨seq, r₃, -, ran⟩ := Rand.bind_eq_ok ran
  obtain ⟨body, r₄, -, ran⟩ := Rand.bind_eq_ok ran
  obtain ⟨token, r₅, -, ran⟩ := Rand.bind_eq_ok ran
  cases ran
  exact ⟨rfl, rfl, rfl⟩

/-- A continued initiator was waiting, and took a reply framed in its input token that echoes
its time: it is now established and expects the reply's sequence number. -/
theorem continueInitiate_eq_ok {env : Environment} {ctx ctx' : Context} {req : InitRequest}
    {out : StepOutput} (continued : m.continueInitiate env ctx req = .ok (ctx', out)) :
    ctx.phase = .awaitingReply ∧
      ∃ token inner body reply, req.inputToken = some token ∧
        Codec.decapsulateFor token Oid.krb5 = .ok inner ∧ Codec.stripTag inner .apRep = .ok body ∧
        Exchange.readReply m.suite ctx.key body = .ok reply ∧ reply.ctime = ctx.ctime ∧
        ctx' = { ctx with recvSeq := reply.seq, phase := .established } := by
  unfold continueInitiate at continued
  dsimp only at continued
  split at continued
  · cases continued
  rename_i notEstablished
  have waiting : ctx.phase = .awaitingReply := by
    cases phase : ctx.phase
    · rfl
    · exact absurd phase notEstablished
  refine ⟨waiting, ?_⟩
  split at continued
  case h_2 => cases continued
  rename_i token input
  obtain ⟨inner, unframed, continued⟩ := Except.bind_eq_ok.1 continued
  obtain ⟨body, stripped, continued⟩ := Except.bind_eq_ok.1 continued
  obtain ⟨reply, read, continued⟩ := Except.bind_eq_ok.1 continued
  split at continued
  · cases continued
  rename_i echoed
  cases continued
  exact ⟨token, inner, body, reply, input, Except.mapError_eq_ok.1 unframed,
    Except.mapError_eq_ok.1 stripped, Except.mapError_eq_ok.1 read, not_not.1 echoed, rfl⟩

/-- Everything a successful acceptor step leaves: the request passed the acceptor's checks, the
context is the acceptor's, made of the ticket, the authenticator and the acceptor's principal,
with the granted flags, mutual authentication set exactly when a reply was asked for; the
answer is complete, carries the context's flags, lifetime and client, and a framed reply
exactly when one was asked for. -/
theorem acceptRequest_answer {env : Environment} {req : AcceptRequest} {r : RandomSource}
    {ctx : Context} {out : StepOutput}
    (ran : ((m.acceptRequest env req).run.run r).1 = .ok (ctx, out)) :
    ∃ acceptor request sendSeq, m.checkRequest env req = .ok (acceptor, request) ∧
      ctx = ⟨.acceptor, .established, request.ticket.sessionKey, request.ticket.endtime, sendSeq,
        request.authenticator.seq,
        (if request.mutualRequired then
          granted request.authenticator.checksum.flags ||| ContextFlags.mutualAuth
          else granted request.authenticator.checksum.flags &&& ~~~ContextFlags.mutualAuth),
        Name.principal request.ticket.client, Name.principal acceptor.principal,
        request.authenticator.ctime⟩ ∧
      out.status = .complete ∧ out.flags = ctx.flags ∧ out.lifetime = ctx.remaining env.now ∧
      out.source = some ctx.source ∧
      (request.mutualRequired = true →
        ∃ body, Codec.encapsulateTagged Oid.krb5 .apRep body = .ok out.outputToken) ∧
      (request.mutualRequired = false → out.outputToken = []) := by
  unfold acceptRequest at ran
  obtain ⟨⟨acceptor, request⟩, r₁, checked, ran⟩ := Rand.bind_eq_ok ran
  obtain ⟨checked, -⟩ := Prod.mk.inj checked
  dsimp only at ran
  -- the two shapes of the answer: a reply drawn and framed, or none
  split at ran
  · rename_i asked
    obtain ⟨seq, r₂, -, ran⟩ := Rand.bind_eq_ok ran
    obtain ⟨body, r₃, -, ran⟩ := Rand.bind_eq_ok ran
    obtain ⟨token, r₄, framed, ran⟩ := Rand.bind_eq_ok ran
    obtain ⟨_, r₅, chosen, ran⟩ := Rand.bind_eq_ok ran
    obtain ⟨framed, -⟩ := Prod.mk.inj framed
    cases chosen
    cases ran
    refine ⟨acceptor, request, seq, checked, by rw [if_pos asked], rfl, rfl, rfl, rfl,
      fun _ => ⟨body, Except.mapError_eq_ok.1 framed⟩, fun notAsked => ?_⟩
    rw [asked] at notAsked
    cases notAsked
  · rename_i notAsked
    obtain ⟨_, r₂, chosen, ran⟩ := Rand.bind_eq_ok ran
    cases chosen
    cases ran
    refine ⟨acceptor, request, request.authenticator.seq, checked, by rw [if_neg notAsked], rfl,
      rfl, rfl, rfl, fun asked => absurd asked notAsked, fun _ => rfl⟩

/-- An accepted request leaves an established acceptor's context whose flags are those granted
for the authenticator's flags, with mutual authentication set when a reply was asked for and
cleared otherwise. -/
theorem acceptRequest_eq_ok {env : Environment} {req : AcceptRequest} {r : RandomSource}
    {ctx : Context} {out : StepOutput}
    (ran : ((m.acceptRequest env req).run.run r).1 = .ok (ctx, out)) :
    ∃ acceptor request, m.checkRequest env req = .ok (acceptor, request) ∧
      ctx.role = .acceptor ∧ ctx.phase = .established ∧
      ctx.flags = (if request.mutualRequired then
        granted request.authenticator.checksum.flags ||| ContextFlags.mutualAuth
        else granted request.authenticator.checksum.flags &&& ~~~ContextFlags.mutualAuth) := by
  obtain ⟨acceptor, request, -, checked, rfl, -⟩ := acceptRequest_answer ran
  exact ⟨acceptor, request, checked, rfl, rfl, rfl⟩

/-- A context an initiator sets up is sound. -/
theorem sound_of_initiate {env : Environment} {req : InitRequest} {r : RandomSource}
    {ctx : Context} {out : StepOutput} (ran : ((m.initiate env req).run.run r).1 = .ok (ctx, out)) :
    ctx.Sound := by
  obtain ⟨role, phase, flags⟩ := initiate_eq_ok ran
  refine ⟨flags ▸ flagsOk_granted req.flags, fun acceptor => ?_, fun waiting => ⟨role, ?_⟩⟩
  · rw [role] at acceptor
    cases acceptor
  · -- only a request asking for mutual authentication waits for a reply
    rw [flags, has_granted_mutualAuth]
    by_contra notAsked
    rw [phase, if_neg notAsked] at waiting
    cases waiting

/-- A context an acceptor sets up is sound. -/
theorem sound_of_acceptRequest {env : Environment} {req : AcceptRequest} {r : RandomSource}
    {ctx : Context} {out : StepOutput}
    (ran : ((m.acceptRequest env req).run.run r).1 = .ok (ctx, out)) : ctx.Sound := by
  obtain ⟨acceptor, request, -, -, phase, flags⟩ := acceptRequest_eq_ok ran
  have ok : FlagsOk ctx.flags := by
    rw [flags]
    split
    · exact (flagsOk_granted _).or_mutualAuth
    · exact (flagsOk_granted _).and_not_mutualAuth
  refine ⟨ok, fun _ => phase, fun waiting => ?_⟩
  rw [phase] at waiting
  cases waiting

/-! ### What each call of the ticket mechanism leaves -/

variable {env : Environment} {r : RandomSource} {st' : MechState}

theorem init_unbound_eq_ok {req : InitRequest} {out : StepOutput}
    (ran : ((m.init env .unbound req).run.run r).1 = .ok (st', out)) :
    ∃ ctx, st' = .krb5 ctx ∧ ((m.initiate env req).run.run r).1 = .ok (ctx, out) := by
  obtain ⟨⟨ctx, out'⟩, r', initiated, ran⟩ := Rand.bind_eq_ok ran
  cases ran
  exact ⟨ctx, rfl, by rw [initiated]⟩

theorem init_bound_eq_ok {ctx : Context} {req : InitRequest} {out : StepOutput}
    (ran : ((m.init env (.krb5 ctx) req).run.run r).1 = .ok (st', out)) :
    ∃ ctx', st' = .krb5 ctx' ∧ m.continueInitiate env ctx req = .ok (ctx', out) := by
  obtain ⟨⟨ctx', out'⟩, continued, ran⟩ := Except.bind_eq_ok.1 ran
  cases ran
  exact ⟨ctx', rfl, continued⟩

theorem accept_unbound_eq_ok {req : AcceptRequest} {out : StepOutput}
    (ran : ((m.accept env .unbound req).run.run r).1 = .ok (st', out)) :
    ∃ ctx, st' = .krb5 ctx ∧ ((m.acceptRequest env req).run.run r).1 = .ok (ctx, out) := by
  obtain ⟨⟨ctx, out'⟩, r', accepted, ran⟩ := Rand.bind_eq_ok ran
  cases ran
  exact ⟨ctx, rfl, by rw [accepted]⟩

/-- The per-message calls run only on a context. -/
theorem bound_eq_ok {st : MechState} {ctx : Context} (held : bound st = .ok ctx) :
    st = .krb5 ctx := by
  cases st with
  | unbound => cases held
  | krb5 ctx₀ =>
    cases held
    rfl

/-- A per-message call succeeds on a context and leaves the one its message step leaves. -/
theorem wrap_eq_ok {st : MechState} {message : Bytes} {out : WrapOutput}
    (ran : ((m.wrap st message).run.run r).1 = .ok (out, st')) :
    ∃ ctx ctx' token, st = .krb5 ctx ∧ st' = .krb5 ctx' ∧
      ((m.wrapMessage ctx message).run.run r).1 = .ok (token, ctx') := by
  obtain ⟨ctx, held, ran⟩ := Rand.ofExcept_bind_eq_ok ran
  obtain ⟨⟨token, ctx'⟩, r₁, wrapped, ran⟩ := Rand.bind_eq_ok ran
  cases ran
  exact ⟨ctx, ctx', token, bound_eq_ok held, rfl, by rw [wrapped]⟩

theorem unwrap_eq_ok {st : MechState} {token : Bytes} {out : UnwrapOutput}
    (ran : m.unwrap st token = .ok (out, st')) :
    ∃ ctx ctx' message, st = .krb5 ctx ∧ st' = .krb5 ctx' ∧
      m.unwrapMessage ctx token = .ok (message, ctx') := by
  obtain ⟨ctx, held, ran⟩ := Except.bind_eq_ok.1 ran
  obtain ⟨⟨message, ctx'⟩, unwrapped, ran⟩ := Except.bind_eq_ok.1 ran
  cases ran
  exact ⟨ctx, ctx', message, bound_eq_ok held, rfl, unwrapped⟩

theorem getMic_eq_ok {st : MechState} {message token : Bytes}
    (ran : m.getMic st message = .ok (token, st')) :
    ∃ ctx ctx', st = .krb5 ctx ∧ st' = .krb5 ctx' ∧ m.micMessage ctx message = .ok (token, ctx') := by
  obtain ⟨ctx, held, ran⟩ := Except.bind_eq_ok.1 ran
  obtain ⟨⟨token', ctx'⟩, signed, ran⟩ := Except.bind_eq_ok.1 ran
  cases ran
  exact ⟨ctx, ctx', bound_eq_ok held, rfl, signed⟩

theorem verifyMic_eq_ok {st : MechState} {message token : Bytes}
    (ran : m.verifyMic st message token = .ok st') :
    ∃ ctx ctx', st = .krb5 ctx ∧ st' = .krb5 ctx' ∧ m.verifyMicMessage ctx message token = .ok ctx' := by
  obtain ⟨ctx, held, ran⟩ := Except.bind_eq_ok.1 ran
  obtain ⟨ctx', verified, ran⟩ := Except.bind_eq_ok.1 ran
  cases ran
  exact ⟨ctx, ctx', bound_eq_ok held, rfl, verified⟩

end Mechanism

end Krb5

/-! ### What a call can leave in a handle -/

namespace Mechanism

variable {c : FacadeCall} {st st' : MechState}

/-- The stand-in mechanism never changes a state. -/
theorem moves_decoy {d : Decoy} (moves : (Mechanism.decoy d).Moves c st st') : st' = st := by
  cases moves with
  | init ran | accept ran =>
    obtain ⟨out, -, same⟩ := Except.map_eq_ok.1 ran
    exact (Prod.mk.inj same).1.symm
  | wrap ran =>
    cases ran
    rfl
  | unwrap ran | getMic ran | verifyMic ran =>
    cases ran
    rfl
  | contextTime | inquire => rfl

/-- What a call of the ticket mechanism can leave: from an unbound state, nothing or a sound
context; from a context, a context evolved from it by that call. -/
theorem moves_krb5 {m : Krb5.Mechanism} (moves : (Mechanism.krb5 m).Moves c st st') :
    (st = .unbound ∧ ∀ ctx', st' = .krb5 ctx' → ctx'.Sound) ∨
    ∃ ctx ctx', st = .krb5 ctx ∧ st' = .krb5 ctx' ∧ Krb5.Evolves m c ctx ctx' := by
  cases moves with
  | init ran =>
    cases st with
    | unbound =>
      obtain ⟨ctx, rfl, initiated⟩ := Krb5.Mechanism.init_unbound_eq_ok ran
      exact .inl ⟨rfl, fun _ same => by
        cases same
        exact Krb5.Mechanism.sound_of_initiate initiated⟩
    | krb5 ctx =>
      obtain ⟨ctx', rfl, continued⟩ := Krb5.Mechanism.init_bound_eq_ok ran
      obtain ⟨waiting, token, inner, body, reply, input, unframed, stripped, read, echoed, rfl⟩ :=
        Krb5.Mechanism.continueInitiate_eq_ok continued
      exact .inr ⟨ctx, _, rfl, rfl, .answered _ waiting input unframed stripped read echoed⟩
  | accept ran =>
    cases st with
    | unbound =>
      obtain ⟨ctx, rfl, accepted⟩ := Krb5.Mechanism.accept_unbound_eq_ok ran
      exact .inl ⟨rfl, fun _ same => by
        cases same
        exact Krb5.Mechanism.sound_of_acceptRequest accepted⟩
    | krb5 ctx => cases ran
  | wrap ran =>
    obtain ⟨ctx, ctx', token, rfl, rfl, wrapped⟩ := Krb5.Mechanism.wrap_eq_ok ran
    obtain ⟨-, -, -, -, -, -, -, -, -, rfl⟩ := Krb5.Mechanism.wrapMessage_eq_ok wrapped
    exact .inr ⟨ctx, _, rfl, rfl, .wrap _ _ ctx⟩
  | unwrap ran =>
    obtain ⟨ctx, ctx', message, rfl, rfl, unwrapped⟩ := Krb5.Mechanism.unwrap_eq_ok ran
    obtain ⟨-, rfl⟩ := Krb5.Mechanism.unwrapMessage_eq_ok unwrapped
    exact .inr ⟨ctx, _, rfl, rfl, .unwrap _ ctx⟩
  | getMic ran =>
    obtain ⟨ctx, ctx', rfl, rfl, signed⟩ := Krb5.Mechanism.getMic_eq_ok ran
    obtain ⟨-, -, -, -, -, -, -, rfl⟩ := Krb5.Mechanism.micMessage_eq_ok signed
    exact .inr ⟨ctx, _, rfl, rfl, .getMic _ ctx⟩
  | verifyMic ran =>
    obtain ⟨ctx, ctx', rfl, rfl, verified⟩ := Krb5.Mechanism.verifyMic_eq_ok ran
    obtain ⟨-, rfl⟩ := Krb5.Mechanism.verifyMicMessage_eq_ok verified
    exact .inr ⟨ctx, _, rfl, rfl, .verifyMic _ _ ctx⟩
  | contextTime | inquire =>
    cases st with
    | unbound => exact .inl ⟨rfl, nofun⟩
    | krb5 ctx => exact .inr ⟨ctx, ctx, rfl, rfl, by constructor⟩

/-- A ticket mechanism, of some cipher suite, configuration and store. -/
def IsKrb5 (mech : Mechanism) : Prop := ∃ m, mech = .krb5 m

/-- A mechanism that makes no ticket context: each of its calls that succeeds on an unbound
state leaves it unbound. Only the ticket mechanism makes ticket contexts, so every other
mechanism installed beside it is expected to be one; an arbitrary mechanism need not be. -/
def KeepsUnbound (mech : Mechanism) : Prop := ∀ c st', mech.Moves c .unbound st' → st' = .unbound

theorem keepsUnbound_decoy (d : Decoy) : (Mechanism.decoy d).KeepsUnbound :=
  fun _ _ moves => moves_decoy moves

/-- The states a mechanism can hold: a ticket context only under a ticket mechanism, and then
sound. -/
def Holds (mech : Mechanism) : MechState → Prop
  | .unbound => True
  | .krb5 ctx => mech.IsKrb5 ∧ ctx.Sound

/-- A call of a ticket mechanism, or of one that makes no ticket context, keeps what the
mechanism may hold. -/
theorem holds_of_moves {mech : Mechanism} (tickets : mech.IsKrb5 ∨ mech.KeepsUnbound)
    (moves : mech.Moves c st st') (holds : mech.Holds st) : mech.Holds st' := by
  cases st with
  | krb5 ctx =>
    -- a ticket context is held only by a ticket mechanism, whose calls evolve it
    obtain ⟨⟨m, rfl⟩, sound⟩ := holds
    rcases moves_krb5 moves with ⟨unbound, -⟩ | ⟨ctx₀, ctx', same, rfl, evolves⟩
    · cases unbound
    · cases same
      exact ⟨⟨m, rfl⟩, evolves.sound sound⟩
  | unbound =>
    rcases tickets with ⟨m, rfl⟩ | keeps
    · rcases moves_krb5 moves with ⟨-, sound⟩ | ⟨ctx, -, same, -⟩
      · cases st' with
        | unbound => trivial
        | krb5 ctx' => exact ⟨⟨m, rfl⟩, sound ctx' rfl⟩
      · cases same
    · rw [keeps c st' moves]
      trivial

end Mechanism

/-! ### Every run of a session -/

/-- Over a registry that was built, whose mechanisms are ticket mechanisms or make no ticket
context, every ticket context any run of a session leaves in any handle is sound and bound to
the identifier of an installed ticket mechanism `m`. A call on that handle leaves the context
exactly as it was when it fails; when it succeeds it either releases the handle (a deletion) or
changes the context only as `Krb5.Evolves` allows. -/
theorem ticket_contexts_sound_and_framed {mechs : List Mechanism} {default? : Option Oid}
    {r : Registry} (built : Registry.build mechs default? = .ok r)
    (tickets : ∀ mech ∈ mechs, mech.IsKrb5 ∨ mech.KeepsUnbound) (runtime : Runtime)
    (events : List Event) :
    ∀ n oid ctx, ((Session.start runtime).run r events).handles n = some ⟨oid, .krb5 ctx⟩ →
      ctx.Sound ∧ ∃ m, (∃ i, r.findBound oid = .ok i ∧ r.mechs.get i = .krb5 m) ∧
        ∀ (c : FacadeCall) rt res rt' h',
          (c.perform r).run.run (rt, some ⟨oid, .krb5 ctx⟩) = (res, (rt', h')) →
            (∀ e, res = .error e → h' = some ⟨oid, .krb5 ctx⟩) ∧
            (res = .ok () → (c = .delete ∧ h' = none) ∨
              ∃ ctx', h' = some ⟨oid, .krb5 ctx'⟩ ∧ Krb5.Evolves m c ctx ctx') := by
  intro n oid ctx reached
  have installed : ∀ i, (r.mechs.get i).IsKrb5 ∨ (r.mechs.get i).KeepsUnbound := fun i =>
    tickets _ ((Registry.build_eq_ok built).1 ▸ List.get_mem r.mechs i)
  have holds := Session.run_handles (r.Holds Mechanism.Holds)
    (fun c rt _ => Registry.holds_perform (Registry.nodup_of_build built) (fun _ => trivial)
      (fun i _ _ _ moves => Mechanism.holds_of_moves (installed i) moves) c rt) events
    (s := Session.start runtime) (fun _ => trivial) n
  rw [reached] at holds
  -- a ticket context is held only under a ticket mechanism
  obtain ⟨i, found, ⟨m, mech⟩, sound⟩ := holds
  refine ⟨sound, m, ⟨i, found, mech⟩, fun c rt res rt' h' ran => ?_⟩
  rcases c.perform_bound found ran with ⟨-, -, -, -, -, rfl, -, rfl⟩ | ⟨-, failed, succeeded⟩
  · exact ⟨fun _ _ => rfl, nofun⟩
  refine ⟨fun e failing => ?_, fun ok => ?_⟩
  · -- the ticket mechanism's teardown never fails
    rcases failed e failing with same | ⟨-, -, teardown⟩
    · exact same
    · rw [mech] at teardown
      cases teardown
  · rcases succeeded ok with released | ⟨st', moves, rfl⟩
    · exact .inl released
    rw [mech] at moves
    rcases Mechanism.moves_krb5 moves with ⟨unbound, -⟩ | ⟨ctx₀, ctx', same, rfl, evolves⟩
    · cases unbound
    · cases same
      exact .inr ⟨ctx', rfl, evolves⟩

/-- A registry of the ticket mechanism beside a stand-in is built, the stand-in makes no ticket
context, and over it the contexts of every run are sound and change only as they may. -/
theorem ticket_contexts_sound_and_framed_beside_a_stand_in :
    let mechs : List Mechanism :=
      [.krb5 {}, .decoy { oid := ⟨[0x2b, 0x06, 0x01, 0x05, 0x05, 0x02], by decide⟩ }]
    let r : Registry := ⟨mechs, ⟨0, by decide⟩⟩
    Registry.build mechs none = .ok r ∧ (∀ mech ∈ mechs, mech.IsKrb5 ∨ mech.KeepsUnbound) ∧
    ∀ events n oid ctx,
      ((Session.start ⟨0, {}, {}, [0, 0]⟩).run r events).handles n = some ⟨oid, .krb5 ctx⟩ →
      ctx.Sound ∧ ∃ m, (∃ i, r.findBound oid = .ok i ∧ r.mechs.get i = .krb5 m) ∧
        ∀ (c : FacadeCall) rt res rt' h',
          (c.perform r).run.run (rt, some ⟨oid, .krb5 ctx⟩) = (res, (rt', h')) →
            (∀ e, res = .error e → h' = some ⟨oid, .krb5 ctx⟩) ∧
            (res = .ok () → (c = .delete ∧ h' = none) ∨
              ∃ ctx', h' = some ⟨oid, .krb5 ctx'⟩ ∧ Krb5.Evolves m c ctx ctx') := by
  intro mechs r
  have built : Registry.build mechs none = .ok r := Registry.build_first (by decide)
  have tickets : ∀ mech ∈ mechs, mech.IsKrb5 ∨ mech.KeepsUnbound := by
    intro mech member
    simp only [mechs, List.mem_cons, List.not_mem_nil, or_false] at member
    rcases member with rfl | rfl
    · exact .inl ⟨{}, rfl⟩
    · exact .inr (Mechanism.keepsUnbound_decoy _)
  exact ⟨built, tickets, fun events => ticket_contexts_sound_and_framed built tickets _ events⟩

end GssApi
