import GssApi.Krb5.PerMessage
/-! The ticket mechanism's calls on a context's state.

An unbound state starts a handshake: an initiator call sends a request, an acceptor call
accepts one. A bound initiator state continues the handshake; an acceptor state accepts
nothing more. Deleting unbinds the state and sends no token. Every other call needs a bound
state, and fails with an incomplete context otherwise. -/
namespace GssApi.Krb5.Mechanism

/-- The bound context of a state. -/
def bound : MechState → Except GssError Context
  | .krb5 ctx => .ok ctx
  | .unbound => .error incomplete

def init (m : Mechanism) (env : Environment) (state : MechState) (req : InitRequest) :
    Rand GssError (MechState × StepOutput) :=
  match state with
  | .unbound => do
    let (ctx, out) ← m.initiate env req
    pure (.krb5 ctx, out)
  | .krb5 ctx => Rand.ofExcept do
    let (ctx, out) ← m.continueInitiate env ctx req
    pure (.krb5 ctx, out)

def accept (m : Mechanism) (env : Environment) (state : MechState) (req : AcceptRequest) :
    Rand GssError (MechState × StepOutput) :=
  match state with
  | .unbound => do
    let (ctx, out) ← m.acceptRequest env req
    pure (.krb5 ctx, out)
  | .krb5 _ => throw (.failure "acceptor context is already established" Minor.contextEstablished)

def delete (_ : MechState) : Except GssError (Option Bytes × MechState) := .ok (none, .unbound)

/-- The seconds the context has left; an expired context is an error. -/
def contextTime (env : Environment) (state : MechState) : Except GssError UInt32 := do
  let r := (← bound state).remaining env.now
  if r = 0 then throw .contextExpired
  pure r

def inquire (env : Environment) (state : MechState) : Except GssError ContextInfo := do
  let ctx ← bound state
  pure ⟨some ctx.source, some ctx.target, ctx.remaining env.now, Oid.krb5, ctx.flags,
    ctx.role = .initiator, ctx.isEstablished⟩

/-- Wrap a message; confidentiality is never applied. -/
def wrap (m : Mechanism) (state : MechState) (message : Bytes) :
    Rand GssError (WrapOutput × MechState) := do
  let (token, ctx) ← m.wrapMessage (← Rand.ofExcept (bound state)) message
  pure (⟨token, false⟩, .krb5 ctx)

def unwrap (m : Mechanism) (state : MechState) (token : Bytes) :
    Except GssError (UnwrapOutput × MechState) := do
  let (message, ctx) ← m.unwrapMessage (← bound state) token
  pure (⟨message, false, 0⟩, .krb5 ctx)

def getMic (m : Mechanism) (state : MechState) (message : Bytes) :
    Except GssError (Bytes × MechState) := do
  let (token, ctx) ← m.micMessage (← bound state) message
  pure (token, .krb5 ctx)

def verifyMic (m : Mechanism) (state : MechState) (message token : Bytes) :
    Except GssError MechState := do
  pure (.krb5 (← m.verifyMicMessage (← bound state) message token))

end GssApi.Krb5.Mechanism
