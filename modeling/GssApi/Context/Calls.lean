import GssApi.Mech.Registry
/-! Calls on context handles.

A handle starts as the sentinel. The first establishment call picks a mechanism (the one
requested or the default for an initiator, the one named by the token for an acceptor) and
binds the handle to a context of it only if the step succeeds; later calls go to the
mechanism the context is bound to. Deleting releases the context even when the mechanism's
teardown fails. A call that needs a context fails on the sentinel with a malformed-parameter
error.

Calls run in `Call`, which threads the runtime (clock, random source, ticket store and the
number of calls each installed mechanism has received) and the handle; changes to both are
kept when a call fails. -/
namespace GssApi

/-- A context as its handle holds it: the mechanism and that mechanism's state. -/
structure SecurityContext where
  mech : Oid
  state : MechState
  deriving DecidableEq, Inhabited

/-- A context handle; `none` is the sentinel. -/
abbrev ContextHandle := Option SecurityContext

/-- What calls read and change besides the handle. -/
structure Runtime where
  now : UInt64
  random : RandomSource
  store : TicketStore
  /-- How often each installed mechanism has been called, in install order. -/
  calls : List Nat

/-- What a mechanism sees of the runtime. -/
def Runtime.env (rt : Runtime) : Environment := ⟨rt.now, rt.store⟩

/-- Add one to the count at a position. -/
def bumpAt : List Nat → Nat → List Nat
  | [], _ => []
  | c :: cs, 0 => (c + 1) :: cs
  | c :: cs, i + 1 => c :: bumpAt cs i

/-- Calls on one handle. -/
abbrev Call := ExceptT GssError (StateM (Runtime × ContextHandle))

namespace Call

def ofExcept (x : Except GssError α) : Call α := ExceptT.mk (pure x)

def handle : Call ContextHandle := do pure (← get).2

def setHandle (h : ContextHandle) : Call Unit := modify fun (rt, _) => (rt, h)

/-- Call the mechanism at a position: count the call, then run it on the runtime's
environment and random source. -/
def invoke (i : Nat) (op : Environment → Rand GssError α) : Call α :=
  ExceptT.mk fun (rt, h) =>
    let rt := { rt with calls := bumpAt rt.calls i }
    let (result, random) := (op rt.env).run.run rt.random
    (result, ({ rt with random }, h))

end Call

/-- The failure of a call given no handle at all. -/
def noHandle : GssError := .inaccessibleRead .noContext

/-- The context of a bound handle. -/
def boundContext : Call SecurityContext := do
  match ← Call.handle with
  | some ctx => pure ctx
  | none => throw (.badStructure .noContext)

/-- What an establishment call answers: the context's mechanism and the step's output. -/
structure EstablishOutput where
  mech : Oid
  step : StepOutput

namespace Registry

/-- An initiator step. -/
def initSecContext (r : Registry) (req : InitRequest) : Call EstablishOutput := do
  match ← Call.handle with
  | none =>
    let i ← Call.ofExcept (r.find req.mech)
    let mech := r.mechs.get i
    let (state, step) ← Call.invoke i fun env => mech.init env .unbound req
    Call.setHandle (some ⟨mech.oid, state⟩)
    pure ⟨mech.oid, step⟩
  | some ctx =>
    if let some requested := req.mech then
      if requested ≠ ctx.mech then throw (.badMech requested)
    let i ← Call.ofExcept (r.findBound ctx.mech)
    let (state, step) ← Call.invoke i fun env => (r.mechs.get i).init env ctx.state req
    Call.setHandle (some { ctx with state })
    pure ⟨ctx.mech, step⟩

/-- An acceptor step. -/
def acceptSecContext (r : Registry) (req : AcceptRequest) : Call EstablishOutput := do
  match ← Call.handle with
  | none =>
    let unframed ← Call.ofExcept ((Codec.decapsulate req.inputToken).mapError .defectiveToken)
    let i ← Call.ofExcept (r.findBound unframed.mech)
    let (state, step) ← Call.invoke i fun env => (r.mechs.get i).accept env .unbound req
    Call.setHandle (some ⟨unframed.mech, state⟩)
    pure ⟨unframed.mech, step⟩
  | some ctx =>
    let i ← Call.ofExcept (r.findBound ctx.mech)
    let (state, step) ← Call.invoke i fun env => (r.mechs.get i).accept env ctx.state req
    Call.setHandle (some { ctx with state })
    pure ⟨ctx.mech, step⟩

/-- Release the context, returning the mechanism's final token. -/
def deleteSecContext (r : Registry) : Call (Option Bytes) := do
  let ctx ← boundContext
  Call.setHandle none
  let i ← Call.ofExcept (r.findBound ctx.mech)
  Call.invoke i fun _ => Rand.ofExcept ((r.mechs.get i).delete ctx.state)

/-- The seconds the context has left. -/
def contextTime (r : Registry) : Call UInt32 := do
  let ctx ← boundContext
  let i ← Call.ofExcept (r.findBound ctx.mech)
  Call.invoke i fun env => Rand.ofExcept ((r.mechs.get i).contextTime env ctx.state)

def inquireContext (r : Registry) : Call ContextInfo := do
  let ctx ← boundContext
  let i ← Call.ofExcept (r.findBound ctx.mech)
  Call.invoke i fun env => Rand.ofExcept ((r.mechs.get i).inquire env ctx.state)

/-- Protect a message; the answer says whether confidentiality was applied. -/
def wrap (r : Registry) (confReq : Bool) (message : Bytes) : Call WrapOutput := do
  let ctx ← boundContext
  let i ← Call.ofExcept (r.findBound ctx.mech)
  let (out, state) ← Call.invoke i fun _ => (r.mechs.get i).wrap ctx.state confReq message
  Call.setHandle (some { ctx with state })
  pure out

def unwrap (r : Registry) (token : Bytes) : Call UnwrapOutput := do
  let ctx ← boundContext
  let i ← Call.ofExcept (r.findBound ctx.mech)
  let (out, state) ← Call.invoke i fun _ => Rand.ofExcept ((r.mechs.get i).unwrap ctx.state token)
  Call.setHandle (some { ctx with state })
  pure out

def getMic (r : Registry) (message : Bytes) : Call Bytes := do
  let ctx ← boundContext
  let i ← Call.ofExcept (r.findBound ctx.mech)
  let (token, state) ← Call.invoke i fun _ =>
    Rand.ofExcept ((r.mechs.get i).getMic ctx.state message)
  Call.setHandle (some { ctx with state })
  pure token

def verifyMic (r : Registry) (message token : Bytes) : Call Unit := do
  let ctx ← boundContext
  let i ← Call.ofExcept (r.findBound ctx.mech)
  let state ← Call.invoke i fun _ =>
    Rand.ofExcept ((r.mechs.get i).verifyMic ctx.state message token)
  Call.setHandle (some { ctx with state })

end Registry

end GssApi
