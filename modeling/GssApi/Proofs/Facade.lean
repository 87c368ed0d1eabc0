import GssApi.Context.Calls
import GssApi.Proofs.Effects

/-! Calls on context handles, one at a time and over whole sessions.

A call runs on the runtime and one handle. Each call on a bound handle looks up the mechanism
the handle is bound to, counts one call of it and runs it; only a step that succeeds writes its
new state back. The spec lemmas here say what each call answers and leaves, given the lookup,
in terms of the mechanism's own answer, so that later proofs never unfold a call.

A session is what a caller drives: a runtime and any number of handles, all starting as the
sentinel. Its events are calls on a handle, with any arguments, and changes of the runtime
between calls (the clock, the random source, the ticket store). -/
namespace GssApi

/-- The runtime after a call of the mechanism at a position, with the source it left. -/
def Runtime.invoked (rt : Runtime) (i : Nat) (random : RandomSource) : Runtime :=
  { rt with calls := bumpAt rt.calls i, random }

namespace Call

variable {α β : Type} (s : Runtime × ContextHandle)

@[simp] theorem run_ofExcept (x : Except GssError α) : (Call.ofExcept x).run.run s = (x, s) := rfl

@[simp] theorem run_pure (a : α) : (pure a : Call α).run.run s = (.ok a, s) := rfl

@[simp] theorem run_throw (e : GssError) : (throw e : Call α).run.run s = (.error e, s) := rfl

@[simp] theorem run_handle : Call.handle.run.run s = (.ok s.2, s) := rfl

@[simp] theorem run_setHandle (h : ContextHandle) (rt : Runtime) (old : ContextHandle) :
    (Call.setHandle h).run.run (rt, old) = (.ok (), (rt, h)) := rfl

/-- A failed step ends the call with the runtime and handle as the step left them. -/
theorem run_bind (x : Call α) (f : α → Call β) :
    (x >>= f).run.run s = match x.run.run s with
      | (.ok a, s') => (f a).run.run s'
      | (.error e, s') => (.error e, s') := by
  simp only [ExceptT.run_bind, StateT.run_bind]
  rcases x.run.run s with ⟨_ | _, _⟩ <;> rfl

/-- Invoking a mechanism counts the call, runs it on the runtime's environment and random
source, and leaves the handle alone. -/
@[simp] theorem run_invoke (i : Nat) (op : Environment → Rand GssError α) (rt : Runtime)
    (h : ContextHandle) :
    (Call.invoke i op).run.run (rt, h) =
      (((op rt.env).run.run rt.random).1, (rt.invoked i ((op rt.env).run.run rt.random).2, h)) :=
  rfl

end Call

@[simp] theorem boundContext_some (rt : Runtime) (sc : SecurityContext) :
    boundContext.run.run (rt, some sc) = (.ok sc, (rt, some sc)) := rfl

@[simp] theorem boundContext_none (rt : Runtime) :
    boundContext.run.run (rt, none) = (.error (.badStructure .noContext), (rt, none)) := rfl

/-- How a call that ran the mechanism at position `i` ends: the runtime counts the call and
keeps the source the step left; the handle is what the step's answer writes when it
succeeds, and stays as `kept` when it fails. -/
def settle {γ β : Type} (rt : Runtime) (i : Nat) (kept : ContextHandle)
    (written : γ → ContextHandle) (answer : γ → β) :
    Except GssError γ × RandomSource → Except GssError β × (Runtime × ContextHandle)
  | (.ok x, random) => (.ok (answer x), (rt.invoked i random, written x))
  | (.error e, random) => (.error e, (rt.invoked i random, kept))

section Settle

variable {γ β : Type} {rt rt' : Runtime} {i : Nat} {kept h' : ContextHandle}
  {written : γ → ContextHandle} {answer : γ → β} {p : Except GssError γ × RandomSource}

/-- Dropping the answer of a settled call settles it with no answer. -/
theorem discard_settle :
    ((settle rt i kept written answer p).1.map (fun _ => ()), (settle rt i kept written answer p).2) =
      settle rt i kept written (fun _ => ()) p := by
  rcases p with ⟨_ | _, _⟩ <;> rfl

/-- A settled call counts one call of its mechanism; it fails exactly when the step failed,
keeping the handle, and otherwise writes what the step answered. -/
theorem settle_eq {res : Except GssError β} (settled : settle rt i kept written answer p = (res, (rt', h'))) :
    rt' = rt.invoked i p.2 ∧ (∀ e, res = .error e → p.1 = .error e ∧ h' = kept) ∧
      (∀ b, res = .ok b → ∃ x, p.1 = .ok x ∧ answer x = b ∧ h' = written x) := by
  rcases p with ⟨_ | x, random⟩
  · simp only [settle, Prod.mk.injEq] at settled
    obtain ⟨rfl, rfl, rfl⟩ := settled
    exact ⟨rfl, fun _ failed => ⟨by cases failed; rfl, rfl⟩, nofun⟩
  · simp only [settle, Prod.mk.injEq] at settled
    obtain ⟨rfl, rfl, rfl⟩ := settled
    exact ⟨rfl, nofun, fun _ answered => ⟨x, rfl, Except.ok.inj answered, rfl⟩⟩

end Settle

/-! ### Installed mechanisms -/

/-- The position `locate` finds holds a mechanism with the identifier looked for. -/
theorem oid_of_locate {oid : Oid} {ms : List Mechanism} {i : Fin ms.length}
    (located : locate oid ms = some i) : (ms.get i).oid = oid := by
  induction ms with
  | nil => cases located
  | cons m ms ih =>
    unfold locate at located
    split at located
    · cases located
      assumption
    · obtain ⟨j, found, rfl⟩ := Option.map_eq_some_iff.1 located
      exact ih found

/-- With pairwise distinct identifiers, each mechanism is found at its own position. -/
theorem locate_get {ms : List Mechanism} (distinct : (ms.map Mechanism.oid).Nodup)
    (i : Fin ms.length) : locate (ms.get i).oid ms = some i := by
  induction ms with
  | nil => exact i.elim0
  | cons m ms ih =>
    rw [List.map_cons, List.nodup_cons] at distinct
    cases i using Fin.cases with
    | zero => simp [locate]
    | succ j =>
      have other : m.oid ≠ (ms.get j).oid := fun same =>
        distinct.1 (same ▸ List.mem_map_of_mem (List.get_mem ms j))
      have shifted : (m :: ms).get j.succ = ms.get j := rfl
      unfold locate
      rw [shifted, if_neg other, ih distinct.2 j]
      rfl

/-- An identifier that is never seen twice after `seen` leaves the whole list without
repeats. -/
theorem nodup_of_firstRepeat {seen : List Oid} (fresh : seen.Nodup) {os : List Oid}
    (noRepeat : firstRepeat seen os = none) : (seen ++ os).Nodup := by
  induction os generalizing seen with
  | nil => simpa using fresh
  | cons o os ih =>
    unfold firstRepeat at noRepeat
    split at noRepeat
    · cases noRepeat
    · rename_i unseen
      have notIn : o ∉ seen := by simpa using unseen
      have grown : (seen ++ [o]).Nodup := by
        rw [List.nodup_append]
        exact ⟨fresh, by simp, by
          simpa using fun a (member : a ∈ seen) (same : a = o) => notIn (same ▸ member)⟩
      simpa using ih grown noRepeat

namespace Registry

/-- A built registry installs the mechanisms it was given, in their order, and no two of them
share an identifier. -/
theorem build_eq_ok {mechs : List Mechanism} {default? : Option Oid} {r : Registry}
    (built : Registry.build mechs default? = .ok r) :
    r.mechs = mechs ∧ (mechs.map Mechanism.oid).Nodup := by
  unfold Registry.build at built
  split at built
  · cases built
  rename_i m rest
  split at built
  · cases built
  rename_i noRepeat
  have distinct : ((m :: rest).map Mechanism.oid).Nodup := by
    simpa using nodup_of_firstRepeat List.nodup_nil noRepeat
  -- with or without a default asked for, the registry holds the list as it was given
  split at built
  · cases built
    exact ⟨rfl, distinct⟩
  · split at built
    · cases built
      exact ⟨rfl, distinct⟩
    · cases built

theorem nodup_of_build {mechs : List Mechanism} {default? : Option Oid} {r : Registry}
    (built : Registry.build mechs default? = .ok r) : (r.mechs.map Mechanism.oid).Nodup := by
  obtain ⟨installed, distinct⟩ := build_eq_ok built
  rwa [installed]

/-- Mechanisms that install no identifier twice build a registry, whose default is the first
when none is chosen. -/
theorem build_first {m : Mechanism} {rest : List Mechanism}
    (fresh : firstRepeat [] ((m :: rest).map Mechanism.oid) = none) :
    Registry.build (m :: rest) none = .ok ⟨m :: rest, ⟨0, Nat.succ_pos _⟩⟩ := by
  simp only [Registry.build, fresh]

/-- The mechanism found for an identifier has it. -/
theorem oid_of_findBound {r : Registry} {oid : Oid} {i : Fin r.mechs.length}
    (found : r.findBound oid = .ok i) : (r.mechs.get i).oid = oid := by
  unfold findBound at found
  split at found
  · cases found
    exact oid_of_locate ‹_›
  · cases found

/-- With pairwise distinct identifiers, each installed mechanism is the one found for its
identifier. -/
theorem findBound_get {r : Registry} (distinct : (r.mechs.map Mechanism.oid).Nodup)
    (i : Fin r.mechs.length) : r.findBound (r.mechs.get i).oid = .ok i := by
  unfold findBound
  rw [locate_get distinct i]

variable (r : Registry) (rt : Runtime)

/-! ### Spec lemmas of the calls -/

/-- A first initiator step runs the mechanism the request selects on an unbound state, and
binds the handle to it only when the step succeeds. -/
theorem initSecContext_first (req : InitRequest) {i : Fin r.mechs.length}
    (found : r.find req.mech = .ok i) :
    (r.initSecContext req).run.run (rt, none) =
      settle rt i none (fun x => some ⟨(r.mechs.get i).oid, x.1⟩)
        (fun x => ⟨(r.mechs.get i).oid, x.2⟩)
        (((r.mechs.get i).init rt.env .unbound req).run.run rt.random) := by
  simp only [initSecContext, Call.run_bind, Call.run_handle, Call.run_ofExcept, found,
    Call.run_invoke]
  rcases ((r.mechs.get i).init rt.env .unbound req).run.run rt.random with ⟨_ | ⟨state, step⟩, _⟩
    <;> rfl

/-- A first initiator step for a mechanism that is not installed fails before any call. -/
theorem initSecContext_first_unfound (req : InitRequest) {e : GssError}
    (unfound : r.find req.mech = .error e) :
    (r.initSecContext req).run.run (rt, none) = (.error e, (rt, none)) := by
  simp only [initSecContext, Call.run_bind, Call.run_handle, Call.run_ofExcept, unfound]

/-- A continued initiator step that names another mechanism than the context's fails before
any call. -/
theorem initSecContext_otherMech (req : InitRequest) {sc : SecurityContext} {requested : Oid}
    (named : req.mech = some requested) (other : requested ≠ sc.mech) :
    (r.initSecContext req).run.run (rt, some sc) =
      (.error (GssError.badMech requested), (rt, some sc)) := by
  simp only [initSecContext, Call.run_bind, Call.run_handle, named, ne_eq, other,
    not_false_eq_true, if_true, Call.run_throw]

/-- A continued initiator step runs the context's mechanism on its state. -/
theorem initSecContext_continue (req : InitRequest) {sc : SecurityContext}
    (sameMech : ∀ requested, req.mech = some requested → requested = sc.mech)
    {i : Fin r.mechs.length} (found : r.findBound sc.mech = .ok i) :
    (r.initSecContext req).run.run (rt, some sc) =
      settle rt i (some sc) (fun x => some { sc with state := x.1 }) (fun x => ⟨sc.mech, x.2⟩)
        (((r.mechs.get i).init rt.env sc.state req).run.run rt.random) := by
  -- the check of a named mechanism wraps the rest of the step
  cases named : req.mech with
  | none =>
    simp only [initSecContext, Call.run_bind, Call.run_handle, named, Call.run_ofExcept, found,
      Call.run_invoke]
    rcases ((r.mechs.get i).init rt.env sc.state req).run.run rt.random with
      ⟨_ | ⟨state, step⟩, _⟩ <;> rfl
  | some requested =>
    simp only [initSecContext, Call.run_bind, Call.run_handle, named, sameMech requested named,
      ne_eq, not_true_eq_false, if_false, Call.run_ofExcept, found, Call.run_invoke]
    rcases ((r.mechs.get i).init rt.env sc.state req).run.run rt.random with
      ⟨_ | ⟨state, step⟩, _⟩ <;> rfl

/-- A first acceptor step runs the mechanism the token names on an unbound state, and binds
the handle to that identifier only when the step succeeds. -/
theorem acceptSecContext_first (req : AcceptRequest) {u : Unframed}
    (unframed : Codec.decapsulate req.inputToken = .ok u) {i : Fin r.mechs.length}
    (found : r.findBound u.mech = .ok i) :
    (r.acceptSecContext req).run.run (rt, none) =
      settle rt i none (fun x => some ⟨u.mech, x.1⟩) (fun x => ⟨u.mech, x.2⟩)
        (((r.mechs.get i).accept rt.env .unbound req).run.run rt.random) := by
  simp only [acceptSecContext, Call.run_bind, Call.run_handle, Call.run_ofExcept, unframed,
    Except.mapError, found, Call.run_invoke]
  rcases ((r.mechs.get i).accept rt.env .unbound req).run.run rt.random with
    ⟨_ | ⟨state, step⟩, _⟩ <;> rfl

/-- A first acceptor step on a token that is not framed fails before any call. -/
theorem acceptSecContext_first_unframed (req : AcceptRequest) {e : CodecError}
    (unframed : Codec.decapsulate req.inputToken = .error e) :
    (r.acceptSecContext req).run.run (rt, none) = (.error (.defectiveToken e), (rt, none)) := by
  simp only [acceptSecContext, Call.run_bind, Call.run_handle, Call.run_ofExcept, unframed,
    Except.mapError]

/-- A first acceptor step on a token for a mechanism that is not installed fails before any
call. -/
theorem acceptSecContext_first_unfound (req : AcceptRequest) {u : Unframed} {e : GssError}
    (unframed : Codec.decapsulate req.inputToken = .ok u) (unfound : r.findBound u.mech = .error e) :
    (r.acceptSecContext req).run.run (rt, none) = (.error e, (rt, none)) := by
  simp only [acceptSecContext, Call.run_bind, Call.run_handle, Call.run_ofExcept, unframed,
    Except.mapError, unfound]

/-- A continued acceptor step runs the context's mechanism on its state. -/
theorem acceptSecContext_continue (req : AcceptRequest) {sc : SecurityContext}
    {i : Fin r.mechs.length} (found : r.findBound sc.mech = .ok i) :
    (r.acceptSecContext req).run.run (rt, some sc) =
      settle rt i (some sc) (fun x => some { sc with state := x.1 }) (fun x => ⟨sc.mech, x.2⟩)
        (((r.mechs.get i).accept rt.env sc.state req).run.run rt.random) := by
  simp only [acceptSecContext, Call.run_bind, Call.run_handle, Call.run_ofExcept, found,
    Call.run_invoke]
  rcases ((r.mechs.get i).accept rt.env sc.state req).run.run rt.random with
    ⟨_ | ⟨state, step⟩, _⟩ <;> rfl

/-- Deleting a bound context releases the handle before the mechanism's teardown runs, and
answers what the teardown answers. -/
theorem deleteSecContext_bound {sc : SecurityContext} {i : Fin r.mechs.length}
    (found : r.findBound sc.mech = .ok i) :
    r.deleteSecContext.run.run (rt, some sc) =
      settle rt i none (fun _ => none) id ((r.mechs.get i).delete sc.state, rt.random) := by
  simp only [deleteSecContext, Call.run_bind, boundContext_some, Call.run_setHandle,
    Call.run_ofExcept, found, Call.run_invoke, Rand.run_ofExcept]
  rcases (r.mechs.get i).delete sc.state with _ | _ <;> rfl

theorem contextTime_bound {sc : SecurityContext} {i : Fin r.mechs.length}
    (found : r.findBound sc.mech = .ok i) :
    r.contextTime.run.run (rt, some sc) =
      settle rt i (some sc) (fun _ => some sc) id
        ((r.mechs.get i).contextTime rt.env sc.state, rt.random) := by
  simp only [contextTime, Call.run_bind, boundContext_some, Call.run_ofExcept, found,
    Call.run_invoke, Rand.run_ofExcept]
  rcases (r.mechs.get i).contextTime rt.env sc.state with _ | _ <;> rfl

theorem inquireContext_bound {sc : SecurityContext} {i : Fin r.mechs.length}
    (found : r.findBound sc.mech = .ok i) :
    r.inquireContext.run.run (rt, some sc) =
      settle rt i (some sc) (fun _ => some sc) id
        ((r.mechs.get i).inquire rt.env sc.state, rt.random) := by
  simp only [inquireContext, Call.run_bind, boundContext_some, Call.run_ofExcept, found,
    Call.run_invoke, Rand.run_ofExcept]
  rcases (r.mechs.get i).inquire rt.env sc.state with _ | _ <;> rfl

theorem wrap_bound (confReq : Bool) (message : Bytes) {sc : SecurityContext}
    {i : Fin r.mechs.length} (found : r.findBound sc.mech = .ok i) :
    (r.wrap confReq message).run.run (rt, some sc) =
      settle rt i (some sc) (fun x => some { sc with state := x.2 }) Prod.fst
        (((r.mechs.get i).wrap sc.state confReq message).run.run rt.random) := by
  simp only [wrap, Call.run_bind, boundContext_some, Call.run_ofExcept, found, Call.run_invoke]
  rcases ((r.mechs.get i).wrap sc.state confReq message).run.run rt.random with
    ⟨_ | ⟨out, state⟩, _⟩ <;> rfl

theorem unwrap_bound (token : Bytes) {sc : SecurityContext} {i : Fin r.mechs.length}
    (found : r.findBound sc.mech = .ok i) :
    (r.unwrap token).run.run (rt, some sc) =
      settle rt i (some sc) (fun x => some { sc with state := x.2 }) Prod.fst
        ((r.mechs.get i).unwrap sc.state token, rt.random) := by
  simp only [unwrap, Call.run_bind, boundContext_some, Call.run_ofExcept, found, Call.run_invoke,
    Rand.run_ofExcept]
  rcases (r.mechs.get i).unwrap sc.state token with _ | ⟨out, state⟩ <;> rfl

theorem getMic_bound (message : Bytes) {sc : SecurityContext} {i : Fin r.mechs.length}
    (found : r.findBound sc.mech = .ok i) :
    (r.getMic message).run.run (rt, some sc) =
      settle rt i (some sc) (fun x => some { sc with state := x.2 }) Prod.fst
        ((r.mechs.get i).getMic sc.state message, rt.random) := by
  simp only [getMic, Call.run_bind, boundContext_some, Call.run_ofExcept, found, Call.run_invoke,
    Rand.run_ofExcept]
  rcases (r.mechs.get i).getMic sc.state message with _ | ⟨token, state⟩ <;> rfl

theorem verifyMic_bound (message token : Bytes) {sc : SecurityContext} {i : Fin r.mechs.length}
    (found : r.findBound sc.mech = .ok i) :
    (r.verifyMic message token).run.run (rt, some sc) =
      settle rt i (some sc) (fun state => some { sc with state }) (fun _ => ())
        ((r.mechs.get i).verifyMic sc.state message token, rt.random) := by
  simp only [verifyMic, Call.run_bind, boundContext_some, Call.run_ofExcept, found,
    Call.run_invoke, Rand.run_ofExcept]
  rcases (r.mechs.get i).verifyMic sc.state message token with _ | state <;> rfl

end Registry

/-! ### Sessions -/

/-- A call of the context interface, with its arguments. -/
inductive FacadeCall where
  | init (req : InitRequest)
  | accept (req : AcceptRequest)
  | delete
  | contextTime
  | inquire
  | wrap (confReq : Bool) (message : Bytes)
  | unwrap (token : Bytes)
  | getMic (message : Bytes)
  | verifyMic (message token : Bytes)

namespace FacadeCall

/-- Make the call on a handle; what it answers on success is dropped. -/
def perform (r : Registry) : FacadeCall → Call Unit
  | init req => discard (r.initSecContext req)
  | accept req => discard (r.acceptSecContext req)
  | delete => discard r.deleteSecContext
  | contextTime => discard r.contextTime
  | inquire => discard r.inquireContext
  | wrap confReq message => discard (r.wrap confReq message)
  | unwrap token => discard (r.unwrap token)
  | getMic message => discard (r.getMic message)
  | verifyMic message token => r.verifyMic message token

/-- Whether the call can start a context on the sentinel. -/
def establishes : FacadeCall → Bool
  | init _ | accept _ => true
  | _ => false

end FacadeCall

theorem Call.run_discard {α : Type} (x : Call α) (s : Runtime × ContextHandle) :
    (discard x : Call Unit).run.run s = ((x.run.run s).1.map fun _ => (), (x.run.run s).2) := by
  show StateT.run (ExceptT.map _ x) s = (Except.map _ (StateT.run x s).1, (StateT.run x s).2)
  simp only [ExceptT.map, ExceptT.mk, StateT.run_bind]
  rcases StateT.run x s with ⟨_ | _, _⟩ <;> rfl

/-- Every call but the two that establish fails on the sentinel and leaves it. -/
theorem FacadeCall.perform_sentinel (r : Registry) (rt : Runtime) {c : FacadeCall}
    (later : c.establishes = false) :
    (c.perform r).run.run (rt, none) = (.error (.badStructure .noContext), (rt, none)) := by
  cases c with
  | init | accept => cases later
  | _ =>
    simp only [perform, Call.run_discard, Registry.deleteSecContext, Registry.contextTime,
      Registry.inquireContext, Registry.wrap, Registry.unwrap, Registry.getMic, Registry.verifyMic,
      Call.run_bind, boundContext_none, Except.map]

/-- A continued initiator step that names another mechanism than the handle's is refused before
any mechanism runs, and leaves the runtime and the handle as they were. -/
theorem FacadeCall.perform_otherMech (r : Registry) (rt : Runtime) {req : InitRequest}
    {sc : SecurityContext} {requested : Oid} (named : req.mech = some requested)
    (differs : requested ≠ sc.mech) :
    ((FacadeCall.init req).perform r).run.run (rt, some sc) =
      (.error (.badMech requested), (rt, some sc)) := by
  rw [perform, Call.run_discard, Registry.initSecContext_otherMech r rt req named differs]
  rfl

/-- The states a successful call of a mechanism can leave behind: the state its step answers
with, or the same state for the calls that only read it. -/
inductive Mechanism.Moves (mech : Mechanism) : FacadeCall → MechState → MechState → Prop
  | init {env : Environment} {req : InitRequest} {st st' : MechState} {out : StepOutput}
      {r : RandomSource} (ran : ((mech.init env st req).run.run r).1 = .ok (st', out)) :
      mech.Moves (.init req) st st'
  | accept {env : Environment} {req : AcceptRequest} {st st' : MechState} {out : StepOutput}
      {r : RandomSource} (ran : ((mech.accept env st req).run.run r).1 = .ok (st', out)) :
      mech.Moves (.accept req) st st'
  | wrap {confReq : Bool} {message : Bytes} {st st' : MechState} {out : WrapOutput}
      {r : RandomSource} (ran : ((mech.wrap st confReq message).run.run r).1 = .ok (out, st')) :
      mech.Moves (.wrap confReq message) st st'
  | unwrap {token : Bytes} {st st' : MechState} {out : UnwrapOutput}
      (ran : mech.unwrap st token = .ok (out, st')) : mech.Moves (.unwrap token) st st'
  | getMic {message token : Bytes} {st st' : MechState}
      (ran : mech.getMic st message = .ok (token, st')) : mech.Moves (.getMic message) st st'
  | verifyMic {message token : Bytes} {st st' : MechState}
      (ran : mech.verifyMic st message token = .ok st') : mech.Moves (.verifyMic message token) st st'
  | contextTime {st : MechState} : mech.Moves .contextTime st st
  | inquire {st : MechState} : mech.Moves .inquire st st

section Dispatch

variable {r : Registry} {rt rt' : Runtime} {h' : ContextHandle} {res : Except GssError Unit}

/-- How a call on a handle bound to the mechanism at position `i` ends once the mechanism ran:
the call is counted; on failure the handle stays, unless the call is a deletion, which
releases it whatever the teardown answers; on success the handle is released (a deletion) or
takes a state the mechanism's call can leave. -/
structure Dispatched (r : Registry) (i : Fin r.mechs.length) (c : FacadeCall)
    (sc : SecurityContext) (rt : Runtime) (res : Except GssError Unit) (rt' : Runtime)
    (h' : ContextHandle) : Prop where
  counted : rt'.calls = bumpAt rt.calls i
  failed : ∀ e, res = .error e → h' = some sc ∨
    (c = .delete ∧ h' = none ∧ (r.mechs.get i).delete sc.state = .error e)
  succeeded : res = .ok () → (c = .delete ∧ h' = none) ∨
    ∃ st', (r.mechs.get i).Moves c sc.state st' ∧ h' = some { sc with state := st' }

/-- A call whose step writes back a state the mechanism's call can leave is dispatched. -/
theorem dispatched_of_settle {γ : Type} {c : FacadeCall} {sc : SecurityContext}
    {i : Fin r.mechs.length} {p : Except GssError γ × RandomSource} {f : γ → MechState}
    (moves : ∀ x, p.1 = .ok x → (r.mechs.get i).Moves c sc.state (f x))
    (settled : settle rt i (some sc) (fun x => some { sc with state := f x }) (fun _ => ()) p =
      (res, (rt', h'))) : Dispatched r i c sc rt res rt' h' := by
  obtain ⟨counted, failed, succeeded⟩ := settle_eq settled
  refine ⟨by rw [counted]; rfl, fun e failing => .inl (failed e failing).2, fun ok => .inr ?_⟩
  obtain ⟨x, stepped, -, rfl⟩ := succeeded () ok
  exact ⟨f x, moves x stepped, rfl⟩

/-- What a call does to a handle bound to an installed mechanism: a continued initiator step
that names another mechanism fails before any call, leaving everything as it was; every other
call is dispatched to the bound mechanism. -/
theorem FacadeCall.perform_bound (c : FacadeCall) {sc : SecurityContext} {i : Fin r.mechs.length}
    (found : r.findBound sc.mech = .ok i)
    (ran : (c.perform r).run.run (rt, some sc) = (res, (rt', h'))) :
    (∃ req requested, c = .init req ∧ req.mech = some requested ∧ requested ≠ sc.mech ∧
      res = .error (.badMech requested) ∧ rt' = rt ∧ h' = some sc) ∨
    Dispatched r i c sc rt res rt' h' := by
  cases c with
  | init req =>
    by_cases other : ∃ requested, req.mech = some requested ∧ requested ≠ sc.mech
    · obtain ⟨requested, named, differs⟩ := other
      rw [perform_otherMech r rt named differs] at ran
      obtain ⟨rfl, rfl, rfl⟩ := ran
      exact .inl ⟨req, requested, rfl, named, differs, rfl, rfl, rfl⟩
    · have sameMech : ∀ requested, req.mech = some requested → requested = sc.mech :=
        fun requested named => Classical.byContradiction fun differs =>
          other ⟨requested, named, differs⟩
      rw [perform, Call.run_discard, Registry.initSecContext_continue r rt req sameMech found,
        discard_settle] at ran
      exact .inr (dispatched_of_settle (fun _ stepped => .init stepped) ran)
  | accept req =>
    rw [perform, Call.run_discard, Registry.acceptSecContext_continue r rt req found,
      discard_settle] at ran
    exact .inr (dispatched_of_settle (fun _ stepped => .accept stepped) ran)
  | delete =>
    rw [perform, Call.run_discard, Registry.deleteSecContext_bound r rt found, discard_settle] at ran
    obtain ⟨counted, failed, succeeded⟩ := settle_eq ran
    refine .inr ⟨by rw [counted]; rfl,
      fun e failing => .inr ⟨rfl, (failed e failing).2, (failed e failing).1⟩,
      fun ok => .inl ⟨rfl, ?_⟩⟩
    obtain ⟨x, -, -, rfl⟩ := succeeded () ok
    rfl
  | contextTime =>
    rw [perform, Call.run_discard, Registry.contextTime_bound r rt found, discard_settle] at ran
    exact .inr (dispatched_of_settle (f := fun _ => sc.state) (fun _ _ => .contextTime) ran)
  | inquire =>
    rw [perform, Call.run_discard, Registry.inquireContext_bound r rt found, discard_settle] at ran
    exact .inr (dispatched_of_settle (f := fun _ => sc.state) (fun _ _ => .inquire) ran)
  | wrap confReq message =>
    rw [perform, Call.run_discard, Registry.wrap_bound r rt confReq message found,
      discard_settle] at ran
    exact .inr (dispatched_of_settle (fun _ stepped => .wrap stepped) ran)
  | unwrap token =>
    rw [perform, Call.run_discard, Registry.unwrap_bound r rt token found, discard_settle] at ran
    exact .inr (dispatched_of_settle (fun _ stepped => .unwrap stepped) ran)
  | getMic message =>
    rw [perform, Call.run_discard, Registry.getMic_bound r rt message found, discard_settle] at ran
    exact .inr (dispatched_of_settle (fun _ stepped => .getMic stepped) ran)
  | verifyMic message token =>
    rw [perform, Registry.verifyMic_bound r rt message token found] at ran
    exact .inr (dispatched_of_settle (fun _ stepped => .verifyMic stepped) ran)

/-- What a call does to the sentinel: on failure it stays the sentinel; only a successful
first initiator or acceptor step binds it, to the identifier of the mechanism it ran, found for
the requested mechanism (an initiator) or for the identifier framing the token (an
acceptor), with a state that mechanism's call can leave. -/
theorem FacadeCall.perform_first (c : FacadeCall)
    (ran : (c.perform r).run.run (rt, none) = (res, (rt', h'))) :
    (∀ e, res = .error e → h' = none) ∧
    (res = .ok () → ∃ i st, h' = some ⟨(r.mechs.get i).oid, st⟩ ∧
      (r.mechs.get i).Moves c .unbound st ∧ rt'.calls = bumpAt rt.calls i ∧
      (∀ req, c = .init req → r.find req.mech = .ok i) ∧
      (∀ req, c = .accept req →
        ∃ u, Codec.decapsulate req.inputToken = .ok u ∧ r.findBound u.mech = .ok i)) := by
  -- a first call that fails before running a mechanism leaves everything as it was
  have refused : ∀ {e}, (Except.error e, (rt, none)) = (res, (rt', h')) →
      res = .error e ∧ h' = none := fun stopped => by
    simp only [Prod.mk.injEq] at stopped
    exact ⟨stopped.1.symm, stopped.2.2.symm⟩
  cases c with
  | init req =>
    cases selected : r.find req.mech with
    | error e =>
      rw [perform, Call.run_discard, Registry.initSecContext_first_unfound r rt req selected] at ran
      obtain ⟨rfl, rfl⟩ := refused ran
      exact ⟨fun _ _ => rfl, nofun⟩
    | ok i =>
      rw [perform, Call.run_discard, Registry.initSecContext_first r rt req selected,
        discard_settle] at ran
      obtain ⟨counted, failed, succeeded⟩ := settle_eq ran
      refine ⟨fun e failing => (failed e failing).2, fun ok => ?_⟩
      obtain ⟨x, stepped, -, rfl⟩ := succeeded () ok
      exact ⟨i, x.1, rfl, .init stepped, by rw [counted]; rfl,
        fun _ same => by cases same; exact selected, fun _ same => FacadeCall.noConfusion same⟩
  | accept req =>
    cases unframed : Codec.decapsulate req.inputToken with
    | error e =>
      rw [perform, Call.run_discard, Registry.acceptSecContext_first_unframed r rt req unframed] at ran
      obtain ⟨rfl, rfl⟩ := refused ran
      exact ⟨fun _ _ => rfl, nofun⟩
    | ok u =>
      cases found : r.findBound u.mech with
      | error e =>
        rw [perform, Call.run_discard,
          Registry.acceptSecContext_first_unfound r rt req unframed found] at ran
        obtain ⟨rfl, rfl⟩ := refused ran
        exact ⟨fun _ _ => rfl, nofun⟩
      | ok i =>
        rw [perform, Call.run_discard, Registry.acceptSecContext_first r rt req unframed found,
          discard_settle] at ran
        obtain ⟨counted, failed, succeeded⟩ := settle_eq ran
        refine ⟨fun e failing => (failed e failing).2, fun ok => ?_⟩
        obtain ⟨x, stepped, -, rfl⟩ := succeeded () ok
        refine ⟨i, x.1, by rw [Registry.oid_of_findBound found], .accept stepped,
          by rw [counted]; rfl, fun _ same => FacadeCall.noConfusion same, fun _ same => ?_⟩
        cases same
        exact ⟨u, unframed, found⟩
  | _ =>
    rw [perform_sentinel r rt rfl] at ran
    obtain ⟨rfl, rfl⟩ := refused ran
    exact ⟨fun _ _ => rfl, nofun⟩

end Dispatch

/-- What a caller drives: the runtime and its handles, by number. -/
structure Session where
  runtime : Runtime
  handles : Nat → ContextHandle

/-- Something that happens in a session. -/
inductive Event where
  /-- A call on one handle. -/
  | call (handle : Nat) (c : FacadeCall)
  /-- A change of the runtime between calls: the clock, the random source, the store. -/
  | adjust (runtime : Runtime)

namespace Session

/-- A session whose handles are all the sentinel. -/
def start (runtime : Runtime) : Session := ⟨runtime, fun _ => none⟩

def step (r : Registry) (s : Session) : Event → Session
  | .call n c =>
    let after := ((c.perform r).run.run (s.runtime, s.handles n)).2
    ⟨after.1, fun k => if k = n then after.2 else s.handles k⟩
  | .adjust runtime => { s with runtime }

def run (r : Registry) (s : Session) (events : List Event) : Session := events.foldl (step r) s

/-- A property of handles that the sentinel has and that every call keeps holds of every
handle along every run from a session where it holds. -/
theorem run_handles {r : Registry} (P : ContextHandle → Prop)
    (kept : ∀ (c : FacadeCall) rt h, P h → P ((c.perform r).run.run (rt, h)).2.2)
    (events : List Event) {s : Session} (holds : ∀ n, P (s.handles n)) :
    ∀ n, P ((s.run r events).handles n) := by
  -- induction on the events, from any session where every handle has the property
  induction events generalizing s with
  | nil => exact holds
  | cons event events ih =>
    apply ih
    cases event with
    | call n c =>
      intro k
      simp only [step]
      split
      · exact kept c s.runtime (s.handles n) (holds n)
      · exact holds k
    | adjust runtime => exact holds

end Session

namespace Registry

/-- What a handle may hold over `r`, given what each mechanism's states may be: the sentinel, or
a state `P` allows of an installed mechanism, bound to that mechanism's identifier. -/
def Holds (r : Registry) (P : Mechanism → MechState → Prop) : ContextHandle → Prop
  | none => True
  | some sc => ∃ i, r.findBound sc.mech = .ok i ∧ P (r.mechs.get i) sc.state

variable {r : Registry} {P : Mechanism → MechState → Prop}

/-- Every call keeps what handles may hold, when every installed mechanism may hold the unbound
state and its calls keep what it may hold. The identifiers must be pairwise distinct: a first
call binds the handle to the identifier of the mechanism it ran, and only then is that
mechanism the one found again for it. -/
theorem holds_perform (distinct : (r.mechs.map Mechanism.oid).Nodup)
    (unbound : ∀ i, P (r.mechs.get i) .unbound)
    (kept : ∀ i c st st', (r.mechs.get i).Moves c st st' → P (r.mechs.get i) st →
      P (r.mechs.get i) st')
    (c : FacadeCall) (rt : Runtime) {h : ContextHandle} (holds : r.Holds P h) :
    r.Holds P ((c.perform r).run.run (rt, h)).2.2 := by
  rcases ran : (c.perform r).run.run (rt, h) with ⟨res, rt', h'⟩
  cases h with
  | none =>
    obtain ⟨failed, succeeded⟩ := c.perform_first ran
    cases res with
    | error e =>
      rw [failed e rfl]
      trivial
    | ok =>
      obtain ⟨i, st, rfl, moves, -⟩ := succeeded rfl
      exact ⟨i, findBound_get distinct i, kept i c _ _ moves (unbound i)⟩
  | some sc =>
    obtain ⟨i, found, held⟩ := holds
    rcases c.perform_bound found ran with ⟨-, -, -, -, -, -, -, rfl⟩ | ⟨-, failed, succeeded⟩
    · exact ⟨i, found, held⟩
    · cases res with
      | error e =>
        rcases failed e rfl with rfl | ⟨-, rfl, -⟩
        · exact ⟨i, found, held⟩
        · trivial
      | ok =>
        rcases succeeded rfl with ⟨-, rfl⟩ | ⟨st', moves, rfl⟩
        · trivial
        · exact ⟨i, found, kept i c _ _ moves held⟩

end Registry

end GssApi
