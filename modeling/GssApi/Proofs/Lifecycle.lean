import GssApi.Proofs.ContextInvariant
import GssApi.Proofs.Utf8
/-! The life of a context handle.

A handle starts as the sentinel, and only a successful first establishment call binds it: an
initiator's to the mechanism it asks for or, asking for none, to the default; an acceptor's to
the mechanism whose identifier frames the token it is given. A first call that fails leaves the
sentinel, and every other call fails on it.

Once bound, a handle keeps its identifier, and each call on it goes to the one installed
mechanism with that identifier and counts one call of it and of no other, whichever mechanism
is the default. A continued initiator step that names another mechanism is refused before any
mechanism runs. Deleting releases the handle whatever the teardown answers, and answers what the
teardown answered.

`FirstCall` and `BoundCall` say what one call does in each case; `FacadeCall.firstCall` and
`FacadeCall.boundCall` prove them from the spec lemmas of the calls, and
`handles_follow_their_mechanism` applies them to every handle of every session, using that a
bound handle always names an installed mechanism (`Registry.holds_perform`). -/
namespace GssApi

namespace Registry

variable {r : Registry} {rt : Runtime}

/-- With pairwise distinct identifiers, an identifier names one installed mechanism only. -/
theorem eq_of_oid_eq (distinct : (r.mechs.map Mechanism.oid).Nodup) {i j : Fin r.mechs.length}
    (same : (r.mechs.get j).oid = (r.mechs.get i).oid) : j = i := by
  have atJ := findBound_get distinct j
  rw [same, findBound_get distinct i] at atJ
  exact (Except.ok.inj atJ).symm

/-- Deleting a handle bound to an installed mechanism answers the teardown's own result,
releases the handle whatever that is, and counts one call of that mechanism. -/
theorem deleteSecContext_run {sc : SecurityContext} {i : Fin r.mechs.length}
    (found : r.findBound sc.mech = .ok i) :
    r.deleteSecContext.run.run (rt, some sc) =
      ((r.mechs.get i).delete sc.state, (rt.invoked i rt.random, none)) := by
  rw [deleteSecContext_bound r rt found]
  cases (r.mechs.get i).delete sc.state <;> rfl

end Registry

/-- What a call does to the sentinel, given the runtime before (`rt`) and after (`rt'`), its
result and the handle after. -/
structure FirstCall (r : Registry) (c : FacadeCall) (rt : Runtime) (res : Except GssError Unit)
    (rt' : Runtime) (after : ContextHandle) : Prop where
  /-- A first call that fails leaves the sentinel. -/
  failed : ∀ e, res = .error e → after = none
  /-- Only an establishment call can succeed on the sentinel. -/
  establishes : res = .ok () → c.establishes = true
  /-- A successful first call ran one installed mechanism, counted once, and binds the handle to
  its identifier with a state its step left: for an initiator the mechanism asked for or, with
  none asked for, the default; for an acceptor the one named by the token's framing. -/
  bound : res = .ok () → ∃ i st, after = some ⟨(r.mechs.get i).oid, st⟩ ∧
    rt'.calls = bumpAt rt.calls i ∧ (r.mechs.get i).Moves c .unbound st ∧
    (∀ req, c = .init req → (req.mech = none → i = r.default) ∧
      ∀ oid, req.mech = some oid → (r.mechs.get i).oid = oid) ∧
    (∀ req, c = .accept req →
      ∃ u, Codec.decapsulate req.inputToken = .ok u ∧ (r.mechs.get i).oid = u.mech)

/-- What a call does to a handle bound to `sc` when the mechanism at `i` is the installed one
with its identifier. -/
structure BoundCall (r : Registry) (i : Fin r.mechs.length) (c : FacadeCall)
    (sc : SecurityContext) (rt : Runtime) (res : Except GssError Unit) (rt' : Runtime)
    (after : ContextHandle) : Prop where
  /-- A continued initiator step naming another mechanism fails with that identifier before any
  mechanism runs, and leaves the runtime and the handle as they were. -/
  otherMech : ∀ req requested, c = .init req → req.mech = some requested →
    requested ≠ sc.mech → res = .error (.badMech requested) ∧ rt' = rt ∧ after = some sc
  /-- Every other call counts one call of the mechanism at `i` and of no other. -/
  counted : (∀ req requested, c = .init req → req.mech = some requested → requested = sc.mech) →
    rt'.calls = bumpAt rt.calls i
  /-- The handle keeps its identifier, and holds the state it had or one the mechanism at `i`
  left. -/
  keepsMech : ∀ sc', after = some sc' →
    sc'.mech = sc.mech ∧ (sc'.state = sc.state ∨ (r.mechs.get i).Moves c sc.state sc'.state)
  /-- Only a deletion releases the handle, and it always does. -/
  released : after = none ↔ c = .delete
  /-- A deletion answers the teardown's own result and counts one call of the mechanism at `i`. -/
  teardown : r.deleteSecContext.run.run (rt, some sc) =
    ((r.mechs.get i).delete sc.state, (rt.invoked i rt.random, none))

namespace FacadeCall

variable {r : Registry} {rt rt' : Runtime} {res : Except GssError Unit} {after : ContextHandle}

theorem firstCall (c : FacadeCall) (ran : (c.perform r).run.run (rt, none) = (res, (rt', after))) :
    FirstCall r c rt res rt' after := by
  obtain ⟨failed, succeeded⟩ := c.perform_first ran
  refine ⟨failed, fun ok => ?_, fun ok => ?_⟩
  · cases later : c.establishes with
    | true => rfl
    | false =>
      rw [perform_sentinel r rt later, Prod.mk.injEq] at ran
      rw [← ran.1] at ok
      cases ok
  · obtain ⟨i, st, bound, moves, counted, viaFind, viaToken⟩ := succeeded ok
    refine ⟨i, st, bound, counted, moves, fun req same => ⟨fun unnamed => ?_, fun oid named => ?_⟩,
      fun req same => ?_⟩
    · have found := viaFind req same
      rw [unnamed] at found
      exact (Except.ok.inj found).symm
    · have found := viaFind req same
      rw [named] at found
      exact Registry.oid_of_findBound found
    · obtain ⟨u, unframed, found⟩ := viaToken req same
      exact ⟨u, unframed, Registry.oid_of_findBound found⟩

theorem boundCall (c : FacadeCall) {sc : SecurityContext} {i : Fin r.mechs.length}
    (found : r.findBound sc.mech = .ok i)
    (ran : (c.perform r).run.run (rt, some sc) = (res, (rt', after))) :
    BoundCall r i c sc rt res rt' after := by
  have teardown : r.deleteSecContext.run.run (rt, some sc) = _ := Registry.deleteSecContext_run found
  have otherMech : ∀ req requested, c = .init req → req.mech = some requested →
      requested ≠ sc.mech → res = .error (.badMech requested) ∧ rt' = rt ∧ after = some sc := by
    rintro req requested rfl named differs
    rw [perform_otherMech r rt named differs] at ran
    obtain ⟨rfl, rfl, rfl⟩ := ran
    exact ⟨rfl, rfl, rfl⟩
  rcases c.perform_bound found ran with
    ⟨req, requested, rfl, named, differs, -, -, rfl⟩ | ⟨counted, failed, succeeded⟩
  · refine ⟨otherMech, fun matching => absurd (matching req requested rfl named) differs,
      fun sc' kept => ?_, ⟨nofun, nofun⟩, teardown⟩
    cases kept
    exact ⟨rfl, .inl rfl⟩
  refine ⟨otherMech, fun _ => counted, fun sc' kept => ?_, ⟨fun freed => ?_, fun deleting => ?_⟩,
    teardown⟩
  · -- the handle is the one before, or the one the mechanism's call wrote
    cases res with
    | error e =>
      rcases failed e rfl with rfl | ⟨-, rfl, -⟩
      · cases kept
        exact ⟨rfl, .inl rfl⟩
      · cases kept
    | ok =>
      rcases succeeded rfl with ⟨-, rfl⟩ | ⟨st', moves, rfl⟩
      · cases kept
      · cases kept
        exact ⟨rfl, .inr moves⟩
  · cases res with
    | error e =>
      rcases failed e rfl with rfl | ⟨deleting, -, -⟩
      · cases freed
      · exact deleting
    | ok =>
      rcases succeeded rfl with ⟨deleting, -⟩ | ⟨st', -, rfl⟩
      · exact deleting
      · cases freed
  · -- a deletion writes the sentinel before its teardown runs
    subst deleting
    rw [perform, Call.run_discard, teardown] at ran
    exact (Prod.mk.inj (Prod.mk.inj ran).2).2.symm

end FacadeCall

/-- Over a registry that was built, take any handle of any session, after any events, and any
call on it. On the sentinel the call does what `FirstCall` says. On a bound handle, the handle's
identifier is that of exactly one installed mechanism, and the call does what `BoundCall` says
of it. -/
theorem handles_follow_their_mechanism {mechs : List Mechanism} {default? : Option Oid}
    {r : Registry} (built : Registry.build mechs default? = .ok r) (runtime : Runtime)
    (events : List Event) (n : Nat) (c : FacadeCall) (rt : Runtime) {res : Except GssError Unit}
    {rt' : Runtime} {after : ContextHandle}
    (ran : (c.perform r).run.run (rt, ((Session.start runtime).run r events).handles n) =
      (res, (rt', after))) :
    (((Session.start runtime).run r events).handles n = none → FirstCall r c rt res rt' after) ∧
    ∀ sc, ((Session.start runtime).run r events).handles n = some sc →
      ∃ i, (r.mechs.get i).oid = sc.mech ∧ (∀ j, (r.mechs.get j).oid = sc.mech → j = i) ∧
        BoundCall r i c sc rt res rt' after := by
  have distinct := Registry.nodup_of_build built
  refine ⟨fun unbound => ?_, fun sc bound => ?_⟩
  · rw [unbound] at ran
    exact c.firstCall ran
  -- a handle is only ever bound to the identifier of an installed mechanism
  have holds := Session.run_handles (r.Holds fun _ _ => True)
    (fun c rt _ => Registry.holds_perform distinct (fun _ => trivial) (fun _ _ _ _ _ _ => trivial)
      c rt) events (s := Session.start runtime) (fun _ => trivial) n
  rw [bound] at holds ran
  obtain ⟨i, found, -⟩ := holds
  have installed := Registry.oid_of_findBound found
  exact ⟨i, installed, fun j same => Registry.eq_of_oid_eq distinct (same.trans installed.symm),
    c.boundCall found ran⟩

/-- Over a registry whose default is the ticket mechanism, with a stand-in beside it that refuses
its teardown: a first initiator step that asks for the stand-in binds a fresh handle to it; a
wrap on that handle goes to the stand-in and not to the default; and deleting the handle answers
the stand-in's failed teardown and still releases the handle. -/
theorem handles_follow_their_mechanism_through_a_stand_in :
    let standIn : Decoy := ⟨⟨[0x2b, 0x06, 0x01, 0x05, 0x05, 0x02], by decide⟩, true⟩
    let r : Registry := ⟨[.krb5 {}, .decoy standIn], ⟨0, by decide⟩⟩
    let rt : Runtime := ⟨0, {}, {}, [0, 0]⟩
    let req : InitRequest := { target := .principal "host/server", mech := some standIn.oid }
    let bound : SecurityContext := ⟨standIn.oid, .unbound⟩
    let rt₁ : Runtime := rt.invoked 1 rt.random
    let standInAt : Fin r.mechs.length := ⟨1, by decide⟩
    Registry.build r.mechs none = .ok r ∧
    FirstCall r (.init req) rt (.ok ()) rt₁ (some bound) ∧
    ((Session.start rt).run r [.call 0 (.init req)]).handles 0 = some bound ∧
    BoundCall r standInAt (.wrap false [7]) bound rt₁ (.ok ()) (rt₁.invoked 1 rt₁.random)
      (some bound) ∧
    BoundCall r standInAt .delete bound rt₁ (.error (.failure "teardown refused" 42))
      (rt₁.invoked 1 rt₁.random) none := by
  intro standIn r rt req bound rt₁ standInAt
  have built : Registry.build r.mechs none = .ok r := Registry.build_first (by decide)
  have found : r.findBound standIn.oid = .ok standInAt := rfl
  have installed : r.mechs.get standInAt = .decoy standIn := rfl
  -- the stand-in's step frames its token under its identifier
  obtain ⟨token, framed⟩ : ∃ token, Codec.encapsulate standIn.oid (Bytes.ofString "decoy") = .ok token :=
    Codec.encapsulate_ok (by rw [Bytes.ofString_eq]; decide)
  have stepped : standIn.step = .ok ⟨Status.complete, token, 0, 0, none⟩ := by
    simp only [Decoy.step, framed, Except.mapError]
    rfl
  have initRan : ((FacadeCall.init req).perform r).run.run (rt, none) =
      (.ok (), (rt₁, some bound)) := by
    rw [FacadeCall.perform, Call.run_discard, Registry.initSecContext_first r rt req found, installed]
    simp only [Mechanism.decoy, Rand.run_ofExcept, stepped]
    rfl
  have bindsFresh : ((Session.start rt).run r [.call 0 (.init req)]).handles 0 = some bound := by
    simp only [Session.run, List.foldl_cons, List.foldl_nil, Session.step, Session.start, initRan,
      if_true]
  -- a call on the bound handle does what the theorem says, for the stand-in's position
  have onBound : ∀ c res rt' after, (c.perform r).run.run (rt₁, some bound) = (res, (rt', after)) →
      BoundCall r standInAt c bound rt₁ res rt' after := by
    intro c res rt' after ran
    rw [← bindsFresh] at ran
    obtain ⟨i, -, unique, call⟩ :=
      (handles_follow_their_mechanism built rt [.call 0 (.init req)] 0 c rt₁ ran).2 bound bindsFresh
    rwa [← unique standInAt rfl] at call
  refine ⟨built, (handles_follow_their_mechanism built rt [] 0 (.init req) rt initRan).1 rfl,
    bindsFresh, onBound _ _ _ _ ?_, onBound _ _ _ _ ?_⟩
  · rw [FacadeCall.perform, Call.run_discard, Registry.wrap_bound r rt₁ false [7] found]
    rfl
  · rw [FacadeCall.perform, Call.run_discard, Registry.deleteSecContext_run found]
    rfl

end GssApi
