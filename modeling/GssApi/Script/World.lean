import GssApi.Script.Step
import GssApi.Krb5.Exchange.Message
/-! Running scripts.

A script starts from a random source, a clock, the ticket mechanism's settings and the
mechanisms to install; building the registry may fail, and then nothing runs. Each step then
changes the world and reports its result. A step fails without stopping the script, also when
the fault is in the step itself (an unknown name or reference, an edit out of range), and
what it changed before failing stays changed.

A step with a name to save its token under saves the token it produced, or the empty string
when it failed. Tickets are sealed with the script's cipher suite under the service key, after
the session key is made; fresh keys are made from random seed bytes of the key type's seed
length. A ticket ends 36000 seconds after the current time unless the step says otherwise. -/
namespace GssApi.Script

/-- How a script installs a mechanism. -/
inductive MechSpec where
  | krb5 (noStore : Bool)
  | decoy (oid : Oid) (failTeardown : Bool)

/-- The installed mechanism of a specification. -/
def MechSpec.install (suite : CipherSuite) (config : Krb5Config) : MechSpec → Mechanism
  | .krb5 noStore => .krb5 ⟨suite, config, if noStore then .none else .shared⟩
  | .decoy oid failTeardown => .decoy ⟨oid, failTeardown⟩

/-- A script. -/
structure Scenario where
  suite : CipherSuite := CipherSuite.standard
  random : RandomSource
  now : UInt64 := 1000000
  config : Krb5Config := {}
  mechs : List MechSpec := [.krb5 false]
  defaultMech : Option Oid := none
  steps : List Step

/-- Replace the entry under a name. -/
def put (l : List (String × α)) (k : String) (v : α) : List (String × α) :=
  (k, v) :: l.filter (·.1 != k)

/-- The state of a running script. -/
structure World where
  suite : CipherSuite
  /-- The mechanisms as the script installed them, in install order. -/
  installed : List MechSpec
  registry : Registry
  runtime : Runtime
  handles : List (String × ContextHandle) := []
  creds : List (String × Credential) := []
  services : List (String × SessionKey) := []
  tokens : List (String × Bytes) := []

/-- The lifetime of a ticket whose step gives no end time. -/
def defaultTicketLifetime : UInt64 := 36000

/-- A fresh key of a type, made from random seed bytes. -/
def freshKey (e : EncType) : Rand CryptoError SessionKey := do
  let n ← Rand.ofExcept (seedLength e)
  let seed ← drawBytes n
  Rand.ofExcept (randomToKey e seed)

/-- Steps: they change the world, or fail with a step error that keeps the changes. -/
abbrev StepM := ExceptT StepError (StateM World)

namespace StepM

/-- Fail because of the step itself. -/
def fault (msg : String) : StepM α := throw (.input msg)

def input (x : Except String α) : StepM α :=
  match x with
  | .ok a => pure a
  | .error msg => fault msg

def ofExcept (f : ε → StepError) (x : Except ε α) : StepM α :=
  match x with
  | .ok a => pure a
  | .error e => throw (f e)

def bytes (s : ByteSpec) : StepM Bytes := do
  let w ← get
  input (s.resolve fun n => w.tokens.lookup n)

def named (what : String) (l : List (String × α)) (name : String) : StepM α :=
  match l.lookup name with
  | some a => pure a
  | none => fault ("unknown " ++ what ++ " " ++ Text.quote name)

def credential (name : String) : StepM Credential := do named "credential" (← get).creds name

/-- Run a computation on the world's random source. -/
def draw (f : ε → StepError) (x : Rand ε α) : StepM α := do
  let w ← get
  let (result, random) := x.run.run w.runtime.random
  set { w with runtime := { w.runtime with random } }
  ofExcept f result

/-- A key from a key argument. -/
def key (k : KeySpec) : StepM SessionKey := do
  ofExcept .crypto (SessionKey.new k.encType (← bytes k.key))

/-- A key of a type from bytes, or fresh when none are given. -/
def keyOf (e : EncType) : Option ByteSpec → StepM SessionKey
  | some s => do ofExcept .crypto (SessionKey.new e (← bytes s))
  | none => draw .crypto (freshKey e)

/-- Run calls on a named handle. -/
def onHandle (ctx : String) (c : Registry → Call α) : StepM α := do
  let w ← get
  let (result, runtime, h) := (c w.registry).run.run (w.runtime, (w.handles.lookup ctx).getD none)
  set { w with runtime, handles := put w.handles ctx h }
  ofExcept .gss result

end StepM

open StepM in
/-- Make a ticket: seal its contents for the service, edit the blob, and keep the
initiator's copy as a credential and, when asked, in the store. -/
def makeTicket (t : TicketSpec) : StepM Outcome := do
  let sessionKey ← keyOf t.encType t.sessionKey
  let serviceKey ← match t.serviceKey with
    | .named n => do named "service" (← get).services n
    | .given k => key k
  let w ← get
  let now := w.runtime.now
  let endtime := t.endtime.getD (addSaturating now defaultTicketLifetime)
  let sealed ← draw .ap (Exchange.sealTicket w.suite serviceKey
    ⟨t.client, t.server, sessionKey, t.authtime.getD now, endtime⟩)
  let blob ← input (Edit.applyAll t.blobEdits sealed)
  let copyKey ← match t.copySessionKey with
    | some k => key k
    | none => pure sessionKey
  let copy : ServiceTicket := ⟨t.copyClient.getD t.client, t.copyServer.getD t.server, copyKey,
    t.copyEndtime.getD endtime, blob⟩
  modify fun w =>
    let store := match t.storeAs with
      | some k => w.runtime.store.insert k copy
      | none => w.runtime.store
    { w with creds := put w.creds t.name (.ofTicket copy), runtime := { w.runtime with store } }
  pure (.ticket blob copy.sessionKey copy.endtime (copy.remaining now))

open StepM in
/-- Run one step. -/
def runStep : Step → StepM Outcome
  | .clock now => do
    modify fun w => { w with runtime := { w.runtime with now } }
    pure (.clock now)
  | .rng push fail => do
    let extra ← match push with
      | some p => bytes p
      | none => pure []
    let w ← get
    let r := w.runtime.random
    -- a script fails the source from its next draw on, or makes it never fail
    let failAfter := match fail with
      | some true => some 0
      | some false => none
      | none => r.failAfter
    let random := { r with queue := r.queue ++ extra, failAfter }
    set { w with runtime := { w.runtime with random } }
    pure (.rng random.queue.length random.failing)
  | .store offline remove => do
    let w ← get
    let s := w.runtime.store
    let s := { s with offline := offline.getD s.offline }
    let store := match remove with
      | some k => s.erase k
      | none => s
    set { w with runtime := { w.runtime with store } }
    pure (.store store.names store.offline)
  | .service name principal encType spec => do
    let key ← keyOf encType spec
    let cred := Credential.ofAcceptor principal key
    modify fun w => { w with creds := put w.creds name cred, services := put w.services name key }
    pure (.service principal key cred.usage)
  | .ticket t => makeTicket t
  | .storeCred name => do
    modify fun w => { w with creds := put w.creds name .ofStore }
    pure (.credential Credential.ofStore.usage)
  | .combine name a b => do
    let c := (← credential a).combine (← credential b)
    modify fun w => { w with creds := put w.creds name c }
    pure (.combined c.usage c.mechanism)
  | .init ctx s => do
    let target ← bytes s.target
    let credential ← s.cred.mapM credential
    let bindings ← s.bindings.mapM bytes
    let inputToken ← s.input.mapM bytes
    if s.nullHandle then throw (.gss noHandle)
    let req : InitRequest :=
      ⟨credential, ⟨target, s.targetType⟩, s.mech, s.flags, s.lifetime, bindings, inputToken⟩
    .init <$> onHandle ctx (·.initSecContext req)
  | .accept ctx s => do
    let inputToken ← bytes s.input
    let credential ← s.cred.mapM credential
    let bindings ← s.bindings.mapM bytes
    if s.nullHandle then throw (.gss noHandle)
    .accept <$> onHandle ctx (·.acceptSecContext { credential, inputToken, bindings })
  | .delete ctx nullHandle => do
    if nullHandle then throw (.gss noHandle)
    .deleted <$> onHandle ctx (·.deleteSecContext)
  | .contextTime ctx => .time <$> onHandle ctx (·.contextTime)
  | .inquire ctx => .info <$> onHandle ctx (·.inquireContext)
  | .wrap ctx msg _ => do
    let message ← bytes msg
    -- scripts ask for no confidentiality, which neither installed mechanism applies
    .wrapped <$> onHandle ctx (·.wrap false message)
  | .unwrap ctx token => do
    let token ← bytes token
    .unwrapped <$> onHandle ctx (·.unwrap token)
  | .getMic ctx msg _ => do
    let message ← bytes msg
    .mic <$> onHandle ctx (·.getMic message)
  | .verifyMic ctx msg token => do
    let message ← bytes msg
    let token ← bytes token
    onHandle ctx (·.verifyMic message token)
    pure .verified
  | .mechs => do
    let r := (← get).registry
    pure (.mechs r.mechanisms.members r.defaultMech.oid (r.mechs.map Mechanism.name))
  | .find oid => do
    let r := (← get).registry
    let i ← ofExcept .gss (r.find oid)
    let m := r.mechs.get i
    pure (.found m.oid m.name)
  | .unreadable e _ _ => throw e

/-- The name a step saves its token under. -/
def Step.save? : Step → Option String
  | .init _ s => s.save
  | .accept _ s => s.save
  | .wrap _ _ save | .getMic _ _ save | .unreadable _ _ save => save
  | _ => none

/-- The token a step produced. -/
def Outcome.token : Outcome → Bytes
  | .init out | .accept out => out.step.outputToken
  | .wrapped w => w.token
  | .mic token => token
  | _ => []

namespace World

/-- The call counts of the stand-in mechanisms, when any are installed. -/
def decoyCalls (w : World) : Option (List Nat) :=
  let counts := (w.installed.zip w.runtime.calls).filterMap fun
    | (.decoy .., n) => some n
    | (.krb5 _, _) => none
  if counts.isEmpty then none else some counts

/-- Run a step and report it. -/
def report (w : World) (s : Step) : Report × World :=
  let (result, w) := (runStep s).run.run w
  let w := match s.save? with
    | some n => { w with tokens := put w.tokens n (match result with
      | .ok o => o.token
      | .error _ => []) }
    | none => w
  let handle := s.context?.map fun c => (w.handles.lookup c).getD none
  (⟨result, handle, w.decoyCalls⟩, w)

/-- Run steps in order. -/
def runAll (w : World) : List Step → List Report
  | [] => []
  | s :: rest =>
    let (r, w) := w.report s
    r :: w.runAll rest

end World

/-- The world a script starts in, or why its registry cannot be built. -/
def Scenario.start (s : Scenario) : Except GssError World := do
  let mechs := s.mechs.map (·.install s.suite s.config)
  let registry ← Registry.build mechs s.defaultMech
  let runtime : Runtime := ⟨s.now, s.random, {}, mechs.map fun _ => 0⟩
  pure { suite := s.suite, installed := s.mechs, registry, runtime }

/-- Run a script: the registry's failure, or the reports of its steps. -/
def Scenario.run (s : Scenario) : Except GssError (List Report) := do
  pure ((← s.start).runAll s.steps)

end GssApi.Script
