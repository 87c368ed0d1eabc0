import GssApi.Cli.Args
import GssApi.Context.Calls
import GssApi.Config.Settings
import GssApi.Text.Base64
/-! The self test of the `gss` tool.

The self test sets up a realm "LOCALHOST" whose keys have the chosen profile's key type and
whose tickets last the configured default lifetime, registers the service
"host/localhost", and installs the ticket mechanism with the realm as its ticket source. An
initiator then authenticates to "host@localhost" asking for integrity and sequencing (and
mutual authentication when asked), the acceptor accepts with the service's credential, and
the initiator reads the reply when one is due. The initiator wraps a message that the
acceptor must unwrap unchanged, the acceptor signs it and the initiator verifies the
signature. The test prints each token (its length, mechanism and base64 text), then the
initiator's mechanism, flags, lifetime and whether confidentiality was applied, deletes both
contexts and reports success. The first failure ends the test with exit code 1. -/
namespace GssApi.Cli

/-- The state of a running self test: the runtime, both handles and the text printed. -/
structure Session where
  runtime : Runtime
  initiator : ContextHandle := none
  acceptor : ContextHandle := none
  printed : String := ""

/-- Self-test steps, which fail with the text of the error. -/
abbrev SelfTest := ExceptT String (StateM Session)

namespace SelfTest

def say (line : String) : SelfTest Unit := modify fun s => { s with printed := s.printed ++ line ++ "\n" }

def ofGss (x : Except GssError α) : SelfTest α :=
  match x with
  | .ok a => pure a
  | .error e => throw e.message

def onInitiator (c : Call α) : SelfTest α := do
  let s ← get
  let (result, runtime, initiator) := c.run.run (s.runtime, s.initiator)
  set { s with runtime, initiator }
  ofGss result

def onAcceptor (c : Call α) : SelfTest α := do
  let s ← get
  let (result, runtime, acceptor) := c.run.run (s.runtime, s.acceptor)
  set { s with runtime, acceptor }
  ofGss result

def draw (x : Rand GssError α) : SelfTest α := do
  let s ← get
  let (result, random) := x.run.run s.runtime.random
  set { s with runtime := { s.runtime with random } }
  ofGss result

/-- Print a token's length, mechanism and base64 text. -/
def sayToken (label : String) (token : Bytes) : SelfTest Unit := do
  let mech := ((Codec.detectMech token).map Oid.render).getD "-"
  say (label ++ " (" ++ toString token.length ++ " bytes, mech " ++ mech ++ "):")
  say ("  " ++ Text.base64 token)

end SelfTest

/-- The message the self test wraps and signs. -/
def selftestMessage : Bytes := Bytes.ofString "gss selftest message"

def Profile.encType : Profile → EncType
  | .des => .desCbcMd5
  | .des3 => .des3CbcSha1Kd

open SelfTest in
/-- The steps of the self test. -/
def selftestSteps (config : Config) (mutualAuth : Bool) (profile : Profile) : SelfTest Unit := do
  let realm : Krb5.Realm := { Krb5.Realm.new "LOCALHOST" with
    encType := profile.encType, lifetime := config.krb5.defaultLifetime }
  let (service, realm) ← draw (realm.addService "host/localhost")
  let registry ← ofGss (Registry.build [.krb5 ⟨CipherSuite.standard, config.krb5, .realm realm⟩] none)
  let target : Name := ⟨Bytes.ofString "host@localhost", Oid.ntHostbased⟩
  let flags := ContextFlags.integrity ||| ContextFlags.sequencing |||
    (if mutualAuth then ContextFlags.mutualAuth else 0)
  let request ← onInitiator (registry.initSecContext { target, flags })
  sayToken "Authentication request" request.step.outputToken
  let reply ← onAcceptor (registry.acceptSecContext
    { credential := some service, inputToken := request.step.outputToken })
  if request.step.status.isContinueNeeded then
    sayToken "Authentication reply" reply.step.outputToken
    let _ ← onInitiator (registry.initSecContext
      { target, flags, inputToken := some reply.step.outputToken })
  let wrapped ← onInitiator (registry.wrap true selftestMessage)
  sayToken "Wrap token" wrapped.token
  let unwrapped ← onAcceptor (registry.unwrap wrapped.token)
  if unwrapped.message ≠ selftestMessage then throw "unwrapped message differs"
  let mic ← onAcceptor (registry.getMic selftestMessage)
  sayToken "MIC token" mic
  onInitiator (registry.verifyMic selftestMessage mic)
  let info ← onInitiator registry.inquireContext
  say ("Mechanism:      " ++ info.mech.render)
  say ("Flags:          0x" ++ hexPadded 4 info.flags.toNat)
  let lifetime ← onInitiator registry.contextTime
  say ("Lifetime:       " ++ toString lifetime.toNat ++ "s")
  say ("Confidential:   " ++ toString wrapped.confApplied)
  let _ ← onInitiator registry.deleteSecContext
  let _ ← onAcceptor registry.deleteSecContext
  say "Selftest passed"

/-- Run the self test at a time with a random source. -/
def selftestOutput (config : Config) (now : UInt64) (random : RandomSource) (mutualAuth : Bool)
    (profile : Profile) : Output :=
  let (result, s) := (selftestSteps config mutualAuth profile).run.run
    { runtime := ⟨now, random, {}, [0]⟩ }
  match result with
  | .ok () => { code := 0, stdout := s.printed }
  | .error e => { code := 1, stdout := s.printed, stderr := "Error: " ++ e ++ "\n" }

end GssApi.Cli
