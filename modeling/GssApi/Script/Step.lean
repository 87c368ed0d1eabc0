import GssApi.Script.Spec
import GssApi.Context.Calls
import GssApi.Krb5.Exchange.Error
/-! The steps of a script and what they report.

A script drives the library like a test does: it sets the clock and the random source, takes
the ticket store offline, makes service keys, tickets and credentials, and calls the context
functions on named handles. Credentials, service keys, saved tokens and handles each have
their own names. A step that could not be read stays in the script, with the handle it names
and the name it saves a token under, and fails when its turn comes. -/
namespace GssApi.Script

/-- Where a ticket's service key comes from. -/
inductive ServiceKeySource where
  /-- The key of a service made by an earlier step. -/
  | named (name : String)
  | given (key : KeySpec)

/-- How to make a ticket. -/
structure TicketSpec where
  name : String
  client : String
  server : String
  encType : EncType := .des3CbcSha1Kd
  /-- The session key bytes; random when absent. -/
  sessionKey : Option ByteSpec := none
  serviceKey : ServiceKeySource
  authtime : Option UInt64 := none
  endtime : Option UInt64 := none
  blobEdits : List Edit := []
  /-- Changes to the initiator's copy of the ticket. -/
  copyClient : Option String := none
  copyServer : Option String := none
  copyEndtime : Option UInt64 := none
  copySessionKey : Option KeySpec := none
  /-- The store key under which the initiator's copy is also stored. -/
  storeAs : Option String := none

/-- An initiator call. -/
structure InitSpec where
  target : ByteSpec
  targetType : Oid
  cred : Option String := none
  mech : Option Oid := none
  flags : UInt32 := 0
  lifetime : Option UInt32 := none
  bindings : Option ByteSpec := none
  input : Option ByteSpec := none
  nullHandle : Bool := false
  save : Option String := none

/-- An acceptor call. -/
structure AcceptSpec where
  input : ByteSpec
  cred : Option String := none
  bindings : Option ByteSpec := none
  nullHandle : Bool := false
  save : Option String := none

/-- Why a step failed: a call of the library, a key operation, a sealing operation, or the
step itself, which cannot be read, names something never defined or edits bytes out of
range. -/
inductive StepError where
  | gss (e : GssError)
  | crypto (e : CryptoError)
  | ap (e : ApError)
  | input (reason : String)

/-- One step of a script. -/
inductive Step where
  | clock (now : UInt64)
  | rng (push : Option ByteSpec) (fail : Option Bool)
  | store (offline : Option Bool) (remove : Option String)
  | service (name principal : String) (encType : EncType) (key : Option ByteSpec)
  | ticket (spec : TicketSpec)
  | storeCred (name : String)
  | combine (name a b : String)
  | init (ctx : String) (spec : InitSpec)
  | accept (ctx : String) (spec : AcceptSpec)
  | delete (ctx : String) (nullHandle : Bool)
  | contextTime (ctx : String)
  | inquire (ctx : String)
  | wrap (ctx : String) (msg : ByteSpec) (save : Option String)
  | unwrap (ctx : String) (token : ByteSpec)
  | getMic (ctx : String) (msg : ByteSpec) (save : Option String)
  | verifyMic (ctx : String) (msg token : ByteSpec)
  | mechs
  | find (oid : Option Oid)
  /-- A step that could not be read, with the fault it fails with and the handle and save
  names it gives. -/
  | unreadable (fault : StepError) (ctx save : Option String)

/-- The handle a step works on, if any. -/
def Step.context? : Step → Option String
  | .init ctx _ | .accept ctx _ | .delete ctx _ | .contextTime ctx | .inquire ctx
  | .wrap ctx _ _ | .unwrap ctx _ | .getMic ctx _ _ | .verifyMic ctx _ _ => some ctx
  | .unreadable _ ctx _ => ctx
  | _ => none

/-- What a successful step reports. -/
inductive Outcome where
  | clock (now : UInt64)
  | rng (queued : Nat) (fail : Bool)
  | store (keys : List String) (offline : Bool)
  | service (principal : String) (key : SessionKey) (usage : CredUsage)
  | ticket (blob : Bytes) (sessionKey : SessionKey) (endtime remaining : UInt64)
  | credential (usage : CredUsage)
  | combined (usage : CredUsage) (mech : Oid)
  | init (out : EstablishOutput)
  | accept (out : EstablishOutput)
  | deleted (token : Option Bytes)
  | time (secs : UInt32)
  | info (i : ContextInfo)
  | wrapped (w : WrapOutput)
  | unwrapped (u : UnwrapOutput)
  | mic (token : Bytes)
  | verified
  | mechs (oids : List Oid) (default : Oid) (names : List String)
  | found (oid : Oid) (name : String)

/-- The report of one step: its result, the state of its handle afterwards when it works on
one, and the call counts of the stand-in mechanisms when any are installed. -/
structure Report where
  result : Except StepError Outcome
  handle : Option ContextHandle
  calls : Option (List Nat)

end GssApi.Script
