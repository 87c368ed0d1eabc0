import GssApi.Status
import GssApi.Codec.Error
import GssApi.Crypto.Error
/-! Errors of the security service.

A `GssError` names the cause of a failed call. Each cause maps to the routine outcome and
minor code of the status it reports: wrapped token faults are defective tokens, and wrapped
cryptographic, configuration and input/output faults are mechanism failures. An
input/output fault reports the system's error number, when it has one, as its minor code. -/
namespace GssApi

/-- A fault of the operating system: its text and the system's error number, when the system
gave one. -/
structure IoError where
  text : String
  osCode : Option Int32 := none
  deriving DecidableEq

/-- Why a call of the security service failed. -/
inductive GssError where
  /-- A fault in the call's own parameters, reported with a routine outcome. -/
  | call (call : CallError) (major : Major)
  | badMech (oid : Oid)
  | badName (reason : String) (minor : UInt32)
  | badNameType (oid : Oid)
  | badBindings
  | badMic (reason : String) (minor : UInt32)
  | noCred (reason : String) (minor : UInt32)
  | noContext (reason : String) (minor : UInt32)
  | defectiveToken (err : CodecError)
  | contextExpired
  | failure (reason : String) (minor : UInt32)
  | unavailable (what : String)
  | crypto (err : CryptoError)
  | config (reason : String)
  | io (err : IoError)
  deriving DecidableEq

namespace GssError

def inaccessibleRead (major : Major) : GssError := .call .inaccessibleRead major
def badStructure (major : Major) : GssError := .call .badStructure major

/-- The variant's name, as reports name it; wrapped faults add their own variant. -/
def kind : GssError → String
  | .call .. => "Call"
  | .badMech .. => "BadMech"
  | .badName .. => "BadName"
  | .badNameType .. => "BadNameType"
  | .badBindings => "BadBindings"
  | .badMic .. => "BadMic"
  | .noCred .. => "NoCred"
  | .noContext .. => "NoContext"
  | .defectiveToken e => "DefectiveToken." ++ e.kind
  | .contextExpired => "ContextExpired"
  | .failure .. => "Failure"
  | .unavailable .. => "Unavailable"
  | .crypto e => "Crypto." ++ e.kind
  | .config .. => "Config"
  | .io .. => "Io"

def message : GssError → String
  | .call c _ => "Call error: " ++ c.description
  | .badMech o => "Unsupported mechanism: " ++ o.render
  | .badName r _ => "Invalid name: " ++ r
  | .badNameType o => "Unsupported name type: " ++ o.render
  | .badBindings => "Channel bindings are not supported"
  | .badMic r _ => "Bad MIC: " ++ r
  | .noCred r _ => "No credential: " ++ r
  | .noContext r _ => "No context: " ++ r
  | .defectiveToken e => "Defective token: " ++ e.message
  | .contextExpired => "Context expired"
  | .failure r _ => "Failure: " ++ r
  | .unavailable w => "Unavailable: " ++ w
  | .crypto e => "Crypto error: " ++ e.message
  | .config r => "Config error: " ++ r
  | .io e => "IO error: " ++ e.text

/-- The wrapped fault's own wording, for the causes that wrap one. -/
def source? : GssError → Option String
  | .defectiveToken e => some e.message
  | .crypto e => some e.message
  | .io e => some e.text
  | _ => none

/-- The routine outcome a cause reports. -/
def major : GssError → Major
  | .call _ m => m
  | .badMech .. => .badMech
  | .badName .. => .badName
  | .badNameType .. => .badNameType
  | .badBindings => .badBindings
  | .badMic .. => .badMic
  | .noCred .. => .noCred
  | .noContext .. => .noContext
  | .defectiveToken .. => .defectiveToken
  | .contextExpired => .contextExpired
  | .failure .. => .failure
  | .unavailable .. => .unavailable
  | .crypto .. => .failure
  | .config .. => .failure
  | .io .. => .failure

/-- The minor code a cause carries; an input/output fault carries the bits of the system's
error number, and causes without one report 0. -/
def minor : GssError → UInt32
  | .badName _ m | .badMic _ m | .noCred _ m | .noContext _ m | .failure _ m => m
  | .io e => (e.osCode.map Int32.toUInt32).getD 0
  | _ => 0

/-- The status a failed call reports. -/
def status (e : GssError) : Status :=
  let s := Status.new e.major e.minor
  match e with
  | .call c _ => s.withCallError c
  | _ => s

end GssError

namespace Oid

/-- The identifier with the given content bytes; empty content names none. -/
def ofDer (bs : Bytes) : Except GssError Oid :=
  match ofBytes? bs with
  | some o => .ok o
  | none => .error (.failure "empty object identifier" 0)

/-- Read dotted decimal text, reporting the text when it names no identifier. -/
def ofDotted (s : String) : Except GssError Oid :=
  match parse? s with
  | some o => .ok o
  | none => .error (.failure ("malformed object identifier: " ++ s) 0)

end Oid

end GssApi
