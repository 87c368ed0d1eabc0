import GssApi.Bytes
/-! Status words of the generic security service interface.

A call reports a *major* routine outcome, a mechanism-specific *minor* code, a set of
*supplementary* bits about token ordering, and possibly a *calling error* about the call's
own parameters. The legacy 32-bit word packs the calling error into bits 24 to 31, the
routine outcome into bits 16 to 23 and the supplementary bits into bits 0 to 15; the
minor code travels beside it. `Status.ofLegacy` reads a word back and refuses calling and
routine fields that name nothing. -/
namespace GssApi

/-- The routine outcome of a call. `continueNeeded` shares routine code 0 with `complete`
and is told apart by the continuation supplementary bit. -/
inductive Major where
  | complete
  | continueNeeded
  | badMech
  | badName
  | badNameType
  | badBindings
  | badStatus
  | badMic
  | noCred
  | noContext
  | defectiveToken
  | defectiveCredential
  | credentialsExpired
  | contextExpired
  | failure
  | badQop
  | unauthorized
  | unavailable
  | duplicateElement
  | nameNotMn
  deriving DecidableEq, Repr, Inhabited

namespace Major

/-- Every routine outcome, in the order of their routine codes. -/
def all : List Major :=
  [complete, continueNeeded, badMech, badName, badNameType, badBindings, badStatus, badMic,
    noCred, noContext, defectiveToken, defectiveCredential, credentialsExpired, contextExpired,
    failure, badQop, unauthorized, unavailable, duplicateElement, nameNotMn]

/-- The routine error field of the legacy word; both non-error outcomes have code 0. -/
def routineCode : Major → UInt32
  | complete => 0
  | continueNeeded => 0
  | badMech => 1
  | badName => 2
  | badNameType => 3
  | badBindings => 4
  | badStatus => 5
  | badMic => 6
  | noCred => 7
  | noContext => 8
  | defectiveToken => 9
  | defectiveCredential => 10
  | credentialsExpired => 11
  | contextExpired => 12
  | failure => 13
  | badQop => 14
  | unauthorized => 15
  | unavailable => 16
  | duplicateElement => 17
  | nameNotMn => 18

/-- The outcome a routine code names: code 0 is `complete`, codes 1 to 18 are the errors. -/
def ofRoutineCode (code : UInt32) : Option Major := all.find? (·.routineCode = code)

/-- Every outcome other than completion and continuation is an error. -/
def isError : Major → Bool
  | complete | continueNeeded => false
  | _ => true

/-- The name of the outcome, as it is printed in reports. -/
def label : Major → String
  | complete => "Complete"
  | continueNeeded => "ContinueNeeded"
  | badMech => "BadMech"
  | badName => "BadName"
  | badNameType => "BadNameType"
  | badBindings => "BadBindings"
  | badStatus => "BadStatus"
  | badMic => "BadMic"
  | noCred => "NoCred"
  | noContext => "NoContext"
  | defectiveToken => "DefectiveToken"
  | defectiveCredential => "DefectiveCredential"
  | credentialsExpired => "CredentialsExpired"
  | contextExpired => "ContextExpired"
  | failure => "Failure"
  | badQop => "BadQop"
  | unauthorized => "Unauthorized"
  | unavailable => "Unavailable"
  | duplicateElement => "DuplicateElement"
  | nameNotMn => "NameNotMn"

/-- The outcome with the given printed name. -/
def ofLabel? (s : String) : Option Major := all.find? (·.label = s)

/-- The sentence that describes the outcome. -/
def description : Major → String
  | complete => "No error"
  | continueNeeded => "Continuation call to routine required"
  | badMech => "An unsupported mechanism was requested"
  | badName => "An invalid name was supplied"
  | badNameType => "A supplied name was of an unsupported type"
  | badBindings => "Incorrect channel bindings were supplied"
  | badStatus => "An invalid status code was supplied"
  | badMic => "A token had an invalid Message Integrity Check (MIC)"
  | noCred =>
    "No credentials were supplied, or the credentials were unavailable or inaccessible"
  | noContext => "No context has been established"
  | defectiveToken => "Invalid token was supplied"
  | defectiveCredential => "Invalid credential was supplied"
  | credentialsExpired => "The referenced credentials have expired"
  | contextExpired => "The referenced context has expired"
  | failure => "Unspecified error in underlying mechanism"
  | badQop => "The quality-of-protection requested could not be provided"
  | unauthorized => "The operation is forbidden by local security policy"
  | unavailable => "The operation or option is unavailable"
  | duplicateElement => "The requested credential element already exists"
  | nameNotMn => "The provided name was not a mechanism name"

end Major

/-- A fault in the parameters of the call itself, reported in the calling error field. -/
inductive CallError where
  | inaccessibleRead
  | inaccessibleWrite
  | badStructure
  deriving DecidableEq, Repr, Inhabited

namespace CallError

def code : CallError → UInt32
  | inaccessibleRead => 1
  | inaccessibleWrite => 2
  | badStructure => 3

def ofCode? : UInt32 → Option CallError
  | 1 => some inaccessibleRead
  | 2 => some inaccessibleWrite
  | 3 => some badStructure
  | _ => none

def label : CallError → String
  | inaccessibleRead => "InaccessibleRead"
  | inaccessibleWrite => "InaccessibleWrite"
  | badStructure => "BadStructure"

def ofLabel? : String → Option CallError
  | "InaccessibleRead" => some inaccessibleRead
  | "InaccessibleWrite" => some inaccessibleWrite
  | "BadStructure" => some badStructure
  | _ => none

def description : CallError → String
  | inaccessibleRead => "A required input parameter could not be read"
  | inaccessibleWrite => "A required output parameter could not be written"
  | badStructure => "A parameter was malformed"

end CallError

/-! Supplementary bits of a status word. -/
namespace Supplementary

/-- A continuation call is required. -/
def continueNeeded : UInt16 := 1
/-- The token was a duplicate of one already received. -/
def duplicateToken : UInt16 := 2
/-- The token is older than the newest one accepted. -/
def oldToken : UInt16 := 4
/-- A later token has already been received. -/
def unseqToken : UInt16 := 8
/-- An expected token was not received. -/
def gapToken : UInt16 := 16

/-- The ordering notes printed after a status, one per bit, in this order. -/
def notes : List (UInt16 × String) :=
  [(duplicateToken, "duplicate token"), (oldToken, "old token"),
    (unseqToken, "out-of-sequence token"), (gapToken, "gap in token sequence")]

def has (bits flag : UInt16) : Bool := bits &&& flag != 0

end Supplementary

/-- The full outcome of a call. -/
structure Status where
  major : Major
  minor : UInt32
  supplementary : UInt16 := 0
  callError : Option CallError := none
  deriving DecidableEq, Repr, Inhabited

namespace Status

def new (major : Major) (minor : UInt32) : Status := { major, minor }

def complete : Status := new .complete 0

/-- Continuation: the routine outcome and the continuation bit together. -/
def continueNeeded : Status :=
  { major := .continueNeeded, minor := 0, supplementary := Supplementary.continueNeeded }

def withCallError (s : Status) (c : CallError) : Status := { s with callError := some c }

/-- Set supplementary bits in addition to those already set. -/
def setBits (s : Status) (flag : UInt16) : Status :=
  { s with supplementary := s.supplementary ||| flag }

/-- A status is an error when its routine outcome is, or when the call itself was faulty. -/
def isError (s : Status) : Bool := s.major.isError || s.callError.isSome

def isContinueNeeded (s : Status) : Bool :=
  Supplementary.has s.supplementary Supplementary.continueNeeded

/-- The legacy word: calling error, routine code and supplementary bits side by side. -/
def toLegacy (s : Status) : UInt32 :=
  ((s.callError.map CallError.code).getD 0 <<< 24) ||| (s.major.routineCode <<< 16)
    ||| s.supplementary.toUInt32

/-- Read a legacy word. A calling field above 3 or a routine field above 18 names nothing;
a completion whose continuation bit is set reads as `continueNeeded`. -/
def ofLegacy (word minor : UInt32) : Option Status := do
  let calling := word >>> 24
  let callError ← if calling = 0 then pure none else (CallError.ofCode? calling).map some
  let routine ← Major.ofRoutineCode ((word >>> 16) &&& 0xFF)
  let bits := (word &&& 0xFFFF).toUInt16
  let major :=
    if routine = .complete ∧ Supplementary.has bits Supplementary.continueNeeded then
      Major.continueNeeded
    else routine
  pure { major, minor, supplementary := bits, callError }

/-- The description, then the calling error, then the ordering notes, then the minor code
when it is not zero. -/
def render (s : Status) : String :=
  let call := match s.callError with
    | some c => "; " ++ c.description
    | none => ""
  let notes := Supplementary.notes.foldl
    (fun acc (bit, note) => if Supplementary.has s.supplementary bit then acc ++ "; " ++ note
      else acc) ""
  let minor := if s.minor = 0 then "" else " (minor " ++ toString s.minor ++ ")"
  s.major.description ++ call ++ notes ++ minor

end Status

end GssApi
