import GssApi.Krb5.Dispatch
import GssApi.Mech.Decoy
/-! Installed mechanisms.

A mechanism is given by its identifier, its short name and its calls, the operations of the
mechanism interface. Each call works on the state the mechanism keeps for one context and, when
it succeeds, answers with the state after it; a failed call leaves the state as it was. The
ticket mechanism and the stand-in are two such mechanisms.

A registry holds the installed mechanisms in install order and a default. Building one fails
when nothing is installed, when an identifier is installed twice, and when the requested
default is not installed; without a request the first mechanism is the default. -/
namespace GssApi

/-- A mechanism: its identifier, its short name and its calls. -/
structure Mechanism where
  oid : Oid
  name : String
  /-- One initiator step; the state is unbound on the first step. -/
  init : Environment → MechState → InitRequest → Rand GssError (MechState × StepOutput)
  /-- One acceptor step. -/
  accept : Environment → MechState → AcceptRequest → Rand GssError (MechState × StepOutput)
  /-- Release what the state holds, with a token for the peer when there is one. -/
  delete : MechState → Except GssError (Option Bytes)
  /-- The seconds the context has left. -/
  contextTime : Environment → MechState → Except GssError UInt32
  inquire : Environment → MechState → Except GssError ContextInfo
  /-- Protect a message, asked for confidentiality or not. -/
  wrap : MechState → Bool → Bytes → Rand GssError (WrapOutput × MechState)
  unwrap : MechState → Bytes → Except GssError (UnwrapOutput × MechState)
  getMic : MechState → Bytes → Except GssError (Bytes × MechState)
  verifyMic : MechState → Bytes → Bytes → Except GssError MechState

namespace Mechanism

/-- The ticket mechanism. It never applies confidentiality, so it does not read the request
for it. -/
def krb5 (m : Krb5.Mechanism) : Mechanism where
  oid := Oid.krb5
  name := "krb5"
  init := m.init
  accept := m.accept
  delete state := Prod.fst <$> Krb5.Mechanism.delete state
  contextTime := Krb5.Mechanism.contextTime
  inquire := Krb5.Mechanism.inquire
  wrap state _ message := m.wrap state message
  unwrap := m.unwrap
  getMic := m.getMic
  verifyMic := m.verifyMic

/-- The stand-in: each call answers at once and keeps the state it is given. -/
def decoy (d : Decoy) : Mechanism where
  oid := d.oid
  name := "decoy"
  init _ state _ := Rand.ofExcept ((state, ·) <$> d.step)
  accept _ state _ := Rand.ofExcept ((state, ·) <$> d.step)
  delete _ := d.delete
  contextTime _ _ := .ok Decoy.contextTime
  inquire _ _ := Decoy.inquire
  wrap state _ message := pure (⟨message, false⟩, state)
  unwrap state token := .ok (⟨token, false, 0⟩, state)
  getMic state _ := .ok ([], state)
  verifyMic state _ _ := .ok state

end Mechanism

/-- The position of the mechanism with an identifier. -/
def locate (oid : Oid) : (ms : List Mechanism) → Option (Fin ms.length)
  | [] => none
  | m :: ms => if m.oid = oid then some ⟨0, Nat.succ_pos _⟩ else (locate oid ms).map Fin.succ

/-- The first identifier that occurs after an earlier occurrence. -/
def firstRepeat (seen : List Oid) : List Oid → Option Oid
  | [] => none
  | o :: os => if seen.contains o then some o else firstRepeat (seen ++ [o]) os

/-- Installed mechanisms and the position of the default. -/
structure Registry where
  mechs : List Mechanism
  default : Fin mechs.length

namespace Registry

def build (mechs : List Mechanism) (default? : Option Oid) : Except GssError Registry :=
  match mechs with
  | [] => .error (.config "no mechanisms installed")
  | m :: rest =>
    match firstRepeat [] ((m :: rest).map Mechanism.oid) with
    | some o => .error (.config ("mechanism " ++ o.render ++ " installed twice"))
    | none =>
      match default? with
      | none => .ok ⟨m :: rest, ⟨0, Nat.succ_pos _⟩⟩
      | some oid => match locate oid (m :: rest) with
        | some i => .ok ⟨m :: rest, i⟩
        | none => .error (.badMech oid)

/-- The installed mechanism with an identifier. -/
def findBound (r : Registry) (oid : Oid) : Except GssError (Fin r.mechs.length) :=
  match locate oid r.mechs with
  | some i => .ok i
  | none => .error (.badMech oid)

/-- The mechanism asked for, or the default. -/
def find (r : Registry) : Option Oid → Except GssError (Fin r.mechs.length)
  | none => .ok r.default
  | some oid => r.findBound oid

def defaultMech (r : Registry) : Mechanism := r.mechs.get r.default

/-- The identifiers of the installed mechanisms. -/
def mechanisms (r : Registry) : OidSet := OidSet.ofList (r.mechs.map Mechanism.oid)

end Registry

end GssApi
