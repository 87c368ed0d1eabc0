import GssApi.Codec.Error
/-! Inner token tags.

Inside the outer wrapper, every token of the ticket mechanism starts with two bytes that say
what it is: `01 00` an authentication request, `02 00` its reply, `01 01` an integrity token
and `02 01` a wrapped message. -/
namespace GssApi

/-- What an inner token is. -/
inductive TokenTag where
  | apReq
  | apRep
  | mic
  | wrap
  deriving DecidableEq, Repr

namespace TokenTag

/-- The two bytes that start a token of this kind. -/
def bytes : TokenTag → Bytes
  | apReq => [0x01, 0x00]
  | apRep => [0x02, 0x00]
  | mic => [0x01, 0x01]
  | wrap => [0x02, 0x01]

/-- The kind that two leading bytes name. -/
def ofBytes? : UInt8 → UInt8 → Option TokenTag
  | 0x01, 0x00 => some apReq
  | 0x02, 0x00 => some apRep
  | 0x01, 0x01 => some mic
  | 0x02, 0x01 => some wrap
  | _, _ => none

def label : TokenTag → String
  | apReq => "ApReq"
  | apRep => "ApRep"
  | mic => "Mic"
  | wrap => "Wrap"

def ofLabel? : String → Option TokenTag
  | "ApReq" => some apReq
  | "ApRep" => some apRep
  | "Mic" => some mic
  | "Wrap" => some wrap
  | _ => none

end TokenTag

namespace Codec

/-- Remove the expected two-byte tag from the front of an inner token. -/
def stripTag (inner : Bytes) (expected : TokenTag) : Except CodecError Bytes :=
  match inner with
  | a :: b :: rest => if [a, b] = expected.bytes then .ok rest else .error (.badInnerTag a b)
  | _ => .error (.truncated 2 inner.length)

end Codec

end GssApi
