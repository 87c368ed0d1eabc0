import GssApi.Bytes
import GssApi.Text.Numeral
/-! Object identifiers.

An object identifier is kept as the content bytes of its DER encoding, and two identifiers
are equal exactly when those bytes are. The bytes are a sequence of subidentifiers, each
written base 128 with the high bit set on every byte but the last; the first subidentifier
packs the first two arcs as `40 * a0 + a1`.

* `Oid.arcs` reads the arcs back, refusing a subidentifier that is cut off at the end or
  that leaves 64 bits.
* `Oid.render` prints the arcs separated by dots, or `<malformed oid>`.
* `Oid.parse?` reads dotted text into the minimal encoding.
* `OidSet` is a duplicate-free list in insertion order. -/
namespace GssApi

/-- An object identifier: the non-empty content bytes of its DER encoding. -/
structure Oid where
  bytes : Bytes
  nonempty : bytes ≠ [] := by decide
  deriving DecidableEq

namespace Oid

instance : Inhabited Oid := ⟨⟨[0], by decide⟩⟩

/-- The identifier with the given content bytes, if there are any. -/
def ofBytes? (bs : Bytes) : Option Oid :=
  if h : bs = [] then none else some ⟨bs, h⟩

/-- The largest subidentifier value that may still take another base-128 digit. -/
def shiftLimit : Nat := Nat.pow 2 57 - 1

/-- Read subidentifiers into arcs. `acc` holds the arcs read so far in reverse, `value` the
digits of the subidentifier being read and `pending` whether that subidentifier has begun. -/
def arcsFrom (acc : List Nat) (value : Nat) (pending : Bool) : Bytes → Option (List Nat)
  | [] => if pending || acc.isEmpty then none else some acc.reverse
  | b :: rest =>
    if value > shiftLimit then none
    else
      let v := value * 128 + (b &&& 0x7F).toNat
      if b &&& 0x80 = 0 then
        if acc.isEmpty then
          let first := min (v / 40) 2
          arcsFrom [v - first * 40, first] 0 false rest
        else arcsFrom (v :: acc) 0 false rest
      else arcsFrom acc v true rest

/-- The arcs of the identifier, if its bytes are a complete sequence of subidentifiers that
each fit in 64 bits. -/
def arcs (o : Oid) : Option (List Nat) := arcsFrom [] 0 false o.bytes

/-- Arcs separated by dots, or `<malformed oid>` when the bytes do not read as arcs. -/
def render (o : Oid) : String :=
  match o.arcs with
  | some as => ".".intercalate (as.map toString)
  | none => "<malformed oid>"

/-- The base-128 digits of a value, least significant first. -/
def base128Digits (v : Nat) : List Nat :=
  if v < 128 then [v] else v % 128 :: base128Digits (v / 128)
decreasing_by omega

/-- The minimal base-128 encoding of one subidentifier: most significant digit first, the
high bit set on every byte but the last. -/
def encodeSubidentifier (v : Nat) : Bytes :=
  match base128Digits v with
  | [] => []
  | low :: high => (high.reverse.map fun d => UInt8.ofNat d ||| 0x80) ++ [UInt8.ofNat low]

/-- The content bytes for a list of arcs, when it names an identifier: at least two arcs, a
first arc of at most 2, a second arc below 40 unless the first is 2, and a first
subidentifier below 2^64. -/
def encodeArcs : List Nat → Option Bytes
  | a0 :: a1 :: rest =>
    if a0 > 2 ∨ (a0 < 2 ∧ a1 ≥ 40) ∨ a0 * 40 + a1 ≥ UInt64.size then none
    else some (((a0 * 40 + a1) :: rest).flatMap encodeSubidentifier)
  | _ => none

/-- Read dotted decimal text. Every part is an unsigned decimal numeral below 2^64. -/
def parse? (s : String) : Option Oid := do
  let arcs ← (s.toList.splitOn '.').mapM fun part => Text.parseU64? (String.ofList part)
  let bytes ← encodeArcs arcs
  ofBytes? bytes

/-- The identifier of the ticket mechanism, 1.2.840.113554.1.2.2. -/
def krb5 : Oid := ⟨[0x2a, 0x86, 0x48, 0x86, 0xf7, 0x12, 0x01, 0x02, 0x02], by decide⟩
/-- User names, 1.2.840.113554.1.2.1.1. -/
def ntUserName : Oid := ⟨[0x2a, 0x86, 0x48, 0x86, 0xf7, 0x12, 0x01, 0x02, 0x01, 0x01], by decide⟩
/-- Numeric user identifiers as text, 1.2.840.113554.1.2.1.3. -/
def ntStringUid : Oid := ⟨[0x2a, 0x86, 0x48, 0x86, 0xf7, 0x12, 0x01, 0x02, 0x01, 0x03], by decide⟩
/-- Host-based service names, older identifier 1.2.840.113554.1.2.1.4. -/
def ntHostbasedX : Oid := ⟨[0x2a, 0x86, 0x48, 0x86, 0xf7, 0x12, 0x01, 0x02, 0x01, 0x04], by decide⟩
/-- Host-based service names, 1.3.6.1.5.6.2. -/
def ntHostbased : Oid := ⟨[0x2b, 0x06, 0x01, 0x05, 0x06, 0x02], by decide⟩
/-- Ticket principal names, 1.2.840.113554.1.2.2.1. -/
def ntPrincipal : Oid := ⟨[0x2a, 0x86, 0x48, 0x86, 0xf7, 0x12, 0x01, 0x02, 0x02, 0x01], by decide⟩

end Oid

/-- Distinct object identifiers in the order they were first inserted. -/
structure OidSet where
  members : List Oid := []
  deriving DecidableEq

namespace OidSet

def contains (s : OidSet) (o : Oid) : Bool := s.members.contains o

/-- Add an identifier unless it is present; say whether it was added. -/
def insert (s : OidSet) (o : Oid) : OidSet × Bool :=
  if s.contains o then (s, false) else (⟨s.members ++ [o]⟩, true)

def size (s : OidSet) : Nat := s.members.length

def isEmpty (s : OidSet) : Bool := s.members.isEmpty

/-- The set of a list's identifiers, each at its first occurrence. -/
def ofList (os : List Oid) : OidSet := os.foldl (fun s o => (s.insert o).1) {}

end OidSet

end GssApi
