import GssApi.Codec.Frame
/-! Edits of byte strings.

Tests of token handling start from a good token and change it: flip or set a byte, cut it
short, drop its front, extend it, edit the inner token inside its wrapper, or frame the
inner token under another mechanism. An edit that addresses a byte outside the string, or
that needs a wrapper the string does not have, is refused with a description. -/
namespace GssApi.Script

/-- One change to a byte string. Offsets below zero count from the end. -/
inductive Edit where
  | xor (offset : Int) (value : UInt8)
  | set (offset : Int) (value : UInt8)
  /-- Keep at most the first `n` bytes. -/
  | truncate (n : Nat)
  /-- Remove at most the first `n` bytes. -/
  | drop (n : Nat)
  | append (tail : Bytes)
  /-- Apply edits to the inner token and frame it again under the same mechanism. -/
  | inner (edits : List Edit)
  /-- Frame the inner token under another mechanism. -/
  | reframe (mech : Oid)

/-- The position an offset addresses in a string of length `len`. -/
def position? (len : Nat) (offset : Int) : Option Nat :=
  let p := if offset < 0 then len + offset else offset
  if 0 ≤ p ∧ p < len then some p.toNat else none

/-- Change the byte at an offset. -/
def modifyAt (bs : Bytes) (offset : Int) (f : UInt8 → UInt8) : Except String Bytes :=
  match position? bs.length offset with
  | some p => .ok (bs.modify p f)
  | none => .error ("edit offset " ++ toString offset ++ " out of range for length " ++
      toString bs.length)

/-- Take a string out of its wrapper, as an edit needs it. -/
def unframe (bs : Bytes) : Except String Unframed :=
  match Codec.decapsulate bs with
  | .ok u => .ok u
  | .error e => .error e.message

/-- Put an inner token into a wrapper, as an edit needs it. -/
def frame (mech : Oid) (inner : Bytes) : Except String Bytes :=
  match Codec.encapsulate mech inner with
  | .ok t => .ok t
  | .error e => .error e.message

mutual

/-- Apply one edit. -/
def Edit.apply : Edit → Bytes → Except String Bytes
  | .xor offset v, bs => modifyAt bs offset (· ^^^ v)
  | .set offset v, bs => modifyAt bs offset (fun _ => v)
  | .truncate n, bs => .ok (bs.take n)
  | .drop n, bs => .ok (bs.drop n)
  | .append tail, bs => .ok (bs ++ tail)
  | .inner edits, bs => do
    let u ← unframe bs
    let inner ← Edit.applyAll edits u.inner
    frame u.mech inner
  | .reframe mech, bs => do
    let u ← unframe bs
    frame mech u.inner

/-- Apply edits in order. -/
def Edit.applyAll : List Edit → Bytes → Except String Bytes
  | [], bs => .ok bs
  | e :: es, bs => do Edit.applyAll es (← e.apply bs)

end

/-- `n` copies of a byte string, one after another. -/
def repeatBytes (n : Nat) (bs : Bytes) : Bytes := (List.replicate n bs).flatten

end GssApi.Script
