import GssApi.Bytes
/-! The n-fold operation of RFC 3961.

n-fold stretches or shrinks a byte string to `n` bytes: copies of the input, each rotated 13
bits further right than the one before, are laid end to end up to the least common multiple
of the two lengths, cut into `n`-byte pieces, and added with end-around carry. It is computed
here one output byte at a time, from the last byte of the least common multiple to the first,
taking each input byte from the rotated copy it falls in; a carry left over at the end is
added around once more. An empty input or an empty output gives `n` zero bytes. -/
namespace GssApi

namespace NFold

/-- The byte of the laid-out rotated copies at position `i`. -/
def laidOut (input : Array Nat) (inLen i : Nat) : Nat :=
  let inBits := inLen * 8
  let msbit := ((inBits - 1) + (inBits + 13) * (i / inLen) + (inLen - i % inLen) * 8) % inBits
  let hi := input.getD (((inLen - 1) - msbit / 8) % inLen) 0
  let lo := input.getD ((inLen - msbit / 8) % inLen) 0
  ((hi * 256 + lo) >>> (msbit % 8 + 1)) % 256

/-- Add positions `count - 1` down to 0 of the laid-out copies into the output, carrying
from each output byte into the one before it. -/
def addAll (input : Array Nat) (inLen outLen : Nat) :
    Nat → Array Nat → Nat → Array Nat × Nat
  | 0, out, carry => (out, carry)
  | count + 1, out, carry =>
    let sum := carry + laidOut input inLen count + out.getD (count % outLen) 0
    addAll input inLen outLen count (out.setIfInBounds (count % outLen) (sum % 256)) (sum / 256)

/-- Add a final carry into the output, from its last byte to its first. -/
def addCarry (out : List Nat) (carry : Nat) : List Nat :=
  (out.reverse.foldl (fun (acc, c) b => ((c + b) % 256 :: acc, (c + b) / 256)) ([], carry)).1

end NFold

/-- The n-fold of `input` to `outLen` bytes. -/
def nfold (input : Bytes) (outLen : Nat) : Bytes :=
  let inLen := input.length
  if inLen = 0 ∨ outLen = 0 then List.replicate outLen 0
  else
    let lcm := inLen / Nat.gcd inLen outLen * outLen
    let (out, carry) := NFold.addAll (input.map UInt8.toNat).toArray inLen outLen lcm
      (Array.replicate outLen 0) 0
    let out := if carry = 0 then out.toList else NFold.addCarry out.toList carry
    out.map UInt8.ofNat

end GssApi
