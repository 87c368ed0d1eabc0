import GssApi.Crypto.Error
import GssApi.Bytes
/-! A reproducible random source.

Confounders, initial sequence numbers and fresh keys are drawn from a `RandomSource`: first
from a queue of given bytes, then from a 64-bit linear congruential generator whose top byte
is taken after each step. A source may be set to fail after a number of successful draws:
from then on it refuses every draw and consumes nothing. Operations that draw run in `Rand ε`,
which threads the source through and keeps the draws already made when a later step fails. -/
namespace GssApi

/-- Where random bytes come from. -/
structure RandomSource where
  /-- Bytes handed out before the generator is used. -/
  queue : List UInt8 := []
  /-- The generator state. -/
  state : UInt64 := 0
  /-- How many more draws succeed before every draw fails; `none` for a source that never
  fails. -/
  failAfter : Option Nat := none
  deriving DecidableEq, Inhabited

namespace RandomSource

/-- Whether some draw from the source fails. -/
def failing (r : RandomSource) : Bool := r.failAfter.isSome

/-- The source after a successful draw: one draw fewer before it fails. -/
def spend (r : RandomSource) : RandomSource := { r with failAfter := r.failAfter.map (· - 1) }

/-- The multiplier and increment of the generator. -/
def multiplier : UInt64 := 6364136223846793005
def increment : UInt64 := 1442695040888963407

/-- The next byte and the source after it. -/
def next (r : RandomSource) : UInt8 × RandomSource :=
  match r.queue with
  | b :: rest => (b, { r with queue := rest })
  | [] =>
    let s := r.state * multiplier + increment
    ((s >>> 56).toUInt8, { r with state := s })

/-- The next `n` bytes, in order, and the source after them. -/
def take : Nat → RandomSource → Bytes × RandomSource
  | 0, r => ([], r)
  | n + 1, r =>
    let (b, r) := r.next
    let (bs, r) := take n r
    (b :: bs, r)

end RandomSource

/-- Computations that draw from a random source and may fail with an `ε`. The source is
kept, with the draws made so far, whether or not the computation fails. -/
abbrev Rand (ε : Type) := ExceptT ε (StateM RandomSource)

/-- Draw `n` random bytes; a source whose draws have run out refuses without consuming
anything. -/
def drawBytes (n : Nat) : Rand CryptoError Bytes := do
  let r ← get
  if r.failAfter = some 0 then throw (.rng "injected failure")
  let (bs, r) := r.take n
  set r.spend
  pure bs

/-- Run a computation with errors of another kind. -/
def Rand.mapError (f : ε → ε') (x : Rand ε α) : Rand ε' α := ExceptT.adapt f x

/-- Run a computation that cannot draw. -/
def Rand.ofExcept (x : Except ε α) : Rand ε α := ExceptT.mk (pure x)

end GssApi
