import GssApi.Proofs.Sealing
import GssApi.Proofs.Unframing
import Mathlib.Tactic.Linarith
import Mathlib.Tactic.Ring

/-! The n-fold of RFC 3961.

RFC 3961 defines the n-fold of an input `x` to `n` bytes on bit strings: take `lcm |x| n`
bytes made of copies of `x`, copy `j` rotated right by `13 j` bits, cut them into chunks of
`n` bytes, and add the chunks as numbers with end-around carry. `rfcNFold` states that
definition on its own. `nfold` computes it one byte at a time instead, from the last byte of
the copies to the first, adding each into its place in the output with a carry that runs
from one output byte into the one before it and from the first back round to the last.

The proof follows that loop. `laidOut_eq` says the byte the loop reads at each position is the
byte of the rotated copies there. `addAll_chunk` says that going once round the output adds one
chunk as a number, with the carry out of the top; `endAround_carry` says that carry added back
at the bottom is end-around addition. `addAll_run` puts the chunks together by induction. Main
statement: `nfold_is_rfc_nfold`. -/
namespace GssApi

open Bytes

namespace NFold

/-- `v` rotated right by `r` bits as a `width`-bit string: its low `r % width` bits move to the
top. -/
def rotateRight (width r v : Nat) : Nat :=
  v / 2 ^ (r % width) + v % 2 ^ (r % width) * 2 ^ (width - r % width)

/-- `count` copies of `x` laid end to end, copy `j` rotated right by `13 j` bits as an
`8 |x|`-bit string. -/
def rotatedCopies (x : Bytes) (count : Nat) : Bytes :=
  (List.range count).flatMap fun j =>
    beOfNat x.length (rotateRight (8 * x.length) (13 * j) (beToNat x))

/-- `bytes` cut into `count` chunks of `n` bytes, each read as a big-endian number. -/
def chunkValues (n count : Nat) (bytes : Bytes) : List Nat :=
  (List.range count).map fun k => beToNat ((bytes.drop (k * n)).take n)

/-- What lies at or above `2 ^ width` is one more than what lies `2 ^ width - 1` below it. -/
theorem fold_lt {width s : Nat} (big : ¬(s < 2 ^ width ∨ width = 0)) :
    s % 2 ^ width + s / 2 ^ width < s := by
  have atLeastTwo : 2 ≤ 2 ^ width := Nat.le_self_pow (by omega) 2
  have split := Nat.mod_add_div s (2 ^ width)
  have several : 1 ≤ s / 2 ^ width := (Nat.one_le_div_iff (by omega)).mpr (by omega)
  have : s / 2 ^ width < 2 ^ width * (s / 2 ^ width) := by nlinarith
  omega

/-- Addition with end-around carry at `width` bits: what lies above the width is added back
onto the low bits until the sum fits. -/
def endAround (width s : Nat) : Nat :=
  if big : s < 2 ^ width ∨ width = 0 then s
  else endAround width (s % 2 ^ width + s / 2 ^ width)
termination_by s
decreasing_by exact fold_lt big

end NFold

/-- The n-fold of `x` to `n` bytes as RFC 3961 defines it; an empty input or output gives `n`
zero bytes. -/
def rfcNFold (x : Bytes) (n : Nat) : Bytes :=
  if x = [] ∨ n = 0 then List.replicate n 0
  else
    let common := Nat.lcm x.length n
    beOfNat n (NFold.endAround (8 * n)
      (NFold.chunkValues n (common / n) (NFold.rotatedCopies x (common / x.length))).sum)

namespace NFold

/-! End-around addition. -/

section EndAround

variable {width : Nat}

theorem endAround_of_lt {s : Nat} (fits : s < 2 ^ width) : endAround width s = s := by
  rw [endAround, dif_pos (.inl fits)]

theorem endAround_of_le (hw : 0 < width) {s : Nat} (big : 2 ^ width ≤ s) :
    endAround width s = endAround width (s % 2 ^ width + s / 2 ^ width) := by
  rw [endAround, dif_neg (by omega)]

/-- End-around addition at `width` bits is the residue modulo `2 ^ width - 1`, written from 1 to
`2 ^ width - 1` for every sum but zero. -/
theorem endAround_eq (hw : 0 < width) (s : Nat) :
    endAround width s = if s = 0 then 0 else (s - 1) % (2 ^ width - 1) + 1 := by
  have atLeastTwo : 2 ≤ 2 ^ width := Nat.le_self_pow (by omega) 2
  induction s using Nat.strongRecOn with
  | ind s ih =>
    by_cases fits : s < 2 ^ width
    · rw [endAround_of_lt fits]
      split
      · omega
      · rw [Nat.mod_eq_of_lt (by omega)]
        omega
    · rw [endAround_of_le hw (by omega), ih _ (fold_lt (by omega))]
      -- folding takes `2 ^ width - 1` away once for every multiple of `2 ^ width`
      have split := Nat.mod_add_div s (2 ^ width)
      have several : 1 ≤ s / 2 ^ width := (Nat.one_le_div_iff (by omega)).mpr (by omega)
      have atLeast : s / 2 ^ width ≤ 2 ^ width * (s / 2 ^ width) :=
        Nat.le_mul_of_pos_left _ (by omega)
      have folded : s - 1 = (s % 2 ^ width + s / 2 ^ width - 1) +
          (2 ^ width - 1) * (s / 2 ^ width) := by
        rw [Nat.sub_mul, Nat.one_mul]
        generalize 2 ^ width * (s / 2 ^ width) = multiple at split atLeast ⊢
        omega
      rw [if_neg (by omega), if_neg (by omega), folded, Nat.add_mul_mod_self_left]

theorem endAround_lt (hw : 0 < width) (s : Nat) : endAround width s < 2 ^ width := by
  have atLeastTwo : 2 ≤ 2 ^ width := Nat.le_self_pow (by omega) 2
  rw [endAround_eq hw]
  split
  · omega
  · have := Nat.mod_lt (s - 1) (show 0 < 2 ^ width - 1 by omega)
    omega

/-- End-around addition is associative: a sum reduced early reduces to the same result. -/
theorem endAround_endAround_add (hw : 0 < width) (a b : Nat) :
    endAround width (endAround width a + b) = endAround width (a + b) := by
  rw [endAround_eq hw a]
  split
  · rename_i zero
    rw [zero, Nat.zero_add]
  · rw [endAround_eq hw, endAround_eq hw, if_neg (by omega), if_neg (by omega),
      show (a - 1) % (2 ^ width - 1) + 1 + b - 1 = (a - 1) % (2 ^ width - 1) + b by omega,
      Nat.mod_add_mod, show a - 1 + b = a + b - 1 by omega]

/-- A carry out of the top added back at the bottom: a sum written as `v` below `2 ^ width`
and `c` times `2 ^ width` above it reduces to `v + c` when that fits. -/
theorem endAround_carry (hw : 0 < width) {v c : Nat} (fits : v + c < 2 ^ width) :
    endAround width (v + c * 2 ^ width) = v + c := by
  rcases Nat.eq_zero_or_pos c with none | carried
  · rw [none, Nat.zero_mul, Nat.add_zero, endAround_of_lt (by omega)]
  · -- one fold takes the carry off the top and adds it at the bottom
    have low : v < 2 ^ width := by omega
    have big : 2 ^ width ≤ v + c * 2 ^ width :=
      Nat.le_add_left_of_le (Nat.le_mul_of_pos_left _ carried)
    rw [endAround_of_le hw big, Nat.add_mul_mod_self_right, Nat.mod_eq_of_lt low,
      Nat.add_mul_div_right _ _ (by omega), Nat.div_eq_of_lt low, Nat.zero_add,
      endAround_of_lt fits]

end EndAround

/-! Bytes of the rotated copies. -/

section Copies

/-- Byte `t` of the `m`-byte big-endian form of `v`. -/
theorem getElem?_beOfNat {m t : Nat} (ht : t < m) (v : Nat) :
    (beOfNat m v)[t]? = some (UInt8.ofNat (v / 256 ^ (m - 1 - t))) := by
  induction m generalizing v with
  | zero => omega
  | succ m ih =>
    rw [beOfNat, List.getElem?_append, length_beOfNat]
    by_cases early : t < m
    · have widen : 256 * 256 ^ (m - 1 - t) = 256 ^ (m + 1 - 1 - t) := by
        rw [← Nat.pow_succ']
        congr 1
        omega
      rw [if_pos early, ih early, Nat.div_div_eq_div_mul, widen]
    · have last : t = m := by omega
      subst last
      simp

theorem length_flatMap_range {f : Nat → Bytes} {m : Nat} (uniform : ∀ j, (f j).length = m)
    (count : Nat) : ((List.range count).flatMap f).length = count * m := by
  induction count with
  | zero => simp
  | succ count ih =>
    rw [List.range_succ, List.flatMap_append, List.length_append, ih]
    simp [uniform, Nat.add_one_mul]

/-- Byte `i` of blocks of `m` bytes laid end to end is byte `i % m` of block `i / m`. -/
theorem getElem?_flatMap_range {f : Nat → Bytes} {m : Nat} (uniform : ∀ j, (f j).length = m)
    {count i : Nat} (hi : i < count * m) :
    ((List.range count).flatMap f)[i]? = (f (i / m))[i % m]? := by
  induction count with
  | zero => omega
  | succ count ih =>
    rw [List.range_succ, List.flatMap_append, List.getElem?_append,
      length_flatMap_range uniform]
    by_cases early : i < count * m
    · rw [if_pos early, ih early]
    · have block : i / m = count := Nat.div_eq_of_lt_le (by omega) hi
      have offset : i % m = i - count * m := by
        rw [Nat.mod_eq_sub_mul_div, block, Nat.mul_comm]
      rw [if_neg early, List.flatMap_cons, List.flatMap_nil, List.append_nil, block, offset]

/-- Bit `q` of `v` rotated right by `r` bits is bit `q + r` of `v`, counted round the
width. -/
theorem testBit_rotateRight {width v : Nat} (hv : v < 2 ^ width) (r : Nat) {q : Nat}
    (hq : q < width) :
    (rotateRight width r v).testBit q = v.testBit ((q + r % width) % width) := by
  have shift := Nat.mod_lt r (show 0 < width by omega)
  rw [rotateRight]
  generalize r % width = s at shift ⊢
  have high : v / 2 ^ s < 2 ^ (width - s) := by
    rw [Nat.div_lt_iff_lt_mul (Nat.two_pow_pos s), ← Nat.pow_add, Nat.sub_add_cancel (by omega)]
    exact hv
  rw [Nat.add_comm, Nat.mul_comm, Nat.testBit_two_pow_mul_add _ high]
  split
  · rename_i below
    rw [Nat.testBit_div_two_pow, Nat.mod_eq_of_lt (by omega)]
  · rename_i above
    rw [Nat.testBit_mod_two_pow, decide_eq_true (by omega), Bool.true_and,
      Nat.mod_eq_sub_mod (by omega), Nat.mod_eq_of_lt (by omega)]
    congr 1
    omega

/-- Bit `b` of byte `k` from the bottom of `v` is bit `8 k + b` of `v`. -/
theorem testBit_byte (v k : Nat) {b : Nat} (hb : b < 8) :
    (v / 256 ^ k % 256).testBit b = v.testBit (8 * k + b) := by
  rw [show (256 : Nat) = 2 ^ 8 from rfl, ← Nat.pow_mul, Nat.testBit_mod_two_pow,
    decide_eq_true hb, Bool.true_and, Nat.testBit_div_two_pow, Nat.add_comm]

/-- Bit `z` of byte `u` of a big-endian string is bit `8 (|x| - 1 - u) + z` of its value. -/
theorem testBit_beToNat {x : Bytes} {u z : Nat} (hu : u < x.length) (hz : z < 8) :
    (beToNat x).testBit (8 * (x.length - 1 - u) + z) = (x.getD u 0).toNat.testBit z := by
  induction x using List.reverseRecOn with
  | nil => simp at hu
  | append_singleton xs c ih =>
    have value : beToNat (xs ++ [c]) = 2 ^ 8 * beToNat xs + c.toNat := by
      rw [beToNat_append]
      simp [beToNat, Nat.mul_comm]
    rw [value, Nat.testBit_two_pow_mul_add _ c.toNat_lt]
    simp only [List.length_append, List.length_singleton] at hu ⊢
    rw [List.getD_eq_getElem?_getD, List.getElem?_append]
    by_cases last : u = xs.length
    · subst last
      rw [if_pos (by omega), if_neg (by omega)]
      simp
    · rw [if_neg (by omega), if_pos (by omega), ← List.getD_eq_getElem?_getD,
        show 8 * (xs.length + 1 - 1 - u) + z - 8 = 8 * (xs.length - 1 - u) + z by omega]
      exact ih (by omega)

theorem getD_input (x : Bytes) (idx : Nat) :
    (x.map UInt8.toNat).toArray.getD idx 0 = (x.getD idx 0).toNat := by
  simp only [Array.getD_eq_getD_getElem?, List.getD_eq_getElem?_getD, List.getElem?_toArray,
    List.getElem?_map]
  cases x[idx]? <;> rfl

/-- A window of 16 bits, shifted right by `s + 1` and cut to a byte: bit `b` of it is bit
`s + 1 + b` of the window, in the low byte or the high one. -/
theorem testBit_window {hi lo : Nat} (hlo : lo < 256) (s : Nat) {b : Nat} (hb : b < 8) :
    (((hi * 256 + lo) >>> (s + 1)) % 256).testBit b =
      if s + 1 + b < 8 then lo.testBit (s + 1 + b) else hi.testBit (s + 1 + b - 8) := by
  rw [show (256 : Nat) = 2 ^ 8 from rfl, Nat.testBit_mod_two_pow, decide_eq_true hb,
    Bool.true_and, Nat.testBit_shiftRight, Nat.mul_comm, Nat.testBit_two_pow_mul_add _ hlo]

/-- The loop's window on the input: the byte holding bit `msbit` (counted from the bottom of the
input) and the byte after it, round the input, shifted so that bit `msbit` comes out on top.
Bit `b` of it is bit `msbit + b - 7` of the input, counted round the input. -/
theorem testBit_inputWindow {x : Bytes} (hx : 0 < x.length) {msbit : Nat}
    (below : msbit < x.length * 8) {b : Nat} (hb : b < 8) :
    ((((x.map UInt8.toNat).toArray.getD ((x.length - 1 - msbit / 8) % x.length) 0 * 256 +
        (x.map UInt8.toNat).toArray.getD ((x.length - msbit / 8) % x.length) 0) >>>
          (msbit % 8 + 1)) % 256).testBit b =
      (beToNat x).testBit ((msbit + 8 * x.length + b - 7) % (8 * x.length)) := by
  have byte := Nat.mod_add_div msbit 8
  have inside : msbit / 8 < x.length := by omega
  rw [getD_input, getD_input, testBit_window (UInt8.toNat_lt _) _ hb,
    Nat.mod_eq_of_lt (show x.length - 1 - msbit / 8 < x.length by omega)]
  split
  · rename_i low
    by_cases first : msbit / 8 = 0
    · -- the byte after the first one of the input is the last one, round the input
      have pos : (msbit + 8 * x.length + b - 7) % (8 * x.length) =
          8 * (x.length - 1 - 0) + (msbit % 8 + 1 + b) := by
        rw [Nat.mod_eq_of_lt (by omega)]
        omega
      rw [first, Nat.sub_zero, Nat.mod_self, pos, testBit_beToNat hx (by omega)]
    · have pos : (msbit + 8 * x.length + b - 7) % (8 * x.length) =
          8 * (x.length - 1 - (x.length - msbit / 8)) + (msbit % 8 + 1 + b) := by
        rw [Nat.mod_eq_sub_mod (by omega), Nat.mod_eq_of_lt (by omega)]
        omega
      rw [Nat.mod_eq_of_lt (show x.length - msbit / 8 < x.length by omega), pos,
        testBit_beToNat (by omega) (by omega)]
  · rename_i high
    have pos : (msbit + 8 * x.length + b - 7) % (8 * x.length) =
        8 * (x.length - 1 - (x.length - 1 - msbit / 8)) + (msbit % 8 + 1 + b - 8) := by
      rw [Nat.mod_eq_sub_mod (by omega), Nat.mod_eq_of_lt (by omega)]
      omega
    rw [pos, testBit_beToNat (by omega) (by omega)]

/-- The bit the loop starts a byte from is the one the rotation brings to the top of that
byte: both are the same position round the input. -/
theorem window_position {m t j b : Nat} (ht : t < m) (hb : b < 8) :
    (((m * 8 - 1) + (m * 8 + 13) * j + (m - t) * 8) % (m * 8) + 8 * m + b - 7) % (8 * m) =
      (8 * (m - 1 - t) + b + 13 * j % (8 * m)) % (8 * m) := by
  rw [Nat.mul_comm m 8, Nat.add_mod_mod,
    show ((8 * m - 1) + (8 * m + 13) * j + (m - t) * 8) % (8 * m) + 8 * m + b - 7 =
      ((8 * m - 1) + (8 * m + 13) * j + (m - t) * 8) % (8 * m) + (8 * m + b - 7) by omega,
    Nat.mod_add_mod]
  -- the two positions differ by `j + 2` turns of the input
  have turns : (8 * m - 1) + (8 * m + 13) * j + (m - t) * 8 + (8 * m + b - 7) =
      8 * (m - 1 - t) + b + 13 * j + 8 * m * (j + 2) := by
    rw [Nat.add_mul, Nat.mul_add]
    generalize 8 * m * j = turnsOfJ
    omega
  rw [turns, Nat.add_mul_mod_self_left]

theorem testBit_mod_256 (v : Nat) {b : Nat} (hb : 8 ≤ b) : (v % 256).testBit b = false := by
  apply Nat.testBit_lt_two_pow
  calc v % 256 < 2 ^ 8 := Nat.mod_lt v (by decide)
    _ ≤ 2 ^ b := Nat.pow_le_pow_right (by decide) hb

/-- The byte the loop reads at position `i` is byte `i % |x|` of copy `i / |x|` of the input,
rotated. -/
theorem laidOut_eq {x : Bytes} (hx : 0 < x.length) (i : Nat) :
    laidOut (x.map UInt8.toNat).toArray x.length i =
      rotateRight (8 * x.length) (13 * (i / x.length)) (beToNat x) /
        256 ^ (x.length - 1 - i % x.length) % 256 := by
  have place := Nat.mod_lt i hx
  have value : beToNat x < 2 ^ (8 * x.length) := by
    have := beToNat_lt x
    rwa [show (256 : Nat) = 2 ^ 8 from rfl, ← Nat.pow_mul] at this
  apply Nat.eq_of_testBit_eq
  intro b
  unfold laidOut
  dsimp only
  by_cases hb : b < 8
  · have bits : x.length * 8 > 0 := by omega
    rw [testBit_inputWindow hx (Nat.mod_lt _ bits) hb,
      testBit_byte _ _ hb, testBit_rotateRight value _ (by omega), window_position place hb]
  · rw [testBit_mod_256 _ (by omega), testBit_mod_256 _ (by omega)]

/-- The rotated copies are the bytes the loop reads, position by position. -/
theorem rotatedCopies_eq {x : Bytes} (hx : 0 < x.length) (count : Nat) :
    rotatedCopies x count = (List.range (count * x.length)).map fun i =>
      UInt8.ofNat (laidOut (x.map UInt8.toNat).toArray x.length i) := by
  have uniform (j : Nat) :
      (beOfNat x.length (rotateRight (8 * x.length) (13 * j) (beToNat x))).length = x.length :=
    length_beOfNat _ _
  apply List.ext_getElem?
  intro i
  by_cases hi : i < count * x.length
  · rw [rotatedCopies, getElem?_flatMap_range uniform hi,
      getElem?_beOfNat (Nat.mod_lt i hx), List.getElem?_map, List.getElem?_range hi,
      Option.map_some, laidOut_eq hx, UInt8.ofNat_mod_size']
  · rw [List.getElem?_eq_none (by rw [rotatedCopies, length_flatMap_range uniform]; omega),
      List.getElem?_eq_none (by simp; omega)]

end Copies

section Adder

/-- An output array of `n` byte values. -/
def IsOutput (n : Nat) (out : Array Nat) : Prop := out.size = n ∧ ∀ d ∈ out.toList, d < 256

/-- The output array read as a big-endian number. -/
def outValue (out : Array Nat) : Nat := beToNat (out.toList.map UInt8.ofNat)

/-- The number spelled by the `r` bytes the loop reads from position `start` on. -/
def readValue (input : Array Nat) (inLen start r : Nat) : Nat :=
  beToNat ((List.range' start r).map fun i => UInt8.ofNat (laidOut input inLen i))

theorem laidOut_lt (input : Array Nat) (inLen i : Nat) : laidOut input inLen i < 256 :=
  Nat.mod_lt _ (by decide)

/-- Replacing byte `p` changes the number by the difference of the two bytes at its place. -/
theorem beToNat_set {bs : Bytes} {p : Nat} (hp : p < bs.length) (b : UInt8) :
    beToNat (bs.set p b) + bs[p].toNat * 256 ^ (bs.length - 1 - p) =
      beToNat bs + b.toNat * 256 ^ (bs.length - 1 - p) := by
  have middle (y : UInt8) : beToNat (bs.take p ++ y :: bs.drop (p + 1)) =
      (beToNat (bs.take p) * 256 + y.toNat) * 256 ^ (bs.length - 1 - p) +
        beToNat (bs.drop (p + 1)) := by
    rw [← List.singleton_append, ← List.append_assoc, beToNat_append, beToNat_append,
      List.length_drop, show bs.length - (p + 1) = bs.length - 1 - p by omega]
    simp [beToNat]
  have whole := middle bs[p]
  rw [List.getElem_cons_drop, List.take_append_drop] at whole
  rw [List.set_eq_take_append_cons_drop, if_pos hp, middle, whole]
  ring

theorem IsOutput.set {n : Nat} {out : Array Nat} (valid : IsOutput n out) (p : Nat) {v : Nat}
    (hv : v < 256) : IsOutput n (out.setIfInBounds p v) := by
  refine ⟨by rw [Array.size_setIfInBounds]; exact valid.1, fun d hd => ?_⟩
  rw [Array.toList_setIfInBounds] at hd
  rcases List.mem_or_eq_of_mem_set hd with old | new
  · exact valid.2 d old
  · exact new ▸ hv

/-- Writing `v` into place `p` of the output changes its value by the difference of `v` and the
byte it replaces, at that place's weight. -/
theorem outValue_set {out : Array Nat} (digits : ∀ d ∈ out.toList, d < 256) {p : Nat}
    (hp : p < out.size) {v : Nat} (hv : v < 256) :
    outValue (out.setIfInBounds p v) + out.getD p 0 * 256 ^ (out.size - 1 - p) =
      outValue out + v * 256 ^ (out.size - 1 - p) := by
  have inList : p < (out.toList.map UInt8.ofNat).length := by simpa using hp
  have old : out.getD p 0 = (out.toList.map UInt8.ofNat)[p].toNat := by
    rw [List.getElem_map, Array.getElem_toList, Bytes.toNat_ofNat_byte (digits _ (by simp)),
      Array.getD_eq_getD_getElem?, Array.getElem?_eq_getElem hp, Option.getD_some]
  have same := beToNat_set inList (UInt8.ofNat v)
  rw [List.length_map, Array.length_toList, Bytes.toNat_ofNat_byte hv] at same
  rw [outValue, outValue, Array.toList_setIfInBounds, List.map_set, old, same]

theorem readValue_succ (input : Array Nat) (inLen start r : Nat) :
    readValue input inLen start (r + 1) =
      readValue input inLen start r * 256 + laidOut input inLen (start + r) := by
  rw [readValue, readValue, List.range'_concat, List.map_append, beToNat_append]
  simp [beToNat, Bytes.toNat_ofNat_byte (laidOut_lt input inLen _)]

/-- Going once round the output adds one chunk as a number: the loop puts the bytes from
position `k n` to `k n + r - 1` into places `0` to `r - 1`, each sum's carry moving one place
up, and the carry out of place `0` is what lies above the output. -/
theorem addAll_chunk (input : Array Nat) (inLen k : Nat) {n : Nat} :
    ∀ {r : Nat}, r ≤ n → ∀ {out : Array Nat}, IsOutput n out → ∀ carry : Nat,
      ∃ out' carry', addAll input inLen n (k * n + r) out carry =
          addAll input inLen n (k * n) out' carry' ∧ IsOutput n out' ∧
        outValue out' + carry' * 256 ^ n =
          outValue out + (carry + readValue input inLen (k * n) r) * 256 ^ (n - r) := by
  intro r
  induction r with
  | zero =>
    intro _ out valid carry
    exact ⟨out, carry, rfl, valid, by simp [readValue, beToNat]⟩
  | succ r ih =>
    intro hr out valid carry
    -- the loop first adds position `k n + r` into place `r`
    have place : (k * n + r) % n = r := by
      rw [Nat.mul_comm, Nat.mul_add_mod]
      exact Nat.mod_eq_of_lt hr
    have step : addAll input inLen n (k * n + (r + 1)) out carry =
        addAll input inLen n (k * n + r)
          (out.setIfInBounds r ((carry + laidOut input inLen (k * n + r) + out.getD r 0) % 256))
          ((carry + laidOut input inLen (k * n + r) + out.getD r 0) / 256) := by
      rw [← Nat.add_assoc, addAll, place]
    have low := Nat.mod_add_div (carry + laidOut input inLen (k * n + r) + out.getD r 0) 256
    generalize added : carry + laidOut input inLen (k * n + r) + out.getD r 0 = sum at step low
    obtain ⟨out', carry', run, valid', value⟩ :=
      ih (by omega) (valid.set r (Nat.mod_lt sum (by decide))) (sum / 256)
    refine ⟨out', carry', step.trans run, valid', ?_⟩
    have written := outValue_set valid.2 (show r < out.size by rw [valid.1]; omega)
      (Nat.mod_lt sum (show 256 > 0 by decide))
    rw [valid.1] at written
    have weight : 256 ^ (n - r) = 256 ^ (n - 1 - r) * 256 := by
      rw [show n - r = n - 1 - r + 1 by omega, Nat.pow_succ]
    rw [readValue_succ, show n - (r + 1) = n - 1 - r by omega]
    apply Nat.add_right_cancel (m := out.getD r 0 * 256 ^ (n - 1 - r))
    calc outValue out' + carry' * 256 ^ n + out.getD r 0 * 256 ^ (n - 1 - r)
        = (outValue (out.setIfInBounds r (sum % 256)) + out.getD r 0 * 256 ^ (n - 1 - r)) +
            (sum / 256 + readValue input inLen (k * n) r) * (256 ^ (n - 1 - r) * 256) := by
          rw [value, weight]; ring
      _ = outValue out + (sum % 256 + 256 * (sum / 256)) * 256 ^ (n - 1 - r) +
            readValue input inLen (k * n) r * 256 * 256 ^ (n - 1 - r) := by
          rw [written]; ring
      _ = _ := by rw [low, ← added]; ring

theorem beToNat_replicate_zero (n : Nat) : beToNat (List.replicate n 0) = 0 := by
  induction n with
  | zero => rfl
  | succ n ih => rw [List.replicate_succ', beToNat_append, ih]; rfl

theorem outValue_lt {n : Nat} {out : Array Nat} (valid : IsOutput n out) : outValue out < 256 ^ n := by
  have := beToNat_lt (out.toList.map UInt8.ofNat)
  rwa [List.length_map, Array.length_toList, valid.1] at this

theorem readValue_lt (input : Array Nat) (inLen start r : Nat) :
    readValue input inLen start r < 256 ^ r := by
  have := beToNat_lt ((List.range' start r).map fun i => UInt8.ofNat (laidOut input inLen i))
  rwa [List.length_map, List.length_range'] at this

/-- Two numbers below `M` add to one carry at most: written as `v + c M` with `v` below `M`,
their sum has `v + c` below `M`, for a carry of one leaves `v` at most `M - 2`. -/
theorem carry_fits {M v c a b : Nat} (hv : v < M) (ha : a < M) (hb : b < M)
    (sum : v + c * M = a + b) : v + c < M := by
  rcases c with _ | _ | c
  · omega
  · omega
  · have : (c + 1 + 1) * M = c * M + M + M := by ring
    omega

/-- The sum of chunks `k` to `K - 1`, chunk `j` being the `n` bytes the loop reads from
position `j n` on. -/
def chunksFrom (input : Array Nat) (inLen n k K : Nat) : Nat :=
  ((List.range' k (K - k)).map fun j => readValue input inLen (j * n) n).sum

theorem chunksFrom_of_lt (input : Array Nat) (inLen n : Nat) {k K : Nat} (hk : k < K) :
    chunksFrom input inLen n k K =
      readValue input inLen (k * n) n + chunksFrom input inLen n (k + 1) K := by
  rw [chunksFrom, chunksFrom, show K - k = K - (k + 1) + 1 by omega, List.range'_succ,
    List.map_cons, List.sum_cons]

/-- The whole loop adds the chunks with end-around carry. The loop runs over the chunks from
the last to the first; the invariant is that the output and the carry, added, are the
end-around sum of the chunks done so far, and `endAround_carry` turns each chunk's carry out of
the top into end-around addition. -/
theorem addAll_run (input : Array Nat) (inLen : Nat) {n K : Nat} (hn : 0 < n) :
    ∀ {k : Nat}, k ≤ K → ∀ {out : Array Nat}, IsOutput n out → ∀ carry : Nat,
      outValue out + carry = endAround (8 * n) (chunksFrom input inLen n k K) →
      IsOutput n (addAll input inLen n (k * n) out carry).1 ∧
        outValue (addAll input inLen n (k * n) out carry).1 +
            (addAll input inLen n (k * n) out carry).2 =
          endAround (8 * n) (chunksFrom input inLen n 0 K) := by
  have hw : 0 < 8 * n := by omega
  have width : (2 : Nat) ^ (8 * n) = 256 ^ n := by rw [Nat.pow_mul]
  intro k
  induction k with
  | zero =>
    intro _ out valid carry sum
    rw [Nat.zero_mul]
    exact ⟨valid, sum⟩
  | succ k ih =>
    intro hk out valid carry sum
    obtain ⟨out', carry', run, valid', value⟩ := addAll_chunk input inLen k (Nat.le_refl n) valid carry
    rw [Nat.sub_self, Nat.pow_zero, Nat.mul_one] at value
    have done : endAround (8 * n) (chunksFrom input inLen n (k + 1) K) < 256 ^ n := by
      rw [← width]
      exact endAround_lt hw _
    have fits : outValue out' + carry' < 256 ^ n :=
      carry_fits (outValue_lt valid') done (readValue_lt input inLen (k * n) n)
        (by rw [value, ← sum]; ring)
    have next : outValue out' + carry' = endAround (8 * n) (chunksFrom input inLen n k K) :=
      calc outValue out' + carry'
          = endAround (8 * n) (outValue out' + carry' * 2 ^ (8 * n)) :=
            (endAround_carry hw (width ▸ fits)).symm
        _ = endAround (8 * n) (endAround (8 * n) (chunksFrom input inLen n (k + 1) K) +
              readValue input inLen (k * n) n) := by
            rw [width, value, ← Nat.add_assoc, sum]
        _ = endAround (8 * n) (chunksFrom input inLen n k K) := by
            rw [endAround_endAround_add hw, chunksFrom_of_lt input inLen n (by omega : k < K),
              Nat.add_comm]
    rw [Nat.succ_mul, run]
    exact ih (by omega) valid' carry' next

/-- The last pass adds the carry left at the bottom place and lets it run up through the
output; what runs out of the top is dropped. -/
theorem addCarry_eq {ds : List Nat} (digits : ∀ d ∈ ds, d < 256) (carry : Nat) :
    (addCarry ds carry).map UInt8.ofNat =
      beOfNat ds.length (beToNat (ds.map UInt8.ofNat) + carry) := by
  -- the fold walks the digits from the last one up, consing each sum's low byte
  have folded : ∀ (step : List Nat × Nat → Nat → List Nat × Nat),
      (∀ acc c b, step (acc, c) b = ((c + b) % 256 :: acc, (c + b) / 256)) →
      ∀ {ds : List Nat}, (∀ d ∈ ds, d < 256) → ∀ (acc : List Nat) (c : Nat),
        (ds.reverse.foldl step (acc, c)).1.map UInt8.ofNat =
          beOfNat ds.length (beToNat (ds.map UInt8.ofNat) + c) ++ acc.map UInt8.ofNat := by
    intro step adds ds
    induction ds using List.reverseRecOn with
    | nil =>
      intro _ acc c
      simp [beOfNat]
    | append_singleton ds d ih =>
      intro digits acc c
      have hd : d < 256 := digits d (by simp)
      have value : beToNat ((ds ++ [d]).map UInt8.ofNat) + c =
          (c + d) + beToNat (ds.map UInt8.ofNat) * 256 := by
        rw [List.map_append, beToNat_append]
        simp [beToNat, Bytes.toNat_ofNat_byte hd]
        ring
      have low : UInt8.ofNat ((c + d) + beToNat (ds.map UInt8.ofNat) * 256) =
          UInt8.ofNat ((c + d) % 256) := by
        rw [← UInt8.ofNat_mod_size', Nat.add_mul_mod_self_right, UInt8.ofNat_mod_size']
      rw [List.reverse_append, List.reverse_singleton, List.singleton_append, List.foldl_cons,
        adds, ih (fun e he => digits e (by simp [he])), value, List.length_append,
        List.length_singleton, beOfNat, Nat.add_mul_div_right _ _ (show 0 < 256 by decide), low,
        Nat.add_comm ((c + d) / 256)]
      simp
  unfold addCarry
  refine (folded _ ?_ digits [] carry).trans (by rw [List.map_nil, List.append_nil])
  intro acc c b
  rfl

/-- What the loop leaves, after the last pass, is the output plus the carry in `n` bytes. -/
theorem finish_eq {n : Nat} {out : Array Nat} (valid : IsOutput n out) (carry : Nat) :
    (if carry = 0 then out.toList else addCarry out.toList carry).map UInt8.ofNat =
      beOfNat n (outValue out + carry) := by
  have size : out.toList.length = n := by rw [Array.length_toList, valid.1]
  split
  · rename_i none
    rw [none, Nat.add_zero, outValue, ← size, ← List.length_map (f := UInt8.ofNat),
      beOfNat_beToNat]
  · rw [addCarry_eq valid.2, size, outValue]

end Adder

theorem take_drop_map_range (f : Nat → UInt8) {start r N : Nat} (fits : start + r ≤ N) :
    (((List.range N).map f).drop start).take r = (List.range' start r).map f := by
  apply List.ext_getElem?
  intro i
  by_cases hi : i < r
  · simp [hi, show start + i < N by omega]
  · simp [hi]

/-- The chunks of the rotated copies are the chunks the loop reads. -/
theorem chunkValues_rotatedCopies {x : Bytes} (hx : 0 < x.length) {n K J : Nat}
    (cover : K * n = J * x.length) :
    chunkValues n K (rotatedCopies x J) =
      (List.range K).map fun k => readValue (x.map UInt8.toNat).toArray x.length (k * n) n := by
  rw [chunkValues, rotatedCopies_eq hx]
  apply List.map_congr_left
  intro k hk
  have fits : k * n + n ≤ J * x.length := by
    rw [← cover, ← Nat.succ_mul]
    exact Nat.mul_le_mul_right n (List.mem_range.mp hk)
  rw [take_drop_map_range _ fits, readValue]

end NFold

/-- The loop computes the n-fold as RFC 3961 defines it. -/
theorem nfold_eq_rfcNFold (x : Bytes) (n : Nat) : nfold x n = rfcNFold x n := by
  unfold nfold rfcNFold
  by_cases trivial : x = [] ∨ n = 0
  · have empty : x.length = 0 ∨ n = 0 := by simpa using trivial
    rw [if_pos empty, if_pos trivial]
  · have hx : 0 < x.length := by
      cases x with
      | nil => exact absurd (Or.inl rfl) trivial
      | cons b bs => simp
    have hn : 0 < n := by omega
    rw [if_neg (by omega), if_neg trivial]
    dsimp only
    -- the loop runs over `lcm |x| n` positions: `K` chunks of the output, `J` copies of `x`
    have common : x.length / Nat.gcd x.length n * n = Nat.lcm x.length n := by
      rw [Nat.div_mul_right_comm (Nat.gcd_dvd_left _ _)]
      rfl
    have chunks : Nat.lcm x.length n / n * n = Nat.lcm x.length n :=
      Nat.div_mul_cancel (Nat.dvd_lcm_right _ _)
    have copies : Nat.lcm x.length n / x.length * x.length = Nat.lcm x.length n :=
      Nat.div_mul_cancel (Nat.dvd_lcm_left _ _)
    have start : NFold.IsOutput n (Array.replicate n 0) :=
      ⟨Array.size_replicate, fun d hd => by simp [List.mem_replicate.mp (by simpa using hd)]⟩
    obtain ⟨valid, value⟩ := NFold.addAll_run (x.map UInt8.toNat).toArray x.length hn
      (Nat.le_refl (Nat.lcm x.length n / n)) start 0
      (by simp [NFold.outValue, NFold.chunksFrom, NFold.endAround_of_lt, NFold.beToNat_replicate_zero])
    rw [chunks] at valid value
    rw [common]
    rcases run : NFold.addAll (x.map UInt8.toNat).toArray x.length n
      (Nat.lcm x.length n) (Array.replicate n 0) 0 with ⟨out, carry⟩
    rw [run] at valid value
    dsimp only at valid value ⊢
    rw [NFold.finish_eq valid, value, NFold.chunkValues_rotatedCopies hx (by rw [chunks, copies]),
      NFold.chunksFrom, Nat.sub_zero, List.range_eq_range']


/-- Folding `x` to its own length gives `x` back: there is one copy, unrotated, and one chunk. -/
theorem rfcNFold_self (x : Bytes) : rfcNFold x x.length = x := by
  unfold rfcNFold
  by_cases empty : x = []
  · subst empty
    rfl
  · have hx : 0 < x.length := List.length_pos_iff.mpr empty
    have value : beToNat x < 2 ^ (8 * x.length) := by
      rw [Nat.pow_mul]
      exact beToNat_lt x
    have copy : NFold.rotatedCopies x 1 = x := by
      simp [NFold.rotatedCopies, NFold.rotateRight, Nat.mod_one, beOfNat_beToNat]
    rw [if_neg (fun trivial => trivial.elim empty (by omega)), Nat.lcm_self]
    dsimp only
    rw [Nat.div_self hx, copy]
    simp [NFold.chunkValues, NFold.endAround_of_lt value, beOfNat_beToNat]

/-- `nfold` is the n-fold of RFC 3961: for every input and output length it gives what
`rfcNFold` defines, so folding an input to its own length gives it back, and an empty input or
output gives zero bytes. -/
theorem nfold_is_rfc_nfold :
    (∀ (x : Bytes) (n : Nat), nfold x n = rfcNFold x n) ∧
    (∀ x : Bytes, nfold x x.length = x) ∧
    (∀ (x : Bytes) (n : Nat), x = [] ∨ n = 0 → nfold x n = List.replicate n 0) := by
  refine ⟨nfold_eq_rfcNFold, fun x => ?_, fun x n trivial => ?_⟩
  · rw [nfold_eq_rfcNFold, rfcNFold_self]
  · rw [nfold_eq_rfcNFold, rfcNFold, if_pos trivial]

end GssApi
