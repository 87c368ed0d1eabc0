import GssApi.Proofs.Sealing
import Mathlib.Tactic.IntervalCases

/-! Keys from random bytes.

`randomToKey` turns random bytes into a key of a single-DES or triple-DES type. A single-DES
key is its eight seed bytes with each low bit replaced by the odd-parity bit. A triple-DES key
is made from 21 seed bytes, seven at a time: the seven bytes are kept, an eighth byte collects
their low bits, the low bit of byte `i` at bit `i + 1`, and each of the eight bytes then has its
low bit replaced by the parity bit. Every bit of the seed is kept, so no two seeds give one key.

Bits of a byte are `Nat.testBit` of its value: `popCount` and the eighth byte are first
restated through it. Main statement: `random_to_key_keeps_seed_bits`. -/
namespace GssApi

/-! Bits of a byte. -/

/-- Shifting a byte right by `i` and masking the low bit reads bit `i`. -/
theorem shiftRight_and_one_eq_one (b : UInt8) {i : Nat} (hi : i < 8) :
    (b >>> i.toUInt8) &&& 1 = 1 ↔ b.toNat.testBit i = true := by
  have amount : (i.toUInt8).toNat % 8 = i := by
    simp only [Nat.toUInt8_eq, UInt8.toNat_ofNat']
    omega
  rw [← UInt8.toNat_inj, UInt8.toNat_and, UInt8.toNat_shiftRight, amount, UInt8.toNat_one,
    Nat.and_one_is_mod, Nat.testBit_eq_decide_div_mod_eq, Nat.shiftRight_eq_div_pow,
    decide_eq_true_iff]

theorem popCount_eq (b : UInt8) : popCount b = (List.range 8).countP (b.toNat.testBit ·) := by
  unfold popCount
  apply List.countP_congr
  intro i member
  simpa using shiftRight_and_one_eq_one b (List.mem_range.mp member)

/-- A byte has no bit at position 8 or above. -/
theorem testBit_of_le (b : UInt8) {k : Nat} (hk : 8 ≤ k) : b.toNat.testBit k = false :=
  Nat.testBit_lt_two_pow (Nat.lt_of_lt_of_le b.toNat_lt (Nat.pow_le_pow_right (by decide) hk))

/-- Setting bit 0 leaves every other bit as it was. -/
theorem testBit_or_one (b : UInt8) {k : Nat} (hk : 0 < k) :
    (b ||| 1).toNat.testBit k = b.toNat.testBit k := by
  have one : Nat.testBit 1 k = false := by
    cases h : Nat.testBit 1 k
    · rfl
    · exact absurd (Nat.testBit_one_eq_true_iff_self_eq_zero.mp h) (Nat.pos_iff_ne_zero.mp hk)
  rw [UInt8.toNat_or, Nat.testBit_or, UInt8.toNat_one, one, Bool.or_false]

/-- Setting bit 0 of a byte whose bit 0 is clear adds one to its number of one bits. -/
theorem popCount_or_one {b : UInt8} (clear : b.toNat.testBit 0 = false) :
    popCount (b ||| 1) = popCount b + 1 := by
  have upper (i : Nat) : (b ||| 1).toNat.testBit (i + 1) = b.toNat.testBit (i + 1) :=
    testBit_or_one b (Nat.succ_pos i)
  have low : (b ||| 1).toNat.testBit 0 = true := by
    rw [UInt8.toNat_or, Nat.testBit_or, UInt8.toNat_one, Nat.testBit_one_zero, Bool.or_true]
  -- bit 0 is counted apart from bits 1 to 7, which setting bit 0 leaves alone
  rw [popCount_eq, popCount_eq, List.range_succ_eq_map, List.countP_cons, List.countP_cons,
    List.countP_map, List.countP_map]
  simp only [Function.comp_def, Nat.succ_eq_add_one, upper, low, clear]
  simp

/-- Fixing the parity of a byte keeps bits 1 to 7. -/
theorem testBit_fixParity (b : UInt8) {k : Nat} (hk : 0 < k) :
    (fixParity b).toNat.testBit k = b.toNat.testBit k := by
  have high : (b &&& 0xFE).toNat.testBit k = b.toNat.testBit k := by
    rw [UInt8.toNat_and, Nat.testBit_and, show (0xFE : UInt8).toNat = 0xFE from rfl]
    by_cases small : k < 8
    · have mask : Nat.testBit 0xFE k = true := by interval_cases k <;> decide
      rw [mask, Bool.and_true]
    · rw [testBit_of_le b (by omega), Bool.false_and]
  unfold fixParity
  dsimp only
  split
  · exact high
  · rw [testBit_or_one _ hk, high]

/-- Fixing the parity of a byte leaves it with an odd number of one bits. -/
theorem popCount_fixParity (b : UInt8) : popCount (fixParity b) % 2 = 1 := by
  have clear : (b &&& 0xFE).toNat.testBit 0 = false := by
    rw [UInt8.toNat_and, Nat.testBit_and, show (0xFE : UInt8).toNat = 0xFE from rfl]
    simp
  unfold fixParity
  dsimp only
  split
  · assumption
  · rw [popCount_or_one clear]
    omega

/-! The eighth byte of an expanded chunk. -/

/-- One step of collecting low bits: the low bit of the byte at index `i` goes to bit
`i + 1`. -/
def collectLowBit (acc : UInt8) (entry : UInt8 × Nat) : UInt8 :=
  acc ||| (entry.1 &&& 1) <<< (entry.2 + 1).toUInt8

theorem expandSeven_eq (chunk : Bytes) :
    expandSeven chunk = (chunk ++ [chunk.zipIdx.foldl collectLowBit 0]).map fixParity := rfl

/-- A step sets bit `i + 1` when the byte's low bit is set and touches no other bit. -/
theorem testBit_collectLowBit (acc b : UInt8) {i : Nat} (hi : i < 7) (k : Nat) :
    (collectLowBit acc (b, i)).toNat.testBit k =
      (acc.toNat.testBit k || (k == i + 1 && b.toNat.testBit 0)) := by
  have amount : ((i + 1).toUInt8).toNat % 8 = i + 1 := by
    simp only [Nat.toUInt8_eq, UInt8.toNat_ofNat']
    omega
  have lowBit : b.toNat % 2 < 2 := Nat.mod_lt _ (by decide)
  have shifted : ((b &&& 1) <<< (i + 1).toUInt8).toNat = b.toNat % 2 * 2 ^ (i + 1) := by
    have fits : b.toNat % 2 * 2 ^ (i + 1) < 2 ^ 8 :=
      calc b.toNat % 2 * 2 ^ (i + 1) < 2 * 2 ^ (i + 1) :=
            Nat.mul_lt_mul_of_pos_right lowBit (Nat.two_pow_pos _)
        _ = 2 ^ (i + 2) := Nat.pow_succ'.symm
        _ ≤ 2 ^ 8 := Nat.pow_le_pow_right (by decide) (by omega)
    rw [UInt8.toNat_shiftLeft, amount, UInt8.toNat_and, UInt8.toNat_one, Nat.and_one_is_mod,
      Nat.shiftLeft_eq, Nat.mod_eq_of_lt fits]
  rw [collectLowBit, UInt8.toNat_or, Nat.testBit_or, shifted, Nat.testBit_mul_two_pow,
    show (2 : Nat) = 2 ^ 1 from rfl, Nat.testBit_mod_two_pow]
  congr 1
  by_cases hit : k = i + 1
  · subst hit
    simp
  · have : (k == i + 1) = false := by simpa using hit
    rw [this, Bool.false_and]
    by_cases below : i + 1 ≤ k
    · rw [decide_eq_true below, decide_eq_false (by omega), Bool.false_and, Bool.and_false]
    · rw [decide_eq_false below, Bool.false_and]

/-- Collecting the low bits of `chunk`, numbered from `s`, into `acc`: bit `k` is set when it
was set in `acc` or when it is bit `s + i + 1` and the low bit of byte `i` is set. -/
theorem testBit_foldl_collectLowBit (chunk : Bytes) (s : Nat) (acc : UInt8) (k : Nat)
    (fits : s + chunk.length ≤ 7) :
    ((chunk.zipIdx s).foldl collectLowBit acc).toNat.testBit k =
      (acc.toNat.testBit k ||
        (decide (s < k ∧ k ≤ s + chunk.length) && chunk[k - s - 1]!.toNat.testBit 0)) := by
  induction chunk generalizing s acc with
  | nil => simp
  | cons b rest ih =>
    simp only [List.length_cons] at fits
    rw [List.zipIdx_cons, List.foldl_cons, ih (s + 1) _ (by omega),
      testBit_collectLowBit acc b (by omega), Bool.or_assoc]
    congr 1
    -- bit `s + 1` is the first byte's; the rest are the later bytes', one place further on
    by_cases first : k = s + 1
    · subst first
      simp
    · have later : (k == s + 1) = false := by simpa using first
      rw [later, Bool.false_and, Bool.false_or]
      by_cases inside : s + 1 < k ∧ k ≤ s + 1 + rest.length
      · have shift : k - s - 1 = (k - (s + 1) - 1) + 1 := by omega
        rw [decide_eq_true inside, decide_eq_true (by simp only [List.length_cons]; omega),
          shift, List.getElem!_cons_succ]
      · rw [decide_eq_false inside, decide_eq_false (by simp only [List.length_cons]; omega),
          Bool.false_and, Bool.false_and]

/-! Expanded chunks. -/

/-- The first bytes of an expanded chunk are the chunk's bytes with their parity fixed. -/
theorem getElem!_expandSeven {chunk : Bytes} {i : Nat} (hi : i < chunk.length) :
    (expandSeven chunk)[i]! = fixParity chunk[i]! := by
  simp [expandSeven_eq, List.getElem!_eq_getElem?_getD, List.getElem?_append, hi]

/-- Bit `i + 1` of the byte after the chunk's bytes is the low bit of chunk byte `i`. -/
theorem testBit_expandSeven_last {chunk : Bytes} (short : chunk.length ≤ 7) {i : Nat}
    (hi : i < chunk.length) :
    (expandSeven chunk)[chunk.length]!.toNat.testBit (i + 1) = chunk[i]!.toNat.testBit 0 := by
  have last : (expandSeven chunk)[chunk.length]! =
      fixParity (chunk.zipIdx.foldl collectLowBit 0) := by
    simp [expandSeven_eq]
  rw [last, testBit_fixParity _ (Nat.succ_pos i),
    testBit_foldl_collectLowBit chunk 0 0 (i + 1) (by omega),
    decide_eq_true (by omega), Nat.sub_zero, Nat.add_sub_cancel]
  simp

/-! Triple-DES keys. -/

/-- Byte `8 j + i` of a triple-DES key is byte `i` of the expansion of the seed's `j`-th
seven bytes. -/
theorem getElem!_des3KeyBytes {seed : Bytes} (sized : seed.length = 21) {j i : Nat}
    (hj : j < 3) (hi : i < 8) :
    (des3KeyBytes seed)[8 * j + i]! = (expandSeven ((seed.drop (7 * j)).take 7))[i]! := by
  have whole : (seed.drop 14).take 7 = seed.drop 14 :=
    List.take_of_length_le (by simp [sized])
  simp only [des3KeyBytes, List.getElem!_eq_getElem?_getD, List.getElem?_append]
  interval_cases j
  · simp [sized, hi, show i < 16 by omega]
  · simp [sized, show 8 + i < 16 by omega]
  · simp [sized, whole]

theorem getElem!_seed {seed : Bytes} {j i : Nat} (hi : i < 7) :
    seed[7 * j + i]! = ((seed.drop (7 * j)).take 7)[i]! := by
  simp [List.getElem!_eq_getElem?_getD, hi]

/-- Each seed byte lives on in the key: its bits 1 to 7 in the key byte at its place, its
bit 0 in the eighth byte of its seven. -/
theorem des3KeyBytes_bits {seed : Bytes} (sized : seed.length = 21) {j i : Nat}
    (hj : j < 3) (hi : i < 7) :
    (∀ k, 0 < k → (des3KeyBytes seed)[8 * j + i]!.toNat.testBit k =
        seed[7 * j + i]!.toNat.testBit k) ∧
      (des3KeyBytes seed)[8 * j + 7]!.toNat.testBit (i + 1) = seed[7 * j + i]!.toNat.testBit 0 := by
  have seven : ((seed.drop (7 * j)).take 7).length = 7 := by
    simp only [List.length_take, List.length_drop, sized]
    omega
  rw [getElem!_seed hi, getElem!_des3KeyBytes sized hj (by omega),
    getElem!_des3KeyBytes sized hj (by omega)]
  refine ⟨fun k positive => ?_, ?_⟩
  · rw [getElem!_expandSeven (by omega), testBit_fixParity _ positive]
  · have last := @testBit_expandSeven_last ((seed.drop (7 * j)).take 7) (by omega) i (by omega)
    rwa [seven] at last

theorem oddParity_expandSeven (chunk : Bytes) : oddParity (expandSeven chunk) = true := by
  simp [oddParity, expandSeven_eq, popCount_fixParity]

/-- Every byte of a triple-DES key has odd parity. -/
theorem oddParity_des3KeyBytes (seed : Bytes) : oddParity (des3KeyBytes seed) = true := by
  simp only [des3KeyBytes, oddParity, List.all_append, Bool.and_eq_true]
  exact ⟨⟨oddParity_expandSeven _, oddParity_expandSeven _⟩, oddParity_expandSeven _⟩

/-- Two seeds that make the same triple-DES key are the same seed. -/
theorem des3KeyBytes_injective {seed seed' : Bytes} (sized : seed.length = 21)
    (sized' : seed'.length = 21) (same : des3KeyBytes seed = des3KeyBytes seed') :
    seed = seed' := by
  apply List.ext_getElem (by omega)
  intro n h h'
  -- seed byte `n` is byte `i` of the `j`-th seven
  have place : n = 7 * (n / 7) + n % 7 := (Nat.div_add_mod n 7).symm
  obtain ⟨high, low⟩ := des3KeyBytes_bits sized (j := n / 7) (by omega) (Nat.mod_lt n (by decide))
  obtain ⟨high', low'⟩ := des3KeyBytes_bits sized' (j := n / 7) (by omega) (Nat.mod_lt n (by decide))
  rw [← place, same] at high low
  rw [← place] at high' low'
  rw [← getElem!_pos seed n h, ← getElem!_pos seed' n h']
  apply UInt8.toNat_inj.mp
  apply Nat.eq_of_testBit_eq
  intro k
  cases k with
  | zero => rw [← low, low']
  | succ k => rw [← high (k + 1) (Nat.succ_pos k), high' (k + 1) (Nat.succ_pos k)]

/-! The key of each type. -/

theorem randomToKey_des3 {seed : Bytes} (sized : seed.length = 21) :
    randomToKey .des3CbcSha1Kd seed = .ok ⟨.des3CbcSha1Kd, des3KeyBytes seed⟩ := by
  simp [randomToKey, seedLength, EncType.seedLength?, EncType.family?, sized, SessionKey.new,
    EncType.keyLength?, length_des3KeyBytes sized]

theorem randomToKey_des {e : EncType} (des : e.family? = some .des) {seed : Bytes}
    (sized : seed.length = 8) :
    randomToKey e seed = .ok ⟨e, seed.map fixParity⟩ := by
  simp [randomToKey, seedLength, EncType.seedLength?, des, sized, SessionKey.new,
    EncType.keyLength?]

/-- A seed of the wrong length is refused with the length required and the length given. -/
theorem randomToKey_of_length_ne {e : EncType} {n : Nat} (known : e.seedLength? = some n)
    {seed : Bytes} (wrong : seed.length ≠ n) :
    randomToKey e seed = .error (.invalidKey
      (toString n ++ " seed bytes required, got " ++ toString seed.length)) := by
  simp [randomToKey, seedLength, known, wrong, bind, Except.bind, throw, throwThe,
    MonadExceptOf.throw]

theorem randomToKey_other (n : Int32) (seed : Bytes) :
    randomToKey (.other n) seed = .error (.unsupportedKeyType n) := by
  simp [randomToKey, seedLength, EncType.seedLength?, EncType.family?, EncType.number]

/-- Keys from random bytes. A 21-byte seed makes a 24-byte triple-DES key whose bytes all have
odd parity: seed byte `7 j + i` keeps its bits 1 to 7 in key byte `8 j + i` and its bit 0 at
bit `i + 1` of key byte `8 j + 7`, so no two seeds make the same key. An 8-byte seed makes a
single-DES key: the seed with each low bit replaced by the odd-parity bit. A seed of any other
length is refused as an invalid key, and a type outside the known ones as unsupported. -/
theorem random_to_key_keeps_seed_bits :
    (∀ seed : Bytes, seed.length = 21 → ∃ key, randomToKey .des3CbcSha1Kd seed = .ok key ∧
      key.encType = .des3CbcSha1Kd ∧ key.bytes.length = 24 ∧ oddParity key.bytes = true ∧
      ∀ j < 3, ∀ i < 7,
        (∀ k, 0 < k → key.bytes[8 * j + i]!.toNat.testBit k = seed[7 * j + i]!.toNat.testBit k) ∧
          key.bytes[8 * j + 7]!.toNat.testBit (i + 1) = seed[7 * j + i]!.toNat.testBit 0) ∧
    (∀ seed seed' : Bytes, seed.length = 21 → seed'.length = 21 →
      randomToKey .des3CbcSha1Kd seed = randomToKey .des3CbcSha1Kd seed' → seed = seed') ∧
    (∀ e : EncType, e.family? = some .des → ∀ seed : Bytes, seed.length = 8 →
      ∃ key, randomToKey e seed = .ok key ∧ key.encType = e ∧ key.bytes.length = 8 ∧
        ∀ i < 8, (∀ k, 0 < k → key.bytes[i]!.toNat.testBit k = seed[i]!.toNat.testBit k) ∧
          popCount key.bytes[i]! % 2 = 1) ∧
    (∀ (e : EncType) (n : Nat), e.seedLength? = some n → ∀ seed : Bytes, seed.length ≠ n →
      randomToKey e seed = .error (.invalidKey
        (toString n ++ " seed bytes required, got " ++ toString seed.length))) ∧
    (∀ (n : Int32) (seed : Bytes), randomToKey (.other n) seed = .error (.unsupportedKeyType n)) := by
  refine ⟨fun seed sized => ⟨_, randomToKey_des3 sized, rfl, length_des3KeyBytes sized,
      oddParity_des3KeyBytes seed, fun j hj i hi => des3KeyBytes_bits sized hj hi⟩,
    fun seed seed' sized sized' same => ?_,
    fun e des seed sized => ⟨_, randomToKey_des des sized, rfl, by simp [sized], fun i hi => ?_⟩,
    fun e n known seed wrong => randomToKey_of_length_ne known wrong, randomToKey_other⟩
  · rw [randomToKey_des3 sized, randomToKey_des3 sized', Except.ok.injEq, SessionKey.mk.injEq]
      at same
    exact des3KeyBytes_injective sized sized' same.2
  · have byte : (seed.map fixParity)[i]! = fixParity seed[i]! := by
      simp [sized ▸ hi]
    rw [byte]
    exact ⟨fun k positive => testBit_fixParity _ positive, popCount_fixParity _⟩

end GssApi
