import GssApi.Error
import GssApi.Proofs.Framing
import Mathlib.Algebra.Group.Nat.Defs

/-! Dotted text and content bytes of object identifiers.

The content bytes of an identifier are a sequence of subidentifiers: base-128 digits, most
significant first, with the high bit set on every byte but the last. The first subidentifier
packs the first two arcs as `40 a0 + a1`. `subidentifiers` cuts content bytes into
subidentifiers and `groupValue` reads one; these two are the vocabulary of the statements and
do not come from the decoder.

`arcsFrom_groups` says what the decoder makes of any bytes: the arcs of their subidentifiers,
refused when one of them leaves 64 bits or the bytes end inside one.
`encodeSubidentifier_groupValue` says the encoder writes the one subidentifier of a value that
does not begin with a `0x80` byte, and `parse?_dotted_eq_some` says which dotted decimal texts
name an identifier and with which bytes. Main statement: `oid_dotted_der_round_trip`. -/
namespace GssApi

namespace Text

theorem digitValue?_of_isDigit {c : Char} (digit : c.isDigit) :
    digitValue? 10 c = some (c.toNat - 48) := by
  obtain ⟨above, below⟩ := Char.isDigit_iff_toNat.mp digit
  have low : '0' ≤ c := by
    rw [Char.le_def, UInt32.le_iff_toNat_le, Char.toNat_val, Char.toNat_val]
    exact above
  have high : c ≤ '9' := by
    rw [Char.le_def, UInt32.le_iff_toNat_le, Char.toNat_val, Char.toNat_val]
    exact below
  have nine : '9'.toNat = 57 := rfl
  simp only [digitValue?, low, high, and_self, if_true]
  rw [if_pos (by omega)]

theorem le_ofDigitChars (cs : List Char) (init : Nat) : init ≤ Nat.ofDigitChars 10 cs init := by
  rw [Nat.ofDigitChars_eq_ofDigitChars_zero]
  calc init ≤ 10 ^ cs.length * init := Nat.le_mul_of_pos_left init (Nat.pow_pos (by decide))
    _ ≤ _ := Nat.le_add_right _ _

/-- Reading digits keeps the value exactly when it stays below the bound; the value only grows,
so it is enough that the whole numeral's value does. -/
theorem accumulate_digits {bound : Nat} :
    ∀ {cs : List Char}, (∀ c ∈ cs, c.isDigit) → ∀ {acc : Nat}, acc < bound →
      accumulate 10 bound acc cs =
        if Nat.ofDigitChars 10 cs acc < bound then .ok (Nat.ofDigitChars 10 cs acc)
        else .error .tooLarge := by
  intro cs
  induction cs with
  | nil =>
    intro _ acc fits
    simp [accumulate, fits]
  | cons c cs ih =>
    intro digits acc fits
    have zero : '0'.toNat = 48 := rfl
    rw [accumulate, digitValue?_of_isDigit (digits c (by simp)), Nat.ofDigitChars_cons, zero]
    dsimp only
    rw [Nat.mul_comm 10 acc]
    split
    · exact ih (fun d hd => digits d (by simp [hd])) ‹_›
    · rename_i beyond
      rw [if_neg (fun below => beyond (Nat.lt_of_le_of_lt (le_ofDigitChars cs _) below))]

/-- A numeral that starts with a digit is read digit by digit from its first character. -/
theorem parseUnsigned_of_isDigit {s : String} {c : Char} {cs : List Char}
    (chars : s.toList = c :: cs) (digit : c.isDigit) (radix bound : Nat) :
    parseUnsigned radix bound s = accumulate radix bound 0 (c :: cs) := by
  have notSign : c ≠ '+' ∧ c ≠ '-' := by
    constructor <;> (rintro rfl; revert digit; decide)
  unfold parseUnsigned
  rw [chars]
  split <;> simp_all

/-- A decimal numeral as `toString` writes it reads back as its value when that is below 2^64. -/
theorem parseU64?_toDigits (n : Nat) :
    parseU64? (String.ofList (Nat.toDigits 10 n)) = if n < 2 ^ 64 then some n else none := by
  have digits (c : Char) (member : c ∈ Nat.toDigits 10 n) : c.isDigit :=
    Nat.isDigit_of_mem_toDigits (by decide) (by decide) member
  obtain ⟨c, cs, chars⟩ := List.exists_cons_of_ne_nil (Nat.toDigits_ne_nil (n := n) (b := 10))
  have size : UInt64.size = 2 ^ 64 := rfl
  unfold parseU64?
  rw [parseUnsigned_of_isDigit (by rw [String.toList_ofList, chars]) (digits c (by simp [chars])),
    ← chars, accumulate_digits digits (by decide), Nat.ofDigitChars_ten_toDigits, size]
  by_cases fits : n < 2 ^ 64
  · rw [if_pos fits, if_pos fits]
  · rw [if_neg fits, if_neg fits]

theorem mapM_parseU64? (a : List Nat) :
    (a.map (Nat.toDigits 10)).mapM (fun part => parseU64? (String.ofList part)) =
      if ∀ x ∈ a, x < 2 ^ 64 then some a else none := by
  induction a with
  | nil => rfl
  | cons x a ih =>
    rw [List.map_cons, List.mapM_cons, parseU64?_toDigits, ih]
    by_cases fits : x < 2 ^ 64
    · by_cases rest : ∀ y ∈ a, y < 2 ^ 64
      · have all : ∀ y ∈ x :: a, y < 2 ^ 64 := fun y hy =>
          (List.mem_cons.mp hy).elim (fun same => same ▸ fits) (rest y)
        rw [if_pos fits, if_pos rest, if_pos all]
        rfl
      · have notAll : ¬∀ y ∈ x :: a, y < 2 ^ 64 := fun all =>
          rest (fun y hy => all y (List.mem_cons_of_mem x hy))
        rw [if_pos fits, if_neg rest, if_neg notAll]
        rfl
    · have notAll : ¬∀ y ∈ x :: a, y < 2 ^ 64 := fun all => fits (all x List.mem_cons_self)
      rw [if_neg fits, if_neg notAll]
      rfl

end Text

namespace Oid

/-! ### Bytes of a subidentifier -/

section Bytes

/-! Every fact about a byte below is read off three descriptions of its value: the digit
`b &&& 0x7F` is the value mod 128, the high bit is clear below 128, and setting it adds 128
to the digit. -/

theorem nat_and_digit (n : Nat) : n &&& 127 = n % 128 :=
  Nat.and_two_pow_sub_one_eq_mod n 7

theorem nat_and_high (n : Nat) : n &&& 128 = 128 * (n / 128 % 2) := by
  have quotient : (n &&& 128) / 128 = n / 128 % 2 := by
    rw [show (128 : Nat) = 2 ^ 7 by decide, Nat.and_div_two_pow, Nat.div_self (Nat.two_pow_pos 7)]
    exact Nat.and_two_pow_sub_one_eq_mod _ 1
  have remainder : (n &&& 128) % 128 = 0 := by
    rw [show (128 : Nat) = 2 ^ 7 by decide, Nat.and_mod_two_pow, Nat.mod_self, Nat.and_zero]
  rw [← Nat.div_add_mod (n &&& 128) 128, quotient, remainder, Nat.add_zero]

theorem nat_or_high {n : Nat} (byte : n < 256) : n ||| 128 = n % 128 + 128 := by
  -- below 256 the quotient by 128 is a single bit, and or-ing it with 1 gives 1
  have quotient : (n ||| 128) / 128 = 1 := by
    rw [show (128 : Nat) = 2 ^ 7 by decide, Nat.or_div_two_pow, Nat.div_self (Nat.two_pow_pos 7)]
    have bit : n / 2 ^ 7 = 0 ∨ n / 2 ^ 7 = 1 := by omega
    rcases bit with zero | one
    · rw [zero]; rfl
    · rw [one]; rfl
  have remainder : (n ||| 128) % 128 = n % 128 := by
    rw [show (128 : Nat) = 2 ^ 7 by decide, Nat.or_mod_two_pow, Nat.mod_self, Nat.or_zero]
  rw [← Nat.div_add_mod (n ||| 128) 128, quotient, remainder]
  omega

theorem toNat_digit (b : UInt8) : (b &&& 0x7F).toNat = b.toNat % 128 := by
  rw [UInt8.toNat_and]
  exact nat_and_digit b.toNat

theorem high_eq_zero_iff (b : UInt8) : b &&& 0x80 = 0 ↔ b.toNat < 128 := by
  rw [← UInt8.toNat_inj, UInt8.toNat_and]
  show b.toNat &&& 128 = 0 ↔ _
  have byte := b.toNat_lt
  rw [nat_and_high]
  omega

theorem toNat_or_high (b : UInt8) : (b ||| 0x80).toNat = b.toNat % 128 + 128 := by
  rw [UInt8.toNat_or]
  exact nat_or_high b.toNat_lt

variable {b : UInt8}

theorem large_of_high (high : b &&& 0x80 ≠ 0) : 128 ≤ b.toNat :=
  Nat.le_of_not_lt (mt (high_eq_zero_iff b).mpr high)

theorem digit_lt (b : UInt8) : (b &&& 0x7F).toNat < 128 := by
  rw [toNat_digit]
  exact Nat.mod_lt _ (by decide)

theorem digit_of_low (low : b &&& 0x80 = 0) : b &&& 0x7F = b := by
  rw [← UInt8.toNat_inj, toNat_digit, Nat.mod_eq_of_lt ((high_eq_zero_iff b).mp low)]

theorem or_of_high (high : b &&& 0x80 ≠ 0) : b ||| 0x80 = b := by
  have large := large_of_high high
  have byte := b.toNat_lt
  rw [← UInt8.toNat_inj, toNat_or_high]
  omega

theorem digit_or_of_high (high : b &&& 0x80 ≠ 0) : (b &&& 0x7F) ||| 0x80 = b := by
  have large := large_of_high high
  have byte := b.toNat_lt
  rw [← UInt8.toNat_inj, toNat_or_high, toNat_digit]
  omega

theorem or_digit (b : UInt8) : (b ||| 0x80) &&& 0x7F = b &&& 0x7F := by
  rw [← UInt8.toNat_inj, toNat_digit, toNat_digit, toNat_or_high]
  omega

theorem or_high (b : UInt8) : (b ||| 0x80) &&& 0x80 ≠ 0 := by
  rw [Ne, high_eq_zero_iff, toNat_or_high]
  omega

theorem digit_low (b : UInt8) : (b &&& 0x7F) &&& 0x80 = 0 :=
  (high_eq_zero_iff _).mpr (digit_lt b)

theorem digit_digit (b : UInt8) : (b &&& 0x7F) &&& 0x7F = b &&& 0x7F :=
  digit_of_low (digit_low b)

theorem digit_ne_zero (high : b &&& 0x80 ≠ 0) (other : b ≠ 0x80) : (b &&& 0x7F).toNat ≠ 0 := by
  have large := large_of_high high
  have byte := b.toNat_lt
  have not128 : b.toNat ≠ 128 := fun same => other (UInt8.toNat_inj.mp same)
  rw [toNat_digit]
  omega

theorem or_ne (digit : (b &&& 0x7F).toNat ≠ 0) : b ||| 0x80 ≠ 0x80 := by
  intro same
  have value : b.toNat % 128 + 128 = 128 := by
    rw [← toNat_or_high, same]
    rfl
  rw [toNat_digit] at digit
  omega

theorem ne_of_low (low : b &&& 0x80 = 0) : b ≠ 0x80 := by
  rintro rfl
  exact absurd low (by decide)

theorem ofNat_low {d : Nat} (hd : d < 128) : UInt8.ofNat d &&& 0x80 = 0 := by
  rw [high_eq_zero_iff, Bytes.toNat_ofNat_byte (by omega)]
  exact hd

theorem digit_ofNat {d : Nat} (hd : d < 128) : (UInt8.ofNat d &&& 0x7F).toNat = d := by
  rw [toNat_digit, Bytes.toNat_ofNat_byte (by omega), Nat.mod_eq_of_lt hd]

end Bytes

/-! ### Subidentifiers -/

/-- Base-128 digits read onto `w`, most significant first; the high bit of each byte is no
digit but says whether more follow. -/
def readDigits (w : Nat) (g : Bytes) : Nat := g.foldl (fun v b => v * 128 + (b &&& 0x7F).toNat) w

/-- The value of a subidentifier. -/
def groupValue (g : Bytes) : Nat := readDigits 0 g

/-- A subidentifier: bytes with the high bit set on every byte but the last. -/
def IsGroup (g : Bytes) : Prop :=
  ∃ init last, g = init ++ [last] ∧ (∀ b ∈ init, b &&& 0x80 ≠ 0) ∧ last &&& 0x80 = 0

/-- Content bytes cut into subidentifiers, each ending at a byte with the high bit clear.
Bytes after the last such byte belong to no subidentifier. -/
def subidentifiers : Bytes → List Bytes
  | [] => []
  | b :: rest =>
    if b &&& 0x80 = 0 then [b] :: subidentifiers rest
    else
      match subidentifiers rest with
      | [] => []
      | g :: gs => (b :: g) :: gs

@[simp] theorem readDigits_nil (w : Nat) : readDigits w [] = w := rfl

@[simp] theorem readDigits_cons (w : Nat) (b : UInt8) (g : Bytes) :
    readDigits w (b :: g) = readDigits (w * 128 + (b &&& 0x7F).toNat) g := rfl

theorem readDigits_concat (w : Nat) (g : Bytes) (b : UInt8) :
    readDigits w (g ++ [b]) = readDigits w g * 128 + (b &&& 0x7F).toNat := by
  rw [readDigits, List.foldl_append]
  rfl

theorem le_readDigits (g : Bytes) : ∀ w, w ≤ readDigits w g := by
  induction g with
  | nil => intro w; exact Nat.le_refl w
  | cons b g ih =>
    intro w
    rw [readDigits_cons]
    exact Nat.le_trans (by omega) (ih _)

/-- A subidentifier whose first digit is not zero has a positive value. -/
theorem groupValue_cons_pos {x : UInt8} (digit : (x &&& 0x7F).toNat ≠ 0) (rest : Bytes) :
    0 < groupValue (x :: rest) := by
  have grown := le_readDigits rest (0 * 128 + (x &&& 0x7F).toNat)
  rw [groupValue, readDigits_cons]
  omega

/-- Setting the high bit changes no digit. -/
theorem readDigits_map_or (g : Bytes) : ∀ w, readDigits w (g.map (· ||| 0x80)) = readDigits w g := by
  induction g with
  | nil => intro w; rfl
  | cons b g ih =>
    intro w
    rw [List.map_cons, readDigits_cons, readDigits_cons, or_digit, ih]

theorem subidentifiers_group_append {g : Bytes} (group : IsGroup g) (rest : Bytes) :
    subidentifiers (g ++ rest) = g :: subidentifiers rest := by
  obtain ⟨init, last, rfl, more, low⟩ := group
  induction init with
  | nil => rw [List.nil_append, List.singleton_append, subidentifiers, if_pos low]
  | cons b init ih =>
    rw [List.cons_append, List.cons_append, subidentifiers, if_neg (more b (by simp)),
      ← List.cons_append, ih (fun x hx => more x (by simp [hx]))]
    rfl

theorem subidentifiers_flatten {gs : List Bytes} (groups : ∀ g ∈ gs, IsGroup g) :
    subidentifiers gs.flatten = gs := by
  induction gs with
  | nil => rfl
  | cons g gs ih =>
    rw [List.flatten_cons, subidentifiers_group_append (groups g (by simp)),
      ih (fun h hh => groups h (by simp [hh]))]

/-- Every byte string is its subidentifiers followed by a run of bytes with the high bit set,
the subidentifier it ends inside. -/
theorem subidentifiers_spec (d : Bytes) :
    (∀ g ∈ subidentifiers d, IsGroup g) ∧
      ∃ tail, d = (subidentifiers d).flatten ++ tail ∧ ∀ b ∈ tail, b &&& 0x80 ≠ 0 := by
  induction d with
  | nil => exact ⟨by simp [subidentifiers], [], rfl, by simp⟩
  | cons b rest ih =>
    obtain ⟨groups, tail, split, unfinished⟩ := ih
    by_cases low : b &&& 0x80 = 0
    · -- `b` is a subidentifier of its own
      rw [subidentifiers, if_pos low]
      refine ⟨List.forall_mem_cons.mpr ⟨⟨[], b, rfl, by simp, low⟩, groups⟩, tail,
        by rw [List.flatten_cons, List.singleton_append, List.cons_append, ← split], unfinished⟩
    · rw [subidentifiers, if_neg low]
      cases first : subidentifiers rest with
      | nil =>
        -- no subidentifier follows: `b` joins the unfinished tail
        rw [first, List.flatten_nil, List.nil_append] at split
        exact ⟨by simp, b :: tail, by rw [split]; rfl, List.forall_mem_cons.mpr ⟨low, unfinished⟩⟩
      | cons g gs =>
        -- `b` joins the first subidentifier that follows
        rw [first, List.forall_mem_cons] at groups
        rw [first] at split
        obtain ⟨⟨init, last, rfl, more, lowLast⟩, others⟩ := groups
        refine ⟨List.forall_mem_cons.mpr ⟨?_, others⟩, tail, by rw [split]; rfl, unfinished⟩
        exact ⟨b :: init, last, rfl, List.forall_mem_cons.mpr ⟨low, more⟩, lowLast⟩

/-! ### The decoder -/

/-- The first two arcs, packed in the first subidentifier as `40 a0 + a1` with `a0` at most 2. -/
def firstArcs (v : Nat) : List Nat := [min (v / 40) 2, v - min (v / 40) 2 * 40]

/-- The arcs read so far, in reverse, after one more subidentifier of value `v`. -/
def pushArc (acc : List Nat) (v : Nat) : List Nat :=
  if acc.isEmpty then (firstArcs v).reverse else v :: acc

theorem shiftLimit_mul : shiftLimit * 128 + 128 = 2 ^ 64 := by decide

theorem arcsFrom_low {acc : List Nat} {value : Nat} {pending : Bool} {b : UInt8} {rest : Bytes}
    (low : b &&& 0x80 = 0) (fits : value ≤ shiftLimit) :
    arcsFrom acc value pending (b :: rest) =
      arcsFrom (pushArc acc (value * 128 + (b &&& 0x7F).toNat)) 0 false rest := by
  rw [arcsFrom, if_neg (Nat.not_lt.mpr fits)]
  dsimp only
  rw [if_pos low, pushArc]
  split <;> rfl

theorem arcsFrom_high {acc : List Nat} {value : Nat} {pending : Bool} {b : UInt8} {rest : Bytes}
    (high : b &&& 0x80 ≠ 0) (fits : value ≤ shiftLimit) :
    arcsFrom acc value pending (b :: rest) =
      arcsFrom acc (value * 128 + (b &&& 0x7F).toNat) true rest := by
  rw [arcsFrom, if_neg (Nat.not_lt.mpr fits)]
  dsimp only
  rw [if_neg high]

theorem arcsFrom_over {acc : List Nat} {value : Nat} {pending : Bool} {b : UInt8} {rest : Bytes}
    (beyond : shiftLimit < value) : arcsFrom acc value pending (b :: rest) = none := by
  rw [arcsFrom, if_pos beyond]

/-- Reading one subidentifier: its digits accumulate onto `value`, and the decoder refuses it
exactly when the result leaves 64 bits, which the test before each digit finds at the last. -/
theorem arcsFrom_group {acc : List Nat} {g : Bytes} (group : IsGroup g) (rest : Bytes) :
    ∀ (value : Nat) (pending : Bool), arcsFrom acc value pending (g ++ rest) =
      if readDigits value g < 2 ^ 64 then arcsFrom (pushArc acc (readDigits value g)) 0 false rest
      else none := by
  obtain ⟨init, last, rfl, more, low⟩ := group
  have limit := shiftLimit_mul
  have digit := digit_lt last
  induction init with
  | nil =>
    intro value pending
    rw [List.nil_append, List.singleton_append, readDigits_cons, readDigits_nil]
    by_cases fits : value ≤ shiftLimit
    · rw [arcsFrom_low low fits, if_pos (by omega)]
    · rw [arcsFrom_over (by omega), if_neg (by omega)]
  | cons b init ih =>
    intro value pending
    have high := more b (by simp)
    rw [List.cons_append, List.cons_append, readDigits_cons]
    by_cases fits : value ≤ shiftLimit
    · rw [arcsFrom_high high fits, ih (fun x hx => more x (by simp [hx]))]
    · have grown := le_readDigits (init ++ [last]) (value * 128 + (b &&& 0x7F).toNat)
      rw [arcsFrom_over (by omega), if_neg (by omega)]

/-- Bytes with the high bit set all through end inside a subidentifier. -/
theorem arcsFrom_unfinished {acc : List Nat} :
    ∀ {tail : Bytes}, tail ≠ [] → (∀ b ∈ tail, b &&& 0x80 ≠ 0) →
      ∀ value pending, arcsFrom acc value pending tail = none := by
  intro tail
  induction tail with
  | nil => intro nonempty; exact absurd rfl nonempty
  | cons b rest ih =>
    intro _ high value pending
    by_cases fits : value ≤ shiftLimit
    · rw [arcsFrom_high (high b (by simp)) fits]
      cases rest with
      | nil => rfl
      | cons c rest => exact ih (by simp) (fun x hx => high x (by simp [hx])) _ _
    · rw [arcsFrom_over (by omega)]

theorem pushArc_ne_nil (acc : List Nat) (v : Nat) : pushArc acc v ≠ [] := by
  unfold pushArc
  split <;> simp [firstArcs]

theorem foldl_pushArc {acc : List Nat} (started : acc ≠ []) (vs : List Nat) :
    vs.foldl pushArc acc = vs.reverse ++ acc := by
  induction vs generalizing acc with
  | nil => rfl
  | cons v vs ih =>
    have more : pushArc acc v = v :: acc := by
      rw [pushArc, if_neg (by simpa using started)]
    rw [List.foldl_cons, more, ih (List.cons_ne_nil v acc), List.reverse_cons, List.append_assoc,
      List.singleton_append]

/-- What the decoder makes of a sequence of subidentifiers and a run of bytes with the high bit
set: their arcs when every subidentifier fits in 64 bits and the run is empty. -/
theorem arcsFrom_groups :
    ∀ (gs : List Bytes) (acc : List Nat) (tail : Bytes), (∀ g ∈ gs, IsGroup g) →
      (∀ b ∈ tail, b &&& 0x80 ≠ 0) →
      arcsFrom acc 0 false (gs.flatten ++ tail) =
        if (∀ g ∈ gs, groupValue g < 2 ^ 64) ∧ tail = [] ∧
            (gs.map groupValue).foldl pushArc acc ≠ [] then
          some ((gs.map groupValue).foldl pushArc acc).reverse
        else none := by
  intro gs
  induction gs with
  | nil =>
    intro acc tail _ unfinished
    cases tail with
    | nil => cases acc <;> simp [arcsFrom]
    | cons b rest =>
      rw [List.flatten_nil, List.nil_append, arcsFrom_unfinished (List.cons_ne_nil b rest) unfinished,
        if_neg (fun holds => List.cons_ne_nil b rest holds.2.1)]
  | cons g gs ih =>
    intro acc tail groups unfinished
    rw [List.flatten_cons, List.append_assoc, arcsFrom_group (groups g (by simp)) _ 0 false,
      ← groupValue, List.map_cons, List.foldl_cons]
    have first : (∀ h ∈ g :: gs, groupValue h < 2 ^ 64) ↔
        groupValue g < 2 ^ 64 ∧ ∀ h ∈ gs, groupValue h < 2 ^ 64 := List.forall_mem_cons
    by_cases fits : groupValue g < 2 ^ 64
    · rw [if_pos fits, ih _ tail (fun h hh => groups h (by simp [hh])) unfinished]
      exact ite_congr (propext ⟨fun rest => ⟨first.mpr ⟨fits, rest.1⟩, rest.2⟩,
        fun all => ⟨(first.mp all.1).2, all.2⟩⟩) (fun _ => rfl) (fun _ => rfl)
    · rw [if_neg fits,
        if_neg (fun all : (∀ h ∈ g :: gs, groupValue h < 2 ^ 64) ∧ _ => fits (first.mp all.1).1)]

/-- A non-empty byte string made of whole subidentifiers ends with a byte whose high bit is
clear. -/
theorem getLast?_flatten_groups {gs : List Bytes} (groups : ∀ g ∈ gs, IsGroup g) :
    ∀ b, gs.flatten.getLast? = some b → b &&& 0x80 = 0 := by
  induction gs with
  | nil => simp
  | cons g gs ih =>
    intro b last
    have others := ih (fun h hh => groups h (by simp [hh]))
    obtain ⟨init, lastByte, rfl, -, low⟩ := groups g (by simp)
    rw [List.flatten_cons, List.getLast?_append] at last
    cases rest : gs.flatten.getLast? with
    | some c =>
      rw [rest, Option.some_or] at last
      exact Option.some.inj last ▸ others c rest
    | none =>
      rw [rest, Option.none_or, List.getLast?_concat] at last
      exact Option.some.inj last ▸ low

/-- The arcs of an identifier are refused exactly when its bytes end inside a subidentifier or
one of its subidentifiers leaves 64 bits. -/
theorem arcs_eq_none_iff (o : Oid) :
    o.arcs = none ↔ (∃ b, o.bytes.getLast? = some b ∧ b &&& 0x80 ≠ 0) ∨
      ∃ g ∈ subidentifiers o.bytes, 2 ^ 64 ≤ groupValue g := by
  obtain ⟨groups, tail, split, unfinished⟩ := subidentifiers_spec o.bytes
  have decoded := arcsFrom_groups _ [] tail groups unfinished
  rw [← split] at decoded
  rw [arcs, decoded]
  cases tail with
  | nil =>
    rw [List.append_nil] at split
    have started : ((subidentifiers o.bytes).map groupValue).foldl pushArc [] ≠ [] := by
      cases first : subidentifiers o.bytes with
      | nil => exact absurd (by rw [split, first]; rfl) o.nonempty
      | cons g gs =>
        rw [List.map_cons, List.foldl_cons, foldl_pushArc (pushArc_ne_nil [] _)]
        simp [pushArc_ne_nil]
    have whole : ∀ b, o.bytes.getLast? = some b → b &&& 0x80 = 0 := by
      rw [split]
      exact getLast?_flatten_groups groups
    by_cases big : ∃ g ∈ subidentifiers o.bytes, 2 ^ 64 ≤ groupValue g
    · obtain ⟨g, hg, beyond⟩ := big
      rw [if_neg (fun holds => absurd (holds.1 g hg) (Nat.not_lt.mpr beyond))]
      exact ⟨fun _ => Or.inr ⟨g, hg, beyond⟩, fun _ => rfl⟩
    · have small : ∀ g ∈ subidentifiers o.bytes, groupValue g < 2 ^ 64 :=
        fun g hg => Nat.lt_of_not_le (fun beyond => big ⟨g, hg, beyond⟩)
      rw [if_pos ⟨small, rfl, started⟩]
      refine ⟨fun refused => absurd refused (Option.some_ne_none _), ?_⟩
      rintro (⟨b, last, high⟩ | found)
      · exact absurd (whole b last) high
      · exact absurd found big
  | cons b rest =>
    have ends : o.bytes.getLast? = some ((b :: rest).getLast (List.cons_ne_nil b rest)) := by
      rw [split, List.getLast?_append, List.getLast?_eq_some_getLast (List.cons_ne_nil b rest),
        Option.some_or]
    rw [if_neg (fun holds => List.cons_ne_nil b rest holds.2.1)]
    exact ⟨fun _ => Or.inl ⟨_, ends, unfinished _ (List.getLast_mem _)⟩, fun _ => rfl⟩

/-- Read arcs come from whole subidentifiers that fit in 64 bits: the first gives two arcs,
each of the others one. -/
theorem arcs_eq_some {o : Oid} {as : List Nat} (read : o.arcs = some as) :
    ∃ v vs, (subidentifiers o.bytes).map groupValue = v :: vs ∧
      (subidentifiers o.bytes).flatten = o.bytes ∧ (∀ w ∈ v :: vs, w < 2 ^ 64) ∧
      as = firstArcs v ++ vs := by
  obtain ⟨groups, tail, split, unfinished⟩ := subidentifiers_spec o.bytes
  have decoded := arcsFrom_groups _ [] tail groups unfinished
  rw [← split, ← arcs, read] at decoded
  split at decoded
  · rename_i holds
    obtain ⟨small, rfl, started⟩ := holds
    cases first : subidentifiers o.bytes with
    | nil => exact absurd (by rw [first]; rfl) started
    | cons g gs =>
      rw [first] at decoded small split
      refine ⟨groupValue g, gs.map groupValue, by rw [List.map_cons], by rw [split]; simp, ?_, ?_⟩
      · intro w hw
        rw [← List.map_cons] at hw
        obtain ⟨h, hh, rfl⟩ := List.mem_map.mp hw
        exact small h hh
      · rw [List.map_cons, List.foldl_cons, foldl_pushArc (pushArc_ne_nil [] _)] at decoded
        rw [Option.some.inj decoded]
        simp [pushArc, firstArcs]
  · exact absurd decoded (by simp)

/-! ### The encoder -/

theorem base128Digits_eq_cons (w : Nat) : ∃ high, base128Digits w = w % 128 :: high := by
  rw [base128Digits]
  split
  · exact ⟨[], by rw [Nat.mod_eq_of_lt ‹_›]⟩
  · exact ⟨_, rfl⟩

/-- The encoder writes the digits above the lowest one as the encoding of `v / 128`, with the
high bit set on all of them. -/
theorem encodeSubidentifier_eq (v : Nat) :
    encodeSubidentifier v =
      if v < 128 then [UInt8.ofNat v]
      else (encodeSubidentifier (v / 128)).map (· ||| 0x80) ++ [UInt8.ofNat (v % 128)] := by
  obtain ⟨high, digits⟩ := base128Digits_eq_cons (v / 128)
  have idempotent (d : Nat) : (UInt8.ofNat d ||| 0x80) ||| 0x80 = UInt8.ofNat d ||| 0x80 := by
    rw [UInt8.or_assoc, UInt8.or_self]
  by_cases small : v < 128
  · rw [if_pos small, encodeSubidentifier, base128Digits, if_pos small]
    rfl
  · have unfolded : base128Digits v = v % 128 :: base128Digits (v / 128) := by
      rw [base128Digits, if_neg small]
    rw [if_neg small]
    unfold encodeSubidentifier
    rw [unfolded, digits]
    dsimp only
    rw [List.reverse_cons, List.map_append, List.map_append, List.map_map]
    simp only [Function.comp_def, idempotent, List.map_cons, List.map_nil]

theorem isGroup_encodeSubidentifier (v : Nat) : IsGroup (encodeSubidentifier v) := by
  rw [encodeSubidentifier_eq]
  split
  · exact ⟨[], _, rfl, by simp, ofNat_low ‹_›⟩
  · refine ⟨_, _, rfl, ?_, ofNat_low (Nat.mod_lt v (by decide))⟩
    intro b hb
    obtain ⟨x, -, rfl⟩ := List.mem_map.mp hb
    exact or_high x

theorem groupValue_encodeSubidentifier (v : Nat) : groupValue (encodeSubidentifier v) = v := by
  induction v using Nat.strongRecOn with
  | ind v ih =>
    rw [encodeSubidentifier_eq]
    split
    · rename_i small
      rw [groupValue, readDigits_cons, readDigits_nil, digit_ofNat small]
      omega
    · rename_i big
      rw [groupValue, readDigits_concat, readDigits_map_or, ← groupValue,
        ih (v / 128) (by omega), digit_ofNat (Nat.mod_lt v (by decide))]
      omega

/-- The first byte of the encoding of a positive value carries a non-zero digit. -/
theorem encodeSubidentifier_head (v : Nat) (positive : 0 < v) :
    ∃ x rest, encodeSubidentifier v = x :: rest ∧ (x &&& 0x7F).toNat ≠ 0 := by
  induction v using Nat.strongRecOn with
  | ind v ih =>
    rw [encodeSubidentifier_eq]
    split
    · rename_i small
      exact ⟨_, [], rfl, by rw [digit_ofNat small]; omega⟩
    · obtain ⟨x, rest, first, digit⟩ := ih (v / 128) (by omega) (by omega)
      refine ⟨x ||| 0x80, rest.map (· ||| 0x80) ++ [UInt8.ofNat (v % 128)], ?_, ?_⟩
      · rw [first, List.map_cons, List.cons_append]
      · rw [or_digit]
        exact digit

/-- The encoder writes no subidentifier that begins with a `0x80` byte. -/
theorem head_encodeSubidentifier (v : Nat) : (encodeSubidentifier v).head? ≠ some 0x80 := by
  rw [encodeSubidentifier_eq]
  split
  · exact fun same => ne_of_low (ofNat_low ‹_›) (Option.some.inj same)
  · obtain ⟨x, rest, first, digit⟩ := encodeSubidentifier_head (v / 128) (by omega)
    rw [first, List.map_cons, List.cons_append, List.head?_cons]
    exact fun same => or_ne digit (Option.some.inj same)

/-- Bytes that are a subidentifier not beginning with a `0x80` byte are the encoding of their
value: the minimal base-128 encoding is the only one without a leading zero digit. The
induction is on the value and peels the lowest digit, as the encoder does. -/
theorem encodeSubidentifier_of_value (v : Nat) :
    ∀ {init : Bytes} {last : UInt8}, (∀ b ∈ init, b &&& 0x80 ≠ 0) → last &&& 0x80 = 0 →
      (init ++ [last]).head? ≠ some 0x80 → groupValue (init ++ [last]) = v →
      encodeSubidentifier v = init ++ [last] := by
  induction v using Nat.strongRecOn with
  | ind v ih =>
    intro init last more low minimal value
    have lastDigit : (last &&& 0x7F).toNat = last.toNat := by rw [digit_of_low low]
    have lastSmall := digit_lt last
    rcases init.eq_nil_or_concat with rfl | ⟨init, b, rfl⟩
    · -- one byte: its value is the byte
      rw [List.nil_append, groupValue, readDigits_cons, readDigits_nil, lastDigit] at value
      rw [encodeSubidentifier_eq, if_pos (by omega), ← value, Nat.zero_mul, Nat.zero_add,
        UInt8.ofNat_toNat, List.nil_append]
    · rw [List.concat_eq_append] at more minimal value ⊢
      have high := more b (by simp)
      -- the digits above the lowest, with the high bit of their last byte cleared
      have upperValue : groupValue (init ++ [b &&& 0x7F]) * 128 + last.toNat = v := by
        rw [← value, ← lastDigit, groupValue, groupValue, readDigits_concat, readDigits_concat,
          readDigits_concat, digit_digit]
      -- the first byte is `b` or the head of `init`; either way its digit is not zero
      have positive : 0 < groupValue (init ++ [b &&& 0x7F]) := by
        cases init with
        | nil =>
          refine groupValue_cons_pos ?_ []
          rw [digit_digit]
          exact digit_ne_zero high (fun same => minimal (by simp [same]))
        | cons x rest =>
          exact groupValue_cons_pos
            (digit_ne_zero (more x (by simp)) (fun same => minimal (by simp [same]))) _
      have upperMinimal : (init ++ [b &&& 0x7F]).head? ≠ some 0x80 := by
        cases init with
        | nil => simpa using ne_of_low (digit_low b)
        | cons x rest => simpa using minimal
      have upper := ih _ (by omega) (fun x hx => more x (by simp [hx])) (digit_low b)
        upperMinimal rfl
      have kept : init.map (· ||| 0x80) = init :=
        calc init.map (· ||| 0x80) = init.map id :=
              List.map_congr_left (fun x hx => or_of_high (more x (by simp [hx])))
          _ = init := List.map_id init
      rw [encodeSubidentifier_eq, if_neg (by omega),
        show v / 128 = groupValue (init ++ [b &&& 0x7F]) by omega, upper,
        show v % 128 = last.toNat by omega, UInt8.ofNat_toNat, List.map_append, List.map_singleton,
        digit_or_of_high high, kept]

theorem encodeSubidentifier_groupValue {g : Bytes} (group : IsGroup g)
    (minimal : g.head? ≠ some 0x80) : encodeSubidentifier (groupValue g) = g := by
  obtain ⟨init, last, rfl, more, low⟩ := group
  exact encodeSubidentifier_of_value _ more low minimal rfl

/-- Values written one after another read back as themselves. -/
theorem map_groupValue_encode (vs : List Nat) :
    (vs.map encodeSubidentifier).map groupValue = vs := by
  rw [List.map_map]
  calc vs.map (groupValue ∘ encodeSubidentifier) = vs.map id :=
        List.map_congr_left (fun v _ => groupValue_encodeSubidentifier v)
    _ = vs := List.map_id vs

theorem subidentifiers_encode (vs : List Nat) :
    subidentifiers (vs.flatMap encodeSubidentifier) = vs.map encodeSubidentifier := by
  rw [List.flatMap_def]
  apply subidentifiers_flatten
  intro g hg
  obtain ⟨v, _, rfl⟩ := List.mem_map.mp hg
  exact isGroup_encodeSubidentifier v

/-- The decoder reads back encoded values that fit in 64 bits. -/
theorem arcs_of_encoded {o : Oid} {v : Nat} {vs : List Nat}
    (bytes : o.bytes = (v :: vs).flatMap encodeSubidentifier) (fits : ∀ w ∈ v :: vs, w < 2 ^ 64) :
    o.arcs = some (firstArcs v ++ vs) := by
  have groups : ∀ g ∈ (v :: vs).map encodeSubidentifier, IsGroup g := by
    intro g hg
    obtain ⟨w, _, rfl⟩ := List.mem_map.mp hg
    exact isGroup_encodeSubidentifier w
  have decoded := arcsFrom_groups _ [] [] groups (by simp)
  rw [List.append_nil, ← List.flatMap_def, ← bytes, map_groupValue_encode] at decoded
  have small : ∀ g ∈ (v :: vs).map encodeSubidentifier, groupValue g < 2 ^ 64 := by
    intro g hg
    obtain ⟨w, hw, rfl⟩ := List.mem_map.mp hg
    rw [groupValue_encodeSubidentifier]
    exact fits w hw
  have read : (v :: vs).foldl pushArc [] = vs.reverse ++ (firstArcs v).reverse := by
    rw [List.foldl_cons, foldl_pushArc (pushArc_ne_nil [] v)]
    rfl
  rw [read] at decoded
  rw [arcs, decoded, if_pos ⟨small, rfl, by simp [firstArcs]⟩]
  simp

/-! ### Dotted text -/

/-- Arcs that name an identifier: at least two, each below 2^64, a first arc of at most 2, a
second arc below 40 unless the first is 2, and a first subidentifier `40 a0 + a1` below 2^64. -/
def ValidArcs : List Nat → Prop
  | a0 :: a1 :: rest =>
    (∀ x ∈ a0 :: a1 :: rest, x < 2 ^ 64) ∧ a0 ≤ 2 ∧ (a0 < 2 → a1 < 40) ∧ 40 * a0 + a1 < 2 ^ 64
  | _ => False

/-- The subidentifier values of a list of arcs, the first two packed as `40 a0 + a1`. -/
def packFirst : List Nat → List Nat
  | a0 :: a1 :: rest => (40 * a0 + a1) :: rest
  | _ => []

/-- Arcs read from subidentifiers that fit in 64 bits name an identifier, and pack back into
the same values. -/
theorem firstArcs_valid {v : Nat} {vs : List Nat} (fits : ∀ w ∈ v :: vs, w < 2 ^ 64) :
    ValidArcs (firstArcs v ++ vs) ∧ packFirst (firstArcs v ++ vs) = v :: vs := by
  have first := fits v List.mem_cons_self
  have packed : 40 * min (v / 40) 2 + (v - min (v / 40) 2 * 40) = v := by omega
  refine ⟨⟨?_, by omega, by omega, by omega⟩,
    by rw [firstArcs, List.cons_append, List.cons_append, List.nil_append, packFirst, packed]⟩
  intro x hx
  rcases List.mem_cons.mp hx with rfl | hx
  · omega
  rcases List.mem_cons.mp hx with rfl | hx
  · omega
  · exact fits x (List.mem_cons_of_mem v hx)

theorem firstArcs_packFirst {a0 a1 : Nat} {rest : List Nat} (valid : ValidArcs (a0 :: a1 :: rest)) :
    firstArcs (40 * a0 + a1) = [a0, a1] := by
  obtain ⟨-, first, second, -⟩ := valid
  simp only [firstArcs, List.cons.injEq, and_true]
  omega

theorem splitOn_dotted {a : List Nat} (ha : a ≠ []) :
    (".".intercalate (a.map toString)).toList.splitOn '.' = a.map (Nat.toDigits 10) := by
  have noDot : ∀ l ∈ a.map (Nat.toDigits 10), '.' ∉ l := by
    intro l hl dot
    obtain ⟨n, _, rfl⟩ := List.mem_map.mp hl
    exact absurd (Nat.isDigit_of_mem_toDigits (by decide) (by decide) dot) (by decide)
  have digits : (a.map toString).map String.toList = a.map (Nat.toDigits 10) := by
    rw [List.map_map]
    exact List.map_congr_left (fun n _ => Nat.toList_repr)
  rw [String.toList_intercalate, digits, show ".".toList = ['.'] by simp]
  exact List.splitOn_intercalate '.' noDot (by simpa using ha)

/-- Dotted decimal text is read arc by arc; it names an identifier when every arc fits in 64
bits and the arcs encode. -/
theorem parse?_dotted (a : List Nat) :
    parse? (".".intercalate (a.map toString)) =
      if ∀ x ∈ a, x < 2 ^ 64 then (encodeArcs a).bind ofBytes? else none := by
  cases a with
  | nil =>
    -- the empty text is one empty part, which is no numeral
    have unread : Text.parseU64? (String.ofList []) = none := by
      simp [Text.parseU64?, Text.parseUnsigned]
    simp [parse?, unread, encodeArcs]
  | cons x a =>
    rw [parse?, splitOn_dotted (List.cons_ne_nil x a), Text.mapM_parseU64?]
    split <;> rfl

theorem ofBytes?_eq_some {bs : Bytes} {o : Oid} : ofBytes? bs = some o ↔ o.bytes = bs := by
  cases o with
  | mk bytes nonempty =>
    unfold ofBytes?
    split
    · rename_i empty
      subst empty
      simp [nonempty]
    · simp [eq_comm]

/-- Dotted decimal text names an identifier exactly when its arcs are valid, and then the
identifier's bytes encode the values `40 a0 + a1, a2, ...`. -/
theorem parse?_dotted_eq_some {a : List Nat} {o : Oid} :
    parse? (".".intercalate (a.map toString)) = some o ↔
      ValidArcs a ∧ o.bytes = (packFirst a).flatMap encodeSubidentifier := by
  have size : UInt64.size = 2 ^ 64 := rfl
  rw [parse?_dotted]
  rcases a with _ | ⟨a0, _ | ⟨a1, rest⟩⟩
  · simp [encodeArcs, ValidArcs]
  · simp [encodeArcs, ValidArcs]
  · by_cases fits : ∀ x ∈ a0 :: a1 :: rest, x < 2 ^ 64
    · rw [if_pos fits, encodeArcs, size]
      by_cases bad : a0 > 2 ∨ (a0 < 2 ∧ a1 ≥ 40) ∨ a0 * 40 + a1 ≥ 2 ^ 64
      · rw [if_pos bad, Option.bind_none]
        constructor
        · intro same
          exact absurd same (by simp)
        · rintro ⟨⟨-, first, second, packed⟩, -⟩
          omega
      · rw [if_neg bad, Option.bind_some, ofBytes?_eq_some, packFirst, Nat.mul_comm 40 a0]
        constructor
        · intro bytes
          exact ⟨⟨fits, by omega, by omega, by omega⟩, bytes⟩
        · intro encoded
          exact encoded.2
    · rw [if_neg fits]
      constructor
      · intro same
        exact absurd same (by simp)
      · intro encoded
        exact absurd encoded.1.1 fits

theorem ofDotted_eq_ok {s : String} {o : Oid} : ofDotted s = .ok o ↔ parse? s = some o := by
  unfold ofDotted
  cases parse? s with
  | none => exact ⟨fun same => (by cases same), fun same => (by cases same)⟩
  | some o' => exact ⟨fun same => (by cases same; rfl), fun same => (by cases same; rfl)⟩

theorem parse?_malformed : parse? "<malformed oid>" = none := by
  have chars : "<malformed oid>".toList =
      ['<', 'm', 'a', 'l', 'f', 'o', 'r', 'm', 'e', 'd', ' ', 'o', 'i', 'd', '>'] := by
    simp
  have pieces : "<malformed oid>".toList.splitOn '.' = ["<malformed oid>".toList] := by
    rw [chars]
    decide
  have unread : Text.parseU64? "<malformed oid>" = none := by
    simp [Text.parseU64?, Text.parseUnsigned, Text.accumulate, Text.digitValue?]
  simp only [parse?, pieces, String.ofList_toList, List.mapM_cons, unread, bind, Option.bind]

theorem render_of_arcs {o : Oid} {as : List Nat} (read : o.arcs = some as) :
    o.render = ".".intercalate (as.map toString) := by
  unfold render
  rw [read]

theorem render_of_refused {o : Oid} (refused : o.arcs = none) : o.render = "<malformed oid>" := by
  unfold render
  rw [refused]


theorem flatMap_encode_ne_nil (v : Nat) (vs : List Nat) :
    (v :: vs).flatMap encodeSubidentifier ≠ [] := by
  obtain ⟨init, last, written, -, -⟩ := isGroup_encodeSubidentifier v
  rw [List.flatMap_cons, written]
  simp

/-- Valid arcs in dotted text always name an identifier. -/
theorem parse?_valid {a : List Nat} (valid : ValidArcs a) :
    ∃ o, parse? (".".intercalate (a.map toString)) = some o ∧
      o.bytes = (packFirst a).flatMap encodeSubidentifier := by
  rcases a with _ | ⟨a0, _ | ⟨a1, rest⟩⟩
  · exact (valid : False).elim
  · exact (valid : False).elim
  · exact ⟨⟨_, flatMap_encode_ne_nil _ rest⟩, parse?_dotted_eq_some.mpr ⟨valid, rfl⟩, rfl⟩

/-- Valid arcs in dotted text read as the identifier whose bytes are the minimal
subidentifiers of their values; it reads back as the same arcs and prints as the same text. -/
theorem ofDotted_valid {a0 a1 : Nat} {rest : List Nat} (valid : ValidArcs (a0 :: a1 :: rest)) :
    ∃ o, ofDotted (".".intercalate ((a0 :: a1 :: rest).map toString)) = .ok o ∧
      (subidentifiers o.bytes).flatten = o.bytes ∧
      (subidentifiers o.bytes).map groupValue = (40 * a0 + a1) :: rest ∧
      (∀ g ∈ subidentifiers o.bytes, g.head? ≠ some 0x80) ∧
      o.arcs = some (a0 :: a1 :: rest) ∧
      o.render = ".".intercalate ((a0 :: a1 :: rest).map toString) := by
  obtain ⟨o, read, bytes⟩ := parse?_valid valid
  have bounded := valid.1
  have packed := valid.2.2.2
  have fits : ∀ w ∈ (40 * a0 + a1) :: rest, w < 2 ^ 64 := by
    intro w hw
    rcases List.mem_cons.mp hw with rfl | hw
    · exact packed
    · exact bounded w (List.mem_cons_of_mem _ (List.mem_cons_of_mem _ hw))
  have arcsRead : o.arcs = some (a0 :: a1 :: rest) := by
    rw [arcs_of_encoded bytes fits, firstArcs_packFirst valid]
    rfl
  refine ⟨o, ofDotted_eq_ok.mpr read, ?_, ?_, ?_, arcsRead, render_of_arcs arcsRead⟩
  · rw [bytes, packFirst, subidentifiers_encode, List.flatMap_def]
  · rw [bytes, packFirst, subidentifiers_encode, map_groupValue_encode]
  · rw [bytes, packFirst, subidentifiers_encode]
    intro g hg
    obtain ⟨w, _, rfl⟩ := List.mem_map.mp hg
    exact head_encodeSubidentifier w

/-- An identifier reads back from its printed text exactly when its bytes read as arcs and are
the minimal encoding of them: no subidentifier begins with a `0x80` byte. -/
theorem ofDotted_render_iff (o : Oid) :
    ofDotted o.render = .ok o ↔
      o.arcs.isSome ∧ ∀ g ∈ subidentifiers o.bytes, g.head? ≠ some 0x80 := by
  cases read : o.arcs with
  | none =>
    rw [render_of_refused read, ofDotted_eq_ok, parse?_malformed]
    exact ⟨fun same => absurd same (by simp), fun ⟨read, _⟩ => absurd read (by simp)⟩
  | some as =>
    obtain ⟨v, vs, values, whole, fits, rfl⟩ := arcs_eq_some read
    obtain ⟨valid, packed⟩ := firstArcs_valid fits
    have groups := (subidentifiers_spec o.bytes).1
    rw [render_of_arcs read, ofDotted_eq_ok, parse?_dotted_eq_some, packed]
    constructor
    · rintro ⟨-, bytes⟩
      refine ⟨rfl, ?_⟩
      rw [bytes, subidentifiers_encode]
      intro g hg
      obtain ⟨w, _, rfl⟩ := List.mem_map.mp hg
      exact head_encodeSubidentifier w
    · rintro ⟨-, minimal⟩
      refine ⟨valid, ?_⟩
      -- each subidentifier is the encoding of its value
      have rebuilt : (subidentifiers o.bytes).map (encodeSubidentifier ∘ groupValue) =
          subidentifiers o.bytes :=
        calc (subidentifiers o.bytes).map (encodeSubidentifier ∘ groupValue)
            = (subidentifiers o.bytes).map id := List.map_congr_left
              (fun g hg => encodeSubidentifier_groupValue (groups g hg) (minimal g hg))
          _ = subidentifiers o.bytes := List.map_id _
      calc o.bytes = (subidentifiers o.bytes).flatten := whole.symm
        _ = ((subidentifiers o.bytes).map groupValue).flatMap encodeSubidentifier := by
          rw [List.flatMap_def, List.map_map, rebuilt]
        _ = (v :: vs).flatMap encodeSubidentifier := by rw [values]

/-- An identifier prints `<malformed oid>` exactly when its arcs are refused. -/
theorem render_eq_malformed_iff (o : Oid) :
    o.render = "<malformed oid>" ↔ (∃ b, o.bytes.getLast? = some b ∧ b &&& 0x80 ≠ 0) ∨
      ∃ g ∈ subidentifiers o.bytes, 2 ^ 64 ≤ groupValue g := by
  rw [← arcs_eq_none_iff]
  refine ⟨fun printed => ?_, render_of_refused⟩
  cases read : o.arcs with
  | none => rfl
  | some as =>
    -- printed arcs read back as text, the marker does not
    obtain ⟨v, vs, -, -, fits, rfl⟩ := arcs_eq_some read
    obtain ⟨o', reads, -⟩ := parse?_valid (firstArcs_valid fits).1
    rw [← render_of_arcs read, printed, parse?_malformed] at reads
    exact absurd reads (by simp)

end Oid

/-- Dotted decimal text and content bytes code object identifiers inversely on canonical
values. Valid arcs written in decimal and joined with dots read as the identifier whose bytes
are the minimal subidentifiers of `40 a0 + a1, a2, ...`; it reads back as the same arcs and
prints as the same text, and no other list of decimal arcs reads as an identifier. An
identifier reads back from its printed text exactly when its bytes read as arcs and no
subidentifier begins with a `0x80` byte, and it prints `<malformed oid>` exactly when its bytes
end inside a subidentifier or one of its subidentifiers leaves 64 bits. -/
theorem oid_dotted_der_round_trip :
    (∀ a : List Nat,
      (∃ o, Oid.ofDotted (".".intercalate (a.map toString)) = .ok o) ↔ Oid.ValidArcs a) ∧
    (∀ (a0 a1 : Nat) (rest : List Nat), Oid.ValidArcs (a0 :: a1 :: rest) →
      ∃ o, Oid.ofDotted (".".intercalate ((a0 :: a1 :: rest).map toString)) = .ok o ∧
        (Oid.subidentifiers o.bytes).flatten = o.bytes ∧
        (Oid.subidentifiers o.bytes).map Oid.groupValue = (40 * a0 + a1) :: rest ∧
        (∀ g ∈ Oid.subidentifiers o.bytes, g.head? ≠ some 0x80) ∧
        o.arcs = some (a0 :: a1 :: rest) ∧
        o.render = ".".intercalate ((a0 :: a1 :: rest).map toString)) ∧
    (∀ o : Oid, Oid.ofDotted o.render = .ok o ↔
      o.arcs.isSome ∧ ∀ g ∈ Oid.subidentifiers o.bytes, g.head? ≠ some 0x80) ∧
    (∀ o : Oid, o.render = "<malformed oid>" ↔
      (∃ b, o.bytes.getLast? = some b ∧ b &&& 0x80 ≠ 0) ∨
        ∃ g ∈ Oid.subidentifiers o.bytes, 2 ^ 64 ≤ Oid.groupValue g) := by
  refine ⟨fun a => ⟨fun ⟨o, read⟩ => ?_, fun valid => ?_⟩, fun _ _ _ => Oid.ofDotted_valid,
    Oid.ofDotted_render_iff, Oid.render_eq_malformed_iff⟩
  · exact (Oid.parse?_dotted_eq_some.mp (Oid.ofDotted_eq_ok.mp read)).1
  · obtain ⟨o, read, -⟩ := Oid.parse?_valid valid
    exact ⟨o, Oid.ofDotted_eq_ok.mpr read⟩

end GssApi
