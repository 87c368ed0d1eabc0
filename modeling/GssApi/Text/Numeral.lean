/-! Unsigned numerals.

Object identifier arcs, status words and configuration overrides are written as unsigned
numerals: an optional `+`, then at least one digit of the radix, with a value below a
bound. Reading goes left to right and stops at the first fault: a character that is no
digit, or a value that leaves the bound. Within one character the digit test comes first. -/
namespace GssApi.Text

/-- Why a numeral could not be read. -/
inductive NumeralError where
  /-- The text is empty. -/
  | empty
  /-- A character is not a digit of the radix, or a sign stands alone. -/
  | invalidDigit
  /-- The value reaches the bound. -/
  | tooLarge
  deriving DecidableEq, Repr

/-- The wording of each fault. -/
def NumeralError.message : NumeralError → String
  | .empty => "cannot parse integer from empty string"
  | .invalidDigit => "invalid digit found in string"
  | .tooLarge => "number too large to fit in target type"

/-- The value of a digit in the given radix (at most 36), in either letter case. -/
def digitValue? (radix : Nat) (c : Char) : Option Nat :=
  let v :=
    if '0' ≤ c ∧ c ≤ '9' then c.toNat - 48
    else if 'a' ≤ c ∧ c ≤ 'z' then c.toNat - 87
    else if 'A' ≤ c ∧ c ≤ 'Z' then c.toNat - 55
    else radix
  if v < radix then some v else none

/-- Accumulate digits onto `acc`, failing at the first non-digit or at the first step whose
value reaches `bound`. -/
def accumulate (radix bound : Nat) (acc : Nat) : List Char → Except NumeralError Nat
  | [] => .ok acc
  | c :: rest =>
    match digitValue? radix c with
    | none => .error .invalidDigit
    | some d =>
      if acc * radix + d < bound then accumulate radix bound (acc * radix + d) rest
      else .error .tooLarge

/-- Read an unsigned numeral in `radix` whose value must stay below `bound`. -/
def parseUnsigned (radix bound : Nat) (s : String) : Except NumeralError Nat :=
  match s.toList with
  | [] => .error .empty
  | ['+'] | ['-'] => .error .invalidDigit
  | '+' :: rest => accumulate radix bound 0 rest
  | cs => accumulate radix bound 0 cs

/-- Read a decimal numeral below 2^64. -/
def parseU64? (s : String) : Option Nat :=
  match parseUnsigned 10 UInt64.size s with
  | .ok n => some n
  | .error _ => none

end GssApi.Text
