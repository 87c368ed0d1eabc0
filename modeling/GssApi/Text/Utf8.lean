import GssApi.Bytes
/-! Reading UTF-8 text, and where it fails.

Bytes are UTF-8 text when they split into encoded characters (RFC 3629): a byte below 0x80
alone; a lead byte 0xC2 to 0xDF and one continuation byte; a lead byte 0xE0 to 0xEF and two;
a lead byte 0xF0 to 0xF4 and three. Continuation bytes are 0x80 to 0xBF, except that the
byte after 0xE0 is at least 0xA0, after 0xED at most 0x9F, after 0xF0 at least 0x90 and after
0xF4 at most 0x8F, which rules out overlong forms, surrogates and values past 0x10FFFF.

When bytes are not text, the fault tells how many bytes from the start are text and how long
the invalid sequence after them is: the lead byte and those following bytes that could still
have begun a character, so one to three bytes. When the bytes end inside a sequence that could
still have become a character, the sequence is incomplete and has no length. -/
namespace GssApi.Text

/-- Why bytes are not UTF-8 text. -/
structure Utf8Fault where
  /-- The number of bytes from the start that are text. -/
  validUpTo : Nat
  /-- The length of the invalid sequence after them; none when the bytes end inside it. -/
  invalidLength : Option Nat
  deriving DecidableEq

/-- The fault as messages describe it. -/
def Utf8Fault.message (f : Utf8Fault) : String :=
  match f.invalidLength with
  | some n =>
    "invalid utf-8 sequence of " ++ toString n ++ " bytes from index " ++ toString f.validUpTo
  | none => "incomplete utf-8 byte sequence from index " ++ toString f.validUpTo

/-- The number of bytes of the character a lead byte starts; zero for a byte that starts
none. -/
def sequenceWidth (lead : UInt8) : Nat :=
  if lead < 0x80 then 1
  else if lead < 0xC2 then 0
  else if lead < 0xE0 then 2
  else if lead < 0xF0 then 3
  else if lead < 0xF5 then 4
  else 0

/-- Whether a byte continues a character. -/
def isContinuation (b : UInt8) : Bool := 0x80 ≤ b && b ≤ 0xBF

/-- Whether a byte may follow a lead byte as the second byte of its character. -/
def secondFits (lead b : UInt8) : Bool :=
  match lead with
  | 0xE0 => 0xA0 ≤ b && b ≤ 0xBF
  | 0xED => 0x80 ≤ b && b ≤ 0x9F
  | 0xF0 => 0x90 ≤ b && b ≤ 0xBF
  | 0xF4 => 0x80 ≤ b && b ≤ 0x8F
  | _ => isContinuation b

/-- The character a lead byte starts, read from the bytes after it, with the number of those
bytes it takes; or the fault's length, none when the bytes end first. The second byte is
checked first, then each further byte in order. -/
def readCharacter (lead : UInt8) (rest : Bytes) : Except (Option Nat) (Char × Nat) :=
  let width := sequenceWidth lead
  if width = 1 then .ok (Char.ofNat lead.toNat, 0)
  else if width = 0 then .error (some 1)
  else match rest with
    | [] => .error none
    | second :: more =>
      if !secondFits lead second then .error (some 1)
      else
        let tail := more.take (width - 2)
        match tail.findIdx? (fun b => !isContinuation b) with
        | some i => .error (some (i + 2))
        | none =>
          if tail.length < width - 2 then .error none
          else
            let point := (second :: tail).foldl (fun acc b => acc * 64 + b.toNat % 64)
              (lead.toNat % Nat.pow 2 (7 - width))
            .ok (Char.ofNat point, width - 1)

/-- Decode bytes that start `offset` bytes into the input, after the characters `acc` (in
reverse order). -/
def decodeFrom (offset : Nat) (acc : List Char) : Bytes → Except Utf8Fault String
  | [] => .ok (String.ofList acc.reverse)
  | lead :: rest =>
    match readCharacter lead rest with
    | .error n => .error ⟨offset, n⟩
    | .ok (c, k) => decodeFrom (offset + k + 1) (c :: acc) (rest.drop k)
termination_by bs => bs.length
decreasing_by simp only [List.length_drop, List.length_cons]; omega

/-- The text whose UTF-8 encoding the bytes are, or where they stop being text. -/
def decodeUtf8 (bs : Bytes) : Except Utf8Fault String := decodeFrom 0 [] bs

end GssApi.Text
