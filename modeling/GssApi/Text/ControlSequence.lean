import GssApi.Text.Utf8
/-! Text with its terminal control sequences removed.

Output meant for a terminal may carry control sequences; written anywhere else they are
removed. The bytes are read by the parser that terminals of the DEC family use (escape,
control sequence, device control and operating system command states, and the string states
that run to a string terminator). What a terminal would show is kept: printable ASCII
characters, whole UTF-8 characters read outside any sequence, and the whitespace controls tab,
line feed, form feed and carriage return. Every other control character, the delete
character and every byte of a control sequence is dropped.

The bytes are read in alternating runs: a run of dropped bytes is read with the parser's
state; a run of kept bytes is read byte by byte as if outside any sequence, and ends at the
first byte that would not be shown there, which the next run of dropped bytes reads again. -/
namespace GssApi.Text

/-- The states of the terminal parser. `utf8 need` is inside a UTF-8 character, with the
number of its bytes still to come once its first byte has been read. -/
inductive ParserState where
  | ground
  | escape
  | escapeIntermediate
  | csiEntry
  | csiParam
  | csiIntermediate
  | csiIgnore
  | dcsEntry
  | dcsParam
  | dcsIntermediate
  | dcsPassthrough
  | dcsIgnore
  | oscString
  | sosPmApcString
  | utf8 (need : Option Nat)
  deriving DecidableEq

/-- What reading a byte does, as far as showing it goes. -/
inductive ParserAction where
  | print
  | beginUtf8
  | execute
  | other
  deriving DecidableEq

/-- Whether a byte is a C0 control other than the cancel, substitute and escape controls. -/
def isPlainControl (b : UInt8) : Bool := b ≤ 0x17 || b = 0x19 || (0x1C ≤ b && b ≤ 0x1F)

/-- The state a byte leads to (none: the state stays) and what reading it does. The cancel
and substitute controls return to the ground state and the escape control starts an escape
sequence, whatever the state. -/
def ParserState.change (s : ParserState) (b : UInt8) : Option ParserState × ParserAction :=
  let ctl := isPlainControl b
  if b = 0x18 || b = 0x1A then (some .ground, .execute)
  else if b = 0x1B then (some .escape, .other)
  else match s with
  | .ground =>
    if ctl then (none, .execute)
    else if 0x20 ≤ b && b ≤ 0x7F then (none, .print)
    else if (0x80 ≤ b && b ≤ 0x8F) || (0x91 ≤ b && b ≤ 0x9A) || b = 0x9C then (none, .execute)
    else if 0xC2 ≤ b && b ≤ 0xF4 then (some (.utf8 none), .beginUtf8)
    else (none, .other)
  | .escape =>
    if ctl then (none, .execute)
    else if 0x20 ≤ b && b ≤ 0x2F then (some .escapeIntermediate, .other)
    else if b = 0x5B then (some .csiEntry, .other)
    else if b = 0x5D then (some .oscString, .other)
    else if b = 0x50 then (some .dcsEntry, .other)
    else if b = 0x58 || b = 0x5E || b = 0x5F then (some .sosPmApcString, .other)
    else if 0x30 ≤ b && b ≤ 0x7E then (some .ground, .other)
    else (none, .other)
  | .escapeIntermediate =>
    if ctl then (none, .execute)
    else if 0x30 ≤ b && b ≤ 0x7E then (some .ground, .other)
    else (none, .other)
  | .csiEntry =>
    if ctl then (none, .execute)
    else if 0x20 ≤ b && b ≤ 0x2F then (some .csiIntermediate, .other)
    else if 0x30 ≤ b && b ≤ 0x3F then (some .csiParam, .other)
    else if 0x40 ≤ b && b ≤ 0x7E then (some .ground, .other)
    else (none, .other)
  | .csiParam =>
    if ctl then (none, .execute)
    else if 0x3C ≤ b && b ≤ 0x3F then (some .csiIgnore, .other)
    else if 0x20 ≤ b && b ≤ 0x2F then (some .csiIntermediate, .other)
    else if 0x40 ≤ b && b ≤ 0x7E then (some .ground, .other)
    else (none, .other)
  | .csiIntermediate =>
    if ctl then (none, .execute)
    else if 0x30 ≤ b && b ≤ 0x3F then (some .csiIgnore, .other)
    else if 0x40 ≤ b && b ≤ 0x7E then (some .ground, .other)
    else (none, .other)
  | .csiIgnore =>
    if ctl then (none, .execute)
    else if 0x40 ≤ b && b ≤ 0x7E then (some .ground, .other)
    else (none, .other)
  | .dcsEntry =>
    if 0x20 ≤ b && b ≤ 0x2F then (some .dcsIntermediate, .other)
    else if 0x30 ≤ b && b ≤ 0x3F then (some .dcsParam, .other)
    else if 0x40 ≤ b && b ≤ 0x7E then (some .dcsPassthrough, .other)
    else (none, .other)
  | .dcsParam =>
    if 0x3C ≤ b && b ≤ 0x3F then (some .dcsIgnore, .other)
    else if 0x20 ≤ b && b ≤ 0x2F then (some .dcsIntermediate, .other)
    else if 0x40 ≤ b && b ≤ 0x7E then (some .dcsPassthrough, .other)
    else (none, .other)
  | .dcsIntermediate =>
    if 0x30 ≤ b && b ≤ 0x3F then (some .dcsIgnore, .other)
    else if 0x40 ≤ b && b ≤ 0x7E then (some .dcsPassthrough, .other)
    else (none, .other)
  | .dcsPassthrough | .dcsIgnore | .sosPmApcString =>
    if b = 0x9C then (some .ground, .other) else (none, .other)
  | .oscString => if b = 0x07 then (some .ground, .other) else (none, .other)
  | .utf8 _ => (none, .other)

/-- Whether reading a byte with an action shows it. -/
def ParserAction.shows (a : ParserAction) (b : UInt8) : Bool :=
  match a with
  | .print => b != 0x7F
  | .beginUtf8 => true
  | .execute => b = 0x09 || b = 0x0A || b = 0x0C || b = 0x0D || b = 0x20
  | .other => false

/-- The number of bytes of the UTF-8 character a byte starts. -/
def utf8Width (b : UInt8) : Nat :=
  if b < 0xE0 then 2 else if b < 0xF0 then 3 else 4

/-- The state after one more byte of a UTF-8 character: the ground state once the character
is whole. -/
def utf8Next (need : Option Nat) (b : UInt8) : ParserState :=
  let left := match need with
    | none => utf8Width b - 1
    | some n => n - 1
  if left = 0 then .ground else .utf8 (some left)

/-- Read bytes, keeping the ones shown. In a run of kept bytes (`keeping`), a byte is read
as if outside any sequence; a byte that is not shown there ends the run and is read again in
the following run of dropped bytes. -/
def stripRuns : Nat → Bool → ParserState → List UInt8 → List UInt8
  | 0, _, _, _ => []
  | _, _, _, [] => []
  | fuel + 1, false, s, b :: rest =>
    match s with
    | .utf8 _ => stripRuns fuel true s (b :: rest)
    | _ =>
      let (next, a) := s.change b
      let s := next.getD s
      if a.shows b then stripRuns fuel true s (b :: rest) else stripRuns fuel false s rest
  | fuel + 1, true, s, b :: rest =>
    match s with
    | .utf8 need => b :: stripRuns fuel true (utf8Next need b) rest
    | _ =>
      let (next, a) := ParserState.ground.change b
      let s := next.getD s
      match s with
      | .utf8 _ => b :: stripRuns fuel true (utf8Next none b) rest
      | _ => if a.shows b then b :: stripRuns fuel true s rest else stripRuns fuel false s (b :: rest)

/-- The text that remains once its control sequences are removed. Each byte is read at most
twice, once in each kind of run, which bounds the reading. Kept bytes are whole characters, so
they decode. -/
def withoutControlSequences (text : String) : String :=
  let bytes := Bytes.ofString text
  match decodeUtf8 (stripRuns (2 * bytes.length + 2) false .ground bytes) with
  | .ok s => s
  | .error _ => ""

end GssApi.Text
