import GssApi.Text.Numeral
/-! A reader for configuration files in TOML.

The reader follows TOML 1.0. A document is a root table followed by table sections
(`[a.b]`) and array-of-table sections (`[[a.b]]`); every line holds one key-value pair, a
section header, a comment or nothing. Keys are bare, quoted or literal, and may be dotted.
Values are strings (basic, literal, and their multi-line forms), integers (decimal with an
optional sign and no leading zeros, or hexadecimal, octal and binary, with single
underscores between digits, within the signed 64-bit range), floats, booleans, dates and
times, arrays and inline tables. Only strings, integers, booleans and the structure of tables
and arrays are kept; floats and dates are recognised and kept without their value.

The rules on defining tables are enforced: a key is defined once; a table header names a
table once, though a table first created as the parent of another header may be named by a
header later; dotted keys extend only tables that dotted keys created; inline tables are
closed; headers and dotted keys go into the last table of an array of tables.

Arrays and inline tables nest fewer than 80 deep and keys have fewer than 80 parts; deeper
input is refused. Every reading loop takes fuel, the number of characters left plus one: each
step consumes at least one character, so the fuel never runs out on real input. -/
namespace GssApi.Toml

mutual

/-- A value written after "=". -/
inductive Value where
  | string (s : String)
  | integer (n : Int)
  | float
  | bool (b : Bool)
  | datetime
  | array (items : List Value)
  | inline (entries : List (String × Item))

/-- An entry of a table. -/
inductive Item where
  | value (v : Value)
  /-- A table: `implicit` while no header or inline value has defined it, `dotted` when a
  dotted key created it. -/
  | table (implicit dotted : Bool) (entries : List (String × Item))
  /-- An array of tables. -/
  | tables (items : List (List (String × Item)))

end

/-- A table being built, with its flags. -/
structure Frame where
  implicit : Bool
  dotted : Bool
  entries : List (String × Item)

def Frame.item (f : Frame) : Item := .table f.implicit f.dotted f.entries

/-- Replace the entry under a key, or add it at the end. -/
def setEntry (es : List (String × Item)) (k : String) (v : Item) : List (String × Item) :=
  if es.any (·.1 == k) then es.map fun e => if e.1 == k then (k, v) else e else es ++ [(k, v)]

/-- Apply `f` to the table at a path below a table, creating missing tables as implicit ones
(dotted ones when `dotted` is set). A path through an array of tables goes into its last
table. No path goes through a value, and dotted keys go only through implicit tables. -/
def modifyAt (dotted : Bool) (f : Frame → Except String Frame) :
    List String → Frame → Except String Frame
  | [], t => f t
  | k :: rest, t =>
    match t.entries.lookup k with
    | none => do
      let child ← modifyAt dotted f rest ⟨true, dotted, []⟩
      pure { t with entries := setEntry t.entries k child.item }
    | some (.value _) => .error ("key " ++ k ++ " is not a table")
    | some (.tables items) =>
      match items.getLast? with
      | none => .error ("empty array of tables " ++ k)
      | some last => do
        let child ← modifyAt dotted f rest ⟨false, false, last⟩
        pure { t with entries := setEntry t.entries k (.tables (items.dropLast ++ [child.entries])) }
    | some (.table implicit isDotted es) =>
      if dotted ∧ !implicit then .error ("duplicate key " ++ k)
      else do
        let child ← modifyAt dotted f rest ⟨implicit, isDotted, es⟩
        pure { t with entries := setEntry t.entries k child.item }

/-- Define a key, possibly dotted, in a table. -/
def insertValue (path : List String) (v : Value) (t : Frame) : Except String Frame :=
  match path.getLast? with
  | none => .error "empty key"
  | some last =>
    let parents := path.dropLast
    modifyAt true (fun target =>
      if target.dotted == parents.isEmpty then .error ("key " ++ last ++ " mixes table kinds")
      else if (target.entries.lookup last).isSome then .error ("duplicate key " ++ last)
      else .ok { target with entries := target.entries ++ [(last, .value v)] }) parents t

/-- Name a table with a header. -/
def defineTable (path : List String) (root : Frame) : Except String Frame :=
  match path.getLast? with
  | none => .error "empty table name"
  | some last =>
    modifyAt false (fun parent =>
      match parent.entries.lookup last with
      | none => .ok { parent with entries := parent.entries ++ [(last, .table false false [])] }
      | some (.table true false es) =>
        .ok { parent with entries := setEntry parent.entries last (.table false false es) }
      | some _ => .error ("duplicate table " ++ last)) path.dropLast root

/-- Add a table to an array of tables with a header. -/
def appendTable (path : List String) (root : Frame) : Except String Frame :=
  match path.getLast? with
  | none => .error "empty table name"
  | some last =>
    modifyAt false (fun parent =>
      match parent.entries.lookup last with
      | none => .ok { parent with entries := parent.entries ++ [(last, .tables [[]])] }
      | some (.tables items) =>
        .ok { parent with entries := setEntry parent.entries last (.tables (items ++ [[]])) }
      | some _ => .error ("key " ++ last ++ " is not an array of tables")) path.dropLast root

/-! ## Characters -/

/-- Reading from the front of the remaining characters. -/
abbrev Parser := StateT (List Char) (Except String)

def fail (msg : String) : Parser α := throw msg

/-- A character allowed in comments and strings: tab, or no control character. -/
def textChar (c : Char) : Bool := c = '\t' ∨ (c.val ≥ 0x20 ∧ c.val ≠ 0x7f)

def dropSpaces : List Char → List Char
  | ' ' :: cs => dropSpaces cs
  | '\t' :: cs => dropSpaces cs
  | cs => cs

def skipSpaces : Parser Unit := modify dropSpaces

/-- Drop spaces, newlines and comments; `inComment` inside a comment. -/
def dropBlank (inComment : Bool) : List Char → Except String (List Char)
  | [] => .ok []
  | '\n' :: cs => dropBlank false cs
  | '\r' :: '\n' :: cs => dropBlank false cs
  | c :: cs =>
    if inComment then
      if textChar c then dropBlank true cs else .error "control character in comment"
    else if c = ' ' ∨ c = '\t' then dropBlank false cs
    else if c = '#' then dropBlank true cs
    else .ok (c :: cs)

def skipBlank : Parser Unit := do set (← dropBlank false (← get))

/-- Drop the end of a line: spaces, an optional comment, and a newline unless the text ends. -/
def dropLineEnd (inComment : Bool) : List Char → Except String (List Char)
  | [] => .ok []
  | '\n' :: cs => .ok cs
  | '\r' :: '\n' :: cs => .ok cs
  | c :: cs =>
    if inComment then
      if textChar c then dropLineEnd true cs else .error "control character in comment"
    else if c = ' ' ∨ c = '\t' then dropLineEnd false cs
    else if c = '#' then dropLineEnd true cs
    else .error "expected the end of the line"

def lineEnd : Parser Unit := do set (← dropLineEnd false (← get))

def expect (c : Char) : Parser Unit := do
  match ← get with
  | d :: cs => if d = c then set cs else fail ("expected " ++ c.toString)
  | [] => fail ("expected " ++ c.toString)

/-! ## Strings -/

/-- The value of hexadecimal digits. -/
def hexDigits (cs : List Char) : Option Nat :=
  cs.foldl (fun acc c => do pure ((← acc) * 16 + (← Text.digitValue? 16 c))) (some 0)

/-- The character of a code point, which must be a Unicode scalar value. -/
def scalarValue (cs : List Char) : Except String Char :=
  match hexDigits cs with
  | some n =>
    if n < 0xD800 ∨ (0xE000 ≤ n ∧ n < 0x110000) then .ok (Char.ofNat n)
    else .error "escape is not a Unicode scalar value"
  | none => .error "bad hexadecimal escape"

/-- The character an escape sequence stands for, after its backslash, and the rest. -/
def escape : List Char → Except String (Char × List Char)
  | 'b' :: cs => .ok ('\x08', cs)
  | 't' :: cs => .ok ('\t', cs)
  | 'n' :: cs => .ok ('\n', cs)
  | 'f' :: cs => .ok ('\x0c', cs)
  | 'r' :: cs => .ok ('\r', cs)
  | '"' :: cs => .ok ('"', cs)
  | '\\' :: cs => .ok ('\\', cs)
  | 'u' :: cs =>
    if cs.length < 4 then .error "short escape"
    else do pure (← scalarValue (cs.take 4), cs.drop 4)
  | 'U' :: cs =>
    if cs.length < 8 then .error "short escape"
    else do pure (← scalarValue (cs.take 8), cs.drop 8)
  | _ => .error "unknown escape"

/-- The rest of a basic string after its opening quote. -/
def basicBody : Nat → List Char → List Char → Except String (String × List Char)
  | 0, _, _ => .error "string too long"
  | _ + 1, acc, '"' :: cs => .ok (String.ofList acc.reverse, cs)
  | n + 1, acc, '\\' :: cs => do
    let (c, rest) ← escape cs
    basicBody n (c :: acc) rest
  | n + 1, acc, c :: cs =>
    if textChar c then basicBody n (c :: acc) cs else .error "bad character in string"
  | _ + 1, _, [] => .error "unterminated string"

/-- The rest of a literal string after its opening quote. -/
def literalBody : List Char → List Char → Except String (String × List Char)
  | acc, '\'' :: cs => .ok (String.ofList acc.reverse, cs)
  | acc, c :: cs => if textChar c then literalBody (c :: acc) cs else .error "bad character in string"
  | _, [] => .error "unterminated string"

/-- A newline right after the opening delimiter of a multi-line string is not part of it. -/
def dropFirstNewline : List Char → List Char
  | '\n' :: cs => cs
  | '\r' :: '\n' :: cs => cs
  | cs => cs

/-- Spaces and newlines after a line-ending backslash. -/
def dropSpacesAndNewlines : List Char → List Char
  | ' ' :: cs => dropSpacesAndNewlines cs
  | '\t' :: cs => dropSpacesAndNewlines cs
  | '\n' :: cs => dropSpacesAndNewlines cs
  | '\r' :: '\n' :: cs => dropSpacesAndNewlines cs
  | cs => cs

/-- Whether a backslash ends its line. -/
def endsLine (cs : List Char) : Bool :=
  match dropSpaces cs with
  | '\n' :: _ => true
  | '\r' :: '\n' :: _ => true
  | _ => false

/-- The rest of a multi-line basic string; up to two quotes before the closing delimiter
belong to the string. -/
def mlBasicBody : Nat → List Char → List Char → Except String (String × List Char)
  | 0, _, _ => .error "string too long"
  | _ + 1, acc, '"' :: '"' :: '"' :: '"' :: '"' :: cs =>
    .ok (String.ofList ('"' :: '"' :: acc).reverse, cs)
  | _ + 1, acc, '"' :: '"' :: '"' :: '"' :: cs => .ok (String.ofList ('"' :: acc).reverse, cs)
  | _ + 1, acc, '"' :: '"' :: '"' :: cs => .ok (String.ofList acc.reverse, cs)
  | n + 1, acc, '\\' :: cs =>
    if endsLine cs then mlBasicBody n acc (dropSpacesAndNewlines cs)
    else do
      let (c, rest) ← escape cs
      mlBasicBody n (c :: acc) rest
  | n + 1, acc, '\n' :: cs => mlBasicBody n ('\n' :: acc) cs
  | n + 1, acc, '\r' :: '\n' :: cs => mlBasicBody n ('\n' :: acc) cs
  | n + 1, acc, c :: cs =>
    if textChar c then mlBasicBody n (c :: acc) cs else .error "bad character in string"
  | _ + 1, _, [] => .error "unterminated string"

/-- The rest of a multi-line literal string. -/
def mlLiteralBody : List Char → List Char → Except String (String × List Char)
  | acc, '\'' :: '\'' :: '\'' :: '\'' :: '\'' :: cs =>
    .ok (String.ofList ('\'' :: '\'' :: acc).reverse, cs)
  | acc, '\'' :: '\'' :: '\'' :: '\'' :: cs => .ok (String.ofList ('\'' :: acc).reverse, cs)
  | acc, '\'' :: '\'' :: '\'' :: cs => .ok (String.ofList acc.reverse, cs)
  | acc, '\n' :: cs => mlLiteralBody ('\n' :: acc) cs
  | acc, '\r' :: '\n' :: cs => mlLiteralBody ('\n' :: acc) cs
  | acc, c :: cs =>
    if textChar c then mlLiteralBody (c :: acc) cs else .error "bad character in string"
  | _, [] => .error "unterminated string"

/-- Run a reader of the rest of a string on the remaining characters. -/
def body (read : List Char → Except String (String × List Char)) (cs : List Char) :
    Parser String := do
  let (s, rest) ← read cs
  set rest
  pure s

/-! ## Keys -/

def bareKeyChar (c : Char) : Bool := c.isAlphanum ∨ c = '_' ∨ c = '-'

/-- One part of a key: bare, quoted or literal. -/
def simpleKey : Parser String := do
  match ← get with
  | '"' :: cs => body (basicBody (cs.length + 1) []) cs
  | '\'' :: cs => body (literalBody []) cs
  | cs =>
    let name := cs.takeWhile bareKeyChar
    if name.isEmpty then fail "expected a key"
    set (cs.drop name.length)
    pure (String.ofList name)

/-- The depth of nesting, and the number of parts of a key, that the reader refuses. -/
def nestingLimit : Nat := 80

/-- The parts of a key, possibly dotted. -/
def keyParts : Nat → Parser (List String)
  | 0 => fail "key too long"
  | n + 1 => do
    let k ← simpleKey
    skipSpaces
    match ← get with
    | '.' :: cs =>
      set (dropSpaces cs)
      pure (k :: (← keyParts n))
    | _ => pure [k]

/-- A key, possibly dotted, of fewer parts than the nesting limit. -/
def keyPath (n : Nat) : Parser (List String) := do
  let path ← keyParts n
  if path.length ≥ nestingLimit then fail "key has too many parts"
  pure path

/-! ## Numbers, booleans, dates and times -/

/-- Digits with single underscores between them. -/
def underscored (digit : Char → Bool) : List Char → Bool
  | [] => false
  | c :: cs => digit c && go cs
where
  go : List Char → Bool
    | [] => true
    | '_' :: c :: cs => digit c && go cs
    | c :: cs => digit c && go cs

def isHexDigit (c : Char) : Bool := (Text.digitValue? 16 c).isSome
def isOctDigit (c : Char) : Bool := '0' ≤ c ∧ c ≤ '7'
def isBinDigit (c : Char) : Bool := c = '0' ∨ c = '1'

/-- Decimal digits without a leading zero, unless the number is zero. -/
def decimalDigits (cs : List Char) : Bool :=
  cs == ['0'] || (underscored Char.isDigit cs && cs.head? != some '0')

/-- The value of digits with underscores. -/
def digitsValue (radix : Nat) (cs : List Char) : Option Int :=
  match Text.accumulate radix UInt64.size 0 (cs.filter (· != '_')) with
  | .ok n => some n
  | .error _ => none

/-- The value of an integer token. -/
def integer? : List Char → Option Int
  | '0' :: 'x' :: cs => if underscored isHexDigit cs then digitsValue 16 cs else none
  | '0' :: 'o' :: cs => if underscored isOctDigit cs then digitsValue 8 cs else none
  | '0' :: 'b' :: cs => if underscored isBinDigit cs then digitsValue 2 cs else none
  | '+' :: cs => if decimalDigits cs then digitsValue 10 cs else none
  | '-' :: cs => if decimalDigits cs then (- ·) <$> digitsValue 10 cs else none
  | cs => if decimalDigits cs then digitsValue 10 cs else none

def isDigitOrUnderscore (c : Char) : Bool := c.isDigit ∨ c = '_'

/-- An exponent: `e` or `E`, an optional sign and digits. -/
def isExponent : List Char → Bool
  | 'e' :: cs | 'E' :: cs =>
    match cs with
    | '+' :: ds | '-' :: ds => underscored Char.isDigit ds
    | ds => underscored Char.isDigit ds
  | _ => false

/-- Whether a token is a float: an integer part, then a fraction, an exponent or both. -/
def isFloat (tok : List Char) : Bool :=
  let unsigned := match tok with
    | '+' :: cs | '-' :: cs => cs
    | cs => cs
  if unsigned == "inf".toList || unsigned == "nan".toList then true
  else
    let whole := unsigned.takeWhile isDigitOrUnderscore
    decimalDigits whole &&
      match unsigned.drop whole.length with
      | '.' :: cs =>
        let frac := cs.takeWhile isDigitOrUnderscore
        let rest := cs.drop frac.length
        underscored Char.isDigit frac && (rest.isEmpty || isExponent rest)
      | rest => isExponent rest

/-- Two decimal digits and the rest. -/
def twoDigits : List Char → Option (Nat × List Char)
  | a :: b :: cs =>
    if a.isDigit ∧ b.isDigit then some ((a.toNat - 48) * 10 + (b.toNat - 48), cs) else none
  | _ => none

/-- The number of days in a month of a year. -/
def daysInMonth (year month : Nat) : Nat :=
  if month = 2 then
    if year % 4 = 0 ∧ (year % 100 ≠ 0 ∨ year % 400 = 0) then 29 else 28
  else if month = 4 ∨ month = 6 ∨ month = 9 ∨ month = 11 then 30
  else 31

/-- A date `YYYY-MM-DD` at the front, and what follows it. -/
def date? : List Char → Option (List Char)
  | y1 :: y2 :: y3 :: y4 :: '-' :: cs => do
    let (hi, _) ← twoDigits [y1, y2]
    let (lo, _) ← twoDigits [y3, y4]
    let (month, rest) ← twoDigits cs
    let rest ← match rest with
      | '-' :: r => some r
      | _ => none
    let (day, rest) ← twoDigits rest
    if 1 ≤ month ∧ month ≤ 12 ∧ 1 ≤ day ∧ day ≤ daysInMonth (hi * 100 + lo) month then some rest
    else none
  | _ => none

/-- A time `HH:MM:SS` with an optional fraction at the front, and what follows it. -/
def time? (cs : List Char) : Option (List Char) := do
  let (hour, rest) ← twoDigits cs
  let rest ← match rest with
    | ':' :: r => some r
    | _ => none
  let (minute, rest) ← twoDigits rest
  let rest ← match rest with
    | ':' :: r => some r
    | _ => none
  let (second, rest) ← twoDigits rest
  if hour ≤ 23 ∧ minute ≤ 59 ∧ second ≤ 60 then
    match rest with
    | '.' :: r =>
      let frac := r.takeWhile Char.isDigit
      if frac.isEmpty then none else some (r.drop frac.length)
    | r => some r
  else none

/-- A time offset, `Z` or a signed `HH:MM`, ending the token. -/
def isOffset : List Char → Bool
  | [] => true
  | ['Z'] | ['z'] => true
  | '+' :: cs | '-' :: cs =>
    match twoDigits cs with
    | some (h, ':' :: rest) =>
      match twoDigits rest with
      | some (m, []) => h ≤ 23 ∧ m ≤ 59
      | _ => false
    | _ => false
  | _ => false

/-- Whether a token is a date, a time, or a date and time with an optional offset. -/
def isDateTime (tok : List Char) : Bool :=
  match date? tok with
  | some [] => true
  | some (sep :: rest) =>
    (sep = 'T' ∨ sep = 't' ∨ sep = ' ') &&
      match time? rest with
      | some r => isOffset r
      | none => false
  | none =>
    match time? tok with
    | some [] => true
    | _ => false

def scalarChar (c : Char) : Bool :=
  c.isAlphanum ∨ c = '_' ∨ c = '+' ∨ c = '-' ∨ c = '.' ∨ c = ':'

/-- The characters of a number, boolean, date or time; a date may be followed by a space
and a time. -/
def scalarToken : Parser (List Char) := do
  let cs ← get
  let tok := cs.takeWhile scalarChar
  let rest := cs.drop tok.length
  match rest with
  | ' ' :: a :: b :: ':' :: _ =>
    if date? tok == some [] && a.isDigit && b.isDigit then
      let time := (rest.drop 1).takeWhile scalarChar
      set ((rest.drop 1).drop time.length)
      pure (tok ++ ' ' :: time)
    else
      set rest
      pure tok
  | _ =>
    set rest
    pure tok

/-- The value of a number, boolean, date or time token. -/
def scalar (tok : List Char) : Except String Value :=
  if tok == "true".toList then .ok (.bool true)
  else if tok == "false".toList then .ok (.bool false)
  else if isDateTime tok then .ok .datetime
  else match integer? tok with
    | some n =>
      if Int64.minValue.toInt ≤ n ∧ n ≤ Int64.maxValue.toInt then .ok (.integer n) else .error "integer out of range"
    | none => if isFloat tok then .ok .float else .error "invalid value"

/-! ## Values and documents -/

mutual

/-- A value inside `depth` arrays and inline tables. -/
def value : Nat → Nat → Parser Value
  | 0, _ => fail "value too deep"
  | n + 1, depth => do
    match ← get with
    | '"' :: '"' :: '"' :: cs => Value.string <$> body (mlBasicBody (cs.length + 1) []) (dropFirstNewline cs)
    | '"' :: cs => Value.string <$> body (basicBody (cs.length + 1) []) cs
    | '\'' :: '\'' :: '\'' :: cs => Value.string <$> body (mlLiteralBody []) (dropFirstNewline cs)
    | '\'' :: cs => Value.string <$> body (literalBody []) cs
    | '[' :: cs =>
      if depth + 1 ≥ nestingLimit then fail "arrays and tables nest too deep"
      set cs
      array n (depth + 1) []
    | '\x7b' :: cs =>
      if depth + 1 ≥ nestingLimit then fail "arrays and tables nest too deep"
      set cs
      skipSpaces
      match ← get with
      | '\x7d' :: rest =>
        set rest
        pure (.inline [])
      | _ => inlineTable n (depth + 1) ⟨false, false, []⟩
    | _ => do scalar (← scalarToken)

/-- The rest of an array at a depth, after its opening bracket and the items read so far. -/
def array : Nat → Nat → List Value → Parser Value
  | 0, _, _ => fail "array too long"
  | n + 1, depth, acc => do
    skipBlank
    match ← get with
    | ']' :: cs =>
      set cs
      pure (.array acc.reverse)
    | _ =>
      let v ← value n depth
      skipBlank
      match ← get with
      | ',' :: cs =>
        set cs
        array n depth (v :: acc)
      | ']' :: cs =>
        set cs
        pure (.array (v :: acc).reverse)
      | _ => fail "expected , or ] in array"

/-- The rest of an inline table at a depth, after the entries read so far. -/
def inlineTable : Nat → Nat → Frame → Parser Value
  | 0, _, _ => fail "inline table too long"
  | n + 1, depth, t => do
    skipSpaces
    let path ← keyPath n
    skipSpaces
    expect '='
    skipSpaces
    let v ← value n depth
    let t ← insertValue path v t
    skipSpaces
    match ← get with
    | ',' :: cs =>
      set cs
      inlineTable n depth t
    | '\x7d' :: cs =>
      set cs
      pure (.inline t.entries)
    | _ => fail "expected , or \x7d in inline table"

end

/-- A document being read: the root table and the path of the table that keys go into. -/
structure Document where
  root : Frame
  current : List String

/-- The rest of a document. -/
def document : Nat → Document → Parser Document
  | 0, _ => fail "document too long"
  | n + 1, d => do
    skipBlank
    match ← get with
    | [] => pure d
    | '[' :: '[' :: cs =>
      set (dropSpaces cs)
      let path ← keyPath n
      skipSpaces
      match ← get with
      | ']' :: ']' :: rest => set rest
      | _ => fail "expected ]] after the table name"
      lineEnd
      document n ⟨← appendTable path d.root, path⟩
    | '[' :: cs =>
      set (dropSpaces cs)
      let path ← keyPath n
      skipSpaces
      expect ']'
      lineEnd
      document n ⟨← defineTable path d.root, path⟩
    | _ =>
      let path ← keyPath n
      skipSpaces
      expect '='
      skipSpaces
      let v ← value n 0
      lineEnd
      document n ⟨← modifyAt false (insertValue path v) d.current d.root, d.current⟩

/-- The root table of a document. -/
def parse (text : String) : Except String (List (String × Item)) := do
  let cs := match text.toList with
    | '﻿' :: rest => rest
    | cs => cs
  let (d, _) ← (document (cs.length + 2) ⟨⟨false, false, []⟩, []⟩).run cs
  pure d.root.entries

end GssApi.Toml
