import GssApi.Bytes
import GssApi.Text.GraphemeExtend
import GssApi.Text.OtherOrSeparator
/-! Quoted text in messages.

Messages quote text the way a debugging view shows a string: between double quotes, with
the quote and the backslash escaped and the common control characters written as `\0`, `\t`,
`\r` and `\n`. A character that would not show as a glyph of its own is written as `\u`
followed by its code in lowercase hexadecimal between braces: one that extends the grapheme
before it (a combining mark, say), one whose general category is an "other" or a
separator category, the plain space apart, and the Hangul filler letters, which show as blank
space. -/
namespace GssApi.Text

/-- Whether a character is one of the Hangul fillers U+115F, U+1160, U+3164 and U+FFA0:
letters (Lo) that are default-ignorable and show as blank space. -/
def isFiller (c : Char) : Bool :=
  c.toNat = 0x115F || c.toNat = 0x1160 || c.toNat = 0x3164 || c.toNat = 0xFFA0

/-- Whether a character shows as a glyph of its own: the space does, and so does every
character whose general category is neither an "other" nor a separator category, the
fillers apart. -/
def isPrintable (c : Char) : Bool := c = ' ' || !(isOtherOrSeparator c || isFiller c)

/-- The escaped form of one character. -/
def escapeChar (c : Char) : String :=
  match c with
  | '\x00' => "\\0"
  | '\t' => "\\t"
  | '\r' => "\\r"
  | '\n' => "\\n"
  | '\\' => "\\\\"
  | '"' => "\\\""
  | c =>
    if isGraphemeExtend c || !isPrintable c then
      "\\u" ++ "\x7b" ++ hexText c.val.toNat ++ "\x7d"
    else c.toString

/-- A string between double quotes, escaped. -/
def quote (s : String) : String := "\"" ++ String.join (s.toList.map escapeChar) ++ "\""

/-- The parts before and after the first occurrence of a character, if it occurs. -/
def splitFirst (s : String) (sep : Char) : Option (String × String) :=
  match s.splitOn sep.toString with
  | first :: second :: rest => some (first, sep.toString.intercalate (second :: rest))
  | _ => none

end GssApi.Text
