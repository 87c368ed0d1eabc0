import GssApi.Script.Edit
import GssApi.Crypto.Key
import GssApi.Text.Quote
/-! Byte arguments of scripted steps.

A byte argument is literal bytes or a token saved by an earlier step, repeated some number
of times and then edited. Saved tokens are looked up when the step runs, so a step can use
what the step before it produced. -/
namespace GssApi.Script

/-- Where the bytes of an argument come from. -/
inductive ByteSource where
  | literal (bs : Bytes)
  | saved (name : String)

/-- A byte argument: a source, a number of copies and edits applied in order. -/
structure ByteSpec where
  source : ByteSource
  copies : Nat := 1
  edits : List Edit := []

namespace ByteSpec

def literal (bs : Bytes) : ByteSpec := ⟨.literal bs, 1, []⟩

/-- The bytes of an argument, given the saved tokens. -/
def resolve (saved : String → Option Bytes) (s : ByteSpec) : Except String Bytes := do
  let base ← match s.source with
    | .literal bs => pure bs
    | .saved name => match saved name with
      | some bs => pure bs
      | none => throw ("unknown token " ++ Text.quote name)
  Edit.applyAll s.edits (repeatBytes s.copies base)

end ByteSpec

/-- A key argument: a key type and the key bytes. -/
structure KeySpec where
  encType : EncType
  key : ByteSpec

end GssApi.Script
