import GssApi.Krb5.Exchange.Error
/-! Fields of exchange messages.

Exchange messages are sequences of fixed-width big-endian integers and length-prefixed byte
fields, whose prefix is a big-endian 16-bit length. Writing a field longer than 65535 bytes
fails. A `Reader` consumes fields from the front of a message and reports a shortfall as a
truncated token; `Reader.finish` requires that nothing is left. -/
namespace GssApi.Exchange

/-- The longest byte field a 16-bit prefix can describe. -/
def maxField : Nat := 65535

/-- A byte field with its 16-bit length prefix. -/
def putField (data : Bytes) : Except CodecError Bytes :=
  if data.length > maxField then .error .badLength
  else .ok (Bytes.beOfNat 2 data.length ++ data)

/-- A text field: its UTF-8 bytes with their length prefix. -/
def putText (s : String) : Except CodecError Bytes := putField (Bytes.ofString s)

/-- Reading fields from the front of a message. -/
abbrev Reader := StateT Bytes (Except ApError)

namespace Reader

/-- The next `n` bytes. -/
def take (n : Nat) : Reader Bytes := fun bs =>
  if bs.length < n then .error (.codec (.truncated n bs.length)) else .ok (bs.take n, bs.drop n)

def u8 : Reader UInt8 := do
  let b ← take 1
  pure (b.headD 0)

def u32 : Reader UInt32 := do pure (UInt32.ofNat (Bytes.beToNat (← take 4)))

def i32 : Reader Int32 := do pure (Int32.ofNat (Bytes.beToNat (← take 4)))

def u64 : Reader UInt64 := do pure (UInt64.ofNat (Bytes.beToNat (← take 8)))

/-- A byte field with its 16-bit length prefix. -/
def field : Reader Bytes := do
  let n ← take 2
  take (Bytes.beToNat n)

/-- A text field; its bytes must be UTF-8. -/
def text : Reader String := do
  match Text.decodeUtf8 (← field) with
  | .ok s => pure s
  | .error fault => throw (.principal fault)

/-- Require that the whole message has been read. -/
def finish : Reader Unit := fun bs =>
  if bs.isEmpty then .ok ((), bs) else .error (.codec (.lengthMismatch 0 bs.length))

end Reader

/-- The value a reader reads from the front of a message. -/
def Reader.read (r : Reader α) (bs : Bytes) : Except ApError α := (r.run bs).map Prod.fst

end GssApi.Exchange
