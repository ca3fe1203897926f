import CidrLookup.IoError

/-!
# Record errors

What can go wrong with a record: its header, its size, the stream that carries it.
-/

namespace CidrLookup

/-- Why a record was not read or not written. -/
inductive FrameError where
  /-- The bytes at the front are not the start of a record. -/
  | invalidMagic
  /-- The payload is over the limit. -/
  | payloadTooLarge (size max : Nat)
  /-- The stream failed. -/
  | io (error : IoError)
  /-- The stream ended. -/
  | connectionClosed
deriving DecidableEq, Repr

/-- The wording of an error. -/
def FrameError.message : FrameError → String
  | invalidMagic => "invalid record magic (expected 0x4C51 \"LQ\")"
  | payloadTooLarge size max => s!"payload too large ({size} bytes, max {max})"
  | io error => "record I/O error: " ++ error.text
  | connectionClosed => "connection closed (incomplete record)"

end CidrLookup
