import CidrLookup.Text.Quoted

/-!
# Protocol errors

What can be wrong with an address, a range or a message, and the wording of each fault.
-/

namespace CidrLookup

/-- The protocol version that every message of this library carries. -/
def protocolVersion : UInt8 := 1

/-- The most metadata pairs a request can carry: their count is one byte. -/
def maxMetadata : Nat := 255

/-- Why an address, a range or a message was refused. -/
inductive ProtocolError where
  /-- The peer speaks another protocol version. -/
  | versionMismatch (received : UInt8)
  /-- The second byte names no kind of message. -/
  | unknownKind (tag : UInt8)
  /-- The message ended before a field of fixed width. -/
  | truncated (field : String) (needed remaining : Nat)
  /-- No terminator among the bytes a text may take. -/
  | unterminatedText (field : String) (scanned : Nat)
  /-- The bytes of a text are no UTF-8. -/
  | invalidUtf8 (field : String)
  /-- A text to be sent holds a NUL, which would end it early. -/
  | interiorNul (field : String)
  /-- More metadata pairs than one byte can count. -/
  | tooManyPairs (count : Nat)
  /-- Bytes after the last field. -/
  | trailingBytes (count : Nat)
  /-- A mask longer than an address. -/
  | invalidMaskLength (length : UInt32)
  /-- The text is no dotted quad. -/
  | invalidAddress (text : String)
deriving DecidableEq, Repr

namespace ProtocolError

/-- Whether the rest of the connection is unreadable too. -/
def isFatal : ProtocolError → Bool
  | versionMismatch _ => true
  | _ => false

/-- The wording of an error. -/
def message : ProtocolError → String
  | versionMismatch received =>
    s!"mismatching protocol version, expected {protocolVersion}, received {received}"
  | unknownKind tag => s!"invalid message variant {tag}"
  | truncated field needed remaining =>
    s!"truncated message reading {field}: need {needed} bytes, {remaining} remaining"
  | unterminatedText field scanned => s!"unterminated string in {field} (scanned {scanned} bytes)"
  | invalidUtf8 field => s!"string in {field} is not valid utf-8"
  | interiorNul field => s!"string in {field} contains an interior NUL byte"
  | tooManyPairs count => s!"too many metadata pairs ({count}, max {maxMetadata})"
  | trailingBytes count => s!"{count} trailing bytes after message payload"
  | invalidMaskLength length => s!"invalid mask length {length}"
  | invalidAddress text => "invalid IPv4 address " ++ Text.quoted text

end ProtocolError

end CidrLookup
