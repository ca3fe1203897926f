import CidrLookup.Bytes
import CidrLookup.FrameError
import CidrLookup.Numeral

/-!
# Records

A record carries one message over a byte stream: the two bytes `4C 51`, the length of the payload
as a word, the payload. Decoding takes one record off the front of a buffer. It looks at nothing
before the six bytes of the header are there, then at the magic, then at the length, and last
whether the payload is complete.
-/

namespace CidrLookup.Record

/-- The two bytes in front of every record. -/
def magic : Bytes := [0x4C, 0x51]

/-- The size of magic and length. -/
def headerSize : Nat := 6

/-- The greatest payload that is read or written unless something else is set. -/
def defaultMaxPayload : Nat := 65536

/-- The size of the record of a payload. -/
def wireSize (payload : Bytes) : Nat :=
  headerSize + payload.length

/-- The record of a payload; its length must fit a word. -/
def encode (payload : Bytes) : Except FrameError Bytes :=
  if payload.length > Numeral.maxWord then
    .error (.payloadTooLarge payload.length Numeral.maxWord)
  else .ok (magic ++ Bytes.ofWord (.ofNat payload.length) ++ payload)

/-- Takes one record off the front: its payload and what follows, or `none` while more bytes are
needed. -/
def decode (maxPayload : Nat) (buffer : Bytes) : Except FrameError (Option (Bytes × Bytes)) :=
  match buffer with
  | m :: n :: a :: b :: c :: d :: body =>
    let size := (Bytes.word a b c d).toNat
    if [m, n] ≠ magic then .error .invalidMagic
    else if size > maxPayload then .error (.payloadTooLarge size maxPayload)
    else if body.length < size then .ok none
    else .ok (some (body.take size, body.drop size))
  | _ => .ok none

/-- The record of a payload that is within the limit. -/
def encodeWithin (maxPayload : Nat) (payload : Bytes) : Except FrameError Bytes :=
  if payload.length > maxPayload then .error (.payloadTooLarge payload.length maxPayload)
  else encode payload

/-- The last decoding of a stream that has ended: bytes that make no record are an error. -/
def decodeLast (maxPayload : Nat) (buffer : Bytes) : Except FrameError (Option (Bytes × Bytes)) :=
  match decode maxPayload buffer with
  | .ok none => if buffer = [] then .ok none else .error (.io ⟨.other, "bytes remaining on stream"⟩)
  | outcome => outcome

end CidrLookup.Record
