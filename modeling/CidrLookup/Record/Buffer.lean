import CidrLookup.Record

/-!
# Buffers of records

A caller may keep the bytes itself: it appends what arrives, or the records it has to send, and
takes records off the front. A call that brings no record leaves the buffer as it was, so the caller
adds bytes and calls again.
-/

namespace CidrLookup.Record.Buffer

/-! ## Appending -/

/-- The buffer after an encoding, which is refused as a whole. -/
def append (buffer : Bytes) : Except FrameError Bytes → Except FrameError Unit × Bytes
  | .ok record => (.ok (), buffer ++ record)
  | .error e => (.error e, buffer)

/-- Appends the record of a payload. -/
def put (payload buffer : Bytes) : Except FrameError Unit × Bytes :=
  append buffer (encode payload)

/-- Appends the record of a payload that is within the limit. -/
def putWithin (maxPayload : Nat) (payload buffer : Bytes) : Except FrameError Unit × Bytes :=
  append buffer (encodeWithin maxPayload payload)

/-! ## Taking -/

/-- The payload that a decoding of the buffer brings, and the buffer after it. -/
def advance (buffer : Bytes) :
    Except FrameError (Option (Bytes × Bytes)) → Except FrameError (Option Bytes) × Bytes
  | .ok (some (payload, rest)) => (.ok (some payload), rest)
  | .ok none => (.ok none, buffer)
  | .error e => (.error e, buffer)

/-- Takes one record off the front; `none` while more bytes are needed. -/
def take (maxPayload : Nat) (buffer : Bytes) : Except FrameError (Option Bytes) × Bytes :=
  advance buffer (decode maxPayload buffer)

/-- Takes one record off the front of a buffer to which nothing is added any more. -/
def takeLast (maxPayload : Nat) (buffer : Bytes) : Except FrameError (Option Bytes) × Bytes :=
  advance buffer (decodeLast maxPayload buffer)

/-- The outcomes of `count` calls, one after another, with the buffer after them. -/
def takeMany (maxPayload : Nat) (buffer : Bytes) :
    (count : Nat) → List (Except FrameError (Option Bytes)) × Bytes
  | 0 => ([], buffer)
  | count + 1 =>
    let (outcome, buffer) := take maxPayload buffer
    let (outcomes, buffer) := takeMany maxPayload buffer count
    (outcome :: outcomes, buffer)

end CidrLookup.Record.Buffer
