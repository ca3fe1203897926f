import CidrLookup.Record.Buffer

/-!
# Writing records to a stream

A stream takes some of the bytes offered to a write, or none, or fails. A writer offers what is
left until all is taken and then flushes; a payload over the limit is not offered at all. `Writer`
keeps the record it writes in a buffer, and the place up to which it was taken; `Sink.send` is what
this does to the stream.
-/

namespace CidrLookup.Record

/-! ## Sinks -/

/-- What a stream answers to a write: it takes so many bytes of those offered, or fails. -/
inductive Acceptance where
  | takes (count : Nat)
  | failure (error : IoError)
deriving DecidableEq, Repr

/-- A stream to write to: its answers to the writes and flushes to come, what it has taken, and
how often it was flushed. After the last answers it takes everything and every flush succeeds. -/
structure Sink where
  writes : List Acceptance
  flushes : List (Option IoError)
  taken : Bytes
  flushCount : Nat
deriving DecidableEq, Repr

namespace Sink

/-- Offers bytes until all are taken. A write that takes none means the stream is closed; an
interrupted one is made again. -/
def writeAll (taken : Bytes) : List Acceptance → Bytes →
    Except FrameError Unit × List Acceptance × Bytes
  | writes, [] => (.ok (), writes, taken)
  | [], bytes => (.ok (), [], taken ++ bytes)
  | .takes 0 :: writes, _ => (.error .connectionClosed, writes, taken)
  | .takes (n + 1) :: writes, bytes =>
    writeAll (taken ++ bytes.take (n + 1)) writes (bytes.drop (n + 1))
  | .failure e :: writes, bytes =>
    if e.isInterrupted then writeAll taken writes bytes else (.error (.io e), writes, taken)

/-- Flushes, again after an interruption. -/
def flushAll (count : Nat) : List (Option IoError) →
    Except FrameError Unit × List (Option IoError) × Nat
  | [] => (.ok (), [], count + 1)
  | none :: flushes => (.ok (), flushes, count + 1)
  | some e :: flushes =>
    if e.isInterrupted then flushAll (count + 1) flushes else (.error (.io e), flushes, count + 1)

/-- Flushes the stream. -/
def flush (sink : Sink) : Except FrameError Unit × Sink :=
  let (outcome, flushes, count) := flushAll sink.flushCount sink.flushes
  (outcome, { sink with flushes, flushCount := count })

/-- Writes the record of a payload within the limit, whole, and flushes. -/
def send (maxPayload : Nat) (payload : Bytes) (sink : Sink) : Except FrameError Unit × Sink :=
  match encodeWithin maxPayload payload with
  | .error e => (.error e, sink)
  | .ok bytes =>
    match writeAll sink.taken sink.writes bytes with
    | (.ok (), writes, taken) => { sink with writes, taken }.flush
    | (.error e, writes, taken) => (.error e, { sink with writes, taken })

end Sink

/-! ## Writers -/

/-- A writer of records: the stream it writes to, and a buffer for the record it writes, which it
keeps from one record to the next. -/
structure Writer where
  sink : Sink
  buffer : Bytes
deriving DecidableEq, Repr

namespace Writer

/-- A writer that has written nothing. -/
def new (sink : Sink) : Writer :=
  ⟨sink, []⟩

/-- Offers the buffer from a place on until all is taken. A stream takes no more than it is
offered. -/
def offer (buffer : Bytes) (taken : Bytes) (offset : Nat) :
    List Acceptance → Except FrameError Unit × List Acceptance × Bytes
  | [] => (.ok (), [], taken ++ buffer.drop offset)
  | answer :: writes =>
    if buffer.length ≤ offset then (.ok (), answer :: writes, taken)
    else match answer with
      | .takes 0 => (.error .connectionClosed, writes, taken)
      | .takes (n + 1) =>
        let count := min (n + 1) (buffer.length - offset)
        offer buffer (taken ++ (buffer.drop offset).take count) (offset + count) writes
      | .failure e =>
        if e.isInterrupted then offer buffer taken offset writes
        else (.error (.io e), writes, taken)

/-- Flushes the stream. -/
def flush (writer : Writer) : Except FrameError Unit × Writer :=
  let (outcome, sink) := writer.sink.flush
  (outcome, { writer with sink })

/-- Writes the record of a payload within the limit and flushes. The record replaces whatever an
earlier one left in the buffer. -/
def send (maxPayload : Nat) (payload : Bytes) (writer : Writer) :
    Except FrameError Unit × Writer :=
  if payload.length > maxPayload then
    (.error (.payloadTooLarge payload.length maxPayload), writer)
  else match Buffer.put payload [] with
    | (.error e, buffer) => (.error e, { writer with buffer })
    | (.ok (), buffer) =>
      match offer buffer writer.sink.taken 0 writer.sink.writes with
      | (.ok (), writes, taken) => flush ⟨{ writer.sink with writes, taken }, buffer⟩
      | (.error e, writes, taken) => (.error e, ⟨{ writer.sink with writes, taken }, buffer⟩)

end Writer

end CidrLookup.Record
