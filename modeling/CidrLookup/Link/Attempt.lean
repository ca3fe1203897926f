import CidrLookup.Endpoint
import CidrLookup.Record.Writer
import CidrLookup.SessionError
import CidrLookup.Stream

/-!
# Connection attempts

Each attempt to connect is carried out by two helpers that work beside the session. One connects
and then reads records; the other takes frames from an outbox and writes them, so that a send never
waits for the socket. What they observe they report, each report being one signal in the channel
that all attempts share; a report waits until there is room for it.

An attempt moves in small steps, in any order in which the helpers may get to work. What a step
meets outside — how a connection attempt ends, how much a read brings, how much a write takes — is
given with it.
-/

namespace CidrLookup

/-! ## Reports -/

/-- What a helper observes. -/
inductive Report where
  /-- The connection is made. -/
  | connected
  /-- A record has arrived. -/
  | received (payload : Bytes)
  /-- The connection is over: the service has ended it, or there is a reason. -/
  | closed (detail : Option String)
  /-- The connection is not made, for a reason. -/
  | connectFailed (detail : String)
deriving DecidableEq, Repr

namespace Report

/-- The name of a report's kind. -/
def name : Report → String
  | connected => "connected"
  | received _ => "received"
  | closed _ => "closed"
  | connectFailed _ => "connect-failed"

/-- Whether the helper that reports this goes on. -/
def goesOn : Report → Bool
  | connected | received _ => true
  | closed _ | connectFailed _ => false

end Report

/-- A report with the number of its attempt. -/
structure Signal where
  generation : Nat
  report : Report
deriving DecidableEq, Repr

/-- A signal in one line. -/
def Signal.format (signal : Signal) : String :=
  "LinkSignal \x7b generation: " ++ toString signal.generation ++ ", kind: " ++
    Text.quoted signal.report.name ++ " \x7d"

/-! ## Helpers -/

/-- What the reading helper is about. -/
inductive ReaderPhase where
  | connecting
  /-- It has something to report. -/
  | reporting (report : Report)
  | reading
  | finished
deriving DecidableEq, Repr

/-- What the writing helper is about. -/
inductive WriterPhase where
  /-- There is no connection yet. -/
  | absent
  /-- It waits for a frame. -/
  | idle
  /-- It has a part of a record left to write. -/
  | writing (rest : Bytes)
  | flushing
  /-- A frame was not written, for a reason that it has to report. -/
  | reporting (detail : String)
  /-- It has reported and is about to shut the stream down. -/
  | hangingUp
  | finished
deriving DecidableEq, Repr

/-- One attempt to connect, and the connection that came of it. -/
structure Attempt where
  /-- Attempts are numbered; a later one has a greater number. -/
  generation : Nat
  endpoint : Endpoint
  reader : ReaderPhase
  writer : WriterPhase
  /-- What was read and is not a whole record yet. -/
  buffer : Bytes
  outbox : Channel Bytes
  /-- Whether more frames may come. -/
  outboxOpen : Bool
  stream : Stream
deriving DecidableEq, Repr

namespace Attempt

/-- An attempt that has not begun. -/
def new (generation : Nat) (endpoint : Endpoint) : Attempt :=
  ⟨generation, endpoint, .connecting, .absent, [], .empty, true, .unconnected⟩

/-- Ends the connection from this side: no more frames come, and nothing is read or written. -/
def shutdown (a : Attempt) : Attempt :=
  { a with outboxOpen := false, stream := a.stream.shutdown }

/-- A stream that neither helper uses any more is closed. -/
def release (a : Attempt) : Attempt :=
  if a.reader = .finished ∧ a.writer = .finished then { a with stream := a.stream.shutdown } else a

/-! ## Steps of the reading helper -/

/-- A connection whose stream cannot be given to both helpers is shut down, and counts as one that
is not made. -/
def splitFails (e : SessionError) (a : Attempt) : Attempt :=
  { a with
    reader := .reporting (.connectFailed e.message)
    stream := Stream.established.shutdown }

/-- The outcome of connecting. A connection whose stream does not take the settings is given up. -/
def dialled (settings : StreamSettings) (outcome : Except TransportError Unit) (a : Attempt) :
    Attempt :=
  match outcome with
  | .error e => { a with reader := .reporting (.connectFailed e.message) }
  | .ok () =>
    match Stream.checkSettings settings with
    | .error e => a.splitFails (.frame e)
    | .ok () =>
      { a with reader := .reporting .connected, writer := .idle, stream := .established }

/-- Ends reading for a reason. -/
def readerFails (e : FrameError) (a : Attempt) : Attempt :=
  match e with
  | .connectionClosed => { a with reader := .reporting (.closed none) }
  | e => { a with reader := .reporting (.closed (some e.message)) }

/-- One turn of reading: a record that is already there, or one read of at most `extra + 1` bytes.
Where a read would have to wait nothing happens. -/
def read (maxPayload extra : Nat) (a : Attempt) : Attempt :=
  match Record.decode maxPayload a.buffer with
  | .error e => a.readerFails e
  | .ok (some (payload, rest)) =>
    { a with reader := .reporting (.received payload), buffer := rest }
  | .ok none =>
    if a.stream.isReadable then
      match a.stream.read (extra + 1) with
      | (.ok [], stream) => { a with stream }.readerFails .connectionClosed
      | (.ok chunk, stream) => { a with buffer := a.buffer ++ chunk, stream }
      | (.error e, stream) => { a with stream }.readerFails (.io e)
    else a

/-- A read that fails. An interrupted one is made again, and a record that is already there is
taken without a read. -/
def readFails (maxPayload : Nat) (e : IoError) (a : Attempt) : Attempt :=
  match Record.decode maxPayload a.buffer with
  | .ok none => if e.isInterrupted then a else a.readerFails (.io e)
  | _ => a

/-- The report is made: the helper reads on, or has finished. -/
def reported (report : Report) (a : Attempt) : Attempt :=
  if report.goesOn then { a with reader := .reading } else { a with reader := .finished }.release

/-! ## Steps of the writing helper -/

/-- Takes the next frame, or finishes when no more can come. A frame over the limit is not
written. -/
def takeFrame (maxPayload : Nat) (a : Attempt) : Attempt :=
  match a.outbox.receive? with
  | some (frame, outbox) =>
    match Record.encodeWithin maxPayload frame with
    | .ok record => { a with writer := .writing record, outbox }
    | .error e => { a with writer := .reporting e.message, outbox }
  | none => if a.outboxOpen then a else { a with writer := .finished }.release

/-- Ends writing for a reason. -/
def writerFails (e : FrameError) (a : Attempt) : Attempt :=
  { a with writer := .reporting e.message }

/-- One write of what is left of a record. -/
def writeRest (rest : Bytes) (acceptance : Record.Acceptance) (a : Attempt) : Attempt :=
  match acceptance with
  | .failure e => if e.isInterrupted then a else a.writerFails (.io e)
  | .takes count =>
    match a.stream.write (rest.take count) with
    | (.error e, _) => a.writerFails (.io e)
    | (.ok 0, _) => a.writerFails .connectionClosed
    | (.ok _, stream) =>
      let left := rest.drop count
      { a with writer := if left.isEmpty then .flushing else .writing left, stream }

/-- The flush after a record. -/
def flushed (outcome : Option IoError) (a : Attempt) : Attempt :=
  match outcome with
  | none => { a with writer := .idle }
  | some e => if e.isInterrupted then a else a.writerFails (.io e)

/-- Shuts the stream down and finishes. -/
def hangUp (a : Attempt) : Attempt :=
  { a with writer := .finished, stream := a.stream.shutdown }

end Attempt

end CidrLookup
