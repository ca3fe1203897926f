import CidrLookup.Link
import CidrLookup.Link.Attempt

/-!
# Socket links

A link over connection attempts that work beside the session. Every attempt has a number, and each
call that connects or closes moves the link to a new number. Signals of all attempts come through
one channel; a signal of another number than the link's is stale, and nothing of it reaches the
session. The channel has room for a few signals, so a helper that reports faster than the session
looks has to wait.
-/

namespace CidrLookup

/-- A link with its attempts and the signals under way. -/
structure SocketLink where
  settings : StreamSettings
  connectTimeout : Duration
  /-- How many signals may wait. -/
  backlog : Nat
  /-- The number of the current attempt. -/
  generation : Nat
  /-- Whether the connection of the current attempt is open. -/
  isOpen : Bool
  /-- The attempts, the oldest first. -/
  attempts : List Attempt
  signals : Channel Signal
deriving Repr

namespace SocketLink

/-- A link that was never asked to connect. -/
def new (settings : StreamSettings) (connectTimeout : Duration) (backlog : Nat) : SocketLink :=
  ⟨settings, connectTimeout, backlog, 0, false, [], .empty⟩

/-- How many signals wait for a session before its helpers have to. -/
def sessionBacklog : Nat := 64

/-- The link of a session of a configuration. -/
def ofConfig (config : Config) : SocketLink :=
  new config.streamSettings config.connectTimeout sessionBacklog

/-- A link in one line. -/
def format (link : SocketLink) : String :=
  "TcpLink \x7b generation: " ++ toString link.generation ++ ", open: " ++ toString link.isOpen ++
    ", connect_timeout: " ++ link.connectTimeout.format ++ " \x7d"

/-! ## Attempts -/

/-- The attempt of a number. -/
def attempt? (link : SocketLink) (generation : Nat) : Option Attempt :=
  link.attempts.find? (·.generation = generation)

/-- Changes the attempt of a number. -/
def modify (generation : Nat) (f : Attempt → Attempt) (link : SocketLink) : SocketLink :=
  { link with
    attempts := link.attempts.map fun a => if a.generation = generation then f a else a }

/-! ## Calls of the session -/

/-- Lets go of the open connection, if there is one. Whatever the current attempt still reports is
stale from now on. -/
def close (link : SocketLink) : SocketLink :=
  let next := { link with generation := link.generation + 1, isOpen := false }
  if link.isOpen then next.modify link.generation Attempt.shutdown else next

/-- Begins a new attempt. -/
def startConnect (endpoint : Endpoint) (link : SocketLink) : SocketLink :=
  let closed := link.close
  { closed with attempts := closed.attempts ++ [.new closed.generation endpoint] }

/-- Whether the writing helper of the current attempt still takes frames. -/
def takesFrames (link : SocketLink) : Bool :=
  link.isOpen && (link.attempt? link.generation).any (·.writer ≠ .finished)

/-- Puts a frame into the outbox of the open connection. -/
def send (frame : Bytes) (link : SocketLink) : Except SessionError Unit × SocketLink :=
  if link.takesFrames then
    (.ok (), link.modify link.generation fun a => { a with outbox := a.outbox.send frame })
  else (.error .notConnected, link)

instance : Link SocketLink where
  startConnect := startConnect
  send := send
  close := close

/-! ## Signals -/

/-- What a signal means to the session. Accepting that the connection is over lets go of the
outbox; a stale signal of a connection that came up ends that connection. -/
def accept (signal : Signal) (link : SocketLink) : Arrival × SocketLink :=
  if signal.generation = link.generation then
    let dropped := { link with isOpen := false }.modify link.generation
      fun a => { a with outboxOpen := false }
    match signal.report with
    | .connected => (.event .connected, { link with isOpen := true })
    | .received payload => (.event (.received payload), link)
    | .closed none => (.event .disconnected, dropped)
    | .closed (some detail) => (.event (.failed ⟨.transport, detail⟩), dropped)
    | .connectFailed detail => (.event (.failed ⟨.connect, detail⟩), link)
  else
    (.stale signal.generation link.generation,
      if signal.report = .connected then link.modify signal.generation Attempt.shutdown else link)

/-- Takes the next signal from the channel, if one waits. -/
def receive? (link : SocketLink) : Option (Signal × SocketLink) :=
  link.signals.receive?.map fun (signal, signals) => (signal, { link with signals })

/-- Takes the next signal and accepts it. -/
def poll (link : SocketLink) : Arrival × SocketLink :=
  match link.receive? with
  | some (signal, link) => link.accept signal
  | none => (.quiet, link)

/-! ## Steps of the helpers -/

/-- A step of a helper, with what it meets outside. -/
inductive Step where
  | connect (outcome : Except TransportError Unit)
  /-- The connection is made, but its stream cannot be shared by the helpers. -/
  | splitFails (error : IoError)
  | read (extra : Nat)
  | readFails (error : IoError)
  | reportRead
  | takeFrame
  | write (acceptance : Record.Acceptance)
  | flush (outcome : Option IoError)
  | reportWrite
  | hangUp
deriving Repr

/-- Whether there is room for a signal. A channel without a backlog hands over one at a time. -/
def hasRoom (link : SocketLink) : Bool :=
  link.signals.waiting.length < max 1 link.backlog

/-- Puts a report into the channel. -/
def report (generation : Nat) (report : Report) (link : SocketLink) : SocketLink :=
  { link with signals := link.signals.send ⟨generation, report⟩ }

/-- One step of a helper of the attempt of a number. A step that is not due changes nothing. -/
def step (generation : Nat) (step : Step) (link : SocketLink) : SocketLink :=
  let change (f : Attempt → Attempt) := link.modify generation f
  let maxPayload := link.settings.maxPayload
  match link.attempt? generation with
  | none => link
  | some a =>
    match step, a.reader, a.writer with
    | .connect outcome, .connecting, _ => change (Attempt.dialled link.settings outcome)
    | .splitFails error, .connecting, _ => change (Attempt.splitFails (.transport (.io error)))
    | .read extra, .reading, _ => change (Attempt.read maxPayload extra)
    | .readFails error, .reading, _ => change (Attempt.readFails maxPayload error)
    | .reportRead, .reporting report, _ =>
      if link.hasRoom then (change (Attempt.reported report)).report generation report else link
    | .takeFrame, _, .idle => change (Attempt.takeFrame maxPayload)
    | .write acceptance, _, .writing rest => change (Attempt.writeRest rest acceptance)
    | .flush outcome, _, .flushing => change (Attempt.flushed outcome)
    | .reportWrite, _, .reporting detail =>
      if link.hasRoom then
        (change fun a => { a with writer := .hangingUp }).report generation (.closed (some detail))
      else link
    | .hangUp, _, .hangingUp => change Attempt.hangUp
    | _, _, _ => link

end SocketLink

end CidrLookup
