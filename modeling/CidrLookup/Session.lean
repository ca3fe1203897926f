import CidrLookup.Connection
import CidrLookup.Message.Decode
import CidrLookup.Session.Config
import CidrLookup.Session.Queue

/-!
# Lookup sessions

A session is one connection, one queue of lookups and what is known of the service. It waits for
nothing: a caller submits lookups and passes on what happens on the socket, and each call returns
the next state. The clock and the wish of each requester are given with every call.

* A submitted lookup is sent at once on an open connection; otherwise it waits, and an attempt to
  connect is started. Submitting is the only thing that tries again: a session that lost its
  connection stays disconnected until asked for something.
* When a connection comes up, the client names itself if it has a token, and every waiting lookup
  is sent in the order of submission.
* However a connection ends, lookups in flight go back to waiting.
* A message of another protocol version halts the session for good.

What a session does is kept as a history of effects: calls on the link, answers to requesters,
notices for the log. No decision of the session reads it.
-/

namespace CidrLookup

/-- Something a session does to its surroundings. -/
inductive Effect (ρ : Type) where
  /-- The link is told to connect. -/
  | connect (endpoint : Endpoint)
  /-- The link takes a frame; a request is sent for a requester. -/
  | sent {requester : Option ρ} (frame : Bytes)
  /-- The link does not take a frame. -/
  | refused (frame : Bytes) (error : SessionError)
  /-- The link is told to close. -/
  | close
  /-- A requester is given its answer. -/
  | resolved (requester : ρ) (resolution : Resolution)
  /-- A line for the log. -/
  | notice (notice : Notice)
deriving DecidableEq, Repr

/-- The state of a session with requesters `ρ` and a link `σ`. -/
structure Session (ρ σ : Type) where
  config : Config
  connection : Connection σ
  queue : Queue ρ
  /-- The parameters the service announced on this connection. -/
  info : Option ServiceInfo
  /-- Why the session has given up on the service. -/
  halted : Option String
  /-- Why the last connection ended or was not made, unless it was asked to end. -/
  lastError : Option String
  /-- What the session has done, the newest first. -/
  history : List (Effect ρ)
deriving Repr

/-- What a call on a session is made with: the time, and which requesters still want an answer. -/
structure Surroundings (ρ : Type) where
  now : Instant
  reachable : ρ → Bool

namespace Session

variable {ρ σ : Type} [Link σ]

/-- A session that has done nothing yet; its host must not be blank. -/
def new (config : Config) (link : σ) : Except SessionError (Session ρ σ) :=
  match Endpoint.make config.host config.port with
  | .error .emptyHost => .error .emptyHost
  | .error e => .error (.transport e)
  | .ok endpoint =>
    .ok ⟨config, .new link endpoint, .empty config.maxPending, none, none, none, []⟩

/-! ## History -/

/-- Adds an effect to the history. -/
def record (effect : Effect ρ) (s : Session ρ σ) : Session ρ σ :=
  { s with history := effect :: s.history }

/-- Adds a line for the log to the history. -/
def note (notice : Notice) (s : Session ρ σ) : Session ρ σ :=
  s.record (.notice notice)

/-- The history from its start, and the session with an empty one. -/
def takeHistory (s : Session ρ σ) : List (Effect ρ) × Session ρ σ :=
  (s.history.reverse, { s with history := [] })

/-! ## The connection -/

/-- Starts an attempt to connect unless there is one or it has succeeded; says whether it did. -/
def openConnection (s : Session ρ σ) : Bool × Session ρ σ :=
  match s.connection.connect with
  | (true, connection) =>
    (true, ({ s.note (.connecting s.connection.endpoint) with connection }).record
      (.connect s.connection.endpoint))
  | (false, _) => (false, s.note (.connectSkipped s.connection.state))

/-- Hands a frame to the link. -/
def sendFrame (now : Instant) (requester : Option ρ) (frame : Bytes) (s : Session ρ σ) :
    Except SessionError Unit × Session ρ σ :=
  match s.connection.send now frame with
  | (.ok (), connection) =>
    (.ok (), ({ s with connection }).record (@Effect.sent ρ requester frame))
  | (.error e, connection) => (.error e, ({ s with connection }).record (.refused frame e))

/-- Closes the link. -/
def closeConnection (s : Session ρ σ) : Session ρ σ :=
  let noted := if s.connection.state = .disconnected then s
    else s.note (.disconnecting s.connection.endpoint s.connection.state)
  ({ noted with connection := s.connection.disconnect }).record .close

/-- What every end of a connection does: the link is closed, the parameters of the service are
forgotten, and lookups in flight go back to waiting. -/
def linkLost (s : Session ρ σ) : Session ρ σ :=
  let closed := s.closeConnection
  let count := s.queue.count .sent
  let next := { closed with info := none, queue := s.queue.demoteSent }
  if count = 0 then next else (next.note (.demoted count)).note (.resendLater count)

/-- The end of a connection for a reason. -/
def fail (reason : String) (s : Session ρ σ) : Session ρ σ :=
  linkLost { s with lastError := some reason }

/-! ## Sending what waits -/

/-- What is left after sending waiting lookups: the connection, the lookups, the effects with the
newest first, and the send that failed, if one did. -/
structure Flush (ρ σ : Type) where
  connection : Connection σ
  entries : List (Entry ρ)
  effects : List (Effect ρ)
  failure : Option SessionError

/-- Sends waiting lookups in order until a send fails. A lookup nobody waits for is dropped. -/
def flush (around : Surroundings ρ) (connection : Connection σ) (effects : List (Effect ρ)) :
    List (Entry ρ) → Flush ρ σ
  | [] => ⟨connection, [], effects, none⟩
  | entry :: more =>
    let keep (state : EntryState) (rest : Flush ρ σ) : Flush ρ σ :=
      { rest with entries := entry.withState state :: rest.entries }
    if entry.state ≠ .pending then
      keep entry.state (flush around connection effects more)
    else if ¬ around.reachable entry.requester then
      keep .complete (flush around connection
        (.notice (.requesterGone entry.text) :: effects) more)
    else match entry.frame with
      | .error e =>
        keep .complete (flush around connection
          (.notice (.unencodable entry.text (.protocol e)) :: effects) more)
      | .ok frame =>
        match connection.send around.now frame with
        | (.ok (), connection) =>
          keep .sent (flush around connection
            (@Effect.sent ρ (some entry.requester) frame :: effects) more)
        | (.error e, connection) =>
          ⟨connection, entry :: more, .refused frame e :: effects, some e⟩

/-- Sends every waiting lookup; a failed send ends the connection. -/
def flushPending (around : Surroundings ρ) (s : Session ρ σ) : Session ρ σ :=
  let done := flush around s.connection s.history s.queue.entries
  let next := { s with
    connection := done.connection
    queue := { s.queue with entries := done.entries }
    history := done.effects }
  match done.failure with
  | none => next
  | some e => (next.note (.flushFailed e)).fail e.message

/-- The message that names the client. -/
def identifyFrame (token : String) : Except SessionError Bytes :=
  (Message.identify token).encode.mapError .protocol

/-- Names the client to the service if there is a token. -/
def identify (now : Instant) (s : Session ρ σ) : Except SessionError Unit × Session ρ σ :=
  match s.config.identify with
  | none => (.ok (), s)
  | some token =>
    match identifyFrame token with
    | .error e => (.error e, s)
    | .ok frame =>
      match s.sendFrame now none frame with
      | (.ok (), s) => (.ok (), s.note .identified)
      | (.error e, s) => (.error e, s)

/-! ## Events -/

/-- The connection has come up. A halted session lets go of it. -/
def onConnected (around : Surroundings ρ) (s : Session ρ σ) : Session ρ σ :=
  match s.halted with
  | some _ => s.closeConnection
  | none =>
    let up := ({ s with
      connection := s.connection.markConnected around.now
      lastError := none }).note (.connected s.connection.endpoint)
    match up.identify around.now with
    | (.ok (), s) => s.flushPending around
    | (.error e, s) => (s.note (.identifyFailed e)).fail e.message

/-- Gives an answer to the oldest lookup in flight for its address. -/
def resolve (resolution : Resolution) (s : Session ρ σ) : Session ρ σ :=
  match s.queue.completeFirstSent resolution.address.format with
  | some (entry, queue) =>
    (({ s with queue }).note (.resolved resolution)).record (.resolved entry.requester resolution)
  | none => s.note (.unmatched resolution.address)

/-- A record has arrived. What is no message is passed over, unless it is of another version. -/
def onFrame (frame : Bytes) (s : Session ρ σ) : Session ρ σ :=
  match Message.decode s.config.maxFrame frame with
  | .error e =>
    if e.isFatal then
      fail e.message { s.note (.foreignVersion e) with halted := some e.message }
    else s.note (.malformedFrame e frame.length)
  | .ok (.established info) => { s.note (.established info) with info := some info }
  | .ok (.found address range) => s.resolve (.found address range)
  | .ok (.notFound address) => s.resolve (.notFound address)
  | .ok (.failure code text) =>
    let reason := (FailureReason.ofCode code).describe
    (s.note (.serviceFailure code text)).fail
      s!"lookup service error {code} ({reason}): {text}"
  | .ok (.identify _) => s.note (.unexpectedMessage .identify)
  | .ok (.request ..) => s.note (.unexpectedMessage .request)

/-- Something has happened on the socket. -/
def handleEvent (around : Surroundings ρ) (event : Event) (s : Session ρ σ) : Session ρ σ :=
  match event with
  | .connected => s.onConnected around
  | .received frame => s.onFrame frame
  | .disconnected =>
    (s.note (.closedByService s.connection.endpoint)).fail "connection closed by lookup service"
  | .failed failure =>
    (s.note (.connectionFailed s.connection.endpoint failure)).fail
      (failure.kind.name ++ " failed: " ++ failure.detail)

/-! ## Calls -/

/-- Takes a lookup that was checked: sends it on an open connection, or starts to connect. -/
def dispatch (now : Instant) (requester : ρ) (text : String) (frame : Bytes) (s : Session ρ σ) :
    SubmitOutcome × Session ρ σ :=
  if s.connection.state = .connected then
    match s.sendFrame now (some requester) frame with
    | (.ok (), s) => (.sent, { s with queue := s.queue.markLastSent })
    | (.error e, s) => (.queued, ((s.note (.sendFailed e)).fail e.message).openConnection.2)
  else (.queued, (s.note (.lookupQueued text)).openConnection.2)

/-- Asks for an address on behalf of a requester. The request is checked whole before it enters
the queue. -/
def submit (now : Instant) (requester : ρ) (text : String) (metadata : Metadata)
    (s : Session ρ σ) : Except SessionError SubmitOutcome × Session ρ σ :=
  match s.halted with
  | some reason => (.error (.halted reason), s)
  | none =>
    match Address.parse text with
    | .error e => (.error (.invalidAddress e), s)
    | .ok address =>
      let entry := Entry.make requester address metadata
      match entry.frame with
      | .error e => (.error (.protocol e), s)
      | .ok frame =>
        match s.queue.push entry with
        | .error e => (.error e, s)
        | .ok queue =>
          let (outcome, s) := dispatch now requester text frame { s with queue }
          (.ok outcome, s)

/-- Starts to connect unless the session is halted, connecting or connected. -/
def connect (s : Session ρ σ) : Bool × Session ρ σ :=
  match s.halted with
  | some _ => (false, s)
  | none => s.openConnection

/-- Ends the connection on request. -/
def disconnect (s : Session ρ σ) : Session ρ σ :=
  s.linkLost

/-- Drops the lookups that wait for nothing, and says how many there were. -/
def purge (s : Session ρ σ) : Nat × Session ρ σ :=
  let queue := s.queue.purge
  (s.queue.entries.length - queue.entries.length, { s with queue })

/-- For how long the connection has been idle, if that is as long as the service allows and no
lookup is in flight. -/
def idleFor (now : Instant) (s : Session ρ σ) : Option Duration :=
  if s.connection.state ≠ .connected ∨ s.queue.hasSent then none
  else match s.info, s.connection.lastActivity with
    | some info, some since =>
      let idle := now.since since
      if info.peerTtl = 0 ∨ idle.nanos < (Duration.ofSeconds info.peerTtl.toNat).nanos then none
      else some idle
    | _, _ => none

/-- Ends a connection that has been idle for as long as the service allows; says whether it
did. -/
def sweepIdle (now : Instant) (s : Session ρ σ) : Bool × Session ρ σ :=
  match s.idleFor now with
  | some idle => (true, (s.note (.idle idle)).linkLost)
  | none => (false, s)

end Session

end CidrLookup
