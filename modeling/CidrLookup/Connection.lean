import CidrLookup.Duration
import CidrLookup.Link
import CidrLookup.Session.Notice

/-!
# Connections

A link with its place in the life of a connection: disconnected, connecting, connected. Attempts
do not overlap, and frames are handed to the link only while connected. The time of the last
activity is that of the last frame the link took on this connection, or else of the connection
itself.
-/

namespace CidrLookup

/-- A link and where its connection stands. -/
structure Connection (σ : Type) where
  link : σ
  endpoint : Endpoint
  state : SocketState
  connectedAt : Option Instant
  lastSendAt : Option Instant
deriving Repr

namespace Connection

variable {σ : Type} [Link σ]

/-- A link that is not connected yet. -/
def new (link : σ) (endpoint : Endpoint) : Connection σ :=
  ⟨link, endpoint, .disconnected, none, none⟩

/-- Starts an attempt unless one is under way or has succeeded; says whether it did. -/
def connect (c : Connection σ) : Bool × Connection σ :=
  if c.state = .disconnected then
    (true, { c with state := .connecting, link := Link.startConnect c.endpoint c.link })
  else (false, c)

/-- Notes that the attempt has succeeded. -/
def markConnected (now : Instant) (c : Connection σ) : Connection σ :=
  { c with state := .connected, connectedAt := some now, lastSendAt := none }

/-- Hands a frame to the link. -/
def send (now : Instant) (frame : Bytes) (c : Connection σ) :
    Except SessionError Unit × Connection σ :=
  if c.state = .connected then
    match Link.send frame c.link with
    | (.ok (), link) => (.ok (), { c with link, lastSendAt := some now })
    | (.error e, link) => (.error e, { c with link })
  else (.error .notConnected, c)

/-- Closes the link, whatever the state. -/
def disconnect (c : Connection σ) : Connection σ :=
  { c with link := Link.close c.link, state := .disconnected, connectedAt := none,
           lastSendAt := none }

/-- When something happened last on this connection. -/
def lastActivity (c : Connection σ) : Option Instant :=
  c.lastSendAt.or c.connectedAt

/-- A connection in one line; the times are shown by whether there are any. -/
def format (c : Connection σ) : String :=
  let time (t : Option Instant) := t.elim "None" fun _ => "Some(_)"
  let label := match c.state with
    | .disconnected => "Disconnected"
    | .connecting => "Connecting"
    | .connected => "Connected"
  "Connection \x7b endpoint: Endpoint \x7b host: " ++ Text.quoted c.endpoint.host ++ ", port: " ++
    toString c.endpoint.port ++ " \x7d, state: " ++ label ++ ", connected_at: " ++
    time c.connectedAt ++ ", last_request_at: " ++ time c.lastSendAt ++ " \x7d"

end Connection

end CidrLookup
