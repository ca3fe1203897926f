import CidrLookup.Bytes
import CidrLookup.Endpoint
import CidrLookup.Session.Event
import CidrLookup.SessionError

/-!
# Links

The socket side of a connection, as a session sees it. A link starts connecting, takes frames and
lets go of its socket, all without waiting; how a connection attempt ends, and what arrives, is
reported later as an event.
-/

namespace CidrLookup

/-- What a session asks of a link with state `σ`. -/
class Link (σ : Type) where
  /-- Starts to connect. -/
  startConnect : Endpoint → σ → σ
  /-- Takes one frame for the open connection, or says why not. -/
  send : Bytes → σ → Except SessionError Unit × σ
  /-- Lets go of the socket, if there is one. -/
  close : σ → σ

/-- What came of looking for a signal. -/
inductive Arrival where
  /-- Something has happened on the connection. -/
  | event (event : Event)
  /-- A signal of an attempt that is no longer the current one. -/
  | stale (generation current : Nat)
  /-- No signal came. -/
  | quiet
deriving DecidableEq, Repr

end CidrLookup
