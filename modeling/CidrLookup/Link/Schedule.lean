import CidrLookup.Link.Socket
import CidrLookup.Network
import CidrLookup.Record.Reader

/-!
# Running the helpers

An order in which the helpers of a link get to work when nothing else goes on: attempt by attempt,
the oldest first, each until it has nothing to do or has to wait. Writes take all that is offered
and fail only on a closed stream.
-/

namespace CidrLookup

/-- The step of the reading helper that is due. -/
def Attempt.dueRead? (network : Network) (link : SocketLink) (a : Attempt) :
    Option SocketLink.Step :=
  match a.reader with
  | .connecting => some (.connect (network.dial a.endpoint))
  | .reporting _ => if link.hasRoom then some .reportRead else none
  | .reading =>
    match Record.decode link.settings.maxPayload a.buffer with
    | .ok none => if a.stream.isReadable then some (.read (Record.readSize - 1)) else none
    | _ => some (.read 0)
  | .finished => none

/-- The step of the writing helper that is due. -/
def Attempt.dueWrite? (link : SocketLink) (a : Attempt) : Option SocketLink.Step :=
  match a.writer with
  | .absent | .finished => none
  | .idle => if a.outbox.waiting.isEmpty && a.outboxOpen then none else some .takeFrame
  | .writing rest => some (.write (.takes rest.length))
  | .flushing => some (.flush none)
  | .reporting _ => if link.hasRoom then some .reportWrite else none
  | .hangingUp => some .hangUp

namespace SocketLink

/-- The step of an attempt that is due. -/
def due? (network : Network) (generation : Nat) (link : SocketLink) : Option Step :=
  (link.attempt? generation).bind fun a => (a.dueRead? network link).or (a.dueWrite? link)

/-- Runs the helpers of an attempt for at most `count` steps. -/
def runAttempt (network : Network) (generation : Nat) : (count : Nat) → SocketLink → SocketLink
  | 0, link => link
  | count + 1, link =>
    match link.due? network generation with
    | some step => runAttempt network generation count (link.step generation step)
    | none => link

/-- A bound on the steps that an attempt can take: each takes a byte or a frame further, or brings
a helper closer to its end. -/
def stepBound (a : Attempt) : Nat :=
  4 * (a.stream.inbound.waiting.length + a.buffer.length + a.outbox.waiting.length) + 16

/-- Runs every helper as far as it gets. -/
def run (network : Network) (link : SocketLink) : SocketLink :=
  link.attempts.foldl (fun link a => link.runAttempt network a.generation (stepBound a)) link

/-- Lets the read timeout of every helper run out that waits for bytes. -/
def readTimeouts (link : SocketLink) : SocketLink :=
  if link.settings.readTimeout.isNone then link
  else link.attempts.foldl
    (fun link a => link.step a.generation (.readFails .wouldBlock)) link

end SocketLink

end CidrLookup
